import DeviceAdmission.Message.Types
import DeviceAdmission.Wire.FromJson
import DeviceAdmission.Wire.Labelled

/-!
# Wire forms of the fleet messages

Field names, which fields may be left out, and the labels of the enrolment status.
-/
namespace DeviceAdmission.Message

open Wire (Shape Fields Form Labelled)

def EnrollRequest.form : Form EnrollRequest where
  shape := .record "EnrollRequest" false <|
    .required "device_id" .text <| .defaulted "csr" .text <|
    .defaulted "labels" (.list .text) .done
  toCarrier m := (m.deviceId, some m.csr, some m.labels, ())
  ofCarrier := fun (deviceId, csr, labels, _) => ⟨deviceId, csr.getD "", labels.getD []⟩

def EnrollStatus.label : EnrollStatus → String
  | .unspecified => "unspecified"
  | .accepted => "accepted"
  | .pending => "pending"
  | .refused => "refused"

def EnrollStatus.all : Labelled EnrollStatus where
  values := [.unspecified, .accepted, .pending, .refused]
  label := EnrollStatus.label
  complete status := by cases status <;> decide

def EnrollResponse.form : Form EnrollResponse where
  shape := .record "EnrollResponse" false <|
    .required "status" (.choice EnrollStatus.all.labels) <|
    .optional "certificate_pem" true .text .done
  toCarrier m := (EnrollStatus.all.toIndex m.status, m.certificatePem, ())
  ofCarrier := fun (status, certificatePem, _) => ⟨EnrollStatus.all.ofIndex status, certificatePem⟩

def ConfigRequest.form : Form ConfigRequest where
  shape := .record "ConfigRequest" false <|
    .required "device_id" .text <| .defaulted "known_revision" (.whole .unsigned64) .done
  toCarrier m := (m.deviceId, some m.knownRevision, ())
  ofCarrier := fun (deviceId, knownRevision, _) => ⟨deviceId, knownRevision.getD (0 : UInt64)⟩

def ConfigResponse.form : Form ConfigResponse where
  shape := .record "ConfigResponse" false <|
    .defaulted "revision" (.whole .unsigned64) <| .defaulted "document" .text .done
  toCarrier m := (some m.revision, some m.document, ())
  ofCarrier := fun (revision, document, _) => ⟨revision.getD (0 : UInt64), document.getD ""⟩

def RegisterRequest.form : Form RegisterRequest where
  shape := .record "RegisterRequest" false <|
    .required "device_id" .text <| .defaulted "hardware_model" .text <|
    .defaulted "firmware_version" .text .done
  toCarrier m := (m.deviceId, some m.hardwareModel, some m.firmwareVersion, ())
  ofCarrier := fun (deviceId, hardwareModel, firmwareVersion, _) =>
    ⟨deviceId, hardwareModel.getD "", firmwareVersion.getD ""⟩

def RegisterResponse.form : Form RegisterResponse where
  shape := .record "RegisterResponse" false <|
    .required "registered" .flag <| .optional "fleet_id" true .text .done
  toCarrier m := (m.registered, m.fleetId, ())
  ofCarrier := fun (registered, fleetId, _) => ⟨registered, fleetId⟩

def HeartbeatReport.form : Form HeartbeatReport where
  shape := .record "HeartbeatReport" false <|
    .required "device_id" .text <| .defaulted "uptime_secs" (.whole .unsigned64) <|
    .defaulted "healthy" .flag .done
  toCarrier m := (m.deviceId, some m.uptimeSecs, some m.healthy, ())
  ofCarrier := fun (deviceId, uptimeSecs, healthy, _) =>
    ⟨deviceId, uptimeSecs.getD (0 : UInt64), healthy.getD false⟩

def HeartbeatAck.form : Form HeartbeatAck where
  shape := .record "HeartbeatAck" false .done
  toCarrier _ := ()
  ofCarrier _ := {}

def ListDevicesRequest.form : Form ListDevicesRequest where
  shape := .record "ListDevicesRequest" false <|
    .defaulted "page_size" (.whole .unsigned32) <| .defaulted "page_token" .text .done
  toCarrier m := (some m.pageSize, some m.pageToken, ())
  ofCarrier := fun (pageSize, pageToken, _) => ⟨pageSize.getD (0 : UInt32), pageToken.getD ""⟩

def ListDevicesResponse.form : Form ListDevicesResponse where
  shape := .record "ListDevicesResponse" false <|
    .required "device_ids" (.list .text) <| .defaulted "next_page_token" .text .done
  toCarrier m := (m.deviceIds, some m.nextPageToken, ())
  ofCarrier := fun (deviceIds, nextPageToken, _) => ⟨deviceIds, nextPageToken.getD ""⟩

/-- A bare text. -/
def textForm : Form String where
  shape := .text
  toCarrier := id
  ofCarrier := id

end DeviceAdmission.Message
