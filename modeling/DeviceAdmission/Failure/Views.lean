import DeviceAdmission.Failure.Basic
import DeviceAdmission.Json.Printer
import DeviceAdmission.Text.Diagnostic
import DeviceAdmission.Wire.FromJson
import DeviceAdmission.Wire.Labelled

/-!
# Views of a failure

The public view holds what a caller may see and the audit view what goes into logs. The wire form
holds everything; a document whose code is not in the register is no failure.
-/
namespace DeviceAdmission.Failure

open Wire (Shape Fields Form Labelled)

/-- What a caller may see. -/
structure PublicView where
  code : CodeName
  message : String
  correlationId : Option String
  deriving DecidableEq, Repr

def toPublic (f : Failure) : PublicView := ⟨f.code, f.messageUser, f.correlationId⟩

/-- An optional text as a member that is left out without a value. -/
def optionalMember (key : String) (value : Option String) : List (String × Json) :=
  (value.map fun v => (key, Json.text v)).toList

def PublicView.toJson (v : PublicView) : Json :=
  .object ([("code", .text v.code.name), ("message", .text v.message)] ++
    optionalMember "correlation_id" v.correlationId)

/-- What goes into logs. -/
structure AuditView where
  code : CodeName
  kind : Kind
  grpcStatus : Int32
  retryable : Retry
  severity : Severity
  message : String
  messageDev : Option String
  notes : List (String × Json)

def toAudit (f : Failure) : AuditView :=
  ⟨f.code, f.kind, f.grpcStatus, f.retryable, f.severity, f.messageUser, f.messageDev, f.notes⟩

def AuditView.toJson (v : AuditView) : Json :=
  .object ([("code", .text v.code.name), ("kind", .text v.kind.name),
      ("grpc_status", .ofInt v.grpcStatus.toInt), ("retryable", .text v.retryable.name),
      ("severity", .text v.severity.name), ("message", .text v.message)] ++
    optionalMember "message_dev" v.messageDev ++ [("meta", .object v.notes)])

open Text (Diagnostic.record Diagnostic.option Diagnostic.wrapped Quoted.text)

def AuditView.diagnostic (v : AuditView) : String :=
  Diagnostic.record "AuditErrorView"
    [("code", Quoted.text v.code.name), ("kind", Quoted.text v.kind.name),
      ("grpc_status", toString v.grpcStatus.toInt),
      ("retryable", Quoted.text v.retryable.name), ("severity", Quoted.text v.severity.name),
      ("message", Quoted.text v.message),
      ("message_dev", Diagnostic.option (v.messageDev.map Quoted.text)),
      ("meta", Json.diagnosticMembers v.notes)]

/-! ## Wire form -/

/-- The name in documents. -/
def Retry.label : Retry → String
  | .never => "Never"
  | .transient => "Transient"

/-- The name in documents. -/
def Severity.label : Severity → String
  | .info => "Info"
  | .warn => "Warn"
  | .critical => "Critical"

def kinds : Labelled Kind where
  values := [.auth, .request, .call, .unknown]
  label := Kind.name
  complete kind := by cases kind <;> decide

def retries : Labelled Retry where
  values := [.never, .transient]
  label := Retry.label
  complete retry := by cases retry <;> decide

def severities : Labelled Severity where
  values := [.info, .warn, .critical]
  label := Severity.label
  complete severity := by cases severity <;> decide

def fields : Fields :=
  .required "code" (.registered Code.names "unregistered error code: ") <|
  .required "kind" (.choice kinds.labels) <|
  .required "message_user" .text <|
  .optional "message_dev" false .text <|
  .required "http_status" (.whole .unsigned16) <|
  .required "grpc_status" (.whole .signed32) <|
  .required "retryable" (.choice retries.labels) <|
  .required "severity" (.choice severities.labels) <|
  .defaulted "meta" .table <|
  .optional "correlation_id" false .text <|
  .done

/-- The wire form of a failure; the notes may be left out and are then empty. -/
def form : Form Failure where
  shape := .record "ErrorObj" false fields
  toCarrier f :=
    (f.code.name, kinds.toIndex f.kind, f.messageUser, f.messageDev, f.httpStatus, f.grpcStatus,
      retries.toIndex f.retryable, severities.toIndex f.severity, some f.notes, f.correlationId, ())
  ofCarrier := fun (code, kind, messageUser, messageDev, httpStatus, grpcStatus, retryable,
      severity, notes, correlationId, _) =>
    { code := ⟨code⟩, kind := kinds.ofIndex kind, messageUser, messageDev, httpStatus, grpcStatus,
      retryable := retries.ofIndex retryable, severity := severities.ofIndex severity,
      notes := notes.getD [], correlationId }

def toJson (f : Failure) : Json := form.encode f

def parse (text : String) : Except Wire.ReadError Failure := form.parse text

/-- The diagnostic text of all fields. -/
def diagnostic (f : Failure) : String :=
  Diagnostic.record "ErrorObj"
    [("code", Diagnostic.wrapped "ErrorCode" (Quoted.text f.code.name)), ("kind", f.kind.name),
      ("message_user", Quoted.text f.messageUser),
      ("message_dev", Diagnostic.option (f.messageDev.map Quoted.text)),
      ("http_status", toString f.httpStatus.toNat),
      ("grpc_status", toString f.grpcStatus.toInt),
      ("retryable", f.retryable.label), ("severity", f.severity.label),
      ("meta", Json.diagnosticMembers f.notes),
      ("correlation_id", Diagnostic.option (f.correlationId.map Quoted.text))]

end DeviceAdmission.Failure
