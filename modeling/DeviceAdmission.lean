import DeviceAdmission.Delegate.CommonName
import DeviceAdmission.Delegate.Pinned
import DeviceAdmission.Files.Directory
import DeviceAdmission.Gate.Journal
import DeviceAdmission.Gate.Standard
import DeviceAdmission.Main
import DeviceAdmission.Proofs.Gate.Race
import DeviceAdmission.Proofs.Gate.Passage
import DeviceAdmission.Proofs.DeviceId.Fleet
import DeviceAdmission.Proofs.Gate.FrontEnds
import DeviceAdmission.Proofs.Delegate.Pinned
import DeviceAdmission.Proofs.Gate.Admission
import DeviceAdmission.Proofs.Gate.PinHistory
import DeviceAdmission.Proofs.Gate.Deadline
import DeviceAdmission.Proofs.Gate.Disclosure
import DeviceAdmission.Proofs.DeviceId.Policy
import DeviceAdmission.Proofs.Gate.ClaimedIds
import DeviceAdmission.Proofs.Gate.Transports
import DeviceAdmission.Proofs.Gate.Polling
import DeviceAdmission.Proofs.Gate.Composition
import DeviceAdmission.Proofs.Gate.StatusCodes
import DeviceAdmission.Proofs.Gate.Statuses
import DeviceAdmission.Proofs.Gate.Warnings
import DeviceAdmission.Proofs.DeviceId.Registrations
import DeviceAdmission.Proofs.Gate.Rejections
import DeviceAdmission.Proofs.Wire.Forms
import DeviceAdmission.Proofs.Config.Saved
import DeviceAdmission.Proofs.DeviceId.Tightening
import DeviceAdmission.Proofs.Call.Timeouts
import DeviceAdmission.Proofs.Config.Loading
import DeviceAdmission.Proofs.Certificate.Fingerprints
import DeviceAdmission.Proofs.Delegate.CommonName
import DeviceAdmission.Proofs.CommandLine.Inspection
import DeviceAdmission.Proofs.CommandLine.Prediction
