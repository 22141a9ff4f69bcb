import DeviceAdmission.Failure.Views
import DeviceAdmission.Proofs.Json.Diagnostic

/-!
# What an audit record tells of a failure

The audit view of a failure goes into a log as one line of text. The line tells the view: whoever
reads it knows the code, the status, the classes, both messages and the notes of the failure, of the
fractions among the notes how they are written.

* `diagnostic_eq_auditText`: the line, spelled out.
* `auditText_alike`: views with the same line are alike.
-/
namespace DeviceAdmission

open Text.Quoted (text_append_inj)

/-- A whole number is told with its end by the comma behind it. -/
theorem Json.toString_append_inj {m n : Int} {u v : List Char}
    (same : (toString m).toList ++ (",".toList ++ u) = (toString n).toList ++ (",".toList ++ v)) :
    m = n ∧ u = v := by
  have other (k : Int) : ',' ∉ (toString k).toList := by
    intro member
    rcases mem_render_whole (n := k) member with comma | digit
    · exact absurd comma (by decide)
    · exact absurd digit (by decide)
  obtain ⟨text, rest⟩ := Text.split_inj (other m) (other n) same
  exact ⟨toString_int_inj (String.toList_inj.1 text), rest⟩

namespace Failure

theorem CodeName.ext_name {code other : CodeName} (same : code.name = other.name) : code = other := by
  cases code
  cases other
  cases same
  rfl

theorem Kind.name_inj {kind other : Kind} (same : kind.name = other.name) : kind = other := by
  revert same
  cases kind <;> cases other <;> decide

theorem Retry.name_inj {retry other : Retry} (same : retry.name = other.name) : retry = other := by
  revert same
  cases retry <;> cases other <;> decide

theorem Severity.name_inj {severity other : Severity} (same : severity.name = other.name) :
    severity = other := by
  revert same
  cases severity <;> cases other <;> decide

/-- A text that may be missing, as a line shows it. -/
def optionalText : Option String → String
  | none => "None"
  | some text => "Some(" ++ Text.Quoted.text text ++ ")"

theorem optionalText_append_inj {text other : Option String} {u v : List Char}
    (same : (optionalText text).toList ++ u = (optionalText other).toList ++ v) :
    text = other ∧ u = v := by
  cases text with
  | none =>
    cases other with
    | none => exact ⟨rfl, List.append_cancel_left same⟩
    | some t => simp [optionalText] at same
  | some s =>
    cases other with
    | none => simp [optionalText] at same
    | some t =>
      have inside : (Text.Quoted.text s).toList ++ ')' :: u =
          (Text.Quoted.text t).toList ++ ')' :: v := by
        simpa [optionalText] using same
      obtain ⟨rfl, rest⟩ := text_append_inj inside
      exact ⟨rfl, (List.cons.inj rest).2⟩

namespace AuditView

/-- The line that a log holds of a failure. -/
def auditText (v : AuditView) : String :=
  "AuditErrorView \x7b code: " ++ Text.Quoted.text v.code.name ++
    ", kind: " ++ Text.Quoted.text v.kind.name ++
    ", grpc_status: " ++ toString v.grpcStatus.toInt ++
    ", retryable: " ++ Text.Quoted.text v.retryable.name ++
    ", severity: " ++ Text.Quoted.text v.severity.name ++
    ", message: " ++ Text.Quoted.text v.message ++
    ", message_dev: " ++ optionalText v.messageDev ++
    ", meta: " ++ Json.diagnosticMembers v.notes ++ " \x7d"

theorem diagnostic_eq_auditText (v : AuditView) : v.diagnostic = v.auditText := by
  have optional : Text.Diagnostic.option (v.messageDev.map Text.Quoted.text) =
      optionalText v.messageDev := by
    cases v.messageDev <;> rfl
  unfold diagnostic auditText Text.Diagnostic.record
  rw [← String.toList_inj]
  simp [optional, String.intercalate_cons_cons, String.intercalate_singleton]

/-- Views that are the same but for fractions among the notes, which are written alike. -/
structure Alike (v w : AuditView) : Prop where
  code : v.code = w.code
  kind : v.kind = w.kind
  grpcStatus : v.grpcStatus = w.grpcStatus
  retryable : v.retryable = w.retryable
  severity : v.severity = w.severity
  message : v.message = w.message
  messageDev : v.messageDev = w.messageDev
  notes : Json.Alike (.object v.notes) (.object w.notes)

/-- Views with the same line are alike. -/
theorem auditText_alike {v w : AuditView} (same : v.auditText = w.auditText) : v.Alike w := by
  have comma : ", retryable: " = "," ++ " retryable: " := rfl
  unfold auditText at same
  have chars := congrArg String.toList same
  simp only [comma, String.toList_append, List.append_assoc] at chars
  obtain ⟨code, chars⟩ := text_append_inj (List.append_cancel_left chars)
  obtain ⟨kind, chars⟩ := text_append_inj (List.append_cancel_left chars)
  obtain ⟨grpcStatus, chars⟩ := Json.toString_append_inj (List.append_cancel_left chars)
  obtain ⟨retryable, chars⟩ := text_append_inj (List.append_cancel_left chars)
  obtain ⟨severity, chars⟩ := text_append_inj (List.append_cancel_left chars)
  obtain ⟨message, chars⟩ := text_append_inj (List.append_cancel_left chars)
  obtain ⟨messageDev, chars⟩ := optionalText_append_inj (List.append_cancel_left chars)
  obtain ⟨notes, -⟩ := Json.diagnosticMembers_append_alike (List.append_cancel_left chars)
  exact ⟨CodeName.ext_name code, Kind.name_inj kind, Int32.toInt_inj.1 grpcStatus,
    Retry.name_inj retryable, Severity.name_inj severity, message, messageDev, notes⟩

end AuditView

end Failure

end DeviceAdmission
