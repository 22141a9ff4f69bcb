import DeviceAdmission.Text.Blank

/-!
# What trimming leaves of a text

`trimBlank` drops blanks from both ends of a text. `Trims` says what is left without the dropping: the
one part of the text with blanks alone around it and no blank at either of its ends.

* `trims_iff`: the two are the same.
-/
namespace DeviceAdmission.Text

/-- What is left of a text without the blanks around it. -/
structure Trims (text core : String) : Prop where
  split : ∃ before after, text.toList = before ++ core.toList ++ after ∧
    (∀ c ∈ before, isBlank c = true) ∧ ∀ c ∈ after, isBlank c = true
  front : ∀ c ∈ core.toList.head?, isBlank c = false
  back : ∀ c ∈ core.toList.getLast?, isBlank c = false

section

variable {α : Type} {p : α → Bool} {l : List α}

theorem not_of_head?_dropWhile {c : α} (first : c ∈ (l.dropWhile p).head?) : p c = false := by
  have stops := List.head?_dropWhile_not p l
  rwa [Option.mem_def.1 first] at stops

theorem dropWhile_of_head? (stops : ∀ c ∈ l.head?, p c = false) : l.dropWhile p = l := by
  cases l with
  | nil => rfl
  | cons c rest =>
    have first : ¬ p c = true := by
      rw [stops c rfl]
      exact Bool.false_ne_true
    exact List.dropWhile_cons_of_neg first

end

theorem trimBlank_trims (text : String) : Trims text (trimBlank text) := by
  let rest := text.toList.dropWhile isBlank
  have core : (trimBlank text).toList = (rest.reverse.dropWhile isBlank).reverse :=
    String.toList_ofList
  have back : rest = (trimBlank text).toList ++ (rest.reverse.takeWhile isBlank).reverse := by
    rw [core, ← List.reverse_append, List.takeWhile_append_dropWhile, List.reverse_reverse]
  constructor
  · refine ⟨text.toList.takeWhile isBlank, (rest.reverse.takeWhile isBlank).reverse, ?_, ?_, ?_⟩
    · rw [List.append_assoc, ← back, List.takeWhile_append_dropWhile]
    · exact fun c member => List.all_eq_true.1 List.all_takeWhile c member
    · exact fun c member => List.all_eq_true.1 List.all_takeWhile c (List.mem_reverse.1 member)
  · -- the core is the front of what the first blanks leave
    intro c first
    have kept : c ∈ rest.head? := by
      rw [back, List.head?_append, Option.mem_def.1 first]
      rfl
    exact not_of_head?_dropWhile kept
  · intro c last
    rw [core, List.getLast?_reverse] at last
    exact not_of_head?_dropWhile last

/-- Dropping blanks leaves the core of a text, and nothing else is one. -/
theorem trims_iff (text core : String) : Trims text core ↔ core = trimBlank text := by
  refine ⟨fun trims => ?_, fun same => same ▸ trimBlank_trims text⟩
  obtain ⟨⟨before, after, split, blank, blank'⟩, front, back⟩ := trims
  unfold trimBlank
  rw [split, List.append_assoc, List.dropWhile_append_of_pos blank]
  cases spelled : core.toList with
  | nil =>
    have gone : after.dropWhile isBlank = [] := by
      have dropped : (after ++ []).dropWhile isBlank = [] := List.dropWhile_append_of_pos blank'
      rwa [List.append_nil] at dropped
    rw [List.nil_append, gone]
    exact String.toList_eq_nil_iff.1 spelled
  | cons c cs =>
    rw [spelled] at front back
    have stays : (c :: cs ++ after).dropWhile isBlank = c :: cs ++ after :=
      dropWhile_of_head? front
    have ends : (c :: cs).reverse.dropWhile isBlank = (c :: cs).reverse := by
      refine dropWhile_of_head? fun d last => back d ?_
      rwa [List.head?_reverse] at last
    rw [stays, List.reverse_append,
      List.dropWhile_append_of_pos fun d member => blank' d (List.mem_reverse.1 member), ends,
      List.reverse_reverse, ← spelled, String.ofList_toList]

end DeviceAdmission.Text
