import Mathlib.Data.List.Forall2
import DeviceAdmission.Json.Printer
import DeviceAdmission.Proofs.Json.Numbers
import DeviceAdmission.Proofs.Text.Quoted

/-!
# What the diagnostic text of a value tells

The diagnostic text of a value tells the value and its end, down to its fractions, of which it tells
how they are written (`Alike`). The proof follows the text: its first letters tell the kind of the
value, texts and keys end at their quotes, and numbers, items and members at the bracket behind them.

* `render_alike`: the text of a number.
* `diagnostic_append_alike`, `entries_append_alike`: the text of a value and of the members of one.
-/
namespace DeviceAdmission.Json

open Text (split_inj toDigits_inj)
open Text.Quoted (text_append_inj)

/-! ## Values that are written alike -/

/-- Values that are the same but for fractions, which are written alike. -/
inductive Alike : Json → Json → Prop where
  | null : Alike .null .null
  | bool (b : Bool) : Alike (.bool b) (.bool b)
  | whole (n : Int) : Alike (.number (.whole n)) (.number (.whole n))
  | fraction {x y : Decimal.Binary64} (written : layout.text x = layout.text y) :
      Alike (.number (.fraction x)) (.number (.fraction y))
  | text (s : String) : Alike (.text s) (.text s)
  | array {vs ws : List Json} (each : List.Forall₂ Alike vs ws) : Alike (.array vs) (.array ws)
  | object {vs ws : List (String × Json)} (keys : vs.map (·.1) = ws.map (·.1))
      (values : List.Forall₂ Alike (vs.map (·.2)) (ws.map (·.2))) :
      Alike (.object vs) (.object ws)

/-! ## Numbers -/

theorem isDigit_of_mem_toDigits {c : Char} {n : Nat} (member : c ∈ Nat.toDigits 10 n) :
    c.isDigit = true :=
  (areDigits_toDigits n).2 c member

theorem toString_int_inj {m n : Int} (same : toString m = toString n) : m = n := by
  have unsigned (k : Nat) (rest : List Char) : Nat.toDigits 10 k ≠ '-' :: rest := fun front =>
    absurd (isDigit_of_mem_toDigits (front ▸ List.mem_cons_self)) (by decide)
  have size (digits : Nat.toDigits 10 m.natAbs = Nat.toDigits 10 n.natAbs) : m.natAbs = n.natAbs :=
    toDigits_inj (by decide) (by decide) digits
  have chars := congrArg String.toList same
  rw [toList_toString_int, toList_toString_int] at chars
  by_cases minus : m < 0 <;> by_cases minus' : n < 0
  · rw [if_pos minus, if_pos minus'] at chars
    have same := size (List.append_cancel_left chars)
    omega
  · rw [if_pos minus, if_neg minus'] at chars
    exact absurd chars.symm (unsigned _ _)
  · rw [if_neg minus, if_pos minus'] at chars
    exact absurd chars (unsigned _ _)
  · rw [if_neg minus, if_neg minus'] at chars
    have same := size (List.append_cancel_left chars)
    omega

theorem mem_render_whole {c : Char} {n : Int} (member : c ∈ (Number.whole n).render.toList) :
    c = '-' ∨ c.isDigit = true := by
  rw [Number.render, toList_toString_int] at member
  rcases List.mem_append.1 member with member | member
  · split at member
    · exact .inl (List.mem_singleton.1 member)
    · cases member
  · exact .inr (isDigit_of_mem_toDigits member)

/-- A whole number is not written as a fraction is. -/
theorem whole_ne_fraction (n : Int) (x : Decimal.Binary64) :
    (Number.whole n).render ≠ (Number.fraction x).render := by
  intro same
  obtain ⟨m, -, marked, text⟩ := exists_numeral_of_fraction x
  have foreign (c : Char) (mark : c = '.' ∨ c = 'e') : c ∉ m.chars := by
    intro member
    have within : c ∈ (Number.whole n).render.toList := by
      rw [same, Number.render, text]
      exact List.mem_append_right _ member
    rcases mem_render_whole within with rfl | digit
    · exact absurd mark (by decide)
    · rcases mark with rfl | rfl <;> exact absurd digit (by decide)
  rcases marked with point | mark
  · obtain ⟨ds, places⟩ := Option.isSome_iff_exists.1 point
    exact foreign '.' (.inl rfl) (by simp [Numeral.chars, Numeral.afterPoint, places])
  · obtain ⟨e, exponent⟩ := Option.isSome_iff_exists.1 mark
    exact foreign 'e' (.inr rfl) (by simp [Numeral.chars, Numeral.afterMark, exponent])

theorem render_alike {m n : Number} (same : m.render = n.render) :
    Alike (.number m) (.number n) := by
  cases m with
  | whole k =>
    cases n with
    | whole l =>
      obtain rfl := toString_int_inj same
      exact .whole k
    | fraction x => exact absurd same (whole_ne_fraction k x)
  | fraction x =>
    cases n with
    | whole l => exact absurd same.symm (whole_ne_fraction l x)
    | fraction y => exact .fraction same

theorem paren_not_mem_render (n : Number) : ')' ∉ n.render.toList := by
  obtain ⟨negative, m, spells⟩ := exists_spells n
  rw [spells.text, List.mem_append, not_or]
  refine ⟨by cases negative <;> decide, fun member => ?_⟩
  have other : ∀ c ∈ m.chars, c ≠ ')' :=
    spells.valid.forall_mem (fun c digit same => absurd (same ▸ digit) (by decide)) (by simp)
  exact other _ member rfl

/-! ## Lists with commas -/

/-- Words with a comma and a blank between them. -/
def separated : List (List Char) → List Char
  | [] => []
  | [w] => w
  | w :: rest => w ++ ',' :: ' ' :: separated rest

/-- What stands behind the first of some words. -/
def behind : List (List Char) → List Char
  | [] => []
  | rest => ',' :: ' ' :: separated rest

theorem separated_cons (w : List Char) (rest : List (List Char)) :
    separated (w :: rest) = w ++ behind rest := by
  cases rest with
  | nil => exact (List.append_nil w).symm
  | cons x rest => rfl

/-- If each word is told with its end, and none begins as the bracket behind the list does, the list
is told with its end. -/
theorem separated_append_inj {α : Type} {f : α → List Char} {r : α → α → Prop} {bracket : Char}
    {vs ws : List α} {before after : List Char} (comma : bracket ≠ ',')
    (unclosed : ∀ v u, (f v ++ u).head? ≠ some bracket)
    (told : ∀ v ∈ vs, ∀ w u u', f v ++ u = f w ++ u' → r v w ∧ u = u')
    (same : separated (vs.map f) ++ bracket :: before = separated (ws.map f) ++ bracket :: after) :
    List.Forall₂ r vs ws ∧ before = after := by
  induction vs generalizing ws with
  | nil =>
    cases ws with
    | nil => exact ⟨.nil, (List.cons.inj same).2⟩
    | cons w ws =>
      rw [List.map_cons, separated_cons, List.append_assoc] at same
      exact absurd (congrArg List.head? same).symm (unclosed w _)
  | cons v vs ih =>
    cases ws with
    | nil =>
      rw [List.map_cons, separated_cons, List.append_assoc] at same
      exact absurd (congrArg List.head? same) (unclosed v _)
    | cons w ws =>
      rw [List.map_cons, List.map_cons, separated_cons, separated_cons, List.append_assoc,
        List.append_assoc] at same
      obtain ⟨own, same⟩ := told v List.mem_cons_self w _ _ same
      cases vs with
      | nil =>
        cases ws with
        | nil => exact ⟨.cons own .nil, (List.cons.inj same).2⟩
        | cons x ws => exact absurd (List.cons.inj same).1 comma
      | cons x vs =>
        cases ws with
        | nil => exact absurd (List.cons.inj same).1.symm comma
        | cons y ws =>
          obtain ⟨later, rest⟩ := ih (fun v member => told v (List.mem_cons_of_mem _ member))
            (List.cons.inj (List.cons.inj same).2).2
          exact ⟨.cons own later, rest⟩

/-! ## Values -/

/-- A member of an object. -/
def entry (member : String × Json) : List Char :=
  (Text.Quoted.text member.1).toList ++ ':' :: ' ' :: (diagnostic member.2).toList

theorem toList_diagnosticItems (vs : List Json) :
    (diagnosticItems vs).toList = separated (vs.map fun v => (diagnostic v).toList) := by
  induction vs with
  | nil => rfl
  | cons v vs ih =>
    cases vs with
    | nil => rfl
    | cons w vs => simp [diagnosticItems, ih, separated]

theorem toList_diagnosticEntries (vs : List (String × Json)) :
    (diagnosticEntries vs).toList = separated (vs.map entry) := by
  induction vs with
  | nil => rfl
  | cons v vs ih =>
    cases vs with
    | nil => simp [diagnosticEntries, separated, entry]
    | cons w vs => simp [diagnosticEntries, ih, separated, entry]

theorem entry_append (member : String × Json) (u : List Char) : entry member ++ u =
    (Text.Quoted.text member.1).toList ++ ':' :: ' ' :: ((diagnostic member.2).toList ++ u) := by
  simp [entry]

theorem entry_open (member : String × Json) (u : List Char) :
    (entry member ++ u).head? ≠ some '\x7d' := by
  obtain ⟨w, -, spelled⟩ := Text.Quoted.exists_spells member.1
  rw [entry_append, spelled]
  simp

/-- A member is told with its end if its value is. -/
theorem entry_append_alike {m n : String × Json} {u u' : List Char}
    (told : ∀ w {u u' : List Char}, (diagnostic m.2).toList ++ u = (diagnostic w).toList ++ u' →
      Alike m.2 w ∧ u = u')
    (same : entry m ++ u = entry n ++ u') : (m.1 = n.1 ∧ Alike m.2 n.2) ∧ u = u' := by
  rw [entry_append, entry_append] at same
  obtain ⟨key, same⟩ := text_append_inj same
  obtain ⟨value, rest⟩ := told n.2 (List.cons.inj (List.cons.inj same).2).2
  exact ⟨⟨key, value⟩, rest⟩

theorem alike_object {vs ws : List (String × Json)}
    (each : List.Forall₂ (fun m n => m.1 = n.1 ∧ Alike m.2 n.2) vs ws) :
    Alike (.object vs) (.object ws) := by
  have parts : vs.map (·.1) = ws.map (·.1) ∧
      List.Forall₂ Alike (vs.map (·.2)) (ws.map (·.2)) := by
    induction each with
    | nil => exact ⟨rfl, .nil⟩
    | cons own later ih =>
      exact ⟨List.cons_eq_cons.2 ⟨own.1, ih.1⟩, .cons own.2 ih.2⟩
  exact .object parts.1 parts.2

/-- The text of a value tells the value and its end. -/
theorem diagnostic_append_alike (v w : Json) {before after : List Char}
    (same : (diagnostic v).toList ++ before = (diagnostic w).toList ++ after) :
    Alike v w ∧ before = after := by
  cases v with
  | null =>
    cases w with
    | null => exact ⟨.null, by simpa [diagnostic] using same⟩
    | bool | number | text | array | object => simp [diagnostic] at same
  | bool b =>
    cases w with
    | bool c => cases b <;> cases c <;> simp [diagnostic, Alike.bool] at same ⊢ <;> exact same
    | null | number | text | array | object => simp [diagnostic] at same
  | number m =>
    cases w with
    | number n =>
      have inside : m.render.toList ++ ')' :: before = n.render.toList ++ ')' :: after := by
        simpa [diagnostic] using same
      obtain ⟨written, rest⟩ :=
        split_inj (paren_not_mem_render m) (paren_not_mem_render n) inside
      exact ⟨render_alike (String.toList_inj.1 written), rest⟩
    | null | bool | text | array | object => simp [diagnostic] at same
  | text s =>
    cases w with
    | text t =>
      have inside : (Text.Quoted.text s).toList ++ ')' :: before =
          (Text.Quoted.text t).toList ++ ')' :: after := by
        simpa [diagnostic] using same
      obtain ⟨rfl, rest⟩ := text_append_inj inside
      exact ⟨.text s, (List.cons.inj rest).2⟩
    | null | bool | number | array | object => simp [diagnostic] at same
  | array vs =>
    cases w with
    | array ws =>
      have inside : separated (vs.map fun v => (diagnostic v).toList) ++ ']' :: before =
          separated (ws.map fun v => (diagnostic v).toList) ++ ']' :: after := by
        simpa [diagnostic, toList_diagnosticItems] using same
      obtain ⟨each, rest⟩ := separated_append_inj (by decide)
        (fun v u => by cases v <;> simp [diagnostic])
        (fun v member w _ _ told => diagnostic_append_alike v w told) inside
      exact ⟨.array each, rest⟩
    | null | bool | number | text | object => simp [diagnostic] at same
  | object vs =>
    cases w with
    | object ws =>
      have inside : separated (vs.map entry) ++ '\x7d' :: before =
          separated (ws.map entry) ++ '\x7d' :: after := by
        simpa [diagnostic, toList_diagnosticEntries] using same
      obtain ⟨each, rest⟩ := separated_append_inj (by decide) entry_open
        (fun v member w _ _ told => entry_append_alike (diagnostic_append_alike v.2) told) inside
      exact ⟨alike_object each, rest⟩
    | null | bool | number | text | array => simp [diagnostic] at same
termination_by v
decreasing_by
  · subst_vars
    have inside := List.sizeOf_lt_of_mem member
    simp only [array.sizeOf_spec]
    omega
  · subst_vars
    have inside := List.sizeOf_lt_of_mem member
    have value : sizeOf v.2 < sizeOf v := by
      cases v
      simp only [Prod.mk.sizeOf_spec]
      omega
    simp only [object.sizeOf_spec]
    omega

/-- The text of some members tells them, as far as the brace behind it. -/
theorem diagnosticMembers_append_alike {vs ws : List (String × Json)} {before after : List Char}
    (same : (diagnosticMembers vs).toList ++ before = (diagnosticMembers ws).toList ++ after) :
    Alike (.object vs) (.object ws) ∧ before = after := by
  refine diagnostic_append_alike (.object vs) (.object ws) ?_
  simpa [diagnostic, diagnosticMembers] using same

end DeviceAdmission.Json
