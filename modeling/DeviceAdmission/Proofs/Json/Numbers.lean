import DeviceAdmission.Json.Document
import DeviceAdmission.Proofs.Decimal.Digits
import DeviceAdmission.Proofs.Json.Octets
import Mathlib.Tactic.SplitIfs

/-!
# Written numbers are read to their end

Every number is written as a numeral: whole digits without a superfluous zero, perhaps digits after a
point, perhaps a signed exponent. A numeral that nothing continues is taken as one token, and a whole
number in range comes out of it exactly; what a fraction comes out as depends on rounding and is left
open here.
-/
namespace DeviceAdmission.Json

open Decimal (Binary64 Layout Scientific toNat_of_isDigit)

/-- Some digits. -/
def AreDigits (cs : List Char) : Prop := cs ≠ [] ∧ ∀ c ∈ cs, c.isDigit = true

/-- A written number without its sign. -/
structure Numeral where
  whole : List Char
  /-- The digits after the point. -/
  places : Option (List Char) := none
  /-- Whether the exponent is negative, and its digits. -/
  exponent : Option (Bool × List Char) := none

namespace Numeral

def afterPoint (m : Numeral) : List Char := m.places.elim [] ('.' :: ·)

def afterMark (m : Numeral) : List Char :=
  m.exponent.elim [] fun (negative, digits) => 'e' :: (if negative then '-' else '+') :: digits

def chars (m : Numeral) : List Char := m.whole ++ (m.afterPoint ++ m.afterMark)

/-- What the grammar asks of a numeral. -/
structure Valid (m : Numeral) : Prop where
  whole : AreDigits m.whole
  /-- A zero at the front is the only whole digit. -/
  zero : m.whole.head? = some '0' → m.whole = ['0']
  places : ∀ ds ∈ m.places, AreDigits ds
  exponent : ∀ e ∈ m.exponent, AreDigits e.2

end Numeral

section

variable {c : Char} {cs : List Char}

theorem isDigit_octet (digit : c.isDigit = true) : Source.isDigit (octet c) = true := by
  obtain ⟨low, high⟩ := toNat_of_isDigit digit
  simp only [Source.isDigit, octet, Bool.and_eq_true, decide_eq_true_eq, UInt8.le_iff_toNat_le,
    UInt8.toNat_ofNat']
  have zero : (48 : UInt8).toNat = 48 := rfl
  have nine : (57 : UInt8).toNat = 57 := rfl
  omega

theorem octet_eq_zero (digit : c.isDigit = true) (zero : (octet c == 48) = true) : c = '0' := by
  obtain ⟨low, high⟩ := toNat_of_isDigit digit
  have number : c.toNat % 256 = 48 := congrArg UInt8.toNat (eq_of_beq zero)
  rw [← Char.ofNat_toNat c, show c.toNat = 48 by omega]

theorem isDigit_of_mem_octets (digits : AreDigits cs) :
    ∀ b ∈ cs.map octet, Source.isDigit b = true := by
  intro b member
  obtain ⟨c, mine, rfl⟩ := List.mem_map.1 member
  exact isDigit_octet (digits.2 c mine)

theorem head?_of_areDigits (digits : AreDigits cs) :
    ∃ c, cs.head? = some c ∧ c.isDigit = true := by
  obtain ⟨c, rest, rfl⟩ := List.exists_cons_of_ne_nil digits.1
  exact ⟨c, rfl, digits.2 c List.mem_cons_self⟩

end

namespace Source

variable {src : Source} {i : Nat} {r : List UInt8} {m : Numeral} {negative : Bool}

/-! ## A number in three parts -/

/-- Where the whole digits end. -/
def spanWhole (src : Source) (i : Nat) : Except Disagreement Nat :=
  match src.at? i with
  | none => .error ⟨src.fault .eofInValue i, src.fault .badNumber i⟩
  | some b =>
    if b == 48 then
      if (src.at? (i + 1)).any isDigit then .error (both (src.faultAhead .badNumber (i + 1)))
      else .ok (i + 1)
    else if isDigit b then .ok (src.skipDigits i)
    else .error (both (src.fault .badNumber (i + 1)))

/-- The digits after the point, if there is one. -/
def spanPlaces (src : Source) (i : Nat) : Except Disagreement (Option (Nat × Nat)) :=
  if src.at? i == some 46 then
    if src.skipDigits (i + 1) == i + 1 then
      let strict := if src.skipDigits (i + 1) < src.size then Defect.badNumber else .eofInValue
      .error ⟨src.faultAhead strict (src.skipDigits (i + 1)),
        src.faultAhead .badNumber (src.skipDigits (i + 1))⟩
    else .ok (some (i + 1, src.skipDigits (i + 1)))
  else .ok none

/-- The exponent, if there is a mark. -/
def spanMark (src : Source) (i : Nat) : Except Disagreement (Option (Bool × Nat × Nat)) :=
  if src.at? i == some 101 || src.at? i == some 69 then some <$> src.spanExponent i else .ok none

theorem spanNumber_eq : src.spanNumber negative i = (do
    let stop ← src.spanWhole i
    let places ← src.spanPlaces stop
    let exponent ← src.spanMark ((places.map (·.2)).getD stop)
    return ⟨negative, i, stop, places, exponent⟩) := by
  unfold spanNumber spanWhole spanPlaces spanMark
  simp only [bind, Except.bind, pure, Except.pure]
  cases src.at? i with
  | none => rfl
  | some b =>
    simp only
    split_ifs <;> simp only [*, Bool.false_eq_true, if_true, if_false]
/-! ## Numerals -/

/-- No octet that would continue a number comes first. -/
def Ends (r : List UInt8) : Prop :=
  ∀ b ∈ r.head?, isDigit b = false ∧ b ≠ 46 ∧ b ≠ 101 ∧ b ≠ 69

theorem spanExponent_of_rest {sign : Bool} {digits : List Char} (some : AreDigits digits)
    (ends : Ends r)
    (here : src.rest i = ('e' :: (if sign then '-' else '+') :: digits).map octet ++ r) :
    src.spanExponent i = .ok (sign, i + 2, i + 2 + digits.length) := by
  obtain ⟨first, head, digit⟩ := head?_of_areDigits some
  have after : src.rest (i + 2) = digits.map octet ++ r := rest_succ (rest_succ here)
  have front : src.at? (i + 2) = .some (octet first) := by
    rw [at?_eq_head?, after, List.head?_append, List.head?_map, head]
    rfl
  have skipped : src.skipDigits (i + 2) = i + 2 + digits.length := by
    simpa using skipDigits_of_rest after (isDigit_of_mem_octets some) fun b head => (ends b head).1
  have mark : src.at? (i + 1) = .some (if sign then 45 else 43) := by
    rw [at?_of_rest (rest_succ here)]
    cases sign <;> rfl
  unfold spanExponent
  cases sign <;> simp [mark, front, isDigit_octet digit, skipped]

/-- Behind the whole digits there is no digit. -/
theorem not_isDigit_after_whole (ends : Ends r) :
    ∀ b ∈ (m.afterPoint.map octet ++ (m.afterMark.map octet ++ r)).head?, isDigit b = false := by
  intro b head
  unfold Numeral.afterPoint Numeral.afterMark at head
  cases places : m.places with
  | some digits =>
    have point : b = 46 := by simpa [places, octet] using head.symm
    rw [point]
    rfl
  | none =>
    cases exponent : m.exponent with
    | some e =>
      have mark : b = 101 := by simpa [places, exponent, octet] using head.symm
      rw [mark]
      rfl
    | none => exact (ends b (by simpa [places, exponent] using head)).1

/-- Behind the places there is no digit, nor a point. -/
theorem not_isDigit_after_places (ends : Ends r) :
    ∀ b ∈ (m.afterMark.map octet ++ r).head?, isDigit b = false ∧ b ≠ 46 := by
  intro b head
  unfold Numeral.afterMark at head
  cases exponent : m.exponent with
  | some e =>
    have mark : b = 101 := by simpa [exponent, octet] using head.symm
    rw [mark]
    decide
  | none =>
    obtain ⟨digit, point, _⟩ := ends b (by simpa [exponent] using head)
    exact ⟨digit, point⟩

theorem at?_of_digits {cs : List Char} {first : Char} (head : cs.head? = some first)
    (here : src.rest i = cs.map octet ++ r) : src.at? i = some (octet first) := by
  rw [at?_eq_head?, here, List.head?_append, List.head?_map, head]
  rfl

theorem skipDigits_of_digits {cs : List Char} (digits : AreDigits cs)
    (here : src.rest i = cs.map octet ++ r) (ends : ∀ b ∈ r.head?, isDigit b = false) :
    src.skipDigits i = i + cs.length := by
  simpa using skipDigits_of_rest here (isDigit_of_mem_octets digits) ends

theorem spanWhole_of_rest (valid : m.Valid) (here : src.rest i = m.whole.map octet ++ r)
    (ends : ∀ b ∈ r.head?, isDigit b = false) : src.spanWhole i = .ok (i + m.whole.length) := by
  obtain ⟨first, head, digit⟩ := head?_of_areDigits valid.whole
  have front := at?_of_digits head here
  have skipped := skipDigits_of_digits valid.whole here ends
  unfold spanWhole
  rw [front]
  by_cases zero : (octet first == 48) = true
  · have single : m.whole = ['0'] := valid.zero (by rw [head, octet_eq_zero digit zero])
    have next : (src.at? (i + 1)).any isDigit = false := by
      rw [single] at here
      have behind : src.rest (i + 1) = r := rest_succ here
      rw [at?_eq_head?, behind]
      cases after : r.head? with
      | none => rfl
      | some b => exact ends b after
    simp only [if_pos zero, next, Bool.false_eq_true, if_false, single, List.length_singleton]
  · simp only [if_neg zero, isDigit_octet digit, if_true, skipped]

theorem spanPlaces_of_rest (valid : m.Valid) (here : src.rest i = m.afterPoint.map octet ++ r)
    (ends : ∀ b ∈ r.head?, isDigit b = false ∧ b ≠ 46) :
    ∃ places, src.spanPlaces i = .ok places ∧
      (places.map (·.2)).getD i = i + m.afterPoint.length ∧ (m.places = none → places = none) := by
  unfold Numeral.afterPoint at here ⊢
  unfold spanPlaces
  cases places : m.places with
  | none =>
    have point : src.at? i ≠ some 46 := by
      rw [at?_eq_head?, show src.rest i = r by simpa [places] using here]
      exact fun head => (ends _ head).2 rfl
    exact ⟨none, by simp [point], by simp, fun _ => rfl⟩
  | some digits =>
    have all : AreDigits digits := valid.places digits (by rw [places]; rfl)
    rw [places] at here
    have point : src.at? i = some 46 := at?_of_rest here
    have skipped := skipDigits_of_digits all (rest_succ here) fun b head => (ends b head).1
    have some_ : digits.length ≠ 0 := by simpa using all.1
    refine ⟨some (i + 1, i + 1 + digits.length), ?_, ?_, by simp⟩
    · simp [point, skipped, some_]
    · simp only [Option.map_some, Option.getD_some, Option.elim_some, List.length_cons]
      omega

theorem spanMark_of_rest (valid : m.Valid) (here : src.rest i = m.afterMark.map octet ++ r)
    (ends : Ends r) :
    ∃ exponent, src.spanMark i = .ok exponent ∧
      (exponent.map (·.2.2)).getD i = i + m.afterMark.length ∧
      (m.exponent = none → exponent = none) := by
  unfold Numeral.afterMark at here ⊢
  unfold spanMark
  cases exponent : m.exponent with
  | none =>
    have mark : src.at? i ≠ some 101 ∧ src.at? i ≠ some 69 := by
      rw [at?_eq_head?, show src.rest i = r by simpa [exponent] using here]
      exact ⟨fun head => (ends _ head).2.2.1 rfl, fun head => (ends _ head).2.2.2 rfl⟩
    exact ⟨none, by simp [mark], by simp, fun _ => rfl⟩
  | some e =>
    obtain ⟨sign, digits⟩ := e
    have all : AreDigits digits := valid.exponent (sign, digits) (by rw [exponent]; rfl)
    rw [exponent] at here
    have mark : src.at? i = some 101 := at?_of_rest here
    have spanned := spanExponent_of_rest all ends here
    refine ⟨some (sign, i + 2, i + 2 + digits.length), ?_, ?_, by simp⟩
    · simp only [mark, spanned, beq_self_eq_true, Bool.true_or, if_true]
      rfl
    · simp only [Option.map_some, Option.getD_some, Option.elim_some, List.length_cons]
      omega

/-- A numeral that nothing continues is one token. -/
theorem spanNumber_of_rest (valid : m.Valid) (ends : Ends r)
    (here : src.rest i = m.chars.map octet ++ r) :
    ∃ span, src.spanNumber negative i = .ok span ∧ span.stop = i + m.chars.length ∧
      (m.places = none → m.exponent = none →
        span = ⟨negative, i, i + m.chars.length, none, none⟩) := by
  simp only [Numeral.chars, List.map_append, List.append_assoc] at here
  have behindWhole := rest_append here
  have behindPlaces := rest_append behindWhole
  rw [List.length_map] at behindWhole behindPlaces
  rw [List.length_map] at behindPlaces
  obtain ⟨places, readPlaces, placesStop, noPlaces⟩ :=
    spanPlaces_of_rest valid behindWhole (not_isDigit_after_places ends)
  obtain ⟨exponent, readExponent, exponentStop, noExponent⟩ :=
    spanMark_of_rest valid behindPlaces ends
  refine ⟨⟨negative, i, i + m.whole.length, places, exponent⟩, ?_, ?_, ?_⟩
  · rw [spanNumber_eq, spanWhole_of_rest valid here (not_isDigit_after_whole ends)]
    simp only [bind, Except.bind, readPlaces, placesStop, readExponent]
    rfl
  · have stop : (exponent.map (·.2.2)).getD ((places.map (·.2)).getD (i + m.whole.length)) =
        i + m.chars.length := by
      rw [placesStop, exponentStop, Numeral.chars, List.length_append, List.length_append]
      omega
    cases exponent <;> cases places <;> exact stop
  · intro noPoint noMark
    obtain rfl := noPlaces noPoint
    obtain rfl := noExponent noMark
    simp [Numeral.chars, Numeral.afterPoint, Numeral.afterMark, noPoint, noMark]

end Source

/-! ## What is written -/

theorem areDigits_toDigits (n : Nat) : AreDigits (Nat.toDigits 10 n) :=
  ⟨Nat.toDigits_ne_nil, fun _ member => Nat.isDigit_of_mem_toDigits (by decide) (by decide) member⟩

theorem isDigit_of_mem_replicate {n : Nat} {c : Char} (member : c ∈ List.replicate n '0') :
    c.isDigit = true := by
  rw [List.eq_of_mem_replicate member]
  rfl

theorem toList_toString_nat (n : Nat) : (toString n).toList = Nat.toDigits 10 n := by
  rw [Nat.toString_eq_repr, Nat.toList_repr]

/-- The text of a whole number is its sign and its digits. -/
theorem toList_toString_int (n : Int) :
    (toString n).toList = (if n < 0 then ['-'] else []) ++ Nat.toDigits 10 n.natAbs := by
  cases n with
  | ofNat n =>
    have text : toString (Int.ofNat n) = toString n := rfl
    rw [text, toList_toString_nat, if_neg (by simp)]
    rfl
  | negSucc n =>
    have text : toString (Int.negSucc n) = "-" ++ toString (n + 1) := rfl
    rw [text, String.toList_append, toList_toString_nat, if_pos (Int.negSucc_lt_zero n)]
    rfl

variable {s : Scientific}

/-- The numeral of the positional form. -/
def positionalNumeral (s : Scientific) : Numeral :=
  let digits := Nat.toDigits 10 s.digits
  if 0 ≤ s.power then ⟨digits ++ List.replicate s.power.toNat '0', some ['0'], none⟩
  else if 0 < digits.length + s.power then
    let whole := (digits.length + s.power).toNat
    ⟨digits.take whole, some (digits.drop whole), none⟩
  else ⟨['0'], some (List.replicate (-(digits.length + s.power)).toNat '0' ++ digits), none⟩

theorem toList_positional (s : Scientific) :
    (Layout.positional s).toList = (positionalNumeral s).chars := by
  have width : (toString s.digits).length = (Nat.toDigits 10 s.digits).length := by
    rw [← String.length_toList, toList_toString_nat]
  unfold Layout.positional positionalNumeral
  simp only [width]
  split_ifs with whole point
  · simp [Numeral.chars, Numeral.afterPoint, Numeral.afterMark, Layout.zeros]
  · simp [Numeral.chars, Numeral.afterPoint, Numeral.afterMark]
  · simp [Numeral.chars, Numeral.afterPoint, Numeral.afterMark, Layout.zeros]

theorem positionalNumeral_valid (small : s.digits = 0 → s.power ≤ 0) :
    (positionalNumeral s).Valid := by
  have digits := areDigits_toDigits s.digits
  have front : (Nat.toDigits 10 s.digits).head? = some '0' → s.digits = 0 :=
    Decimal.eq_zero_of_head?_toDigits
  unfold positionalNumeral
  simp only
  split_ifs with whole point
  · refine ⟨⟨by simp [digits.1], fun c member => ?_⟩, fun zero => ?_, ?_, by simp⟩
    · exact (List.mem_append.1 member).elim (digits.2 c) isDigit_of_mem_replicate
    · obtain ⟨first, head, _⟩ := head?_of_areDigits digits
      rw [List.head?_append, head, Option.some_or] at zero
      have nothing := front (head.trans zero)
      have power : s.power = 0 := Int.le_antisymm (small nothing) whole
      simp [nothing, power]
    · simp [AreDigits]
  · have some_ : (Nat.toDigits 10 s.digits).take
        ((Nat.toDigits 10 s.digits).length + s.power).toNat ≠ [] := by
      simp only [ne_eq, List.take_eq_nil_iff, digits.1, or_false]
      omega
    refine ⟨⟨some_, fun c member => digits.2 c (List.mem_of_mem_take member)⟩,
      fun zero => ?_, ?_, by simp⟩
    · rw [List.head?_take, if_neg (by omega)] at zero
      rw [front zero, Nat.toDigits_zero] at point
      simp at point
      omega
    · rintro ds ⟨⟩
      refine ⟨?_, fun c member => digits.2 c (List.mem_of_mem_drop member)⟩
      simp only [ne_eq, List.drop_eq_nil_iff]
      omega
  · refine ⟨⟨by simp, by simp⟩, fun _ => rfl, ?_, by simp⟩
    rintro ds ⟨⟩
    refine ⟨by simp [digits.1], fun c member => ?_⟩
    exact (List.mem_append.1 member).elim isDigit_of_mem_replicate (digits.2 c)

theorem isSome_places_positionalNumeral (s : Scientific) :
    (positionalNumeral s).places.isSome = true := by
  unfold positionalNumeral
  simp only
  split_ifs <;> rfl

/-- The numeral of the scientific form. -/
def scientificNumeral (s : Scientific) : Numeral :=
  let digits := Nat.toDigits 10 s.digits
  let exponent : Int := s.power + digits.length - 1
  { whole := digits.take 1
    places := if digits.length = 1 then none else some (digits.drop 1)
    exponent := some (decide (exponent < 0), Nat.toDigits 10 exponent.natAbs) }

theorem toList_scientific (s : Scientific) :
    (Layout.scientific s).toList = (scientificNumeral s).chars := by
  have width : (toString s.digits).length = (Nat.toDigits 10 s.digits).length := by
    rw [← String.length_toList, toList_toString_nat]
  unfold Layout.scientific scientificNumeral
  simp only [width, toList_toString_nat]
  generalize s.power + (Nat.toDigits 10 s.digits).length - 1 = exponent
  have mark : (if exponent < 0 then "" else "+").toList ++ exponent.repr.toList =
      (if exponent < 0 then '-' else '+') :: Nat.toDigits 10 exponent.natAbs := by
    change _ ++ (toString exponent).toList = _
    rw [toList_toString_int]
    by_cases less : exponent < 0 <;> simp [less]
  cases shape : Nat.toDigits 10 s.digits with
  | nil => exact absurd shape Nat.toDigits_ne_nil
  | cons first rest =>
    cases rest with
    | nil => simp [Numeral.chars, Numeral.afterPoint, Numeral.afterMark, mark]
    | cons second rest => simp [Numeral.chars, Numeral.afterPoint, Numeral.afterMark, mark]

theorem scientificNumeral_valid (s : Scientific) : (scientificNumeral s).Valid := by
  have digits := areDigits_toDigits s.digits
  unfold scientificNumeral
  cases shape : Nat.toDigits 10 s.digits with
  | nil => exact absurd shape Nat.toDigits_ne_nil
  | cons first rest =>
    rw [shape] at digits
    have front : first.isDigit = true := digits.2 first List.mem_cons_self
    have later : ∀ c ∈ rest, c.isDigit = true := fun c member =>
      digits.2 c (List.mem_cons_of_mem _ member)
    refine ⟨⟨by simp, by simpa using front⟩, by simp, fun ds member => ?_, fun e member => ?_⟩
    · cases rest with
      | nil => simp at member
      | cons second rest =>
        obtain rfl : second :: rest = ds := by simpa using member
        exact ⟨by simp, later⟩
    · obtain rfl := Option.some_inj.1 member
      exact areDigits_toDigits _

/-- A fraction is written with a point or an exponent. -/
theorem exists_numeral_of_fraction (x : Binary64) :
    ∃ m : Numeral, m.Valid ∧ (m.places.isSome ∨ m.exponent.isSome) ∧
      (layout.text x).toList = (if x.negative then ['-'] else []) ++ m.chars := by
  have text : ∀ body : String, (if x.negative then "-" ++ body else body).toList =
      (if x.negative then ['-'] else []) ++ body.toList := by
    intro body
    split
    · rw [String.toList_append]
      rfl
    · rfl
  unfold Layout.text
  simp only [text]
  generalize (if x.negative = true then ['-'] else []) = sign
  split
  · next positional =>
    refine ⟨positionalNumeral x.shortest, positionalNumeral_valid fun none => ?_,
      .inl (isSome_places_positionalNumeral _), ?_⟩
    · -- the digit zero is laid out positionally only up to the power fifteen
      have single : (Nat.repr 0).length = 1 := by decide
      have order : -5 ≤ x.shortest.power ∧ x.shortest.power ≤ 15 := by
        simpa [layout, none, single] using positional
      rcases Binary64.power_of_digits_eq_zero none with small | great
      · exact small
      · omega
    · rw [toList_positional]
  · exact ⟨scientificNumeral x.shortest, scientificNumeral_valid _, .inr rfl,
      by rw [toList_scientific]⟩

/-! ## Reading what was written -/

/-- A number is written as a sign and a numeral; a whole number is all whole digits. -/
structure Spells (n : Number) (negative : Bool) (m : Numeral) : Prop where
  valid : m.Valid
  text : n.render.toList = (if negative then ['-'] else []) ++ m.chars
  whole : ∀ k, n = .whole k → negative = decide (k < 0) ∧ m = ⟨Nat.toDigits 10 k.natAbs, none, none⟩

theorem exists_spells (n : Number) : ∃ negative m, Spells n negative m := by
  cases n with
  | whole k =>
    have digits := areDigits_toDigits k.natAbs
    refine ⟨decide (k < 0), ⟨Nat.toDigits 10 k.natAbs, none, none⟩, ⟨digits, fun zero => ?_,
      by simp, by simp⟩, ?_, ?_⟩
    · rw [Decimal.eq_zero_of_head?_toDigits zero, Nat.toDigits_zero]
    · rw [Number.render, toList_toString_int]
      simp [Numeral.chars, Numeral.afterPoint, Numeral.afterMark]
    · rintro _ ⟨⟩
      exact ⟨rfl, rfl⟩
  | fraction x =>
    obtain ⟨m, valid, -, text⟩ := exists_numeral_of_fraction x
    exact ⟨x.negative, m, valid, text, by simp⟩

/-- A numeral consists of digits and the marks of a point and an exponent. -/
theorem Numeral.Valid.forall_mem {m : Numeral} (valid : m.Valid) {p : Char → Prop}
    (digit : ∀ c : Char, c.isDigit = true → p c) (mark : ∀ c ∈ ['.', 'e', '+', '-'], p c) :
    ∀ c ∈ m.chars, p c := by
  intro c member
  rcases List.mem_append.1 member with member | member
  · exact digit c (valid.whole.2 c member)
  rcases List.mem_append.1 member with member | member
  · cases places : m.places with
    | none => simp [Numeral.afterPoint, places] at member
    | some ds =>
      rw [Numeral.afterPoint, places] at member
      rcases List.mem_cons.1 member with rfl | member
      · exact mark _ (by decide)
      · exact digit c ((valid.places ds (by rw [places]; rfl)).2 c member)
  · cases exponent : m.exponent with
    | none => simp [Numeral.afterMark, exponent] at member
    | some e =>
      rw [Numeral.afterMark, exponent] at member
      rcases List.mem_cons.1 member with rfl | member
      · exact mark _ (by decide)
      rcases List.mem_cons.1 member with rfl | member
      · exact mark _ (by cases e.1 <;> decide)
      · exact digit c ((valid.exponent e (by rw [exponent]; rfl)).2 c member)

theorem Numeral.Valid.ascii {m : Numeral} (valid : m.Valid) : ∀ c ∈ m.chars, c.toNat < 128 := by
  refine valid.forall_mem (fun c digit => ?_) (by simp)
  have bounds := toNat_of_isDigit digit
  omega

/-- The octets of a written number. -/
theorem Spells.octets {n : Number} {negative : Bool} {m : Numeral} (spells : Spells n negative m) :
    octetsOf n.render = (if negative then [45] else []) ++ m.chars.map octet := by
  have sign : ∀ c ∈ (if negative then ['-'] else [] : List Char), c.toNat < 128 := by
    intro c member
    cases negative with
    | false => simp at member
    | true =>
      rw [if_pos rfl, List.mem_singleton] at member
      rw [member]
      decide
  have ascii : ∀ c ∈ n.render.toList, c.toNat < 128 := by
    rw [spells.text]
    exact fun c member => (List.mem_append.1 member).elim (sign c) (spells.valid.ascii c)
  rw [← String.ofList_toList (s := n.render), octetsOf_ascii ascii, spells.text, List.map_append]
  cases negative <;> rfl

/-- The numbers that come back exactly, whatever the rounding. -/
inductive Number.IsExact : Number → Prop where
  | whole {k : Int} (low : -0x8000_0000_0000_0000 ≤ k) (high : k ≤ 0xFFFF_FFFF_FFFF_FFFF) :
      IsExact (.whole k)

namespace Source

variable {src : Source} {i : Nat} {r : List UInt8}

/-- Digits whose value is within the limit are all taken. -/
theorem takeDigits_of_rest {limit : Nat} (cs : List Char) (digits : ∀ c ∈ cs, c.isDigit = true)
    (here : src.rest i = cs.map octet ++ r) {acc : Nat}
    (within : Nat.ofDigitChars 10 cs acc ≤ limit) :
    src.takeDigits limit cs.length i acc = (Nat.ofDigitChars 10 cs acc, i + cs.length) := by
  induction cs generalizing i acc with
  | nil => rfl
  | cons c cs ih =>
    obtain ⟨low, high⟩ := toNat_of_isDigit (digits c List.mem_cons_self)
    have value : (octet c).toNat = c.toNat := by
      simp only [octet, UInt8.toNat_ofNat']
      omega
    have next : acc * 10 + ((octet c).toNat - 48) = 10 * acc + (c.toNat - '0'.toNat) := by
      rw [value, Nat.mul_comm]
      rfl
    rw [Nat.ofDigitChars_cons] at within ⊢
    have grows : 10 * acc + (c.toNat - '0'.toNat) ≤ limit := by
      refine Nat.le_trans ?_ within
      rw [Nat.ofDigitChars_eq_ofDigitChars_zero]
      have := Nat.le_mul_of_pos_left (10 * acc + (c.toNat - '0'.toNat))
        (Nat.pow_pos (n := cs.length) (show 0 < 10 by decide))
      omega
    rw [List.length_cons, takeDigits, at?_of_rest here]
    simp only [next]
    rw [if_neg (by omega), ih (fun d member => digits d (List.mem_cons_of_mem _ member))
      (rest_succ here) within, Nat.add_assoc, Nat.add_comm 1]

/-- A number of whole digits only, all of which were taken. -/
theorem numberValue_whole {negative : Bool} {start stop n : Nat}
    (taken : src.takeDigits maxUnsigned (stop - start) start 0 = (n, stop))
    (small : negative = true → n ≠ 0 ∧ n ≤ 0x8000_0000_0000_0000) :
    src.numberValue ⟨negative, start, stop, none, none⟩ =
      .ok (.whole (if negative then -(n : Int) else n)) := by
  have plain : (stop - stop == 0 && (none : Option (Nat × Nat)).isNone &&
      (none : Option (Bool × Nat × Nat)).isNone) = true := by simp
  unfold numberValue
  rw [taken]
  refine (if_pos plain).trans ?_
  cases negative with
  | false => rfl
  | true =>
    obtain ⟨nonzero, low⟩ := small rfl
    have inRange : (n == 0 || decide (0x8000_0000_0000_0000 < n)) = false := by
      simp [nonzero, low]
    simp only [inRange, Bool.not_true, Bool.false_eq_true, if_false, if_true]

/-- A whole number in range has its own value. -/
theorem numberValue_of_rest {k : Int} (exact : Number.IsExact (.whole k))
    (here : src.rest i = (Nat.toDigits 10 k.natAbs).map octet ++ r) :
    src.numberValue ⟨decide (k < 0), i, i + (Nat.toDigits 10 k.natAbs).length, none, none⟩ =
      .ok (.whole k) := by
  cases exact with
  | whole low high =>
    have value : Nat.ofDigitChars 10 (Nat.toDigits 10 k.natAbs) 0 = k.natAbs :=
      Nat.ofDigitChars_ten_toDigits
    have within : Nat.ofDigitChars 10 (Nat.toDigits 10 k.natAbs) 0 ≤ maxUnsigned := by
      rw [value]
      unfold maxUnsigned
      omega
    have taken := takeDigits_of_rest _ (areDigits_toDigits k.natAbs).2 here within
    rw [value] at taken
    have signed : (if decide (k < 0) = true then -(k.natAbs : Int) else k.natAbs) = k := by
      by_cases less : k < 0
      · simp only [less, decide_true, if_true]
        omega
      · simp only [less, decide_false, Bool.false_eq_true, if_false]
        omega
    rw [numberValue_whole (by rwa [Nat.add_sub_cancel_left]), signed]
    intro less
    rw [decide_eq_true_eq] at less
    omega

/-- The first digit of a numeral, which is no sign. -/
theorem head_of_numeral {m : Numeral} (valid : m.Valid) :
    ∃ b w, m.chars.map octet = b :: w ∧ isDigit b = true ∧ (b == 45) = false := by
  obtain ⟨first, rest, shape⟩ := List.exists_cons_of_ne_nil valid.whole.1
  have digit : isDigit (octet first) = true :=
    isDigit_octet (valid.whole.2 first (by rw [shape]; exact List.mem_cons_self))
  refine ⟨octet first, (rest ++ (m.afterPoint ++ m.afterMark)).map octet, ?_, digit, ?_⟩
  · rw [Numeral.chars, shape, List.cons_append, List.map_cons]
  · by_contra sign
    rw [Bool.not_eq_false, beq_iff_eq] at sign
    rw [sign] at digit
    exact absurd digit (by decide)

/-- A written number begins with a sign or a digit. -/
theorem head_of_number (n : Number) :
    ∃ b w, octetsOf n.render = b :: w ∧ (b == 45 || isDigit b) = true := by
  obtain ⟨negative, m, spells⟩ := exists_spells n
  obtain ⟨b, w, front, digit, _⟩ := head_of_numeral spells.valid
  rw [spells.octets]
  cases negative with
  | false => exact ⟨b, w, front, by rw [digit, Bool.or_true]⟩
  | true => exact ⟨45, _, rfl, by decide⟩

/-- Where the numeral begins after the sign. -/
theorem exists_numeral_start {n : Number} {negative : Bool} {m : Numeral}
    (spells : Spells n negative m) (here : src.rest i = octetsOf n.render ++ r) :
    ∃ start, (if negative then i + 1 else i) = start ∧ (src.at? i == some 45) = negative ∧
      src.rest start = m.chars.map octet ++ r ∧
      start + m.chars.length = i + (octetsOf n.render).length := by
  rw [spells.octets] at here ⊢
  cases negative with
  | false =>
    obtain ⟨b, w, front, _, unsigned⟩ := head_of_numeral spells.valid
    refine ⟨i, rfl, ?_, here, by simp⟩
    have first : src.rest i = b :: (w ++ r) := by
      rw [here]
      exact congrArg (· ++ r) front
    rw [at?_of_rest first]
    exact unsigned
  | true =>
    refine ⟨i + 1, rfl, ?_, rest_succ here, ?_⟩
    · rw [at?_of_rest here]
      rfl
    · simp only [if_true, List.length_append, List.length_map, List.length_singleton]
      omega

/-- A written number that nothing continues is one token, which has its value if it can. -/
theorem readNumber_render (n : Number) (ends : Ends r)
    (here : src.rest i = octetsOf n.render ++ r) :
    ∃ value, src.readNumber i = (.number value i (i + (octetsOf n.render).length),
        some (i + (octetsOf n.render).length)) ∧
      (n.IsExact → value = .ok n) := by
  obtain ⟨negative, m, spells⟩ := exists_spells n
  obtain ⟨start, first, sign, digits, stop⟩ := exists_numeral_start spells here
  obtain ⟨span, spanned, spanStop, whole⟩ := @spanNumber_of_rest _ _ _ _ negative
    spells.valid ends digits
  refine ⟨src.numberValue span, ?_, fun exact => ?_⟩
  · unfold readNumber
    rw [sign]
    dsimp only
    rw [first, spanned]
    simp only [spanStop, stop]
  · cases n with
    | fraction x => cases exact
    | whole k =>
      obtain ⟨isNegative, shape⟩ := spells.whole k rfl
      subst shape
      rw [whole rfl rfl, isNegative]
      have long : (Numeral.mk (Nat.toDigits 10 k.natAbs) none none).chars =
        Nat.toDigits 10 k.natAbs := by simp [Numeral.chars, Numeral.afterPoint, Numeral.afterMark]
      rw [long] at digits ⊢
      exact numberValue_of_rest exact digits

end Source

end DeviceAdmission.Json
