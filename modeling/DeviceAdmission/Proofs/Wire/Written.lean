import DeviceAdmission.Proofs.Wire.RoundTrip
import DeviceAdmission.Proofs.Yaml.Documents
import DeviceAdmission.Text.Diagnostic
import DeviceAdmission.Wire.FromYaml

/-!
# Records are read back from the YAML they were written as

A record is written as a block mapping (`Shape.WrittenAs`). What a scalar holds is then a text in some
style, or a word; a text is read as it is in every style, and a word means its flag or its number.

* `yamlWhole?_toString`: the digits of a number are read as the number.
* `Shape.ofYaml_of_holds`: a node that holds a written value is read as the value.
* `Form.parseYaml_writeMembers`: so is the text.
-/
namespace DeviceAdmission.Yaml

open Decimal (eq_zero_of_head?_toDigits toNat_of_isDigit)
open Json (areDigits_toDigits toList_toString_nat toList_toString_int)

/-! ## Numbers -/

/-- One more digit of a number. -/
def takeDigit (base : Nat) (acc : Option Nat) (c : Char) : Option Nat :=
  acc.bind fun n => (Text.Hex.value? c).bind fun d => if d < base then some (base * n + d) else none

theorem inBase?_eq (base : Nat) (cs : List Char) :
    inBase? base cs = if cs.isEmpty then none else cs.foldl (takeDigit base) (some 0) := rfl

theorem value?_of_isDigit {c : Char} (digit : c.isDigit = true) :
    Text.Hex.value? c = some (c.toNat - '0'.toNat) := by
  simp only [Text.Hex.value?, if_pos (toNat_of_isDigit digit)]
  rfl

theorem foldl_takeDigit {cs : List Char} (digits : ∀ c ∈ cs, c.isDigit = true) (n : Nat) :
    cs.foldl (takeDigit 10) (some n) = some (Nat.ofDigitChars 10 cs n) := by
  induction cs generalizing n with
  | nil => rfl
  | cons c rest ih =>
    obtain ⟨low, high⟩ := toNat_of_isDigit (digits c List.mem_cons_self)
    have small : c.toNat - '0'.toNat < 10 := by
      have zero : '0'.toNat = 48 := rfl
      omega
    have one : takeDigit 10 (some n) c = some (10 * n + (c.toNat - '0'.toNat)) := by
      simp only [takeDigit, Option.bind_some, value?_of_isDigit (digits c List.mem_cons_self),
        if_pos small]
    rw [List.foldl_cons, one, Nat.ofDigitChars_cons]
    exact ih (fun d member => digits d (List.mem_cons_of_mem _ member)) _

/-- A character that is no digit spoils a number. -/
theorem foldl_takeDigit_none (base : Nat) (cs : List Char) :
    cs.foldl (takeDigit base) none = none := by
  induction cs with
  | nil => rfl
  | cons c rest ih => exact ih

/-- Only zero is written with a zero before anything. -/
theorem toDigits_cases (n : Nat) : Nat.toDigits 10 n = ['0'] ∨
    ∃ c rest, Nat.toDigits 10 n = c :: rest ∧ c.isDigit = true ∧ c ≠ '0' := by
  obtain ⟨filled, digits⟩ := areDigits_toDigits n
  cases list : Nat.toDigits 10 n with
  | nil => exact absurd list filled
  | cons c rest =>
    by_cases zero : c = '0'
    · have none : n = 0 := eq_zero_of_head?_toDigits (by rw [list, zero]; rfl)
      subst none
      exact .inl list.symm
    · exact .inr ⟨c, rest, rfl, digits c (list ▸ List.mem_cons_self), zero⟩

theorem hasLeadingZero_eq_false {c : Char} (digit : c.isDigit = true) (nonzero : c ≠ '0')
    (rest : List Char) : hasLeadingZero (c :: rest) = false := by
  have noPlus : c ≠ '+' := by
    rintro rfl
    cases digit
  have noMinus : c ≠ '-' := by
    rintro rfl
    cases digit
  simp [hasLeadingZero, nonzero, noPlus, noMinus]

theorem inBase?_toDigits (n : Nat) : inBase? 10 (Nat.toDigits 10 n) = some n := by
  obtain ⟨-, digits⟩ := areDigits_toDigits n
  rw [inBase?_eq, if_neg (by simp), foldl_takeDigit digits,
    Nat.ofDigitChars_ten_toDigits]

theorem magnitude?_toDigits (n : Nat) : magnitude? (Nat.toDigits 10 n) = some n := by
  have spelled := inBase?_toDigits n
  obtain zero | ⟨c, rest, list, digit, nonzero⟩ := toDigits_cases n
  · rw [zero] at spelled ⊢
    exact spelled
  · rw [list] at spelled ⊢
    unfold magnitude?
    -- digits that begin with no zero name no other base
    split
    · rename_i same
      exact absurd (List.cons.inj same).1 nonzero
    · rename_i same
      exact absurd (List.cons.inj same).1 nonzero
    · rename_i same
      exact absurd (List.cons.inj same).1 nonzero
    · rw [hasLeadingZero_eq_false digit nonzero rest]
      exact spelled

theorem unsigned?_toString {limit n : Nat} (within : n ≤ limit) :
    unsigned? limit (toString n) = some n := by
  have unsigned : ((Nat.toDigits 10 n).head? == some '+') = false := by
    obtain zero | ⟨c, rest, list, digit, -⟩ := toDigits_cases n
    · rw [zero]
      rfl
    · rw [list]
      simp only [List.head?_cons, beq_eq_false_iff_ne, ne_eq, Option.some.injEq]
      rintro rfl
      cases digit
  simp only [unsigned?, toList_toString_nat, unsigned, Bool.false_eq_true, if_false,
    magnitude?_toDigits]
  simpa using within

theorem toList_negSucc (n : Nat) :
    (toString (Int.negSucc n)).toList = '-' :: Nat.toDigits 10 (n + 1) := by
  rw [toList_toString_int, if_pos (Int.negSucc_lt_zero n)]
  rfl

theorem magnitude?_minus (cs : List Char) : magnitude? ('-' :: cs) = none := by
  have spoilt : inBase? 10 ('-' :: cs) = none := foldl_takeDigit_none 10 cs
  have plain : magnitude? ('-' :: cs) =
      if hasLeadingZero ('-' :: cs) then none else inBase? 10 ('-' :: cs) := rfl
  rw [plain, spoilt, ite_self]

theorem unsigned?_negSucc (limit n : Nat) : unsigned? limit (toString (Int.negSucc n)) = none := by
  have unsigned : (('-' :: Nat.toDigits 10 (n + 1)).head? == some '+') = false := rfl
  simp only [unsigned?, toList_negSucc, unsigned, Bool.false_eq_true, if_false, magnitude?_minus,
    Option.filter_none]

theorem negative?_negSucc {limit n : Nat} (within : n < limit) :
    negative? limit (toString (Int.negSucc n)) = some (Int.negSucc n) := by
  have inRange : (some (n + 1)).filter (fun m => decide (m ≤ limit)) = some (n + 1) := by
    simp [Option.filter, Nat.succ_le_of_lt within]
  simp only [negative?, toList_negSucc, magnitude?_toDigits, inRange]
  rfl

end DeviceAdmission.Yaml

namespace DeviceAdmission.Wire

open Yaml (Block Document Mark MembersHold Node ProperMembers Style Uri isNullWord meansItself
  meansItself_of_plain negative?_negSucc plainMeaning styleOf unsigned?_negSucc unsigned?_toString)

theorem yamlWhole?_natural {width : Width} {n : Nat} (natural : 0 ≤ width.range.1)
    (within : n ≤ 0xFFFF_FFFF_FFFF_FFFF) : yamlWhole? width (toString (n : Int)) = some (n : Int) := by
  have text : toString (n : Int) = toString n := rfl
  rw [yamlWhole?, if_neg (by omega), text, unsigned?_toString within]
  rfl

/-- The digits of a number are read as the number. -/
theorem yamlWhole?_toString (width : Width) (v : width.Carrier) :
    yamlWhole? width (toString (width.toInt v)) = some (width.toInt v) := by
  cases width with
  | unsigned16 =>
    have bound := UInt16.toNat_lt v
    exact yamlWhole?_natural (by decide) (by omega)
  | signed32 =>
    have low := Int32.le_toInt v
    have high := Int32.toInt_lt v
    simp only [Width.toInt, yamlWhole?, Width.range]
    cases value : Int32.toInt v with
    | ofNat n =>
      have text : toString (Int.ofNat n) = toString n := rfl
      rw [value] at high
      have small : (n : Int) < 0x8000_0000 := high
      rw [text, unsigned?_toString (by omega)]
      rfl
    | negSucc n =>
      rw [value] at low
      rw [unsigned?_negSucc, negative?_negSucc (by omega)]
      rfl
  | unsigned32 =>
    have bound := UInt32.toNat_lt v
    exact yamlWhole?_natural (by decide) (by omega)
  | unsigned64 =>
    have bound := UInt64.toNat_lt v
    exact yamlWhole?_natural (by decide) (by omega)
  | size =>
    have bound := UInt64.toNat_lt v
    exact yamlWhole?_natural (by decide) (by omega)

theorem isName_toString (n : Nat) : Yaml.IsName (toString n).toList := by
  rw [Json.toList_toString_nat]
  obtain ⟨filled, digits⟩ := Json.areDigits_toDigits n
  refine ⟨filled, fun c member => ?_⟩
  simp [Yaml.isNameLetter, Char.isAlphanum, digits c member]

theorem isName_bool (b : Bool) : Yaml.IsName (Text.Diagnostic.bool b).toList := by
  cases b <;> exact (Yaml.isName_of_isKey (by decide)).1

/-! ## Written forms -/

mutual

/-- A block is the written form of a value. Lists and tables have none. -/
def Shape.WrittenAs : (s : Shape) → s.Carrier → Block → Prop
  | .text, v, block => block = .text v
  | .flag, v, block => block = .word (Text.Diagnostic.bool v)
  | .whole width, v, block => block = .word (toString (width.toInt v))
  | .choice labels, v, block => block = .text (labels.get v)
  | .registered names _, v, block => block = .text v ∧ v ∈ names
  | .list _, _, _ => False
  | .table, _, _ => False
  | .record _ _ fields, v, block => ∃ members, block = .mapping members ∧ fields.WrittenAs v members

/-- Some members are the written form of a record; fields without a value are left out. -/
def Fields.WrittenAs : (fs : Fields) → fs.Carrier → List (String × Block) → Prop
  | .done, _, members => members = []
  | .required key shape rest, (v, vs), members =>
    ∃ block later, members = (key, block) :: later ∧ shape.WrittenAs v block ∧ rest.WrittenAs vs later
  | .defaulted key shape rest, (slot, vs), members =>
    match slot with
    | some v => ∃ block later,
        members = (key, block) :: later ∧ shape.WrittenAs v block ∧ rest.WrittenAs vs later
    | none => rest.WrittenAs vs members
  | .optional key _ shape rest, (slot, vs), members =>
    match slot with
    | some v => ∃ block later,
        members = (key, block) :: later ∧ shape.WrittenAs v block ∧ rest.WrittenAs vs later
    | none => rest.WrittenAs vs members

end

/-- A record is written with some of its keys. -/
theorem Fields.keys_of_writtenAs : (fs : Fields) → ∀ {v : fs.Carrier} {members : List (String × Block)},
    fs.WrittenAs v members → (members.map Prod.fst).Sublist fs.keys
  | .done, _, _, rfl => .slnil
  | .required key _ rest, (_, _), _, ⟨_, _, rfl, _, later⟩ =>
    (rest.keys_of_writtenAs later).cons_cons key
  | .defaulted key _ rest, (some _, _), _, ⟨_, _, rfl, _, later⟩ =>
    (rest.keys_of_writtenAs later).cons_cons key
  | .defaulted key _ rest, (none, _), _, later => (rest.keys_of_writtenAs later).cons key
  | .optional key _ _ rest, (some _, _), _, ⟨_, _, rfl, _, later⟩ =>
    (rest.keys_of_writtenAs later).cons_cons key
  | .optional key _ _ rest, (none, _), _, later => (rest.keys_of_writtenAs later).cons key

/-! ## Reading a written value -/

variable {d : Document} {path : String}

/-- Nothing that is written stands for another node. -/
theorem resolve_of_holds {block : Block} {node : Node} (holds : block.Holds node) :
    d.resolve node = node := by
  cases block with
  | word s =>
    obtain ⟨mark, rfl⟩ := holds
    rfl
  | text s =>
    obtain ⟨mark, rfl⟩ := holds
    rfl
  | mapping members =>
    obtain ⟨mark, entries, rfl, -⟩ := holds
    rfl

/-- A reader of slots leaves the first slot as it is for every key but one. -/
def PassesYaml {σ τ : Type} (key : String)
    (putAll : String → Mark → String → Node → τ × σ → Except YamlError (τ × σ))
    (put : String → Mark → String → Node → σ → Except YamlError σ) : Prop :=
  ∀ {other : String}, key ≠ other →
    ∀ (inner : String) (mark : Mark) (node : Node) (slot : τ) (slots : σ),
      putAll inner mark other node (slot, slots) =
      (put inner mark other node slots).map fun slots => (slot, slots)

section

variable {σ τ : Type} {key : String}
  {putAll : String → Mark → String → Node → τ × σ → Except YamlError (τ × σ)}
  {put : String → Mark → String → Node → σ → Except YamlError σ}
  {members : List (String × Block)} {entries : List (Node × Node)} {slots last : σ}

/-- Entries with other keys leave the first slot as it is. -/
theorem readEntries_past (passes : PassesYaml key putAll put) (hold : MembersHold members entries)
    (absent : key ∉ members.map Prod.fst) (read : readEntries d path put entries slots = .ok last)
    (slot : τ) : readEntries d path putAll entries (slot, slots) = .ok (slot, last) := by
  induction members generalizing entries slots with
  | nil =>
    obtain rfl := hold
    cases read
    rfl
  | cons member rest ih =>
    obtain ⟨other, value⟩ := member
    obtain ⟨mark, node, later, rfl, -, hold⟩ := hold
    rw [List.map_cons, List.mem_cons, not_or] at absent
    have here := passes absent.1
    simp only [readEntries, Document.resolve, here] at read ⊢
    cases taken : put (memberPath path (.scalar mark none other .plain)) mark other node slots with
    | error e => simp [taken, bind, Except.bind] at read
    | ok next =>
      rw [taken] at read
      exact ih hold absent.2 read

/-- An entry with the key fills the first slot. -/
theorem readEntries_own (passes : PassesYaml key putAll put) {mark : Mark} {node : Node}
    {empty full : τ} (taken : ∀ inner, putAll inner mark key node (empty, slots) = .ok (full, slots))
    (hold : MembersHold members entries) (absent : key ∉ members.map Prod.fst)
    (read : readEntries d path put entries slots = .ok last) :
    readEntries d path putAll ((.scalar mark none key .plain, node) :: entries) (empty, slots) =
      .ok (full, last) := by
  simp only [readEntries, Document.resolve, taken, bind, Except.bind]
  exact readEntries_past passes hold absent read full

end

section

variable {key inner : String} {shape : Shape} {rest : Fields} {strict : Option (List String)}
  {mark : Mark} {node : Node} {slots : rest.Slots} {v : shape.Carrier}

theorem Fields.passesYaml_required :
    PassesYaml key ((Fields.required key shape rest).putYaml d strict path)
      (rest.putYaml d strict path) := by
  intro other differs inner mark node slot slots
  simp only [Fields.putYaml, beq_iff_eq, if_neg differs]
  rfl

theorem Fields.passesYaml_defaulted :
    PassesYaml key ((Fields.defaulted key shape rest).putYaml d strict path)
      (rest.putYaml d strict path) := by
  intro other differs inner mark node slot slots
  simp only [Fields.putYaml, beq_iff_eq, if_neg differs]
  rfl

theorem Fields.passesYaml_optional {lax : Bool} :
    PassesYaml key ((Fields.optional key lax shape rest).putYaml d strict path)
      (rest.putYaml d strict path) := by
  intro other differs inner mark node slot slots
  simp only [Fields.putYaml, beq_iff_eq, if_neg differs]
  rfl

theorem Fields.putYaml_required (own : shape.ofYaml d inner node = .ok v) :
    (Fields.required key shape rest).putYaml d strict path inner mark key node (none, slots) =
      .ok (some v, slots) := by
  simp only [Fields.putYaml, beq_self_eq_true, if_true, own]
  rfl

theorem Fields.putYaml_defaulted (own : shape.ofYaml d inner node = .ok v) :
    (Fields.defaulted key shape rest).putYaml d strict path inner mark key node (none, slots) =
      .ok (some v, slots) := by
  simp only [Fields.putYaml, beq_self_eq_true, if_true, own]
  rfl

/-- A text is not written as a word for null. -/
theorem isNullScalar_text (s : String) : isNullScalar (styleOf s) s = false := by
  rw [isNullScalar, Bool.and_eq_false_iff]
  by_cases plain : styleOf s = .plain
  · right
    have meant := meansItself_of_plain plain
    by_cases null : (s.isEmpty || isNullWord s) = true
    · have other : plainMeaning s = .null := by rw [plainMeaning, if_pos null]
      rw [meansItself, other] at meant
      cases meant
    · simpa using null
  · left
    simpa using plain

theorem isNullScalar_whole (width : Width) (v : width.Carrier) (style : Style) :
    isNullScalar style (toString (width.toInt v)) = false := by
  have read := yamlWhole?_toString width v
  -- no word for null is read as a number
  have numeral : ∀ s : String, (s.isEmpty || isNullWord s) = true → yamlWhole? width s = none := by
    intro s null
    have listed : s ∈ ["", "null", "Null", "NULL", "~"] := by
      simpa [isNullWord] using null
    have refused : ∀ w : Width, ∀ s ∈ ["", "null", "Null", "NULL", "~"], yamlWhole? w s = none := by
      intro w
      cases w <;> decide
    exact refused width s listed
  rw [isNullScalar, Bool.and_eq_false_iff]
  right
  by_cases null : (toString (width.toInt v)).isEmpty || isNullWord (toString (width.toInt v))
  · rw [numeral _ null] at read
    cases read
  · simpa using null

/-- No value is written as null. -/
theorem Shape.isNullScalar_of_writtenAs {block : Block} {v : shape.Carrier} {tag : Option Uri}
    {text : String} {style : Style} (written : shape.WrittenAs v block)
    (holds : block.Holds (.scalar mark tag text style)) :
    isNullScalar style text = false := by
  cases shape with
  | text =>
    obtain rfl := written
    obtain ⟨_, same⟩ := holds
    obtain ⟨-, -, rfl, rfl⟩ := Node.scalar.inj same
    exact isNullScalar_text _
  | flag =>
    obtain rfl := written
    obtain ⟨_, same⟩ := holds
    obtain ⟨-, -, rfl, rfl⟩ := Node.scalar.inj same
    cases v <;> rfl
  | whole width =>
    obtain rfl := written
    obtain ⟨_, same⟩ := holds
    obtain ⟨-, -, rfl, rfl⟩ := Node.scalar.inj same
    exact isNullScalar_whole width v .plain
  | choice labels =>
    obtain rfl := written
    obtain ⟨_, same⟩ := holds
    obtain ⟨-, -, rfl, rfl⟩ := Node.scalar.inj same
    exact isNullScalar_text _
  | registered names complaint =>
    obtain ⟨rfl, -⟩ := written
    obtain ⟨_, same⟩ := holds
    obtain ⟨-, -, rfl, rfl⟩ := Node.scalar.inj same
    exact isNullScalar_text _
  | list item => exact written.elim
  | table => exact written.elim
  | record name strict fields =>
    obtain ⟨members, rfl, -⟩ := written
    obtain ⟨_, _, same, -⟩ := holds
    cases same

theorem Fields.putYaml_optional {lax : Bool} {block : Block} (written : shape.WrittenAs v block)
    (holds : block.Holds node) (own : shape.ofYaml d inner node = .ok v) :
    (Fields.optional key lax shape rest).putYaml d strict path inner mark key node (none, slots) =
      .ok (some (some v), slots) := by
  simp only [Fields.putYaml, beq_self_eq_true, if_true, resolve_of_holds holds]
  cases node with
  | scalar place tag text style =>
    simp only [Shape.isNullScalar_of_writtenAs written holds, own]
    rfl
  | void => cases block <;> simp [Block.Holds] at holds
  | _ =>
    simp only [own]
    rfl

end

/-! ## Reading the node of each shape

The equations of the reader at the nodes that are written; Lean's own take too long to make. -/

theorem Shape.ofYaml_whole (width : Width) (text : String) (mark : Mark) :
    (Shape.whole width).ofYaml d path (.scalar mark none text .plain) =
      match yamlWhole? width text with
      | some n =>
        match width.ofInt? n with
        | some v => .ok v
        | none =>
          .error (.mismatch (.wrongValue (meaningName (.whole n)) width.name) (some (mark, path)))
      | none => wrongNode d width.name path (.scalar mark none text .plain) := rfl

theorem Shape.ofYaml_choice (labels : List String) (text : String) (style : Style) (mark : Mark) :
    (Shape.choice labels).ofYaml d path (.scalar mark none text style) =
      YamlError.located mark path (match indexOf? text labels with
        | some i => .ok i
        | none => .error (.mismatch (.unknownVariant text labels) none)) := rfl

theorem Shape.ofYaml_registered (names : List String) (complaint text : String) (style : Style)
    (mark : Mark) :
    (Shape.registered names complaint).ofYaml d path (.scalar mark none text style) =
      if names.contains text then .ok text
      else .error (.mismatch (.unregistered complaint text) (some (mark, path))) := rfl

theorem Shape.ofYaml_record (name : String) (strict : Bool) (fields : Fields) (mark : Mark)
    (entries : List (Node × Node)) :
    (Shape.record name strict fields).ofYaml d path (.mapping mark none entries true) =
      YamlError.located mark path (do
        let slots ← readEntries d path
          (fields.putYaml d (if strict then some fields.keys else none) path) entries fields.empty
        checkClosed d true
        fields.finishYaml slots) := rfl

mutual

/-- A node that holds a written value is read as the value. -/
theorem Shape.ofYaml_of_holds : (s : Shape) → s.Lawful → ∀ {v : s.Carrier} {block : Block},
    s.WrittenAs v block → ∀ (path : String) {node : Node}, block.Holds node →
      s.ofYaml d path node = .ok v
  | .text, _, v, _, written, path, _, holds => by
    obtain rfl := written
    obtain ⟨mark, rfl⟩ := holds
    rfl
  | .flag, _, v, _, written, path, _, holds => by
    obtain rfl := written
    obtain ⟨mark, rfl⟩ := holds
    cases v <;> rfl
  | .whole width, _, v, _, written, path, _, holds => by
    obtain rfl := written
    obtain ⟨mark, rfl⟩ := holds
    rw [Shape.ofYaml_whole, yamlWhole?_toString width v]
    simp only [width.ofInt?_toInt v]
  | .choice labels, lawful, v, _, written, path, _, holds => by
    obtain rfl := written
    obtain ⟨mark, rfl⟩ := holds
    rw [Shape.ofYaml_choice, indexOf?_get lawful v]
    rfl
  | .registered names _, _, v, _, written, path, _, holds => by
    obtain ⟨rfl, member⟩ := written
    obtain ⟨mark, rfl⟩ := holds
    have known : names.contains v = true := List.contains_iff_mem.2 member
    exact (Shape.ofYaml_registered ..).trans (if_pos known)
  | .record _ strict fields, lawful, v, _, written, path, _, holds => by
    obtain ⟨members, rfl, written⟩ := written
    obtain ⟨mark, entries, rfl, hold⟩ := holds
    have read := fields.readEntries_of_hold lawful.2 lawful.1 written
      (if strict then some fields.keys else none) path hold
    rw [Shape.ofYaml_record, read]
    simp only [bind, Except.bind, checkClosed, if_true, Fields.finishYaml, fields.finish_slotsOf v]
    rfl

/-- The entries of a written record fill its slots. -/
theorem Fields.readEntries_of_hold : (fs : Fields) → fs.Lawful → fs.keys.Nodup →
    ∀ {v : fs.Carrier} {members : List (String × Block)}, fs.WrittenAs v members →
    ∀ (strict : Option (List String)) (path : String) {entries : List (Node × Node)},
      MembersHold members entries →
      readEntries d path (fs.putYaml d strict path) entries fs.empty = .ok (fs.slotsOf v)
  | .done, _, _, _, _, written, _, _, _, hold => by
    obtain rfl := written
    obtain rfl := hold
    rfl
  | .required key shape rest, lawful, different, (v, vs), _, written, strict, path, _, hold => by
    obtain ⟨fresh, apart⟩ := List.nodup_cons.1 different
    obtain ⟨block, later, rfl, here, written⟩ := written
    obtain ⟨mark, node, entries, rfl, holds, hold⟩ := hold
    have own := fun inner => shape.ofYaml_of_holds lawful.1 here inner holds
    have read := rest.readEntries_of_hold lawful.2 apart written strict path hold
    exact readEntries_own Fields.passesYaml_required (fun inner => Fields.putYaml_required (own inner))
      hold (fun found => fresh ((rest.keys_of_writtenAs written).subset found)) read
  | .defaulted key shape rest, lawful, different, (none, vs), _, written, strict, path, _, hold => by
    obtain ⟨fresh, apart⟩ := List.nodup_cons.1 different
    have read := rest.readEntries_of_hold lawful.2 apart written strict path hold
    exact readEntries_past Fields.passesYaml_defaulted hold
      (fun found => fresh ((rest.keys_of_writtenAs written).subset found)) read none
  | .defaulted key shape rest, lawful, different, (some v, vs), _, written, strict, path, _, hold => by
    obtain ⟨fresh, apart⟩ := List.nodup_cons.1 different
    obtain ⟨block, later, rfl, here, written⟩ := written
    obtain ⟨mark, node, entries, rfl, holds, hold⟩ := hold
    have own := fun inner => shape.ofYaml_of_holds lawful.1 here inner holds
    have read := rest.readEntries_of_hold lawful.2 apart written strict path hold
    exact readEntries_own Fields.passesYaml_defaulted
      (fun inner => Fields.putYaml_defaulted (own inner)) hold
      (fun found => fresh ((rest.keys_of_writtenAs written).subset found)) read
  | .optional key _ shape rest, lawful, different, (none, vs), _, written, strict, path, _, hold => by
    obtain ⟨fresh, apart⟩ := List.nodup_cons.1 different
    have read := rest.readEntries_of_hold lawful.2 apart written strict path hold
    exact readEntries_past Fields.passesYaml_optional hold
      (fun found => fresh ((rest.keys_of_writtenAs written).subset found)) read none
  | .optional key _ shape rest, lawful, different, (some v, vs), _, written, strict, path, _, hold => by
    obtain ⟨fresh, apart⟩ := List.nodup_cons.1 different
    obtain ⟨block, later, rfl, here, written⟩ := written
    obtain ⟨mark, node, entries, rfl, holds, hold⟩ := hold
    have own := fun inner => shape.ofYaml_of_holds lawful.1 here inner holds
    have read := rest.readEntries_of_hold lawful.2 apart written strict path hold
    exact readEntries_own Fields.passesYaml_optional
      (fun inner => Fields.putYaml_optional here holds (own inner)) hold
      (fun found => fresh ((rest.keys_of_writtenAs written).subset found)) read

end

/-- The text of a written value is read as the value. -/
theorem Shape.parseYaml_writeMembers {s : Shape} (lawful : s.Lawful) {v : s.Carrier}
    {members : List (String × Block)} (written : s.WrittenAs v (.mapping members))
    (filled : members ≠ []) (proper : ProperMembers members) :
    s.parseYaml (Yaml.writeMembers 0 members) = .ok v := by
  obtain ⟨fault, followed, holds⟩ := Yaml.ofText_holds filled proper
  have read : s.ofYaml (Document.ofText (Yaml.writeMembers 0 members)) "" _ = .ok v :=
    s.ofYaml_of_holds lawful written "" holds
  unfold Shape.parseYaml
  simp only [read, fault, followed, bind, Except.bind]
  rfl

theorem Form.parseYaml_writeMembers {α : Type} {form : Form α} (lawful : form.Lawful) {value : α}
    {members : List (String × Block)}
    (written : form.shape.WrittenAs (form.toCarrier value) (.mapping members))
    (filled : members ≠ []) (proper : ProperMembers members) :
    form.parseYaml (Yaml.writeMembers 0 members) = .ok value := by
  rw [Form.parseYaml, Shape.parseYaml_writeMembers lawful.shape written filled proper]
  exact congrArg Except.ok (lawful.same value)

end DeviceAdmission.Wire
