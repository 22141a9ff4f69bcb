import Mathlib.Data.List.Forall2
import DeviceAdmission.Certificate.Name
import DeviceAdmission.Proofs.Json.Strings

/-!
# Texts of subjects, without the decoders

A subject is shown as its attributes, each with its type and its value, in the order of the
certificate. `Value.Reads` says which text a value has by encoding the text again: as UTF-8, or in
units of two or four octets. Values of other types are shown in hexadecimal digits.

* `decode16_eq_some_iff`, `decode32_eq_some_iff`: a decoder accepts what is an encoding, and gives
  what it encodes.
* `valueText?_eq_some_iff`, `attributeText?_eq_some_iff`: the texts of values and attributes.
* `Name.spells_iff`: a subject has one text.
-/
namespace DeviceAdmission.Certificate

open Der (Octets)
open Json (octetsOf fromUTF8?_eq_some_iff)

/-! ## Encodings of characters -/

/-- The sixteen-bit units of a character. Beyond the first plane it takes a pair of them. -/
def utf16 (c : Char) : List Nat :=
  if c.toNat < 0x10000 then [c.toNat]
  else [0xD800 + (c.toNat - 0x10000) / 0x400, 0xDC00 + (c.toNat - 0x10000) % 0x400]

/-- Octets as sixteen-bit units, big end first. A last single octet is a unit of its own. -/
inductive Units : Octets → List Nat → Prop where
  | nil : Units [] []
  | single (a : UInt8) : Units [a] [a.toNat]
  | pair (a b : UInt8) {rest : Octets} {us : List Nat} (later : Units rest us) :
      Units (a :: b :: rest) ((256 * a.toNat + b.toNat) :: us)

/-- Octets as characters in four octets each, big end first. -/
inductive Words : Octets → List Char → Prop where
  | nil : Words [] []
  | cons {a b c d : UInt8} {char : Char} {rest : Octets} {chars : List Char}
      (value : char.toNat = 256 * (256 * (256 * a.toNat + b.toNat) + c.toNat) + d.toNat)
      (later : Words rest chars) : Words (a :: b :: c :: d :: rest) (char :: chars)

theorem toNat_ofNat {n : Nat} (valid : n.isValidChar) : (Char.ofNat n).toNat = n := by
  rw [Char.ofNat, dif_pos valid]
  rfl

theorem units_iff (octets : Octets) (us : List Nat) :
    Units octets us ↔ us = Name.units16 octets := by
  constructor
  · intro units
    induction units with
    | nil => rfl
    | single a => rfl
    | pair a b later ih => rw [Name.units16, ih]
  · rintro rfl
    induction octets using Name.units16.induct with
    | case1 a b rest ih => exact .pair a b ih
    | case2 a => exact .single a
    | case3 => exact .nil

theorem units16_lt (octets : Octets) : ∀ u ∈ Name.units16 octets, u < 0x10000 := by
  induction octets using Name.units16.induct with
  | case1 a b rest ih =>
    have high := a.toNat_lt
    have low := b.toNat_lt
    exact List.forall_mem_cons.2 ⟨by omega, ih⟩
  | case2 a =>
    have high := a.toNat_lt
    exact List.forall_mem_singleton.2 (by omega)
  | case3 => exact nofun

/-! ### Sixteen-bit units -/

theorem decode16_append (c : Char) (us : List Nat) :
    Name.decode16 (utf16 c ++ us) = (Name.decode16 us).map (c :: ·) := by
  have valid : c.toNat < 0xD800 ∨ 0xDFFF < c.toNat ∧ c.toNat < 0x110000 := c.valid
  unfold utf16
  split
  · have leads : ¬ (0xD800 ≤ c.toNat ∧ c.toNat ≤ 0xDBFF) := by omega
    have trails : ¬ (0xDC00 ≤ c.toNat ∧ c.toNat ≤ 0xDFFF) := by omega
    rw [List.singleton_append, Name.decode16.eq_def]
    simp only [Bool.and_eq_true, decide_eq_true_eq, leads, trails, if_false, Char.ofNat_toNat]
  · have leads : 0xD800 ≤ 0xD800 + (c.toNat - 0x10000) / 0x400 ∧
        0xD800 + (c.toNat - 0x10000) / 0x400 ≤ 0xDBFF := by omega
    have trails : 0xDC00 ≤ 0xDC00 + (c.toNat - 0x10000) % 0x400 ∧
        0xDC00 + (c.toNat - 0x10000) % 0x400 ≤ 0xDFFF := by omega
    have whole : 0x10000 + (0xD800 + (c.toNat - 0x10000) / 0x400 - 0xD800) * 0x400 +
        (0xDC00 + (c.toNat - 0x10000) % 0x400 - 0xDC00) = c.toNat := by omega
    rw [List.cons_append, List.singleton_append, Name.decode16]
    simp only [Bool.and_eq_true, decide_eq_true_eq, leads, trails, and_self, if_true, whole,
      Char.ofNat_toNat]

theorem utf16_basic {u : Nat} (small : u < 0x10000) (leads : ¬ (0xD800 ≤ u ∧ u ≤ 0xDBFF))
    (trails : ¬ (0xDC00 ≤ u ∧ u ≤ 0xDFFF)) : utf16 (Char.ofNat u) = [u] := by
  have valid : u.isValidChar := by
    unfold Nat.isValidChar
    omega
  rw [utf16, toNat_ofNat valid, if_pos small]

theorem utf16_pair {u v : Nat} (leads : 0xD800 ≤ u ∧ u ≤ 0xDBFF)
    (trails : 0xDC00 ≤ v ∧ v ≤ 0xDFFF) :
    utf16 (Char.ofNat (0x10000 + (u - 0xD800) * 0x400 + (v - 0xDC00))) = [u, v] := by
  have valid : (0x10000 + (u - 0xD800) * 0x400 + (v - 0xDC00)).isValidChar := by
    unfold Nat.isValidChar
    omega
  have high : 0xD800 + (0x10000 + (u - 0xD800) * 0x400 + (v - 0xDC00) - 0x10000) / 0x400 = u := by
    omega
  have low : 0xDC00 + (0x10000 + (u - 0xD800) * 0x400 + (v - 0xDC00) - 0x10000) % 0x400 = v := by
    omega
  rw [utf16, toNat_ofNat valid, if_neg (by omega), high, low]

theorem utf16_of_decode16 {us : List Nat} {chars : List Char} (bounded : ∀ u ∈ us, u < 0x10000)
    (decoded : Name.decode16 us = some chars) : us = chars.flatMap utf16 := by
  induction us using Name.decode16.induct generalizing chars with
  | case1 =>
    cases decoded
    rfl
  | case2 u leads =>
    rw [Name.decode16, if_pos leads] at decoded
    cases decoded
  | case3 u leads v rest trails ih =>
    rw [Name.decode16, if_pos leads] at decoded
    simp only [if_pos trails] at decoded
    obtain ⟨later, own, rfl⟩ := Option.map_eq_some_iff.1 decoded
    simp only [Bool.and_eq_true, decide_eq_true_eq] at leads trails
    rw [List.flatMap_cons, utf16_pair leads trails,
      ← ih (fun w member => bounded w (by simp [member])) own]
    rfl
  | case4 u leads v rest trails =>
    rw [Name.decode16, if_pos leads] at decoded
    simp only [if_neg trails] at decoded
    cases decoded
  | case5 u rest leads trails =>
    rw [Name.decode16.eq_def] at decoded
    simp only [if_neg leads, if_pos trails] at decoded
    cases decoded
  | case6 u rest leads trails ih =>
    rw [Name.decode16.eq_def] at decoded
    simp only [if_neg leads, if_neg trails] at decoded
    obtain ⟨later, own, rfl⟩ := Option.map_eq_some_iff.1 decoded
    simp only [Bool.and_eq_true, decide_eq_true_eq] at leads trails
    obtain ⟨small, bounded⟩ := List.forall_mem_cons.1 bounded
    rw [List.flatMap_cons, utf16_basic small leads trails, ← ih bounded own]
    rfl

theorem decode16_eq_some_iff {us : List Nat} (bounded : ∀ u ∈ us, u < 0x10000)
    (chars : List Char) : Name.decode16 us = some chars ↔ us = chars.flatMap utf16 := by
  refine ⟨utf16_of_decode16 bounded, ?_⟩
  rintro rfl
  clear bounded
  induction chars with
  | nil => rfl
  | cons c chars ih => rw [List.flatMap_cons, decode16_append, ih, Option.map_some]

/-! ### Words -/

theorem decode32_of_words {octets : Octets} {chars : List Char} (words : Words octets chars) :
    Name.decode32 octets = some chars := by
  induction words with
  | nil => rfl
  | @cons a b c d char rest chars value later ih =>
    have big : Der.bigEndian [a, b, c, d] = char.toNat := by
      simp [Der.bigEndian, value]
    have valid : char.toNat.isValidChar := char.valid
    simp [Name.decode32, big, valid, ih]

theorem words_of_decode32 {octets : Octets} {chars : List Char}
    (decoded : Name.decode32 octets = some chars) : Words octets chars := by
  induction octets using Name.decode32.induct generalizing chars with
  | case1 =>
    cases decoded
    exact .nil
  | case2 a b c d rest valid ih =>
    simp only [Name.decode32, if_pos valid] at decoded
    obtain ⟨later, own, rfl⟩ := Option.map_eq_some_iff.1 decoded
    refine .cons ?_ (ih own)
    rw [toNat_ofNat valid]
    simp [Der.bigEndian]
  | case3 a b c d rest invalid =>
    simp only [Name.decode32, if_neg invalid] at decoded
    cases decoded
  | case4 octets some four =>
    rw [Name.decode32] at decoded
    · cases decoded
    · exact some
    · exact four

theorem decode32_eq_some_iff (octets : Octets) (chars : List Char) :
    Name.decode32 octets = some chars ↔ Words octets chars :=
  ⟨words_of_decode32, decode32_of_words⟩

/-! ## Values -/

def hexDigits : List Char :=
  ['0', '1', '2', '3', '4', '5', '6', '7', '8', '9', 'A', 'B', 'C', 'D', 'E', 'F']

/-- The upper-case hexadecimal digits of octets, two for each. -/
def digits (octets : Octets) : List Char :=
  octets.flatMap fun b =>
    [hexDigits.getD (b.toNat / 16) '0', hexDigits.getD (b.toNat % 16) '0']

/-- The text of a value. The tags are those of the strings in one octet a character and of UTF-8, of
the strings in two octets and of those in four. -/
inductive Reads (value : Der.Element) : String → Prop where
  | octets {text : String} (tag : value.header.tag ∈ [7, 12, 18, 19, 20, 21, 22, 25, 26, 27])
      (octets : value.content = octetsOf text) : Reads value text
  | units {text : String} (tag : value.header.tag = 30)
      (units : Units value.content (text.toList.flatMap utf16)) : Reads value text
  | words {text : String} (tag : value.header.tag = 28) (words : Words value.content text.toList) :
      Reads value text
  /-- The value is no string. -/
  | digits (tag : value.header.tag ∉ [7, 12, 18, 19, 20, 21, 22, 25, 26, 27, 28, 30]) :
      Reads value (String.ofList (digits value.content))

theorem upperPadded_octet : ∀ n < 256,
    List.replicate (2 - ((Nat.toDigits 16 n).map Char.toUpper).length) '0' ++
        (Nat.toDigits 16 n).map Char.toUpper =
      [hexDigits.getD (n / 16) '0', hexDigits.getD (n % 16) '0'] := by
  decide +kernel

theorem upperHex_eq (octets : Octets) : Name.upperHex octets = String.ofList (digits octets) := by
  unfold Name.upperHex digits
  induction octets with
  | nil => rfl
  | cons b octets ih =>
    rw [List.map_cons, String.join_cons, Text.Hex.upperPadded, upperPadded_octet _ b.toNat_lt, ih,
      List.flatMap_cons, String.ofList_append]

theorem map_ofList_eq_some_iff (chars : Option (List Char)) (text : String) :
    chars.map String.ofList = some text ↔ chars = some text.toList := by
  rw [Option.map_eq_some_iff]
  constructor
  · rintro ⟨own, rfl, rfl⟩
    rw [String.toList_ofList]
  · rintro rfl
    exact ⟨_, rfl, String.ofList_toList⟩

theorem wideText_eq_some_iff (octets : Octets) (text : String) :
    (Name.decode16 (Name.units16 octets)).map String.ofList = some text ↔
      Units octets (text.toList.flatMap utf16) := by
  rw [map_ofList_eq_some_iff, decode16_eq_some_iff (units16_lt octets), units_iff, eq_comm]

theorem valueText?_eq_some_iff (value : Der.Element) (text : String) :
    Name.valueText? value = some text ↔ Reads value text := by
  have strings : Name.octetStringTags.contains value.header.tag = true ↔
      value.header.tag ∈ [7, 12, 18, 19, 20, 21, 22, 25, 26, 27] := by
    simp only [Name.octetStringTags, List.contains_iff_mem, List.mem_cons, List.not_mem_nil,
      or_false]
    omega
  have others (tag : value.header.tag ∉ [7, 12, 18, 19, 20, 21, 22, 25, 26, 27, 28, 30]) :
      ¬ value.header.tag ∈ [7, 12, 18, 19, 20, 21, 22, 25, 26, 27] ∧
        ¬ value.header.tag = 30 ∧ ¬ value.header.tag = 28 := by
    simp only [List.mem_cons, List.not_mem_nil, or_false] at tag ⊢
    omega
  unfold Name.valueText?
  simp only [strings, beq_iff_eq]
  constructor
  · intro shown
    split at shown
    · next tag => exact .octets tag (fromUTF8?_eq_some_iff.1 shown)
    · split at shown
      · next tag => exact .units tag ((wideText_eq_some_iff _ _).1 shown)
      · split at shown
        · next tag =>
          rw [map_ofList_eq_some_iff, decode32_eq_some_iff] at shown
          exact .words tag shown
        · cases shown
          rw [upperHex_eq]
          refine .digits ?_
          simp only [List.mem_cons, List.not_mem_nil, or_false] at *
          omega
  · intro reads
    cases reads with
    | octets tag octets =>
      rw [if_pos tag]
      exact fromUTF8?_eq_some_iff.2 octets
    | units tag units =>
      rw [if_neg (by simp [tag]), if_pos tag]
      exact (wideText_eq_some_iff _ _).2 units
    | words tag words =>
      rw [if_neg (by simp [tag]), if_neg (by simp [tag]), if_pos tag, map_ofList_eq_some_iff,
        decode32_eq_some_iff]
      exact words
    | digits tag =>
      obtain ⟨foreign, wide, wider⟩ := others tag
      rw [if_neg foreign, if_neg wide, if_neg wider, upperHex_eq]

/-! ## Attributes and subjects -/

/-- The text of an attribute. Types that have no name are shown as identifiers. -/
inductive Attribute.Spells (a : Attribute) : String → Prop where
  | named {label text : String} (type : Name.typeNames.lookup a.type = some label)
      (reads : Reads a.value text) : Spells a (label ++ "=" ++ text)
  | unnamed {text : String} (type : Name.typeNames.lookup a.type = none)
      (reads : Reads a.value text) : Spells a ("OID(" ++ Der.dotted a.type ++ ")" ++ "=" ++ text)

/-- The text of a group: its attributes in their order. -/
inductive GroupSpells (group : List Attribute) : String → Prop where
  | intro {texts : List String} (each : List.Forall₂ Attribute.Spells group texts) :
      GroupSpells group (" + ".intercalate texts)

/-- The text of a subject: its groups in their order. -/
inductive Name.Spells (subject : Name) : String → Prop where
  | readable {texts : List String} (each : List.Forall₂ GroupSpells subject texts) :
      Spells subject (", ".intercalate texts)
  /-- One attribute has no text. -/
  | unreadable {group : List Attribute} {a : Attribute} (member : group ∈ subject)
      (inside : a ∈ group) (broken : ∀ text, ¬ a.Spells text) :
      Spells subject "<X509Error: Invalid X.509 name>"

theorem attributeText?_eq_some_iff (a : Attribute) (text : String) :
    Name.attributeText? a = some text ↔ a.Spells text := by
  unfold Name.attributeText? Name.typeText
  simp only [Option.map_eq_some_iff, valueText?_eq_some_iff]
  constructor
  · rintro ⟨own, reads, rfl⟩
    cases type : Name.typeNames.lookup a.type with
    | none => exact .unnamed type reads
    | some label => exact .named type reads
  · rintro (⟨type, reads⟩ | ⟨type, reads⟩) <;> exact ⟨_, reads, by rw [type]; rfl⟩

section

variable {α β : Type} {f : α → Option β}

theorem mapM_eq_some_iff (l : List α) (results : List β) :
    l.mapM f = some results ↔ List.Forall₂ (fun a b => f a = some b) l results := by
  induction l generalizing results with
  | nil =>
    rw [List.mapM_nil, List.forall₂_nil_left_iff]
    exact ⟨fun same => (Option.some.inj same).symm, fun same => same ▸ rfl⟩
  | cons a l ih =>
    rw [List.mapM_cons, List.forall₂_cons_left_iff]
    cases own : f a with
    | none =>
      constructor
      · rintro ⟨⟩
      · rintro ⟨_, _, ⟨⟩, -, -⟩
    | some b =>
      rw [Option.bind_eq_bind, Option.bind_some]
      constructor
      · intro mapped
        obtain ⟨bs, later, same⟩ := Option.bind_eq_some_iff.1 mapped
        exact ⟨b, bs, rfl, (ih bs).1 later, (Option.some.inj same).symm⟩
      · rintro ⟨_, bs, ⟨⟩, later, rfl⟩
        exact Option.bind_eq_some_iff.2 ⟨bs, (ih bs).2 later, rfl⟩

theorem mapM_eq_none_iff (l : List α) : l.mapM f = none ↔ ∃ a ∈ l, f a = none := by
  induction l with
  | nil => simp
  | cons a l ih =>
    rw [List.mapM_cons, List.exists_mem_cons_iff, ← ih]
    cases own : f a with
    | none => exact ⟨fun _ => .inl rfl, fun _ => rfl⟩
    | some b => cases l.mapM f <;> simp

end

theorem groupText?_eq_some_iff (group : List Attribute) (text : String) :
    Name.groupText? group = some text ↔ GroupSpells group text := by
  unfold Name.groupText?
  simp only [Option.map_eq_some_iff, mapM_eq_some_iff, attributeText?_eq_some_iff]
  constructor
  · rintro ⟨texts, each, rfl⟩
    exact ⟨each⟩
  · rintro ⟨each⟩
    exact ⟨_, each, rfl⟩

/-- Every subject has one text. -/
theorem Name.spells_iff (subject : Name) (text : String) :
    subject.Spells text ↔ text = subject.text := by
  have broken (a : Attribute) : (∀ text, ¬ a.Spells text) ↔ Name.attributeText? a = none := by
    simp only [Option.eq_none_iff_forall_ne_some, ← attributeText?_eq_some_iff, ne_eq]
  constructor
  · intro spells
    cases spells with
    | readable each =>
      have shown := each.imp fun group text => (groupText?_eq_some_iff group text).2
      rw [Name.text, (mapM_eq_some_iff _ _).2 shown]
    | @unreadable group a member inside wrong =>
      have unshown : Name.groupText? group = none := by
        rw [Name.groupText?, (mapM_eq_none_iff group).2 ⟨a, inside, (broken a).1 wrong⟩]
        rfl
      rw [Name.text, (mapM_eq_none_iff subject).2 ⟨group, member, unshown⟩]
      rfl
  · rintro rfl
    cases shown : subject.mapM Name.groupText? with
    | some texts =>
      rw [Name.text, shown]
      exact .readable (((mapM_eq_some_iff _ _).1 shown).imp fun group text =>
        (groupText?_eq_some_iff group text).1)
    | none =>
      obtain ⟨group, member, unshown⟩ := (mapM_eq_none_iff subject).1 shown
      obtain ⟨a, inside, wrong⟩ := (mapM_eq_none_iff group).1 (Option.map_eq_none_iff.1 unshown)
      rw [Name.text, shown]
      exact .unreadable member inside ((broken a).2 wrong)

end DeviceAdmission.Certificate
