import DeviceAdmission.Proofs.Delegate.Pinned

/-!
# Fingerprints as people write them

A fingerprint is printed as sixty-four lower-case digits, and pasted back in upper or lower case and
with colons in it. `normal` is what counts of a text: its characters without the colons, letters in
lower case. `Spells` says the same from the side of the writer, character by character.

* `Text.Hex.bytes?_eq_some_iff`: digits are read as some bytes exactly if they are those of the bytes
  but for the case of letters.
* `Fingerprint.parse?_eq_some_iff`, `Fingerprint.spells_iff`: a text is read as a fingerprint exactly
  if it comes down to its digits, which is if it spells them.
* `fingerprints_read_back`: so what is printed of a certificate pins that certificate.
-/
namespace DeviceAdmission

/-! ## Digits -/

namespace Text.Hex

/-- The sixteen digits, by their values. -/
def sixteen : List Char := "0123456789abcdef".toList

theorem digit_eq {n : Nat} (small : n < 16) : digit n = sixteen.getD n '0' := by
  revert n
  decide

theorem toNat_digit {n : Nat} (small : n < 16) :
    (digit n).toNat = if n < 10 then 48 + n else 87 + n := by
  revert n
  decide

/-- Only the letters of ASCII have a lower case. -/
theorem toNat_toLower (c : Char) :
    c.toLower.toNat = if 65 ≤ c.toNat ∧ c.toNat ≤ 90 then c.toNat + 32 else c.toNat := by
  have upper : (c.val ≥ 'A'.val ∧ c.val ≤ 'Z'.val) ↔ 65 ≤ c.toNat ∧ c.toNat ≤ 90 := Iff.rfl
  unfold Char.toLower
  split_ifs with letter number number
  · have sum : (c.val + 32).toNat = (c.val.toNat + 32) % 4294967296 := UInt32.toNat_add _ _
    have least : c.val.toNat ≤ 90 := number.2
    change (c.val + 32).toNat = c.val.toNat + 32
    omega
  · exact absurd (upper.1 letter) number
  · exact absurd (upper.2 number) letter
  · rfl

theorem value?_eq_some_iff_toNat (c : Char) (n : Nat) : value? c = some n ↔
    48 ≤ c.toNat ∧ c.toNat ≤ 57 ∧ c.toNat = 48 + n ∨
      97 ≤ c.toNat ∧ c.toNat ≤ 102 ∧ c.toNat = 87 + n ∨
        65 ≤ c.toNat ∧ c.toNat ≤ 70 ∧ c.toNat = 55 + n := by
  unfold value?
  dsimp only
  split_ifs with digit small capital
  · rw [Option.some_inj]
    omega
  · rw [Option.some_inj]
    omega
  · rw [Option.some_inj]
    omega
  · simp only [false_iff]
    omega

/-- A character has the value of the digit that it is in lower case. -/
theorem value?_eq_some_iff (c : Char) (n : Nat) :
    value? c = some n ↔ n < 16 ∧ c.toLower = digit n := by
  have lower : n < 16 → (c.toLower = digit n ↔ (if 65 ≤ c.toNat ∧ c.toNat ≤ 90 then c.toNat + 32
      else c.toNat) = if n < 10 then 48 + n else 87 + n) := by
    intro small
    rw [← Char.toNat_inj, toNat_toLower, toNat_digit small]
  rw [value?_eq_some_iff_toNat]
  constructor
  · intro range
    have small : n < 16 := by omega
    refine ⟨small, (lower small).2 ?_⟩
    split_ifs <;> omega
  · rintro ⟨small, same⟩
    have number := (lower small).1 same
    split_ifs at number <;> omega

theorem length_digits (bytes : List UInt8) : (digits bytes).length = 2 * bytes.length := by
  induction bytes with
  | nil => rfl
  | cons b rest ih =>
    simp only [digits, List.length_cons, ih]
    omega

theorem halves_lt (b : UInt8) : b.toNat / 16 < 16 ∧ b.toNat % 16 < 16 := by
  have := b.toNat_lt
  omega

/-- Each byte is written by the digits of its halves. -/
theorem digits_eq (bytes : List UInt8) : digits bytes =
    bytes.flatMap fun b => [sixteen.getD (b.toNat / 16) '0', sixteen.getD (b.toNat % 16) '0'] := by
  induction bytes with
  | nil => rfl
  | cons b rest ih =>
    obtain ⟨high, low⟩ := halves_lt b
    rw [digits, ih, digit_eq high, digit_eq low]
    rfl

/-- Two digits are read as a byte exactly if they are those of the byte. -/
theorem pair_iff (a b : Char) (byte : UInt8) :
    (∃ high low, value? a = some high ∧ value? b = some low ∧
        byte = UInt8.ofNat (16 * high + low)) ↔
      a.toLower = digit (byte.toNat / 16) ∧ b.toLower = digit (byte.toNat % 16) := by
  constructor
  · rintro ⟨high, low, first, second, rfl⟩
    obtain ⟨highSmall, first⟩ := (value?_eq_some_iff _ _).1 first
    obtain ⟨lowSmall, second⟩ := (value?_eq_some_iff _ _).1 second
    have number : (UInt8.ofNat (16 * high + low)).toNat = 16 * high + low := by
      rw [UInt8.toNat_ofNat']
      omega
    have upper : (16 * high + low) / 16 = high := by omega
    have lower : (16 * high + low) % 16 = low := by omega
    rw [number, upper, lower]
    exact ⟨first, second⟩
  · rintro ⟨first, second⟩
    obtain ⟨highSmall, lowSmall⟩ := halves_lt byte
    refine ⟨_, _, (value?_eq_some_iff _ _).2 ⟨highSmall, first⟩,
      (value?_eq_some_iff _ _).2 ⟨lowSmall, second⟩, ?_⟩
    have whole : 16 * (byte.toNat / 16) + byte.toNat % 16 = byte.toNat := by omega
    rw [whole, UInt8.ofNat_toNat]

theorem bytes?_cons_iff (a b : Char) (rest : List Char) (bytes : List UInt8) :
    bytes? (a :: b :: rest) = some bytes ↔ ∃ byte tail, bytes = byte :: tail ∧
      (∃ high low, value? a = some high ∧ value? b = some low ∧
        byte = UInt8.ofNat (16 * high + low)) ∧ bytes? rest = some tail := by
  rw [bytes?]
  cases value? a <;> cases value? b <;> cases bytes? rest <;> simp [eq_comm]

/-- Characters are read as some bytes exactly if they are their digits, but for the case of
letters. -/
theorem bytes?_eq_some_iff : ∀ (cs : List Char) (bytes : List UInt8),
    bytes? cs = some bytes ↔ cs.map Char.toLower = digits bytes
  | [], [] | [], _ :: _ | [_], [] | [_], _ :: _ => by simp [bytes?, digits]
  | a :: b :: rest, [] => by simp [bytes?_cons_iff, digits]
  | a :: b :: rest, byte :: tail => by
    have later := bytes?_eq_some_iff rest tail
    have pair := pair_iff a b byte
    rw [bytes?_cons_iff]
    constructor
    · rintro ⟨byte, tail, same, read, readLater⟩
      cases same
      obtain ⟨first, second⟩ := pair.1 read
      rw [digits, ← later.1 readLater, ← first, ← second]
      rfl
    · intro lower
      simp only [List.map_cons, digits, List.cons.injEq] at lower
      obtain ⟨first, second, rest⟩ := lower
      exact ⟨byte, tail, rfl, pair.2 ⟨first, second⟩, later.2 rest⟩

theorem mem_sixteen_of_mem_digits {bytes : List UInt8} {d : Char} (member : d ∈ digits bytes) :
    d ∈ sixteen := by
  have get : ∀ n < 16, sixteen.getD n '0' ∈ sixteen := by decide
  rw [digits_eq, List.mem_flatMap] at member
  obtain ⟨b, -, member⟩ := member
  obtain ⟨high, low⟩ := halves_lt b
  simp only [List.mem_cons, List.not_mem_nil, or_false] at member
  rcases member with rfl | rfl
  · exact get _ high
  · exact get _ low

end Text.Hex

/-! ## Spellings -/

namespace Fingerprint

open Text.Hex

/-- What counts of a text: its characters but the colons, letters in lower case. -/
def normal (text : String) : String :=
  String.ofList ((text.toList.filter (· != ':')).map Char.toLower)

/-- A text is read as the fingerprint whose digits it comes down to. -/
theorem parse?_eq_some_iff (text : String) (f : Fingerprint) :
    parse? text = some f ↔ normal text = f.hex := by
  have digits_iff : normal text = f.hex ↔
      bytes? (text.toList.filter (· != ':')) = some f.bytes := by
    rw [bytes?_eq_some_iff, normal, hex, encode, String.ofList_inj]
  rw [digits_iff]
  unfold parse?
  cases bytes? (text.toList.filter (· != ':')) with
  | none => simp
  | some bytes =>
    obtain ⟨own, length⟩ := f
    by_cases whole : bytes.length = 32
    · simp [whole]
    · have other : bytes ≠ own := fun same => whole (same ▸ length)
      simp [whole, other]

/-- A text spells some digits: each stands there in one of its cases, and colons stand anywhere. -/
inductive Spells : List Char → List Char → Prop where
  | done : Spells [] []
  | colon {text digits : List Char} (later : Spells text digits) : Spells (':' :: text) digits
  | lower {text digits : List Char} (d : Char) (later : Spells text digits) :
      Spells (d :: text) (d :: digits)
  | upper {text digits : List Char} (d : Char) (later : Spells text digits) :
      Spells (d.toUpper :: text) (d :: digits)

/-- Both cases of a digit come down to it, and neither is a colon. -/
theorem lower_of_mem_sixteen {d : Char} (member : d ∈ sixteen) :
    d ≠ ':' ∧ d.toUpper ≠ ':' ∧ d.toLower = d ∧ d.toUpper.toLower = d := by
  have each : sixteen.all (fun d =>
      d != ':' && d.toUpper != ':' && d.toLower == d && d.toUpper.toLower == d) = true := by
    decide
  simpa [and_assoc] using List.all_eq_true.1 each d member

/-- A character is one of the cases of what it comes down to. -/
theorem eq_toLower_or (c : Char) : c = c.toLower ∨ c = c.toLower.toUpper := by
  by_cases upper : 'A'.val ≤ c.val ∧ c.val ≤ 'Z'.val
  · right
    have capitals : ∀ n < 91, 65 ≤ n → Char.ofNat n = (Char.ofNat n).toLower.toUpper := by decide
    obtain ⟨low, high⟩ := upper
    rw [UInt32.le_iff_toNat_le] at low high
    have same := capitals c.toNat (Nat.lt_succ_of_le high) low
    rwa [Char.ofNat_toNat] at same
  · left
    have other : ¬ (65 ≤ c.toNat ∧ c.toNat ≤ 90) := upper
    rw [← Char.toNat_inj, toNat_toLower, if_neg other]

/-- By induction on the text: a colon is passed over, and any other character is a case of the next
digit. -/
theorem spells_of_lower (text digits : List Char)
    (lower : (text.filter (· != ':')).map Char.toLower = digits) : Spells text digits := by
  induction text generalizing digits with
  | nil =>
    subst lower
    exact .done
  | cons c text ih =>
    by_cases colon : c = ':'
    · subst colon
      exact .colon (ih digits lower)
    · rw [List.filter_cons_of_pos (by simpa using colon), List.map_cons] at lower
      subst lower
      have later := ih _ rfl
      rcases eq_toLower_or c with small | big
      · rw [← small]
        exact .lower c later
      · have spelled := Spells.upper c.toLower later
        rwa [← big] at spelled

theorem lower_of_spells {text digits : List Char} (spells : Spells text digits)
    (each : ∀ d ∈ digits, d ∈ sixteen) :
    (text.filter (· != ':')).map Char.toLower = digits := by
  induction spells with
  | done => rfl
  | colon later ih => exact ih each
  | lower d later ih =>
    obtain ⟨solid, -, same, -⟩ := lower_of_mem_sixteen (each d List.mem_cons_self)
    rw [List.filter_cons_of_pos (by simpa using solid), List.map_cons, same,
      ih fun e member => each e (List.mem_cons_of_mem _ member)]
  | upper d later ih =>
    obtain ⟨-, solid, -, same⟩ := lower_of_mem_sixteen (each d List.mem_cons_self)
    rw [List.filter_cons_of_pos (by simpa using solid), List.map_cons, same,
      ih fun e member => each e (List.mem_cons_of_mem _ member)]

/-- A text spells the digits of a fingerprint exactly if it comes down to them. -/
theorem spells_iff (text : String) (f : Fingerprint) :
    Spells text.toList f.hex.toList ↔ normal text = f.hex := by
  have digits : f.hex.toList = Text.Hex.digits f.bytes := String.toList_ofList
  have normal_iff : normal text = f.hex ↔
      (text.toList.filter (· != ':')).map Char.toLower = Text.Hex.digits f.bytes := by
    rw [normal, hex, encode, String.ofList_inj]
  rw [normal_iff, digits]
  constructor
  · exact fun spells => lower_of_spells spells fun d member => mem_sixteen_of_mem_digits member
  · exact spells_of_lower _ _

/-- The printed digits spell themselves. -/
theorem parse?_hex (f : Fingerprint) : parse? f.hex = some f := by
  rw [parse?_eq_some_iff, ← spells_iff]
  generalize f.hex.toList = cs
  induction cs with
  | nil => exact .done
  | cons c cs ih => exact .lower c ih

end Fingerprint

/-! ## Pinning what was printed -/

open Fingerprint Text.Hex
open Delegate (PinRegistry)

/-- What people make of a fingerprint is read as the fingerprint, and nothing else is. -/
structure FingerprintsReadBack : Prop where
  /-- A fingerprint is printed as sixty-four digits, two for each byte, the higher half first. -/
  printed : ∀ f : Fingerprint, f.hex.length = 64 ∧ f.hex.toList = f.bytes.flatMap fun b =>
    ["0123456789abcdef".toList.getD (b.toNat / 16) '0',
      "0123456789abcdef".toList.getD (b.toNat % 16) '0']
  /-- A text counts without its colons and in lower case. -/
  reads : ∀ (text : String) (f : Fingerprint), parse? text = some f ↔ normal text = f.hex
  refuses : ∀ text : String, parse? text = none ↔ ∀ f : Fingerprint, normal text ≠ f.hex
  /-- Each digit may be written in either case, and colons may stand anywhere. -/
  spelled : ∀ (text : String) (f : Fingerprint),
    parse? text = some f ↔ Spells text.toList f.hex.toList
  /-- Texts that are read alike come down to the same. -/
  alike : ∀ (text other : String) (f : Fingerprint), parse? text = some f →
    (parse? other = some f ↔ normal other = normal text)
  /-- What is printed of a certificate is read as its digest. -/
  certificate : ∀ c : Certificate, parse? c.fingerprint.hex = some c.fingerprint ∧
    c.fingerprint.bytes = Digest.Sha256.digest c.der
  /-- A device pinned through any spelling of it is accepted with the certificate, whatever is pinned
  besides and whatever follows in the chain. -/
  pinned : ∀ (c : Certificate) (text : String), Spells text.toList c.fingerprint.hex.toList →
    ∃ f, parse? text = some f ∧ ∀ (r : PinRegistry) (id method : String) (rest : Certificate.Chain),
      (r.pin id f).judge ⟨method, id, c :: rest⟩ =
          .ok ⟨id, method, [("fingerprint", .text c.fingerprint.hex)]⟩ ∧
        ∀ methods, method ∈ methods → (r.pinWithMethods id f methods).judge ⟨method, id, c :: rest⟩ =
          .ok ⟨id, method, [("fingerprint", .text c.fingerprint.hex)]⟩

theorem fingerprints_read_back : FingerprintsReadBack where
  printed f := by
    have digits : f.hex.toList = Text.Hex.digits f.bytes := String.toList_ofList
    constructor
    · rw [← String.length_toList, digits, length_digits, f.length_bytes]
    · rw [digits, digits_eq]
      rfl
  reads := parse?_eq_some_iff
  refuses text := by
    rw [Option.eq_none_iff_forall_ne_some]
    simp only [ne_eq, parse?_eq_some_iff]
  spelled text f := by rw [parse?_eq_some_iff, spells_iff]
  alike text other f read := by
    rw [parse?_eq_some_iff] at read ⊢
    rw [read]
  certificate c := ⟨parse?_hex c.fingerprint, rfl⟩
  pinned c text spells := by
    refine ⟨c.fingerprint, (parse?_eq_some_iff _ _).2 ((spells_iff _ _).1 spells), ?_⟩
    intro r id method rest
    constructor
    · exact r.judge_put rest rfl nofun
    · intro methods listed
      apply r.judge_put rest rfl
      rintro _ ⟨⟩
      exact listed

end DeviceAdmission
