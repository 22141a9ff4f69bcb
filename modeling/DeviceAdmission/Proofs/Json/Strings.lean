import DeviceAdmission.Json.Document
import DeviceAdmission.Json.Printer
import DeviceAdmission.Proofs.Json.Octets
import Mathlib.Tactic.SplitIfs

/-!
# Quoted texts are read back

A character is written as its own octets or as an escape, and both readings of a string take either
for what it is. `Written` lists the three ways of writing a character; `readText_quote` is the result
for whole texts.
-/
namespace DeviceAdmission.Json

open String (utf8EncodeChar)

/-- Octets that stand for themselves in a string. -/
def IsPlain (b : UInt8) : Prop := b ≠ 34 ∧ b ≠ 92 ∧ ¬ b < 32

/-- The octets that a character is written with. -/
inductive Written (c : Char) : List UInt8 → Prop where
  /-- The character itself. -/
  | plain (octets : ∀ b ∈ utf8EncodeChar c, IsPlain b) : Written c (utf8EncodeChar c)
  /-- A backslash and a letter. -/
  | short {letter value : UInt8} (escape : Source.shortEscape? letter = some value)
      (octets : utf8EncodeChar c = [value]) (other : letter ≠ 117) : Written c [92, letter]
  /-- The number of a control character in four digits. -/
  | unicode {high low : UInt8} (control : c.toNat < 32)
      (first : Text.Hex.value? (Char.ofNat high.toNat) = some (c.toNat / 16))
      (second : Text.Hex.value? (Char.ofNat low.toNat) = some (c.toNat % 16)) :
      Written c [92, 117, 48, 48, high, low]

/-- No octet of a character beyond ASCII is an ASCII octet. -/
theorem le_of_mem_utf8EncodeChar {c : Char} (wide : ¬ c.toNat < 128) {b : UInt8}
    (member : b ∈ utf8EncodeChar c) : 128 ≤ b := by
  have large : ¬ c.val.toNat ≤ 127 := by
    change ¬ c.val.toNat < 128 at wide
    omega
  rw [UInt8.le_iff_toNat_le]
  simp only [utf8EncodeChar, if_neg large] at member
  split at member
  · simp only [List.mem_cons, List.not_mem_nil, or_false] at member
    rcases member with rfl | rfl <;> simp <;> omega
  · split at member
    · simp only [List.mem_cons, List.not_mem_nil, or_false] at member
      rcases member with rfl | rfl | rfl <;> simp <;> omega
    · simp only [List.mem_cons, List.not_mem_nil, or_false] at member
      rcases member with rfl | rfl | rfl | rfl <;> simp <;> omega

theorem isPlain_of_le {b : UInt8} (wide : 128 ≤ b) : IsPlain b := by
  rw [UInt8.le_iff_toNat_le] at wide
  have large : 128 ≤ b.toNat := wide
  refine ⟨?_, ?_, ?_⟩
  · rintro rfl
    simp at large
  · rintro rfl
    simp at large
  · rw [UInt8.lt_iff_toNat_lt]
    have bound : (32 : UInt8).toNat = 32 := rfl
    omega

theorem value?_digit {n : Nat} (small : n < 16) :
    Text.Hex.value? (Char.ofNat (UInt8.ofNat (Text.Hex.digit n).toNat).toNat) = some n := by
  revert n
  decide

theorem toNat_digit_lt {n : Nat} (small : n < 16) : (Text.Hex.digit n).toNat < 128 := by
  revert n
  decide

/-- A character that is not a quote, a backslash or a control character stands for itself. -/
theorem written_self {c : Char} (quote : c ≠ '"') (backslash : c ≠ '\\') (printed : ¬ c.toNat < 32) :
    Written c (octetsOf c.toString) := by
  have own : octetsOf c.toString = utf8EncodeChar c := by
    rw [octetsOf_eq, Char.toString_eq_singleton, String.toList_singleton, List.flatMap_singleton]
  rw [own]
  refine .plain fun b member => ?_
  by_cases ascii : c.toNat < 128
  · rw [utf8EncodeChar_of_lt ascii, List.mem_singleton] at member
    subst member
    have number : ∀ n : Nat, n < 128 → UInt8.ofNat c.toNat = UInt8.ofNat n → c = Char.ofNat n := by
      intro n small same
      have numbers : c.toNat % 256 = n % 256 := by
        simpa [UInt8.ofNat_eq_iff_mod_eq_toNat] using congrArg UInt8.toNat same
      rw [← Char.ofNat_toNat c]
      congr 1
      omega
    refine ⟨fun same => quote (number 34 (by omega) same),
      fun same => backslash (number 92 (by omega) same), ?_⟩
    rw [UInt8.lt_iff_toNat_lt, UInt8.toNat_ofNat']
    have bound : (32 : UInt8).toNat = 32 := rfl
    omega
  · exact isPlain_of_le (le_of_mem_utf8EncodeChar ascii member)

theorem written_control {c : Char} (control : c.toNat < 32) :
    Written c (octetsOf ("\\u00" ++
      String.ofList [Text.Hex.digit (c.toNat / 16), Text.Hex.digit (c.toNat % 16)])) := by
  have high : c.toNat / 16 < 16 := by omega
  have low : c.toNat % 16 < 16 := by omega
  have spelled : octetsOf ("\\u00" ++
      String.ofList [Text.Hex.digit (c.toNat / 16), Text.Hex.digit (c.toNat % 16)]) =
        [92, 117, 48, 48, UInt8.ofNat (Text.Hex.digit (c.toNat / 16)).toNat,
          UInt8.ofNat (Text.Hex.digit (c.toNat % 16)).toNat] := by
    have digits : octetsOf (String.ofList [Text.Hex.digit (c.toNat / 16),
        Text.Hex.digit (c.toNat % 16)]) = [UInt8.ofNat (Text.Hex.digit (c.toNat / 16)).toNat,
          UInt8.ofNat (Text.Hex.digit (c.toNat % 16)).toNat] := by
      rw [octetsOf_ofList, List.flatMap_cons, List.flatMap_singleton,
        utf8EncodeChar_of_lt (toNat_digit_lt high), utf8EncodeChar_of_lt (toNat_digit_lt low)]
      rfl
    rw [octetsOf_append, digits]
    rfl
  rw [spelled]
  exact .unicode control (value?_digit high) (value?_digit low)

theorem written_escapeChar (c : Char) : Written c (octetsOf (escapeChar c)) := by
  have short : ∀ {letter : UInt8} (value : UInt8), Source.shortEscape? letter = some value →
      letter ≠ 117 → utf8EncodeChar c = [value] → Written c [92, letter] :=
    fun _ escape other octets => .short escape octets other
  unfold escapeChar
  simp only [beq_iff_eq]
  split_ifs with quote backslash backspace feed line return_ tab control
  · exact short 34 rfl (by decide) (by rw [quote]; rfl)
  · exact short 92 rfl (by decide) (by rw [backslash]; rfl)
  · exact short 8 rfl (by decide) (by rw [backspace]; rfl)
  · exact short 12 rfl (by decide) (by rw [feed]; rfl)
  · exact short 10 rfl (by decide) (by rw [line]; rfl)
  · exact short 13 rfl (by decide) (by rw [return_]; rfl)
  · exact short 9 rfl (by decide) (by rw [tab]; rfl)
  · exact written_control control
  · exact written_self quote backslash control

/-- The octets between the quotes. -/
def escaped (cs : List Char) : List UInt8 := cs.flatMap fun c => octetsOf (escapeChar c)

theorem escaped_cons (c : Char) (cs : List Char) :
    escaped (c :: cs) = octetsOf (escapeChar c) ++ escaped cs := rfl

theorem octetsOf_quote (text : String) :
    octetsOf (quote text) = 34 :: (escaped text.toList ++ [34]) := by
  have mark : octetsOf "\"" = [34] := by decide
  rw [quote, octetsOf_append, octetsOf_append, octetsOf_join, mark, List.flatMap_map]
  rfl

theorem fromUTF8?_octetsOf (text : String) :
    String.fromUTF8? ⟨(octetsOf text).toArray⟩ = some text := by
  have whole : (⟨(octetsOf text).toArray⟩ : ByteArray) = text.toByteArray := by simp [octetsOf]
  rw [whole, String.fromUTF8?, dif_pos text.isValidUTF8]
  rfl

/-- Octets are read as the text whose octets they are. -/
theorem fromUTF8?_eq_some_iff {octets : List UInt8} {text : String} :
    String.fromUTF8? ⟨octets.toArray⟩ = some text ↔ octets = octetsOf text := by
  constructor
  · intro decoded
    unfold String.fromUTF8? at decoded
    split at decoded
    · cases decoded
      rfl
    · cases decoded
  · rintro rfl
    exact fromUTF8?_octetsOf text

namespace Source

variable {src : Source} {i : Nat} {c : Char} {w r : List UInt8}

theorem readStringFrom_plain (here : src.rest i = w ++ r) (plain : ∀ b ∈ w, IsPlain b)
    (fuel : Nat) (acc : List UInt8) :
    src.readStringFrom (fuel + w.length) i acc =
      src.readStringFrom fuel (i + w.length) (w.reverse ++ acc) := by
  induction w generalizing i acc with
  | nil => rfl
  | cons b w ih =>
    obtain ⟨quote, backslash, control⟩ := plain b List.mem_cons_self
    have later := ih (rest_succ here) (fun c member => plain c (List.mem_cons_of_mem _ member))
      (b :: acc)
    rw [List.length_cons, ← Nat.add_assoc, readStringFrom, at?_of_rest here]
    simp only [beq_iff_eq, if_neg quote, if_neg backslash, if_neg control]
    rw [later, List.reverse_cons, List.append_assoc, Nat.add_assoc, Nat.add_comm 1]
    rfl

theorem skipStringFrom_plain (here : src.rest i = w ++ r) (plain : ∀ b ∈ w, IsPlain b)
    (fuel : Nat) :
    src.skipStringFrom (fuel + w.length) i = src.skipStringFrom fuel (i + w.length) := by
  induction w generalizing i with
  | nil => rfl
  | cons b w ih =>
    obtain ⟨quote, backslash, control⟩ := plain b List.mem_cons_self
    have later := ih (rest_succ here) fun c member => plain c (List.mem_cons_of_mem _ member)
    rw [List.length_cons, ← Nat.add_assoc, skipStringFrom, at?_of_rest here]
    simp only [beq_iff_eq, if_neg quote, if_neg backslash, if_neg control]
    rw [later, Nat.add_assoc, Nat.add_comm 1]

/-- The four digits of a control character. -/
theorem readHex4_of_rest {high low : UInt8} {p q : Nat}
    (here : src.rest i = 48 :: 48 :: high :: low :: r)
    (first : Text.Hex.value? (Char.ofNat high.toNat) = some p)
    (second : Text.Hex.value? (Char.ofNat low.toNat) = some q) :
    src.readHex4 i = .ok (16 * p + q) := by
  have zero : Text.Hex.value? (Char.ofNat 48) = some 0 := by decide
  have second_ := rest_succ here
  have third := rest_succ second_
  have fourth := rest_succ third
  simp [readHex4, at?_of_rest here, at?_of_rest second_, at?_of_rest third, at?_of_rest fourth, zero,
    first, second]

/-- Both readings pass a written character; the strict one takes its octets. -/
theorem pass_written (written : Written c w) (here : src.rest i = w ++ r) :
    ∃ steps, steps ≤ w.length ∧
      (∀ fuel acc, src.readStringFrom (fuel + steps) i acc =
        src.readStringFrom fuel (i + w.length) ((utf8EncodeChar c).reverse ++ acc)) ∧
      ∀ fuel, src.skipStringFrom (fuel + steps) i = src.skipStringFrom fuel (i + w.length) := by
  cases written with
  | plain octets =>
    exact ⟨_, Nat.le_refl _, readStringFrom_plain here octets, skipStringFrom_plain here octets⟩
  | @short letter value escape octets other =>
    have next : src.at? (i + 1) = some letter := at?_of_rest (rest_succ here)
    refine ⟨1, by simp, fun fuel acc => ?_, fun fuel => ?_⟩
    · simp [readStringFrom, at?_of_rest here, next, other, escape, octets]
    · simp [skipStringFrom, at?_of_rest here, next, other, escape]
  | @unicode high low control first second =>
    have next : src.at? (i + 1) = some 117 := at?_of_rest (rest_succ here)
    have digits := readHex4_of_rest (rest_succ (rest_succ here)) first second
    have number : 16 * (c.toNat / 16) + c.toNat % 16 = c.toNat := by omega
    rw [number] at digits
    have point : src.readUnicodeEscape (i + 2) = .ok (c.toNat, i + 6) := by
      have low : ¬ (0xDC00 ≤ c.toNat ∧ c.toNat ≤ 0xDFFF) := by omega
      have basic : c.toNat < 0xD800 := by omega
      simp [readUnicodeEscape, digits, low, basic, bind, Except.bind, pure, Except.pure]
    have own : codePointOctets c.toNat = utf8EncodeChar c := by
      rw [codePointOctets, Char.ofNat_toNat]
      exact (octetsOf_eq _).trans (by simp)
    refine ⟨1, by simp, fun fuel acc => ?_, fun fuel => ?_⟩
    · simp [readStringFrom, at?_of_rest here, next, point, own]
    · simp [skipStringFrom, at?_of_rest here, next, digits]

/-- Both readings of a string take its characters and end after the closing quote. -/
theorem pass_body (cs : List Char)
    (here : src.rest i = escaped cs ++ 34 :: r) {fuel : Nat}
    (enough : (escaped cs).length < fuel) (acc : List UInt8) :
    src.readStringFrom fuel i acc = .ok ((cs.flatMap utf8EncodeChar).reverse ++ acc,
      i + (escaped cs).length + 1) ∧
    src.skipStringFrom fuel i =
      .ok (i + (escaped cs).length + 1) := by
  induction cs generalizing i fuel acc with
  | nil =>
    cases fuel with
    | zero => simp at enough
    | succ fuel => simp [readStringFrom, skipStringFrom, at?_of_rest here, escaped]
  | cons c cs ih =>
    rw [escaped_cons, List.append_assoc] at here
    rw [escaped_cons, List.length_append] at enough
    obtain ⟨steps, few, reads, skips⟩ := pass_written (written_escapeChar c) here
    have split : fuel = fuel - steps + steps := by omega
    obtain ⟨read, skipped⟩ := ih (rest_append here) (show _ < fuel - steps by omega)
      ((utf8EncodeChar c).reverse ++ acc)
    rw [split, reads, skips, read, skipped]
    simp only [escaped_cons, List.flatMap_cons, List.length_append, List.reverse_append,
      List.append_assoc, Nat.add_assoc, and_self]

/-- A quoted text is read as the text. -/
theorem readText_quote {text : String} (here : src.rest i = octetsOf (quote text) ++ r) :
    src.readText i = .ok (.ok text, i + (octetsOf (quote text)).length) := by
  have long := src.length_rest_le i
  rw [octetsOf_quote, List.cons_append, List.append_assoc] at here
  rw [here, List.length_cons, List.length_append] at long
  obtain ⟨read, skipped⟩ := pass_body text.toList (rest_succ here)
    (show _ < src.size + 1 by omega) []
  have stop : i + (octetsOf (quote text)).length =
      i + 1 + (escaped text.toList).length + 1 := by
    rw [octetsOf_quote, List.length_cons, List.length_append, List.length_singleton]
    omega
  have value : src.readString (i + 1) = .ok (text, i + (octetsOf (quote text)).length) := by
    rw [readString, read, stop]
    simp [bind, Except.bind, pure, Except.pure, ← octetsOf_eq, fromUTF8?_octetsOf]
  rw [readText, skipString, skipped, value, stop]
  rfl

end Source

end DeviceAdmission.Json
