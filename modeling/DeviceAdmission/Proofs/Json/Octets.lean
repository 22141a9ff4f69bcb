import DeviceAdmission.Json.Token

/-!
# What a reader has before it

The readers of JSON walk through the octets of a text by index. `Source.rest` is what still lies
before an index; all that the proofs say about a place in a text they say about its rest.

* `rest_append`: behind the octets that were read lies what followed them.
* `skip_of_rest`: a class of octets is skipped up to the first one outside of it.
-/
namespace DeviceAdmission.Json

open String (utf8EncodeChar)

/-- The octets of a text. -/
def octetsOf (text : String) : List UInt8 := text.toUTF8.data.toList

theorem octetsOf_append (s t : String) : octetsOf (s ++ t) = octetsOf s ++ octetsOf t := by
  simp [octetsOf]

theorem octetsOf_ofList (cs : List Char) :
    octetsOf (String.ofList cs) = cs.flatMap utf8EncodeChar := by
  simp [octetsOf, List.utf8Encode]

theorem octetsOf_eq (text : String) : octetsOf text = text.toList.flatMap utf8EncodeChar := by
  rw [← octetsOf_ofList, String.ofList_toList]

theorem octetsOf_join (texts : List String) : octetsOf (String.join texts) = texts.flatMap octetsOf := by
  induction texts with
  | nil => rfl
  | cons text rest ih => rw [String.join_cons, octetsOf_append, ih, List.flatMap_cons]

theorem utf8EncodeChar_of_lt {c : Char} (ascii : c.toNat < 128) :
    utf8EncodeChar c = [UInt8.ofNat c.toNat] := by
  have small : c.val.toNat ≤ 127 := by
    change c.val.toNat < 128 at ascii
    omega
  simp only [utf8EncodeChar, if_pos small]
  rfl

/-- The octet of a character below U+0100. -/
def octet (c : Char) : UInt8 := UInt8.ofNat c.toNat

theorem octetsOf_ascii {cs : List Char} (ascii : ∀ c ∈ cs, c.toNat < 128) :
    octetsOf (String.ofList cs) = cs.map octet := by
  rw [octetsOf_ofList]
  induction cs with
  | nil => rfl
  | cons c cs ih =>
    rw [List.flatMap_cons, utf8EncodeChar_of_lt (ascii c List.mem_cons_self),
      ih fun d member => ascii d (List.mem_cons_of_mem _ member)]
    rfl

namespace Source

variable {src : Source} {i : Nat} {b : UInt8} {w r : List UInt8}

/-- The octets from an index on. -/
def rest (src : Source) (i : Nat) : List UInt8 := src.octets.toList.drop i

theorem rest_zero (text : String) : (ofString text).rest 0 = Json.octetsOf text := by
  simp [rest, ofString, Json.octetsOf]

theorem at?_eq_head? (src : Source) (i : Nat) : src.at? i = (src.rest i).head? := by
  simp [at?, rest, List.head?_drop]

theorem at?_of_rest (here : src.rest i = b :: r) : src.at? i = some b := by
  rw [at?_eq_head?, here, List.head?_cons]

theorem rest_append (here : src.rest i = w ++ r) : src.rest (i + w.length) = r := by
  unfold rest at here ⊢
  rw [← List.drop_drop, here, List.drop_left]

theorem rest_succ (here : src.rest i = b :: r) : src.rest (i + 1) = r :=
  rest_append (w := [b]) here

theorem length_rest_le (src : Source) (i : Nat) : (src.rest i).length ≤ src.size := by
  simp [rest, size]

/-- The end of the text is where nothing is left. -/
theorem size_le_of_rest (here : src.rest i = []) : src.size ≤ i := by
  simpa [rest, size] using here

theorem skip_of_rest {p : UInt8 → Bool} {fuel : Nat} (here : src.rest i = w ++ r)
    (inside : ∀ b ∈ w, p b = true) (outside : ∀ b ∈ r.head?, p b = false)
    (enough : w.length ≤ fuel) : src.skip p fuel i = i + w.length := by
  induction w generalizing i fuel with
  | nil =>
    have next : (src.at? i).any p = false := by
      rw [at?_eq_head?, here, List.nil_append]
      cases head : r.head? with
      | none => rfl
      | some b => exact outside b head
    cases fuel with
    | zero => rfl
    | succ fuel => simp [skip, next]
  | cons b w ih =>
    cases fuel with
    | zero => simp at enough
    | succ fuel =>
      have taken : (src.at? i).any p = true := by
        rw [at?_of_rest here]
        exact inside b List.mem_cons_self
      have later := ih (rest_succ here) (fun c member => inside c (List.mem_cons_of_mem _ member))
        (by simpa using enough)
      rw [skip, if_pos taken, later, List.length_cons]
      omega

theorem skipDigits_of_rest (here : src.rest i = w ++ r) (digits : ∀ b ∈ w, isDigit b = true)
    (ends : ∀ b ∈ r.head?, isDigit b = false) : src.skipDigits i = i + w.length := by
  have long := src.length_rest_le i
  rw [here, List.length_append] at long
  exact skip_of_rest here digits ends (by omega)

theorem skipBlanks_of_rest (here : src.rest i = b :: r) (solid : isBlank b = false) :
    src.skipBlanks i = i :=
  skip_of_rest (w := []) here (by simp) (by simpa using solid) (Nat.zero_le _)

/-- Blanks are skipped to the end of the text, where there are none. -/
theorem skipBlanks_of_end (here : src.rest i = []) : src.skipBlanks i = i :=
  skip_of_rest (w := []) here (by simp) (by simp) (Nat.zero_le _)

end Source

end DeviceAdmission.Json
