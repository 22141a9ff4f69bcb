import Mathlib.Data.Nat.Digits.Defs
import DeviceAdmission.Proofs.Decimal.Digits
import DeviceAdmission.Proofs.Gate.Statuses

/-!
# Timeouts, exactly

A timeout is read from one to eight digits and a unit. `Means` is this grammar, with the value that
a text has by the places of its digits. The reader counts nanoseconds without a bound; a machine has
words of 64 bits, and `inWords` is the reading that it does, with every product and every sum
checked.

* `parse?_eq_some_iff`: the reader accepts the grammar and nothing else, with the exact value.
* `inWords_of_means`, `inWords_of_meaningless`: in words the same is read, as seconds and the
  nanoseconds beyond them, and nothing overflows on the way.
* `timeouts_exact`: all of this, and that the deadline of a request comes from its first timeout.
-/
namespace DeviceAdmission

namespace Call.Timeout

/-! ## The grammar -/

/-- The units, with their nanoseconds. -/
inductive Scale : Char → Nat → Prop where
  | hours : Scale 'H' 3_600_000_000_000
  | minutes : Scale 'M' 60_000_000_000
  | seconds : Scale 'S' 1_000_000_000
  | millis : Scale 'm' 1_000_000
  | micros : Scale 'u' 1_000
  | nanos : Scale 'n' 1

/-- One to eight digits stand before a last character. -/
structure Formed (text : String) (digits : List Char) (unit : Char) : Prop where
  split : text.toList = digits ++ [unit]
  least : 1 ≤ digits.length
  most : digits.length ≤ 8
  decimal : ∀ c ∈ digits, c.isDigit = true

/-- The value of decimal digits by their places. -/
def placeValue (digits : List Char) : Nat :=
  Nat.ofDigits 10 (digits.reverse.map fun c => c.toNat - 48)

/-- A text means a timeout. -/
inductive Means (text : String) : Duration → Prop where
  | intro {digits : List Char} {unit : Char} {scale : Nat} (formed : Formed text digits unit)
      (scaled : Scale unit scale) : Means text (placeValue digits * scale)

theorem unit?_eq_some_iff (unit : Char) (scale : Nat) :
    unit? unit = some scale ↔ Scale unit scale := by
  constructor
  · intro known
    unfold unit? at known
    split at known
    all_goals cases known
    · exact .hours
    · exact .minutes
    · exact .seconds
    · exact .millis
    · exact .micros
    · exact .nanos
  · intro scaled
    cases scaled <;> rfl

/-! ## Values of digits -/

theorem placeValue_concat (digits : List Char) (c : Char) :
    placeValue (digits ++ [c]) = 10 * placeValue digits + (c.toNat - 48) := by
  unfold placeValue
  rw [List.reverse_append, List.reverse_singleton, List.singleton_append, List.map_cons,
    Nat.ofDigits_cons, Nat.add_comm]

theorem ofDigitChars_eq_placeValue (digits : List Char) :
    Nat.ofDigitChars 10 digits 0 = placeValue digits := by
  induction digits using List.reverseRecOn with
  | nil => rfl
  | append_singleton digits c ih =>
    rw [Nat.ofDigitChars_append, ih, placeValue_concat, Nat.ofDigitChars_cons, Nat.ofDigitChars_nil]
    rfl

theorem sub_lt_of_isDigit {c : Char} (digit : c.isDigit = true) : c.toNat - 48 < 10 := by
  obtain ⟨low, high⟩ := Decimal.toNat_of_isDigit digit
  omega

theorem placeValue_lt {digits : List Char} (decimals : ∀ c ∈ digits, c.isDigit = true) :
    placeValue digits < 10 ^ digits.length := by
  have below : ∀ n ∈ digits.reverse.map fun c => c.toNat - 48, n < 10 := by
    intro n member
    obtain ⟨c, within, rfl⟩ := List.mem_map.1 member
    exact sub_lt_of_isDigit (decimals c (List.mem_reverse.1 within))
  have bound := Nat.ofDigits_lt_base_pow_length (by decide) below
  rwa [List.length_map, List.length_reverse] at bound

theorem Formed.placeValue_lt {text : String} {digits : List Char} {unit : Char}
    (formed : Formed text digits unit) : placeValue digits < 100_000_000 :=
  Nat.lt_of_lt_of_le (Timeout.placeValue_lt formed.decimal)
    (Nat.pow_le_pow_right (by decide) formed.most)

/-! ## The reader -/

/-- What the readers ask of the characters before the last one, which they meet in reverse. -/
theorem formed_iff {text : String} {digits : List Char} {unit : Char}
    (reversed : text.toList.reverse = unit :: digits) :
    ¬ (digits.isEmpty || 8 < digits.length || !digits.all Char.isDigit) = true ↔
      Formed text digits.reverse unit := by
  have split : text.toList = digits.reverse ++ [unit] := by
    rw [← List.reverse_reverse text.toList, reversed, List.reverse_cons]
  simp only [Bool.or_eq_true, decide_eq_true_eq, Bool.not_eq_true', not_or, Nat.not_lt,
    List.isEmpty_iff, Bool.not_eq_false, List.all_eq_true]
  constructor
  · rintro ⟨⟨some, most⟩, decimals⟩
    refine ⟨split, ?_, ?_, ?_⟩
    · rw [List.length_reverse]
      exact List.length_pos_iff.2 some
    · rwa [List.length_reverse]
    · intro c member
      exact decimals c (List.mem_reverse.1 member)
  · rintro ⟨-, least, most, decimals⟩
    rw [List.length_reverse] at least most
    refine ⟨⟨List.length_pos_iff.1 least, most⟩, ?_⟩
    intro c member
    exact decimals c (List.mem_reverse.2 member)

theorem Formed.reversed {text : String} {digits : List Char} {unit : Char}
    (formed : Formed text digits unit) : text.toList.reverse = unit :: digits.reverse := by
  rw [formed.split, List.reverse_append, List.reverse_singleton, List.singleton_append]

theorem parse?_of_formed {text : String} {digits : List Char} {unit : Char}
    (formed : Formed text digits unit) :
    parse? text = (unit? unit).map (placeValue digits * ·) := by
  have reversed := formed.reversed
  have asked := (formed_iff reversed).2 (by rwa [List.reverse_reverse])
  unfold parse?
  rw [reversed]
  dsimp only
  rw [if_neg asked, List.reverse_reverse, ofDigitChars_eq_placeValue]

theorem parse?_of_unformed {text : String} (unformed : ∀ digits unit, ¬ Formed text digits unit) :
    parse? text = none := by
  unfold parse?
  split
  case h_1 => rfl
  case h_2 unit digits reversed =>
    apply if_pos
    by_contra asked
    exact unformed _ _ ((formed_iff reversed).1 asked)

theorem parse?_eq_some_iff (text : String) (d : Duration) :
    parse? text = some d ↔ Means text d := by
  constructor
  · intro read
    by_cases formed : ∃ digits unit, Formed text digits unit
    · obtain ⟨digits, unit, formed⟩ := formed
      rw [parse?_of_formed formed] at read
      obtain ⟨scale, known, rfl⟩ := Option.map_eq_some_iff.1 read
      exact .intro formed ((unit?_eq_some_iff unit scale).1 known)
    · simp only [not_exists] at formed
      rw [parse?_of_unformed formed] at read
      cases read
  · rintro ⟨formed, scaled⟩
    rw [parse?_of_formed formed, (unit?_eq_some_iff _ _).2 scaled, Option.map_some]

/-! ## Reading in words -/

/-- Why nothing is read. -/
inductive Fault where
  | malformed
  /-- A product or a sum does not fit a word. -/
  | overflow
  deriving DecidableEq, Repr

def times (a b : UInt64) : Except Fault UInt64 :=
  if a.toNat * b.toNat < UInt64.size then .ok (a * b) else .error .overflow

def plus (a b : UInt64) : Except Fault UInt64 :=
  if a.toNat + b.toNat < UInt64.size then .ok (a + b) else .error .overflow

/-- Whole seconds, and the nanoseconds beyond them. -/
structure Span where
  seconds : UInt64
  nanoseconds : UInt32
  deriving DecidableEq, Repr

/-- The number of some digits. -/
def amountInWords (digits : List Char) : Except Fault UInt64 :=
  digits.foldlM (fun n c => do plus (← times 10 n) (UInt64.ofNat (c.toNat - 48))) 0

/-- An amount of a unit: hours and minutes are multiplied out, fractions of a second are divided. -/
def spanInWords (amount : UInt64) : Char → Except Fault Span
  | 'H' => do return ⟨← times (← times amount 60) 60, 0⟩
  | 'M' => do return ⟨← times amount 60, 0⟩
  | 'S' => .ok ⟨amount, 0⟩
  | 'm' => do return ⟨amount / 1_000, (← times (amount % 1_000) 1_000_000).toUInt32⟩
  | 'u' => do return ⟨amount / 1_000_000, (← times (amount % 1_000_000) 1_000).toUInt32⟩
  | 'n' => .ok ⟨amount / 1_000_000_000, (amount % 1_000_000_000).toUInt32⟩
  | _ => .error .malformed

def inWords (text : String) : Except Fault Span :=
  match text.toList.reverse with
  | [] => .error .malformed
  | unit :: digits =>
    if digits.isEmpty || 8 < digits.length || !digits.all Char.isDigit then .error .malformed
    else do spanInWords (← amountInWords digits.reverse) unit

/-- A span in words is a duration, with less than a second in nanoseconds. -/
structure Span.Is (s : Span) (d : Duration) : Prop where
  seconds : s.seconds.toNat = d.seconds
  nanoseconds : s.nanoseconds.toNat = d.nanoseconds
  below : s.nanoseconds.toNat < 1_000_000_000

theorem times_of_lt {a b : UInt64} {n m : Nat} (left : a.toNat = n) (right : b.toNat = m)
    (fits : n * m < UInt64.size) : ∃ product, times a b = .ok product ∧ product.toNat = n * m := by
  subst left right
  refine ⟨a * b, if_pos fits, ?_⟩
  rw [UInt64.toNat_mul]
  exact Nat.mod_eq_of_lt fits

theorem plus_of_lt {a b : UInt64} {n m : Nat} (left : a.toNat = n) (right : b.toNat = m)
    (fits : n + m < UInt64.size) : ∃ sum, plus a b = .ok sum ∧ sum.toNat = n + m := by
  subst left right
  refine ⟨a + b, if_pos fits, ?_⟩
  rw [UInt64.toNat_add]
  exact Nat.mod_eq_of_lt fits

theorem amountInWords_concat (digits : List Char) (c : Char) :
    amountInWords (digits ++ [c]) = (do
      let n ← amountInWords digits
      plus (← times 10 n) (UInt64.ofNat (c.toNat - 48))) := by
  unfold amountInWords
  rw [List.foldlM_append]
  simp

theorem amountInWords_of_lt {digits : List Char} (decimals : ∀ c ∈ digits, c.isDigit = true)
    (fits : placeValue digits < 100_000_000) :
    ∃ amount, amountInWords digits = .ok amount ∧ amount.toNat = placeValue digits := by
  induction digits using List.reverseRecOn with
  | nil => exact ⟨0, rfl, rfl⟩
  | append_singleton digits c ih =>
    rw [placeValue_concat] at fits ⊢
    have digit := sub_lt_of_isDigit (decimals c (by simp))
    have word : (UInt64.ofNat (c.toNat - 48)).toNat = c.toNat - 48 := by
      rw [UInt64.toNat_ofNat']
      omega
    obtain ⟨amount, read, value⟩ := ih (fun d member => decimals d (by simp [member])) (by omega)
    obtain ⟨shifted, multiplied, shift⟩ := times_of_lt (a := 10) (n := 10) rfl value
      (by unfold UInt64.size; omega)
    obtain ⟨sum, added, total⟩ := plus_of_lt shift word (by unfold UInt64.size; omega)
    refine ⟨sum, ?_, total⟩
    rw [amountInWords_concat, read]
    show (times 10 amount >>= fun n => plus n _) = _
    rw [multiplied]
    exact added

theorem Span.is_of_words {seconds rest : UInt64} {d : Duration}
    (whole : seconds.toNat = d / 1_000_000_000) (beyond : rest.toNat = d % 1_000_000_000) :
    Span.Is ⟨seconds, rest.toUInt32⟩ d := by
  have below : d % 1_000_000_000 < 1_000_000_000 := Nat.mod_lt _ (by decide)
  have narrow : rest.toUInt32.toNat = d % 1_000_000_000 := by
    rw [UInt64.toNat_toUInt32, beyond]
    omega
  constructor
  · exact whole
  · exact narrow
  · rw [narrow]
    exact below

/-- Seconds that are nothing but whole. -/
theorem Span.is_whole {seconds : UInt64} {n : Nat} (value : seconds.toNat = n) :
    Span.Is ⟨seconds, 0⟩ (n * 1_000_000_000) := by
  apply @Span.is_of_words seconds 0
  · rw [value, Nat.mul_div_cancel _ (by decide)]
  · rw [Nat.mul_mod_left]
    rfl

section

variable {amount : UInt64} {n : Nat} (value : amount.toNat = n)

include value

theorem toNat_div_of_eq {b : UInt64} {m : Nat} (divisor : b.toNat = m) :
    (amount / b).toNat = n / m := by
  rw [UInt64.toNat_div, value, divisor]

theorem toNat_mod_of_eq {b : UInt64} {m : Nat} (divisor : b.toNat = m) :
    (amount % b).toNat = n % m := by
  rw [UInt64.toNat_mod, value, divisor]

/-- An amount of a fraction of a second is whole seconds, and what is left of it in nanoseconds. -/
theorem span_of_fraction {b c : UInt64} {m k : Nat} (parts : b.toNat = m) (each : c.toNat = k)
    (second : m * k = 1_000_000_000) :
    ∃ rest, times (amount % b) c = .ok rest ∧
      Span.Is ⟨amount / b, rest.toUInt32⟩ (n * k) := by
  have some : 0 < m := Nat.pos_of_ne_zero (by rintro rfl; simp at second)
  have long : 0 < k := Nat.pos_of_ne_zero (by rintro rfl; simp at second)
  have left : (amount % b).toNat = n % m := toNat_mod_of_eq value parts
  have fits : n % m * k < UInt64.size := calc
    n % m * k < m * k := Nat.mul_lt_mul_of_pos_right (Nat.mod_lt n some) long
    _ = 1_000_000_000 := second
    _ < UInt64.size := by decide
  obtain ⟨rest, multiplied, total⟩ := times_of_lt left each fits
  refine ⟨rest, multiplied, Span.is_of_words ?_ ?_⟩
  · rw [toNat_div_of_eq value parts, ← second, Nat.mul_div_mul_right _ _ long]
  · rw [total, ← second, Nat.mul_mod_mul_right]

/-- Each product has room for an amount of eight digits. -/
theorem spanInWords_of_scale {unit : Char} {scale : Nat} (small : n < 100_000_000)
    (scaled : Scale unit scale) :
    ∃ s, spanInWords amount unit = .ok s ∧ s.Is (n * scale) := by
  have room : UInt64.size = 18_446_744_073_709_551_616 := rfl
  -- The products are rewritten as they stand: opened, their factors would be counted out in ones.
  cases scaled with
  | hours =>
    obtain ⟨minutes, inMinutes, sixty⟩ := times_of_lt (b := 60) (m := 60) value rfl (by omega)
    obtain ⟨seconds, inSeconds, total⟩ := times_of_lt (b := 60) (m := 60) sixty rfl (by omega)
    refine ⟨⟨seconds, 0⟩, ?_, ?_⟩
    · show (times amount 60 >>= fun minutes => times minutes 60 >>= fun _ => _) = _
      rw [inMinutes]
      show (times minutes 60 >>= fun _ => _) = _
      rw [inSeconds]
      rfl
    · have scaled : n * 3_600_000_000_000 = n * 60 * 60 * 1_000_000_000 := by omega
      rw [scaled]
      exact Span.is_whole total
  | minutes =>
    obtain ⟨seconds, multiplied, total⟩ := times_of_lt (b := 60) (m := 60) value rfl (by omega)
    refine ⟨⟨seconds, 0⟩, ?_, ?_⟩
    · show (times amount 60 >>= fun _ => _) = _
      rw [multiplied]
      rfl
    · have scaled : n * 60_000_000_000 = n * 60 * 1_000_000_000 := by omega
      rw [scaled]
      exact Span.is_whole total
  | seconds => exact ⟨_, rfl, Span.is_whole value⟩
  | millis =>
    obtain ⟨rest, multiplied, amounts⟩ := span_of_fraction value (b := 1_000) (c := 1_000_000) rfl rfl
      rfl
    refine ⟨_, ?_, amounts⟩
    show (times (amount % 1_000) 1_000_000 >>= fun _ => _) = _
    rw [multiplied]
    rfl
  | micros =>
    obtain ⟨rest, multiplied, amounts⟩ := span_of_fraction value (b := 1_000_000) (c := 1_000) rfl rfl
      rfl
    refine ⟨_, ?_, amounts⟩
    show (times (amount % 1_000_000) 1_000 >>= fun _ => _) = _
    rw [multiplied]
    rfl
  | nanos =>
    refine ⟨_, rfl, ?_⟩
    rw [Nat.mul_one]
    apply Span.is_of_words
    · exact toNat_div_of_eq value rfl
    · exact toNat_mod_of_eq value rfl

end

theorem spanInWords_of_none {unit : Char} (unknown : ∀ scale, ¬ Scale unit scale)
    (amount : UInt64) : spanInWords amount unit = .error .malformed := by
  unfold spanInWords
  split
  · exact absurd .hours (unknown _)
  · exact absurd .minutes (unknown _)
  · exact absurd .seconds (unknown _)
  · exact absurd .millis (unknown _)
  · exact absurd .micros (unknown _)
  · exact absurd .nanos (unknown _)
  · rfl

theorem inWords_of_formed {text : String} {digits : List Char} {unit : Char}
    (formed : Formed text digits unit) :
    ∃ amount, amount.toNat = placeValue digits ∧ inWords text = spanInWords amount unit := by
  have reversed := formed.reversed
  have asked := (formed_iff reversed).2 (by rwa [List.reverse_reverse])
  obtain ⟨amount, read, value⟩ := amountInWords_of_lt formed.decimal formed.placeValue_lt
  refine ⟨amount, value, ?_⟩
  unfold inWords
  rw [reversed]
  dsimp only
  rw [if_neg asked, List.reverse_reverse, read]
  rfl

theorem inWords_of_unformed {text : String} (unformed : ∀ digits unit, ¬ Formed text digits unit) :
    inWords text = .error .malformed := by
  unfold inWords
  split
  case h_1 => rfl
  case h_2 unit digits reversed =>
    apply if_pos
    by_contra asked
    exact unformed _ _ ((formed_iff reversed).1 asked)

theorem inWords_of_means {text : String} {d : Duration} (meant : Means text d) :
    ∃ s, inWords text = .ok s ∧ s.Is d := by
  obtain ⟨formed, scaled⟩ := meant
  obtain ⟨amount, value, read⟩ := inWords_of_formed formed
  rw [read]
  exact spanInWords_of_scale value formed.placeValue_lt scaled

theorem inWords_of_meaningless {text : String} (meaningless : ∀ d, ¬ Means text d) :
    inWords text = .error .malformed := by
  by_cases formed : ∃ digits unit, Formed text digits unit
  · obtain ⟨digits, unit, formed⟩ := formed
    obtain ⟨amount, -, read⟩ := inWords_of_formed formed
    rw [read]
    apply spanInWords_of_none
    intro scale scaled
    exact meaningless _ (.intro formed scaled)
  · simp only [not_exists] at formed
    exact inWords_of_unformed formed

end Call.Timeout

/-! ## Deadlines of requests -/

open Call (Duration Instant)
open Call.Timeout (Means inWords)

namespace Grpc.Request

/-- The first header with a key has a text. -/
inductive SendsFirst (request : Request) (key text : String) : Prop where
  | intro {name : String} {octets : List UInt8}
      (first : request.headers.find? (fun h => h.1 == key) = some (name, octets))
      (printable : ∀ b ∈ octets, Printable b)
      (chars : text.toList.map Char.toNat = octets.map UInt8.toNat)

theorem sendsFirst_iff {key : String} (plain : PlainKey key) (request : Request) (text : String) :
    request.SendsFirst key text ↔ request.firstText? key = some text := by
  rw [plain.firstText?_eq, Option.bind_eq_some_iff]
  constructor
  · rintro ⟨first, printable, chars⟩
    exact ⟨_, first, text?_eq_some_iff.2 ⟨printable, chars⟩⟩
  · rintro ⟨⟨name, octets⟩, first, read⟩
    obtain ⟨printable, chars⟩ := text?_eq_some_iff.1 read
    exact ⟨first, printable, chars⟩

theorem plainKey_timeoutKey : PlainKey timeoutKey where
  lower := by decide +kernel
  text := by
    rw [Bool.eq_false_iff, ne_eq, endsWith_iff]
    decide +kernel

theorem deadline_context_iff (request : Request) (fresh : String) (now instant : Instant) :
    (request.context fresh now).deadline = some instant ↔
      ∃ text d, request.SendsFirst timeoutKey text ∧ Means text d ∧ instant = now + d := by
  rw [context_eq, Option.map_eq_some_iff]
  constructor
  · rintro ⟨d, read, rfl⟩
    obtain ⟨text, sent, meant⟩ := Option.bind_eq_some_iff.1 read
    exact ⟨text, d, (sendsFirst_iff plainKey_timeoutKey request text).2 sent,
      (Call.Timeout.parse?_eq_some_iff text d).1 meant, rfl⟩
  · rintro ⟨text, d, sent, meant, rfl⟩
    refine ⟨d, ?_, rfl⟩
    rw [(sendsFirst_iff plainKey_timeoutKey request text).1 sent]
    exact (Call.Timeout.parse?_eq_some_iff text d).2 meant

end Grpc.Request

/-- Timeouts are read exactly. -/
structure TimeoutsExact : Prop where
  /-- A text is read as a timeout exactly if it means one, and then as what it means. -/
  read : ∀ text d, Call.Timeout.parse? text = some d ↔ Means text d
  /-- A machine with words of 64 bits reads the same without overflow, as whole seconds and less
  than a second in nanoseconds. -/
  words : ∀ text d, Call.Timeout.parse? text = some d → ∃ s, inWords text = .ok s ∧ s.Is d
  /-- Whatever else it is given, it refuses for its form. -/
  refused : ∀ text, Call.Timeout.parse? text = none → inWords text = .error .malformed
  /-- A request has a deadline exactly if its first timeout is a readable text of this form. -/
  deadline : ∀ (request : Grpc.Request) (fresh : String) (now instant : Instant),
    (request.context fresh now).deadline = some instant ↔
      ∃ text d, request.SendsFirst Grpc.timeoutKey text ∧ Means text d ∧ instant = now + d

theorem timeouts_exact : TimeoutsExact where
  read := Call.Timeout.parse?_eq_some_iff
  words text d read :=
    Call.Timeout.inWords_of_means ((Call.Timeout.parse?_eq_some_iff text d).1 read)
  refused text none := by
    apply Call.Timeout.inWords_of_meaningless
    intro d meant
    rw [(Call.Timeout.parse?_eq_some_iff text d).2 meant] at none
    cases none
  deadline := Grpc.Request.deadline_context_iff

end DeviceAdmission
