import DeviceAdmission.Decimal.Layout
import Mathlib.Tactic.ByContra

/-!
# Decimal digits, without a superfluous zero

The characters of the digits lie side by side. Two facts keep a zero from the front of a written
number: the decimal digits of a natural number begin with a zero only if it is zero, and the search
for shortest digits comes back with the digit zero only for values that are not laid out as zeros
before the point.
-/
namespace DeviceAdmission.Decimal

theorem toNat_of_isDigit {c : Char} (digit : c.isDigit = true) : 48 ≤ c.toNat ∧ c.toNat ≤ 57 := by
  simpa [Char.isDigit, UInt32.le_iff_toNat_le] using digit

theorem eq_zero_of_head?_toDigits {n : Nat} (leading : (Nat.toDigits 10 n).head? = some '0') :
    n = 0 := by
  induction n using Nat.strongRecOn with
  | ind n ih =>
    by_cases small : n < 10
    · have nonzero : ∀ d < 10, Nat.digitChar d = '0' → d = 0 := by decide
      rw [Nat.toDigits_of_lt_base small, List.head?_cons, Option.some_inj] at leading
      exact nonzero n small leading
    · obtain ⟨first, rest, front⟩ := List.exists_cons_of_ne_nil (@Nat.toDigits_ne_nil (n / 10) 10)
      rw [Nat.toDigits_of_base_le (by decide) (by omega), front, List.cons_append,
        List.head?_cons] at leading
      have zero := ih (n / 10) (by omega) (by rw [front, List.head?_cons, leading])
      omega

namespace Binary64

variable {x : Binary64} {a b : Nat} {power : Int}

theorem nearer_ne_zero {low : Nat} (nonzero : low ≠ 0) : nearer a b power low ≠ 0 := by
  unfold nearer
  split
  · exact nonzero
  · omega
  · split <;> omega

/-- The search gives up only on the finest grid, where the value lies below the first step. -/
theorem searchDigits_eq_zero {fuel : Nat} (none : (searchDigits x a b fuel power).digits = 0) :
    (searchDigits x a b fuel power).power = power - fuel ∧
      (neighbours a b (power - fuel)).1 = 0 := by
  induction fuel generalizing power with
  | zero =>
    rw [show power - ((0 : Nat) : Int) = power by omega]
    exact ⟨rfl, none⟩
  | succ fuel ih =>
    rw [show power - ((fuel + 1 : Nat) : Int) = power - 1 - fuel by omega]
    unfold searchDigits at none ⊢
    simp only at none ⊢
    split at none
    · next found _ => exact absurd none (nearer_ne_zero (by simp_all))
    · next found _ => simp_all
    · simp [neighbours] at none
    · exact ih none

/-- The order of magnitude is its first estimate, or a power that the value reaches. -/
theorem floorLog10_cases (a b : Nat) :
    floorLog10 a b = Int.fdiv (floorLog2 a b * 30103) 100000 - 1 ∨
      compareDecimal a b 1 (floorLog10 a b) ≠ .lt := by
  let up (p : Int) : Int := if compareDecimal a b 1 (p + 1) != .lt then p + 1 else p
  have step : ∀ p, up p = p ∨ compareDecimal a b 1 (up p) ≠ .lt := by
    intro p
    by_cases larger : (compareDecimal a b 1 (p + 1) != .lt) = true
    · have next : up p = p + 1 := if_pos larger
      exact .inr (by rw [next]; simpa using larger)
    · exact .inl (if_neg larger)
  generalize start : Int.fdiv (floorLog2 a b * 30103) 100000 - 1 = p
  have three : floorLog10 a b = up (up (up p)) := by rw [← start]; rfl
  rw [three]
  rcases step (up (up p)) with same | right
  · rw [same]
    rcases step (up p) with same | right
    · rw [same]
      exact step p
    · exact .inr right
  · exact .inr right

/-- A value of so great an order of magnitude has more than fourteen digits before its point. -/
theorem lt_of_floorLog2 (nonzero : a ≠ 0) (great : 60 ≤ floorLog2 a b) :
    100_000_000_000_000 * b < a := by
  have logs : b.log2 + 60 ≤ a.log2 := by
    unfold floorLog2 at great
    simp only at great
    split at great <;> omega
  calc 100_000_000_000_000 * b < 2 ^ 59 * 2 ^ (b.log2 + 1) := by
        have below := Nat.lt_log2_self (n := b)
        have : 0 < 2 ^ (b.log2 + 1) := Nat.two_pow_pos _
        omega
    _ = 2 ^ (b.log2 + 60) := by rw [← Nat.pow_add]; congr 1; omega
    _ ≤ 2 ^ a.log2 := Nat.pow_le_pow_right (by decide) logs
    _ ≤ a := Nat.log2_self_le nonzero

/-- The search does not give up on a value whose last digit is near the point. -/
theorem neighbours_ne_zero (nonzero : a ≠ 0) (positive : b ≠ 0) (low : 17 ≤ floorLog10 a b)
    (high : floorLog10 a b ≤ 31) : (neighbours a b (floorLog10 a b - 17)).1 ≠ 0 := by
  generalize order : floorLog10 a b = p at low high ⊢
  obtain ⟨k, rfl⟩ : ∃ k : Nat, p = k := ⟨p.toNat, by omega⟩
  have grid : (k : Int) - 17 = ((k - 17 : Nat) : Int) := by omega
  have reached : b * 10 ^ (k - 17) ≤ a := by
    rcases floorLog10_cases a b with first | right
    · have great : 60 ≤ floorLog2 a b := by
        rw [order, Int.fdiv_eq_ediv_of_nonneg _ (by decide)] at first
        omega
      have small : 10 ^ (k - 17) ≤ 10 ^ 14 := Nat.pow_le_pow_right (by decide) (by omega)
      calc b * 10 ^ (k - 17) ≤ b * 10 ^ 14 := Nat.mul_le_mul_left b small
        _ = 100_000_000_000_000 * b := Nat.mul_comm _ _
        _ ≤ a := Nat.le_of_lt (lt_of_floorLog2 nonzero great)
    · have less : 10 ^ (k - 17) ≤ 10 ^ k := Nat.pow_le_pow_right (by decide) (by omega)
      have whole : b * 10 ^ k ≤ a := by
        rw [order, compareDecimal, if_pos (by omega)] at right
        simpa [Nat.compare_ne_lt] using right
      exact Nat.le_trans (Nat.mul_le_mul_left b less) whole
  have step : 0 < b * 10 ^ (k - 17) := Nat.mul_pos (by omega) (Nat.pow_pos (by decide))
  have quotient : 0 < a / (b * 10 ^ (k - 17)) := Nat.div_pos reached step
  rw [grid, neighbours]
  simp only [Int.toNat_natCast, Int.natCast_nonneg, if_true]
  exact Nat.ne_of_gt quotient

theorem ratio_ne_zero (nonzero : x.significand ≠ 0) : x.ratio.1 ≠ 0 ∧ x.ratio.2 ≠ 0 := by
  have power : ∀ n, Nat.pow 2 n ≠ 0 := fun n => Nat.ne_of_gt (Nat.two_pow_pos n)
  unfold ratio scale
  split
  · exact ⟨Nat.mul_ne_zero nonzero (power _), Nat.one_ne_zero⟩
  · exact ⟨nonzero, Nat.mul_ne_zero Nat.one_ne_zero (power _)⟩

/-- The digit zero comes with a power that is not written as zeros before the point. -/
theorem power_of_digits_eq_zero (none : x.shortest.digits = 0) :
    x.shortest.power ≤ 0 ∨ 15 < x.shortest.power := by
  unfold shortest at none ⊢
  split at none
  · exact .inl (by simp_all)
  · next some =>
    obtain ⟨nonzero, positive⟩ := ratio_ne_zero (x := x) (by simpa [isZero] using some)
    rw [if_neg some]
    simp only at none ⊢
    generalize found : searchDigits x x.ratio.1 x.ratio.2 17
      (floorLog10 x.ratio.1 x.ratio.2) = s at none ⊢
    have zero : s.digits = 0 := by
      split at none
      · next multiple =>
        have last := eq_of_beq multiple
        simp only at none
        omega
      · exact none
    obtain ⟨power, below⟩ := searchDigits_eq_zero (found ▸ zero)
    rw [found] at power
    rw [if_pos (by rw [zero]; rfl)]
    simp only
    by_contra between
    have low : 17 ≤ floorLog10 x.ratio.1 x.ratio.2 := by omega
    have high : floorLog10 x.ratio.1 x.ratio.2 ≤ 31 := by omega
    exact neighbours_ne_zero nonzero positive low high below

end Binary64

end DeviceAdmission.Decimal
