import DeviceAdmission.Certificate.Address

/-!
# Texts of network addresses, without the search

`Address.long` leaves out the run of zero groups that a search finds. `Reads` says which run that is:
no run of zeros is longer, and none as long begins earlier. What is left out is thus a fact about the
groups, and the text of an address is determined by its octets alone.

* `searched_longestRun`: the search knows the longest run among the starts that it has tried.
* `text?_eq_some_iff`: addresses of four or sixteen octets have this text, and no others have any.
-/
namespace DeviceAdmission.Certificate.Address

/-! ## The texts -/

/-- Four numbers with dots between them. -/
def quad (a b c d : UInt8) : String :=
  toString a.toNat ++ "." ++ toString b.toNat ++ "." ++ toString c.toNat ++ "." ++ toString d.toNat

/-- Groups in lower-case hexadecimal digits, with colons between them. -/
def separated (gs : List Nat) : String :=
  ":".intercalate (gs.map fun g => String.ofList (Nat.toDigits 16 g))

/-- Octets in pairs, the high one first. -/
inductive Grouped : List UInt8 → List Nat → Prop where
  | nil : Grouped [] []
  | pair (a b : UInt8) {rest : List UInt8} {gs : List Nat} (later : Grouped rest gs) :
      Grouped (a :: b :: rest) ((256 * a.toNat + b.toNat) :: gs)

/-- The longest run of zeros among some groups, and the first of that length. -/
structure LongestRun (gs before after : List Nat) (n : Nat) : Prop where
  split : gs = before ++ List.replicate n 0 ++ after
  longest : ∀ p q m, gs = p ++ List.replicate m 0 ++ q → m ≤ n
  first : ∀ p q, gs = p ++ List.replicate n 0 ++ q → before.length ≤ p.length

/-- Octets that stand for an address of four. -/
def mapped (a b c d : UInt8) : List UInt8 := [0, 0, 0, 0, 0, 0, 0, 0, 0, 0, 255, 255, a, b, c, d]

/-- The text of an address. -/
inductive Reads : List UInt8 → String → Prop where
  | short (a b c d : UInt8) : Reads [a, b, c, d] (quad a b c d)
  | mapped (a b c d : UInt8) : Reads (mapped a b c d) ("::ffff:" ++ quad a b c d)
  /-- No two groups of zeros are next to each other. -/
  | whole {octets : List UInt8} {gs : List Nat} (own : ∀ a b c d, octets ≠ Address.mapped a b c d)
      (grouped : Grouped octets gs) (eight : gs.length = 8)
      (sparse : ∀ p q m, gs = p ++ List.replicate m 0 ++ q → m ≤ 1) : Reads octets (separated gs)
  | shortened {octets : List UInt8} {gs before after : List Nat} {n : Nat}
      (own : ∀ a b c d, octets ≠ Address.mapped a b c d) (grouped : Grouped octets gs)
      (eight : gs.length = 8) (run : LongestRun gs before after n) (long : 2 ≤ n) :
      Reads octets (separated before ++ "::" ++ separated after)

/-! ## Runs of zeros -/

theorem zeroRun_split (gs : List Nat) :
    gs = List.replicate (zeroRun gs) 0 ++ gs.drop (zeroRun gs) := by
  unfold zeroRun
  induction gs with
  | nil => rfl
  | cons g rest ih =>
    by_cases zero : g = 0
    · subst zero
      simpa [List.replicate_succ] using ih
    · simp [zero]

theorem le_zeroRun (m : Nat) (rest : List Nat) : m ≤ zeroRun (List.replicate m 0 ++ rest) := by
  unfold zeroRun
  rw [List.takeWhile_append_of_pos (by simp), List.length_append, List.length_replicate]
  exact Nat.le_add_right m _

/-- The search for the longest run has tried the starts below `k`. -/
structure Searched (gs : List Nat) (k : Nat) (best : Nat × Nat) : Prop where
  longest : ∀ i < k, zeroRun (gs.drop i) ≤ best.2
  found : best.2 ≠ 0 → zeroRun (gs.drop best.1) = best.2
  first : ∀ i < best.1, zeroRun (gs.drop i) < best.2

theorem searched_longestRun (gs : List Nat) : Searched gs gs.length (longestRun gs) := by
  unfold longestRun
  generalize gs.length = k
  induction k with
  | zero => exact ⟨nofun, fun some => absurd rfl some, nofun⟩
  | succ k ih =>
    rw [List.range_succ, List.foldl_append, List.foldl_cons, List.foldl_nil]
    generalize List.foldl _ _ _ = best at ih ⊢
    have below : ∀ i < k + 1, i < k ∨ i = k := fun i bound => Nat.lt_succ_iff_lt_or_eq.1 bound
    by_cases longer : best.2 < zeroRun (gs.drop k)
    · simp only [longer, if_true]
      refine ⟨fun i bound => ?_, fun _ => rfl, fun i bound => ?_⟩
      · rcases below i bound with bound | rfl
        · exact Nat.le_of_lt (Nat.lt_of_le_of_lt (ih.longest i bound) longer)
        · exact Nat.le_refl _
      · exact Nat.lt_of_le_of_lt (ih.longest i bound) longer
    · simp only [longer, if_false]
      refine ⟨fun i bound => ?_, ih.found, ih.first⟩
      rcases below i bound with bound | rfl
      · exact ih.longest i bound
      · exact Nat.not_lt.1 longer

section

variable {gs before after p q : List Nat} {n m : Nat}

/-- What a split with a run of zeros says of the run where they begin. -/
theorem le_zeroRun_drop (split : gs = p ++ List.replicate m 0 ++ q) :
    m ≤ zeroRun (gs.drop p.length) := by
  rw [split, List.append_assoc, List.drop_left]
  exact le_zeroRun m q

theorem le_longestRun (split : gs = p ++ List.replicate m 0 ++ q) : m ≤ (longestRun gs).2 := by
  cases m with
  | zero => exact Nat.zero_le _
  | succ m =>
    have inside : p.length < gs.length := by
      rw [split, List.append_assoc, List.length_append, List.length_append, List.length_replicate]
      omega
    exact Nat.le_trans (le_zeroRun_drop split) ((searched_longestRun gs).longest _ inside)

/-- A run that the search has found is the longest one. -/
theorem longestRun_spec (some : (longestRun gs).2 ≠ 0) :
    LongestRun gs (gs.take (longestRun gs).1)
      (gs.drop ((longestRun gs).1 + (longestRun gs).2)) (longestRun gs).2 := by
  have searched := searched_longestRun gs
  constructor
  · have run := zeroRun_split (gs.drop (longestRun gs).1)
    rw [searched.found some, List.drop_drop] at run
    rw [List.append_assoc, ← run, List.take_append_drop]
  · exact fun _ _ _ split => le_longestRun split
  · intro p q split
    have full := le_zeroRun_drop split
    have late : (longestRun gs).1 ≤ p.length :=
      Nat.not_lt.1 fun early => Nat.not_lt.2 full (searched.first _ early)
    exact Nat.le_trans (List.length_take_le _ _) late

theorem LongestRun.unique {before' after' : List Nat} {n' : Nat} (run : LongestRun gs before after n)
    (other : LongestRun gs before' after' n') : before = before' ∧ after = after' := by
  have size : n = n' :=
    Nat.le_antisymm (other.longest _ _ _ run.split) (run.longest _ _ _ other.split)
  subst size
  have start : before.length = before'.length :=
    Nat.le_antisymm (run.first _ _ other.split) (other.first _ _ run.split)
  have same := run.split.symm.trans other.split
  rw [List.append_assoc, List.append_assoc] at same
  obtain ⟨front, back⟩ := List.append_inj same start
  exact ⟨front, List.append_cancel_left back⟩

end

/-! ## Octets and groups -/

theorem Grouped.eq {octets : List UInt8} {gs : List Nat} (grouped : Grouped octets gs) :
    gs = groups octets ∧ octets.length = 2 * gs.length := by
  induction grouped with
  | nil => exact ⟨rfl, rfl⟩
  | pair a b later ih =>
    obtain ⟨same, size⟩ := ih
    refine ⟨by rw [groups, same], ?_⟩
    rw [List.length_cons, List.length_cons, List.length_cons, size]
    omega

theorem grouped_of_even {octets : List UInt8} {k : Nat} (even : octets.length = 2 * k) :
    Grouped octets (groups octets) := by
  induction k generalizing octets with
  | zero =>
    obtain rfl := List.eq_nil_of_length_eq_zero even
    exact .nil
  | succ k ih =>
    match octets, even with
    | a :: b :: rest, even =>
      simp only [List.length_cons] at even
      exact .pair a b (ih (by omega))

theorem pair_eq_zero_iff (a b : UInt8) : 256 * a.toNat + b.toNat = 0 ↔ a = 0 ∧ b = 0 := by
  rw [← UInt8.toNat_inj, ← UInt8.toNat_inj, UInt8.toNat_zero]
  omega

theorem pair_eq_max_iff (a b : UInt8) : 256 * a.toNat + b.toNat = 0xFFFF ↔ a = 255 ∧ b = 255 := by
  have high := a.toNat_lt
  have low := b.toNat_lt
  have max : (255 : UInt8).toNat = 255 := rfl
  rw [← UInt8.toNat_inj, ← UInt8.toNat_inj, max]
  omega

/-- The addresses that stand for shorter ones, by their groups. -/
theorem take_groups_iff {octets : List UInt8} (sixteen : octets.length = 16) :
    (groups octets).take 6 = [0, 0, 0, 0, 0, 0xFFFF] ↔ ∃ a b c d, octets = mapped a b c d := by
  match octets, sixteen with
  | [o, o₁, o₂, o₃, o₄, o₅, o₆, o₇, o₈, o₉, p, p₁, a, b, c, d], _ =>
    simp only [groups, List.take, List.cons.injEq, and_true, pair_eq_zero_iff, pair_eq_max_iff,
      mapped]
    constructor
    · rintro ⟨⟨rfl, rfl⟩, ⟨rfl, rfl⟩, ⟨rfl, rfl⟩, ⟨rfl, rfl⟩, ⟨rfl, rfl⟩, rfl, rfl⟩
      exact ⟨a, b, c, d, by simp⟩
    · rintro ⟨_, _, _, _, rfl, rfl, rfl, rfl, rfl, rfl, rfl, rfl, rfl, rfl, rfl, rfl, -⟩
      simp

/-! ## The text of an address -/

theorem dotted_eq (a b c d : UInt8) : dotted [a, b, c, d] = quad a b c d := by
  simp only [dotted, quad, List.map_cons, List.map_nil, String.intercalate_cons_cons,
    String.intercalate_singleton, String.append_assoc]

theorem long_eq {octets : List UInt8} (sixteen : octets.length = 16)
    (own : ∀ a b c d, octets ≠ mapped a b c d) :
    long octets = if (longestRun (groups octets)).2 < 2 then separated (groups octets)
      else separated ((groups octets).take (longestRun (groups octets)).1) ++ "::" ++
        separated ((groups octets).drop
          ((longestRun (groups octets)).1 + (longestRun (groups octets)).2)) := by
  have unmapped : ¬ ((groups octets).take 6 == [0, 0, 0, 0, 0, 0xFFFF]) = true := by
    rw [beq_iff_eq, take_groups_iff sixteen]
    rintro ⟨a, b, c, d, same⟩
    exact own a b c d same
  unfold long
  simp only [if_neg unmapped]
  rfl

theorem text?_of_reads {octets : List UInt8} {text : String} (reads : Reads octets text) :
    text? octets = some text := by
  have sixteen {octets : List UInt8} {gs : List Nat} (grouped : Grouped octets gs)
      (eight : gs.length = 8) : octets.length = 16 ∧ text? octets = some (long octets) := by
    have size : octets.length = 16 := by rw [grouped.eq.2, eight]
    exact ⟨size, by simp [text?, size]⟩
  cases reads with
  | short a b c d =>
    rw [← dotted_eq]
    rfl
  | mapped a b c d =>
    rw [← dotted_eq]
    rfl
  | whole own grouped eight sparse =>
    obtain ⟨size, text⟩ := sixteen grouped eight
    obtain rfl := grouped.eq.1
    rcases Nat.lt_or_ge (longestRun (groups octets)).2 2 with short | found
    · rw [text, long_eq size own, if_pos short]
    · have run := longestRun_spec (Nat.ne_of_gt (Nat.lt_of_lt_of_le Nat.zero_lt_two found))
      exact absurd (sparse _ _ _ run.split) (Nat.not_le.2 found)
  | @shortened _ _ before after n own grouped eight run long =>
    obtain ⟨size, text⟩ := sixteen grouped eight
    obtain rfl := grouped.eq.1
    have found := le_longestRun run.split
    obtain ⟨rfl, rfl⟩ := run.unique (longestRun_spec (by omega))
    rw [text, long_eq size own, if_neg (by omega)]

theorem exists_reads {octets : List UInt8} {text : String} (shown : text? octets = some text) :
    ∃ text, Reads octets text := by
  unfold text? at shown
  split at shown
  · next four =>
    match octets, eq_of_beq four with
    | [a, b, c, d], _ => exact ⟨_, .short a b c d⟩
  · split at shown
    · next sixteen =>
      have size := eq_of_beq sixteen
      by_cases own : ∃ a b c d, octets = mapped a b c d
      · obtain ⟨a, b, c, d, rfl⟩ := own
        exact ⟨_, .mapped a b c d⟩
      · simp only [not_exists] at own
        have grouped := grouped_of_even (k := 8) size
        have eight : (groups octets).length = 8 := by
          have double := grouped.eq.2
          omega
        by_cases found : (longestRun (groups octets)).2 < 2
        · exact ⟨_, .whole own grouped eight fun _ _ _ split =>
            Nat.le_of_lt_succ (Nat.lt_of_le_of_lt (le_longestRun split) found)⟩
        · exact ⟨_, .shortened own grouped eight (longestRun_spec (by omega)) (Nat.not_lt.1 found)⟩
    · cases shown

/-- Addresses of four or sixteen octets have a text, and it is the one that their octets say. -/
theorem text?_eq_some_iff (octets : List UInt8) (text : String) :
    text? octets = some text ↔ Reads octets text := by
  refine ⟨fun shown => ?_, text?_of_reads⟩
  obtain ⟨other, reads⟩ := exists_reads shown
  have same := shown.symm.trans (text?_of_reads reads)
  rwa [Option.some.inj same]

example : text? [0x20, 1, 0xd, 0xb8, 0, 0, 0, 0, 0, 1, 0, 0, 0, 0, 0, 1] =
    some "2001:db8::1:0:0:1" := by rfl

end DeviceAdmission.Certificate.Address
