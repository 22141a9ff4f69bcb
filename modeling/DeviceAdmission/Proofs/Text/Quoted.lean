import DeviceAdmission.Text.Quoted

/-!
# Quoted text, read back

A quoted text stands for one string, and says where it ends whatever follows it. Each character is one
code word (`Escapes`); no code word is the beginning of another or of the closing quote.

* `toDigits_inj`: digits determine their number.
* `escapes_append_inj`: a code word determines its character and its end.
* `text_append_inj`: a quoted text determines its string and its end.
-/
namespace DeviceAdmission.Text

/-! ## Digits -/

section

variable {b m n : Nat}

theorem exists_digitChar_of_mem {c : Char} (base : 1 < b) (member : c ∈ Nat.toDigits b n) :
    ∃ d < b, c = d.digitChar := by
  induction n using Nat.strongRecOn with
  | ind n ih =>
    by_cases small : n < b
    · rw [Nat.toDigits_of_lt_base small, List.mem_singleton] at member
      exact ⟨n, small, member⟩
    · rw [Nat.toDigits_of_base_le base (Nat.not_lt.1 small), List.mem_append,
        List.mem_singleton] at member
      rcases member with member | last
      · exact ih (n / b) (Nat.div_lt_self (by omega) base) member
      · exact ⟨n % b, Nat.mod_lt n (by omega), last⟩

theorem digitChar_inj : ∀ d < 16, ∀ e < 16, Nat.digitChar d = Nat.digitChar e → d = e := by
  decide

/-- Digits determine their number. -/
theorem toDigits_inj (base : 1 < b) (few : b ≤ 16) (same : Nat.toDigits b m = Nat.toDigits b n) :
    m = n := by
  have digit {d e : Nat} (less : d < b) (less' : e < b) (same : d.digitChar = e.digitChar) : d = e :=
    digitChar_inj d (by omega) e (by omega) same
  induction m using Nat.strongRecOn generalizing n with
  | ind m ih =>
    have long {k : Nat} (large : b ≤ k) : ∀ c, Nat.toDigits b k ≠ [c] := by
      intro c single
      rw [Nat.toDigits_of_base_le base large] at single
      have size := congrArg List.length single
      have some := Nat.length_toDigits_pos (b := b) (n := k / b)
      simp only [List.length_append, List.length_singleton] at size
      omega
    rcases Nat.lt_or_ge m b with small | large <;> rcases Nat.lt_or_ge n b with small' | large'
    · rw [Nat.toDigits_of_lt_base small, Nat.toDigits_of_lt_base small'] at same
      exact digit small small' (List.singleton_inj.1 same)
    · rw [Nat.toDigits_of_lt_base small] at same
      exact absurd same.symm (long large' _)
    · rw [Nat.toDigits_of_lt_base small'] at same
      exact absurd same (long large _)
    · rw [Nat.toDigits_of_base_le base large, Nat.toDigits_of_base_le base large'] at same
      obtain ⟨front, last⟩ := List.append_inj' same rfl
      have high := ih (m / b) (Nat.div_lt_self (by omega) base) front
      have low := digit (Nat.mod_lt m (by omega)) (Nat.mod_lt n (by omega)) (List.singleton_inj.1 last)
      rw [← Nat.div_add_mod m b, ← Nat.div_add_mod n b, high, low]

end

/-- What stands before the first of some character, and what behind it, where it is the same in two
texts. -/
theorem split_inj {c : Char} {u v u' v' : List Char} (absent : c ∉ u) (absent' : c ∉ u')
    (same : u ++ c :: v = u' ++ c :: v') : u = u' ∧ v = v' := by
  induction u generalizing u' with
  | nil =>
    cases u' with
    | nil => exact ⟨rfl, (List.cons.inj same).2⟩
    | cons d u' =>
      obtain ⟨rfl, -⟩ := List.cons.inj same
      exact absurd List.mem_cons_self absent'
  | cons d u ih =>
    cases u' with
    | nil =>
      obtain ⟨rfl, -⟩ := List.cons.inj same
      exact absurd List.mem_cons_self absent
    | cons e u' =>
      obtain ⟨rfl, later⟩ := List.cons.inj same
      obtain ⟨rfl, rest⟩ := ih (fun member => absent (List.mem_cons_of_mem _ member))
        (fun member => absent' (List.mem_cons_of_mem _ member)) later
      exact ⟨rfl, rest⟩

namespace Quoted

/-! ## Code words -/

/-- The characters with an escape of their own, and its letter. -/
def letters : List (Char × Char) :=
  [('\x00', '0'), ('\t', 't'), ('\r', 'r'), ('\n', 'n'), ('\\', '\\'), ('"', '"')]

/-- A code word for a character in quoted text. -/
inductive Escapes (c : Char) : List Char → Prop where
  | short {letter : Char} (listed : (c, letter) ∈ letters) : Escapes c ['\\', letter]
  | codePoint : Escapes c ('\\' :: 'u' :: '\x7b' :: (Nat.toDigits 16 c.toNat ++ ['\x7d']))
  | plain (unquoted : c ≠ '"') (unescaped : c ≠ '\\') : Escapes c [c]

theorem escapes_escapeChar (escapeCombining : Bool) (c : Char) :
    Escapes c (escapeChar ⟨some '"', escapeCombining⟩ c).toList := by
  have point : Escapes c (codePoint c).toList := by
    have spelled : (codePoint c).toList =
        '\\' :: 'u' :: '\x7b' :: (Nat.toDigits 16 c.toNat ++ ['\x7d']) := by
      simp [codePoint, Hex.ofNat]
    rw [spelled]
    exact .codePoint
  have short (letter : Char) {d : Char} {word : String} (same : c = d)
      (listed : (d, letter) ∈ letters) (spelled : word.toList = ['\\', letter]) :
      Escapes c word.toList := by
    rw [same, spelled]
    exact .short listed
  have quote (own : ((some '"').all (· == c) && (c == '"' || c == '\'')) = true) : c = '"' :=
    (eq_of_beq (Bool.and_eq_true_iff.1 own).1).symm
  unfold escapeChar
  split
  · next same => exact short '0' (eq_of_beq same) (by decide) rfl
  split
  · next same => exact short 't' (eq_of_beq same) (by decide) rfl
  split
  · next same => exact short 'r' (eq_of_beq same) (by decide) rfl
  split
  · next same => exact short 'n' (eq_of_beq same) (by decide) rfl
  split
  · next same => exact short '\\' (eq_of_beq same) (by decide) rfl
  next backslash =>
    split
    · next own =>
      obtain rfl := quote own
      exact short '"' rfl (by decide) rfl
    next unquoted =>
      split
      · exact point
      split
      · exact point
      · rw [Char.toString_eq_singleton, String.toList_singleton]
        refine .plain (fun same => ?_) fun same => backslash (beq_iff_eq.2 same)
        subst same
        exact unquoted rfl

theorem letters_inj : ∀ p ∈ letters, ∀ q ∈ letters, p.2 = q.2 → p.1 = q.1 := by decide

theorem brace_not_mem_toDigits (n : Nat) : '\x7d' ∉ Nat.toDigits 16 n := by
  intro member
  obtain ⟨d, less, same⟩ := exists_digitChar_of_mem (by decide) member
  revert d
  decide

/-- A code word determines its character and its end. -/
theorem escapes_append_inj {c d : Char} {w x u v : List Char} (word : Escapes c w)
    (word' : Escapes d x) (same : w ++ u = x ++ v) : c = d ∧ u = v := by
  have unlettered {c : Char} : (c, 'u') ∉ letters := by
    simp [letters]
  cases word with
  | short listed =>
    cases word' with
    | short listed' =>
      obtain ⟨letter, rest⟩ := List.cons.inj (List.cons.inj same).2
      exact ⟨letters_inj _ listed _ listed' letter, rest⟩
    | codePoint =>
      obtain ⟨rfl, -⟩ := List.cons.inj (List.cons.inj same).2
      exact absurd listed unlettered
    | plain _ unescaped => exact absurd (List.cons.inj same).1.symm unescaped
  | codePoint =>
    cases word' with
    | short listed =>
      obtain ⟨rfl, -⟩ := List.cons.inj (List.cons.inj same).2
      exact absurd listed unlettered
    | codePoint =>
      simp only [List.cons_append, List.append_assoc, List.nil_append, List.cons.injEq,
        true_and] at same
      obtain ⟨number, rest⟩ := split_inj (brace_not_mem_toDigits _) (brace_not_mem_toDigits _) same
      exact ⟨Char.toNat_inj.1 (toDigits_inj (by decide) (by decide) number), rest⟩
    | plain _ unescaped => exact absurd (List.cons.inj same).1.symm unescaped
  | plain _ unescaped =>
    cases word' with
    | short | codePoint => exact absurd (List.cons.inj same).1 unescaped
    | plain => exact List.cons.inj same

theorem Escapes.ne_nil {c : Char} {w : List Char} (word : Escapes c w) : w ≠ [] := by
  cases word <;> exact List.cons_ne_nil _ _

/-- No code word begins as the closing quote does. -/
theorem Escapes.head?_ne {c : Char} {w : List Char} (word : Escapes c w) : w.head? ≠ some '"' := by
  cases word with
  | short | codePoint => exact fun same => absurd (Option.some.inj same) (by decide)
  | plain unquoted => exact fun same => unquoted (Option.some.inj same)

/-! ## Texts -/

/-- Code words one behind the other. -/
inductive Spells : List Char → List Char → Prop where
  | nil : Spells [] []
  | cons {c : Char} {cs w x : List Char} (word : Escapes c w) (later : Spells cs x) :
      Spells (c :: cs) (w ++ x)

theorem spells_append_inj {cs ds w x u v : List Char} (spells : Spells cs w) (spells' : Spells ds x)
    (same : w ++ '"' :: u = x ++ '"' :: v) : cs = ds ∧ u = v := by
  have unclosed {c : Char} {w x u v : List Char} (word : Escapes c w)
      (same : '"' :: u = w ++ x ++ '"' :: v) : False := by
    have front := congrArg List.head? same
    obtain ⟨first, rest, rfl⟩ := List.exists_cons_of_ne_nil word.ne_nil
    exact word.head?_ne front.symm
  induction spells generalizing ds x with
  | nil =>
    cases spells' with
    | nil => exact ⟨rfl, (List.cons.inj same).2⟩
    | cons word later => exact (unclosed word same).elim
  | cons word later ih =>
    cases spells' with
    | nil => exact (unclosed word same.symm).elim
    | cons word' later' =>
      rw [List.append_assoc, List.append_assoc] at same
      obtain ⟨rfl, same⟩ := escapes_append_inj word word' same
      obtain ⟨rfl, rest⟩ := ih later' same
      exact ⟨rfl, rest⟩

theorem spells_join (escapeCombining : Bool) (cs : List Char) :
    Spells cs (String.join (cs.map (escapeChar ⟨some '"', escapeCombining⟩))).toList := by
  induction cs with
  | nil => exact .nil
  | cons c cs ih =>
    rw [List.map_cons, String.join_cons, String.toList_append]
    exact .cons (escapes_escapeChar escapeCombining c) ih

theorem exists_spells (s : String) :
    ∃ w, Spells s.toList w ∧ (text s).toList = '"' :: (w ++ ['"']) := by
  unfold text
  cases s.toList with
  | nil => exact ⟨[], .nil, rfl⟩
  | cons first rest =>
    refine ⟨_, .cons (escapes_escapeChar true first) (spells_join false rest), ?_⟩
    simp

/-- A quoted text determines its string and its end. -/
theorem text_append_inj {s t : String} {u v : List Char}
    (same : (text s).toList ++ u = (text t).toList ++ v) : s = t ∧ u = v := by
  obtain ⟨w, spells, spelled⟩ := exists_spells s
  obtain ⟨x, spells', spelled'⟩ := exists_spells t
  rw [spelled, spelled', List.cons_append, List.cons_append, List.append_assoc,
    List.append_assoc] at same
  obtain ⟨chars, rest⟩ := spells_append_inj spells spells' (List.cons.inj same).2
  exact ⟨String.toList_inj.1 chars, rest⟩

end Quoted

end DeviceAdmission.Text
