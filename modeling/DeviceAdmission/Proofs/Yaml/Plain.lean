import DeviceAdmission.Yaml.Token.Scalar
import DeviceAdmission.Yaml.Writer

/-!
# Plain scalars are read back

A text that may be written plain is scanned to the text itself, if a colon ends it or a line follows
that cannot continue it.

* `scanPlain_line`: as a value.
* `scanPlain_name`: as a key, which is a name.

The scanner walks over the text once. What it has passed since the last word is the gap, and the
value so far is always the text so far, reversed: `gap.fold ++ acc`.
-/
namespace DeviceAdmission.Yaml

/-! ## Characters that are written as they are -/

section Characters

variable {c : Char}

theorem isPrintable_cases (printable : isPrintable c) :
    c.toNat = 10 ∨ (32 ≤ c.toNat ∧ c.toNat ≤ 126) ∨
      (0xA0 ≤ c.toNat ∧ c.toNat ≤ 0xFFFD ∧ c.toNat ≠ 0xFEFF) ∨ 0x10000 ≤ c.toNat := by
  simpa [isPrintable, or_assoc, and_assoc] using printable

theorem isAllowed_of_isPrintable (printable : isPrintable c) : isAllowed c := by
  have cases := isPrintable_cases printable
  simp only [isAllowed, Bool.or_eq_true, Bool.and_eq_true, beq_iff_eq, decide_eq_true_eq]
  omega

theorem ne_of_isPrintable {d : Char} (unprintable : isPrintable d = false)
    (printable : isPrintable c) : c ≠ d := by
  rintro rfl
  rw [unprintable] at printable
  cases printable

/-- The only blank that is written as it is is the space. -/
theorem isBlank_of_ne (printable : isPrintable c) (other : c ≠ ' ') : isBlank c = false := by
  have tab : c ≠ '\t' := ne_of_isPrintable rfl printable
  simp [isBlank, other, tab]

/-- The breaks that are written as they are stand for themselves. -/
theorem breakValue_of_isPrintable (printable : isPrintable c) (ends : isBreak c) :
    breakValue c = c := by
  simp only [isBreak, Bool.or_eq_true, beq_iff_eq] at ends
  rcases ends with (((rfl | rfl) | rfl) | rfl) | rfl <;> first | rfl | cases printable

theorem startsPair_eq_false (printable : isPrintable c) (rest : List Char) :
    startsPair c rest = false := by
  rw [startsPair, Bool.and_eq_false_iff]
  exact .inl (beq_eq_false_iff_ne.2 (ne_of_isPrintable rfl printable))

end Characters

theorem isBlank_of_isBreak {c : Char} (ends : isBreak c) : isBlank c = false := by
  simp only [isBreak, Bool.or_eq_true, beq_iff_eq] at ends
  rcases ends with (((rfl | rfl) | rfl) | rfl) | rfl <;> rfl

theorem endsWord_append {cs : List Char} (goesOn : endsWord cs = false) (after : List Char) :
    endsWord (cs ++ after) = false := by
  cases cs with
  | nil => cases goesOn
  | cons c cs => exact goesOn

theorem isDocumentIndicator_of_ne {c : Char} {rest : List Char} (dash : c ≠ '-') (dot : c ≠ '.') :
    isDocumentIndicator (c :: rest) = false := by
  unfold isDocumentIndicator
  split
  · rename_i same; exact absurd (List.cons.inj same).1 dash
  · rename_i same; exact absurd (List.cons.inj same).1 dot
  · rfl

theorem adjoins_cons {p q : Char → Bool} {c : Char} {cs : List Char}
    (apart : adjoins p q (c :: cs) = false) :
    (p c → ∀ d ∈ cs.head?, q d = false) ∧ adjoins p q cs = false := by
  cases cs with
  | nil => exact ⟨fun _ d member => (by cases member), rfl⟩
  | cons d rest =>
    have both : (p c && q d) = false ∧ adjoins p q (d :: rest) = false := by
      simpa [adjoins, Bool.or_eq_false_iff] using apart
    refine ⟨fun first e member => ?_, both.2⟩
    obtain rfl : d = e := by simpa using member
    simpa [first] using both.1

/-! ## Where a scanner stands -/

namespace Mark

@[simp]
theorem advance_zero (m : Mark) : m.advance 0 = m := rfl

@[simp]
theorem next_advance (m : Mark) (n : Nat) : m.next.advance n = m.advance (n + 1) := by
  simp only [next, advance, Mark.mk.injEq, true_and]
  omega

@[simp]
theorem advance_column (m : Mark) (n : Nat) : (m.advance n).column = m.column + n := rfl

@[simp]
theorem next_column (m : Mark) : m.next.column = m.column + 1 := rfl

@[simp]
theorem nextLine_column (m : Mark) : m.nextLine.column = 0 := rfl

end Mark

/-! ## Names -/

/-- Letters, digits and underscores. -/
def isNameLetter (c : Char) : Bool := c.isAlphanum || c == '_'

/-- What can stand for itself anywhere: a key, or a word that is no text. -/
structure IsName (cs : List Char) : Prop where
  filled : cs ≠ []
  letters : ∀ c ∈ cs, isNameLetter c

section Names

variable {c : Char}

theorem isNameLetter_cases (letter : isNameLetter c) :
    (48 ≤ c.toNat ∧ c.toNat ≤ 57) ∨ (65 ≤ c.toNat ∧ c.toNat ≤ 90) ∨ c.toNat = 95 ∨
      (97 ≤ c.toNat ∧ c.toNat ≤ 122) := by
  have parts : (decide ('A'.val ≤ c.val ∧ c.val ≤ 'Z'.val) ||
      (decide ('a'.val ≤ c.val) && decide (c.val ≤ 'z'.val)) ||
      (decide ('0'.val ≤ c.val) && decide (c.val ≤ '9'.val)) || c == '_') = true := letter
  simp only [Bool.or_eq_true, Bool.and_eq_true, decide_eq_true_eq, beq_iff_eq,
    UInt32.le_iff_toNat_le] at parts
  change (((65 ≤ c.toNat ∧ c.toNat ≤ 90) ∨ (97 ≤ c.toNat ∧ c.toNat ≤ 122)) ∨
    (48 ≤ c.toNat ∧ c.toNat ≤ 57)) ∨ c = '_' at parts
  rcases parts with parts | rfl
  · omega
  · exact .inr (.inr (.inl rfl))

theorem ne_of_isNameLetter {d : Char} (foreign : isNameLetter d = false) (letter : isNameLetter c) :
    c ≠ d := by
  rintro rfl
  rw [foreign] at letter
  cases letter

theorem isPrintable_of_isNameLetter (letter : isNameLetter c) : isPrintable c := by
  have cases := isNameLetter_cases letter
  simp only [isPrintable, Bool.or_eq_true, Bool.and_eq_true, beq_iff_eq, decide_eq_true_eq]
  omega

theorem isBlank_of_isNameLetter (letter : isNameLetter c) : isBlank c = false :=
  isBlank_of_ne (isPrintable_of_isNameLetter letter) (ne_of_isNameLetter rfl letter)

theorem isBreak_of_isNameLetter (letter : isNameLetter c) : isBreak c = false := by
  have other {d : Char} (foreign : isNameLetter d = false) := ne_of_isNameLetter foreign letter
  simp [isBreak, other (d := '\n') rfl, other (d := '\r') rfl, other (d := '\u0085') rfl,
    other (d := '\u2028') rfl, other (d := '\u2029') rfl]

end Names

/-! ## Gaps -/

namespace Gap

/-- The gap adds to the value just what has been passed: no line feed in it is folded. -/
def Keeps : Gap → Prop
  | none | blanks _ => True
  | escaped | lines Option.none _ => False
  | lines (some first) _ => first ≠ '\n'

/-- The last character passed was a blank that counts. -/
def isInline : Gap → Bool
  | blanks _ => true
  | _ => false

variable {gap : Gap}

theorem addBlank_of_holdsBreak (broken : gap.holdsBreak) (c : Char) : gap.addBlank c = gap := by
  cases gap <;> first | rfl | cases broken

theorem Keeps.addBlank (keeps : gap.Keeps) (same : gap.holdsBreak = false) (c : Char) :
    (gap.addBlank c).Keeps ∧ (gap.addBlank c).fold = c :: gap.fold ∧
      (gap.addBlank c).holdsBreak = false ∧ (gap.addBlank c).isInline := by
  cases gap with
  | none => exact ⟨trivial, rfl, rfl, rfl⟩
  | blanks passed => exact ⟨trivial, rfl, rfl, rfl⟩
  | escaped => exact keeps.elim
  | lines first more => cases same

theorem Keeps.addBreak {c : Char} (keeps : gap.Keeps) (kept : breakValue c = c) (other : c ≠ '\n')
    (joined : gap.isInline = false) :
    (gap.addBreak c).Keeps ∧ (gap.addBreak c).fold = c :: gap.fold ∧
      (gap.addBreak c).holdsBreak := by
  have unfolded : (c == '\n') = false := beq_eq_false_iff_ne.2 other
  cases gap with
  | none =>
    exact ⟨by simpa [Gap.addBreak, Keeps, kept], by simp [Gap.addBreak, fold, kept, unfolded], rfl⟩
  | blanks passed => cases joined
  | escaped => exact keeps.elim
  | lines first more =>
    cases first with
    | none => exact keeps.elim
    | some first =>
      have whole : (first == '\n') = false := beq_eq_false_iff_ne.2 keeps
      exact ⟨keeps, by simp [Gap.addBreak, fold, kept, whole], rfl⟩

@[simp]
theorem fold_none : Gap.none.fold = [] := rfl

end Gap

/-! ## What follows a line -/

/-- The column where the first line begins. -/
def indentOf (s : List Char) : Nat := (s.takeWhile isSpace).length

/-- A text without the indentation of its first line. -/
def unindented (s : List Char) : List Char := s.dropWhile isSpace

/-- The text goes on with a name on its first line, or there is none. -/
def Resumes (s : List Char) : Prop := ∀ c ∈ (unindented s).head?, isNameLetter c

theorem replicate_indentOf (s : List Char) :
    List.replicate (indentOf s) ' ' ++ unindented s = s := by
  have blanks : s.takeWhile isSpace = List.replicate (indentOf s) ' ' :=
    List.eq_replicate_of_mem fun c member =>
      beq_iff_eq.1 (List.all_eq_true.1 List.all_takeWhile c member)
  rw [← blanks]
  exact List.takeWhile_append_dropWhile

theorem Resumes.head {s : List Char} {c : Char} {rest : List Char} (resumes : Resumes s)
    (begins : unindented s = c :: rest) : isNameLetter c :=
  resumes c (by rw [begins]; rfl)

/-! ## Plain scalars -/

section Plain

variable {margin : Nat} {start m : Mark} {gap : Gap} {c : Char} {rest after acc : List Char}

theorem scanPlain_blank :
    scanPlain false margin start (' ' :: rest) m gap acc =
      scanPlain false margin start rest m.next (gap.addBlank ' ') acc := by
  have space : isBlank ' ' = true := rfl
  rw [scanPlain, if_pos space, if_neg (by simp)]

theorem scanPlain_blanks (broken : gap.holdsBreak) (n : Nat) :
    scanPlain false margin start (List.replicate n ' ' ++ rest) m gap acc =
      scanPlain false margin start rest (m.advance n) gap acc := by
  induction n generalizing m with
  | zero => rfl
  | succ n ih =>
    rw [List.replicate_succ, List.cons_append, scanPlain_blank,
      Gap.addBlank_of_holdsBreak broken, ih, Mark.next_advance]

/-- A character of the text itself. -/
theorem scanPlain_word (blank : isBlank c = false) (ends : isBreak c = false) (pair : c ≠ '\r')
    (goesOn : gap = .none ∨ margin ≤ m.column ∧ c ≠ '#' ∧ m.column ≠ 0)
    (colon : (c == ':' && endsWord rest) = false) :
    scanPlain false margin start (c :: rest) m gap acc =
      scanPlain false margin start rest m.next .none (c :: (gap.fold ++ acc)) := by
  have single : startsPair c rest = false := by
    rw [startsPair, beq_eq_false_iff_ne.2 pair, Bool.false_and]
  have stays : ¬ (gap != .none && (!false && m.column < margin || c == '#'
      || m.column == 0 && isDocumentIndicator (c :: rest))) = true := by
    rcases goesOn with rfl | ⟨inside, comment, column⟩
    · simp
    · have left : ¬ m.column < margin := by omega
      simp [left, comment, column]
  rw [scanPlain, if_neg (by simp [blank]), if_neg (by simp [single]), if_neg (by simp [ends]),
    if_neg stays, if_neg (by simp), if_neg (by simp [colon])]

/-- The text of a plain scalar, from its second character on. `before` is the character before. -/
theorem scanPlain_rest {before : Char} {cs : List Char} (clean : ∀ c ∈ cs, isPrintable c)
    (whole : ∀ c ∈ cs, isBreak c = false) (free : holdsIndicator (before :: cs) = false)
    (keeps : gap.Keeps) (same : gap.holdsBreak = false) (blank : gap ≠ .none → before = ' ')
    (last : (before :: cs).getLast? ≠ some ' ') (inside : margin ≤ m.column)
    (column : m.column ≠ 0) :
    scanPlain false margin start (cs ++ after) m gap acc =
      scanPlain false margin start after (m.advance cs.length) .none
        (cs.reverse ++ gap.fold ++ acc) := by
  induction cs generalizing before gap m acc with
  | nil =>
    have none : gap = .none := by
      rcases Decidable.em (gap = .none) with none | other
      · exact none
      · exact absurd (by rw [blank other]; rfl) last
    simp [none, Gap.fold]
  | cons c cs ih =>
    have printable := clean c List.mem_cons_self
    have clean' : ∀ c ∈ cs, isPrintable c := fun d member => clean d (List.mem_cons_of_mem c member)
    have whole' : ∀ c ∈ cs, isBreak c = false := fun d member =>
      whole d (List.mem_cons_of_mem c member)
    simp only [holdsIndicator, Bool.or_eq_false_iff, Bool.and_eq_false_iff] at free
    obtain ⟨⟨comment, colon⟩, free'⟩ := free
    have last' : (c :: cs).getLast? ≠ some ' ' := by
      rwa [List.getLast?_cons_cons] at last
    by_cases space : c = ' '
    · subst space
      obtain ⟨keeps', fold, same', _⟩ := keeps.addBlank same ' '
      rw [List.cons_append, scanPlain_blank,
        ih clean' whole' free' keeps' same' (fun _ => rfl) last' (by simp; omega) (by simp), fold]
      simp
    · have word : isBlank c = false := isBlank_of_ne printable space
      have goesOn : gap = .none ∨ margin ≤ m.column ∧ c ≠ '#' ∧ m.column ≠ 0 := by
        by_cases none : gap = .none
        · exact .inl none
        · refine .inr ⟨inside, ?_, column⟩
          rw [blank none] at comment
          simpa [isBlank] using comment
      have stays : (c == ':' && endsWord (cs ++ after)) = false := by
        rcases colon with other | inner
        · rw [other, Bool.false_and]
        · rw [endsWord_append inner, Bool.and_false]
      rw [List.cons_append, scanPlain_word word (whole c List.mem_cons_self)
        (ne_of_isPrintable rfl printable) goesOn stays,
        ih clean' whole' free' (show Gap.none.Keeps from trivial) rfl (fun other => absurd rfl other)
          last' (by simp; omega) (by simp)]
      simp [Gap.fold]

/-- What may be written plain, apart from its meaning. -/
theorem isPlainSafe_cases {cs : List Char} (safe : isPlainSafe cs) :
    (∀ c ∈ cs, isPrintable c) ∧ (∀ c ∈ cs, isBreak c = false) ∧ beginsReserved cs = false ∧
      holdsIndicator cs = false ∧ cs.head? ≠ some ' ' ∧ cs.getLast? ≠ some ' ' := by
  simp only [isPlainSafe, isUnescaped, Bool.and_eq_true, List.all_eq_true, Bool.not_eq_true',
    List.any_eq_false] at safe
  obtain ⟨⟨⟨⟨⟨⟨clean, -⟩, whole⟩, reserved⟩, free⟩, first⟩, last⟩ := safe
  refine ⟨clean, fun c member => by simpa using whole c member, reserved, free, ?_, ?_⟩
  · intro space
    rw [space] at first
    cases first
  · intro space
    rw [space] at last
    cases last

theorem scanPlain_text {cs : List Char} (safe : isPlainSafe cs) (filled : cs ≠ [])
    (inside : margin ≤ m.column) :
    scanPlain false margin start (cs ++ after) m .none [] =
      scanPlain false margin start after (m.advance cs.length) .none cs.reverse := by
  obtain ⟨clean, whole, reserved, free, first, last⟩ := isPlainSafe_cases safe
  cases cs with
  | nil => exact absurd rfl filled
  | cons c cs =>
    have printable := clean c List.mem_cons_self
    have word : isBlank c = false :=
      isBlank_of_ne printable fun space => first (by rw [space]; rfl)
    have stays : (c == ':' && endsWord (cs ++ after)) = false := by
      by_cases colon : c = ':'
      · subst colon
        have inner : endsWord cs = false := by
          simp only [beginsReserved, Bool.or_eq_false_iff, Bool.and_eq_false_iff] at reserved
          simpa using reserved.1.1.2
        rw [endsWord_append inner, Bool.and_false]
      · rw [beq_eq_false_iff_ne.2 colon, Bool.false_and]
    rw [List.cons_append, scanPlain_word word (whole c List.mem_cons_self)
      (ne_of_isPrintable rfl printable) (.inl rfl) stays,
      scanPlain_rest (fun d member => clean d (List.mem_cons_of_mem c member))
        (fun d member => whole d (List.mem_cons_of_mem c member)) free
        (show Gap.none.Keeps from trivial) rfl
        (fun other => absurd rfl other) last (by simp; omega) (by simp)]
    simp [Gap.fold]

/-- A value: the line after it lies further out, or the text ends. -/
theorem scanPlain_line {cs tail : List Char} (safe : isPlainSafe cs) (filled : cs ≠ [])
    (inside : margin ≤ m.column) (resumes : Resumes tail) (outside : indentOf tail < margin) :
    scanPlain false margin start (cs ++ '\n' :: tail) m .none [] =
      .ok ⟨String.ofList cs, true,
        ⟨unindented tail, (m.advance cs.length).nextLine.advance (indentOf tail)⟩⟩ := by
  have broken : (Gap.none.addBreak '\n').holdsBreak := rfl
  have passed : scanPlain false margin start (cs ++ '\n' :: tail) m .none [] =
      scanPlain false margin start (unindented tail)
        ((m.advance cs.length).nextLine.advance (indentOf tail)) (Gap.none.addBreak '\n')
        cs.reverse := by
    rw [scanPlain_text safe filled inside, scanPlain, if_neg (by decide),
      if_neg (by simp [startsPair]), if_pos (by decide), ← scanPlain_blanks broken,
      replicate_indentOf]
  rw [passed]
  cases begins : unindented tail with
  | nil => simp [scanPlain, valueOf, broken]
  | cons c rest =>
    have letter := resumes.head begins
    rw [scanPlain, if_neg (by simp [isBlank_of_isNameLetter letter]),
      if_neg (by simp [startsPair_eq_false (isPrintable_of_isNameLetter letter)]),
      if_neg (by simp [isBreak_of_isNameLetter letter]), if_pos (by simp [Gap.addBreak, outside])]
    simp [valueOf, broken]

/-- A key. There are no blanks in it, so it may stand in any column. -/
theorem scanPlain_name {cs : List Char} (letters : ∀ c ∈ cs, isNameLetter c) (ended : endsWord after) :
    scanPlain false margin start (cs ++ ':' :: after) m .none acc =
      .ok ⟨valueOf (cs.reverse ++ acc), false, ⟨':' :: after, m.advance cs.length⟩⟩ := by
  induction cs generalizing m acc with
  | nil =>
    rw [List.nil_append, scanPlain, if_neg (by decide), if_neg (by simp [startsPair]),
      if_neg (by decide), if_neg (by simp), if_neg (by simp), if_pos (by simp [ended])]
    rfl
  | cons c cs ih =>
    have letter := letters c List.mem_cons_self
    have colon : (c == ':') = false := beq_eq_false_iff_ne.2 (ne_of_isNameLetter rfl letter)
    rw [List.cons_append, scanPlain_word (isBlank_of_isNameLetter letter)
      (isBreak_of_isNameLetter letter) (ne_of_isNameLetter rfl letter) (.inl rfl)
      (by rw [colon, Bool.false_and]), ih fun d member => letters d (List.mem_cons_of_mem c member)]
    simp

theorem holdsIndicator_of_letters {cs : List Char} (letters : ∀ c ∈ cs, isNameLetter c) :
    holdsIndicator cs = false := by
  induction cs with
  | nil => rfl
  | cons a cs ih =>
    have rest := ih fun d member => letters d (List.mem_cons_of_mem a member)
    cases cs with
    | nil => rfl
    | cons b cs =>
      have letter := letters b (by simp)
      have comment : (b == '#') = false := beq_eq_false_iff_ne.2 (ne_of_isNameLetter rfl letter)
      have colon : (b == ':') = false := beq_eq_false_iff_ne.2 (ne_of_isNameLetter rfl letter)
      rw [holdsIndicator, comment, colon, rest]
      rfl

theorem beginsReserved_of_letter (letter : isNameLetter c) (cs : List Char) :
    beginsReserved (c :: cs) = false := by
  have other {d : Char} (foreign : isNameLetter d = false) : (c == d) = false :=
    beq_eq_false_iff_ne.2 (ne_of_isNameLetter foreign letter)
  have inner : beginsIndicator c = false := by
    rw [beginsIndicator, List.contains_eq_any_beq, List.any_eq_false]
    intro d member
    have indicators : "#,[]\x7b\x7d&*!|>'\"%@`".toList.all (!isNameLetter ·) = true := by decide
    have foreign : isNameLetter d = false := by simpa using List.all_eq_true.1 indicators d member
    simp [other foreign]
  have flipped {d : Char} (foreign : isNameLetter d = false) : (d == c) = false :=
    beq_eq_false_iff_ne.2 (ne_of_isNameLetter foreign letter).symm
  simp [beginsReserved, List.isPrefixOf, inner, other (d := '?') rfl, other (d := ':') rfl,
    other (d := '-') rfl, flipped (d := '-') rfl, flipped (d := '.') rfl]

/-- A name may be written plain. -/
theorem IsName.isPlainSafe {cs : List Char} (name : IsName cs) : isPlainSafe cs := by
  have printable : cs.all isPrintable :=
    List.all_eq_true.2 fun c member => isPrintable_of_isNameLetter (name.letters c member)
  have space : ∀ c ∈ cs, isSpace c = false := fun c member =>
    beq_eq_false_iff_ne.2 (ne_of_isNameLetter rfl (name.letters c member))
  have apart : adjoins isSpace isBreak cs = false := by
    rw [adjoins, List.any_eq_false]
    rintro ⟨a, b⟩ member
    simp [space a (List.of_mem_zip member).1]
  have whole : cs.any isBreak = false := by
    rw [List.any_eq_false]
    intro c member
    simp [isBreak_of_isNameLetter (name.letters c member)]
  have reserved : beginsReserved cs = false := by
    cases cs with
    | nil => rfl
    | cons c cs => exact beginsReserved_of_letter (name.letters c List.mem_cons_self) cs
  have first : cs.head?.any isSpace = false := by
    cases cs with
    | nil => rfl
    | cons c cs => exact space c List.mem_cons_self
  have last : cs.getLast?.any isSpace = false := by
    cases end_ : cs.getLast? with
    | none => rfl
    | some c => exact space c (List.mem_of_getLast? end_)
  rw [Yaml.isPlainSafe, isUnescaped, printable, apart, whole, reserved,
    holdsIndicator_of_letters name.letters, first, last]
  rfl

end Plain

end DeviceAdmission.Yaml
