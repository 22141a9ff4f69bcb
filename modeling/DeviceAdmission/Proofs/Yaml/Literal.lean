import DeviceAdmission.Proofs.Yaml.Quoted

/-!
# Literal blocks are read back

Every line of a literal block is indented, and stands for itself after its indentation. The header
tells the indentation where the first line does not show it, and what becomes of the breaks at the
end: of the breaks of a text none may be lost, and none may be added.

`scanLines_text` walks over the lines; `scanBlock_literal` is the result for a whole block.
-/
namespace DeviceAdmission.Yaml

section Lines

variable {indent : Nat} {start m : Mark} {c : Char} {rest after tail : List Char}
  {inLine fresh : Bool} {b : BlockLines}

/-! ## One character -/

theorem scanLines_lineEnd (printable : isPrintable c) (ends : isBreak c) :
    scanLines false indent start (c :: rest) m true b =
      scanLines false indent start rest m.nextLine false { b with ended := some c } := by
  rw [scanLines, if_neg (by simp [startsPair_eq_false printable]), if_pos rfl, if_pos ends,
    breakValue_of_isPrintable printable ends]

theorem scanLines_word (printable : isPrintable c) (stays : isBreak c = false) :
    scanLines false indent start (c :: rest) m true b =
      scanLines false indent start rest m.next true { b with text := c :: b.text } := by
  rw [scanLines, if_neg (by simp [startsPair_eq_false printable]), if_pos rfl,
    if_neg (by simp [stays])]

/-- An empty line. -/
theorem scanLines_empty (printable : isPrintable c) (ends : isBreak c) :
    scanLines false indent start (c :: rest) m false b =
      scanLines false indent start rest m.nextLine false { b with empty := c :: b.empty } := by
  have blank := isBlank_of_isBreak ends
  simp only [isBlank, Bool.or_eq_false_iff] at blank
  rw [scanLines, if_neg (by simp [startsPair_eq_false printable]), if_neg (by simp),
    if_neg (by simp [blank]), if_neg (by simp [blank]), if_pos ends,
    breakValue_of_isPrintable printable ends]

/-- The first character of a line, after its indentation. -/
theorem scanLines_first (printable : isPrintable c) (stays : isBreak c = false)
    (column : m.column = indent) :
    scanLines false indent start (c :: rest) m false b =
      scanLines false indent start rest m.next true (b.begin false c) := by
  rw [scanLines, if_neg (by simp [startsPair_eq_false printable]), if_neg (by simp),
    if_neg (by simp [column]), if_neg (by simp [column]), if_neg (by simp [stays]),
    if_pos (by simp [column])]

theorem scanLines_indent (n : Nat) (inside : m.column + n ≤ indent) :
    scanLines false indent start (List.replicate n ' ' ++ rest) m false b =
      scanLines false indent start rest (m.advance n) false b := by
  induction n generalizing m with
  | zero => rfl
  | succ n ih =>
    have next : m.next.column + n ≤ indent := by
      rw [Mark.next_column]
      omega
    rw [List.replicate_succ, List.cons_append, scanLines, if_neg (by simp [startsPair]),
      if_neg (by simp), if_pos (by simp; omega), ih next, Mark.next_advance]

/-- A line further out ends the block. -/
theorem scanLines_outside (resumes : Resumes tail) (outside : indentOf tail < indent)
    (column : m.column = 0) :
    scanLines false indent start tail m false b =
      .ok (b, ⟨unindented tail, m.advance (indentOf tail)⟩) := by
  have passed : scanLines false indent start tail m false b =
      scanLines false indent start (unindented tail) (m.advance (indentOf tail)) false b := by
    rw [← scanLines_indent (indentOf tail) (by omega), replicate_indentOf]
  rw [passed]
  cases begins : unindented tail with
  | nil => rfl
  | cons c rest =>
    have letter := resumes.head begins
    have single := startsPair_eq_false (isPrintable_of_isNameLetter letter) rest
    have ends := isBreak_of_isNameLetter letter
    have blank := isBlank_of_isNameLetter letter
    simp only [isBlank, Bool.or_eq_false_iff] at blank
    have left : (m.column + indentOf tail == indent) = false := by
      rw [beq_eq_false_iff_ne]
      omega
    rw [scanLines, if_neg (by simp [single]), if_neg (by simp), if_neg (by simp [blank]),
      if_neg (by simp [blank]), if_neg (by simp [ends]), if_neg (by simp [left])]

/-! ## All lines -/

/-- All that has been read, last first. -/
def BlockLines.read (b : BlockLines) : List Char := b.empty ++ b.ended.toList ++ b.text

/-- The last line has not ended. -/
def BlockLines.Unended (b : BlockLines) : Prop := b.ended = none ∧ b.empty = []

theorem BlockLines.read_begin (b : BlockLines) (c : Char) :
    (b.begin false c).read = c :: b.read ∧ (b.begin false c).Unended := by
  simp [begin, read, Unended]

theorem endsFresh_append (fresh : Bool) (xs ys : List Char) :
    endsFresh fresh (xs ++ ys) = endsFresh (endsFresh fresh xs) ys := by
  induction xs generalizing fresh with
  | nil => rfl
  | cons x xs ih => rw [List.cons_append, endsFresh_cons, endsFresh_cons, ih]

theorem indentLines_append (fresh : Bool) (xs ys : List Char) :
    indentLines indent fresh (xs ++ ys) =
      indentLines indent fresh xs ++ indentLines indent (endsFresh fresh xs) ys := by
  induction xs generalizing fresh with
  | nil => rfl
  | cons x xs ih =>
    rw [List.cons_append, endsFresh_cons]
    cases ends : isBreak x with
    | true =>
      rw [indentLines_of_isBreak ends, indentLines_of_isBreak ends, ih, List.cons_append]
    | false =>
      rw [indentLines_of_not_isBreak ends, indentLines_of_not_isBreak ends, ih, List.append_assoc,
        List.cons_append]

/-- Scanning the lines of a text adds the text to what has been read. -/
def LinesAdd (start : Mark) (indent : Nat) (after cs : List Char) (fresh : Bool) (m : Mark)
    (b : BlockLines) : Prop :=
  ∃ b' m', scanLines false indent start (indentLines indent fresh cs ++ after) m (!fresh) b =
      scanLines false indent start after m' (!endsFresh fresh cs) b' ∧
    b'.read = cs.reverse ++ b.read ∧
    (endsFresh fresh cs = true → m'.column = 0) ∧ (endsFresh fresh cs = false → b'.Unended)

/-- One character, and then the others. -/
theorem LinesAdd.step {cs : List Char} {ended : Bool} {next : Mark} {b' : BlockLines}
    (ends : isBreak c = ended) (later : LinesAdd start indent after cs ended next b')
    (reads : b'.read = c :: b.read)
    (scans : scanLines false indent start (indentLines indent fresh (c :: cs) ++ after) m (!fresh) b =
      scanLines false indent start (indentLines indent ended cs ++ after) next (!ended) b') :
    LinesAdd start indent after (c :: cs) fresh m b := by
  subst ends
  obtain ⟨last, stop, run, read, rest⟩ := later
  refine ⟨last, stop, ?_, ?_, ?_⟩
  · rw [scans, run, endsFresh_cons]
  · rw [read, reads]
    simp
  · rwa [endsFresh_cons]

theorem scanLines_text {cs : List Char} (clean : ∀ c ∈ cs, isPrintable c)
    (column : fresh = true → m.column = 0) (unended : fresh = false → b.Unended) :
    LinesAdd start indent after cs fresh m b := by
  induction cs generalizing fresh m b with
  | nil => exact ⟨b, m, rfl, rfl, column, unended⟩
  | cons c cs ih =>
    have printable := clean c List.mem_cons_self
    have clean' : ∀ c ∈ cs, isPrintable c := fun d member => clean d (List.mem_cons_of_mem c member)
    cases ends : isBreak c with
    | true =>
      cases fresh with
      | true =>
        have later := @ih m.nextLine true { b with empty := c :: b.empty } clean' (fun _ => rfl)
          (fun same => by cases same)
        refine .step ends later rfl ?_
        rw [indentLines_of_isBreak ends]
        exact scanLines_empty printable ends
      | false =>
        obtain ⟨none, empty⟩ := unended rfl
        have later := @ih m.nextLine true { b with ended := some c } clean' (fun _ => rfl)
          (fun same => by cases same)
        refine .step ends later (by simp [BlockLines.read, none, empty]) ?_
        rw [indentLines_of_isBreak ends]
        exact scanLines_lineEnd printable ends
    | false =>
      cases fresh with
      | true =>
        have later := @ih (m.advance indent).next false (b.begin false c) clean'
          (fun same => by cases same) (fun _ => (b.read_begin c).2)
        refine .step ends later (b.read_begin c).1 ?_
        rw [indentLines_of_not_isBreak ends, if_pos rfl, List.append_assoc]
        exact (scanLines_indent indent (by rw [column rfl]; omega)).trans
          (scanLines_first printable ends (by simp [column rfl]))
      | false =>
        obtain ⟨none, empty⟩ := unended rfl
        have later := @ih m.next false { b with text := c :: b.text } clean'
          (fun same => by cases same) (fun _ => ⟨none, empty⟩)
        refine .step ends later (by simp [BlockLines.read, none, empty]) ?_
        rw [indentLines_of_not_isBreak ends]
        exact scanLines_word printable ends

/-! ## The header -/

/-- What the header of a text says about the breaks at its end. -/
def chompingOf (s : List Char) : Chomping :=
  match s.reverse with
  | [] => .strip
  | c :: before =>
    if !isBreak c then .strip
    else match before with
      | [] => .keep
      | b :: _ => if isBreak b then .keep else .clip

/-- What the header of a text says about its indentation. -/
def statedOf (s : List Char) : Option Nat :=
  if s.head?.any fun c => isSpace c || isBreak c then some indentStep else none

/-- How a header says it. -/
def Chomping.sign : Chomping → List Char
  | .strip => ['-']
  | .clip => []
  | .keep => ['+']

theorem literalHeader_eq (s : List Char) :
    (literalHeader s).toList =
      '|' :: ((if (statedOf s).isSome then ['2'] else []) ++ (chompingOf s).sign) := by
  unfold literalHeader chompingOf statedOf
  have stated : Nat.toDigits 10 indentStep = ['2'] := by decide
  split <;> cases s.reverse with
  | nil => simp [Chomping.sign, stated]
  | cons c before =>
    cases ends : isBreak c with
    | false => simp [Chomping.sign, stated, ends]
    | true =>
      cases before with
      | nil => simp [Chomping.sign, stated, ends]
      | cons b _ => cases before : isBreak b <;> simp [Chomping.sign, stated, ends, before]

theorem scanBlockHeader_literalHeader (s : List Char) :
    ∃ stop, scanBlockHeader start ⟨(literalHeader s).toList.drop 1 ++ '\n' :: rest, m⟩ =
      .ok (chompingOf s, statedOf s, ⟨'\n' :: rest, stop⟩) := by
  have two : statedOf s = none ∨ statedOf s = some 2 := by
    unfold statedOf
    split
    · exact .inr rfl
    · exact .inl rfl
  rw [literalHeader_eq]
  rcases two with none | some
  · rw [none]
    cases chompingOf s <;> exact ⟨_, rfl⟩
  · rw [some]
    cases chompingOf s <;> exact ⟨_, rfl⟩

theorem findIndent_blanks {margin widest : Nat} (n : Nat) :
    findIndent margin start (List.replicate n ' ' ++ rest) m widest =
      findIndent margin start rest (m.advance n) widest := by
  induction n generalizing m with
  | zero => rfl
  | succ n ih =>
    rw [List.replicate_succ, List.cons_append, findIndent, if_pos (by decide), ih,
      Mark.next_advance]

/-- A first line with text that does not begin with a space shows the indentation. -/
theorem findIndent_indentLines {margin : Nat} {cs : List Char} (clean : ∀ c ∈ cs, isPrintable c)
    (filled : cs ≠ []) (shown : statedOf cs = none) (column : m.column = 0) (positive : 0 < indent)
    (inside : margin ≤ indent) :
    findIndent margin start (indentLines indent true cs ++ rest) m 0 = .ok indent := by
  cases cs with
  | nil => exact absurd rfl filled
  | cons c cs =>
    have printable := clean c List.mem_cons_self
    have plain : isSpace c = false ∧ isBreak c = false := by
      simpa [statedOf] using shown
    have space : c ≠ ' ' := by
      rintro rfl
      cases plain.1
    rw [indentLines_of_not_isBreak plain.2, if_pos rfl, List.append_assoc, findIndent_blanks,
      List.cons_append, findIndent, if_neg (by simp [space]),
      if_neg (by simpa using ne_of_isPrintable rfl printable),
      if_neg (by simp [startsPair_eq_false printable]), if_neg (by simp [plain.2])]
    simp [column]
    omega

/-! ## The end -/

/-- The break that ends the last line, if the text does not. -/
def closing (s : List Char) : List Char := if s.getLast?.any isBreak then [] else ['\n']

theorem endsFresh_concat (fresh : Bool) (cs : List Char) (c : Char) :
    endsFresh fresh (cs ++ [c]) = isBreak c := by
  rw [endsFresh_append, endsFresh_cons]
  rfl

/-- A text that ends within a line: the break after it is dropped. -/
theorem scanLines_strip {cs : List Char} (clean : ∀ c ∈ cs, isPrintable c)
    (ends : endsFresh true cs = false) (column : m.column = 0) (resumes : Resumes tail)
    (outside : indentOf tail < indent) :
    ∃ b m', scanLines false indent start (indentLines indent true cs ++ '\n' :: tail) m false {} =
        .ok (b, ⟨unindented tail, m'⟩) ∧ m'.column = indentOf tail ∧
      b.chomp .strip = String.ofList cs := by
  obtain ⟨b, m', run, read, -, unended⟩ := @scanLines_text indent start m ('\n' :: tail) true {} cs
    clean (fun _ => column) (fun same => by cases same)
  obtain ⟨none, empty⟩ := unended ends
  refine ⟨{ b with ended := some '\n' }, m'.nextLine.advance (indentOf tail), ?_, by simp, ?_⟩
  · rw [ends] at run
    exact run.trans ((scanLines_lineEnd rfl rfl).trans (scanLines_outside resumes outside rfl))
  · rw [BlockLines.read, none, empty] at read
    have text : b.text = cs.reverse := by simpa [BlockLines.read] using read
    simp [BlockLines.chomp, text, valueOf]

/-- A text that ends with one break. -/
theorem scanLines_clip {cs : List Char} (clean : ∀ d ∈ cs, isPrintable d) (printable : isPrintable c)
    (filled : endsFresh true cs = false) (ends : isBreak c) (column : m.column = 0)
    (resumes : Resumes tail) (outside : indentOf tail < indent) :
    ∃ b m', scanLines false indent start (indentLines indent true (cs ++ [c]) ++ tail) m false {} =
        .ok (b, ⟨unindented tail, m'⟩) ∧ m'.column = indentOf tail ∧
      b.chomp .clip = String.ofList (cs ++ [c]) := by
  obtain ⟨b, m', run, read, -, unended⟩ := @scanLines_text indent start m (c :: tail) true {} cs
    clean (fun _ => column) (fun same => by cases same)
  obtain ⟨none, empty⟩ := unended filled
  refine ⟨{ b with ended := some c }, m'.nextLine.advance (indentOf tail), ?_, by simp, ?_⟩
  · rw [filled] at run
    rw [indentLines_append, indentLines_of_isBreak ends, indentLines, List.append_assoc]
    exact run.trans ((scanLines_lineEnd printable ends).trans
      (scanLines_outside resumes outside rfl))
  · rw [BlockLines.read, none, empty] at read
    have text : b.text = cs.reverse := by simpa [BlockLines.read] using read
    simp [BlockLines.chomp, text, valueOf]

/-- A text that ends with several breaks, or is a break. -/
theorem scanLines_keep {cs : List Char} (clean : ∀ c ∈ cs, isPrintable c)
    (ends : endsFresh true cs) (column : m.column = 0) (resumes : Resumes tail)
    (outside : indentOf tail < indent) :
    ∃ b m', scanLines false indent start (indentLines indent true cs ++ tail) m false {} =
        .ok (b, ⟨unindented tail, m'⟩) ∧ m'.column = indentOf tail ∧
      b.chomp .keep = String.ofList cs := by
  obtain ⟨b, m', run, read, column', -⟩ := @scanLines_text indent start m tail true {} cs
    clean (fun _ => column) (fun same => by cases same)
  refine ⟨b, m'.advance (indentOf tail), ?_, by simp [column' ends], ?_⟩
  · rw [ends] at run
    exact run.trans (scanLines_outside resumes outside (column' ends))
  · rw [BlockLines.read] at read
    simp [BlockLines.chomp, read, valueOf, BlockLines.read]

/-- The header keeps the breaks at the end of the text, and no more. -/
theorem scanLines_chomp {cs : List Char} (clean : ∀ c ∈ cs, isPrintable c) (filled : cs ≠ [])
    (column : m.column = 0) (resumes : Resumes tail) (outside : indentOf tail < indent) :
    ∃ b m', scanLines false indent start (indentLines indent true cs ++ (closing cs ++ tail)) m false
        {} = .ok (b, ⟨unindented tail, m'⟩) ∧
      m'.column = indentOf tail ∧ b.chomp (chompingOf cs) = String.ofList cs := by
  obtain rfl | ⟨ds, e, rfl⟩ := cs.eq_nil_or_concat
  · exact absurd rfl filled
  rw [List.concat_eq_append] at clean ⊢
  cases ends : isBreak e with
  | false =>
    have closes : closing (ds ++ [e]) = ['\n'] := by simp [closing, ends]
    have chomping : chompingOf (ds ++ [e]) = .strip := by simp [chompingOf, ends]
    rw [closes, chomping]
    exact scanLines_strip clean ((endsFresh_concat true ds e).trans ends) column resumes outside
  | true =>
    have closes : closing (ds ++ [e]) = [] := by simp [closing, ends]
    rw [closes, List.nil_append]
    obtain rfl | ⟨cs, d, rfl⟩ := ds.eq_nil_or_concat
    · have chomping : chompingOf ([] ++ [e]) = .keep := by simp [chompingOf, ends]
      rw [chomping]
      exact scanLines_keep clean ends column resumes outside
    rw [List.concat_eq_append] at clean ⊢
    cases before : isBreak d with
    | false =>
      have chomping : chompingOf (cs ++ [d] ++ [e]) = .clip := by simp [chompingOf, ends, before]
      rw [chomping]
      exact scanLines_clip (fun c member => clean c (List.mem_append_left [e] member))
        (clean e (by simp)) ((endsFresh_concat true cs d).trans before) ends column resumes outside
    | true =>
      have chomping : chompingOf (cs ++ [d] ++ [e]) = .keep := by simp [chompingOf, ends, before]
      rw [chomping]
      exact scanLines_keep clean ((endsFresh_concat true (cs ++ [d]) e).trans ends) column resumes
        outside

theorem toList_literal (indent : Nat) (s : String) :
    (literal indent s).toList =
      (literalHeader s.toList).toList ++ '\n' :: indentLines indent true s.toList := by
  simp [literal]

/-- A literal block is read back. -/
theorem scanBlock_literal {margin : Nat} {s : String} (safe : isLiteralSafe s.toList)
    (filled : s.toList ≠ []) (positive : 0 < margin) (stated : indent = margin - 1 + indentStep)
    (resumes : Resumes tail) (outside : indentOf tail < indent) :
    ∃ stop, scanBlock false margin
        ⟨(literal indent s).toList ++ (closing s.toList ++ tail), m⟩ =
          .ok (s, ⟨unindented tail, stop⟩) ∧ stop.column = indentOf tail := by
  have clean : ∀ c ∈ s.toList, isPrintable c := by
    simp only [isLiteralSafe, isUnescaped, Bool.and_eq_true, List.all_eq_true] at safe
    exact safe.1.1
  have written : (literal indent s).toList ++ (closing s.toList ++ tail) =
      '|' :: ((literalHeader s.toList).toList.drop 1 ++
        '\n' :: (indentLines indent true s.toList ++ (closing s.toList ++ tail))) := by
    rw [toList_literal, literalHeader_eq]
    simp
  obtain ⟨ended, header⟩ := @scanBlockHeader_literalHeader m (m.advance 1)
    (indentLines indent true s.toList ++ (closing s.toList ++ tail)) s.toList
  obtain ⟨b, stop, lines, column, value⟩ := @scanLines_chomp indent m ended.nextLine tail s.toList
    clean filled rfl resumes outside
  refine ⟨stop, ?_, column⟩
  have begins : (Cursor.mk ('\n' :: (indentLines indent true s.toList ++
      (closing s.toList ++ tail))) ended).skipBlanks.skipComment =
        ⟨'\n' :: (indentLines indent true s.toList ++ (closing s.toList ++ tail)), ended⟩ := rfl
  have passed : (Cursor.mk ('\n' :: (indentLines indent true s.toList ++
      (closing s.toList ++ tail))) ended).skipBreak =
        ⟨indentLines indent true s.toList ++ (closing s.toList ++ tail), ended.nextLine⟩ := rfl
  rw [written]
  simp only [scanBlock, Cursor.skip, List.drop_succ_cons, List.drop_zero, bind, Except.bind]
  rw [header]
  simp only [begins, passed, pure, Except.pure]
  rw [if_neg (by simp [Cursor.head?, isBreak])]
  cases shown : statedOf s.toList with
  | some n =>
    have two : n = indentStep := by
      unfold statedOf at shown
      split at shown <;> cases shown
      rfl
    simp only [two, ← stated, lines, value, String.ofList_toList]
  | none =>
    have inside : margin ≤ indent := by
      rw [stated, indentStep]
      omega
    simp only [findIndent_indentLines clean filled shown (Mark.nextLine_column ended)
      (Nat.lt_of_lt_of_le positive inside) inside, lines, value, String.ofList_toList]

end Lines

end DeviceAdmission.Yaml
