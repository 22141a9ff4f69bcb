import DeviceAdmission.Proofs.Yaml.Plain

/-!
# Quoted scalars are read back

* `scanQuoted_single`: a text between single quotes, with its separators at the ends of lines.
* `scanQuoted_double`: any text between double quotes, with its escapes.

Single quotes fold line breaks, but the separators stand for themselves; the spaces that indent a line
are no part of the text as long as the text has none beside its breaks.
-/
namespace DeviceAdmission.Yaml

/-! ## Single quotes -/

section Quoted

variable {single : Bool} {start m : Mark} {gap : Gap} {c : Char} {rest acc : List Char}
  {indent : Nat}

theorem scanQuoted_blank :
    scanQuoted single start (' ' :: rest) 0 m gap acc =
      scanQuoted single start rest 0 m.next (gap.addBlank ' ') acc := by
  have space : isBlank ' ' = true := rfl
  rw [scanQuoted, isDocumentIndicator_of_ne (by decide) (by decide), if_neg (by simp),
    if_pos space]

theorem scanQuoted_blanks (broken : gap.holdsBreak) (n : Nat) :
    scanQuoted single start (List.replicate n ' ' ++ rest) 0 m gap acc =
      scanQuoted single start rest 0 (m.advance n) gap acc := by
  induction n generalizing m with
  | zero => rfl
  | succ n ih =>
    rw [List.replicate_succ, List.cons_append, scanQuoted_blank,
      Gap.addBlank_of_holdsBreak broken, ih, Mark.next_advance]

theorem scanQuoted_break (printable : isPrintable c) (ends : isBreak c) :
    scanQuoted single start (c :: rest) 0 m gap acc =
      scanQuoted single start rest 0 m.nextLine (gap.addBreak c) acc := by
  have dash : c ≠ '-' := by rintro rfl; cases ends
  have dot : c ≠ '.' := by rintro rfl; cases ends
  rw [scanQuoted, isDocumentIndicator_of_ne dash dot, if_neg (by simp),
    if_neg (by simp [isBlank_of_isBreak ends]), if_neg (by simp [startsPair_eq_false printable]),
    if_pos ends]

/-- A character that stands for itself. -/
theorem scanQuoted_self (printable : isPrintable c) (other : c ≠ ' ') (ends : isBreak c = false)
    (column : m.column ≠ 0) (quote : c ≠ if single then '\'' else '"')
    (escape : single = false → c ≠ '\\') :
    scanQuoted single start (c :: rest) 0 m gap acc =
      scanQuoted single start rest 0 m.next .none (c :: (gap.fold ++ acc)) := by
  have plain : (!single && c == '\\') = false := by
    cases single with
    | false => simpa using escape rfl
    | true => rfl
  rw [scanQuoted, if_neg (by simp [column]), if_neg (by simp [isBlank_of_ne printable other]),
    if_neg (by simp [startsPair_eq_false printable]), if_neg (by simp [ends]),
    if_neg (by simpa using quote), if_neg (by simp [plain])]

/-- The quote that ends the scalar. -/
theorem scanQuoted_end (column : m.column ≠ 0)
    (lone : single → rest.head? ≠ some '\'') :
    scanQuoted single start ((if single then '\'' else '"') :: rest) 0 m gap acc =
      .ok (valueOf (gap.fold ++ acc), ⟨rest, m.next⟩) := by
  cases single with
  | false =>
    have plain : isBlank '"' = false ∧ isBreak '"' = false := ⟨rfl, rfl⟩
    rw [scanQuoted, if_neg (by simp [column])]
    simp [plain, startsPair]
  | true =>
    have plain : isBlank '\'' = false ∧ isBreak '\'' = false := ⟨rfl, rfl⟩
    rw [scanQuoted, if_neg (by simp [column])]
    simp [plain, startsPair, lone rfl]

/-- Two quotes for one. -/
theorem scanQuoted_doubled (column : m.column ≠ 0) :
    scanQuoted true start ('\'' :: '\'' :: rest) 0 m gap acc =
      scanQuoted true start rest 0 (m.advance 2) .none ('\'' :: (gap.fold ++ acc)) := by
  have plain : isBlank '\'' = false ∧ isBreak '\'' = false := ⟨rfl, rfl⟩
  rw [scanQuoted, if_neg (by simp [column])]
  simp only [plain, startsPair, Bool.false_eq_true, if_false, if_true, beq_self_eq_true,
    List.head?_cons, Bool.and_self]
  rw [if_neg (by simp), scanQuoted]
  rfl

/-- Whether a text ends with a break; `fresh` says so of an empty one. -/
def endsFresh (fresh : Bool) (cs : List Char) : Bool :=
  (cs.getLast?.map isBreak).getD fresh

theorem endsFresh_cons (fresh : Bool) (c : Char) (cs : List Char) :
    endsFresh fresh (c :: cs) = endsFresh (isBreak c) cs := by
  cases cs with
  | nil => rfl
  | cons d cs => simp [endsFresh, List.getLast?_cons]

/-- A quote inside a text is written twice. -/
def doubledQuote (c : Char) : List Char := if c == '\'' then ['\'', '\''] else [c]

theorem indentLines_of_isBreak (ends : isBreak c) (fresh : Bool) (cs : List Char) :
    indentLines indent fresh (c :: cs) = c :: indentLines indent true cs := by
  rw [indentLines, if_pos ends]

theorem indentLines_of_not_isBreak (stays : isBreak c = false) (fresh : Bool) (cs : List Char) :
    indentLines indent fresh (c :: cs) =
      List.replicate (if fresh then indent else 0) ' ' ++ c :: indentLines indent false cs := by
  rw [indentLines, if_neg (by simp [stays])]
  cases fresh <;> rfl

theorem indentLines_doubledQuote (stays : isBreak c = false) (fresh : Bool) (cs : List Char) :
    indentLines indent fresh (doubledQuote c ++ cs) =
      List.replicate (if fresh then indent else 0) ' ' ++
        (doubledQuote c ++ indentLines indent false cs) := by
  by_cases quote : c = '\''
  · subst quote
    change indentLines indent fresh ('\'' :: '\'' :: cs) = _
    rw [indentLines_of_not_isBreak stays, indentLines_of_not_isBreak stays]
    rfl
  · rw [doubledQuote, if_neg (by simpa using quote), List.singleton_append,
      indentLines_of_not_isBreak stays]
    rfl

/-- A character of a word, with its quote doubled. -/
theorem scanQuoted_word (printable : isPrintable c) (other : c ≠ ' ') (stays : isBreak c = false)
    (column : m.column ≠ 0) :
    scanQuoted true start (doubledQuote c ++ rest) 0 m gap acc =
      scanQuoted true start rest 0 (m.advance (doubledQuote c).length) .none
        (c :: (gap.fold ++ acc)) := by
  by_cases quote : c = '\''
  · subst quote
    exact scanQuoted_doubled column
  · rw [doubledQuote, if_neg (by simpa using quote), List.singleton_append,
      @scanQuoted_self true _ _ _ _ _ _ printable other stays column quote
        (fun double => by cases double)]
    rfl

/-- The indentation of a line is passed over. -/
theorem scanQuoted_fresh (column : gap.holdsBreak = false → m.column ≠ 0) (positive : 0 < indent)
    (tail : List Char) :
    ∃ m' : Mark, m'.column ≠ 0 ∧
      scanQuoted single start
        (List.replicate (if gap.holdsBreak then indent else 0) ' ' ++ tail) 0 m gap acc =
      scanQuoted single start tail 0 m' gap acc := by
  cases fresh : gap.holdsBreak with
  | false => exact ⟨m, column fresh, rfl⟩
  | true => exact ⟨m.advance indent, by simp; omega, scanQuoted_blanks fresh indent⟩

/-- What may stand between single quotes, without a line feed. -/
structure SingleSafe (cs : List Char) : Prop where
  clean : ∀ c ∈ cs, isPrintable c
  noLineFeed : ∀ c ∈ cs, c ≠ '\n'
  noTrailing : adjoins isSpace isBreak cs = false
  noLeading : adjoins isBreak isSpace cs = false

theorem SingleSafe.tail {cs : List Char} (safe : SingleSafe (c :: cs)) : SingleSafe cs where
  clean d member := safe.clean d (List.mem_cons_of_mem c member)
  noLineFeed d member := safe.noLineFeed d (List.mem_cons_of_mem c member)
  noTrailing := (adjoins_cons safe.noTrailing).2
  noLeading := (adjoins_cons safe.noLeading).2

/-- A text between single quotes is read to its end, from where `gap` and `acc` have been read. -/
def SingleReads (start : Mark) (indent : Nat) (rest cs : List Char) (m : Mark) (gap : Gap)
    (acc : List Char) : Prop :=
  ∃ stop, scanQuoted true start
    (indentLines indent gap.holdsBreak (cs.flatMap doubledQuote) ++
      (List.replicate (if endsFresh gap.holdsBreak cs then indent else 0) ' ' ++ '\'' :: rest))
    0 m gap acc = .ok (valueOf (cs.reverse ++ gap.fold ++ acc), ⟨rest, stop⟩)

section

variable {cs : List Char}

theorem singleReads_nil (column : gap.holdsBreak = false → m.column ≠ 0) (positive : 0 < indent)
    (lone : rest.head? ≠ some '\'') : SingleReads start indent rest [] m gap acc := by
  obtain ⟨m', column', same⟩ := @scanQuoted_fresh true start m gap acc indent column positive
    ('\'' :: rest)
  refine ⟨m'.next, ?_⟩
  rw [List.flatMap_nil, indentLines, endsFresh, List.nil_append]
  exact same.trans (@scanQuoted_end true _ _ _ _ _ column' fun _ => lone)

theorem singleReads_break (printable : isPrintable c) (ends : isBreak c)
    (broken : (gap.addBreak c).holdsBreak) (fold : (gap.addBreak c).fold = c :: gap.fold)
    (later : SingleReads start indent rest cs m.nextLine (gap.addBreak c) acc) :
    SingleReads start indent rest (c :: cs) m gap acc := by
  have quote : ¬ (c == '\'') = true := by
    rw [beq_iff_eq]
    rintro rfl
    cases ends
  obtain ⟨stop, read⟩ := later
  refine ⟨stop, ?_⟩
  rw [broken, fold] at read
  rw [List.flatMap_cons, doubledQuote, if_neg quote, List.singleton_append,
    indentLines_of_isBreak ends, List.cons_append, scanQuoted_break printable ends,
    endsFresh_cons, ends, read]
  simp

theorem singleReads_blank (same : gap.holdsBreak = false)
    (same' : (gap.addBlank ' ').holdsBreak = false) (fold : (gap.addBlank ' ').fold = ' ' :: gap.fold)
    (later : SingleReads start indent rest cs m.next (gap.addBlank ' ') acc) :
    SingleReads start indent rest (' ' :: cs) m gap acc := by
  have stays : isBreak ' ' = false := rfl
  obtain ⟨stop, read⟩ := later
  refine ⟨stop, ?_⟩
  rw [same', fold] at read
  rw [List.flatMap_cons, doubledQuote, if_neg (by decide), List.singleton_append,
    indentLines_of_not_isBreak stays, same, if_neg (by decide), endsFresh_cons, stays]
  simp only [List.replicate_zero, List.nil_append, List.cons_append]
  rw [scanQuoted_blank, read]
  simp

theorem singleReads_word (printable : isPrintable c) (other : c ≠ ' ') (stays : isBreak c = false)
    (column : gap.holdsBreak = false → m.column ≠ 0) (positive : 0 < indent)
    (later : ∀ m : Mark, m.column ≠ 0 →
      SingleReads start indent rest cs m .none (c :: (gap.fold ++ acc))) :
    SingleReads start indent rest (c :: cs) m gap acc := by
  have indented : indentLines indent gap.holdsBreak ((c :: cs).flatMap doubledQuote) =
      List.replicate (if gap.holdsBreak then indent else 0) ' ' ++
        (doubledQuote c ++ indentLines indent false (cs.flatMap doubledQuote)) := by
    rw [List.flatMap_cons, indentLines_doubledQuote stays]
  obtain ⟨m', column', passed⟩ := @scanQuoted_fresh true start m gap acc indent column positive
    (doubledQuote c ++ (indentLines indent false (cs.flatMap doubledQuote) ++
      (List.replicate (if endsFresh false cs then indent else 0) ' ' ++ '\'' :: rest)))
  obtain ⟨stop, read⟩ := later (m'.advance (doubledQuote c).length) (by simp; omega)
  have value : (c :: cs).reverse ++ gap.fold ++ acc =
      cs.reverse ++ Gap.none.fold ++ (c :: (gap.fold ++ acc)) := by simp
  refine ⟨stop, ?_⟩
  rw [indented, endsFresh_cons, stays, List.append_assoc, List.append_assoc, passed,
    scanQuoted_word printable other stays column', value]
  exact read

end

/-- Blanks are followed by no break and breaks by no blank, so no gap is folded away. -/
theorem scanQuoted_lines {cs : List Char} (safe : SingleSafe cs) (keeps : gap.Keeps)
    (spaced : gap.isInline → ∀ c ∈ cs.head?, isBreak c = false)
    (broken : gap.holdsBreak → ∀ c ∈ cs.head?, isSpace c = false)
    (column : gap.holdsBreak = false → m.column ≠ 0) (positive : 0 < indent)
    (lone : rest.head? ≠ some '\'') : SingleReads start indent rest cs m gap acc := by
  induction cs generalizing gap m acc with
  | nil => exact singleReads_nil column positive lone
  | cons c cs ih =>
    have printable := safe.clean c List.mem_cons_self
    have nextBefore := (adjoins_cons safe.noTrailing).1
    have nextAfter := (adjoins_cons safe.noLeading).1
    cases ends : isBreak c with
    | true =>
      have joined : gap.isInline = false := by
        cases inline : gap.isInline with
        | false => rfl
        | true => rw [spaced inline c rfl] at ends; cases ends
      obtain ⟨keeps', fold, broken'⟩ := keeps.addBreak (breakValue_of_isPrintable printable ends)
        (safe.noLineFeed c List.mem_cons_self) joined
      have inner : (gap.addBreak c).isInline = false := by
        cases shape : gap.addBreak c <;> first | rfl | (rw [shape] at broken'; cases broken')
      exact singleReads_break printable ends broken' fold (ih safe.tail keeps'
        (fun inline => by rw [inner] at inline; cases inline) (fun _ => nextAfter ends)
        (fun same => by rw [broken'] at same; cases same))
    | false =>
      by_cases space : c = ' '
      · subst space
        have same : gap.holdsBreak = false := by
          cases fresh : gap.holdsBreak with
          | false => rfl
          | true => cases broken fresh ' ' rfl
        obtain ⟨keeps', fold, same', inline⟩ := keeps.addBlank same ' '
        exact singleReads_blank same same' fold (ih safe.tail keeps' (fun _ => nextBefore rfl)
          (fun fresh => by rw [same'] at fresh; cases fresh) (fun _ => by simp))
      · exact singleReads_word printable space ends column positive fun m column' =>
          @ih m .none (c :: (gap.fold ++ acc)) safe.tail trivial nofun nofun fun _ => column'

theorem toList_singleQuoted (indent : Nat) (s : String) :
    (singleQuoted indent s).toList = '\'' ::
      (indentLines indent false (s.toList.flatMap doubledQuote) ++
        (List.replicate (if endsFresh false s.toList then indent else 0) ' ' ++ ['\''])) := by
  have ending : endsFresh false s.toList = s.toList.getLast?.any isBreak := by
    rw [endsFresh]
    cases s.toList.getLast? <;> rfl
  have parts : singleQuoted indent s =
      "'" ++ String.ofList (indentLines indent false (s.toList.flatMap doubledQuote)) ++
        (if s.toList.getLast?.any isBreak then spaces indent else "") ++ "'" := rfl
  rw [parts, ending]
  split <;> simp [spaces]

/-- A text is read back from between single quotes. -/
theorem scanQuoted_single {s : String} (safe : SingleSafe s.toList) (column : m.column ≠ 0)
    (positive : 0 < indent) (lone : rest.head? ≠ some '\'') :
    ∃ stop, scanQuoted true start ((singleQuoted indent s).toList.drop 1 ++ rest) 0 m .none [] =
      .ok (s, ⟨rest, stop⟩) := by
  obtain ⟨stop, read⟩ := @scanQuoted_lines start m .none rest [] indent s.toList safe trivial nofun
    nofun (fun _ => column) positive lone
  have value : valueOf (s.toList.reverse ++ Gap.none.fold ++ []) = s := by simp [valueOf]
  rw [value] at read
  refine ⟨stop, ?_⟩
  rw [toList_singleQuoted, List.drop_one, List.tail_cons, List.append_assoc, List.append_assoc]
  exact read

/-! ## Double quotes -/

/-- The hexadecimal digits of a number, in either letter case. -/
theorem value?_toUpper_digitChar {d : Nat} (small : d < 16) :
    Text.Hex.value? d.digitChar.toUpper = some d := by
  revert d
  decide

/-- Digits add up to the number that they spell. -/
theorem hexValue?_append {ds : List Char} {n d : Nat} (front : hexValue? ds = some n)
    (last : Text.Hex.value? c = some d) : hexValue? (ds ++ [c]) = some (16 * n + d) := by
  rw [hexValue?] at front
  rw [hexValue?, List.foldl_append, front]
  simp [last]

theorem hexValue?_toDigits (n : Nat) : hexValue? ((Nat.toDigits 16 n).map Char.toUpper) = some n := by
  induction n using Nat.strongRecOn with
  | ind n ih =>
    by_cases small : n < 16
    · rw [Nat.toDigits_of_lt_base small]
      have digit := value?_toUpper_digitChar small
      simp [hexValue?, digit]
    · rw [Nat.toDigits_of_base_le (by decide) (by omega), List.map_append, List.map_singleton,
        hexValue?_append (ih (n / 16) (by omega))
          (value?_toUpper_digitChar (Nat.mod_lt n (by decide)))]
      congr 1
      omega

theorem hexValue?_zeros (k : Nat) {ds : List Char} :
    hexValue? (List.replicate k '0' ++ ds) = hexValue? ds := by
  induction k with
  | zero => rfl
  | succ k ih => exact ih

/-- A number in a fixed width is read back. -/
theorem upperPadded_reads {width n : Nat} (fits : (Nat.toDigits 16 n).length ≤ width) :
    (Text.Hex.upperPadded width n).toList.length = width ∧
      hexValue? (Text.Hex.upperPadded width n).toList = some n := by
  rw [Text.Hex.upperPadded, String.toList_ofList]
  refine ⟨?_, ?_⟩
  · simp
    omega
  · rw [hexValue?_zeros, hexValue?_toDigits]

theorem escape?_short {letter : Char} (short : shortEscape? letter = some c) :
    escape? (letter :: rest) = .ok (c, 1) := by
  rw [escape?, short]

theorem escape?_wide {letter : Char} {width : Nat} (long : shortEscape? letter = none)
    (wide : escapeWidth? letter = some width) (fits : (Nat.toDigits 16 c.toNat).length ≤ width) :
    escape? (letter :: ((Text.Hex.upperPadded width c.toNat).toList ++ rest)) = .ok (c, width + 1) := by
  obtain ⟨length, value⟩ := upperPadded_reads fits
  have digits : ((Text.Hex.upperPadded width c.toNat).toList ++ rest).take width =
      (Text.Hex.upperPadded width c.toNat).toList := List.take_left' length
  have valid : c.toNat.isValidChar := c.valid
  rw [escape?, long, wide]
  simp only [digits, length, Nat.lt_irrefl, if_false, value, valid, if_true, Char.ofNat_toNat]

/-- What an escape stands for, whatever follows it. -/
theorem escape_reads (c : Char) :
    ∃ letter digits, (escape c).toList = '\\' :: letter :: digits ∧ isBreak letter = false ∧
      ∀ rest, escape? (letter :: (digits ++ rest)) = .ok (c, digits.length + 1) := by
  have wide (sign : String) (letter : Char) (width : Nat) (spelled : sign.toList = ['\\', letter])
      (stays : isBreak letter = false) (long : shortEscape? letter = none)
      (hexadecimal : escapeWidth? letter = some width) (positive : 0 < width)
      (fits : c.toNat < 16 ^ width) :
      ∃ e digits, (sign ++ Text.Hex.upperPadded width c.toNat).toList = '\\' :: e :: digits ∧
        isBreak e = false ∧ ∀ rest, escape? (e :: (digits ++ rest)) = .ok (c, digits.length + 1) := by
    refine ⟨letter, (Text.Hex.upperPadded width c.toNat).toList, ?_, stays, fun rest => ?_⟩
    · rw [String.toList_append, spelled]
      rfl
    · have short := (Nat.length_toDigits_le_iff (by decide) positive).2 fits
      rw [(upperPadded_reads short).1]
      exact escape?_wide long hexadecimal short
  unfold escape
  split
  case h_15 =>
    have bound : c.toNat < 16 ^ 8 := UInt32.toNat_lt c.val
    simp only
    split
    · exact wide "\\x" 'x' 2 rfl rfl rfl rfl (by decide) (by omega)
    · split
      · exact wide "\\u" 'u' 4 rfl rfl rfl rfl (by decide) (by omega)
      · exact wide "\\U" 'U' 8 rfl rfl rfl rfl (by decide) bound
  all_goals exact ⟨_, [], rfl, rfl, fun rest => escape?_short rfl⟩

/-- The rest of an escape already taken is passed over. -/
theorem scanQuoted_skip (ds : List Char) :
    scanQuoted single start (ds ++ rest) ds.length m gap acc =
      scanQuoted single start rest 0 (m.advance ds.length) gap acc := by
  induction ds generalizing m with
  | nil => rfl
  | cons d ds ih =>
    rw [List.cons_append, List.length_cons, scanQuoted, ih, Mark.next_advance]

/-- An escape stands for its character. -/
theorem scanQuoted_escape (column : m.column ≠ 0) :
    scanQuoted false start ((escape c).toList ++ rest) 0 m gap acc =
      scanQuoted false start rest 0 (m.advance (escape c).toList.length) .none
        (c :: (gap.fold ++ acc)) := by
  obtain ⟨letter, digits, spelled, stays, read⟩ := escape_reads c
  have plain : isBlank '\\' = false ∧ isBreak '\\' = false := ⟨rfl, rfl⟩
  have taken : scanQuoted false start ('\\' :: letter :: (digits ++ rest)) 0 m gap acc =
      scanQuoted false start ((letter :: digits) ++ rest) (letter :: digits).length m.next .none
        (c :: (gap.fold ++ acc)) := by
    rw [scanQuoted, if_neg (by simp [column]), if_neg (by simp [plain]),
      if_neg (by simp [startsPair]), if_neg (by simp [plain]), if_neg (by simp),
      if_pos (by simp), if_neg (by simp [stays]), read rest]
    rfl
  rw [spelled, List.cons_append, List.cons_append, taken, scanQuoted_skip, Mark.next_advance]
  rfl

/-- A character as it is written between double quotes. -/
def writtenDouble (c : Char) : List Char :=
  if isPrintable c && !isBreak c && c != '"' && c != '\\' then [c] else (escape c).toList

/-- A text between double quotes, from where `gap` and `acc` have been read of it. -/
theorem scanQuoted_escapes (cs : List Char) (keeps : gap.Keeps) (same : gap.holdsBreak = false)
    (column : m.column ≠ 0) :
    ∃ stop, scanQuoted false start (cs.flatMap writtenDouble ++ '"' :: rest) 0 m gap acc =
      .ok (valueOf (cs.reverse ++ gap.fold ++ acc), ⟨rest, stop⟩) := by
  induction cs generalizing gap m acc with
  | nil => exact ⟨m.next, @scanQuoted_end false _ _ _ _ _ column nofun⟩
  | cons c cs ih =>
    have value : (c :: cs).reverse ++ gap.fold ++ acc =
        cs.reverse ++ Gap.none.fold ++ (c :: (gap.fold ++ acc)) := by simp
    rw [List.flatMap_cons, List.append_assoc, writtenDouble, value]
    split
    · rename_i raw
      simp only [Bool.and_eq_true, Bool.not_eq_true', bne_iff_ne] at raw
      obtain ⟨⟨⟨printable, stays⟩, quote⟩, escape⟩ := raw
      by_cases space : c = ' '
      · subst space
        obtain ⟨keeps', fold, same', _⟩ := keeps.addBlank same ' '
        obtain ⟨stop, read⟩ := @ih m.next (gap.addBlank ' ') acc keeps' same' (by simp)
        refine ⟨stop, ?_⟩
        rw [List.singleton_append, scanQuoted_blank, read, fold]
        simp
      · obtain ⟨stop, read⟩ := @ih m.next .none (c :: (gap.fold ++ acc)) trivial rfl (by simp)
        refine ⟨stop, ?_⟩
        rw [List.singleton_append,
          @scanQuoted_self false _ _ _ _ _ _ printable space stays column quote (fun _ => escape)]
        exact read
    · obtain ⟨stop, read⟩ := @ih (m.advance (escape c).toList.length) .none
        (c :: (gap.fold ++ acc)) trivial rfl (by simp; omega)
      refine ⟨stop, ?_⟩
      rw [scanQuoted_escape column]
      exact read

theorem toList_doubleQuoted (s : String) :
    (doubleQuoted s).toList = '"' :: (s.toList.flatMap writtenDouble ++ ['"']) := by
  have each (c : Char) : (if isPrintable c && !isBreak c && c != '"' && c != '\\' then c.toString
      else escape c).toList = writtenDouble c := by
    rw [writtenDouble, apply_ite String.toList, Char.toString_eq_singleton,
      String.toList_singleton]
  have parts : doubleQuoted s = "\"" ++ String.join (s.toList.map fun c =>
      if isPrintable c && !isBreak c && c != '"' && c != '\\' then c.toString else escape c) ++
        "\"" := rfl
  rw [parts]
  simp only [String.toList_append, String.toList_join, List.flatMap_map, each]
  rfl

/-- Any text is read back from between double quotes. -/
theorem scanQuoted_double (s : String) (column : m.column ≠ 0) :
    ∃ stop, scanQuoted false start ((doubleQuoted s).toList.drop 1 ++ rest) 0 m .none [] =
      .ok (s, ⟨rest, stop⟩) := by
  obtain ⟨stop, read⟩ := @scanQuoted_escapes start m .none rest [] s.toList trivial rfl column
  have value : valueOf (s.toList.reverse ++ Gap.none.fold ++ []) = s := by simp [valueOf]
  rw [value] at read
  refine ⟨stop, ?_⟩
  rw [toList_doubleQuoted, List.drop_one, List.tail_cons, List.append_assoc]
  exact read

end Quoted

end DeviceAdmission.Yaml
