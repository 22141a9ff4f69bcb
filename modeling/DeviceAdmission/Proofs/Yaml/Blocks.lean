import DeviceAdmission.Proofs.Yaml.Literal
import DeviceAdmission.Yaml.Token.Layout

/-!
# Written blocks

How a mapping of names to texts, words and mappings is laid out: which style a text gets, what stands
after a key, and where a line begins.

* `styleOf_cases`: a text is written in a style that can hold it.
* `line_of_name`, `resumes_members`: every line below a key begins with a key, so nothing on it goes on
  with the value before it.
* `printable_members`: whatever a text holds, only printable characters are written.
-/
namespace DeviceAdmission.Yaml

/-! ## What is written after a key -/

/-- The line break after a text, unless its last line has ended. -/
theorem toList_endLine (s : String) : (endLine s).toList = s.toList ++ closing s.toList := by
  rw [endLine, closing]
  split <;> simp

theorem closing_append (xs : List Char) {ys : List Char} (filled : ys ≠ []) :
    closing (xs ++ ys) = closing ys := by
  cases ys with
  | nil => exact absurd rfl filled
  | cons y ys => simp [closing, List.getLast?_append, List.getLast?_cons]

theorem indentLines_ne_nil (indent : Nat) {cs : List Char} (filled : cs ≠ []) :
    indentLines indent true cs ≠ [] := by
  cases cs with
  | nil => exact absurd rfl filled
  | cons c cs =>
    cases ends : isBreak c with
    | true => simp [indentLines_of_isBreak ends]
    | false => simp [indentLines_of_not_isBreak ends]

theorem closing_indentLines (indent : Nat) {cs : List Char} (filled : cs ≠ []) :
    closing (indentLines indent true cs) = closing cs := by
  obtain rfl | ⟨ds, e, rfl⟩ := cs.eq_nil_or_concat
  · exact absurd rfl filled
  rw [List.concat_eq_append, indentLines_append, closing_append ds (by simp)]
  cases ends : isBreak e with
  | true =>
    rw [indentLines_of_isBreak ends]
    exact closing_append _ (by simp)
  | false =>
    rw [indentLines_of_not_isBreak ends, ← List.append_assoc]
    exact closing_append _ (by simp)

/-! Only the lines of a literal can end the line that they stand on. -/

theorem closing_plain {cs : List Char} (safe : isPlainSafe cs) (filled : cs ≠ []) :
    closing (' ' :: cs) = ['\n'] := by
  have whole := (isPlainSafe_cases safe).2.1
  have last : cs.getLast?.any isBreak = false := by
    cases ends : cs.getLast? with
    | none => rfl
    | some c => exact whole c (List.mem_of_getLast? ends)
  rw [← List.singleton_append, closing_append _ filled, closing, last]
  rfl

theorem closing_singleQuoted (indent : Nat) (text : String) :
    closing (' ' :: (singleQuoted indent text).toList) = ['\n'] := by
  rw [toList_singleQuoted, ← List.append_assoc, ← List.cons_append, ← List.cons_append,
    closing_append _ (by simp)]
  rfl

theorem closing_doubleQuoted (text : String) :
    closing (' ' :: (doubleQuoted text).toList) = ['\n'] := by
  rw [toList_doubleQuoted, ← List.cons_append, ← List.cons_append, closing_append _ (by simp)]
  rfl

theorem closing_literal (indent : Nat) {text : String} (filled : text.toList ≠ []) :
    closing (' ' :: (literal indent text).toList) = closing text.toList := by
  rw [toList_literal, ← List.cons_append, List.append_cons,
    closing_append _ (indentLines_ne_nil _ filled), closing_indentLines _ filled]

/-- The style of a text fits the text. -/
theorem styleOf_cases (s : String) :
    (styleOf s = .plain ∧ isPlainSafe s.toList ∧ s.toList ≠ []) ∨
      (styleOf s = .singleQuoted ∧ SingleSafe s.toList) ∨
      (styleOf s = .literal ∧ isLiteralSafe s.toList ∧ s.toList ≠ []) ∨ styleOf s = .doubleQuoted := by
  by_cases lineFeed : '\n' ∈ s.toList
  · by_cases safe : isLiteralSafe s.toList
    · exact .inr (.inr (.inl ⟨by simp [styleOf, lineFeed, safe], safe, List.ne_nil_of_mem lineFeed⟩))
    · exact .inr (.inr (.inr (by simp [styleOf, lineFeed, safe])))
  · by_cases plain : (meansItself s && isPlainSafe s.toList) = true
    · obtain ⟨meant, safe⟩ := Bool.and_eq_true_iff.1 plain
      refine .inl ⟨by simp [styleOf, lineFeed, meant, safe], safe, ?_⟩
      intro empty
      obtain rfl : s = "" := by rwa [String.toList_eq_nil_iff] at empty
      cases meant
    · by_cases single : isSingleSafe s.toList
      · refine .inr (.inl ⟨by simp [styleOf, lineFeed, plain, single], ?_⟩)
        simp only [isSingleSafe, isUnescaped, Bool.and_eq_true, Bool.not_eq_true',
          List.all_eq_true] at single
        exact ⟨single.1.1, fun c member same => lineFeed (same ▸ member), single.1.2, single.2⟩
      · exact .inr (.inr (.inr (by simp [styleOf, lineFeed, plain, single])))

-- A word for null is quoted, and a blank at the beginning makes a literal state its indentation.
example : writeText 4 "null" = "'null'" := by decide
example : writeText 4 " a\nb" = "|2-\n     a\n    b" := by decide

/-- A text that is written plain means itself. -/
theorem meansItself_of_plain {s : String} (plain : styleOf s = .plain) : meansItself s = true := by
  by_cases lineFeed : '\n' ∈ s.toList
  · by_cases safe : isLiteralSafe s.toList <;> simp [styleOf, lineFeed, safe] at plain
  · by_cases meant : meansItself s = true
    · exact meant
    · by_cases single : isSingleSafe s.toList <;> simp [styleOf, lineFeed, meant, single] at plain

theorem toList_write_text (indent : Nat) (s : String) :
    ((Block.text s).write indent).toList =
      ' ' :: ((writeText (indent + indentStep) s).toList ++
        closing (' ' :: (writeText (indent + indentStep) s).toList)) := by
  rw [Block.write, toList_endLine, String.toList_append]
  rfl

/-! ## Mappings -/

mutual

/-- Words and keys are names, keys are short, and no mapping is empty. -/
def Block.Proper : Block → Prop
  | .word s => IsName s.toList
  | .text _ => True
  | .mapping members => members ≠ [] ∧ ProperMembers members

def ProperMembers : List (String × Block) → Prop
  | [] => True
  | (key, value) :: rest =>
    IsName key.toList ∧ key.toList.length ≤ Layout.maxKeyLength ∧ value.Proper ∧ ProperMembers rest

end

/-- Whether a text is a name short enough for a key. -/
def isKey (s : String) : Bool :=
  !s.toList.isEmpty && s.toList.all isNameLetter && decide (s.toList.length ≤ Layout.maxKeyLength)

theorem isName_of_isKey {s : String} (key : isKey s = true) :
    IsName s.toList ∧ s.toList.length ≤ Layout.maxKeyLength := by
  simp only [isKey, Bool.and_eq_true, Bool.not_eq_true', List.isEmpty_eq_false_iff, List.all_eq_true,
    decide_eq_true_eq] at key
  exact ⟨⟨key.1.1, key.1.2⟩, key.2⟩

theorem properMembers_cons {key : String} {value : Block} {rest : List (String × Block)}
    (name : isKey key = true) (proper : value.Proper) (others : ProperMembers rest) :
    ProperMembers ((key, value) :: rest) :=
  ⟨(isName_of_isKey name).1, (isName_of_isKey name).2, proper, others⟩

theorem toList_writeMembers (column : Nat) (key : String) (value : Block)
    (rest : List (String × Block)) (tail : List Char) :
    (writeMembers column ((key, value) :: rest)).toList ++ tail = List.replicate column ' ' ++
      (key.toList ++
        ':' :: ((value.write column).toList ++ ((writeMembers column rest).toList ++ tail))) := by
  rw [writeMembers]
  simp [spaces]

theorem endsWord_write (value : Block) (column : Nat) (tail : List Char) :
    endsWord ((value.write column).toList ++ tail) := by
  cases value with
  | word s => rw [Block.write, String.append_assoc, String.toList_append]; rfl
  | text s => rw [toList_write_text]; rfl
  | mapping members => rw [Block.write, String.toList_append]; rfl

/-- A line that begins with a key. -/
theorem line_of_name {key : List Char} (name : IsName key) (column : Nat) (rest : List Char) :
    indentOf (List.replicate column ' ' ++ (key ++ rest)) = column ∧
      unindented (List.replicate column ' ' ++ (key ++ rest)) = key ++ rest ∧
      Resumes (List.replicate column ' ' ++ (key ++ rest)) := by
  cases key with
  | nil => exact absurd rfl name.filled
  | cons c cs =>
    have letter := name.letters c List.mem_cons_self
    have space : isSpace c = false := beq_eq_false_iff_ne.2 (ne_of_isNameLetter rfl letter)
    have all : ∀ d ∈ List.replicate column ' ', isSpace d := fun d member => by
      rw [List.eq_of_mem_replicate member]
      rfl
    have begins : unindented (List.replicate column ' ' ++ (c :: cs ++ rest)) = c :: cs ++ rest := by
      rw [unindented, List.dropWhile_append_of_pos all, List.cons_append,
        List.dropWhile_cons_of_neg (by simp [space])]
    refine ⟨?_, begins, ?_⟩
    · rw [indentOf, List.takeWhile_append_of_pos all, List.cons_append,
        List.takeWhile_cons_of_neg (by simp [space])]
      simp
    · intro d member
      rw [begins] at member
      obtain rfl : c = d := by simpa using member
      exact letter

/-- What follows the members of a mapping may follow a value in it. -/
theorem resumes_members {column : Nat} {members : List (String × Block)} {tail : List Char}
    (proper : ProperMembers members) (resumes : Resumes tail) (outside : indentOf tail ≤ column) :
    Resumes ((writeMembers column members).toList ++ tail) ∧
      indentOf ((writeMembers column members).toList ++ tail) ≤ column := by
  cases members with
  | nil => exact ⟨resumes, outside⟩
  | cons member rest =>
    obtain ⟨key, value⟩ := member
    obtain ⟨name, -⟩ := proper
    rw [toList_writeMembers]
    obtain ⟨indent, -, resumes'⟩ := line_of_name name column
      (':' :: ((value.write column).toList ++ ((writeMembers column rest).toList ++ tail)))
    exact ⟨resumes', Nat.le_of_eq indent⟩

/-! ## Characters -/

/-- All characters are written as they are. -/
def Printable (cs : List Char) : Prop := ∀ c ∈ cs, isPrintable c

section

variable {c : Char} {cs ds : List Char}

theorem printable_cons : Printable (c :: cs) ↔ isPrintable c ∧ Printable cs := List.forall_mem_cons

theorem printable_append : Printable (cs ++ ds) ↔ Printable cs ∧ Printable ds := List.forall_mem_append

theorem printable_flatMap {f : Char → List Char} :
    Printable (cs.flatMap f) ↔ ∀ c ∈ cs, Printable (f c) := List.forall_mem_flatMap

/-- Where the characters are known, they can be looked through. -/
theorem printable_of_all (all : cs.all isPrintable = true) : Printable cs := List.all_eq_true.1 all

theorem printable_replicate (printable : isPrintable c) (n : Nat) : Printable (List.replicate n c) := by
  intro d member
  rw [List.eq_of_mem_replicate member]
  exact printable

theorem printable_closing : Printable (closing cs) := by
  rw [closing]
  split
  · exact printable_of_all rfl
  · exact printable_of_all rfl

theorem printable_indentLines (clean : Printable cs) (indent : Nat) (fresh : Bool) :
    Printable (indentLines indent fresh cs) := by
  induction cs generalizing fresh with
  | nil => exact printable_of_all rfl
  | cons c cs ih =>
    obtain ⟨first, later⟩ := printable_cons.1 clean
    cases ends : isBreak c with
    | true =>
      rw [indentLines_of_isBreak ends]
      exact printable_cons.2 ⟨first, ih later true⟩
    | false =>
      rw [indentLines_of_not_isBreak ends]
      exact printable_append.2
        ⟨printable_replicate rfl _, printable_cons.2 ⟨first, ih later false⟩⟩

end

/-! ### Escapes -/

theorem printable_toDigits (n : Nat) : Printable ((Nat.toDigits 16 n).map Char.toUpper) := by
  have each : ∀ d < 16, isPrintable d.digitChar.toUpper := by decide
  induction n using Nat.strongRecOn with
  | ind n ih =>
    by_cases small : n < 16
    · rw [Nat.toDigits_of_lt_base small]
      exact printable_cons.2 ⟨each n small, printable_of_all rfl⟩
    · rw [Nat.toDigits_of_base_le (by decide) (by omega), List.map_append]
      exact printable_append.2 ⟨ih (n / 16) (by omega),
        printable_cons.2 ⟨each (n % 16) (Nat.mod_lt n (by decide)), printable_of_all rfl⟩⟩

theorem printable_upperPadded (width n : Nat) : Printable (Text.Hex.upperPadded width n).toList := by
  rw [Text.Hex.upperPadded, String.toList_ofList]
  exact printable_append.2 ⟨printable_replicate rfl _, printable_toDigits n⟩

theorem printable_escape (c : Char) : Printable (escape c).toList := by
  have wide (sign : String) (width : Nat) (clean : Printable sign.toList) :
      Printable (sign ++ Text.Hex.upperPadded width c.toNat).toList := by
    rw [String.toList_append]
    exact printable_append.2 ⟨clean, printable_upperPadded width c.toNat⟩
  unfold escape
  split
  case h_15 =>
    simp only
    split
    · exact wide "\\x" 2 (printable_of_all rfl)
    · split
      · exact wide "\\u" 4 (printable_of_all rfl)
      · exact wide "\\U" 8 (printable_of_all rfl)
  all_goals exact printable_of_all rfl

/-! ### Texts -/

theorem printable_singleQuoted {indent : Nat} {s : String} (safe : SingleSafe s.toList) :
    Printable (singleQuoted indent s).toList := by
  have doubled : Printable (s.toList.flatMap doubledQuote) := by
    refine printable_flatMap.2 fun c member => ?_
    have clean := safe.clean c member
    rw [doubledQuote]
    split
    · exact printable_of_all rfl
    · exact printable_cons.2 ⟨clean, printable_of_all rfl⟩
  rw [toList_singleQuoted]
  refine printable_cons.2 ⟨rfl, printable_append.2 ⟨printable_indentLines doubled _ _, ?_⟩⟩
  exact printable_append.2 ⟨printable_replicate rfl _, printable_of_all rfl⟩

theorem printable_literal {indent : Nat} {s : String} (safe : isLiteralSafe s.toList) :
    Printable (literal indent s).toList := by
  have clean : Printable s.toList := by
    simp only [isLiteralSafe, isUnescaped, Bool.and_eq_true, List.all_eq_true] at safe
    exact safe.1.1
  have signs (stated : Bool) (chomping : Chomping) :
      Printable ((if stated then ['2'] else []) ++ chomping.sign) := by
    cases stated <;> cases chomping <;> exact printable_of_all rfl
  rw [toList_literal, literalHeader_eq]
  exact printable_append.2 ⟨printable_cons.2 ⟨rfl, signs _ _⟩,
    printable_cons.2 ⟨rfl, printable_indentLines clean _ _⟩⟩

theorem printable_doubleQuoted (s : String) : Printable (doubleQuoted s).toList := by
  have written (c : Char) : Printable (writtenDouble c) := by
    rw [writtenDouble]
    split
    · rename_i raw
      simp only [Bool.and_eq_true] at raw
      exact printable_cons.2 ⟨raw.1.1.1, printable_of_all rfl⟩
    · exact printable_escape c
  rw [toList_doubleQuoted]
  exact printable_cons.2 ⟨rfl, printable_append.2
    ⟨printable_flatMap.2 fun c _ => written c, printable_of_all rfl⟩⟩

theorem printable_writeText (indent : Nat) (s : String) : Printable (writeText indent s).toList := by
  rcases styleOf_cases s with ⟨style, safe, -⟩ | ⟨style, safe⟩ | ⟨style, safe, -⟩ | style <;>
    rw [writeText, style]
  · exact (isPlainSafe_cases safe).1
  · exact printable_singleQuoted safe
  · exact printable_literal safe
  · exact printable_doubleQuoted s

theorem IsName.printable {cs : List Char} (name : IsName cs) : Printable cs :=
  fun c member => isPrintable_of_isNameLetter (name.letters c member)

mutual

/-- Nothing is written that may be in no text. -/
theorem Block.printable : (value : Block) → value.Proper → ∀ column,
    Printable (value.write column).toList
  | .word word, name, column => by
    have line : ((Block.word word).write column).toList = ' ' :: (word.toList ++ ['\n']) := by
      rw [Block.write]
      simp
    rw [line]
    exact printable_cons.2
      ⟨rfl, printable_append.2 ⟨IsName.printable name, printable_of_all rfl⟩⟩
  | .text text, _, column => by
    rw [toList_write_text]
    exact printable_cons.2
      ⟨rfl, printable_append.2 ⟨printable_writeText _ text, printable_closing⟩⟩
  | .mapping members, proper, column => by
    rw [Block.write, String.toList_append]
    exact printable_cons.2 ⟨rfl, printable_members members proper.2 (column + indentStep)⟩

theorem printable_members : (members : List (String × Block)) → ProperMembers members → ∀ column,
    Printable (writeMembers column members).toList
  | [], _, _ => printable_of_all rfl
  | (key, value) :: rest, proper, column => by
    obtain ⟨name, -, proper', properRest⟩ := proper
    rw [← List.append_nil (writeMembers _ _).toList, toList_writeMembers, List.append_nil]
    exact printable_append.2 ⟨printable_replicate rfl _, printable_append.2 ⟨name.printable,
      printable_cons.2 ⟨rfl, printable_append.2 ⟨value.printable proper' column,
        printable_members rest properRest column⟩⟩⟩⟩

end

end DeviceAdmission.Yaml
