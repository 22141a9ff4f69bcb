import DeviceAdmission.Proofs.Yaml.Blocks
import DeviceAdmission.Proofs.Yaml.Steps

/-!
# The tokens of a written mapping

A mapping of names to texts, words and mappings is written line by line and scanned to the tokens that
it stands for (`Block.kinds`), whatever its texts are.

* `Layout.takes_text`, `Layout.takes_word`: the value on a line is one token.
* `Block.within`, `within_members`: by induction on the mapping, so are all the lines below a key.
* `ofText_writeMembers`: the tokens of a document.

While a value is scanned the blocks inside it are still open: their ends are read at the next line
that lies further out. `Layout.Within` counts them as read.
-/
namespace DeviceAdmission.Yaml

/-! ## Values -/

namespace Layout

variable {s t : Layout} {column : Nat} {outer columns : List Nat} {tail rest key : List Char}
  {kinds : List TokenKind}

/-- A text after its key is one token. -/
theorem takes_text {text : String} (steady : s.Steady) (forbidden : s.keyAllowed = false)
    (indents : s.indents = column :: outer)
    (written : s.cursor.rest = ((Block.text text).write column).toList ++ tail)
    (inside : column < s.mark.column) (resumes : Resumes tail) (outside : indentOf tail ≤ column) :
    ∃ t, Takes (.scalar text (styleOf text)) tail s t := by
  have margin : s.margin = column + 1 := by rw [Layout.margin, indents]
  have here : s.margin ≤ s.mark.column := by omega
  rw [toList_write_text, List.cons_append, List.append_assoc] at written
  rcases styleOf_cases text with ⟨style, safe, filled⟩ | ⟨style, safe⟩ | ⟨style, safe, filled⟩ | style
  · have plain : writeText (column + indentStep) text = text := by rw [writeText, style]
    rw [plain, closing_plain safe filled, List.singleton_append] at written
    have takes := takes_plain steady forbidden written safe filled here resumes (by omega)
    rwa [String.ofList_toList, ← style] at takes
  · have single : writeText (column + indentStep) text = singleQuoted (column + indentStep) text := by
      rw [writeText, style]
    rw [single, closing_singleQuoted, List.singleton_append] at written
    have takes := takes_single steady forbidden written safe (Nat.add_pos_right _ (by decide)) here
      resumes
    rwa [← style] at takes
  · have lines : writeText (column + indentStep) text = literal (column + indentStep) text := by
      rw [writeText, style]
    rw [lines, closing_literal _ filled] at written
    have takes := takes_literal steady written safe filled (by omega) (by rw [margin]; rfl) here resumes
      (Nat.lt_of_le_of_lt outside (Nat.lt_add_of_pos_right (by decide)))
    rwa [← style] at takes
  · have double : writeText (column + indentStep) text = doubleQuoted text := by
      rw [writeText, style]
    rw [double, closing_doubleQuoted, List.singleton_append] at written
    have takes := takes_double steady forbidden written here resumes
    rwa [← style] at takes

/-- So is a word. -/
theorem takes_word {word : String} (name : IsName word.toList) (steady : s.Steady)
    (forbidden : s.keyAllowed = false) (indents : s.indents = column :: outer)
    (written : s.cursor.rest = ((Block.word word).write column).toList ++ tail)
    (inside : column < s.mark.column) (resumes : Resumes tail) (outside : indentOf tail ≤ column) :
    ∃ t, Takes (.scalar word .plain) tail s t := by
  have margin : s.margin = column + 1 := by rw [Layout.margin, indents]
  have line : s.cursor.rest = ' ' :: (word.toList ++ '\n' :: tail) := by
    rw [written, Block.write]
    simp
  have takes := takes_plain steady forbidden line name.isPlainSafe name.filled (by omega) resumes
    (by omega)
  rwa [String.ofList_toList] at takes

/-- The scanner is at a line. Once the blocks inside `columns` have ended, the tokens are `kinds`. -/
structure Within (s : Layout) (columns : List Nat) (kinds : List TokenKind) (tail : List Char) :
    Prop where
  steady : s.Steady
  line : s.AtLine tail
  inner : ∃ inner, s.indents = inner ++ columns ∧ (∀ d ∈ inner, ∀ c ∈ columns.head?, c < d) ∧
    s.kinds ++ List.replicate inner.length .blockEnd = kinds

theorem Takes.within {kind : TokenKind} (takes : Takes kind tail s t) :
    t.Within s.indents (s.kinds ++ [kind]) tail :=
  ⟨takes.steady, takes.line, [], takes.indents, fun _ member => (by cases member),
    by simp [takes.kinds]⟩

/-- The end of the innermost block counts as read. -/
theorem Within.leave (within : s.Within (column :: columns) kinds tail)
    (nested : ∀ c ∈ columns.head?, c < column) :
    s.Within columns (kinds ++ [.blockEnd]) tail := by
  obtain ⟨steady, line, inner, indents, further, same⟩ := within
  refine ⟨steady, line, inner ++ [column], by simp [indents], ?_, ?_⟩
  · intro d member c first
    rcases List.mem_append.1 member with deep | last
    · exact Nat.lt_trans (nested c first) (further d deep column rfl)
    · obtain rfl : d = column := by simpa using last
      exact nested c first
  · rw [← same, List.length_append, ← List.replicate_append_replicate]
    simp

/-- The state after a key and its colon. -/
structure Keyed (columns : List Nat) (kinds : List TokenKind) (rest : List Char) (column : Nat)
    (s t : Layout) : Prop where
  reaches : Reaches s t
  steady : t.Steady
  forbidden : t.keyAllowed = false
  indents : t.indents = columns
  kinds : t.kinds = kinds
  text : t.cursor.rest = rest
  column : column < t.mark.column

/-- A key at a line, inside the blocks of some columns. -/
theorem Steady.keyed_of_line {inner : List Nat} (steady : s.Steady) (line : s.AtLine tail)
    (indents : s.indents = inner ++ columns) (left : ∀ d ∈ inner, indentOf tail < d)
    (inside : marginOf columns ≤ indentOf tail + 1) (text : unindented tail = key ++ ':' :: rest)
    (name : IsName key) (short : key.length ≤ maxKeyLength) (ended : endsWord rest) :
    ∃ t, Keyed (if marginOf columns ≤ indentOf tail then indentOf tail :: columns else columns)
      (s.kinds ++ List.replicate inner.length .blockEnd ++
        ((if marginOf columns ≤ indentOf tail then [.blockMappingStart] else []) ++
          [.key, .scalar (String.ofList key) .plain, .value])) rest (indentOf tail) s t := by
  obtain ⟨u, m, comes, steady', kinds, cursor, column, indents', allowed⟩ :=
    steady.comes_line line indents left (head_le_of_marginOf inside)
  have here : u.mark.column = indentOf tail := by rw [mark, cursor, column]
  have margin : u.margin = marginOf columns := by rw [margin_eq, indents']
  have shorter : u.cursor.rest.length ≤ s.cursor.rest.length := by
    rw [cursor]
    exact line.shorter
  have head : ∀ d ∈ u.indents.head?, d ≤ u.mark.column := by
    rw [indents', here]
    exact head_le_of_marginOf inside
  have filled : 0 < key.length := List.length_pos_iff.2 name.filled
  refine ⟨u.keyed key rest, ?_, steady'.keyed, rfl, ?_, ?_, rfl, ?_⟩
  · exact steady'.reaches_keyed comes allowed (by rw [cursor, text]) name short ended head shorter
  · simp [Layout.keyed, margin, here, indents']
  · rw [steady'.kinds_keyed, kinds, margin, here]
  · change indentOf tail < u.mark.column + (key.length + 1)
    omega

end Layout

/-! ## Mappings -/

mutual

/-- The tokens of a value. -/
def Block.kinds : Block → List TokenKind
  | .word s => [.scalar s .plain]
  | .text s => [.scalar s (styleOf s)]
  | .mapping members => .blockMappingStart :: (memberKinds members ++ [.blockEnd])

/-- The tokens of the members of a mapping. -/
def memberKinds : List (String × Block) → List TokenKind
  | [] => []
  | (key, value) :: rest => [.key, .scalar key .plain, .value] ++ value.kinds ++ memberKinds rest

end

open Layout

/-- A member begins with its key, which may begin the mapping. -/
theorem Layout.Steady.keyed_member {s : Layout} {column : Nat} {inner columns : List Nat}
    {tail : List Char} {key : String} {value : Block} {rest : List (String × Block)}
    (steady : s.Steady) (line : s.AtLine ((writeMembers column ((key, value) :: rest)).toList ++ tail))
    (indents : s.indents = inner ++ columns) (left : ∀ d ∈ inner, column < d)
    (inside : marginOf columns ≤ column + 1) (name : IsName key.toList)
    (short : key.toList.length ≤ maxKeyLength) :
    ∃ t, Keyed (if marginOf columns ≤ column then column :: columns else columns)
      (s.kinds ++ List.replicate inner.length .blockEnd ++
        ((if marginOf columns ≤ column then [.blockMappingStart] else []) ++
          [.key, .scalar key .plain, .value]))
      ((value.write column).toList ++ ((writeMembers column rest).toList ++ tail)) column s t := by
  rw [toList_writeMembers] at line
  obtain ⟨indent, begins, -⟩ := line_of_name name column
    (':' :: ((value.write column).toList ++ ((writeMembers column rest).toList ++ tail)))
  obtain ⟨t, keyed⟩ := steady.keyed_of_line line indents
    (fun d member => by rw [indent]; exact left d member) (by rw [indent]; exact inside) begins name
    short (endsWord_write value column _)
  rw [indent, String.ofList_toList] at keyed
  exact ⟨t, keyed⟩

mutual

/-- A value is scanned to its tokens. -/
theorem Block.within : (value : Block) → value.Proper → ∀ {s : Layout} {column : Nat}
    {outer : List Nat} {tail : List Char}, s.Steady → s.keyAllowed = false →
    s.indents = column :: outer → s.cursor.rest = (value.write column).toList ++ tail →
    column < s.mark.column → Resumes tail → indentOf tail ≤ column →
    ∃ t, Reaches s t ∧ t.Within (column :: outer) (s.kinds ++ value.kinds) tail
  | .word word, proper, s, column, outer, tail, steady, forbidden, indents, text, inside, resumes,
      outside => by
    obtain ⟨t, takes⟩ := takes_word proper steady forbidden indents text inside resumes outside
    exact ⟨t, takes.reaches, indents ▸ takes.within⟩
  | .text text, _, s, column, outer, tail, steady, forbidden, indents, written, inside, resumes,
      outside => by
    obtain ⟨t, takes⟩ := takes_text steady forbidden indents written inside resumes outside
    exact ⟨t, takes.reaches, indents ▸ takes.within⟩
  | .mapping members, proper, s, column, outer, tail, steady, forbidden, indents, text, inside, resumes,
      outside => by
    rw [Block.write, String.toList_append] at text
    have line : s.AtLine ((writeMembers (column + indentStep) members).toList ++ tail) :=
      atLine_lineFeed steady.flow text
        (resumes_members proper.2 resumes (Nat.le_add_right_of_le outside)).1
    obtain ⟨t, reaches, within⟩ := opened_within members proper.1 proper.2 steady line indents
      (by simp [marginOf, indentStep]) resumes (Nat.le_add_right_of_le outside)
    have left := within.leave fun c first => by
      obtain rfl : column = c := by simpa using first
      exact Nat.lt_add_of_pos_right (by decide)
    refine ⟨t, reaches, ?_⟩
    rwa [List.append_assoc, List.cons_append] at left

/-- A mapping begins with its first key. -/
theorem opened_within : (members : List (String × Block)) → members ≠ [] → ProperMembers members →
    ∀ {s : Layout} {column : Nat} {columns : List Nat} {tail : List Char}, s.Steady →
    s.AtLine ((writeMembers column members).toList ++ tail) → s.indents = columns →
    marginOf columns ≤ column → Resumes tail → indentOf tail ≤ column →
    ∃ t, Reaches s t ∧
      t.Within (column :: columns) (s.kinds ++ .blockMappingStart :: memberKinds members) tail
  | [], filled, _, _, _, _, _, _, _, _, _, _, _ => absurd rfl filled
  | (key, value) :: rest, _, proper, s, column, columns, tail, steady, line, indents, opens, resumes,
      outside => by
    obtain ⟨name, short, proper', properRest⟩ := proper
    obtain ⟨resumes', outside'⟩ := resumes_members properRest resumes outside
    obtain ⟨t, keyed⟩ := steady.keyed_member line (List.nil_append columns ▸ indents)
      (fun d member => by cases member) (Nat.le_succ_of_le opens) name short
    rw [if_pos opens, if_pos opens] at keyed
    obtain ⟨u, reaches, within⟩ := value.within proper' keyed.steady keyed.forbidden keyed.indents
      keyed.text keyed.column resumes' outside'
    obtain ⟨v, reaches', within'⟩ := within_members rest properRest within resumes outside
    refine ⟨v, keyed.reaches.trans (reaches.trans reaches'), ?_⟩
    rw [keyed.kinds] at within'
    simpa [memberKinds] using within'

/-- The members of a mapping that has begun are scanned to their tokens. -/
theorem within_members : (members : List (String × Block)) → ProperMembers members →
    ∀ {s : Layout} {column : Nat} {outer : List Nat} {kinds : List TokenKind} {tail : List Char},
    s.Within (column :: outer) kinds ((writeMembers column members).toList ++ tail) →
    Resumes tail → indentOf tail ≤ column →
    ∃ t, Reaches s t ∧ t.Within (column :: outer) (kinds ++ memberKinds members) tail
  | [], _, s, column, outer, kinds, tail, within, _, _ => by
    refine ⟨s, .here s, ?_⟩
    rw [memberKinds, List.append_nil]
    exact within
  | (key, value) :: rest, proper, s, column, outer, kinds, tail, within, resumes, outside => by
    obtain ⟨name, short, proper', properRest⟩ := proper
    obtain ⟨steady, line, inner, indents, further, same⟩ := within
    obtain ⟨resumes', outside'⟩ := resumes_members properRest resumes outside
    have stays : ¬ marginOf (column :: outer) ≤ column := Nat.not_succ_le_self column
    obtain ⟨t, keyed⟩ := steady.keyed_member line indents (fun d member => further d member column rfl)
      (Nat.le_refl _) name short
    rw [if_neg stays, if_neg stays] at keyed
    obtain ⟨u, reaches, within⟩ := value.within proper' keyed.steady keyed.forbidden keyed.indents
      keyed.text keyed.column resumes' outside'
    obtain ⟨v, reaches', within'⟩ := within_members rest properRest within resumes outside
    refine ⟨v, keyed.reaches.trans (reaches.trans reaches'), ?_⟩
    rw [keyed.kinds, same] at within'
    simpa [memberKinds] using within'

end

/-! ## Documents -/

theorem forbiddenOctet?_eq_none {text : List Char} (clean : ∀ c ∈ text, isAllowed c) (offset : Nat) :
    forbiddenOctet? text offset = none := by
  induction text generalizing offset with
  | nil => rfl
  | cons c rest ih =>
    rw [forbiddenOctet?, if_pos (clean c List.mem_cons_self),
      ih fun d member => clean d (List.mem_cons_of_mem c member)]

theorem ofText_eq {text : List Char} (noMark : text.head? ≠ some '\ufeff')
    (clean : ∀ c ∈ text, isAllowed c) :
    Tokens.ofText text = Layout.run (text.length + 1) { cursor := ⟨text, .start⟩ } 0 := by
  cases text with
  | nil => rfl
  | cons c rest =>
    have other : c ≠ '\ufeff' := fun same => noMark (by rw [same]; rfl)
    -- The equation of the definition is too large to be generated: it spells the mark out.
    delta Tokens.ofText
    simp [other, forbiddenOctet?_eq_none clean 0]

theorem Layout.run_of_reaches {s t u : Layout} (reaches : Reaches s t) (push : t.pushNext = .ok u)
    (kept : u.dropStale = .ok u) (ended : u.ended = true) {fuel : Nat} (ready : Nat)
    (enough : s.cursor.rest.length < fuel) : s.run fuel ready = ⟨u.resolved u.count, none⟩ := by
  induction reaches generalizing fuel ready with
  | here s =>
    obtain ⟨fuel, rfl⟩ : ∃ n, fuel = n + 1 := ⟨fuel - 1, by omega⟩
    rw [run, push]
    simp only [kept, ended, if_true]
  | @step s next _ push' kept' running shorter _ ih =>
    obtain ⟨fuel, rfl⟩ : ∃ n, fuel = n + 1 := ⟨fuel - 1, by omega⟩
    rw [run, push']
    simp only [kept', running, Bool.false_eq_true, if_false]
    exact ih push next.readyCount (by omega)

/-- The tokens of a written document. -/
theorem ofText_writeMembers {members : List (String × Block)} (filled : members ≠ [])
    (proper : ProperMembers members) :
    (Tokens.ofText (writeMembers 0 members).toList).fault = none ∧
      (Tokens.ofText (writeMembers 0 members).toList).tokens.map (·.kind) =
        (Block.mapping members).kinds ++ [.textEnd] := by
  obtain ⟨begins, resumes, noMark⟩ : unindented (writeMembers 0 members).toList =
      (writeMembers 0 members).toList ∧ Resumes (writeMembers 0 members).toList ∧
      (writeMembers 0 members).toList.head? ≠ some '\ufeff' := by
    cases members with
    | nil => exact absurd rfl filled
    | cons member rest =>
      obtain ⟨key, value⟩ := member
      rw [← List.append_nil (writeMembers _ _).toList, toList_writeMembers]
      obtain ⟨-, begins, resumes⟩ := line_of_name proper.1 0
        (':' :: ((value.write 0).toList ++ ((writeMembers 0 rest).toList ++ [])))
      refine ⟨begins, resumes, fun same => ?_⟩
      have letter : isNameLetter '\ufeff' := resumes '\ufeff' (by rw [begins]; exact same)
      exact absurd letter (by decide)
  have column : indentOf (writeMembers 0 members).toList = 0 := by
    have whole := congrArg List.length (replicate_indentOf (writeMembers 0 members).toList)
    rw [begins] at whole
    simpa using whole
  have clean : ∀ c ∈ (writeMembers 0 members).toList, isAllowed c := fun c member =>
    isAllowed_of_isPrintable (printable_members members proper 0 c member)
  let s : Layout := { cursor := ⟨(writeMembers 0 members).toList, .start⟩ }
  have steady : s.Steady := ⟨rfl, rfl, rfl, rfl, fun _ member => by cases member⟩
  have line : s.AtLine ((writeMembers 0 members).toList ++ []) := by
    rw [List.append_nil]
    exact atLine_here resumes (by rw [begins]) column.symm rfl
  obtain ⟨t, reaches, within⟩ := opened_within members filled proper steady line rfl (Nat.le_refl 0)
    (fun _ member => by cases member) (Nat.le_refl 0)
  obtain ⟨steady', line', inner, indents, -, same⟩ := within.leave fun _ member => by cases member
  obtain ⟨u, push, kept, ended, kinds⟩ := steady'.pushNext_end line'
  have tokens : Tokens.ofText (writeMembers 0 members).toList = ⟨u.resolved u.count, none⟩ := by
    rw [ofText_eq noMark clean]
    exact run_of_reaches reaches push kept ended 0 (Nat.lt_succ_self _)
  refine ⟨by rw [tokens], ?_⟩
  rw [List.append_nil] at indents
  rw [tokens, Block.kinds, ← List.cons_append]
  change u.kinds = _
  rw [kinds, indents, same]
  rfl

end DeviceAdmission.Yaml
