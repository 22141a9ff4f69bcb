import DeviceAdmission.Proofs.Yaml.Lines

/-!
# One token after another

What the scanner does where a written mapping goes on: at a key and its colon, at the value after the
colon, and at the end of the text.

* `Reaches` is a row of such steps.
* `Steady.reaches_keyed`: a key is passed with its colon, and may begin a mapping.
* `takes_plain`, `takes_single`, `takes_double`, `takes_literal`: a value is passed with its line.
* `Steady.pushNext_end`: at the end of the text all blocks end.
-/
namespace DeviceAdmission.Yaml.Layout

variable {s t : Layout} {tail rest : List Char} {c : Char}

/-! ## Steps -/

/-- Steps that append a token each and take some of the text. -/
inductive Reaches : Layout → Layout → Prop
  | here (s : Layout) : Reaches s s
  | step {s t u : Layout} (push : s.pushNext = .ok t) (kept : t.dropStale = .ok t)
      (running : t.ended = false) (shorter : t.cursor.rest.length < s.cursor.rest.length)
      (rest : Reaches t u) : Reaches s u

theorem Reaches.trans {u : Layout} (first : Reaches s t) (second : Reaches t u) : Reaches s u := by
  induction first with
  | here => exact second
  | step push kept running shorter _ ih => exact .step push kept running shorter (ih second)

theorem dropStale_of_fresh (flow : s.outer = []) (fresh : s.candidate.any (isStale s.mark) = false) :
    s.dropStale = .ok s := by
  rw [Layout.dropStale, flow]
  simp only [List.mapM_nil, refresh, fresh, Bool.false_eq_true, if_false, bind, Except.bind, pure,
    Except.pure]
  congr 1
  rw [← flow]

theorem Steady.dropStale (steady : s.Steady) : s.dropStale = .ok s :=
  dropStale_of_fresh steady.flow (by rw [steady.free]; rfl)

theorem Steady.dropCandidate (steady : s.Steady) : s.dropCandidate = .ok s := by
  have none : s.candidate = none := steady.free
  rw [Layout.dropCandidate, none]
  simp only [giveUp, bind, Except.bind, pure, Except.pure]
  congr 1
  rw [← none]

/-- A step that leaves a steady state. -/
theorem Steady.reaches (steady : t.Steady) (push : s.pushNext = .ok t)
    (shorter : t.cursor.rest.length < s.cursor.rest.length) : Reaches s t :=
  .step push steady.dropStale steady.running shorter (.here t)

/-- At a line the blocks that lie further in end before the next token. -/
theorem Steady.comes_line {inner columns : List Nat} (steady : s.Steady) (line : s.AtLine tail)
    (indents : s.indents = inner ++ columns) (left : ∀ d ∈ inner, indentOf tail < d)
    (inside : ∀ d ∈ columns.head?, d ≤ indentOf tail) :
    ∃ t m, s.Comes t ∧ t.Steady ∧ t.kinds = s.kinds ++ List.replicate inner.length .blockEnd ∧
      t.cursor = ⟨unindented tail, m⟩ ∧ m.column = indentOf tail ∧ t.indents = columns ∧
      t.keyAllowed = true := by
  obtain ⟨m, column, skips⟩ := line.skips
  let u : Layout := { s with cursor := ⟨unindented tail, m⟩, keyAllowed := true }
  have steady' : u.Steady := steady.moved _ s.indents true
  have closes : Closes inner.length u u.closeLeft :=
    steady'.closeLeft indents (fun d member => column ▸ left d member)
      (fun d member => column ▸ inside d member)
  refine ⟨u.closeLeft, m, ⟨u, ?_, rfl⟩, closes.steady, closes.kinds, closes.cursor, column, ?_,
    closes.keyAllowed⟩
  · rw [skips]
    exact steady'.dropStale
  · rw [closes.indents]
    exact (congrArg (List.drop inner.length) indents).trans List.drop_left

/-- After the space that follows a colon. -/
theorem Steady.comes_value (steady : s.Steady) (text : s.cursor.rest = ' ' :: c :: rest)
    (begins : BeginsToken c) (inside : ∀ d ∈ s.indents.head?, d ≤ s.mark.column) :
    s.Comes { s with cursor := ⟨c :: rest, s.mark.next⟩ } := by
  let u : Layout := { s with cursor := ⟨c :: rest, s.mark.next⟩ }
  have steady' : u.Steady := steady.moved _ s.indents s.keyAllowed
  refine ⟨u, ?_, closeLeft_eq fun d member => Nat.le_succ_of_le (inside d member)⟩
  rw [skipToToken_blanks s.cursor.rest.length 1 text fun d member => by
    obtain rfl : c = d := by simpa using member
    exact begins]
  exact steady'.dropStale

/-! ## Keys -/

/-- The least column inside the innermost of some blocks. -/
def marginOf : List Nat → Nat
  | [] => 0
  | column :: _ => column + 1

theorem margin_eq (s : Layout) : s.margin = marginOf s.indents := by
  rw [margin]
  cases s.indents <;> rfl

theorem head_le_of_marginOf {column : Nat} {columns : List Nat}
    (inside : marginOf columns ≤ column + 1) :
    ∀ d ∈ columns.head?, d ≤ column := by
  intro d member
  cases columns with
  | nil => cases member
  | cons e rest =>
    obtain rfl : e = d := by simpa using member
    exact Nat.le_of_succ_le_succ inside

/-- The state after a key has been passed, before its colon. -/
def named (s : Layout) (key : List Char) (rest : List Char) : Layout :=
  { s.push (.scalar (String.ofList key) .plain) s.mark (s.mark.advance key.length) with
    cursor := ⟨':' :: rest, s.mark.advance key.length⟩
    candidate := some ⟨s.count, s.mark, s.margin == s.mark.column + 1⟩
    keyAllowed := false }

/-- The state after the colon of a key. -/
def keyed (s : Layout) (key : List Char) (rest : List Char) : Layout :=
  let opens : Bool := s.margin ≤ s.mark.column
  { s.named key rest with
    tokens := ⟨.value, s.mark.advance key.length, s.mark.advance (key.length + 1)⟩ ::
      (s.named key rest).tokens
    count := s.count + 2
    found := ⟨s.count, s.mark, opens⟩ :: s.found
    candidate := none
    indents := if opens then s.mark.column :: s.indents else s.indents
    cursor := ⟨rest, s.mark.advance (key.length + 1)⟩ }

variable {key : List Char}

theorem Steady.pushPlain_name (steady : s.Steady) (allowed : s.keyAllowed = true)
    (text : s.cursor.rest = key ++ ':' :: rest) (letters : ∀ c ∈ key, isNameLetter c)
    (ended : endsWord rest) : s.pushPlain = .ok (s.named key rest) := by
  have inline : s.inFlow = false := by simp [inFlow, steady.flow]
  let u : Layout := { s with
    candidate := some ⟨s.count, s.mark, s.margin == s.mark.column + 1⟩ }
  have added : s.addCandidate = .ok u := by
    rw [addCandidate, if_pos allowed, steady.dropCandidate]
    simp only [bind, Except.bind, inline]
    rfl
  have scan : scanPlain u.inFlow u.margin u.mark u.cursor.rest u.mark .none [] =
      .ok ⟨String.ofList key, false, ⟨':' :: rest, u.mark.advance key.length⟩⟩ := by
    have read := @scanPlain_name u.margin u.mark u.mark rest [] key letters ended
    rw [List.append_nil, valueOf, List.reverse_reverse] at read
    rw [show u.inFlow = false from inline, show u.cursor.rest = _ from text, read]
  rw [pushPlain, added]
  simp only [bind, Except.bind, scan]
  rfl

/-- A key waits for its colon, unless it is too long. -/
theorem Steady.dropStale_named (steady : s.Steady) (short : key.length ≤ maxKeyLength) :
    (s.named key rest).dropStale = .ok (s.named key rest) := by
  refine dropStale_of_fresh steady.flow ?_
  have near : ¬ s.mark.index + maxKeyLength < s.mark.index + key.length := by omega
  simp [named, isStale, mark, Mark.advance] at near ⊢
  exact near

theorem Steady.comes_named (steady : s.Steady) (short : key.length ≤ maxKeyLength)
    (inside : ∀ d ∈ s.indents.head?, d ≤ s.mark.column) :
    (s.named key rest).Comes (s.named key rest) := by
  refine ⟨s.named key rest, ?_, closeLeft_eq fun d member =>
    Nat.le_trans (inside d member) (Nat.le_add_right _ _)⟩
  rw [skipToToken_blanks (s.named key rest).cursor.rest.length 0 (by rfl) fun d member => by
    obtain rfl : ':' = d := by simpa [named] using member
    exact ⟨rfl, rfl, by decide, by decide⟩]
  exact steady.dropStale_named short

theorem Steady.pushValue_named (steady : s.Steady) :
    (s.named key rest).pushValue = .ok (s.keyed key rest) := by
  have inline : (s.named key rest).inFlow = false := by simp [named, Layout.push, inFlow, steady.flow]
  have waits : (s.named key rest).candidate =
      some ⟨s.count, s.mark, s.margin == s.mark.column + 1⟩ := rfl
  rw [pushValue, waits]
  simp only [inline]
  rfl

theorem Steady.keyed (steady : s.Steady) : (s.keyed key rest).Steady where
  flow := steady.flow
  free := rfl
  running := steady.running
  counted := by simp [Layout.keyed, named, Layout.push, steady.counted]
  numbered k member := by
    rcases List.mem_cons.1 member with rfl | earlier
    · exact Nat.lt_add_of_pos_right (by decide)
    · exact Nat.lt_add_right 2 (steady.numbered k earlier)

/-- A key and its colon give three tokens, after the start of the mapping if it begins here. -/
theorem Steady.kinds_keyed (steady : s.Steady) :
    (s.keyed key rest).kinds = s.kinds ++
      ((if s.margin ≤ s.mark.column then [.blockMappingStart] else []) ++
        [.key, .scalar (String.ofList key) .plain, .value]) := by
  let opens : Bool := s.margin ≤ s.mark.column
  let word : Token := ⟨.scalar (String.ofList key) .plain, s.mark, s.mark.advance key.length⟩
  let u : Layout := { s with
    tokens := word :: s.tokens
    count := s.count + 1
    found := ⟨s.count, s.mark, opens⟩ :: s.found }
  have steady' : u.Steady := {
    flow := steady.flow
    free := steady.free
    running := steady.running
    counted := by simp [u, steady.counted]
    numbered := fun k member => by
      rcases List.mem_cons.1 member with rfl | earlier
      · exact Nat.lt_succ_self _
      · exact Nat.lt_succ_of_lt (steady.numbered k earlier) }
  have whole : (s.keyed key rest).kinds = u.kinds ++ [.value] :=
    steady'.kinds_push .value (s.mark.advance key.length) (s.mark.advance (key.length + 1))
  have found : u.kinds = s.kinds ++ ((if opens then [.blockMappingStart] else []) ++
      [.key, word.kind]) := steady.kinds_key word s.mark opens rfl rfl rfl
  rw [whole, found]
  simp [opens, word]

/-- A key is passed in two steps. -/
theorem Steady.reaches_keyed (steady : t.Steady) (comes : s.Comes t) (allowed : t.keyAllowed = true)
    (text : t.cursor.rest = key ++ ':' :: rest) (name : IsName key)
    (short : key.length ≤ maxKeyLength) (ended : endsWord rest)
    (inside : ∀ d ∈ t.indents.head?, d ≤ t.mark.column)
    (shorter : t.cursor.rest.length ≤ s.cursor.rest.length) : Reaches s (t.keyed key rest) := by
  have content : isDocumentIndicator t.cursor.rest = false := by
    rw [text]
    cases letters : key with
    | nil => exact absurd letters name.filled
    | cons c cs =>
      have letter := name.letters c (by simp [letters])
      exact isDocumentIndicator_of_ne (ne_of_isNameLetter rfl letter) (ne_of_isNameLetter rfl letter)
  have push := pushNext_of_isPlainSafe comes steady.flow text name.isPlainSafe name.filled
    (by rw [content, Bool.and_false])
  rw [steady.pushPlain_name allowed text name.letters ended] at push
  have colon : (t.named key rest).pushNext = .ok (t.keyed key rest) :=
    (pushNext_of_colon (steady.comes_named short inside) rfl ended).trans steady.pushValue_named
  have filled : 0 < key.length := List.length_pos_iff.2 name.filled
  refine .step push (steady.dropStale_named short) steady.running ?_
    (steady.keyed.reaches colon (Nat.lt_succ_self _))
  rw [text] at shorter
  simp [named] at shorter ⊢
  omega

/-! ## Values -/

/-- The state after a value: a token more, and a new line. -/
structure Takes (kind : TokenKind) (tail : List Char) (s t : Layout) : Prop where
  reaches : Reaches s t
  steady : t.Steady
  line : t.AtLine tail
  kinds : t.kinds = s.kinds ++ [kind]
  indents : t.indents = s.indents

theorem head_le_of_margin {column : Nat} (inside : s.margin ≤ column) :
    ∀ d ∈ s.indents.head?, d ≤ column := by
  intro d member
  have first : s.margin = d + 1 := by
    cases indents : s.indents with
    | nil => rw [indents] at member; cases member
    | cons e rest =>
      rw [indents] at member
      obtain rfl : e = d := by simpa using member
      rw [margin, indents]
  omega

theorem addCandidate_of_not_allowed (forbidden : s.keyAllowed = false) : s.addCandidate = .ok s := by
  rw [addCandidate, forbidden]
  rfl

/-- The state after a scalar token. -/
def after (s : Layout) (kind : TokenKind) (start stop : Mark) (cursor : Cursor) (allowed : Bool) :
    Layout :=
  { s.push kind start stop with cursor := cursor, keyAllowed := allowed }

theorem Steady.takes {kind : TokenKind} {start stop : Mark} {cursor : Cursor} {allowed : Bool}
    (steady : s.Steady) (push : s.pushNext = .ok (s.after kind start stop cursor allowed))
    (shorter : cursor.rest.length < s.cursor.rest.length)
    (line : (s.after kind start stop cursor allowed).AtLine tail) :
    Takes kind tail s (s.after kind start stop cursor allowed) := by
  have steady' : (s.after kind start stop cursor allowed).Steady :=
    (steady.push kind start stop).moved cursor s.indents allowed
  exact ⟨steady'.reaches push shorter, steady', line, steady.kinds_push kind start stop, rfl⟩

theorem pushPlain_of_scan {scalar : PlainScalar} (forbidden : s.keyAllowed = false)
    (flow : s.outer = [])
    (scan : scanPlain false s.margin s.mark s.cursor.rest s.mark .none [] = .ok scalar) :
    s.pushPlain = .ok (s.after (.scalar scalar.value .plain) s.mark scalar.after.mark scalar.after
      scalar.brokenOff) := by
  have inline : s.inFlow = false := by simp [inFlow, flow]
  rw [pushPlain, addCandidate_of_not_allowed forbidden]
  simp only [bind, Except.bind, inline, scan]
  rfl

theorem pushQuoted_of_scan {style : Style} {value : String} {stop : Cursor}
    (forbidden : s.keyAllowed = false)
    (scan : scanQuoted (style == .singleQuoted) s.mark (s.cursor.skip 1).rest 0 (s.cursor.skip 1).mark
      .none [] = .ok (value, stop)) :
    s.pushQuoted style = .ok (s.after (.scalar value style) s.mark stop.mark stop false) := by
  rw [pushQuoted, addCandidate_of_not_allowed forbidden]
  simp only [bind, Except.bind, scan]
  rfl

theorem Steady.pushBlockScalar_of_scan {value : String} {stop : Cursor} (steady : s.Steady)
    (scan : scanBlock false s.margin s.cursor = .ok (value, stop)) :
    s.pushBlockScalar .literal =
      .ok (s.after (.scalar value .literal) s.mark stop.mark stop true) := by
  rw [pushBlockScalar, steady.dropCandidate]
  simp only [bind, Except.bind]
  rw [show (Style.literal == Style.folded) = false from rfl, scan]
  rfl

theorem takes_plain {cs : List Char} (steady : s.Steady) (forbidden : s.keyAllowed = false)
    (text : s.cursor.rest = ' ' :: (cs ++ '\n' :: tail)) (safe : isPlainSafe cs) (filled : cs ≠ [])
    (inside : s.margin ≤ s.mark.column) (resumes : Resumes tail) (outside : indentOf tail < s.margin) :
    ∃ t, Takes (.scalar (String.ofList cs) .plain) tail s t := by
  let u : Layout := { s with cursor := ⟨cs ++ '\n' :: tail, s.mark.next⟩ }
  have comes : s.Comes u := by
    cases cs with
    | nil => exact absurd rfl filled
    | cons c cs =>
      obtain ⟨clean, whole, reserved, -, first, -⟩ := isPlainSafe_cases safe
      have printable := clean c List.mem_cons_self
      refine steady.comes_value text
        ⟨?_, whole c List.mem_cons_self, ?_, ne_of_isPrintable rfl printable⟩ (head_le_of_margin inside)
      · exact isBlank_of_ne printable fun space => first (by rw [space]; rfl)
      · exact beq_eq_false_iff_ne.1 ((beginsReserved_cases reserved).1 '#' rfl)
  have push := pushNext_of_isPlainSafe comes steady.flow rfl safe filled (by simp [u, mark])
  have scan := @scanPlain_line u.margin u.mark u.mark cs tail safe filled (Nat.le_succ_of_le inside)
    resumes outside
  rw [@pushPlain_of_scan u _ forbidden steady.flow scan] at push
  refine ⟨_, steady.takes push ?_ (atLine_here resumes rfl (by simp) rfl)⟩
  rw [text]
  have shorter := length_unindented tail
  simp
  omega

/-- A quoted scalar ends within its line. -/
theorem Steady.takes_quoted {style : Style} {body : List Char} {value : String}
    (steady : s.Steady) (quoted : style = .singleQuoted ∨ style = .doubleQuoted)
    (forbidden : s.keyAllowed = false)
    (text : s.cursor.rest = ' ' :: quoteOf style :: (body ++ '\n' :: tail))
    (scan : ∀ start m : Mark, m.column ≠ 0 → ∃ stop,
      scanQuoted (style == .singleQuoted) start (body ++ '\n' :: tail) 0 m .none [] =
        .ok (value, ⟨'\n' :: tail, stop⟩))
    (inside : s.margin ≤ s.mark.column) (resumes : Resumes tail) :
    ∃ t, Takes (.scalar value style) tail s t := by
  let u : Layout := { s with cursor := ⟨quoteOf style :: (body ++ '\n' :: tail), s.mark.next⟩ }
  have begins : BeginsToken (quoteOf style) := by
    rcases quoted with rfl | rfl <;> exact ⟨rfl, rfl, by decide, by decide⟩
  obtain ⟨stop, read⟩ := scan u.mark (u.mark.advance 1) (by simp)
  have push := pushNext_of_quoted quoted (steady.comes_value text begins (head_le_of_margin inside)) rfl
  rw [@pushQuoted_of_scan u style value _ forbidden read] at push
  refine ⟨_, steady.takes push ?_ (atLine_lineFeed steady.flow rfl resumes)⟩
  rw [text]
  simp
  omega

theorem takes_single {indent : Nat} {value : String} (steady : s.Steady)
    (forbidden : s.keyAllowed = false)
    (text : s.cursor.rest = ' ' :: ((singleQuoted indent value).toList ++ '\n' :: tail))
    (safe : SingleSafe value.toList) (positive : 0 < indent) (inside : s.margin ≤ s.mark.column)
    (resumes : Resumes tail) : ∃ t, Takes (.scalar value .singleQuoted) tail s t := by
  have begins : (singleQuoted indent value).toList =
      quoteOf .singleQuoted :: (singleQuoted indent value).toList.drop 1 := by
    rw [toList_singleQuoted]
    rfl
  rw [begins] at text
  exact steady.takes_quoted (.inl rfl) forbidden text
    (fun start m column => scanQuoted_single safe column positive (by simp)) inside resumes

theorem takes_double {value : String} (steady : s.Steady) (forbidden : s.keyAllowed = false)
    (text : s.cursor.rest = ' ' :: ((doubleQuoted value).toList ++ '\n' :: tail))
    (inside : s.margin ≤ s.mark.column) (resumes : Resumes tail) :
    ∃ t, Takes (.scalar value .doubleQuoted) tail s t := by
  have begins : (doubleQuoted value).toList =
      quoteOf .doubleQuoted :: (doubleQuoted value).toList.drop 1 := by
    rw [toList_doubleQuoted]
    rfl
  rw [begins] at text
  exact steady.takes_quoted (.inr rfl) forbidden text
    (fun start m column => scanQuoted_double value column) inside resumes

theorem takes_literal {indent : Nat} {value : String} (steady : s.Steady)
    (text : s.cursor.rest = ' ' :: ((literal indent value).toList ++ (closing value.toList ++ tail)))
    (safe : isLiteralSafe value.toList) (filled : value.toList ≠ []) (positive : 0 < s.margin)
    (stated : indent = s.margin - 1 + indentStep) (inside : s.margin ≤ s.mark.column)
    (resumes : Resumes tail) (outside : indentOf tail < indent) :
    ∃ t, Takes (.scalar value .literal) tail s t := by
  have begins : (literal indent value).toList ++ (closing value.toList ++ tail) =
      '|' :: ((literal indent value).toList.drop 1 ++ (closing value.toList ++ tail)) := by
    rw [toList_literal, literalHeader_eq]
    rfl
  let u : Layout := { s with
    cursor := ⟨(literal indent value).toList ++ (closing value.toList ++ tail), s.mark.next⟩ }
  have comes : s.Comes u := by
    rw [begins] at text
    have here := steady.comes_value text ⟨rfl, rfl, by decide, by decide⟩ (head_le_of_margin inside)
    rwa [← begins] at here
  have steady' : u.Steady := steady.moved _ s.indents s.keyAllowed
  obtain ⟨stop, scan, column⟩ := @scanBlock_literal indent u.mark tail u.margin value safe filled
    positive stated resumes outside
  have push := pushNext_of_bar comes steady.flow begins
  rw [steady'.pushBlockScalar_of_scan scan] at push
  refine ⟨_, steady.takes push ?_ (atLine_here resumes rfl column rfl)⟩
  rw [text]
  have shorter := length_unindented tail
  simp
  omega

/-! ## The end -/

/-- At the end of the text all blocks end. -/
theorem Steady.pushNext_end (steady : s.Steady) (line : s.AtLine []) :
    ∃ t, s.pushNext = .ok t ∧ t.dropStale = .ok t ∧ t.ended = true ∧
      t.kinds = s.kinds ++ List.replicate s.indents.length .blockEnd ++ [.textEnd] := by
  obtain ⟨m, column, skips⟩ := line.skips
  let u : Layout := { s with cursor := ⟨[], m⟩, keyAllowed := true }
  have steady' : u.Steady := steady.moved _ s.indents true
  let left := endedBlocks m.column s.indents
  have fewer : left ≤ s.indents.length := (List.takeWhile_sublist _).length_le
  have first : Closes left u u.closeLeft := by
    rw [Layout.closeLeft, if_neg (by simp [u, inFlow, steady.flow])]
    exact steady'.closeBlocks left
  have ready : (s.skipToToken (s.cursor.rest.length + 1)).dropStale = .ok u := by
    rw [skips]
    exact steady'.dropStale
  have push := pushNext_of_nil ⟨u, ready, rfl⟩ (congrArg Cursor.rest first.cursor)
  have newLine : u.closeLeft.forceNewLine = u.closeLeft := by
    have start : u.closeLeft.mark.column = 0 := by
      rw [mark, first.cursor]
      exact column
    rw [forceNewLine, if_pos (by simp [start])]
  have second : Closes (s.indents.length - left) u.closeLeft u.closeLeft.closeAll := by
    have remaining : u.closeLeft.indents.length = s.indents.length - left := by
      rw [first.indents, List.length_drop]
    rw [closeAll, if_neg (by simp [inFlow, first.steady.flow]), remaining]
    exact first.steady.closeBlocks _
  let w := u.closeLeft.closeAll
  let t : Layout := { w.push .textEnd w.mark w.mark with keyAllowed := false, ended := true }
  have pushed : u.closeLeft.pushEnd = .ok t := by
    rw [pushEnd, newLine, second.steady.dropCandidate]
    rfl
  refine ⟨t, push.trans pushed, dropStale_of_fresh second.steady.flow ?_, rfl, ?_⟩
  · have free : t.candidate = none := second.steady.free
    rw [free]
    rfl
  · have last : t.kinds = w.kinds ++ [.textEnd] := second.steady.kinds_push .textEnd w.mark w.mark
    have all : List.replicate left TokenKind.blockEnd ++
        List.replicate (s.indents.length - left) .blockEnd =
          List.replicate s.indents.length .blockEnd := by
      rw [List.replicate_append_replicate]
      congr 1
      omega
    rw [last, second.kinds, first.kinds, List.append_assoc u.kinds, all]
    rfl

end DeviceAdmission.Yaml.Layout
