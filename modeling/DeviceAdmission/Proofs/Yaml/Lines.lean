import DeviceAdmission.Proofs.Yaml.Literal
import DeviceAdmission.Yaml.Token.Layout

/-!
# Where the next token begins

Between two tokens the scanner passes blanks and line breaks, and ends the blocks that lie further in
than where it stands. What it does next depends on the character there.

* `Steady` is what every step but the one at a key leaves: no brackets, no candidate, and every found
  key among the tokens so far.
* `Steady.kinds_push` and `Steady.kinds_key` say what tokens and found keys do to the row of tokens
  (`Layout.kinds`).
* `pushNext_of_isPlainSafe`, `pushNext_of_colon`, `pushNext_of_quoted`, `pushNext_of_bar`,
  `pushNext_of_nil` say what kind of token comes.
-/
namespace DeviceAdmission.Yaml.Layout

variable {s t : Layout} {tail rest : List Char} {m : Mark} {c : Char}

/-! ## The row of tokens -/

/-- The kinds of the tokens so far. -/
def kinds (s : Layout) : List TokenKind := (s.resolved s.count).map (·.kind)

/-- No brackets are open, nothing is held back, and every found key is among the tokens. -/
structure Steady (s : Layout) : Prop where
  flow : s.outer = []
  free : s.candidate = none
  running : s.ended = false
  counted : s.tokens.length = s.count
  numbered : ∀ k ∈ s.found, k.number < s.count

/-- What a token stands for, with the key that it may be. -/
def expand (found : List FoundKey) (entry : Token × Nat) : List TokenKind :=
  match found.find? (·.number == entry.2) with
  | none => [entry.1.kind]
  | some k => (if k.opens then [.blockMappingStart] else []) ++ [.key, entry.1.kind]

theorem kinds_eq (counted : s.tokens.length = s.count) :
    s.kinds = s.tokens.reverse.zipIdx.flatMap (expand s.found) := by
  rw [kinds, resolved, List.take_of_length_le (by simp [counted]), List.map_flatten, List.map_map,
    ← List.flatMap_def]
  congr 1
  funext ⟨token, number⟩
  simp only [Function.comp_apply, expand]
  cases s.found.find? (·.number == number) with
  | none => rfl
  | some k =>
    obtain ⟨_, _, opens⟩ := k
    cases opens <;> rfl

theorem Steady.kinds_push (steady : s.Steady) (kind : TokenKind) (start stop : Mark) :
    (s.push kind start stop).kinds = s.kinds ++ [kind] := by
  have fresh : s.found.find? (·.number == s.count) = none := by
    rw [List.find?_eq_none]
    intro k member
    have bound := steady.numbered k member
    simp
    omega
  have counted : (s.push kind start stop).tokens.length = (s.push kind start stop).count := by
    simp [Layout.push, steady.counted]
  rw [kinds_eq counted, kinds_eq steady.counted, Layout.push, List.reverse_cons, List.zipIdx_append,
    List.flatMap_append]
  simp [expand, steady.counted, fresh]

theorem Steady.push (steady : s.Steady) (kind : TokenKind) (start stop : Mark) :
    (s.push kind start stop).Steady where
  flow := steady.flow
  free := steady.free
  running := steady.running
  counted := by simp [Layout.push, steady.counted]
  numbered k member := Nat.lt_succ_of_lt (steady.numbered k member)

/-- Neither the place nor the blocks matter. -/
theorem Steady.moved (steady : s.Steady) (cursor : Cursor) (indents : List Nat) (allowed : Bool) :
    Steady { s with cursor := cursor, indents := indents, keyAllowed := allowed } :=
  ⟨steady.flow, steady.free, steady.running, steady.counted, steady.numbered⟩

/-- A key found at the last token. -/
theorem Steady.kinds_key (steady : s.Steady) (word : Token) (place : Mark) (opens : Bool)
    (same : t.tokens = word :: s.tokens) (count : t.count = s.count + 1)
    (found : t.found = ⟨s.count, place, opens⟩ :: s.found) :
    t.kinds = s.kinds ++ ((if opens then [.blockMappingStart] else []) ++ [.key, word.kind]) := by
  have counted : t.tokens.length = t.count := by simp [same, count, steady.counted]
  have earlier : ∀ entry ∈ s.tokens.reverse.zipIdx, expand t.found entry = expand s.found entry := by
    intro entry member
    have bound := List.snd_lt_of_mem_zipIdx member
    have other : (s.count == entry.2) = false := by
      rw [beq_eq_false_iff_ne, ← steady.counted]
      simp at bound
      omega
    rw [expand, expand, found, List.find?_cons_of_neg (by simp [other])]
  have front : s.tokens.reverse.zipIdx.flatMap (expand t.found) =
      s.tokens.reverse.zipIdx.flatMap (expand s.found) := by
    rw [List.flatMap_def, List.map_congr_left earlier, ← List.flatMap_def]
  rw [kinds_eq counted, kinds_eq steady.counted, same, List.reverse_cons, List.zipIdx_append,
    List.flatMap_append, front]
  simp [expand, found, steady.counted]

/-! ## Blanks and lines -/

/-- A token can begin with the character. -/
structure BeginsToken (c : Char) : Prop where
  blank : isBlank c = false
  stays : isBreak c = false
  comment : c ≠ '#'
  order : c ≠ '\ufeff'

theorem beginsToken_of_isNameLetter (letter : isNameLetter c) : BeginsToken c where
  blank := isBlank_of_isNameLetter letter
  stays := isBreak_of_isNameLetter letter
  comment := ne_of_isNameLetter rfl letter
  order := ne_of_isNameLetter rfl letter

theorem beginsToken_of_resumes (resumes : Resumes tail) :
    ∀ c ∈ (unindented tail).head?, BeginsToken c :=
  fun c member => beginsToken_of_isNameLetter (resumes c member)

theorem skipToToken_blanks (fuel n : Nat) (text : s.cursor.rest = List.replicate n ' ' ++ rest)
    (begins : ∀ c ∈ rest.head?, BeginsToken c) :
    s.skipToToken (fuel + 1) = { s with cursor := ⟨rest, s.mark.advance n⟩ } := by
  have start : (if s.mark.column == 0 && s.cursor.head? == some '\ufeff' then s.cursor.skip 1
      else s.cursor) = s.cursor := by
    rw [if_neg]
    intro both
    have order : s.cursor.rest.head? = some '\ufeff' := eq_of_beq (Bool.and_eq_true_iff.1 both).2
    rw [text] at order
    cases n with
    | zero => exact (begins _ order).order rfl
    | succ n => cases order
  have passed (p : Char → Bool) (space : p ' ' = true) (others : ∀ c, isBlank c = false → p c = false) :
      s.cursor.skipWhile p = ⟨rest, s.mark.advance n⟩ := by
    have taken : s.cursor.rest.takeWhile p = List.replicate n ' ' := by
      rw [text, List.takeWhile_append_of_pos fun c member => by
        rw [List.eq_of_mem_replicate member, space]]
      cases rest with
      | nil => simp
      | cons c rest => rw [List.takeWhile_cons_of_neg (by simp [others c (begins c rfl).blank])]; simp
    rw [Cursor.skipWhile, taken, Cursor.skip, text]
    simp [mark]
  have comment : (⟨rest, s.mark.advance n⟩ : Cursor).skipComment = ⟨rest, s.mark.advance n⟩ := by
    rw [Cursor.skipComment, if_neg]
    intro hash
    exact (begins '#' (by simpa [Cursor.head?] using hash)).comment rfl
  have goesOn : (⟨rest, s.mark.advance n⟩ : Cursor).head?.any isBreak = false := by
    cases rest with
    | nil => rfl
    | cons c rest => exact (begins c rfl).stays
  rw [skipToToken]
  simp only [start]
  rw [passed _ (by simp) (fun c blank => by simp [isBlank] at blank; simp [blank]), comment,
    if_neg (by simp [goesOn])]

/-- After a line feed a key may begin again. -/
theorem skipToToken_line (fuel : Nat) (flow : s.outer = []) (text : s.cursor.rest = '\n' :: tail)
    (resumes : Resumes tail) :
    s.skipToToken (fuel + 2) = { s with
      cursor := ⟨unindented tail, s.mark.nextLine.advance (indentOf tail)⟩, keyAllowed := true } := by
  have passed : s.skipToToken (fuel + 2) = skipToToken (fuel + 1)
      { s with cursor := ⟨tail, s.mark.nextLine⟩, keyAllowed := true } := by
    have whole : s.cursor = ⟨'\n' :: tail, s.mark⟩ := by rw [← text]; rfl
    have allowed : (s.keyAllowed || !s.inFlow) = true := by simp [inFlow, flow]
    rw [skipToToken]
    simp only [whole]
    simp [Cursor.skipWhile, Cursor.skip, Cursor.skipComment, Cursor.head?, Cursor.skipBreak, isBreak,
      startsPair, allowed, Mark.advance]
  rw [passed]
  exact skipToToken_blanks fuel (indentOf tail) (replicate_indentOf tail).symm
    (beginsToken_of_resumes resumes)

/-! ## Blocks that end -/

/-- The second state is the first after some blocks have ended. -/
structure Closes (n : Nat) (s t : Layout) : Prop where
  steady : t.Steady
  kinds : t.kinds = s.kinds ++ List.replicate n .blockEnd
  cursor : t.cursor = s.cursor
  indents : t.indents = s.indents.drop n
  keyAllowed : t.keyAllowed = s.keyAllowed

theorem Steady.closeBlocks (steady : s.Steady) (n : Nat) : Closes n s (s.closeBlocks n) := by
  induction n generalizing s with
  | zero => exact ⟨steady, by simp [Layout.closeBlocks], rfl, rfl, rfl⟩
  | succ n ih =>
    let t : Layout := { s.push .blockEnd s.mark s.mark with indents := s.indents.drop 1 }
    have steady' : t.Steady := (steady.push .blockEnd s.mark s.mark).moved s.cursor _ s.keyAllowed
    have one : t.kinds = s.kinds ++ [.blockEnd] := steady.kinds_push .blockEnd s.mark s.mark
    obtain ⟨steady'', kinds, cursor, indents, keyAllowed⟩ := ih steady'
    refine ⟨steady'', ?_, cursor, ?_, keyAllowed⟩
    · rw [Layout.closeBlocks, kinds, one, List.append_assoc, List.replicate_succ]
      rfl
    · rw [Layout.closeBlocks, indents, List.drop_drop, Nat.add_comm]

theorem endedBlocks_append {column : Nat} {inner columns : List Nat}
    (left : ∀ d ∈ inner, column < d) (inside : ∀ d ∈ columns.head?, d ≤ column) :
    endedBlocks column (inner ++ columns) = inner.length := by
  have taken : (inner ++ columns).takeWhile (column < ·) = inner := by
    rw [List.takeWhile_append_of_pos fun d member => by simpa using left d member]
    cases columns with
    | nil => simp
    | cons d columns => rw [List.takeWhile_cons_of_neg (by simpa using inside d rfl), List.append_nil]
  rw [endedBlocks, taken]

/-- The blocks that lie further in than the cursor end. -/
theorem Steady.closeLeft {inner columns : List Nat} (steady : s.Steady)
    (indents : s.indents = inner ++ columns) (left : ∀ d ∈ inner, s.mark.column < d)
    (inside : ∀ d ∈ columns.head?, d ≤ s.mark.column) : Closes inner.length s s.closeLeft := by
  have ended := endedBlocks_append left inside
  rw [Layout.closeLeft, if_neg (by simp [inFlow, steady.flow]), indents, ended]
  exact steady.closeBlocks inner.length

/-- Inside the innermost block nothing ends. -/
theorem closeLeft_eq (inside : ∀ d ∈ s.indents.head?, d ≤ s.mark.column) : s.closeLeft = s := by
  have none : endedBlocks s.mark.column s.indents = 0 :=
    @endedBlocks_append _ [] _ (fun _ member => by cases member) inside
  rw [Layout.closeLeft, none]
  split <;> rfl

/-! ## Where the next token begins -/

/-- The next token is the one at the cursor of the second state. -/
def Comes (s t : Layout) : Prop :=
  ∃ u, (s.skipToToken (s.cursor.rest.length + 1)).dropStale = .ok u ∧ u.closeLeft = t

/-- What a text that may be written plain begins with. -/
theorem beginsReserved_cases {cs : List Char} (free : beginsReserved (c :: cs) = false) :
    (∀ d, beginsIndicator d → (c == d) = false) ∧
      ((c == '?' || c == ':' || c == '-') = true → endsWord cs = false) := by
  simp only [beginsReserved, Bool.or_eq_false_iff] at free
  obtain ⟨⟨⟨plain, marks⟩, -⟩, -⟩ := free
  refine ⟨fun d indicator => ?_, fun mark => ?_⟩
  · rw [beq_eq_false_iff_ne]
    rintro rfl
    rw [indicator] at plain
    cases plain
  · rw [mark, Bool.true_and] at marks
    exact marks

theorem beginsPlain_of_isPlainSafe {cs after : List Char} (safe : isPlainSafe (c :: cs)) :
    beginsPlain false c (cs ++ after) := by
  obtain ⟨clean, whole, reserved, -, first, -⟩ := isPlainSafe_cases safe
  obtain ⟨other, marks⟩ := beginsReserved_cases reserved
  have goesOn (mark : (c == '?' || c == ':' || c == '-') = true) : endsWord (cs ++ after) = false :=
    endsWord_append (marks mark) after
  have blank : isBlank c = false :=
    isBlank_of_ne (clean c List.mem_cons_self) fun space => first (by rw [space]; rfl)
  rw [beginsPlain]
  split
  · rename_i dash
    have inner := goesOn (by simp [dash])
    cases text : cs ++ after with
    | nil => rfl
    | cons d rest =>
      rw [text] at inner
      simp only [endsWord, Bool.or_eq_false_iff] at inner
      simp [inner.1]
  · split
    · rename_i mark
      have inner := goesOn (by simp [mark])
      simp [inner]
    · have free : isReserved c = false := by
        rw [isReserved, List.contains_eq_any_beq, List.any_eq_false]
        intro d member
        have indicators : ",[]\x7b\x7d#&*!|>'\"%@`".toList.all beginsIndicator = true := by decide
        simp [other d (List.all_eq_true.1 indicators d member)]
      simp [blank, whole c List.mem_cons_self, free]

/-- A plain scalar begins here. -/
theorem pushNext_of_isPlainSafe {cs after : List Char} (comes : s.Comes t) (flow : t.outer = [])
    (text : t.cursor.rest = cs ++ after) (safe : isPlainSafe cs) (filled : cs ≠ [])
    (indicator : (t.mark.column == 0 && isDocumentIndicator t.cursor.rest) = false) :
    s.pushNext = t.pushPlain := by
  obtain ⟨u, ready, rfl⟩ := comes
  cases cs with
  | nil => exact absurd rfl filled
  | cons c cs =>
    obtain ⟨-, -, reserved, -⟩ := isPlainSafe_cases safe
    obtain ⟨other, marks⟩ := beginsReserved_cases reserved
    have goesOn (d : Char) (mark : (d == '?' || d == ':' || d == '-') = true) :
        (c == d && endsWord (cs ++ after)) = false := by
      rw [Bool.and_eq_false_iff]
      by_cases same : c = d
      · rw [← same] at mark
        exact .inr (endsWord_append (marks mark) after)
      · exact .inl (beq_eq_false_iff_ne.2 same)
    have inline : u.closeLeft.inFlow = false := by simp [inFlow, flow]
    rw [text] at indicator
    rw [pushNext, ready]
    simp only [bind, Except.bind, text, List.cons_append, inline, Bool.false_or]
    rw [if_neg (by simp [other '%' rfl]), if_neg (by simpa using indicator),
      if_neg (by simp [other '[' rfl]), if_neg (by simp [other '\x7b' rfl]),
      if_neg (by simp [other ']' rfl]), if_neg (by simp [other '\x7d' rfl]),
      if_neg (by simp [other ',' rfl]), if_neg (by simp [goesOn '-' rfl]),
      if_neg (by simp [goesOn '?' rfl]), if_neg (by simp [goesOn ':' rfl]),
      if_neg (by simp [other '*' rfl]), if_neg (by simp [other '&' rfl]),
      if_neg (by simp [other '!' rfl]), if_neg (by simp [other '|' rfl]),
      if_neg (by simp [other '>' rfl]), if_neg (by simp [other '\'' rfl]),
      if_neg (by simp [other '"' rfl]), if_pos (beginsPlain_of_isPlainSafe safe)]

theorem pushNext_of_colon (comes : s.Comes t) (text : t.cursor.rest = ':' :: rest)
    (ended : endsWord rest) : s.pushNext = t.pushValue := by
  obtain ⟨u, ready, rfl⟩ := comes
  have content : isDocumentIndicator (':' :: rest) = false :=
    isDocumentIndicator_of_ne (by decide) (by decide)
  rw [pushNext, ready]
  simp [bind, Except.bind, text, content, ended]

/-- The mark that a quoted scalar begins with. -/
def quoteOf (style : Style) : Char := if style == .singleQuoted then '\'' else '"'

theorem pushNext_of_quoted {style : Style} (quoted : style = .singleQuoted ∨ style = .doubleQuoted)
    (comes : s.Comes t) (text : t.cursor.rest = quoteOf style :: rest) :
    s.pushNext = t.pushQuoted style := by
  obtain ⟨u, ready, rfl⟩ := comes
  have content : isDocumentIndicator (quoteOf style :: rest) = false := by
    rcases quoted with rfl | rfl <;> exact isDocumentIndicator_of_ne (by decide) (by decide)
  rw [pushNext, ready]
  rcases quoted with rfl | rfl <;> simp [bind, Except.bind, text, content] <;> simp [quoteOf]

theorem pushNext_of_bar (comes : s.Comes t) (flow : t.outer = []) (text : t.cursor.rest = '|' :: rest) :
    s.pushNext = t.pushBlockScalar .literal := by
  obtain ⟨u, ready, rfl⟩ := comes
  have content : isDocumentIndicator ('|' :: rest) = false :=
    isDocumentIndicator_of_ne (by decide) (by decide)
  have inline : u.closeLeft.inFlow = false := by simp [inFlow, flow]
  rw [pushNext, ready]
  simp [bind, Except.bind, text, content, inline]

theorem pushNext_of_nil (comes : s.Comes t) (text : t.cursor.rest = []) : s.pushNext = t.pushEnd := by
  obtain ⟨u, ready, rfl⟩ := comes
  rw [pushNext, ready]
  simp only [bind, Except.bind, text]

/-! ## Beginning a line -/

/-- The next token begins the first line of a text, where a key may stand. -/
structure AtLine (s : Layout) (tail : List Char) : Prop where
  resumes : Resumes tail
  skips : ∃ m : Mark, m.column = indentOf tail ∧ s.skipToToken (s.cursor.rest.length + 1) =
    { s with cursor := ⟨unindented tail, m⟩, keyAllowed := true }
  shorter : (unindented tail).length ≤ s.cursor.rest.length

theorem atLine_here (resumes : Resumes tail) (cursor : s.cursor = ⟨unindented tail, m⟩)
    (column : m.column = indentOf tail) (allowed : s.keyAllowed = true) : s.AtLine tail where
  resumes := resumes
  skips := by
    refine ⟨m, column, ?_⟩
    have text : s.cursor.rest = List.replicate 0 ' ' ++ unindented tail := by rw [cursor]; rfl
    rw [skipToToken_blanks s.cursor.rest.length 0 text (beginsToken_of_resumes resumes), mark, cursor,
      ← allowed]
    rfl
  shorter := Nat.le_of_eq (by rw [cursor])

theorem length_unindented (tail : List Char) : (unindented tail).length ≤ tail.length :=
  (List.dropWhile_sublist _).length_le

theorem atLine_lineFeed (flow : s.outer = []) (text : s.cursor.rest = '\n' :: tail)
    (resumes : Resumes tail) : s.AtLine tail where
  resumes := resumes
  skips := by
    refine ⟨s.mark.nextLine.advance (indentOf tail), by simp, ?_⟩
    rw [text]
    exact skipToToken_line tail.length flow text resumes
  shorter := by
    rw [text]
    exact Nat.le_succ_of_le (length_unindented tail)

end DeviceAdmission.Yaml.Layout
