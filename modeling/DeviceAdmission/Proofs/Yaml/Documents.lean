import DeviceAdmission.Proofs.Yaml.Tokens
import DeviceAdmission.Yaml.Document

/-!
# The document of a written mapping

The tokens of a mapping become events, the events become parts, and the parts form a tree. Each stage
reads a row that the one before has written, and each is an induction on the mapping.

* `Block.node_of_kinds`, `members_of_kinds`: the grammar, one event a step.
* `gather_of_events`: the parts.
* `Block.tree_of_parts`, `entries_of_parts`: the tree, which holds the mapping (`Block.Holds`).
* `ofText_holds`: a written mapping is read as a document of its own.
-/
namespace DeviceAdmission.Yaml

/-! ## Rows -/

mutual

/-- The parts of a value. -/
def Block.parts : Block → List PartKind
  | .word s => [.scalar none s .plain]
  | .text s => [.scalar none s (styleOf s)]
  | .mapping members => .mappingStart none :: (memberParts members ++ [.mappingEnd])

def memberParts : List (String × Block) → List PartKind
  | [] => []
  | (key, value) :: rest => .scalar none key .plain :: (value.parts ++ memberParts rest)

end

mutual

/-- The events of a value. -/
def Block.events : Block → List EventKind
  | .word s => [.scalar none none s .plain]
  | .text s => [.scalar none none s (styleOf s)]
  | .mapping members => .mappingStart none none :: (memberEvents members ++ [.mappingEnd])

def memberEvents : List (String × Block) → List EventKind
  | [] => []
  | (key, value) :: rest => .scalar none none key .plain :: (value.events ++ memberEvents rest)

end

mutual

theorem Block.length_events : (b : Block) → b.events.length ≤ b.kinds.length
  | .word _ => Nat.le_refl _
  | .text _ => Nat.le_refl _
  | .mapping members => by
    have inner := length_memberEvents members
    simp [Block.events, Block.kinds]
    omega

theorem length_memberEvents :
    (members : List (String × Block)) → (memberEvents members).length ≤ (memberKinds members).length
  | [] => Nat.le_refl _
  | (key, value) :: rest => by
    have here := value.length_events
    have later := length_memberEvents rest
    simp [memberEvents, memberKinds]
    omega

end

/-! ## Events -/

namespace Grammar

/-- Steps that give some events, the end of the text not among them. -/
inductive Gives : Grammar → List Event → Grammar → Prop
  | here (g : Grammar) : Gives g [] g
  | step {g h i : Grammar} {event : Event} {events : List Event} (one : g.step = .ok (event, h))
      (goesOn : event.kind ≠ .textEnd) (rest : Gives h events i) : Gives g (event :: events) i

theorem Gives.trans {g h i : Grammar} {es fs : List Event} (first : Gives g es h)
    (second : Gives h fs i) : Gives g (es ++ fs) i := by
  induction first with
  | here => exact second
  | step one goesOn _ ih => exact .step one goesOn (ih second)

theorem run_of_gives {g h : Grammar} {es : List Event} (gives : Gives g es h) (cut : Option Fault)
    (fuel : Nat) : run cut (es.length + fuel) g =
      ⟨es ++ (run cut fuel h).events, (run cut fuel h).fault⟩ := by
  induction gives with
  | here => simp
  | @step g h _ event es one goesOn _ ih =>
    have more : (event :: es).length + fuel = es.length + fuel + 1 := by simp; omega
    rw [more, run, one]
    simp [goesOn, ih]

variable {token key name : Token} {more : List Token} {expects goal : Expectation}
  {later : List Expectation} {mark : Mark} {began : List Mark} {handles : List Handle} {text : String}
  {style : Style} {inlined : Bool}

theorem node_scalar (kind : token.kind = .scalar text style) :
    node true inlined ⟨token :: more, expects, goal :: later, began, handles⟩ =
      .ok (⟨.scalar none none text style, token.start⟩, ⟨more, goal, later, began, handles⟩) := by
  simp [node, peek, properties, kind, leave, pass, bind, Except.bind, pure, Except.pure]

theorem node_mapping (kind : token.kind = .blockMappingStart) :
    node true inlined ⟨token :: more, expects, later, began, handles⟩ =
      .ok (⟨.mappingStart none none, token.start⟩,
        ⟨token :: more, .blockKey true, later, began, handles⟩) := by
  simp [node, peek, properties, kind, bind, Except.bind, pure, Except.pure]

/-- The first key comes after the start of the mapping. -/
theorem step_mapping :
    step ⟨token :: more, .blockKey true, later, began, handles⟩ =
      blockKey false ⟨more, .blockKey true, later, token.start :: began, handles⟩ := by
  simp [step, blockKey, peek, enter, pass, bind, Except.bind, pure, Except.pure]

theorem blockKey_end (kind : token.kind = .blockEnd) :
    blockKey false ⟨token :: more, expects, goal :: later, mark :: began, handles⟩ =
      .ok (⟨.mappingEnd, token.start⟩, ⟨more, goal, later, began, handles⟩) := by
  simp [blockKey, peek, kind, close, leave, pass, bind, Except.bind, pure, Except.pure]

theorem blockKey_name (kind : key.kind = .key) (word : name.kind = .scalar text style) :
    blockKey false ⟨key :: name :: more, expects, later, began, handles⟩ =
      .ok (⟨.scalar none none text style, name.start⟩,
        ⟨more, .blockValue, later, began, handles⟩) := by
  have read : nodeThen .blockValue true true ⟨name :: more, expects, later, began, handles⟩ =
      .ok (⟨.scalar none none text style, name.start⟩,
        ⟨more, .blockValue, later, began, handles⟩) := node_scalar word
  simp [blockKey, peek, kind, word, pass, bind, Except.bind, pure, Except.pure, read]

/-- A step gives the first of some events, and further steps give the others. -/
def Yields (first : Except Halt (Event × Grammar)) (kinds : List EventKind) (h : Grammar) : Prop :=
  ∃ event events g, first = .ok (event, g) ∧ event.kind ≠ .textEnd ∧ Gives g events h ∧
    (event :: events).map (·.kind) = kinds

theorem Yields.gives {g h : Grammar} {kinds : List EventKind} (yields : Yields g.step kinds h) :
    ∃ events, Gives g events h ∧ events.map (·.kind) = kinds := by
  obtain ⟨event, events, i, one, goesOn, rest, same⟩ := yields
  exact ⟨event :: events, .step one goesOn rest, same⟩

/-- The first token of a value. -/
def BeginsNode (kind : TokenKind) : Prop :=
  (∃ text style, kind = .scalar text style) ∨ kind = .blockMappingStart

theorem step_value (kind : key.kind = .value) (begins : BeginsNode token.kind) :
    step ⟨key :: token :: more, .blockValue, later, began, handles⟩ =
      node true true ⟨token :: more, .blockValue, .blockKey false :: later, began, handles⟩ := by
  have read : nodeThen (.blockKey false) true true ⟨token :: more, .blockValue, later, began, handles⟩ =
      node true true ⟨token :: more, .blockValue, .blockKey false :: later, began, handles⟩ := rfl
  rcases begins with ⟨text, style, first⟩ | first <;>
    simp [step, blockValue, peek, kind, first, pass, bind, Except.bind, read]

end Grammar

/-- The first token of a block. -/
theorem Block.begins (b : Block) : ∃ kind rest, b.kinds = kind :: rest ∧ Grammar.BeginsNode kind := by
  cases b with
  | word s => exact ⟨_, _, rfl, .inl ⟨_, _, rfl⟩⟩
  | text s => exact ⟨_, _, rfl, .inl ⟨_, _, rfl⟩⟩
  | mapping members => exact ⟨_, _, rfl, .inr rfl⟩

open Grammar

mutual

/-- The tokens of a value are read as its events. -/
theorem Block.node_of_kinds : (b : Block) → ∀ {tokens more : List Token} {expects goal : Expectation}
    {later : List Expectation} {began : List Mark} {handles : List Handle} {inlined : Bool},
    tokens.map (·.kind) = b.kinds →
    Yields (node true inlined ⟨tokens ++ more, expects, goal :: later, began, handles⟩) b.events
      ⟨more, goal, later, began, handles⟩
  | .word s, tokens, more, expects, goal, later, began, handles, inlined, kinds => by
    obtain ⟨token, rest, rfl, kind, ended⟩ := List.map_eq_cons_iff.1 kinds
    obtain rfl := List.map_eq_nil_iff.1 ended
    exact ⟨_, [], _, node_scalar kind, by simp, .here _, rfl⟩
  | .text s, tokens, more, expects, goal, later, began, handles, inlined, kinds => by
    obtain ⟨token, rest, rfl, kind, ended⟩ := List.map_eq_cons_iff.1 kinds
    obtain rfl := List.map_eq_nil_iff.1 ended
    exact ⟨_, [], _, node_scalar kind, by simp, .here _, rfl⟩
  | .mapping members, tokens, more, expects, goal, later, began, handles, inlined, kinds => by
    obtain ⟨start, rest, rfl, kind, kinds⟩ := List.map_eq_cons_iff.1 kinds
    obtain ⟨inner, ends, rfl, middle, last⟩ := List.map_eq_append_iff.1 kinds
    obtain ⟨stop, nothing, rfl, ends, ended⟩ := List.map_eq_cons_iff.1 last
    obtain rfl := List.map_eq_nil_iff.1 ended
    have row : start :: (inner ++ [stop]) ++ more = start :: (inner ++ stop :: more) := by simp
    obtain ⟨events, gives, same⟩ : ∃ events,
        Gives ⟨start :: (inner ++ stop :: more), .blockKey true, goal :: later, began, handles⟩ events
          ⟨more, goal, later, began, handles⟩ ∧
        events.map (·.kind) = memberEvents members ++ [.mappingEnd] := by
      refine Yields.gives ?_
      rw [step_mapping]
      exact members_of_kinds members middle ends
    rw [row]
    exact ⟨_, events, _, node_mapping kind, by simp, gives, by rw [Block.events, List.map_cons, same]⟩

/-- The tokens of the members of a mapping, and of its end. -/
theorem members_of_kinds : (members : List (String × Block)) → ∀ {tokens more : List Token}
    {last : Token} {expects goal : Expectation} {later : List Expectation} {mark : Mark}
    {began : List Mark} {handles : List Handle},
    tokens.map (·.kind) = memberKinds members → last.kind = .blockEnd →
    Yields (blockKey false
        ⟨tokens ++ last :: more, expects, goal :: later, mark :: began, handles⟩)
      (memberEvents members ++ [.mappingEnd]) ⟨more, goal, later, began, handles⟩
  | [], tokens, more, last, expects, goal, later, mark, began, handles, kinds, ends => by
    obtain rfl := List.map_eq_nil_iff.1 kinds
    exact ⟨_, [], _, blockKey_end ends, by simp, .here _, rfl⟩
  | (key, value) :: rest, tokens, more, last, expects, goal, later, mark, began, handles, kinds,
      ends => by
    simp only [memberKinds, List.cons_append, List.nil_append] at kinds
    obtain ⟨key', tokens, rfl, first, kinds⟩ := List.map_eq_cons_iff.1 kinds
    obtain ⟨name, tokens, rfl, second, kinds⟩ := List.map_eq_cons_iff.1 kinds
    obtain ⟨colon, tokens, rfl, third, kinds⟩ := List.map_eq_cons_iff.1 kinds
    obtain ⟨mine, others, rfl, here, there⟩ := List.map_eq_append_iff.1 kinds
    have row : key' :: name :: colon :: (mine ++ others) ++ last :: more =
        key' :: name :: colon :: (mine ++ (others ++ last :: more)) := by simp
    obtain ⟨es, gives, same⟩ : ∃ es,
        Gives ⟨colon :: (mine ++ (others ++ last :: more)), .blockValue, goal :: later, mark :: began,
          handles⟩ es ⟨others ++ last :: more, .blockKey false, goal :: later, mark :: began, handles⟩ ∧
        es.map (·.kind) = value.events := by
      refine Yields.gives ?_
      have read := @Block.node_of_kinds value mine (others ++ last :: more) .blockValue
        (.blockKey false) (goal :: later) (mark :: began) handles true here
      obtain ⟨kind, kinds', begins, node⟩ := value.begins
      rw [begins] at here
      obtain ⟨token, mine, rfl, kind', -⟩ := List.map_eq_cons_iff.1 here
      rw [List.cons_append, step_value third (kind' ▸ node)]
      exact read
    obtain ⟨fs, gives', same'⟩ : ∃ fs,
        Gives ⟨others ++ last :: more, .blockKey false, goal :: later, mark :: began, handles⟩ fs
          ⟨more, goal, later, began, handles⟩ ∧
        fs.map (·.kind) = memberEvents rest ++ [.mappingEnd] := by
      refine Yields.gives ?_
      exact members_of_kinds rest there ends
    rw [row]
    exact ⟨_, es ++ fs, _, blockKey_name first second, by simp, gives.trans gives',
      by simp [memberEvents, same, same']⟩

end

namespace Grammar

variable {start stop : Token} {more : List Token} {handles : List Handle}

/-- The handles of a document without directives. -/
def initialHandles : List Handle := standardHandles.foldl addHandle []

theorem step_documentStart (kind : start.kind = .blockMappingStart) :
    step { tokens := start :: more } = .ok (⟨.documentStart, start.start⟩,
      ⟨start :: more, .blockNode, [.documentEnd], [], initialHandles⟩) := by
  simp [step, document, peek, kind, directives, bind, Except.bind, pure, Except.pure]
  rfl

theorem step_documentEnd (kind : stop.kind = .textEnd) :
    step ⟨[stop], .documentEnd, [], [], handles⟩ =
      .ok (⟨.documentEnd, stop.start⟩, { tokens := [stop], expects := .document false }) := by
  simp [step, endDocument, peek, kind, bind, Except.bind, pure, Except.pure]

theorem run_textEnd (kind : stop.kind = .textEnd) (cut : Option Fault) (fuel : Nat) :
    run cut (fuel + 1) { tokens := [stop], expects := .document false } =
      ⟨[⟨.textEnd, stop.start⟩], none⟩ := by
  simp [run, step, document, passDocumentEnds, peek, kind, bind, Except.bind, pure, Except.pure]

end Grammar

/-- The events of a document that is a mapping. -/
theorem run_of_kinds {members : List (String × Block)} {tokens : List Token}
    (kinds : tokens.map (·.kind) = (Block.mapping members).kinds ++ [.textEnd]) :
    ∃ first inner last stop, Grammar.run none (4 * tokens.length + 4) { tokens := tokens } =
        ⟨⟨.documentStart, first⟩ :: (inner ++ [⟨.documentEnd, last⟩, ⟨.textEnd, stop⟩]), none⟩ ∧
      inner.map (·.kind) = (Block.mapping members).events := by
  have enough := (Block.mapping members).length_events
  have length : tokens.length = (Block.mapping members).kinds.length + 1 := by
    simpa using congrArg List.length kinds
  obtain ⟨content, ends, rfl, body, last⟩ := List.map_eq_append_iff.1 kinds
  obtain ⟨stop, nothing, rfl, stopKind, ended⟩ := List.map_eq_cons_iff.1 last
  obtain rfl := List.map_eq_nil_iff.1 ended
  obtain ⟨inner, gives, same⟩ : ∃ inner,
      Gives ⟨content ++ [stop], .blockNode, [.documentEnd], [], initialHandles⟩ inner
        ⟨[stop], .documentEnd, [], [], initialHandles⟩ ∧
      inner.map (·.kind) = (Block.mapping members).events := by
    refine Yields.gives ?_
    exact (Block.mapping members).node_of_kinds body
  obtain ⟨start, rest, rfl, startKind, -⟩ := List.map_eq_cons_iff.1 body
  have all : Gives { tokens := start :: rest ++ [stop] }
      (⟨.documentStart, start.start⟩ :: (inner ++ [⟨.documentEnd, stop.start⟩]))
      { tokens := [stop], expects := .document false } :=
    .step (step_documentStart startKind) (by simp)
      (gives.trans (.step (step_documentEnd stopKind) (by simp) (.here _)))
  have count : inner.length = (Block.mapping members).events.length := by
    simpa using congrArg List.length same
  obtain ⟨fuel, total⟩ : ∃ fuel, 4 * (start :: rest ++ [stop]).length + 4 =
      (⟨.documentStart, start.start⟩ :: (inner ++ [⟨.documentEnd, stop.start⟩]) :
        List Event).length + (fuel + 1) := by
    refine ⟨4 * (start :: rest ++ [stop]).length + 4 - (inner.length + 2) - 1, ?_⟩
    simp at length ⊢
    omega
  refine ⟨start.start, inner, stop.start, stop.start, ?_, same⟩
  rw [total, run_of_gives all, run_textEnd stopKind]
  simp

/-! ## Parts -/

/-- Some events become parts of some kinds, whatever surrounds them. -/
def Gathers (events : List Event) (kinds : List PartKind) : Prop :=
  ∀ (rest : List Event) (acc : List Part) (index : Nat), ∃ (parts : List Part) (next : Nat),
    Document.gather none (events ++ rest) index {} acc =
        Document.gather none rest next {} (parts.reverse ++ acc) ∧
      parts.map (·.kind) = kinds

theorem Gathers.append {es fs : List Event} {ks ls : List PartKind} (first : Gathers es ks)
    (second : Gathers fs ls) : Gathers (es ++ fs) (ks ++ ls) := by
  intro rest acc index
  obtain ⟨ps, next, gathered, same⟩ := first (fs ++ rest) acc index
  obtain ⟨qs, last, gathered', same'⟩ := second rest (ps.reverse ++ acc) next
  refine ⟨ps ++ qs, last, ?_, by rw [List.map_append, same, same']⟩
  rw [List.append_assoc, gathered, gathered', List.reverse_append, List.append_assoc]

theorem gathers_scalar (text : String) (style : Style) (mark : Mark) :
    Gathers [⟨.scalar none none text style, mark⟩] [.scalar none text style] :=
  fun _ _ index => ⟨[⟨.scalar none text style, mark⟩], index + 1, rfl, rfl⟩

theorem gathers_start (mark : Mark) : Gathers [⟨.mappingStart none none, mark⟩] [.mappingStart none] :=
  fun _ _ index => ⟨[⟨.mappingStart none, mark⟩], index + 1, rfl, rfl⟩

theorem gathers_end (mark : Mark) : Gathers [⟨.mappingEnd, mark⟩] [.mappingEnd] :=
  fun _ _ index => ⟨[⟨.mappingEnd, mark⟩], index + 1, rfl, rfl⟩

mutual

/-- The events of a value become its parts. -/
theorem Block.gathers : (b : Block) → ∀ {events : List Event}, events.map (·.kind) = b.events →
    Gathers events b.parts
  | .word s, events, kinds => by
    obtain ⟨⟨kind, mark⟩, nothing, rfl, rfl, ended⟩ := List.map_eq_cons_iff.1 kinds
    obtain rfl := List.map_eq_nil_iff.1 ended
    exact gathers_scalar s .plain mark
  | .text s, events, kinds => by
    obtain ⟨⟨kind, mark⟩, nothing, rfl, rfl, ended⟩ := List.map_eq_cons_iff.1 kinds
    obtain rfl := List.map_eq_nil_iff.1 ended
    exact gathers_scalar s (styleOf s) mark
  | .mapping members, events, kinds => by
    obtain ⟨⟨kind, mark⟩, inner, rfl, rfl, body⟩ := List.map_eq_cons_iff.1 kinds
    obtain ⟨content, ends, rfl, middle, last⟩ := List.map_eq_append_iff.1 body
    obtain ⟨⟨kind, mark'⟩, nothing, rfl, rfl, ended⟩ := List.map_eq_cons_iff.1 last
    obtain rfl := List.map_eq_nil_iff.1 ended
    exact (gathers_start mark).append ((gathers_members members middle).append (gathers_end mark'))

theorem gathers_members : (members : List (String × Block)) → ∀ {events : List Event},
    events.map (·.kind) = memberEvents members → Gathers events (memberParts members)
  | [], events, kinds => by
    obtain rfl := List.map_eq_nil_iff.1 kinds
    exact fun _ _ index => ⟨[], index, rfl, rfl⟩
  | (key, value) :: others, events, kinds => by
    obtain ⟨⟨kind, mark⟩, inner, rfl, rfl, body⟩ := List.map_eq_cons_iff.1 kinds
    obtain ⟨mine, later, rfl, here, there⟩ := List.map_eq_append_iff.1 body
    exact (gathers_scalar key .plain mark).append
      ((value.gathers here).append (gathers_members others there))

end

/-- The parts of a document that is a mapping. -/
theorem gather_of_events {members : List (String × Block)} {inner : List Event}
    (kinds : inner.map (·.kind) = (Block.mapping members).events) (first last stop : Mark) :
    ∃ parts : List Part, Document.gather none
        (⟨.documentStart, first⟩ :: (inner ++ [⟨.documentEnd, last⟩, ⟨.textEnd, stop⟩])) 0 {} [] =
          ⟨parts, none, [], false⟩ ∧
      parts.map (·.kind) = (Block.mapping members).parts := by
  obtain ⟨parts, next, gathered, same⟩ := (Block.mapping members).gathers kinds
    [⟨.documentEnd, last⟩, ⟨.textEnd, stop⟩] [] 0
  refine ⟨parts, ?_, same⟩
  have opened : Document.gather none
      (⟨.documentStart, first⟩ :: (inner ++ [⟨.documentEnd, last⟩, ⟨.textEnd, stop⟩])) 0 {} [] =
      Document.gather none (inner ++ [⟨.documentEnd, last⟩, ⟨.textEnd, stop⟩]) 0 {} [] := rfl
  rw [opened, gathered]
  simp [Document.gather]

/-! ## Trees -/

mutual

/-- The node is the value as it is read. -/
def Block.Holds : Block → Node → Prop
  | .word s, node => ∃ mark, node = .scalar mark none s .plain
  | .text s, node => ∃ mark, node = .scalar mark none s (styleOf s)
  | .mapping members, node =>
    ∃ mark entries, node = .mapping mark none entries true ∧ MembersHold members entries

def MembersHold : List (String × Block) → List (Node × Node) → Prop
  | [], entries => entries = []
  | (key, value) :: rest, entries =>
    ∃ mark node later, entries = (.scalar mark none key .plain, node) :: later ∧
      value.Holds node ∧ MembersHold rest later

end

mutual

/-- The parts of a value form its node. -/
theorem Block.tree_of_parts : (b : Block) → ∀ {parts : List Part}, parts.map (·.kind) = b.parts →
    ∃ node, b.Holds node ∧ (∀ rest, Node.ofPartsIn [] (parts ++ rest) = node) ∧
      ∀ frame outer rest, Node.ofPartsIn (frame :: outer) (parts ++ rest) =
        Node.ofPartsIn (frame.add node :: outer) rest
  | .word s, parts, kinds => by
    obtain ⟨⟨kind, mark⟩, nothing, rfl, rfl, ended⟩ := List.map_eq_cons_iff.1 kinds
    obtain rfl := List.map_eq_nil_iff.1 ended
    exact ⟨_, ⟨mark, rfl⟩, fun _ => rfl, fun _ _ _ => rfl⟩
  | .text s, parts, kinds => by
    obtain ⟨⟨kind, mark⟩, nothing, rfl, rfl, ended⟩ := List.map_eq_cons_iff.1 kinds
    obtain rfl := List.map_eq_nil_iff.1 ended
    exact ⟨_, ⟨mark, rfl⟩, fun _ => rfl, fun _ _ _ => rfl⟩
  | .mapping members, parts, kinds => by
    obtain ⟨⟨kind, mark⟩, inner, rfl, rfl, body⟩ := List.map_eq_cons_iff.1 kinds
    obtain ⟨content, ends, rfl, middle, last⟩ := List.map_eq_append_iff.1 body
    obtain ⟨⟨kind, mark'⟩, nothing, rfl, rfl, ended⟩ := List.map_eq_cons_iff.1 last
    obtain rfl := List.map_eq_nil_iff.1 ended
    obtain ⟨entries, hold, formed⟩ := entries_of_parts members middle
    have opened : ∀ frames rest, Node.ofPartsIn frames
        ((⟨.mappingStart none, mark⟩ :: (content ++ [⟨.mappingEnd, mark'⟩])) ++ rest) =
          Node.ofPartsIn (.mapping mark none [] none :: frames)
            (content ++ (⟨.mappingEnd, mark'⟩ :: rest)) := by
      intro frames rest
      rw [List.cons_append, List.append_assoc]
      rfl
    refine ⟨.mapping mark none entries true, ⟨mark, entries, rfl, hold⟩, fun rest => ?_,
      fun frame outer rest => ?_⟩
    · rw [opened, formed]
      simp [Node.ofPartsIn, Frame.close]
    · rw [opened, formed]
      simp [Node.ofPartsIn, Frame.close]

/-- The parts of the members of a mapping form its entries. -/
theorem entries_of_parts : (members : List (String × Block)) → ∀ {parts : List Part},
    parts.map (·.kind) = memberParts members →
    ∃ entries, MembersHold members entries ∧ ∀ mark acc outer rest,
      Node.ofPartsIn (.mapping mark none acc none :: outer) (parts ++ rest) =
        Node.ofPartsIn (.mapping mark none (entries.reverse ++ acc) none :: outer) rest
  | [], parts, kinds => by
    obtain rfl := List.map_eq_nil_iff.1 kinds
    exact ⟨[], rfl, fun _ _ _ _ => rfl⟩
  | (key, value) :: others, parts, kinds => by
    obtain ⟨⟨kind, mark⟩, inner, rfl, rfl, body⟩ := List.map_eq_cons_iff.1 kinds
    obtain ⟨mine, later, rfl, here, there⟩ := List.map_eq_append_iff.1 body
    obtain ⟨node, holds, -, formed⟩ := value.tree_of_parts here
    obtain ⟨entries, hold, formed'⟩ := entries_of_parts others there
    refine ⟨(.scalar mark none key .plain, node) :: entries,
      ⟨mark, node, entries, rfl, holds, hold⟩, ?_⟩
    intro place acc outer rest
    have named : Node.ofPartsIn (.mapping place none acc none :: outer)
        ((⟨.scalar none key .plain, mark⟩ :: (mine ++ later)) ++ rest) =
        Node.ofPartsIn (.mapping place none acc (some (.scalar mark none key .plain)) :: outer)
          (mine ++ (later ++ rest)) := by
      rw [List.cons_append, List.append_assoc]
      rfl
    rw [named, formed]
    simp only [Frame.add]
    rw [formed', List.reverse_cons, List.append_assoc]
    rfl

end

/-- A written mapping is read whole, as itself, and nothing follows it. -/
theorem ofText_holds {members : List (String × Block)} (filled : members ≠ [])
    (proper : ProperMembers members) :
    (Document.ofText (writeMembers 0 members)).fault = none ∧
      (Document.ofText (writeMembers 0 members)).followed = false ∧
      (Block.mapping members).Holds (Document.ofText (writeMembers 0 members)).root := by
  obtain ⟨noFault, kinds⟩ := ofText_writeMembers filled proper
  obtain ⟨first, inner, last, stop, ran, same⟩ := run_of_kinds kinds
  obtain ⟨parts, gathered, rows⟩ := gather_of_events same first last stop
  have events : Events.ofText (writeMembers 0 members).toList =
      ⟨⟨.documentStart, first⟩ :: (inner ++ [⟨.documentEnd, last⟩, ⟨.textEnd, stop⟩]), none⟩ := by
    rw [← ran, ← noFault]
    rfl
  have whole : Document.ofText (writeMembers 0 members) = ⟨parts, none, [], false⟩ := by
    rw [← gathered]
    delta Document.ofText
    rw [events]
  obtain ⟨node, holds, formed, -⟩ := (Block.mapping members).tree_of_parts rows
  have some' : parts.isEmpty = false := by
    cases parts with
    | nil => simp [Block.parts] at rows
    | cons => rfl
  have root : (Document.mk parts none [] false).root = node := by
    simpa [Document.root, some', Node.ofParts] using formed []
  rw [whole]
  exact ⟨rfl, rfl, root ▸ holds⟩

end DeviceAdmission.Yaml
