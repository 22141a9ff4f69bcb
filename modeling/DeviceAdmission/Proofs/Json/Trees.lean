import DeviceAdmission.Proofs.Json.Numbers
import DeviceAdmission.Proofs.Json.Strings

/-!
# The tree of a written value

The reader finds in the text of a value a tree of the same form: nothing is lost, added or moved, and
the reader stands behind the text afterwards. `Holds` relates a tree to the value it was read from;
only the numbers in it may differ, as the value of a fraction depends on rounding.

* `readNode_render`: by recursion on the value, for whatever may follow its text.
* `nodeAt_render`: the same for a whole document, with the fuel that the reader has.
-/
namespace DeviceAdmission.Json

mutual

/-- A node has the form of a value. -/
inductive Node.Holds : Node → Json → Prop where
  | null {i k : Nat} : Node.Holds (.null i k) .null
  | bool {b : Bool} {i k : Nat} : Node.Holds (.bool b i k) (.bool b)
  | number {value : Except Fault Number} {n : Number} {i k : Nat}
      (exact : n.IsExact → value = .ok n) : Node.Holds (.number value i k) (.number n)
  | text {s : String} {i k : Nat} : Node.Holds (.text (.ok s) i k) (.text s)
  | array {i : Nat} {items : Items} {values : List Json} (each : items.Hold values) :
      Node.Holds (.array i items) (.array values)
  | object {i : Nat} {members : Members} {values : List (String × Json)}
      (each : members.Hold values) : Node.Holds (.object i members) (.object values)

/-- The items have the forms of some values. -/
inductive Items.Hold : Items → List Json → Prop where
  | done {k : Nat} : Items.Hold (.done k) []
  | item {node : Node} {value : Json} {k : Nat} {rest : Items} {values : List Json}
      (first : node.Holds value) (later : rest.Hold values) :
      Items.Hold (.item node k rest) (value :: values)

/-- The members have the keys and the forms of some others. -/
inductive Members.Hold : Members → List (String × Json) → Prop where
  | done {k : Nat} : Members.Hold (.done k) []
  | member {key : String} {keyStop : Nat} {node : Node} {value : Json} {k : Nat} {rest : Members}
      {values : List (String × Json)} (first : node.Holds value) (later : rest.Hold values) :
      Members.Hold (.member (.ok key) keyStop node k rest) ((key, value) :: values)

end

/-! ## Written containers -/

/-- The octets of the items after one. -/
def moreItems : List Json → List UInt8
  | [] => []
  | item :: rest => 44 :: octetsOf (renderItems (item :: rest))

/-- The octets of the members after one. -/
def moreMembers : List (String × Json) → List UInt8
  | [] => []
  | member :: rest => 44 :: octetsOf (renderMembers (member :: rest))

theorem octetsOf_renderItems (item : Json) (rest : List Json) :
    octetsOf (renderItems (item :: rest)) = octetsOf item.render ++ moreItems rest := by
  cases rest with
  | nil => rw [renderItems, moreItems, List.append_nil]
  | cons second rest =>
    have comma : octetsOf "," = [44] := by decide
    rw [renderItems, octetsOf_append, octetsOf_append, comma, List.append_assoc, moreItems]
    · rfl
    · simp

theorem octetsOf_renderMembers (key : String) (value : Json) (rest : List (String × Json)) :
    octetsOf (renderMembers ((key, value) :: rest)) =
      octetsOf (quote key) ++ 58 :: (octetsOf value.render ++ moreMembers rest) := by
  have colon : octetsOf ":" = [58] := by decide
  cases rest with
  | nil =>
    rw [renderMembers, octetsOf_append, octetsOf_append, colon, moreMembers, List.append_nil,
      List.append_assoc]
    rfl
  | cons second rest =>
    have comma : octetsOf "," = [44] := by decide
    rw [renderMembers, octetsOf_append, octetsOf_append, octetsOf_append, octetsOf_append, comma,
      colon, moreMembers]
    · simp
    · simp

theorem octetsOf_array (items : List Json) :
    octetsOf (render (.array items)) = 91 :: (octetsOf (renderItems items) ++ [93]) := by
  have open_ : octetsOf "[" = [91] := by decide
  have close : octetsOf "]" = [93] := by decide
  rw [render, octetsOf_append, octetsOf_append, open_, close]
  rfl

theorem octetsOf_object (members : List (String × Json)) :
    octetsOf (render (.object members)) = 123 :: (octetsOf (renderMembers members) ++ [125]) := by
  have open_ : octetsOf "\x7b" = [123] := by decide
  have close : octetsOf "\x7d" = [125] := by decide
  rw [render, octetsOf_append, octetsOf_append, open_, close]
  rfl

/-- The first octet of a number begins nothing else. -/
theorem Source.of_numberStart {b : UInt8} (start : (b == 45 || isDigit b) = true) :
    isBlank b = false ∧ b ≠ 93 ∧ b ≠ 110 ∧ b ≠ 116 ∧ b ≠ 102 := by
  simp only [isDigit, isBlank, Bool.or_eq_true, Bool.and_eq_true, beq_iff_eq, decide_eq_true_eq,
    Bool.or_eq_false_iff, beq_eq_false_iff_ne, ne_eq, UInt8.le_iff_toNat_le,
    ← UInt8.toNat_inj] at start ⊢
  simp at start ⊢
  omega

/-- A written value begins with an octet that is neither a blank nor ends a list. -/
theorem head_of_render (value : Json) :
    ∃ b w, octetsOf value.render = b :: w ∧ Source.isBlank b = false ∧ b ≠ 93 := by
  cases value with
  | null => exact ⟨110, _, rfl, by decide, by decide⟩
  | bool b =>
    cases b with
    | true => exact ⟨116, _, rfl, by decide, by decide⟩
    | false => exact ⟨102, _, rfl, by decide, by decide⟩
  | number n =>
    obtain ⟨b, w, front, start⟩ := Source.head_of_number n
    obtain ⟨solid, bracket, _⟩ := Source.of_numberStart start
    exact ⟨b, w, front, solid, bracket⟩
  | text s => exact ⟨34, _, octetsOf_quote s, by decide, by decide⟩
  | array items => exact ⟨91, _, octetsOf_array items, by decide, by decide⟩
  | object members => exact ⟨123, _, octetsOf_object members, by decide, by decide⟩

/-! ## One step of the reader -/

namespace Source

variable {src : Source} {fuel i stop : Nat} {b : UInt8} {w r : List UInt8}

theorem readLiteral_of_rest (here : src.rest i = w ++ r) :
    src.readLiteral w i = .ok (i + w.length) := by
  induction w generalizing i with
  | nil => rfl
  | cons b w ih =>
    rw [readLiteral, at?_of_rest here]
    simp only [beq_self_eq_true, if_true, ih (rest_succ here), List.length_cons]
    rw [Nat.add_assoc, Nat.add_comm 1]

theorem readLiteralNode_of_rest (make : Nat → Nat → Node) (here : src.rest i = b :: (w ++ r)) :
    src.readLiteralNode w i make =
      (make i (i + (b :: w).length), some (i + (b :: w).length)) := by
  unfold readLiteralNode
  rw [readLiteral_of_rest (rest_succ here), List.length_cons, Nat.add_assoc, Nat.add_comm 1]

theorem readNode_null (here : src.rest i = [110, 117, 108, 108] ++ r) :
    src.readNode (fuel + 1) i = (.null i (i + 4), some (i + 4)) := by
  unfold readNode
  simp only [skipBlanks_of_rest here rfl, at?_of_rest here, beq_self_eq_true, if_true]
  exact readLiteralNode_of_rest .null here

theorem readNode_true (here : src.rest i = [116, 114, 117, 101] ++ r) :
    src.readNode (fuel + 1) i = (.bool true i (i + 4), some (i + 4)) := by
  unfold readNode
  simp only [skipBlanks_of_rest here rfl, at?_of_rest here]
  exact readLiteralNode_of_rest (.bool true) here

theorem readNode_false (here : src.rest i = [102, 97, 108, 115, 101] ++ r) :
    src.readNode (fuel + 1) i = (.bool false i (i + 5), some (i + 5)) := by
  unfold readNode
  simp only [skipBlanks_of_rest here rfl, at?_of_rest here]
  exact readLiteralNode_of_rest (.bool false) here

theorem readNode_number (here : src.rest i = b :: r) (start : (b == 45 || isDigit b) = true) :
    src.readNode (fuel + 1) i = src.readNumber i := by
  obtain ⟨solid, _, letters⟩ := of_numberStart start
  unfold readNode
  simp only [skipBlanks_of_rest here solid, at?_of_rest here, beq_iff_eq, letters, if_false]
  exact if_pos (by simpa using start)

theorem readNode_text (here : src.rest i = 34 :: r) {value : Except Fault String}
    (read : src.readText i = .ok (value, stop)) :
    src.readNode (fuel + 1) i = (.text value i stop, some stop) := by
  unfold readNode
  simp only [skipBlanks_of_rest here rfl, at?_of_rest here, read]
  rfl

theorem readNode_array (here : src.rest i = 91 :: r) {items : Items} {last : Option Nat}
    (read : src.readItems fuel true (i + 1) = (items, last)) :
    src.readNode (fuel + 1) i = (.array i items, last) := by
  unfold readNode
  simp only [skipBlanks_of_rest here rfl, at?_of_rest here, read]
  rfl

theorem readNode_object (here : src.rest i = 123 :: r) {members : Members} {last : Option Nat}
    (read : src.readMembers fuel true (i + 1) = (members, last)) :
    src.readNode (fuel + 1) i = (.object i members, last) := by
  unfold readNode
  simp only [skipBlanks_of_rest here rfl, at?_of_rest here, read]
  rfl

theorem readItems_done (here : src.rest i = 93 :: r) (first : Bool) :
    src.readItems (fuel + 1) first i = (.done (i + 1), some (i + 1)) := by
  unfold readItems
  simp only [skipBlanks_of_rest here rfl, at?_of_rest here]
  rfl

section

variable {node : Node} {items : Items} {last : Option Nat}

theorem readItems_first (here : src.rest i = b :: r) (solid : isBlank b = false) (value : b ≠ 93)
    (read : src.readNode fuel i = (node, some stop))
    (later : src.readItems fuel false stop = (items, last)) :
    src.readItems (fuel + 1) true i = (.item node stop items, last) := by
  unfold readItems
  simp only [skipBlanks_of_rest here solid, at?_of_rest here, beq_iff_eq, value, if_false, if_true,
    read, later]

theorem readItems_next (here : src.rest i = 44 :: b :: r) (solid : isBlank b = false)
    (value : b ≠ 93) (read : src.readNode fuel (i + 1) = (node, some stop))
    (later : src.readItems fuel false stop = (items, last)) :
    src.readItems (fuel + 1) false i = (.item node stop items, last) := by
  unfold readItems
  simp only [skipBlanks_of_rest here rfl, at?_of_rest here, skipBlanks_of_rest (rest_succ here) solid,
    at?_of_rest (rest_succ here), beq_iff_eq, value, if_false, read, later]
  rfl

end

theorem readMembers_done (here : src.rest i = 125 :: r) (first : Bool) :
    src.readMembers (fuel + 1) first i = (.done (i + 1), some (i + 1)) := by
  unfold readMembers
  simp only [skipBlanks_of_rest here rfl, at?_of_rest here]
  rfl

section

variable {key : Except Fault String} {keyStop : Nat} {node : Node} {members : Members}
  {last : Option Nat} {behind : List UInt8}

theorem readMembers_first (here : src.rest i = 34 :: r)
    (name : src.readText i = .ok (key, keyStop)) (colon : src.rest keyStop = 58 :: behind)
    (read : src.readNode fuel (keyStop + 1) = (node, some stop))
    (later : src.readMembers fuel false stop = (members, last)) :
    src.readMembers (fuel + 1) true i = (.member key keyStop node stop members, last) := by
  unfold readMembers
  simp only [skipBlanks_of_rest here rfl, at?_of_rest here, name, skipBlanks_of_rest colon rfl,
    at?_of_rest colon, read, later]
  rfl

theorem readMembers_next (here : src.rest i = 44 :: 34 :: r)
    (name : src.readText (i + 1) = .ok (key, keyStop)) (colon : src.rest keyStop = 58 :: behind)
    (read : src.readNode fuel (keyStop + 1) = (node, some stop))
    (later : src.readMembers fuel false stop = (members, last)) :
    src.readMembers (fuel + 1) false i = (.member key keyStop node stop members, last) := by
  unfold readMembers
  simp only [skipBlanks_of_rest here rfl, at?_of_rest here, skipBlanks_of_rest (rest_succ here) rfl,
    at?_of_rest (rest_succ here), name, skipBlanks_of_rest colon rfl, at?_of_rest colon, read, later]
  rfl

end

/-! ## Whole values -/

theorem ends_moreItems (items : List Json) (r : List UInt8) :
    Ends (moreItems items ++ 93 :: r) := by
  intro b head
  cases items with
  | nil =>
    obtain rfl : 93 = b := by simpa [moreItems] using head
    decide
  | cons item rest =>
    obtain rfl : 44 = b := by simpa [moreItems] using head
    decide

theorem ends_moreMembers (members : List (String × Json)) (r : List UInt8) :
    Ends (moreMembers members ++ 125 :: r) := by
  intro b head
  cases members with
  | nil =>
    obtain rfl : 125 = b := by simpa [moreMembers] using head
    decide
  | cons member rest =>
    obtain rfl : 44 = b := by simpa [moreMembers] using head
    decide

/-- What stands before an item or a member: nothing, or a comma after another one. -/
def comma (first : Bool) : List UInt8 := if first then [] else [44]

/-- The octets of some items, of which the first stands after the bracket or after another item. -/
def listed (first : Bool) (items : List Json) : List UInt8 :=
  if first then octetsOf (renderItems items) else moreItems items

/-- The octets of some members. -/
def membersListed (first : Bool) (members : List (String × Json)) : List UInt8 :=
  if first then octetsOf (renderMembers members) else moreMembers members

theorem listed_cons (first : Bool) (item : Json) (rest : List Json) :
    listed first (item :: rest) = comma first ++ (octetsOf item.render ++ moreItems rest) := by
  cases first with
  | true => exact octetsOf_renderItems item rest
  | false => exact congrArg (44 :: ·) (octetsOf_renderItems item rest)

theorem membersListed_cons (first : Bool) (key : String) (value : Json)
    (rest : List (String × Json)) : membersListed first ((key, value) :: rest) =
      comma first ++
        (octetsOf (quote key) ++ ([58] ++ (octetsOf value.render ++ moreMembers rest))) := by
  cases first with
  | true => exact octetsOf_renderMembers key value rest
  | false => exact congrArg (44 :: ·) (octetsOf_renderMembers key value rest)

/-- What a pair of brackets leaves for its contents. -/
theorem inside_brackets {opening closing : UInt8} {body r : List UInt8} {fuel i : Nat}
    (here : src.rest i = opening :: (body ++ [closing]) ++ r)
    (enough : 2 * (opening :: (body ++ [closing])).length ≤ fuel + 1) :
    src.rest (i + 1) = body ++ closing :: r ∧ 2 * (body.length + 1) ≤ fuel ∧
      i + (opening :: (body ++ [closing])).length = i + 1 + body.length + 1 := by
  rw [List.cons_append, List.append_assoc] at here
  simp only [List.length_cons, List.length_append, List.length_nil] at enough ⊢
  exact ⟨rest_succ here, by omega, by omega⟩

mutual

/-- The text of a value is read as a tree of its form, whatever ends it. -/
theorem readNode_render (value : Json) {fuel i : Nat} {r : List UInt8} (ends : Ends r)
    (here : src.rest i = octetsOf value.render ++ r)
    (enough : 2 * (octetsOf value.render).length ≤ fuel) :
    ∃ node, src.readNode fuel i = (node, some (i + (octetsOf value.render).length)) ∧
      node.Holds value := by
  obtain ⟨b, w, front, _⟩ := head_of_render value
  obtain ⟨fuel, rfl⟩ : ∃ n, fuel = n + 1 := ⟨fuel - 1, by simp [front] at enough; omega⟩
  match value with
  | .null => exact ⟨_, readNode_null here, .null⟩
  | .bool true => exact ⟨_, readNode_true here, .bool⟩
  | .bool false => exact ⟨_, readNode_false here, .bool⟩
  | .number n =>
    obtain ⟨b, w, front, start⟩ := head_of_number n
    have first : src.rest i = b :: (w ++ r) := here.trans (congrArg (· ++ r) front)
    obtain ⟨value, read, exact_⟩ := readNumber_render n ends here
    exact ⟨_, (readNode_number first start).trans read, .number exact_⟩
  | .text s =>
    have first : src.rest i = 34 :: (escaped s.toList ++ [34] ++ r) :=
      here.trans (congrArg (· ++ r) (octetsOf_quote s))
    exact ⟨_, readNode_text first (readText_quote here), .text⟩
  | .array items =>
    rw [octetsOf_array] at here enough ⊢
    obtain ⟨inside, fuelLeft, stop⟩ := inside_brackets here enough
    obtain ⟨tree, read, each⟩ := readItems_render items true inside fuelLeft
    rw [stop]
    exact ⟨.array i tree, readNode_array here read, .array each⟩
  | .object members =>
    rw [octetsOf_object] at here enough ⊢
    obtain ⟨inside, fuelLeft, stop⟩ := inside_brackets here enough
    obtain ⟨tree, read, each⟩ := readMembers_render members true inside fuelLeft
    rw [stop]
    exact ⟨.object i tree, readNode_object here read, .object each⟩

theorem readItems_render (values : List Json) (first : Bool) {fuel i : Nat} {r : List UInt8}
    (here : src.rest i = listed first values ++ 93 :: r)
    (enough : 2 * ((listed first values).length + 1) ≤ fuel) :
    ∃ items, src.readItems fuel first i = (items, some (i + (listed first values).length + 1)) ∧
      items.Hold values := by
  obtain ⟨fuel, rfl⟩ : ∃ n, fuel = n + 1 := ⟨fuel - 1, by omega⟩
  match values with
  | [] =>
    have empty : listed first [] = [] := by cases first <;> rfl
    rw [empty] at here ⊢
    exact ⟨_, readItems_done here first, .done⟩
  | value :: values =>
    obtain ⟨b, w, front, solid, bracket⟩ := head_of_render value
    rw [listed_cons, List.append_assoc, List.append_assoc] at here
    rw [listed_cons, List.length_append, List.length_append] at enough ⊢
    have some_ : 1 ≤ (octetsOf value.render).length := by simp [front]
    obtain ⟨node, read, holds⟩ := @readNode_render value fuel _ _ (ends_moreItems values r)
      (rest_append here) (by omega)
    obtain ⟨items, later, each⟩ := @readItems_render values false fuel _ _
      (rest_append (rest_append here)) (show 2 * ((moreItems values).length + 1) ≤ fuel by omega)
    have headed : src.rest i = comma first ++ b :: (w ++ (moreItems values ++ 93 :: r)) := by
      rw [here, front, List.cons_append]
    have stop : i + (comma first).length + (octetsOf value.render).length +
        (listed false values).length + 1 =
        i + ((comma first).length +
          ((octetsOf value.render).length + (moreItems values).length)) + 1 := by
      simp only [listed, Bool.false_eq_true, if_false]
      omega
    rw [stop] at later
    cases first with
    | true => exact ⟨_, readItems_first headed solid bracket read later, .item holds each⟩
    | false => exact ⟨_, readItems_next headed solid bracket read later, .item holds each⟩

theorem readMembers_render (values : List (String × Json)) (first : Bool) {fuel i : Nat}
    {r : List UInt8} (here : src.rest i = membersListed first values ++ 125 :: r)
    (enough : 2 * ((membersListed first values).length + 1) ≤ fuel) :
    ∃ members, src.readMembers fuel first i =
        (members, some (i + (membersListed first values).length + 1)) ∧
      members.Hold values := by
  obtain ⟨fuel, rfl⟩ : ∃ n, fuel = n + 1 := ⟨fuel - 1, by omega⟩
  match values with
  | [] =>
    have empty : membersListed first [] = [] := by cases first <;> rfl
    rw [empty] at here ⊢
    exact ⟨_, readMembers_done here first, .done⟩
  | (key, value) :: values =>
    rw [membersListed_cons] at here enough ⊢
    simp only [List.append_assoc] at here
    simp only [List.length_append] at enough ⊢
    have name := readText_quote (rest_append here)
    have colon := rest_append (rest_append here)
    obtain ⟨node, read, holds⟩ := @readNode_render value fuel _ _ (ends_moreMembers values r)
      (rest_append colon) (by omega)
    obtain ⟨members, later, each⟩ := @readMembers_render values false fuel _ _
      (rest_append (rest_append colon))
      (show 2 * ((moreMembers values).length + 1) ≤ fuel by simp at enough; omega)
    have headed : src.rest i = comma first ++ 34 :: (escaped key.toList ++ [34] ++
        ([58] ++ (octetsOf value.render ++ (moreMembers values ++ 125 :: r)))) := by
      rw [here, octetsOf_quote, List.cons_append]
    have stop : i + (comma first).length + (octetsOf (quote key)).length + [(58 : UInt8)].length +
        (octetsOf value.render).length + (membersListed false values).length + 1 =
        i + ((comma first).length + ((octetsOf (quote key)).length + ([(58 : UInt8)].length +
          ((octetsOf value.render).length + (moreMembers values).length)))) + 1 := by
      simp only [membersListed, Bool.false_eq_true, if_false]
      omega
    rw [stop] at later
    cases first with
    | true => exact ⟨_, readMembers_first headed name colon read later, .member holds each⟩
    | false => exact ⟨_, readMembers_next headed name colon read later, .member holds each⟩

end

/-- The document that a value is written as is read as a tree of its form, up to its end. -/
theorem nodeAt_render (value : Json) :
    ∃ node stop, (ofString value.render).nodeAt 0 = (node, some stop) ∧ node.Holds value ∧
      (ofString value.render).checkEnd stop = .ok () := by
  have here : (ofString value.render).rest 0 = octetsOf value.render ++ [] := by
    rw [rest_zero, List.append_nil]
  have long := (ofString value.render).length_rest_le 0
  rw [here, List.append_nil] at long
  obtain ⟨node, read, holds⟩ := @readNode_render (ofString value.render) value
    (2 * (ofString value.render).size + 4) 0 [] (fun b head => by simp at head) here (by omega)
  refine ⟨node, _, read, holds, ?_⟩
  have behind := rest_append here
  rw [checkEnd, skipBlanks_of_end behind]
  exact if_neg (Nat.not_lt.2 (size_le_of_rest behind))

end Source

end DeviceAdmission.Json
