import DeviceAdmission.Proofs.Json.Canonical

/-!
# Indented texts are read back

The indented form of a value differs from the compact one by line breaks and blanks between tokens.
The reader skips them wherever they can stand, so the tree that it finds is that of the compact form,
only that its nodes stand elsewhere, and the value that it gives is the same.

* `readItems_item`, `readMembers_member`: one step of the reader over a gap.
* `readNode_renderAt`: by recursion on the value, at any level.
* `parse_renderIndented`: a whole document, with blanks behind it.
-/
namespace DeviceAdmission.Json

/-- Blanks and line breaks. -/
def IsGap (gap : List UInt8) : Prop := ∀ b ∈ gap, Source.isBlank b = true

theorem octetsOf_breakAt (level : Nat) :
    octetsOf (breakAt level) = 10 :: List.replicate (2 * level) 32 := by
  have lineFeed : octetsOf "\n" = [10] := by decide
  have blanks : ∀ c ∈ List.replicate (2 * level) ' ', c.toNat < 128 := by
    intro c member
    rw [List.eq_of_mem_replicate member]
    decide
  have blank : octet ' ' = 32 := by decide
  rw [breakAt, octetsOf_append, octetsOf_ascii blanks, lineFeed, List.map_replicate, blank]
  rfl

theorem isGap_breakAt (level : Nat) : IsGap (octetsOf (breakAt level)) := by
  intro b member
  rw [octetsOf_breakAt] at member
  cases member with
  | head => decide
  | tail _ later =>
    rw [List.eq_of_mem_replicate later]
    decide

/-! ## Written containers -/

/-- The octets of the items after one. -/
def moreItemsAt (level : Nat) : List Json → List UInt8
  | [] => []
  | item :: rest => 44 :: octetsOf (renderItemsAt level (item :: rest))

/-- The octets of the members after one. -/
def moreMembersAt (level : Nat) : List (String × Json) → List UInt8
  | [] => []
  | member :: rest => 44 :: octetsOf (renderMembersAt level (member :: rest))

/-- The gap before the end of a container, where it holds something. -/
def closingGap (level : Nat) (bare : Bool) : List UInt8 :=
  if bare then [] else octetsOf (breakAt level)

theorem isGap_closingGap (level : Nat) (bare : Bool) : IsGap (closingGap level bare) := by
  cases bare with
  | true => exact fun b member => absurd member List.not_mem_nil
  | false => exact isGap_breakAt level

theorem octetsOf_renderItemsAt (level : Nat) (item : Json) (rest : List Json) :
    octetsOf (renderItemsAt level (item :: rest)) =
      octetsOf (breakAt level) ++ (octetsOf (renderAt level item) ++ moreItemsAt level rest) := by
  cases rest with
  | nil => rw [renderItemsAt, moreItemsAt, octetsOf_append, List.append_nil]
  | cons second rest =>
    have comma : octetsOf "," = [44] := by decide
    rw [renderItemsAt, octetsOf_append, octetsOf_append, octetsOf_append, comma, moreItemsAt]
    · simp only [List.append_assoc]
      rfl
    · simp

theorem octetsOf_renderMembersAt (level : Nat) (key : String) (value : Json)
    (rest : List (String × Json)) : octetsOf (renderMembersAt level ((key, value) :: rest)) =
      octetsOf (breakAt level) ++ (octetsOf (quote key) ++
        ([58, 32] ++ (octetsOf (renderAt level value) ++ moreMembersAt level rest))) := by
  have colon : octetsOf ": " = [58, 32] := by decide
  cases rest with
  | nil =>
    rw [renderMembersAt, octetsOf_append, octetsOf_append, octetsOf_append, colon, moreMembersAt,
      List.append_nil]
    simp only [List.append_assoc]
  | cons second rest =>
    have comma : octetsOf "," = [44] := by decide
    rw [renderMembersAt, octetsOf_append, octetsOf_append, octetsOf_append, octetsOf_append,
      octetsOf_append, comma, colon, moreMembersAt]
    · simp only [List.append_assoc]
      rfl
    · simp

theorem octetsOf_arrayAt (level : Nat) (items : List Json) :
    octetsOf (renderAt level (.array items)) =
      91 :: (octetsOf (renderItemsAt (level + 1) items) ++
        (closingGap level items.isEmpty ++ [93])) := by
  cases items with
  | nil => rfl
  | cons item rest =>
    have open_ : octetsOf "[" = [91] := by decide
    have close : octetsOf "]" = [93] := by decide
    rw [renderAt, octetsOf_append, octetsOf_append, octetsOf_append, open_, close]
    · simp only [List.append_assoc]
      rfl
    · simp

theorem octetsOf_objectAt (level : Nat) (members : List (String × Json)) :
    octetsOf (renderAt level (.object members)) =
      123 :: (octetsOf (renderMembersAt (level + 1) members) ++
        (closingGap level members.isEmpty ++ [125])) := by
  cases members with
  | nil => rfl
  | cons member rest =>
    have open_ : octetsOf "\x7b" = [123] := by decide
    have close : octetsOf "\x7d" = [125] := by decide
    rw [renderAt, octetsOf_append, octetsOf_append, octetsOf_append, open_, close]
    · simp only [List.append_assoc]
      rfl
    · simp

/-- At any level a written value begins like the compact one. -/
theorem head_of_renderAt (level : Nat) (value : Json) :
    ∃ b w, octetsOf (renderAt level value) = b :: w ∧ Source.isBlank b = false ∧ b ≠ 93 := by
  cases value with
  | array items => exact ⟨91, _, octetsOf_arrayAt level items, by decide, by decide⟩
  | object members => exact ⟨123, _, octetsOf_objectAt level members, by decide, by decide⟩
  | null => exact head_of_render .null
  | bool b => exact head_of_render (.bool b)
  | number n => exact head_of_render (.number n)
  | text s => exact head_of_render (.text s)

/-! ## One step of the reader -/

namespace Source

variable {src : Source} {fuel i stop : Nat} {b : UInt8} {gap r : List UInt8}

theorem skipBlanks_of_gap (blank : IsGap gap) (here : src.rest i = gap ++ b :: r)
    (solid : isBlank b = false) : src.skipBlanks i = i + gap.length := by
  have long := src.length_rest_le i
  rw [here, List.length_append] at long
  exact skip_of_rest here blank (by simpa using solid) (by omega)

section

variable (blank : IsGap gap) (here : src.rest i = gap ++ b :: r) (solid : isBlank b = false)
include blank here solid

theorem readNode_of_gap :
    src.readNode (fuel + 1) i = src.readNode (fuel + 1) (i + gap.length) := by
  simp only [readNode, skipBlanks_of_gap blank here solid,
    skipBlanks_of_rest (rest_append here) solid]

theorem readItems_of_gap (first : Bool) :
    src.readItems (fuel + 1) first i = src.readItems (fuel + 1) first (i + gap.length) := by
  simp only [readItems, skipBlanks_of_gap blank here solid,
    skipBlanks_of_rest (rest_append here) solid]

theorem readMembers_of_gap (first : Bool) :
    src.readMembers (fuel + 1) first i = src.readMembers (fuel + 1) first (i + gap.length) := by
  simp only [readMembers, skipBlanks_of_gap blank here solid,
    skipBlanks_of_rest (rest_append here) solid]

end

section

variable {first : Bool} {node : Node} {last : Option Nat}

/-- An item is read behind the comma and the gap before it. -/
theorem readItems_item {items : Items} (blank : IsGap gap)
    (here : src.rest i = comma first ++ (gap ++ b :: r)) (solid : isBlank b = false)
    (value : b ≠ 93)
    (read : src.readNode fuel (i + (comma first).length + gap.length) = (node, some stop))
    (later : src.readItems fuel false stop = (items, last)) :
    src.readItems (fuel + 1) first i = (.item node stop items, last) := by
  cases first with
  | true =>
    have front : src.rest i = gap ++ b :: r := here
    rw [readItems_of_gap blank front solid]
    exact readItems_first (rest_append front) solid value read later
  | false =>
    have front : src.rest i = 44 :: (gap ++ b :: r) := here
    have behind := rest_succ front
    have node_ : src.readNode fuel (i + 1 + gap.length) = (node, some stop) := read
    unfold readItems
    simp only [skipBlanks_of_rest front rfl, at?_of_rest front,
      skipBlanks_of_gap blank behind solid, at?_of_rest (rest_append behind), beq_iff_eq, value,
      if_false, node_, later]
    rfl

/-- A member is read behind the comma and the gap before it. -/
theorem readMembers_member {key : Except Fault String} {keyStop : Nat} {members : Members}
    {behind : List UInt8} (blank : IsGap gap)
    (here : src.rest i = comma first ++ (gap ++ 34 :: r))
    (name : src.readText (i + (comma first).length + gap.length) = .ok (key, keyStop))
    (colon : src.rest keyStop = 58 :: behind)
    (read : src.readNode fuel (keyStop + 1) = (node, some stop))
    (later : src.readMembers fuel false stop = (members, last)) :
    src.readMembers (fuel + 1) first i = (.member key keyStop node stop members, last) := by
  cases first with
  | true =>
    have front : src.rest i = gap ++ 34 :: r := here
    rw [readMembers_of_gap blank front rfl]
    exact readMembers_first (rest_append front) name colon read later
  | false =>
    have front : src.rest i = 44 :: (gap ++ 34 :: r) := here
    have next := rest_succ front
    have name_ : src.readText (i + 1 + gap.length) = .ok (key, keyStop) := name
    unfold readMembers
    simp only [skipBlanks_of_rest front rfl, at?_of_rest front, skipBlanks_of_gap blank next rfl,
      at?_of_rest (rest_append next), name_, skipBlanks_of_rest colon rfl, at?_of_rest colon, read,
      later]
    rfl

end

/-! ## Whole values -/

theorem ends_of_gap (blank : IsGap gap) (ends : Ends r) : Ends (gap ++ r) := by
  cases gap with
  | nil => exact ends
  | cons c gap =>
    intro b head
    obtain rfl : c = b := by simpa using head
    have blank := blank c List.mem_cons_self
    simp only [isBlank, Bool.or_eq_true, beq_iff_eq] at blank
    rcases blank with ((rfl | rfl) | rfl) | rfl <;> decide

theorem ends_moreItemsAt (level : Nat) (items : List Json) (blank : IsGap gap) (r : List UInt8) :
    Ends (moreItemsAt level items ++ (gap ++ 93 :: r)) := by
  cases items with
  | nil =>
    have closes : Ends (93 :: r) := by
      intro b head
      obtain rfl : 93 = b := by simpa using head
      decide
    rw [moreItemsAt, List.nil_append]
    exact ends_of_gap blank closes
  | cons item rest =>
    intro b head
    obtain rfl : 44 = b := by simpa [moreItemsAt] using head
    decide

theorem ends_moreMembersAt (level : Nat) (members : List (String × Json)) (blank : IsGap gap)
    (r : List UInt8) : Ends (moreMembersAt level members ++ (gap ++ 125 :: r)) := by
  cases members with
  | nil =>
    have closes : Ends (125 :: r) := by
      intro b head
      obtain rfl : 125 = b := by simpa using head
      decide
    rw [moreMembersAt, List.nil_append]
    exact ends_of_gap blank closes
  | cons member rest =>
    intro b head
    obtain rfl : 44 = b := by simpa [moreMembersAt] using head
    decide

/-- A value behind a colon and a blank. -/
theorem skipsBlank (value : Json) (level : Nat) {node : Node} {last : Option Nat}
    (colon : src.rest i = [58, 32] ++ (octetsOf (renderAt level value) ++ r))
    (read : src.readNode fuel (i + [(58 : UInt8), 32].length) = (node, last)) (some_ : 1 ≤ fuel) :
    src.readNode fuel (i + 1) = (node, last) := by
  obtain ⟨fuel, rfl⟩ : ∃ n, fuel = n + 1 := ⟨fuel - 1, by omega⟩
  obtain ⟨b, w, front, solid, -⟩ := head_of_renderAt level value
  have blank : IsGap [32] := by
    intro c member
    rw [List.mem_singleton.1 member]
    rfl
  have behind : src.rest (i + 1) = [32] ++ b :: (w ++ r) := by
    rw [rest_succ colon, front]
    rfl
  rw [readNode_of_gap blank behind solid]
  exact read

/-- The octets of some items, of which the first stands after the bracket or after another item. -/
def listedAt (level : Nat) (first : Bool) (items : List Json) : List UInt8 :=
  if first then octetsOf (renderItemsAt level items) else moreItemsAt level items

/-- The octets of some members. -/
def membersListedAt (level : Nat) (first : Bool) (members : List (String × Json)) : List UInt8 :=
  if first then octetsOf (renderMembersAt level members) else moreMembersAt level members

theorem listedAt_cons (level : Nat) (first : Bool) (item : Json) (rest : List Json) :
    listedAt level first (item :: rest) = comma first ++ (octetsOf (breakAt level) ++
      (octetsOf (renderAt level item) ++ moreItemsAt level rest)) := by
  cases first with
  | true => exact octetsOf_renderItemsAt level item rest
  | false => exact congrArg (44 :: ·) (octetsOf_renderItemsAt level item rest)

theorem membersListedAt_cons (level : Nat) (first : Bool) (key : String) (value : Json)
    (rest : List (String × Json)) : membersListedAt level first ((key, value) :: rest) =
      comma first ++ (octetsOf (breakAt level) ++ (octetsOf (quote key) ++
        ([58, 32] ++ (octetsOf (renderAt level value) ++ moreMembersAt level rest)))) := by
  cases first with
  | true => exact octetsOf_renderMembersAt level key value rest
  | false => exact congrArg (44 :: ·) (octetsOf_renderMembersAt level key value rest)

mutual

/-- The indented text of a value is read as a tree of its form, whatever ends it. -/
theorem readNode_renderAt (value : Json) (level : Nat) {fuel i : Nat} {r : List UInt8}
    (ends : Ends r) (here : src.rest i = octetsOf (renderAt level value) ++ r)
    (enough : 2 * (octetsOf (renderAt level value)).length ≤ fuel) :
    ∃ node, src.readNode fuel i = (node, some (i + (octetsOf (renderAt level value)).length)) ∧
      node.Holds value := by
  match value with
  | .null => exact readNode_render .null ends here enough
  | .bool b => exact readNode_render (.bool b) ends here enough
  | .number n => exact readNode_render (.number n) ends here enough
  | .text s => exact readNode_render (.text s) ends here enough
  | .array items =>
    rw [octetsOf_arrayAt, ← List.append_assoc] at here enough ⊢
    obtain ⟨fuel, rfl⟩ : ∃ n, fuel = n + 1 := ⟨fuel - 1, by simp at enough; omega⟩
    obtain ⟨inside, fuelLeft, stop⟩ := inside_brackets here enough
    rw [List.append_assoc] at inside
    rw [List.length_append] at fuelLeft
    obtain ⟨tree, read, each⟩ := readItems_renderAt items (level + 1) true
      (isGap_closingGap level items.isEmpty) inside fuelLeft
    rw [stop, List.length_append, ← Nat.add_assoc]
    exact ⟨.array i tree, readNode_array here read, .array each⟩
  | .object members =>
    rw [octetsOf_objectAt, ← List.append_assoc] at here enough ⊢
    obtain ⟨fuel, rfl⟩ : ∃ n, fuel = n + 1 := ⟨fuel - 1, by simp at enough; omega⟩
    obtain ⟨inside, fuelLeft, stop⟩ := inside_brackets here enough
    rw [List.append_assoc] at inside
    rw [List.length_append] at fuelLeft
    obtain ⟨tree, read, each⟩ := readMembers_renderAt members (level + 1) true
      (isGap_closingGap level members.isEmpty) inside fuelLeft
    rw [stop, List.length_append, ← Nat.add_assoc]
    exact ⟨.object i tree, readNode_object here read, .object each⟩

theorem readItems_renderAt (values : List Json) (level : Nat) (first : Bool) {fuel i : Nat}
    {gap r : List UInt8} (blank : IsGap gap)
    (here : src.rest i = listedAt level first values ++ (gap ++ 93 :: r))
    (enough : 2 * ((listedAt level first values).length + gap.length + 1) ≤ fuel) :
    ∃ items, src.readItems fuel first i =
        (items, some (i + (listedAt level first values).length + gap.length + 1)) ∧
      items.Hold values := by
  obtain ⟨fuel, rfl⟩ : ∃ n, fuel = n + 1 := ⟨fuel - 1, by omega⟩
  match values with
  | [] =>
    have empty : listedAt level first [] = [] := by cases first <;> rfl
    rw [empty] at here ⊢
    rw [readItems_of_gap blank here rfl]
    exact ⟨_, readItems_done (rest_append here) first, .done⟩
  | value :: values =>
    obtain ⟨b, w, front, solid, bracket⟩ := head_of_renderAt level value
    rw [listedAt_cons] at here enough ⊢
    simp only [List.append_assoc] at here
    simp only [List.length_append] at enough ⊢
    have headed : src.rest i = comma first ++ (octetsOf (breakAt level) ++
        b :: (w ++ (moreItemsAt level values ++ (gap ++ 93 :: r)))) := by
      rw [here, front, List.cons_append]
    have some_ : 1 ≤ (octetsOf (renderAt level value)).length := by simp [front]
    have atValue := rest_append (rest_append here)
    obtain ⟨node, read, holds⟩ := @readNode_renderAt value level fuel _ _
      (ends_moreItemsAt level values blank r) atValue (by omega)
    obtain ⟨items, later, each⟩ := @readItems_renderAt values level false fuel _ gap r blank
      (rest_append atValue)
      (show 2 * ((moreItemsAt level values).length + gap.length + 1) ≤ fuel by omega)
    have stop : i + (comma first).length + (octetsOf (breakAt level)).length +
        (octetsOf (renderAt level value)).length + (listedAt level false values).length +
        gap.length + 1 =
        i + ((comma first).length + ((octetsOf (breakAt level)).length +
          ((octetsOf (renderAt level value)).length + (moreItemsAt level values).length))) +
          gap.length + 1 := by
      simp only [listedAt, Bool.false_eq_true, if_false]
      omega
    rw [stop] at later
    exact ⟨_, readItems_item (isGap_breakAt level) headed solid bracket read later,
      .item holds each⟩

theorem readMembers_renderAt (values : List (String × Json)) (level : Nat) (first : Bool)
    {fuel i : Nat} {gap r : List UInt8} (blank : IsGap gap)
    (here : src.rest i = membersListedAt level first values ++ (gap ++ 125 :: r))
    (enough : 2 * ((membersListedAt level first values).length + gap.length + 1) ≤ fuel) :
    ∃ members, src.readMembers fuel first i =
        (members, some (i + (membersListedAt level first values).length + gap.length + 1)) ∧
      members.Hold values := by
  obtain ⟨fuel, rfl⟩ : ∃ n, fuel = n + 1 := ⟨fuel - 1, by omega⟩
  match values with
  | [] =>
    have empty : membersListedAt level first [] = [] := by cases first <;> rfl
    rw [empty] at here ⊢
    rw [readMembers_of_gap blank here rfl]
    exact ⟨_, readMembers_done (rest_append here) first, .done⟩
  | (key, value) :: values =>
    obtain ⟨b, w, front, solid, -⟩ := head_of_renderAt level value
    rw [membersListedAt_cons] at here enough ⊢
    simp only [List.append_assoc] at here
    simp only [List.length_append] at enough ⊢
    have headed : src.rest i = comma first ++ (octetsOf (breakAt level) ++
        34 :: (escaped key.toList ++ [34] ++ ([58, 32] ++ (octetsOf (renderAt level value) ++
          (moreMembersAt level values ++ (gap ++ 125 :: r)))))) := by
      rw [here, octetsOf_quote, List.cons_append]
    have atKey := rest_append (rest_append here)
    have name := readText_quote atKey
    have colon := rest_append atKey
    have some_ : 1 ≤ (octetsOf (renderAt level value)).length := by simp [front]
    have atValue := rest_append (w := [58, 32]) colon
    obtain ⟨node, read, holds⟩ := @readNode_renderAt value level fuel _ _
      (ends_moreMembersAt level values blank r) atValue (by omega)
    obtain ⟨members, later, each⟩ := @readMembers_renderAt values level false fuel _ gap r blank
      (rest_append atValue)
      (show 2 * ((moreMembersAt level values).length + gap.length + 1) ≤ fuel by omega)
    have stop : i + (comma first).length + (octetsOf (breakAt level)).length +
        (octetsOf (quote key)).length + [(58 : UInt8), 32].length +
        (octetsOf (renderAt level value)).length + (membersListedAt level false values).length +
        gap.length + 1 =
        i + ((comma first).length + ((octetsOf (breakAt level)).length +
          ((octetsOf (quote key)).length + ([(58 : UInt8), 32].length +
            ((octetsOf (renderAt level value)).length + (moreMembersAt level values).length))))) +
          gap.length + 1 := by
      simp only [membersListedAt, Bool.false_eq_true, if_false]
      omega
    rw [stop] at later
    -- The blank behind the colon belongs to no token; the reader of the value skips it.
    have spaced := skipsBlank value level colon read (by omega)
    exact ⟨_, readMembers_member (isGap_breakAt level) headed name colon spaced later,
      .member holds each⟩

end

/-- A document with blanks behind its value is read up to its end. -/
theorem nodeAt_renderIndented (value : Json) {tail : String} (blank : IsGap (octetsOf tail)) :
    ∃ node stop, (ofString (value.renderIndented ++ tail)).nodeAt 0 = (node, some stop) ∧
      node.Holds value ∧ (ofString (value.renderIndented ++ tail)).checkEnd stop = .ok () := by
  have here : (ofString (value.renderIndented ++ tail)).rest 0 =
      octetsOf (renderAt 0 value) ++ octetsOf tail := by
    rw [rest_zero, octetsOf_append, renderIndented]
  have ends : Ends (octetsOf tail) := by
    rw [← List.append_nil (octetsOf tail)]
    exact ends_of_gap blank fun b head => by simp at head
  have long := (ofString (value.renderIndented ++ tail)).length_rest_le 0
  rw [here, List.length_append] at long
  obtain ⟨node, read, holds⟩ := @readNode_renderAt (ofString (value.renderIndented ++ tail)) value 0
    (2 * (ofString (value.renderIndented ++ tail)).size + 4) 0 _ ends here (by omega)
  refine ⟨node, _, read, holds, ?_⟩
  have behind := rest_append here
  have whole : (ofString (value.renderIndented ++ tail)).rest _ = octetsOf tail ++ [] :=
    behind.trans (List.append_nil _).symm
  have enough : (octetsOf tail).length ≤ (ofString (value.renderIndented ++ tail)).size := by omega
  have skipped := skip_of_rest whole blank (by simp) enough
  rw [checkEnd, skipBlanks, skipped]
  exact if_neg (Nat.not_lt.2 (size_le_of_rest (rest_append whole)))

end Source

/-- The indented text of a value within the limits, with blanks behind it, is read as the same
value, in order. -/
theorem parse_renderIndented {value : Json} (within : Within depthLimit value) {tail : String}
    (blank : IsGap (octetsOf tail)) :
    parse (value.renderIndented ++ tail) = .ok value.canonical := by
  obtain ⟨node, stop, read, holds, finished⟩ := Source.nodeAt_renderIndented value blank
  unfold parse
  simp only [read, value_of_holds value holds within, Option.getD_some, finished]
  rfl

end DeviceAdmission.Json
