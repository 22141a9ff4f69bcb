import DeviceAdmission.Proofs.Json.Trees

/-!
# What a value is read back as

A reader keeps the members of an object ascending by key and one for each key, so what a written value
comes back as is the value in that order, all the way down: `canonical`. Members that are a map already
come back as they are.

* `eq_of_ofMembers_eq`: sorting loses nothing of members with different keys.
* `value_of_holds`: a tree that has the form of a value has the value, if its numbers are whole and in
  range and it is nested less deep than the limit.
* `parse_render`: so such a value is read back from its text.
* `isMap_of_value`: the members that a reader makes are a map.
-/
namespace DeviceAdmission.Json

/-! ## Members by key -/

/-- Members in ascending order, one a key. -/
def Ascending (members : List (String × Json)) : Prop := members.Pairwise (·.1 < ·.1)

variable {key : String} {value : Json} {members : List (String × Json)}

theorem lookup_cons (key : String) (value : Json) (members : List (String × Json))
    (other : String) :
    lookup ((key, value) :: members) other =
      if key = other then some value else lookup members other := by
  by_cases same : key = other <;> simp [lookup, same]

theorem lookup_insert (key : String) (value : Json) (members : List (String × Json))
    (other : String) :
    lookup (insert key value members) other =
      if key = other then some value else lookup members other := by
  induction members with
  | nil => exact lookup_cons key value [] other
  | cons member rest ih =>
    obtain ⟨k, v⟩ := member
    unfold insert
    simp only [beq_iff_eq]
    split
    · next equal =>
      subst equal
      rw [lookup_cons, lookup_cons]
      split <;> rfl
    · next differs =>
      split
      · exact lookup_cons key value _ other
      · rw [lookup_cons, ih, lookup_cons]
        split
        · next mine => rw [if_neg fun same => differs (same.trans mine.symm)]
        · rfl

theorem mem_of_mem_insert {member : String × Json} (found : member ∈ insert key value members) :
    member = (key, value) ∨ member ∈ members := by
  induction members with
  | nil => simpa [insert] using found
  | cons first rest ih =>
    obtain ⟨k, v⟩ := first
    unfold insert at found
    split at found
    · rcases List.mem_cons.1 found with same | later
      · exact .inl same
      · exact .inr (List.mem_cons_of_mem _ later)
    · split at found
      · exact List.mem_cons.1 found
      · rcases List.mem_cons.1 found with same | later
        · exact .inr (same ▸ List.mem_cons_self)
        · exact (ih later).imp_right (List.mem_cons_of_mem _)

theorem ascending_insert (sorted : Ascending members) : Ascending (insert key value members) := by
  induction members with
  | nil => simp [insert, Ascending]
  | cons first rest ih =>
    obtain ⟨k, v⟩ := first
    obtain ⟨front, later⟩ := List.pairwise_cons.1 sorted
    unfold insert
    simp only [beq_iff_eq]
    split
    · next same =>
      subst same
      exact List.pairwise_cons.2 ⟨front, later⟩
    · next differs =>
      split
      · next less =>
        refine List.pairwise_cons.2 ⟨fun member found => ?_, sorted⟩
        rcases List.mem_cons.1 found with rfl | found
        · exact less
        · exact String.lt_trans less (front member found)
      · next notLess =>
        have greater : k < key := Std.lt_of_le_of_ne (String.not_lt.1 notLess) (Ne.symm differs)
        refine List.pairwise_cons.2 ⟨fun member found => ?_, ih later⟩
        rcases mem_of_mem_insert found with rfl | found
        · exact greater
        · exact front member found

/-- Members are put among others one after the other. -/
def insertAll (sorted members : List (String × Json)) : List (String × Json) :=
  members.foldl (fun sorted (k, v) => insert k v sorted) sorted

theorem insertAll_cons (sorted : List (String × Json)) (member : String × Json)
    (rest : List (String × Json)) :
    insertAll sorted (member :: rest) = insertAll (insert member.1 member.2 sorted) rest := rfl

theorem ascending_insertAll {sorted : List (String × Json)} (ordered : Ascending sorted) :
    Ascending (insertAll sorted members) := by
  induction members generalizing sorted with
  | nil => exact ordered
  | cons member rest ih => exact ih (ascending_insert ordered)

theorem ascending_ofMembers (members : List (String × Json)) : Ascending (ofMembers members) :=
  ascending_insertAll List.Pairwise.nil

theorem insert_of_greatest {sorted : List (String × Json)}
    (greatest : ∀ member ∈ sorted, member.1 < key) :
    insert key value sorted = sorted ++ [(key, value)] := by
  induction sorted with
  | nil => rfl
  | cons first rest ih =>
    obtain ⟨k, v⟩ := first
    have less : k < key := greatest (k, v) List.mem_cons_self
    have differs : key ≠ k := fun same => String.lt_irrefl k (same ▸ less)
    rw [insert, if_neg (by simpa using differs), if_neg (String.lt_asymm less),
      ih fun member found => greatest member (List.mem_cons_of_mem _ found), List.cons_append]

/-- Members in order are left in place. -/
theorem ofMembers_of_ascending (sorted : Ascending members) : ofMembers members = members := by
  have more : ∀ front : List (String × Json), Ascending (front ++ members) →
      insertAll front members = front ++ members := by
    intro front ordered
    induction members generalizing front with
    | nil => exact (List.append_nil front).symm
    | cons first rest ih =>
      have last : ∀ member ∈ front, member.1 < first.1 := fun member found =>
        (List.pairwise_append.1 ordered).2.2 member found first List.mem_cons_self
      rw [List.append_cons] at ordered
      have placed := ih (List.pairwise_cons.1 sorted).2 (front ++ [first]) ordered
      rw [insertAll_cons, insert_of_greatest last, placed, ← List.append_cons]
  exact more [] sorted

theorem mem_of_mem_insertAll {member : String × Json} {sorted : List (String × Json)}
    (found : member ∈ insertAll sorted members) :
    member ∈ sorted ∨ member ∈ members := by
  induction members generalizing sorted with
  | nil => exact .inl found
  | cons first rest ih =>
    rcases ih found with inserted | later
    · rcases mem_of_mem_insert inserted with same | old
      · exact .inr (same ▸ List.mem_cons_self)
      · exact .inl old
    · exact .inr (List.mem_cons_of_mem _ later)

theorem mem_of_mem_ofMembers {member : String × Json} (found : member ∈ ofMembers members) :
    member ∈ members :=
  (mem_of_mem_insertAll found).resolve_left (by simp)

theorem lookup_insertAll_of_notMem {sorted : List (String × Json)}
    (absent : key ∉ members.map Prod.fst) :
    lookup (insertAll sorted members) key =
      lookup sorted key := by
  induction members generalizing sorted with
  | nil => rfl
  | cons first rest ih =>
    rw [List.map_cons, List.mem_cons, not_or] at absent
    rw [insertAll_cons, ih absent.2, lookup_insert, if_neg (Ne.symm absent.1)]

/-- With different keys every member is found. -/
theorem lookup_ofMembers (different : (members.map Prod.fst).Nodup)
    (found : (key, value) ∈ members) : lookup (ofMembers members) key = some value := by
  suffices more : ∀ sorted, lookup (insertAll sorted members) key = some value from more []
  induction members with
  | nil => cases found
  | cons first rest ih =>
    intro sorted
    rw [List.map_cons, List.nodup_cons] at different
    rcases List.mem_cons.1 found with rfl | later
    · rw [insertAll_cons, lookup_insertAll_of_notMem different.1, lookup_insert, if_pos rfl]
    · exact ih different.2 later _

/-- Members with the same keys, all different, are the same if they are so when sorted. -/
theorem eq_of_ofMembers_eq {xs ys : List (String × Json)} (keys : xs.map Prod.fst = ys.map Prod.fst)
    (different : (xs.map Prod.fst).Nodup) (same : ofMembers xs = ofMembers ys) : xs = ys := by
  have long : xs.length = ys.length := by simpa using congrArg List.length keys
  refine List.ext_getElem long fun n left right => ?_
  change xs.get ⟨n, left⟩ = ys.get ⟨n, right⟩
  have key : (xs.get ⟨n, left⟩).1 = (ys.get ⟨n, right⟩).1 := by
    have each : (xs.map Prod.fst)[n]? = (ys.map Prod.fst)[n]? := by rw [keys]
    simpa [left, right] using each
  have found := lookup_ofMembers different (List.getElem_mem left)
  have other := lookup_ofMembers (keys ▸ different) (List.getElem_mem right)
  rw [same, key] at found
  exact Prod.ext key (Option.some_inj.1 (found.symm.trans other))

/-! ## What comes back -/

mutual

/-- The value with the members of every object ascending by key and one for each key. -/
def canonical : Json → Json
  | .null => .null
  | .bool b => .bool b
  | .number n => .number n
  | .text s => .text s
  | .array items => .array (canonicalItems items)
  | .object members => .object (ofMembers (canonicalMembers members))

def canonicalItems : List Json → List Json
  | [] => []
  | item :: rest => canonical item :: canonicalItems rest

def canonicalMembers : List (String × Json) → List (String × Json)
  | [] => []
  | (key, value) :: rest => (key, canonical value) :: canonicalMembers rest

end

/-- Members that are a map, as are all objects in them: sorting them changes nothing. -/
def IsMap (members : List (String × Json)) : Prop := (object members).canonical = .object members

/-- A value that is in order. -/
def InOrder (value : Json) : Prop := value.canonical = value

theorem keys_canonicalMembers (members : List (String × Json)) :
    (canonicalMembers members).map Prod.fst = members.map Prod.fst := by
  induction members with
  | nil => rfl
  | cons member rest ih => rw [canonicalMembers, List.map_cons, List.map_cons, ih]

theorem canonicalItems_of_inOrder {items : List Json} (each : ∀ item ∈ items, InOrder item) :
    canonicalItems items = items := by
  induction items with
  | nil => rfl
  | cons item rest ih =>
    rw [canonicalItems, each item List.mem_cons_self,
      ih fun later found => each later (List.mem_cons_of_mem _ found)]

theorem canonicalMembers_of_inOrder (each : ∀ member ∈ members, InOrder member.2) :
    canonicalMembers members = members := by
  induction members with
  | nil => rfl
  | cons member rest ih =>
    rw [canonicalMembers, each member List.mem_cons_self,
      ih fun later found => each later (List.mem_cons_of_mem _ found)]

/-- What a reader makes of members is a map, if their values are in order. -/
theorem isMap_ofMembers (each : ∀ member ∈ members, InOrder member.2) :
    IsMap (ofMembers members) := by
  have inside := canonicalMembers_of_inOrder fun member found =>
    each member (mem_of_mem_ofMembers found)
  rw [IsMap, canonical, inside, ofMembers_of_ascending (ascending_ofMembers members)]

/-! ## The value of a tree -/

variable {src : Source} {depth : Nat}

theorem exists_of_bind {ε α β : Type} {x : Except ε α} {f : α → Except ε β} {result : β}
    (taken : (x >>= f) = .ok result) : ∃ a, x = .ok a ∧ f a = .ok result := by
  cases x with
  | error e => cases taken
  | ok a => exact ⟨a, rfl, taken⟩

theorem exists_of_map {ε α β : Type} {x : Except ε α} {f : α → β} {result : β}
    (taken : x.map f = .ok result) : ∃ a, x = .ok a ∧ result = f a := by
  cases x with
  | error e => cases taken
  | ok a => exact ⟨a, rfl, (Except.ok.inj taken).symm⟩

theorem value_array {start : Nat} {items : Items} {result : Json}
    (read : Node.value src depth (.array start items) = .ok result) :
    1 < depth ∧ ∃ values, Items.value src (depth - 1) items = .ok values ∧
      result = .array values := by
  rw [Node.value] at read
  split at read
  · cases read
  · exact ⟨by omega, exists_of_map read⟩

theorem value_object {start : Nat} {tree : Members} {result : Json}
    (read : Node.value src depth (.object start tree) = .ok result) :
    1 < depth ∧ ∃ values, Members.value src (depth - 1) tree = .ok values ∧
      result = .object (ofMembers values) := by
  rw [Node.value] at read
  split at read
  · cases read
  · exact ⟨by omega, exists_of_map read⟩

theorem value_item {node : Node} {stop : Nat} {rest : Items} {results : List Json}
    (read : Items.value src depth (.item node stop rest) = .ok results) :
    ∃ first later, Node.value src depth node = .ok first ∧
      Items.value src depth rest = .ok later ∧ results = first :: later := by
  rw [Items.value] at read
  obtain ⟨first, front, read⟩ := exists_of_bind read
  obtain ⟨later, behind, read⟩ := exists_of_bind read
  exact ⟨first, later, front, behind, (Except.ok.inj read).symm⟩

theorem value_member {name : Except Fault String} {keyStop stop : Nat} {node : Node}
    {rest : Members} {results : List (String × Json)}
    (read : Members.value src depth (.member name keyStop node stop rest) = .ok results) :
    ∃ key first later, name = .ok key ∧ Node.value src depth node = .ok first ∧
      Members.value src depth rest = .ok later ∧ results = (key, first) :: later := by
  rw [Members.value] at read
  obtain ⟨key, same, read⟩ := exists_of_bind read
  obtain ⟨first, front, read⟩ := exists_of_bind read
  obtain ⟨later, behind, read⟩ := exists_of_bind read
  exact ⟨key, first, later, same, front, behind, (Except.ok.inj read).symm⟩

mutual

/-- Every value that a reader gives is in order. -/
theorem inOrder_of_value (node : Node) {depth : Nat} {result : Json}
    (read : Node.value src depth node = .ok result) : InOrder result := by
  match node with
  | .null _ _ =>
    cases read
    rfl
  | .bool _ _ _ =>
    cases read
    rfl
  | .number (.ok n) _ _ =>
    cases read
    rfl
  | .text (.ok s) _ _ =>
    cases read
    rfl
  | .array _ items =>
    obtain ⟨_, values, inside, rfl⟩ := value_array read
    rw [InOrder, canonical, canonicalItems_of_inOrder (inOrder_of_items items inside)]
  | .object _ tree =>
    obtain ⟨_, values, inside, rfl⟩ := value_object read
    exact isMap_ofMembers (inOrder_of_members tree inside)
  | .number (.error _) _ _ => cases read
  | .text (.error _) _ _ => cases read
  | .broken _ _ _ => cases read
  | .missing _ => cases read

theorem inOrder_of_items (items : Items) {depth : Nat} {results : List Json}
    (read : Items.value src depth items = .ok results) : ∀ item ∈ results, InOrder item := by
  match items with
  | .done _ =>
    cases read
    simp
  | .item node _ rest =>
    obtain ⟨first, later, front, behind, rfl⟩ := value_item read
    exact List.forall_mem_cons.2 ⟨inOrder_of_value node front, inOrder_of_items rest behind⟩
  | .broken _ _ => cases read

theorem inOrder_of_members (tree : Members) {depth : Nat} {results : List (String × Json)}
    (read : Members.value src depth tree = .ok results) :
    ∀ member ∈ results, InOrder member.2 := by
  match tree with
  | .done _ =>
    cases read
    simp
  | .member _ _ node _ rest =>
    obtain ⟨key, first, later, _, front, behind, rfl⟩ := value_member read
    exact List.forall_mem_cons.2 ⟨inOrder_of_value node front, inOrder_of_members rest behind⟩
  | .broken _ _ => cases read

end

/-- The members that a reader makes are a map. -/
theorem isMap_of_value {tree : Members} {values : List (String × Json)}
    (read : Members.value src depth tree = .ok values) : IsMap (ofMembers values) :=
  isMap_ofMembers (inOrder_of_members tree read)

/-- The keys of a tree's members are those of the members it holds. -/
theorem keys_of_hold {tree : Members} {values results : List (String × Json)}
    (each : tree.Hold values) (read : Members.value src depth tree = .ok results) :
    results.map Prod.fst = values.map Prod.fst := by
  induction values generalizing tree results with
  | nil =>
    cases each
    cases read
    rfl
  | cons member rest ih =>
    cases each with
    | member first later =>
      obtain ⟨key, value, others, same, _, behind, rfl⟩ := value_member read
      cases same
      rw [List.map_cons, List.map_cons, ih later behind]

/-! ## Values that are read back -/

mutual

/-- Numbers are whole and in range, and containers are nested less deep than the limit. -/
def Within : Nat → Json → Prop
  | _, .null => True
  | _, .bool _ => True
  | _, .number n => n.IsExact
  | _, .text _ => True
  | depth, .array items => 1 < depth ∧ ItemsWithin (depth - 1) items
  | depth, .object members => 1 < depth ∧ MembersWithin (depth - 1) members

def ItemsWithin : Nat → List Json → Prop
  | _, [] => True
  | depth, item :: rest => Within depth item ∧ ItemsWithin depth rest

def MembersWithin : Nat → List (String × Json) → Prop
  | _, [] => True
  | depth, (_, value) :: rest => Within depth value ∧ MembersWithin depth rest

end

theorem itemsWithin_iff (depth : Nat) (items : List Json) :
    ItemsWithin depth items ↔ ∀ item ∈ items, Within depth item := by
  induction items with
  | nil => exact ⟨fun _ _ member => absurd member List.not_mem_nil, fun _ => trivial⟩
  | cons item rest ih => rw [ItemsWithin, ih, List.forall_mem_cons]

mutual

/-- A tree of the form of a value within the limits has the value. -/
theorem value_of_holds (value : Json) {node : Node} {depth : Nat} (holds : node.Holds value)
    (within : Within depth value) : Node.value src depth node = .ok value.canonical := by
  match value, holds with
  | .null, .null => rfl
  | .bool _, .bool => rfl
  | .number n, .number exact =>
    rw [exact within]
    rfl
  | .text _, .text => rfl
  | .array items, .array each =>
    obtain ⟨deep, inside⟩ := within
    rw [Node.value, if_neg (by omega), items_of_hold items each inside]
    rfl
  | .object members, .object each =>
    obtain ⟨deep, inside⟩ := within
    rw [Node.value, if_neg (by omega), members_of_hold members each inside]
    rfl

theorem items_of_hold (values : List Json) {items : Items} {depth : Nat}
    (each : items.Hold values) (within : ItemsWithin depth values) :
    Items.value src depth items = .ok (canonicalItems values) := by
  match values, each with
  | [], .done => rfl
  | value :: rest, .item first later =>
    obtain ⟨front, behind⟩ := within
    rw [Items.value, value_of_holds value first front, items_of_hold rest later behind]
    rfl

theorem members_of_hold (values : List (String × Json)) {tree : Members} {depth : Nat}
    (each : tree.Hold values) (within : MembersWithin depth values) :
    Members.value src depth tree = .ok (canonicalMembers values) := by
  match values, each with
  | [], .done => rfl
  | (key, value) :: rest, .member first later =>
    obtain ⟨front, behind⟩ := within
    rw [Members.value, value_of_holds value first front, members_of_hold rest later behind]
    rfl

end

/-- The text of a value is read as the same value, in order. -/
def ReadsBack (value : Json) : Prop := parse value.render = .ok value.canonical

/-- A value within the limits is read back. -/
theorem parse_render {value : Json} (within : Within depthLimit value) : ReadsBack value := by
  obtain ⟨node, stop, read, holds, finished⟩ := Source.nodeAt_render value
  unfold ReadsBack parse
  simp only [read, value_of_holds value holds within, Option.getD_some, finished]
  rfl

/-- What reading back says about the tree of the text. -/
theorem ReadsBack.tree {value : Json} (back : ReadsBack value) :
    ∃ node stop, (Source.ofString value.render).nodeAt 0 = (node, some stop) ∧ node.Holds value ∧
      (Source.ofString value.render).checkEnd stop = .ok () ∧
      Node.value (Source.ofString value.render) depthLimit node = .ok value.canonical := by
  obtain ⟨node, stop, read, holds, finished⟩ := Source.nodeAt_render value
  refine ⟨node, stop, read, holds, finished, ?_⟩
  unfold ReadsBack parse at back
  simp only [read] at back
  cases whole : Node.value (Source.ofString value.render) depthLimit node with
  | error fault => simp [whole] at back
  | ok result =>
    simp only [whole, Option.getD_some, finished] at back
    exact back

end DeviceAdmission.Json
