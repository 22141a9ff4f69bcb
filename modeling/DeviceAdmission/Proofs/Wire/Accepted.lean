import DeviceAdmission.Proofs.Wire.RoundTrip

/-!
# What an accepted document says

A document may have been written by anyone: with its members in any order, with some left out, or as a
list. Two things are known of it once it was accepted. The tables that were read of it are maps, so the
value can be written and read again; and the first field was read from the first member of its key.

* `Shape.slots_of_record`, `Shape.items_of_record`: a record was read from its members, through the
  slots, or from the items of a list.
* `Shape.settled_of_ofJson`: whatever is read is settled, by recursion on the shape; the invariant of
  the slots carries it over the members.
* `Form.parse_again`: a value that was read is read again from what it is written as.
* `Shape.read_first`, `text_of_registered`: where the first field was read, and what a register was
  read from.
-/
namespace DeviceAdmission.Wire

open Json (Source Node Items Members IsMap ReadsBack exists_of_bind exists_of_map)

variable {src : Source} {depth : Nat}

theorem entering_ok {α : Type} {start : Nat} {read : Nat → Except Halt α} {result : α}
    (taken : entering src depth start read = .ok result) : read (depth - 1) = .ok result := by
  unfold entering at taken
  split at taken
  · cases taken
  · exact taken

theorem placing_ok {α : Type} {close : Nat → Nat} {read : Except Halt α} {result : α}
    (taken : placing close read = .ok result) : read = .ok result := by
  unfold placing at taken
  split at taken
  · cases taken
  · exact taken

theorem wrongType_ne_ok {α : Type} {expected : String} {node : Node} {result : α} :
    wrongType expected node ≠ .ok result := by
  unfold wrongType
  split <;> simp

theorem of_mem_readList {α : Type} {read : Node → Except Halt α} {P : α → Prop}
    (each : ∀ node v, read node = .ok v → P v) (items : Items) {values : List α}
    (taken : readList read items = .ok values) : ∀ v ∈ values, P v := by
  match items with
  | .done _ =>
    cases taken
    simp
  | .item node _ rest =>
    rw [readList] at taken
    obtain ⟨first, front, taken⟩ := exists_of_bind taken
    obtain ⟨later, behind, taken⟩ := exists_of_bind taken
    obtain rfl : first :: later = values := Except.ok.inj taken
    exact List.forall_mem_cons.2 ⟨each node first front, of_mem_readList each rest behind⟩
  | .broken _ _ => cases taken

/-- What every member keeps of the slots holds of them after the last one. -/
theorem readSlots_keeps {σ : Type} {put : String → Nat → Node → σ → Except Halt σ} {P : σ → Prop}
    (keeps : ∀ {key stop node slots next}, put key stop node slots = .ok next → P slots → P next)
    (tree : Members) {slots last : σ} {cursor : Nat}
    (taken : readSlots put tree slots = .ok (last, cursor)) (before : P slots) : P last := by
  match tree with
  | .done _ =>
    cases taken
    exact before
  | .member (.error _) _ _ _ _ => cases taken
  | .member (.ok key) stop node _ rest =>
    obtain ⟨next, front, taken⟩ := exists_of_bind taken
    exact readSlots_keeps keeps rest taken (keeps front before)
  | .broken _ _ => cases taken

/-! ## What a record was read from -/

section

variable {name : String} {strict : Bool} {fields : Fields}
  {v : (Shape.record name strict fields).Carrier} {start : Nat}

/-- The members of an object filled the slots that gave the value. -/
theorem Shape.slots_of_record {tree : Members}
    (taken : (Shape.record name strict fields).ofJson src depth (.object start tree) = .ok v) :
    ∃ last cursor,
      readSlots (fields.put src (depth - 1) (if strict then some fields.keys else none)) tree
        fields.empty = .ok (last, cursor) ∧ fields.finish last = .ok v := by
  rw [Shape.ofJson] at taken
  obtain ⟨⟨last, cursor⟩, filled, closed⟩ := exists_of_bind (placing_ok (entering_ok taken))
  refine ⟨last, cursor, filled, ?_⟩
  cases finished : fields.finish last with
  | error m => simp [finished] at closed
  | ok own =>
    simp only [finished] at closed
    cases closed
    rfl

/-- The items of a list gave the value. -/
theorem Shape.items_of_record {items : Items}
    (taken : (Shape.record name strict fields).ofJson src depth (.array start items) = .ok v) :
    ∃ cursor, fields.ofItems src (depth - 1) (elementCount name fields) 0 items (start + 1) =
      .ok (v, cursor) := by
  rw [Shape.ofJson] at taken
  obtain ⟨⟨own, cursor⟩, filled, closed⟩ := exists_of_bind (placing_ok (entering_ok taken))
  obtain ⟨_, _, closed⟩ := exists_of_bind closed
  cases closed
  exact ⟨cursor, filled⟩

/-- A member went into the first slot of a record, or into the slots after it. -/
theorem slot_or_later {α β : Type} {mine : Bool} {again : Halt} {slot : Option α} {slots : β}
    {read : Except Halt α} {later : Except Halt β} {next : Option α × β}
    (taken : (if mine then if slot.isSome then .error again else read.map fun v => (some v, slots)
      else later.map fun slots => (slot, slots)) = Except.ok next) :
    (∃ v, read = .ok v ∧ next = (some v, slots)) ∨
      ∃ others, later = .ok others ∧ next = (slot, others) := by
  split at taken
  · split at taken
    · cases taken
    · exact .inl (exists_of_map taken)
  · exact .inr (exists_of_map taken)

end

/-! ## Settled values -/

/-- The tables in what has been read so far are maps. -/
def Fields.SlotsSettled : (fs : Fields) → fs.Slots → Prop
  | .done, _ => True
  | .required _ shape rest, (slot, slots) =>
    (∀ v, slot = some v → shape.Settled v) ∧ rest.SlotsSettled slots
  | .defaulted _ shape rest, (slot, slots) =>
    (∀ v, slot = some v → shape.Settled v) ∧ rest.SlotsSettled slots
  | .optional _ _ shape rest, (slot, slots) =>
    (∀ v, slot = some (some v) → shape.Settled v) ∧ rest.SlotsSettled slots

theorem Fields.slotsSettled_empty : (fs : Fields) → fs.SlotsSettled fs.empty
  | .done => trivial
  | .required _ _ rest => ⟨fun _ filled => (by cases filled), rest.slotsSettled_empty⟩
  | .defaulted _ _ rest => ⟨fun _ filled => (by cases filled), rest.slotsSettled_empty⟩
  | .optional _ _ _ rest => ⟨fun _ filled => (by cases filled), rest.slotsSettled_empty⟩

theorem Fields.settled_of_finish : (fs : Fields) → ∀ {slots : fs.Slots} {v : fs.Carrier},
    fs.finish slots = .ok v → fs.SlotsSettled slots → fs.Settled v
  | .done, _, _, _, _ => trivial
  | .required _ _ rest, (some v, slots), _, taken, settled => by
    obtain ⟨vs, later, rfl⟩ := exists_of_map taken
    exact ⟨settled.1 v rfl, rest.settled_of_finish later settled.2⟩
  | .required _ _ _, (none, _), _, taken, _ => by cases taken
  | .defaulted _ _ rest, (slot, slots), _, taken, settled => by
    obtain ⟨vs, later, rfl⟩ := exists_of_map taken
    exact ⟨settled.1, rest.settled_of_finish later settled.2⟩
  | .optional _ _ _ rest, (slot, slots), _, taken, settled => by
    obtain ⟨vs, later, rfl⟩ := exists_of_map taken
    exact ⟨fun v filled => settled.1 v (Option.join_eq_some_iff.1 filled),
      rest.settled_of_finish later settled.2⟩

/-- A register is only read from a text that is registered. -/
theorem text_of_registered {names : List String} {complaint : String} {node : Node} {v : String}
    (taken : (Shape.registered names complaint).ofJson src depth node = .ok v) :
    ∃ start stop, node = .text (.ok v) start stop ∧ v ∈ names := by
  cases node with
  | text value start stop =>
    cases value with
    | error fault => cases taken
    | ok s =>
      simp only [Shape.ofJson] at taken
      split at taken
      · next found =>
        cases taken
        exact ⟨start, stop, rfl, List.contains_iff_mem.1 found⟩
      · cases taken
  | _ =>
    simp only [Shape.ofJson] at taken
    exact absurd taken wrongType_ne_ok

mutual

/-- Whatever is read of a shape is settled. -/
theorem Shape.settled_of_ofJson : (s : Shape) → ∀ {depth : Nat} {node : Node} {v : s.Carrier},
    s.ofJson src depth node = .ok v → s.Settled v
  | .text, _, _, _, _ => trivial
  | .flag, _, _, _, _ => trivial
  | .whole _, _, _, _, _ => trivial
  | .choice _, _, _, _, _ => trivial
  | .registered _ _, _, _, _, taken => by
    obtain ⟨_, _, _, member⟩ := text_of_registered taken
    exact member
  | .list item, _, node, _, taken => by
    cases node with
    | array start items =>
      rw [Shape.ofJson] at taken
      exact of_mem_readList (fun _ _ own => item.settled_of_ofJson own) items
        (placing_ok (entering_ok taken))
    | _ =>
      simp only [Shape.ofJson] at taken
      exact absurd taken wrongType_ne_ok
  | .table, depth, node, _, taken => by
    cases node with
    | object start tree =>
      rw [Shape.ofJson] at taken
      have inside := entering_ok taken
      cases whole : Members.value src (depth - 1) tree with
      | error fault => simp [whole] at inside
      | ok members =>
        rw [whole] at inside
        cases inside
        exact Json.isMap_of_value whole
    | _ =>
      simp only [Shape.ofJson] at taken
      exact absurd taken wrongType_ne_ok
  | .record name strict fields, depth, node, _, taken => by
    cases node with
    | object start tree =>
      obtain ⟨last, cursor, filled, finished⟩ := Shape.slots_of_record taken
      have settled := readSlots_keeps (fun taken before => fields.settled_of_put taken before) tree
        filled fields.slotsSettled_empty
      exact fields.settled_of_finish finished settled
    | array start items =>
      obtain ⟨cursor, filled⟩ := Shape.items_of_record taken
      exact fields.settled_of_ofItems filled
    | _ =>
      simp only [Shape.ofJson] at taken
      exact absurd taken wrongType_ne_ok

/-- A member keeps the slots settled. -/
theorem Fields.settled_of_put : (fs : Fields) → ∀ {depth : Nat} {strict : Option (List String)}
    {key : String} {stop : Nat} {node : Node} {slots next : fs.Slots},
    fs.put src depth strict key stop node slots = .ok next → fs.SlotsSettled slots →
      fs.SlotsSettled next
  | .done, _, _, _, _, _, _, _, _, _ => trivial
  | .required k shape rest, depth, strict, key, stop, node, (slot, slots), next, taken, before => by
    rw [Fields.put] at taken
    rcases slot_or_later taken with ⟨v, own, rfl⟩ | ⟨others, later, rfl⟩
    · exact ⟨fun w filled => Option.some_inj.1 filled ▸ shape.settled_of_ofJson own, before.2⟩
    · exact ⟨before.1, rest.settled_of_put later before.2⟩
  | .defaulted k shape rest, depth, strict, key, stop, node, (slot, slots), next, taken, before => by
    rw [Fields.put] at taken
    rcases slot_or_later taken with ⟨v, own, rfl⟩ | ⟨others, later, rfl⟩
    · exact ⟨fun w filled => Option.some_inj.1 filled ▸ shape.settled_of_ofJson own, before.2⟩
    · exact ⟨before.1, rest.settled_of_put later before.2⟩
  | .optional k lax shape rest, depth, strict, key, stop, node, (slot, slots), next, taken, before => by
    simp only [Fields.put] at taken
    split at taken
    · split at taken
      · cases taken
      · split at taken
        · cases taken
          exact ⟨fun w filled => (by cases filled), before.2⟩
        · obtain ⟨v, own, rfl⟩ := exists_of_map taken
          refine ⟨fun w filled => ?_, before.2⟩
          obtain rfl : v = w := Option.some_inj.1 (Option.some_inj.1 filled)
          exact shape.settled_of_ofJson own
    · obtain ⟨others, later, rfl⟩ := exists_of_map taken
      exact ⟨before.1, rest.settled_of_put later before.2⟩

/-- A record written as a list is settled too. -/
theorem Fields.settled_of_ofItems : (fs : Fields) → ∀ {depth : Nat} {expected : String}
    {count : Nat} {items : Items} {start cursor : Nat} {v : fs.Carrier},
    fs.ofItems src depth expected count items start = .ok (v, cursor) → fs.Settled v
  | .done, _, _, _, _, _, _, _, _ => trivial
  | .required _ shape rest, _, _, _, .item node stop items, _, _, _, taken => by
    obtain ⟨v, own, taken⟩ := exists_of_bind taken
    obtain ⟨⟨vs, cursor⟩, later, taken⟩ := exists_of_bind taken
    cases taken
    exact ⟨shape.settled_of_ofJson own, rest.settled_of_ofItems later⟩
  | .required _ _ _, _, _, _, .done _, _, _, _, taken => by cases taken
  | .required _ _ _, _, _, _, .broken _ _, _, _, _, taken => by cases taken
  | .defaulted _ shape rest, _, _, _, .item node stop items, _, _, _, taken => by
    obtain ⟨v, own, taken⟩ := exists_of_bind taken
    obtain ⟨⟨vs, cursor⟩, later, taken⟩ := exists_of_bind taken
    cases taken
    exact ⟨fun w filled => Option.some_inj.1 filled ▸ shape.settled_of_ofJson own,
      rest.settled_of_ofItems later⟩
  | .defaulted _ _ rest, _, _, _, .done _, _, _, _, taken => by
    obtain ⟨⟨vs, cursor⟩, later, taken⟩ := exists_of_bind taken
    cases taken
    exact ⟨fun w filled => (by cases filled), rest.settled_of_ofItems later⟩
  | .defaulted _ _ _, _, _, _, .broken _ _, _, _, _, taken => by cases taken
  | .optional _ _ shape rest, _, _, _, .item node stop items, _, _, _, taken => by
    simp only [Fields.ofItems] at taken
    split at taken
    · obtain ⟨slot, same, taken⟩ := exists_of_bind taken
      obtain ⟨⟨vs, cursor⟩, later, taken⟩ := exists_of_bind taken
      cases same
      cases taken
      exact ⟨fun w filled => (by cases filled), rest.settled_of_ofItems later⟩
    · obtain ⟨slot, own, taken⟩ := exists_of_bind taken
      obtain ⟨v, read, same⟩ := exists_of_map own
      obtain ⟨⟨vs, cursor⟩, later, taken⟩ := exists_of_bind taken
      cases same
      cases taken
      exact ⟨fun w filled => Option.some_inj.1 filled ▸ shape.settled_of_ofJson read,
        rest.settled_of_ofItems later⟩
  | .optional _ lax _ rest, _, _, _, .done _, _, _, _, taken => by
    simp only [Fields.ofItems] at taken
    split at taken
    · obtain ⟨⟨vs, cursor⟩, later, taken⟩ := exists_of_bind taken
      cases taken
      exact ⟨fun w filled => (by cases filled), rest.settled_of_ofItems later⟩
    · cases taken
  | .optional _ _ _ _, _, _, _, .broken _ _, _, _, _, taken => by cases taken

end

/-- What is read from a text was read from its tree. -/
theorem Shape.read_of_parse {s : Shape} {text : String} {v : s.Carrier}
    (taken : s.parse text = .ok v) :
    s.ofJson (Source.ofString text) Json.depthLimit ((Source.ofString text).nodeAt 0).1 = .ok v := by
  unfold Shape.parse at taken
  simp only at taken
  split at taken
  · cases taken
  · cases taken
  · cases taken
  · next own =>
    split at taken
    · cases taken
      exact own
    · cases taken

/-- A value that was read is read again from what it is written as, if its written form only adds
settled values. -/
theorem Form.parse_again {α : Type} {form : Form α} (lawful : form.Lawful)
    (keeps : ∀ v, form.shape.Settled v → form.shape.Settled (form.toCarrier (form.ofCarrier v)))
    {text : String} {value : α} (taken : form.parse text = .ok value)
    (back : ReadsBack (form.encode value)) : form.parse (form.encode value).render = .ok value := by
  obtain ⟨v, own, rfl⟩ := exists_of_map taken
  have settled := form.shape.settled_of_ofJson (Shape.read_of_parse own)
  exact Form.parse_encode lawful (keeps v settled) back

/-! ## The first field -/

/-- The node at the first member of a key. -/
def nodeOf (key : String) : Members → Option Node
  | .member (.ok k) _ node _ rest => if key = k then some node else nodeOf key rest
  | _ => none

variable {key : String} {shape : Shape} {rest : Fields} {strict : Option (List String)}

/-- A required field that is filled stays as it is. -/
theorem Fields.put_filled {k : String} {stop : Nat} {node : Node} {v : shape.Carrier}
    {slots next : (Fields.required key shape rest).Slots}
    (taken : (Fields.required key shape rest).put src depth strict k stop node slots = .ok next)
    (filled : slots.1 = some v) : next.1 = some v := by
  obtain ⟨slot, slots⟩ := slots
  obtain rfl : slot = some v := filled
  rw [Fields.put] at taken
  split at taken
  · cases taken
  · obtain ⟨others, _, rfl⟩ := exists_of_map taken
    rfl

/-- What the first field of a record holds was read from the first member of its key. -/
theorem Fields.read_first (tree : Members) {slots : rest.Slots} {v : shape.Carrier}
    {last : rest.Slots} {cursor : Nat}
    (taken : readSlots ((Fields.required key shape rest).put src depth strict) tree (none, slots) =
      .ok ((some v, last), cursor)) :
    ∃ node, nodeOf key tree = some node ∧ shape.ofJson src depth node = .ok v := by
  match tree with
  | .done _ => cases taken
  | .broken _ _ => cases taken
  | .member (.error _) _ _ _ _ => cases taken
  | .member (.ok k) stop node _ others =>
    obtain ⟨next, own, taken⟩ := exists_of_bind taken
    rw [Fields.put] at own
    by_cases mine : key = k
    · rw [if_pos (by simpa using mine), if_neg (by simp)] at own
      obtain ⟨w, read, rfl⟩ := exists_of_map own
      have kept := readSlots_keeps
        (P := fun slots : (Fields.required key shape rest).Slots => slots.1 = some w)
        Fields.put_filled others taken rfl
      obtain rfl : v = w := Option.some_inj.1 kept
      exact ⟨node, by rw [nodeOf, if_pos mine], read⟩
    · rw [if_neg (by simpa using mine)] at own
      obtain ⟨later, _, rfl⟩ := exists_of_map own
      obtain ⟨found, first, read⟩ := Fields.read_first others taken
      exact ⟨found, by rw [nodeOf, if_neg mine, first], read⟩

/-- The first field of a record was read from the first member of its key, or from the first item if
the record was written as a list. -/
theorem Shape.read_first {name : String} {strict : Bool} {node : Node}
    {v : (Shape.record name strict (.required key shape rest)).Carrier}
    (taken : (Shape.record name strict (.required key shape rest)).ofJson src depth node = .ok v) :
    (∃ start tree first, node = .object start tree ∧ nodeOf key tree = some first ∧
        shape.ofJson src (depth - 1) first = .ok v.1) ∨
      ∃ start first stop items, node = .array start (.item first stop items) ∧
        shape.ofJson src (depth - 1) first = .ok v.1 := by
  cases node with
  | object start tree =>
    obtain ⟨⟨slot, last⟩, cursor, filled, finished⟩ := Shape.slots_of_record taken
    cases slot with
    | none => cases finished
    | some own =>
      obtain ⟨first, found, read⟩ := Fields.read_first tree filled
      obtain ⟨others, _, rfl⟩ := exists_of_map finished
      exact .inl ⟨start, tree, first, rfl, found, read⟩
  | array start items =>
    obtain ⟨cursor, filled⟩ := Shape.items_of_record taken
    cases items with
    | done stop => cases filled
    | broken strict lenient => cases filled
    | item first stop items =>
      obtain ⟨w, read, filled⟩ := exists_of_bind filled
      obtain ⟨⟨others, cursor⟩, _, filled⟩ := exists_of_bind filled
      cases filled
      exact .inr ⟨start, first, stop, items, rfl, read⟩
  | _ =>
    simp only [Shape.ofJson] at taken
    exact absurd taken wrongType_ne_ok

end DeviceAdmission.Wire
