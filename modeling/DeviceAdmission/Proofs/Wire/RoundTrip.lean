import DeviceAdmission.Proofs.Json.Canonical
import DeviceAdmission.Wire.FromJson

/-!
# Records are read back from what they were written as

A record leaves out the fields without a value, so the reader has to find every other field under its
own key and to know the ones that are not there as such. That asks of a shape only that its keys and
its labels differ (`Lawful`), and of a value that the tables in it are maps (`Settled`).

* `Shape.ofJson_encode`: the tree of a written value is read as the value.
* `Form.parse_encode`: so is the text, if its JSON is read back at all.
* `Shape.within_encode`: which it is for every value of a shape without tables.
-/
namespace DeviceAdmission.Wire

open Json (Source Node Items Members IsMap ReadsBack exists_of_bind exists_of_map)

/-! ## Scalars -/

theorem Width.ofInt?_toInt (w : Width) (v : w.Carrier) : w.ofInt? (w.toInt v) = some v := by
  cases w with
  | unsigned16 =>
    have bound := UInt16.toNat_lt v
    simp [ofInt?, range, toInt, ofInt]
    omega
  | signed32 =>
    have low := Int32.le_toInt v
    have high := Int32.toInt_lt v
    simp [ofInt?, range, toInt, ofInt]
    omega
  | unsigned32 =>
    have bound := UInt32.toNat_lt v
    simp [ofInt?, range, toInt, ofInt]
    omega
  | unsigned64 =>
    have bound := UInt64.toNat_lt v
    simp [ofInt?, range, toInt, ofInt]
    omega
  | size =>
    have bound := UInt64.toNat_lt v
    simp [ofInt?, range, toInt, ofInt]
    omega

theorem indexOf?_get {names : List String} (different : names.Nodup) (i : Fin names.length) :
    indexOf? (names.get i) names = some i := by
  induction names with
  | nil => exact i.elim0
  | cons name rest ih =>
    obtain ⟨fresh, later⟩ := List.nodup_cons.1 different
    cases i using Fin.cases with
    | zero => simp [indexOf?]
    | succ j =>
      have other : ¬ (name == rest.get j) = true := by
        rw [beq_iff_eq]
        rintro rfl
        exact fresh (List.get_mem rest j)
      have mine := ih later j
      change indexOf? (rest.get j) (name :: rest) = some j.succ
      rw [indexOf?, if_neg other, mine]
      rfl

/-! ## Shapes and values -/

mutual

/-- The names in one place differ. -/
def Shape.Lawful : Shape → Prop
  | .text => True
  | .flag => True
  | .whole _ => True
  | .choice labels => labels.Nodup
  | .registered _ _ => True
  | .list item => item.Lawful
  | .table => True
  | .record _ _ fields => fields.keys.Nodup ∧ fields.Lawful

def Fields.Lawful : Fields → Prop
  | .done => True
  | .required _ shape rest => shape.Lawful ∧ rest.Lawful
  | .defaulted _ shape rest => shape.Lawful ∧ rest.Lawful
  | .optional _ _ shape rest => shape.Lawful ∧ rest.Lawful

end

mutual

def Shape.decideLawful : (s : Shape) → Decidable s.Lawful
  | .text => .isTrue trivial
  | .flag => .isTrue trivial
  | .whole _ => .isTrue trivial
  | .choice labels => inferInstanceAs (Decidable labels.Nodup)
  | .registered _ _ => .isTrue trivial
  | .list item => item.decideLawful
  | .table => .isTrue trivial
  | .record _ _ fields => @instDecidableAnd fields.keys.Nodup _ inferInstance fields.decideLawful

def Fields.decideLawful : (fs : Fields) → Decidable fs.Lawful
  | .done => .isTrue trivial
  | .required _ shape rest => @instDecidableAnd _ _ shape.decideLawful rest.decideLawful
  | .defaulted _ shape rest => @instDecidableAnd _ _ shape.decideLawful rest.decideLawful
  | .optional _ _ shape rest => @instDecidableAnd _ _ shape.decideLawful rest.decideLawful

end

instance (s : Shape) : Decidable s.Lawful := s.decideLawful

mutual

/-- The tables in a value are maps, and the names that belong in a register are in it. -/
def Shape.Settled : (s : Shape) → s.Carrier → Prop
  | .text, _ => True
  | .flag, _ => True
  | .whole _, _ => True
  | .choice _, _ => True
  | .registered names _, v => v ∈ names
  | .list item, vs => ∀ v, List.Mem v vs → item.Settled v
  | .table, v => IsMap v
  | .record _ _ fields, v => fields.Settled v

def Fields.Settled : (fs : Fields) → fs.Carrier → Prop
  | .done, _ => True
  | .required _ shape rest, (v, vs) => shape.Settled v ∧ rest.Settled vs
  | .defaulted _ shape rest, (slot, vs) => (∀ v ∈ slot, shape.Settled v) ∧ rest.Settled vs
  | .optional _ _ shape rest, (slot, vs) => (∀ v ∈ slot, shape.Settled v) ∧ rest.Settled vs

end

/-! ## Reading a written value -/

variable {src : Source} {depth : Nat}

theorem entering_of_deep {α : Type} {start : Nat} {read : Nat → Except Halt α}
    (deep : 1 < depth) : entering src depth start read = read (depth - 1) :=
  if_neg (by omega)

theorem readList_of_hold {α : Type} {read : Node → Except Halt α} {encode : α → Json}
    {values : List α} {items : Items}
    (each : ∀ v ∈ values, ∀ node : Node, node.Holds (encode v) →
      Node.value src depth node = .ok (encode v).canonical → read node = .ok v)
    (hold : items.Hold (values.map encode))
    (value : Items.value src depth items = .ok (Json.canonicalItems (values.map encode))) :
    readList read items = .ok values := by
  induction values generalizing items with
  | nil =>
    cases hold
    rfl
  | cons v rest ih =>
    cases hold with
    | item first later =>
      obtain ⟨_, _, front, behind, same⟩ := Json.value_item value
      obtain ⟨rfl, rfl⟩ := List.cons.inj same
      have head := each v List.mem_cons_self _ first front
      have tail := ih (fun w member => each w (List.mem_cons_of_mem _ member)) later behind
      simp [readList, head, tail, bind, Except.bind, pure, Except.pure]

/-- A reader of slots leaves the first slot as it is for every key but one. -/
def Passes {σ τ : Type} (key : String) (putAll : String → Nat → Node → τ × σ → Except Halt (τ × σ))
    (put : String → Nat → Node → σ → Except Halt σ) : Prop :=
  ∀ {other : String}, key ≠ other → ∀ (stop : Nat) (node : Node) (slot : τ) (slots : σ),
    putAll other stop node (slot, slots) =
      (put other stop node slots).map fun slots => (slot, slots)

/-- Members with other keys leave the first slot as it is. -/
theorem readSlots_past {σ τ : Type} {key : String}
    {putAll : String → Nat → Node → τ × σ → Except Halt (τ × σ)}
    {put : String → Nat → Node → σ → Except Halt σ} (passes : Passes key putAll put)
    {tree : Members} {values : List (String × Json)} (hold : tree.Hold values)
    (absent : key ∉ values.map Prod.fst) {slots last : σ} {cursor : Nat}
    (read : readSlots put tree slots = .ok (last, cursor)) (slot : τ) :
    readSlots putAll tree (slot, slots) = .ok ((slot, last), cursor) := by
  induction values generalizing tree slots with
  | nil =>
    cases hold
    cases read
    rfl
  | cons member rest ih =>
    cases hold with
    | @member other keyStop node _ stop tree _ _ later =>
      rw [List.map_cons, List.mem_cons, not_or] at absent
      have here := passes absent.1 keyStop node slot slots
      simp only [readSlots, here] at read ⊢
      cases taken : put other keyStop node slots with
      | error halt => simp [taken, bind, Except.bind] at read
      | ok next =>
        rw [taken] at read
        exact ih later absent.2 read

/-- A member with the key fills the first slot. -/
theorem readSlots_own {σ τ : Type} {key : String}
    {putAll : String → Nat → Node → τ × σ → Except Halt (τ × σ)}
    {put : String → Nat → Node → σ → Except Halt σ} (passes : Passes key putAll put)
    {keyStop stop : Nat} {node : Node} {empty full : τ} {slots last : σ}
    (taken : putAll key keyStop node (empty, slots) = .ok (full, slots)) {tree : Members}
    {values : List (String × Json)} (hold : tree.Hold values)
    (absent : key ∉ values.map Prod.fst) {cursor : Nat}
    (read : readSlots put tree slots = .ok (last, cursor)) :
    readSlots putAll (.member (.ok key) keyStop node stop tree) (empty, slots) =
      .ok ((full, last), cursor) := by
  simp only [readSlots, taken, bind, Except.bind]
  exact readSlots_past passes hold absent read full

/-- The first of some written members. -/
theorem first_of_hold {key : String} {value : Json} {values : List (String × Json)}
    {tree : Members} (hold : tree.Hold ((key, value) :: values))
    (read : Members.value src depth tree =
      .ok (Json.canonicalMembers ((key, value) :: values))) :
    ∃ keyStop node stop rest, tree = .member (.ok key) keyStop node stop rest ∧
      node.Holds value ∧ Node.value src depth node = .ok value.canonical ∧ rest.Hold values ∧
      Members.value src depth rest = .ok (Json.canonicalMembers values) := by
  cases hold with
  | member first later =>
    obtain ⟨_, _, _, _, front, behind, equal⟩ := Json.value_member read
    obtain ⟨head, rfl⟩ := List.cons.inj equal
    obtain ⟨_, rfl⟩ := Prod.mk.inj head
    exact ⟨_, _, _, _, rfl, first, front, later, behind⟩

/-- What has been read of each field when all of a written record has been read. -/
def Fields.slotsOf : (fs : Fields) → fs.Carrier → fs.Slots
  | .done, _ => ()
  | .required _ _ rest, (v, vs) => (some v, rest.slotsOf vs)
  | .defaulted _ _ rest, (slot, vs) => (slot, rest.slotsOf vs)
  | .optional _ _ _ rest, (slot, vs) => (slot.map some, rest.slotsOf vs)

theorem Fields.finish_slotsOf : (fs : Fields) → (v : fs.Carrier) → fs.finish (fs.slotsOf v) = .ok v
  | .done, _ => rfl
  | .required _ _ rest, (_, vs) => by
    simp only [finish, slotsOf, rest.finish_slotsOf vs]
    rfl
  | .defaulted _ _ rest, (slot, vs) => by
    simp only [finish, slotsOf, rest.finish_slotsOf vs]
    rfl
  | .optional _ _ _ rest, (slot, vs) => by
    simp only [finish, slotsOf, rest.finish_slotsOf vs]
    cases slot <;> rfl

/-- A record is written with some of its keys, in their order. -/
theorem Fields.keys_encode : (fs : Fields) → (v : fs.Carrier) →
    ((fs.encode v).map Prod.fst).Sublist fs.keys
  | .done, _ => .slnil
  | .required key _ rest, (_, vs) => (rest.keys_encode vs).cons_cons key
  | .defaulted key _ rest, (some _, vs) => (rest.keys_encode vs).cons_cons key
  | .defaulted key _ rest, (none, vs) => (rest.keys_encode vs).cons key
  | .optional key _ _ rest, (some _, vs) => (rest.keys_encode vs).cons_cons key
  | .optional key _ _ rest, (none, vs) => (rest.keys_encode vs).cons key

/-- No value is written as null. -/
theorem Shape.encode_ne_null (s : Shape) (v : s.Carrier) : s.encode v ≠ .null := by
  cases s <;> simp [Shape.encode]

section

variable {key : String} {shape : Shape} {rest : Fields} {strict : Option (List String)} {stop : Nat}
  {node : Node} {slots : rest.Slots} {v : shape.Carrier}

theorem Fields.passes_required :
    Passes key ((Fields.required key shape rest).put src depth strict)
      (rest.put src depth strict) := by
  intro other differs stop node slot slots
  simp only [Fields.put, beq_iff_eq, if_neg differs]
  rfl

theorem Fields.passes_defaulted :
    Passes key ((Fields.defaulted key shape rest).put src depth strict)
      (rest.put src depth strict) := by
  intro other differs stop node slot slots
  simp only [Fields.put, beq_iff_eq, if_neg differs]
  rfl

theorem Fields.passes_optional {lax : Bool} :
    Passes key ((Fields.optional key lax shape rest).put src depth strict)
      (rest.put src depth strict) := by
  intro other differs stop node slot slots
  simp only [Fields.put, beq_iff_eq, if_neg differs]
  rfl

theorem Fields.put_required (own : shape.ofJson src depth node = .ok v) :
    (Fields.required key shape rest).put src depth strict key stop node (none, slots) =
      .ok (some v, slots) := by
  simp only [Fields.put, beq_self_eq_true, if_true, own]
  rfl

theorem Fields.put_defaulted (own : shape.ofJson src depth node = .ok v) :
    (Fields.defaulted key shape rest).put src depth strict key stop node (none, slots) =
      .ok (some v, slots) := by
  simp only [Fields.put, beq_self_eq_true, if_true, own]
  rfl

theorem Fields.put_optional {lax : Bool} (holds : node.Holds (shape.encode v))
    (own : shape.ofJson src depth node = .ok v) :
    (Fields.optional key lax shape rest).put src depth strict key stop node (none, slots) =
      .ok (some (some v), slots) := by
  have written := shape.encode_ne_null v
  cases node with
  | null i k =>
    generalize shape.encode v = value at holds written
    cases holds
    exact absurd rfl written
  | _ =>
    simp only [Fields.put, beq_self_eq_true, if_true, own]
    rfl

end

/-- The keys of a record differ, so its members are known one by one from their map. -/
theorem Fields.values_of_hold (fields : Fields) (different : fields.keys.Nodup)
    {v : fields.Carrier} {tree : Members} {values : List (String × Json)}
    (hold : tree.Hold (fields.encode v)) (inside : Members.value src depth tree = .ok values)
    (same : (Json.object (fields.encode v)).canonical = .object (Json.ofMembers values)) :
    values = Json.canonicalMembers (fields.encode v) := by
  have keys := Json.keys_of_hold hold inside
  have apart : (values.map Prod.fst).Nodup := by
    rw [keys]
    exact (fields.keys_encode v).nodup different
  have sorted : Json.ofMembers values =
      Json.ofMembers (Json.canonicalMembers (fields.encode v)) := by
    simpa [Json.canonical] using same.symm
  exact Json.eq_of_ofMembers_eq (keys.trans (Json.keys_canonicalMembers _).symm) apart sorted

mutual

/-- The tree of a written value is read as the value. -/
theorem Shape.ofJson_encode : (s : Shape) → s.Lawful → (v : s.Carrier) → s.Settled v →
    ∀ {depth : Nat} {node : Node}, node.Holds (s.encode v) →
      Node.value src depth node = .ok (s.encode v).canonical → s.ofJson src depth node = .ok v
  | .text, _, v, _, _, _, holds, _ => by
    rw [Shape.encode] at holds
    cases holds
    rfl
  | .flag, _, v, _, _, _, holds, _ => by
    rw [Shape.encode] at holds
    cases holds
    rfl
  | .whole width, _, v, _, _, _, holds, value => by
    rw [Shape.encode] at holds value
    cases holds with
    | @number read _ _ _ _ =>
      cases read with
      | error fault => cases value
      | ok n =>
        have same : n = .whole (width.toInt v) := by
          simpa [Node.value, Except.map, Json.canonical] using value
        rw [same, Shape.ofJson]
        simp only [width.ofInt?_toInt v]
  | .choice labels, lawful, v, _, _, _, holds, _ => by
    rw [Shape.encode] at holds
    cases holds
    simp only [Shape.ofJson, choice, label, indexOf?_get lawful v]
    rfl
  | .registered names _, _, v, settled, _, _, holds, _ => by
    rw [Shape.encode] at holds
    cases holds
    have known : names.contains v = true := List.contains_iff_mem.2 settled
    simp only [Shape.ofJson, known, if_true]
  | .list item, lawful, vs, settled, _, _, holds, value => by
    rw [Shape.encode] at holds value
    cases holds with
    | array hold =>
      obtain ⟨deep, values, inside, same⟩ := Json.value_array value
      obtain rfl : Json.canonicalItems (List.map item.encode vs) = values := by
        simpa [Json.canonical] using same
      have each := readList_of_hold (fun v member _ holds value =>
        item.ofJson_encode lawful v (settled v member) holds value) hold inside
      rw [Shape.ofJson]
      simp only [entering_of_deep deep, each]
      rfl
  | .table, _, v, settled, _, _, holds, value => by
    rw [Shape.encode] at holds value
    cases holds with
    | object hold =>
      obtain ⟨deep, values, inside, same⟩ := Json.value_object value
      have sorted : Json.ofMembers values = v := by
        have map : (Json.object v).canonical = .object v := settled
        exact Json.object.inj (same.symm.trans map)
      rw [Shape.ofJson]
      simp only [entering_of_deep deep, inside, sorted]
  | .record _ strict fields, lawful, v, settled, _, _, holds, value => by
    rw [Shape.encode] at holds value
    cases holds with
    | object hold =>
      obtain ⟨deep, values, inside, same⟩ := Json.value_object value
      rw [fields.values_of_hold lawful.1 hold inside same] at inside
      obtain ⟨cursor, read⟩ := fields.readSlots_encode lawful.2 lawful.1 v settled
        (if strict then some fields.keys else none) hold inside
      rw [Shape.ofJson]
      simp only [entering_of_deep deep, read, bind, Except.bind, fields.finish_slotsOf v]
      rfl

/-- The members of a written record fill its slots. -/
theorem Fields.readSlots_encode : (fs : Fields) → fs.Lawful → fs.keys.Nodup → (v : fs.Carrier) →
    fs.Settled v → ∀ {depth : Nat} {tree : Members} (strict : Option (List String)),
      tree.Hold (fs.encode v) →
      Members.value src depth tree = .ok (Json.canonicalMembers (fs.encode v)) →
      ∃ cursor, readSlots (fs.put src depth strict) tree fs.empty = .ok (fs.slotsOf v, cursor)
  | .done, _, _, _, _, _, _, _, hold, _ => by
    rw [Fields.encode] at hold
    cases hold
    exact ⟨_, rfl⟩
  | .required key shape rest, lawful, different, (v, vs), settled, _, _, strict, hold, value => by
    obtain ⟨fresh, later⟩ := List.nodup_cons.1 different
    obtain ⟨keyStop, node, stop, others, rfl, holds, mine, hold, behind⟩ := first_of_hold hold value
    have own := shape.ofJson_encode lawful.1 v settled.1 holds mine
    obtain ⟨cursor, read⟩ := rest.readSlots_encode lawful.2 later vs settled.2 strict hold behind
    exact ⟨cursor, readSlots_own Fields.passes_required (Fields.put_required own) hold
      (fun found => fresh ((rest.keys_encode vs).subset found)) read⟩
  | .defaulted key shape rest, lawful, different, (none, vs), settled, _, _, strict, hold, value => by
    obtain ⟨fresh, later⟩ := List.nodup_cons.1 different
    obtain ⟨cursor, read⟩ := rest.readSlots_encode lawful.2 later vs settled.2 strict hold value
    exact ⟨cursor, readSlots_past Fields.passes_defaulted hold
      (fun found => fresh ((rest.keys_encode vs).subset found)) read none⟩
  | .defaulted key shape rest, lawful, different, (some v, vs), settled, _, _, strict, hold,
      value => by
    obtain ⟨fresh, later⟩ := List.nodup_cons.1 different
    obtain ⟨keyStop, node, stop, others, rfl, holds, mine, hold, behind⟩ := first_of_hold hold value
    have own := shape.ofJson_encode lawful.1 v (settled.1 v rfl) holds mine
    obtain ⟨cursor, read⟩ := rest.readSlots_encode lawful.2 later vs settled.2 strict hold behind
    exact ⟨cursor, readSlots_own Fields.passes_defaulted (Fields.put_defaulted own) hold
      (fun found => fresh ((rest.keys_encode vs).subset found)) read⟩
  | .optional key _ shape rest, lawful, different, (none, vs), settled, _, _, strict, hold,
      value => by
    obtain ⟨fresh, later⟩ := List.nodup_cons.1 different
    obtain ⟨cursor, read⟩ := rest.readSlots_encode lawful.2 later vs settled.2 strict hold value
    exact ⟨cursor, readSlots_past Fields.passes_optional hold
      (fun found => fresh ((rest.keys_encode vs).subset found)) read none⟩
  | .optional key _ shape rest, lawful, different, (some v, vs), settled, _, _, strict, hold,
      value => by
    obtain ⟨fresh, later⟩ := List.nodup_cons.1 different
    obtain ⟨keyStop, node, stop, others, rfl, holds, mine, hold, behind⟩ := first_of_hold hold value
    have own := shape.ofJson_encode lawful.1 v (settled.1 v rfl) holds mine
    obtain ⟨cursor, read⟩ := rest.readSlots_encode lawful.2 later vs settled.2 strict hold behind
    exact ⟨cursor, readSlots_own Fields.passes_optional (Fields.put_optional holds own) hold
      (fun found => fresh ((rest.keys_encode vs).subset found)) read⟩

end

/-- The text of a written value is read as the value. -/
theorem Shape.parse_encode {s : Shape} (lawful : s.Lawful) {v : s.Carrier} (settled : s.Settled v)
    (back : ReadsBack (s.encode v)) : s.parse (s.encode v).render = .ok v := by
  obtain ⟨node, stop, read, holds, finished, value⟩ := back.tree
  have own := s.ofJson_encode lawful v settled holds value
  unfold Shape.parse
  simp only [read, own, Option.getD_some, finished]

/-! ## Shapes without tables and registers -/

mutual

/-- The nesting of a shape bounds that of its values, and all of them are settled. -/
def Shape.Bounded : Nat → Shape → Prop
  | _, .text => True
  | _, .flag => True
  | _, .whole _ => True
  | _, .choice _ => True
  | _, .registered _ _ => False
  | depth, .list item => 1 < depth ∧ item.Bounded (depth - 1)
  | _, .table => False
  | depth, .record _ _ fields => 1 < depth ∧ fields.Bounded (depth - 1)

def Fields.Bounded : Nat → Fields → Prop
  | _, .done => True
  | depth, .required _ shape rest => shape.Bounded depth ∧ rest.Bounded depth
  | depth, .defaulted _ shape rest => shape.Bounded depth ∧ rest.Bounded depth
  | depth, .optional _ _ shape rest => shape.Bounded depth ∧ rest.Bounded depth

end

mutual

def Shape.decideBounded : (depth : Nat) → (s : Shape) → Decidable (s.Bounded depth)
  | _, .text => .isTrue trivial
  | _, .flag => .isTrue trivial
  | _, .whole _ => .isTrue trivial
  | _, .choice _ => .isTrue trivial
  | _, .registered _ _ => .isFalse id
  | depth, .list item =>
    @instDecidableAnd (1 < depth) _ inferInstance (item.decideBounded (depth - 1))
  | _, .table => .isFalse id
  | depth, .record _ _ fields =>
    @instDecidableAnd (1 < depth) _ inferInstance (fields.decideBounded (depth - 1))

def Fields.decideBounded : (depth : Nat) → (fs : Fields) → Decidable (fs.Bounded depth)
  | _, .done => .isTrue trivial
  | depth, .required _ shape rest =>
    @instDecidableAnd _ _ (shape.decideBounded depth) (rest.decideBounded depth)
  | depth, .defaulted _ shape rest =>
    @instDecidableAnd _ _ (shape.decideBounded depth) (rest.decideBounded depth)
  | depth, .optional _ _ shape rest =>
    @instDecidableAnd _ _ (shape.decideBounded depth) (rest.decideBounded depth)

end

instance (depth : Nat) (s : Shape) : Decidable (s.Bounded depth) := s.decideBounded depth

theorem Width.isExact (w : Width) (v : w.Carrier) : (Json.Number.whole (w.toInt v)).IsExact := by
  cases w with
  | unsigned16 =>
    have bound := UInt16.toNat_lt v
    exact .whole (by simp [toInt]) (by simp [toInt]; omega)
  | signed32 =>
    have low := Int32.le_toInt v
    have high := Int32.toInt_lt v
    exact .whole (by simp [toInt]; omega) (by simp [toInt]; omega)
  | unsigned32 =>
    have bound := UInt32.toNat_lt v
    exact .whole (by simp [toInt]) (by simp [toInt]; omega)
  | unsigned64 =>
    have bound := UInt64.toNat_lt v
    exact .whole (by simp [toInt]) (by simp [toInt]; omega)
  | size =>
    have bound := UInt64.toNat_lt v
    exact .whole (by simp [toInt]) (by simp [toInt]; omega)

theorem itemsWithin_map {α : Type} {encode : α → Json} (each : ∀ v, Json.Within depth (encode v))
    (values : List α) : Json.ItemsWithin depth (values.map encode) := by
  rw [Json.itemsWithin_iff]
  exact List.forall_mem_map.2 fun v _ => each v

mutual

theorem Shape.within_encode : (s : Shape) → ∀ {depth : Nat}, s.Bounded depth → (v : s.Carrier) →
    Json.Within depth (s.encode v)
  | .text, _, _, _ => trivial
  | .flag, _, _, _ => trivial
  | .whole width, _, _, v => width.isExact v
  | .choice _, _, _, _ => trivial
  | .list item, _, bounded, vs =>
    ⟨bounded.1, itemsWithin_map (fun v => item.within_encode bounded.2 v) vs⟩
  | .record _ _ fields, _, bounded, v => ⟨bounded.1, fields.within_encode bounded.2 v⟩

theorem Fields.within_encode : (fs : Fields) → ∀ {depth : Nat}, fs.Bounded depth →
    (v : fs.Carrier) → Json.MembersWithin depth (fs.encode v)
  | .done, _, _, _ => trivial
  | .required _ shape rest, _, bounded, (v, vs) =>
    ⟨shape.within_encode bounded.1 v, rest.within_encode bounded.2 vs⟩
  | .defaulted _ shape rest, _, bounded, (some v, vs) =>
    ⟨shape.within_encode bounded.1 v, rest.within_encode bounded.2 vs⟩
  | .defaulted _ _ rest, _, bounded, (none, vs) => rest.within_encode bounded.2 vs
  | .optional _ _ shape rest, _, bounded, (some v, vs) =>
    ⟨shape.within_encode bounded.1 v, rest.within_encode bounded.2 vs⟩
  | .optional _ _ _ rest, _, bounded, (none, vs) => rest.within_encode bounded.2 vs

end

mutual

theorem Shape.settled_of_bounded : (s : Shape) → ∀ {depth : Nat}, s.Bounded depth →
    (v : s.Carrier) → s.Settled v
  | .text, _, _, _ => trivial
  | .flag, _, _, _ => trivial
  | .whole _, _, _, _ => trivial
  | .choice _, _, _, _ => trivial
  | .list item, _, bounded, _ => fun v _ => item.settled_of_bounded bounded.2 v
  | .record _ _ fields, _, bounded, v => fields.settled_of_bounded bounded.2 v

theorem Fields.settled_of_bounded : (fs : Fields) → ∀ {depth : Nat}, fs.Bounded depth →
    (v : fs.Carrier) → fs.Settled v
  | .done, _, _, _ => trivial
  | .required _ shape rest, _, bounded, (v, vs) =>
    ⟨shape.settled_of_bounded bounded.1 v, rest.settled_of_bounded bounded.2 vs⟩
  | .defaulted _ shape rest, _, bounded, (_, vs) =>
    ⟨fun v _ => shape.settled_of_bounded bounded.1 v, rest.settled_of_bounded bounded.2 vs⟩
  | .optional _ _ shape rest, _, bounded, (_, vs) =>
    ⟨fun v _ => shape.settled_of_bounded bounded.1 v, rest.settled_of_bounded bounded.2 vs⟩

end

/-! ## Forms -/

section

variable {α : Type} {form : Form α} {value : α}

/-- A form whose shape is lawful and which gives back the value that it takes apart. -/
structure Form.Lawful (form : Form α) : Prop where
  shape : form.shape.Lawful
  same : ∀ value, form.ofCarrier (form.toCarrier value) = value

/-- The text of a written value is read as the value. -/
theorem Form.parse_encode (lawful : form.Lawful) (settled : form.shape.Settled (form.toCarrier value))
    (back : ReadsBack (form.encode value)) : form.parse (form.encode value).render = .ok value := by
  have read := Shape.parse_encode lawful.shape settled back
  unfold Form.parse
  rw [Form.encode, read]
  exact congrArg Except.ok (lawful.same value)

/-- Without tables and registers nothing has to be assumed. -/
theorem Form.parse_encode_of_bounded (lawful : form.Lawful)
    (bounded : form.shape.Bounded Json.depthLimit) (value : α) :
    form.parse (form.encode value).render = .ok value :=
  Form.parse_encode lawful (form.shape.settled_of_bounded bounded _)
    (Json.parse_render (form.shape.within_encode bounded _))

end

end DeviceAdmission.Wire
