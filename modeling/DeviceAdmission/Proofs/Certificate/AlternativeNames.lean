import DeviceAdmission.Certificate.X509
import DeviceAdmission.Proofs.Certificate.Addresses
import DeviceAdmission.Proofs.Json.Canonical
import DeviceAdmission.Proofs.Text.Blank

/-!
# Alternative names, without the reader

The alternative names of a certificate are read by a loop that stops at the first malformed name and
then drops the whole extension. `Extension.Lists` says of an extension which names it holds, element
by element, and `Mentions` which texts the extensions of a certificate contribute: hosts, mail
addresses, resources and network addresses, in order, trimmed and not blank.

* `stands_iff`, `shows_iff`: what an element stands for, and what a name shows.
* `readMany_of_row`, `row_of_readMany`: the loop reaches the end exactly of a row of names.
* `mentions_iff`: the extensions mention the alternative names of the contents, and nothing else.
-/
namespace DeviceAdmission

open Json (exists_of_bind octetsOf fromUTF8?_eq_some_iff)

/-! ## Elements -/

namespace Der

section

variable {octets rest : Octets}

theorem longTag_le {fuel acc tag : Nat} (read : longTag fuel acc octets = .ok (tag, rest)) :
    rest.length ≤ octets.length := by
  induction fuel generalizing acc octets with
  | zero => cases read
  | succ fuel ih =>
    cases octets with
    | nil => cases read
    | cons b octets =>
      simp only [longTag] at read
      split at read
      · cases read
        exact Nat.le_succ _
      · exact Nat.le_succ_of_le (ih read)

theorem readLength_le {length : Nat} (read : readLength octets = .ok (length, rest)) :
    rest.length ≤ octets.length := by
  cases octets with
  | nil => cases read
  | cons b octets =>
    rw [readLength] at read
    dsimp only at read
    split at read
    · cases read
      exact Nat.le_succ _
    · split at read
      · cases read
      · split at read
        · cases read
        · split at read
          · cases read
          · generalize bigEndian _ = value at read
            split at read
            · cases read
            · obtain ⟨-, rfl⟩ := Prod.mk.inj (Except.ok.inj read)
              exact Nat.le_succ_of_le (List.drop_sublist _ _).length_le

theorem readHeader_lt {header : Header} (read : readHeader octets = .ok (header, rest)) :
    rest.length < octets.length := by
  cases octets with
  | nil => cases read
  | cons b octets =>
    rw [readHeader] at read
    dsimp only at read
    split at read
    · obtain ⟨⟨tag, tagged⟩, own, read⟩ := exists_of_bind read
      obtain ⟨⟨length, measured⟩, size, read⟩ := exists_of_bind read
      cases read
      exact Nat.lt_succ_of_le (Nat.le_trans (readLength_le size) (longTag_le own))
    · obtain ⟨_, own, read⟩ := exists_of_bind read
      obtain ⟨⟨length, measured⟩, size, read⟩ := exists_of_bind read
      cases own
      cases read
      exact Nat.lt_succ_of_le (readLength_le size)

/-- A reader of elements moves on. -/
theorem readElement_lt {e : Element} (read : readElement octets = .ok (e, rest)) :
    rest.length < octets.length := by
  obtain ⟨⟨header, body⟩, own, read⟩ := exists_of_bind read
  dsimp only at read
  split at read
  · cases read
  · cases read
    exact Nat.lt_of_le_of_lt (List.drop_sublist _ _).length_le (readHeader_lt own)

end

end Der

namespace Certificate

open Der (Octets)

/-! ## Names among elements -/

/-- What an element with a tag of its context stands for. -/
inductive Stands (e : Der.Element) : GeneralName → Prop where
  | other {content rest : Octets} (tag : e.header.tag = 0)
      (value : Der.readPrimitive e.content = .ok (content, rest)) : Stands e .other
  | mail {text : String} (tag : e.header.tag = 1) (octets : e.content = octetsOf text) :
      Stands e (.mail text)
  | host {text : String} (tag : e.header.tag = 2) (octets : e.content = octetsOf text) :
      Stands e (.host text)
  | exchange (tag : e.header.tag = 3) : Stands e .exchange
  | directory {name : Name} (tag : e.header.tag = 4) (value : Name.read e.content = .ok (name, [])) :
      Stands e .directory
  | party (tag : e.header.tag = 5) : Stands e .party
  | resource {text : String} (tag : e.header.tag = 6) (octets : e.content = octetsOf text) :
      Stands e (.resource text)
  | address (tag : e.header.tag = 7) : Stands e (.address e.content)
  | registered (tag : e.header.tag = 8) : Stands e .registered

theorem stands_iff (e : Der.Element) (name : GeneralName) :
    GeneralName.ofElement? e = some name ↔ e.header.tagClass = 2 ∧ Stands e name := by
  unfold GeneralName.ofElement? Name.utf8?
  rw [ite_eq_iff]
  constructor
  · rintro (⟨-, ⟨⟩⟩ | ⟨context, read⟩)
    refine ⟨by simpa [Der.contextClass] using context, ?_⟩
    split at read
    · next tag =>
      cases value : Der.readPrimitive e.content with
      | error fault =>
        rw [value] at read
        cases read
      | ok parts =>
        rw [value] at read
        cases read
        exact .other tag value
    · next tag =>
      obtain ⟨text, decoded, rfl⟩ := Option.map_eq_some_iff.1 read
      exact .mail tag (fromUTF8?_eq_some_iff.1 decoded)
    · next tag =>
      obtain ⟨text, decoded, rfl⟩ := Option.map_eq_some_iff.1 read
      exact .host tag (fromUTF8?_eq_some_iff.1 decoded)
    · next tag =>
      cases read
      exact .exchange tag
    · next tag =>
      split at read
      · next value =>
        cases read
        exact .directory tag value
      · cases read
    · next tag =>
      cases read
      exact .party tag
    · next tag =>
      obtain ⟨text, decoded, rfl⟩ := Option.map_eq_some_iff.1 read
      exact .resource tag (fromUTF8?_eq_some_iff.1 decoded)
    · next tag =>
      cases read
      exact .address tag
    · next tag =>
      cases read
      exact .registered tag
    · cases read
  · rintro ⟨context, stands⟩
    refine .inr ⟨by simpa [Der.contextClass] using context, ?_⟩
    cases stands with
    | other tag value =>
      simp only [tag, value]
      rfl
    | mail tag octets | host tag octets | resource tag octets =>
      simp only [tag, fromUTF8?_eq_some_iff.2 octets]
      rfl
    | directory tag value => simp only [tag, value]
    | exchange tag | party tag | address tag | registered tag => simp only [tag]

/-- Octets that are names and nothing else, one behind the other. -/
inductive Row : Octets → List GeneralName → Prop where
  | nil : Row [] []
  | cons {octets rest : Octets} {e : Der.Element} {name : GeneralName} {names : List GeneralName}
      (element : Der.readElement octets = .ok (e, rest)) (context : e.header.tagClass = 2)
      (stands : Stands e name) (later : Row rest names) : Row octets (name :: names)

theorem read_eq_some_iff (octets rest : Octets) (name : GeneralName) :
    GeneralName.read octets = some (name, rest) ↔
      ∃ e, Der.readElement octets = .ok (e, rest) ∧ e.header.tagClass = 2 ∧ Stands e name := by
  unfold GeneralName.read
  cases element : Der.readElement octets with
  | error fault => simp
  | ok parts =>
    simp only [Option.map_eq_some_iff, stands_iff, Except.ok.injEq]
    constructor
    · rintro ⟨own, stands, same⟩
      cases same
      exact ⟨_, rfl, stands⟩
    · rintro ⟨e, rfl, stands⟩
      exact ⟨_, stands, rfl⟩

theorem readMany_of_row {octets : Octets} {names : List GeneralName} (row : Row octets names)
    {fuel : Nat} (enough : octets.length ≤ fuel) :
    Der.readMany GeneralName.read fuel octets = (names, []) := by
  induction row generalizing fuel with
  | nil => cases fuel <;> rfl
  | @cons octets rest e name names element context stands later ih =>
    have shorter := Der.readElement_lt element
    have read := (read_eq_some_iff octets rest name).2 ⟨e, element, context, stands⟩
    cases fuel with
    | zero => omega
    | succ fuel => simp only [Der.readMany, read, @ih fuel (by omega)]

theorem row_of_readMany {octets : Octets} {names : List GeneralName} {fuel : Nat}
    (read : Der.readMany GeneralName.read fuel octets = (names, [])) : Row octets names := by
  induction fuel generalizing octets names with
  | zero =>
    cases read
    exact .nil
  | succ fuel ih =>
    rw [Der.readMany] at read
    cases first : GeneralName.read octets with
    | none =>
      rw [first] at read
      cases read
      exact .nil
    | some parts =>
      obtain ⟨e, element, context, stands⟩ := (read_eq_some_iff octets parts.2 parts.1).1 first
      simp only [first] at read
      obtain ⟨rfl, finished⟩ := Prod.mk.inj read
      exact .cons element context stands (ih (Prod.ext rfl finished))

/-- The extension holds alternative names, and these are all of them. -/
structure Extension.Lists (e : Extension) (names : List GeneralName) : Prop where
  id : e.id = [0x55, 0x1d, 0x11]
  row : ∃ content rest, Der.readContainer 16 e.value = .ok (content, rest) ∧ Row content names

theorem Extension.Lists.generalNames {e : Extension} {names : List GeneralName}
    (lists : e.Lists names) : Contents.generalNames e = names := by
  obtain ⟨id, content, rest, value, row⟩ := lists
  have own : ¬ (e.id != Contents.alternativeNamesId) = true := by
    simp [id, Contents.alternativeNamesId]
  have whole : Der.readContainer Der.sequenceTag e.value = .ok (content, rest) := value
  simp only [Contents.generalNames, if_neg own, whole, readMany_of_row row (Nat.le_refl _)]
  rfl

/-- The names that are kept of an extension are all of them, or none. -/
theorem lists_or_nil (e : Extension) :
    e.Lists (Contents.generalNames e) ∨ Contents.generalNames e = [] := by
  unfold Contents.generalNames
  split
  · exact .inr rfl
  · next own =>
    have id : e.id = [0x55, 0x1d, 0x11] := by simpa [Contents.alternativeNamesId] using own
    split
    · exact .inr rfl
    · next content rest value =>
      cases read : Der.readMany GeneralName.read content.length content with
      | mk names left =>
        cases left with
        | nil => exact .inl ⟨id, content, rest, value, row_of_readMany read⟩
        | cons b left => exact .inr rfl

/-! ## Texts of names -/

/-- What a name shows. Names of the other kinds show nothing. -/
inductive Shows : GeneralName → String → Prop where
  | mail (text : String) : Shows (.mail text) text
  | host (text : String) : Shows (.host text) text
  | resource (text : String) : Shows (.resource text) text
  | address {octets : Octets} {text : String} (reads : Address.Reads octets text) :
      Shows (.address octets) text

theorem shows_iff (name : GeneralName) (text : String) :
    name.text? = some text ↔ Shows name text := by
  constructor
  · intro shown
    cases name with
    | mail | host | resource =>
      cases shown
      constructor
    | address octets => exact .address ((Address.text?_eq_some_iff _ _).1 shown)
    | other | exchange | directory | party | registered => cases shown
  · rintro (_ | _ | _ | reads)
    · rfl
    · rfl
    · rfl
    · exact (Address.text?_eq_some_iff _ _).2 reads

/-- The texts that names show, in their order: trimmed, and where this leaves something. -/
inductive Shown : List GeneralName → List String → Prop where
  | nil : Shown [] []
  | text {name : GeneralName} {names : List GeneralName} {text core : String} {texts : List String}
      (shows : Shows name text) (trims : Text.Trims text core) (some : core ≠ "")
      (later : Shown names texts) : Shown (name :: names) (core :: texts)
  | blank {name : GeneralName} {names : List GeneralName} {text : String} {texts : List String}
      (shows : Shows name text) (trims : Text.Trims text "") (later : Shown names texts) :
      Shown (name :: names) texts
  | hidden {name : GeneralName} {names : List GeneralName} {texts : List String}
      (hidden : ∀ text, ¬ Shows name text) (later : Shown names texts) : Shown (name :: names) texts

section

variable {name : GeneralName} {text : String} {names : List GeneralName} {texts : List String}

theorem texts_cons_of_shows (shows : Shows name text) : GeneralName.texts (name :: names) =
    if Text.trimBlank text = "" then GeneralName.texts names
    else Text.trimBlank text :: GeneralName.texts names := by
  rw [← shows_iff] at shows
  unfold GeneralName.texts
  rw [List.filterMap_cons_some shows, List.map_cons, List.filter_cons]
  by_cases blank : Text.trimBlank text = "" <;> simp [blank]

theorem texts_cons_of_hidden (hidden : ∀ text, ¬ Shows name text) :
    GeneralName.texts (name :: names) = GeneralName.texts names := by
  have none : name.text? = none :=
    Option.eq_none_iff_forall_ne_some.2 fun text shown => hidden text ((shows_iff _ _).1 shown)
  unfold GeneralName.texts
  rw [List.filterMap_cons_none none]

theorem Shown.eq_texts (shown : Shown names texts) : texts = GeneralName.texts names := by
  induction shown with
  | nil => rfl
  | text shows trims some later ih =>
    obtain rfl := (Text.trims_iff _ _).1 trims
    rw [texts_cons_of_shows shows, if_neg some, ih]
  | blank shows trims later ih =>
    rw [texts_cons_of_shows shows, if_pos ((Text.trims_iff _ _).1 trims).symm, ih]
  | hidden hidden later ih => rw [texts_cons_of_hidden hidden, ih]

theorem shown_texts (names : List GeneralName) : Shown names (GeneralName.texts names) := by
  induction names with
  | nil => exact .nil
  | cons name names ih =>
    by_cases visible : ∃ text, Shows name text
    · obtain ⟨text, shows⟩ := visible
      have trims := Text.trimBlank_trims text
      rw [texts_cons_of_shows shows]
      split
      · next blank => exact .blank shows (blank ▸ trims) ih
      · next some => exact .text shows trims some ih
    · have hidden := not_exists.1 visible
      rw [texts_cons_of_hidden hidden]
      exact .hidden hidden ih

end

/-- The texts that extensions contribute, in their order. -/
inductive Mentions : List Extension → List String → Prop where
  | nil : Mentions [] []
  | lists {e : Extension} {rest : List Extension} {names : List GeneralName}
      {texts more : List String} (lists : e.Lists names) (shown : Shown names texts)
      (later : Mentions rest more) : Mentions (e :: rest) (texts ++ more)
  /-- The extension is another one or malformed. -/
  | skipped {e : Extension} {rest : List Extension} {texts : List String}
      (unlisted : ∀ names, ¬ e.Lists names) (later : Mentions rest texts) :
      Mentions (e :: rest) texts

theorem texts_append (names more : List GeneralName) :
    GeneralName.texts (names ++ more) = GeneralName.texts names ++ GeneralName.texts more := by
  simp only [GeneralName.texts, List.filterMap_append, List.map_append, List.filter_append]

theorem mentions_flatMap (extensions : List Extension) :
    Mentions extensions (GeneralName.texts (extensions.flatMap Contents.generalNames)) := by
  induction extensions with
  | nil => exact .nil
  | cons e rest ih =>
    rw [List.flatMap_cons, texts_append]
    by_cases listed : ∃ names, e.Lists names
    · obtain ⟨names, lists⟩ := listed
      rw [lists.generalNames]
      exact .lists lists (shown_texts names) ih
    · have unlisted := not_exists.1 listed
      rw [(lists_or_nil e).resolve_left (unlisted _)]
      exact .skipped unlisted ih

theorem Mentions.eq_texts {extensions : List Extension} {texts : List String}
    (mentions : Mentions extensions texts) :
    texts = GeneralName.texts (extensions.flatMap Contents.generalNames) := by
  induction mentions with
  | nil => rfl
  | lists lists shown later ih =>
    rw [List.flatMap_cons, texts_append, lists.generalNames, ← shown.eq_texts, ← ih]
  | @skipped e _ _ unlisted later ih =>
    rw [List.flatMap_cons, (lists_or_nil e).resolve_left (unlisted _), List.nil_append, ← ih]

/-- The extensions of a certificate mention its alternative names and nothing else. -/
theorem mentions_iff (contents : Contents) (texts : List String) :
    Mentions contents.extensions texts ↔ texts = contents.alternativeNames := by
  constructor
  · exact Mentions.eq_texts
  · rintro rfl
    exact mentions_flatMap contents.extensions

end Certificate

end DeviceAdmission
