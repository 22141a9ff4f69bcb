import DeviceAdmission.Proofs.Config.Saved

/-!
# What loading gives

A configuration is taken from a text, from a named file or from the default file. A file counts for
its text and nothing else: it is read, parsed and checked as the text alone would be, and its name
only shows in the message. A file that exists is never passed over, whatever is wrong with it; the
defaults stand for a default file that does not exist.

* `Config.check_eq_ok_iff`: what the check asks.
* `Files.System.readText_eq_ok_iff`: a file can be read when its octets are those of a text.
* `Config.ofText_eq`, `Config.onlyFrom_ofFile`: a name changes nothing but the message.
* `Config.loading_is_strict`: the three ways to a configuration, and what is known of the result.
-/
namespace DeviceAdmission

open Json (octetsOf fromUTF8?_eq_some_iff)

/-! ## The check -/

namespace Config

variable {c : Config}

/-- A configuration that the gate may run with. -/
structure Valid (c : Config) : Prop where
  atLeast : 1 ≤ c.deviceId.maxLength.toNat
  atMost : c.deviceId.maxLength.toNat ≤ 256
  level : ∃ level, Log.Level.parse? c.logging.level = some level

/-- The check refuses a length out of range, then a level that is none, and nothing else. -/
theorem check_cases (c : Config) :
    (¬ (1 ≤ c.deviceId.maxLength.toNat ∧ c.deviceId.maxLength.toNat ≤ 256) ∧
        c.check = .error (.maxLength c.deviceId.maxLength.toNat)) ∨
      (Log.Level.parse? c.logging.level = none ∧ c.check = .error (.level c.logging.level)) ∨
        (c.Valid ∧ c.check = .ok ()) := by
  unfold check DeviceId.maxLength
  by_cases outside : c.deviceId.maxLength.toNat < 1 ∨ 256 < c.deviceId.maxLength.toNat
  · left
    constructor
    · omega
    · simp only [Bool.or_eq_true, decide_eq_true_eq, outside, if_true]
  · right
    simp only [Bool.or_eq_true, decide_eq_true_eq, outside, if_false]
    cases read : Log.Level.parse? c.logging.level with
    | none => exact .inl ⟨rfl, rfl⟩
    | some level => exact .inr ⟨⟨by omega, by omega, level, read⟩, rfl⟩

theorem check_eq_ok_iff : c.check = .ok () ↔ c.Valid := by
  obtain ⟨outside, refused⟩ | ⟨noLevel, refused⟩ | ⟨valid, passed⟩ := check_cases c
  · rw [refused]
    constructor
    · intro passed
      cases passed
    · exact fun valid => absurd ⟨valid.atLeast, valid.atMost⟩ outside
  · rw [refused]
    constructor
    · intro passed
      cases passed
    · intro valid
      obtain ⟨level, read⟩ := valid.level
      rw [noLevel] at read
      cases read
  · exact ⟨fun _ => valid, fun _ => passed⟩

/-- Where the check has passed, the limit of the policy is the one asked for. -/
theorem Valid.policy_eq (valid : c.Valid) :
    c.policy = ⟨c.deviceId.maxLength.toNat, c.deviceId.extraForbidden.toList⟩ := by
  have kept : max 1 (min c.deviceId.maxLength.toNat DeviceId.maxLength) =
      c.deviceId.maxLength.toNat := by
    have := valid.atLeast
    have := valid.atMost
    unfold DeviceId.maxLength
    omega
  unfold policy DeviceId.Policy.ofLimit DeviceId.Policy.forbid
  rw [kept, List.nil_append]

/-- The log filter needs a level, which the check has read. -/
theorem Valid.filter (valid : c.Valid) (debug : Bool) (environment : Option String) :
    ∃ filter, Log.Filter.ofSettings c.logging.level debug environment = .ok filter := by
  obtain ⟨level, read⟩ := valid.level
  unfold Log.Filter.ofSettings
  cases debug with
  | true => exact ⟨_, rfl⟩
  | false =>
    simp only [Bool.false_eq_true, if_false, read]
    exact ⟨_, rfl⟩

end Config

/-! ## Files as texts -/

namespace Files.System

variable {files : System} {path text : String}

theorem read_eq_ok_iff {octets : List UInt8} :
    files.read path = .ok octets ↔ files path = .ok (.file (.ok octets)) := by
  unfold System.read
  cases files path with
  | error e => simp
  | ok entry =>
    cases entry with
    | file content => simp
    | directory => simp

theorem readText_eq_ok_iff : files.readText path = .ok text ↔ files.HasText path text := by
  constructor
  · intro succeeded
    unfold readText at succeeded
    cases read : files.read path with
    | error e =>
      rw [read] at succeeded
      cases succeeded
    | ok octets =>
      rw [read] at succeeded
      dsimp only at succeeded
      split at succeeded
      · rename_i decoded
        cases succeeded
        unfold HasText
        rw [← fromUTF8?_eq_some_iff.1 decoded]
        exact read_eq_ok_iff.1 read
      · cases succeeded
  · exact readText_of_hasText

/-- A file has one text at most. -/
theorem hasText_unique {other : String} (there : files.HasText path text)
    (also : files.HasText path other) : text = other := by
  have read := readText_of_hasText there
  rw [readText_of_hasText also] at read
  exact (Except.ok.inj read).symm

end Files.System

/-! ## Names in messages -/

namespace Config

variable {c : Config} {files : Files.System} {path shown text : String}

namespace LoadError

/-- The error with another name for what was read. -/
def named (name : String) : LoadError → LoadError
  | .read _ e => .read name e
  | .parse _ e => .parse name e
  | .invalid v => .invalid v

end LoadError

/-- What is read, and whether it holds, does not depend on the name. -/
theorem ofText_eq (name text : String) :
    ofText name text = (ofYaml text).mapError (LoadError.named name) := by
  unfold ofYaml ofText
  cases form.parseYaml text with
  | error e => rfl
  | ok c =>
    simp only
    cases c.check with
    | error v => rfl
    | ok _ => rfl

/-- A text that cannot be parsed, one that the check refuses, or one that is taken as it is. -/
theorem ofYaml_cases (text : String) :
    (∃ e, form.parseYaml text = .error e ∧ ofYaml text = .error (.parse inlineName e)) ∨
      (∃ c v, form.parseYaml text = .ok c ∧ ¬ c.Valid ∧ ofYaml text = .error (.invalid v)) ∨
        ∃ c, form.parseYaml text = .ok c ∧ c.Valid ∧ ofYaml text = .ok c := by
  unfold ofYaml ofText
  cases form.parseYaml text with
  | error e => exact .inl ⟨e, rfl, rfl⟩
  | ok c =>
    cases checked : c.check with
    | error v =>
      have refused : ¬ c.Valid := fun valid => by
        rw [check_eq_ok_iff.2 valid] at checked
        cases checked
      exact .inr (.inl ⟨c, v, rfl, refused, by simp only [checked]⟩)
    | ok _ => exact .inr (.inr ⟨c, rfl, check_eq_ok_iff.1 checked, by simp only [checked]⟩)

theorem ofYaml_ne_read (text place : String) (e : Files.ReadError) (name : String) :
    (ofYaml text).mapError (LoadError.named name) ≠ .error (.read place e) := by
  obtain ⟨why, -, read⟩ | ⟨c, v, -, -, read⟩ | ⟨c, -, -, read⟩ := ofYaml_cases text
  all_goals
    rw [read]
    simp [Except.mapError, LoadError.named]

theorem mapError_eq_ok_iff {name : String} {outcome : Except LoadError Config} :
    outcome.mapError (LoadError.named name) = .ok c ↔ outcome = .ok c := by
  cases outcome with
  | error e => simp [Except.mapError]
  | ok d => simp [Except.mapError]

/-- What comes of a file, if it counts for its text alone and goes by a name in messages. -/
structure OnlyFrom (files : Files.System) (path name : String)
    (outcome : Except LoadError Config) : Prop where
  /-- A file without a text is an error, and no other is. -/
  read : (∃ place e, outcome = .error (.read place e)) ↔ ¬ ∃ text, files.HasText path text
  /-- The error says which file it was. -/
  place : ∀ place e, outcome = .error (.read place e) → place = name
  /-- A text gives what it would give without the file, under the name of the file. -/
  text : ∀ text, files.HasText path text → outcome = (ofYaml text).mapError (LoadError.named name)
  /-- There is no other way to a configuration. -/
  loaded : ∀ c, outcome = .ok c → ∃ text, files.HasText path text ∧ ofYaml text = .ok c

theorem onlyFrom_of_bare {name : String} {e : Files.ReadError}
    (bare : ¬ ∃ text, files.HasText path text) :
    OnlyFrom files path name (.error (.read name e)) where
  read := ⟨fun _ => bare, fun _ => ⟨name, e, rfl⟩⟩
  place place e same := by
    cases same
    rfl
  text text there := absurd ⟨text, there⟩ bare
  loaded c same := by cases same

theorem onlyFrom_of_hasText {name : String} (there : files.HasText path text) :
    OnlyFrom files path name ((ofYaml text).mapError (LoadError.named name)) where
  read := by
    constructor
    · rintro ⟨place, e, same⟩
      exact absurd same (ofYaml_ne_read text place e name)
    · exact fun bare => absurd ⟨text, there⟩ bare
  place place e same := absurd same (ofYaml_ne_read text place e name)
  text other also := by rw [Files.System.hasText_unique there also]
  loaded c same := ⟨text, there, mapError_eq_ok_iff.1 same⟩

theorem onlyFrom_ofFile (files : Files.System) (path name : String) :
    OnlyFrom files path name (ofFile files path name) := by
  unfold ofFile
  cases read : files.readText path with
  | error e =>
    apply onlyFrom_of_bare
    rintro ⟨text, there⟩
    rw [Files.System.readText_of_hasText there] at read
    cases read
  | ok text =>
    simp only
    rw [ofText_eq]
    exact onlyFrom_of_hasText (Files.System.readText_eq_ok_iff.1 read)

/-! ## The default file -/

theorem load_none_of_exists (found : files.exists? defaultPath = true) :
    load files none shown = ofFile files defaultPath shown := by
  unfold load
  simp only [found, if_true]

theorem load_none_of_absent (absent : files.exists? defaultPath = false) :
    load files none shown = .ok {} := by
  unfold load
  simp only [absent, Bool.false_eq_true, if_false]

/-- The defaults come of no file at all, or of one whose text says the same. -/
theorem load_none_eq_defaults_iff : load files none shown = .ok {} ↔
    files.exists? defaultPath = false ∨
      ∃ text, files.HasText defaultPath text ∧ ofYaml text = .ok {} := by
  cases found : files.exists? defaultPath with
  | false => exact ⟨fun _ => .inl rfl, fun _ => load_none_of_absent found⟩
  | true =>
    have strict := onlyFrom_ofFile files defaultPath shown
    rw [load_none_of_exists found]
    constructor
    · exact fun loaded => .inr (strict.loaded {} loaded)
    · rintro (absent | ⟨text, there, read⟩)
      · cases absent
      · rw [strict.text text there, read]
        rfl

/-! ## Every way to a configuration -/

/-- A configuration that a text, a file or the lack of a default file has given. -/
def Taken (c : Config) : Prop :=
  (∃ text, ofYaml text = .ok c) ∨ ∃ files path shown, load files path shown = .ok c

theorem Taken.valid (taken : c.Taken) : c.Valid := by
  apply check_eq_ok_iff.1
  obtain ⟨text, read⟩ | ⟨files, path, shown, loaded⟩ := taken
  · exact check_of_ofText read
  · exact check_of_load loaded

/-- Whatever is wrong with a file or a text is an error, and what is taken may be used. -/
structure LoadingIsStrict : Prop where
  /-- A text that cannot be parsed, one that the check refuses, or one that is taken as it is. -/
  text : ∀ text,
    (∃ e, form.parseYaml text = .error e ∧ ofYaml text = .error (.parse "<inline>" e)) ∨
      (∃ c v, form.parseYaml text = .ok c ∧ ¬ c.Valid ∧ ofYaml text = .error (.invalid v)) ∨
        ∃ c, form.parseYaml text = .ok c ∧ c.Valid ∧ ofYaml text = .ok c
  /-- The name stands in the message of a text that cannot be parsed, and in no other. -/
  message : ∀ text e, ofYaml text = .error e →
    (∃ why, e = .parse "<inline>" why ∧ ∀ name, e.named name = .parse name why ∧
      (e.named name).message = "failed to parse config file " ++ name ++ ": " ++ why.message) ∨
        ∃ v, e = .invalid v ∧ ∀ name, e.named name = e
  /-- A named file must have a text, which counts as it would alone. -/
  named : ∀ files path shown, OnlyFrom files path path (load files (some path) shown)
  /-- So must the default file if it exists: the defaults never take the place of its text. -/
  existing : ∀ files shown, files.exists? defaultPath = true →
    OnlyFrom files defaultPath shown (load files none shown)
  absent : ∀ files shown, files.exists? defaultPath = false → load files none shown = .ok {}
  /-- Without a text of its own the default file gives the defaults exactly if it does not exist. -/
  textless : ∀ files shown, (¬ ∃ text, files.HasText defaultPath text) →
    (load files none shown = .ok {} ↔ files.exists? defaultPath = false)
  /-- A file gives them only where its text says the same. -/
  defaults : ∀ files shown, load files none shown = .ok {} ↔
    files.exists? defaultPath = false ∨
      ∃ text, files.HasText defaultPath text ∧ ofYaml text = .ok {}
  valid : ∀ c : Config, c.Taken → c.Valid ∧ c.check = .ok ()
  /-- The policy has the limit that was asked for, and what it forbids besides. -/
  policy : ∀ c : Config, c.Taken →
    c.policy = ⟨c.deviceId.maxLength.toNat, c.deviceId.extraForbidden.toList⟩
  filter : ∀ c : Config, c.Taken → ∀ debug environment,
    ∃ filter, Log.Filter.ofSettings c.logging.level debug environment = .ok filter

theorem loading_is_strict : LoadingIsStrict where
  text := ofYaml_cases
  message text e failed := by
    obtain ⟨why, -, read⟩ | ⟨c, v, -, -, read⟩ | ⟨c, -, -, read⟩ := ofYaml_cases text
    · rw [failed] at read
      cases read
      exact .inl ⟨why, rfl, fun name => ⟨rfl, rfl⟩⟩
    · rw [failed] at read
      cases read
      exact .inr ⟨v, rfl, fun name => rfl⟩
    · rw [failed] at read
      cases read
  named files path shown := onlyFrom_ofFile files path path
  existing files shown found := by
    rw [load_none_of_exists found]
    exact onlyFrom_ofFile files defaultPath shown
  absent _ _ absent := load_none_of_absent absent
  textless files shown bare := by
    rw [load_none_eq_defaults_iff]
    apply or_iff_left
    rintro ⟨text, there, -⟩
    exact bare ⟨text, there⟩
  defaults _ _ := load_none_eq_defaults_iff
  valid _ taken := ⟨taken.valid, check_eq_ok_iff.2 taken.valid⟩
  policy _ taken := taken.valid.policy_eq
  filter _ taken := taken.valid.filter

end Config

end DeviceAdmission
