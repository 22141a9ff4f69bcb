import DeviceAdmission.CommandLine.Basic
import DeviceAdmission.Proofs.Json.Strings
import DeviceAdmission.Proofs.Wire.Written

/-!
# Saved configurations

A configuration is written whole, with its defaults, so a file that holds what was written gives the
same configuration again, whatever text its forbidden characters are. The tool prints the
configuration in use in this form; what it prints can be saved and loaded.

* `Config.parseYaml_toYaml`: every configuration is read back, a valid one or not.
* `Config.check_of_load`: what is loaded is valid.
* `CommandLine.saving_keeps_configuration`: what the tool prints, saved and loaded.
-/
namespace DeviceAdmission

open Json (octetsOf fromUTF8?_octetsOf)
open Yaml (Block ProperMembers properMembers_cons)

/-! ## Written configurations -/

namespace Config

theorem form_lawful : form.Lawful where
  shape := by decide
  same c := by
    obtain ⟨deviceId, ⟨detail⟩, logging⟩ := c
    cases detail <;> rfl

/-- The members of a written configuration. -/
def members (c : Config) : List (String × Block) :=
  [("device_id", .mapping
      [("max_len", .word (toString c.deviceId.maxLength.toNat)),
        ("extra_forbidden", .text c.deviceId.extraForbidden)]),
    ("authn", .mapping
      [("denial_detail", .text
        (AuthenticationConfig.detailLabel c.authentication.denialDetail))]),
    ("logging", .mapping
      [("level", .text c.logging.level), ("json", .word (Text.Diagnostic.bool c.logging.json))])]

theorem writtenAs_members (c : Config) :
    form.shape.WrittenAs (form.toCarrier c) (.mapping c.members) := by
  have detail : AuthenticationConfig.form.shape.WrittenAs
      (AuthenticationConfig.form.toCarrier c.authentication) (.mapping [("denial_detail",
        .text (AuthenticationConfig.detailLabel c.authentication.denialDetail))]) :=
    ⟨_, rfl, _, _, rfl, congrArg Block.text (AuthenticationConfig.details.get_toIndex _).symm, rfl⟩
  exact ⟨_, rfl, _, _, rfl, ⟨_, rfl, _, _, rfl, rfl, _, _, rfl, rfl, rfl⟩, _, _, rfl,
    detail, _, _, rfl, ⟨_, rfl, _, _, rfl, rfl, _, _, rfl, rfl, rfl⟩, rfl⟩

theorem properMembers (c : Config) : ProperMembers c.members := by
  have number := Wire.isName_toString c.deviceId.maxLength.toNat
  have flag := Wire.isName_bool c.logging.json
  refine properMembers_cons (by decide) ⟨List.cons_ne_nil _ _, ?_⟩
    (properMembers_cons (by decide) ⟨List.cons_ne_nil _ _, ?_⟩
      (properMembers_cons (by decide) ⟨List.cons_ne_nil _ _, ?_⟩ trivial))
  · exact properMembers_cons (by decide) number (properMembers_cons (by decide) trivial trivial)
  · exact properMembers_cons (by decide) trivial trivial
  · exact properMembers_cons (by decide) trivial (properMembers_cons (by decide) flag trivial)

/-- Every configuration is read back, a valid one or not. -/
theorem parseYaml_toYaml (c : Config) : form.parseYaml c.toYaml = .ok c :=
  Wire.Form.parseYaml_writeMembers form_lawful c.writtenAs_members (List.cons_ne_nil _ _)
    c.properMembers

/-! ## Loading -/

theorem ofText_toYaml {c : Config} (valid : c.check = .ok ()) (path : String) :
    ofText path c.toYaml = .ok c := by
  unfold ofText
  rw [parseYaml_toYaml]
  simp only [valid]

/-- What is taken from a text is valid. -/
theorem check_of_ofText {path text : String} {c : Config} (read : ofText path text = .ok c) :
    c.check = .ok () := by
  unfold ofText at read
  cases parsed : form.parseYaml text with
  | error e =>
    rw [parsed] at read
    cases read
  | ok d =>
    rw [parsed] at read
    cases checked : d.check with
    | error v => simp [checked] at read
    | ok _ =>
      simp only [checked, Except.ok.injEq] at read
      rw [← read, checked]

theorem check_default : check {} = .ok () := by
  have lower : "info".toLower = "info" := by
    rw [← String.toList_inj]
    exact String.toList_map
  have level : Log.Level.parse? "info" = some .info := by
    have word : Log.Level.number? "info" = none := by decide
    rw [Log.Level.parse?, word, lower]
    rfl
  have limit : ({} : Config).deviceId.maxLength.toNat = 256 := rfl
  simp only [check, limit, level]
  rfl

/-- What is loaded is valid; the defaults are. -/
theorem check_of_load {files : Files.System} {path : Option String} {shown : String} {c : Config}
    (loaded : load files path shown = .ok c) : c.check = .ok () := by
  have ofFile_valid : ∀ {path shown : String}, ofFile files path shown = .ok c → c.check = .ok () := by
    intro path shown read
    unfold ofFile at read
    cases text : files.readText path with
    | error e =>
      rw [text] at read
      cases read
    | ok content =>
      rw [text] at read
      exact check_of_ofText read
  unfold load at loaded
  cases path with
  | some path => exact ofFile_valid loaded
  | none =>
    by_cases found : files.exists? defaultPath = true
    · simp only [found, if_true] at loaded
      exact ofFile_valid loaded
    · simp only [found, Bool.false_eq_true, if_false, Except.ok.injEq] at loaded
      subst loaded
      exact check_default

end Config

namespace Files.System

/-- A file with a text stands at a path. -/
def HasText (files : System) (path text : String) : Prop :=
  files path = .ok (.file (.ok (octetsOf text)))

theorem readText_of_hasText {files : System} {path text : String} (there : files.HasText path text) :
    files.readText path = .ok text := by
  have read : files.read path = .ok (octetsOf text) := by
    unfold read
    rw [there]
  unfold readText
  rw [read]
  simp only [fromUTF8?_octetsOf]

end Files.System

namespace Config

variable {c : Config} {files : Files.System} {path : String}

theorem ofFile_of_hasText (valid : c.check = .ok ()) (there : files.HasText path c.toYaml)
    (shown : String) : ofFile files path shown = .ok c := by
  unfold ofFile
  rw [Files.System.readText_of_hasText there]
  exact ofText_toYaml valid shown

/-- A file with a written configuration is loaded as the configuration. -/
theorem load_of_hasText (valid : c.check = .ok ()) (there : files.HasText path c.toYaml)
    (shown : String) : load files (some path) shown = .ok c :=
  ofFile_of_hasText valid there path

theorem load_default_of_hasText (valid : c.check = .ok ()) (there : files.HasText defaultPath c.toYaml)
    (shown : String) : load files none shown = .ok c := by
  have found : files.exists? defaultPath = true := by
    unfold Files.System.exists?
    rw [there]
    rfl
  unfold load
  simp only [found, if_true]
  exact ofFile_of_hasText valid there shown

end Config

/-! ## The tool -/

namespace CommandLine.Invocation

variable {i : Invocation} {files : Files.System} {shown : String} {environment : Option String}
  {c : Config} {filter : Log.Filter}

/-- The invocation with another configuration file. -/
def withConfig (i : Invocation) (path : String) : Invocation :=
  { i with options := { i.options with configPath := some path } }

theorem start_eq_ok_iff : i.start files shown environment = .ok (c, filter) ↔
    Config.load files i.options.configPath shown = .ok c ∧
      Log.Filter.ofSettings (i.options.logLevel.getD c.logging.level) i.options.debug environment =
        .ok filter := by
  unfold start
  cases Config.load files i.options.configPath shown with
  | error e => simp [Except.mapError, bind, Except.bind]
  | ok d =>
    simp only [Except.mapError, bind, Except.bind, pure, Except.pure, Except.ok.injEq]
    constructor
    · intro started
      cases read : Log.Filter.ofSettings (i.options.logLevel.getD d.logging.level) i.options.debug
          environment with
      | error e =>
        rw [read] at started
        cases started
      | ok f =>
        rw [read] at started
        cases started
        exact ⟨rfl, read⟩
    · rintro ⟨rfl, read⟩
      rw [read]

/-- The command for the configuration succeeds once the tool has started, and prints it. -/
theorem run_showConfig (asks : i.command = .showConfig)
    (started : i.start files shown environment = .ok (c, filter)) :
    (i.run files shown environment).exitCode = 0 ∧
      (i.run files shown environment).output = c.toYaml := by
  unfold run
  rw [started, asks]
  exact ⟨rfl, rfl⟩

/-- A command that succeeds has been started. -/
theorem exists_of_exitCode (succeeds : (i.run files shown environment).exitCode = 0) :
    ∃ c filter, i.start files shown environment = .ok (c, filter) := by
  cases started : i.start files shown environment with
  | error e =>
    unfold run at succeeds
    rw [started] at succeeds
    cases succeeds
  | ok both => exact ⟨both.1, both.2, rfl⟩

end CommandLine.Invocation

namespace CommandLine

/-- Writing a configuration down loses nothing. -/
structure SavingKeepsConfiguration : Prop where
  /-- What is written of a valid configuration is read as the configuration. -/
  readBack : ∀ c : Config, c.check = .ok () → Config.ofYaml c.toYaml = .ok c
  /-- So is a file with it, whether it is named or found in the default place. -/
  loaded : ∀ c : Config, c.check = .ok () → ∀ (saved : Files.System) (path shown : String),
    saved.HasText path c.toYaml → Config.load saved (some path) shown = .ok c
  found : ∀ c : Config, c.check = .ok () → ∀ (saved : Files.System) (shown : String),
    saved.HasText Config.defaultPath c.toYaml → Config.load saved none shown = .ok c
  /-- The tool prints the configuration in use. -/
  printed : ∀ (i : Invocation) (files : Files.System) (shown : String)
      (environment : Option String),
    i.command = .showConfig → (i.run files shown environment).exitCode = 0 →
    ∃ c, Config.load files i.options.configPath shown = .ok c ∧ c.check = .ok () ∧
      (i.run files shown environment).output = c.toYaml
  /-- A file with what the tool printed, given to it in place of the first one, leaves the
  configuration, the format policy and the printed text as they were. -/
  printedAgain : ∀ (i : Invocation) (files : Files.System) (shown : String)
      (environment : Option String),
    i.command = .showConfig → (i.run files shown environment).exitCode = 0 →
    ∀ (saved : Files.System) (path again : String),
      saved.HasText path (i.run files shown environment).output →
      ∃ before after, Config.load files i.options.configPath shown = .ok before ∧
        Config.load saved (some path) again = .ok after ∧ after = before ∧
        after.policy = before.policy ∧
        ((i.withConfig path).run saved again environment).exitCode = 0 ∧
        ((i.withConfig path).run saved again environment).output =
          (i.run files shown environment).output

theorem saving_keeps_configuration : SavingKeepsConfiguration where
  readBack _ valid := Config.ofText_toYaml valid _
  loaded _ valid _ _ shown there := Config.load_of_hasText valid there shown
  found _ valid _ shown there := Config.load_default_of_hasText valid there shown
  printed i files shown environment asks succeeds := by
    obtain ⟨c, filter, started⟩ := Invocation.exists_of_exitCode succeeds
    obtain ⟨loaded, -⟩ := Invocation.start_eq_ok_iff.1 started
    exact ⟨c, loaded, Config.check_of_load loaded, (Invocation.run_showConfig asks started).2⟩
  printedAgain i files shown environment asks succeeds saved path again there := by
    obtain ⟨c, filter, started⟩ := Invocation.exists_of_exitCode succeeds
    obtain ⟨loaded, filtered⟩ := Invocation.start_eq_ok_iff.1 started
    obtain ⟨-, output⟩ := Invocation.run_showConfig asks started
    rw [output] at there ⊢
    have reloaded := Config.load_of_hasText (Config.check_of_load loaded) there again
    have restarted : (i.withConfig path).start saved again environment = .ok (c, filter) :=
      Invocation.start_eq_ok_iff.2 ⟨reloaded, filtered⟩
    have asksAgain : (i.withConfig path).command = .showConfig := asks
    obtain ⟨exit, output⟩ := Invocation.run_showConfig asksAgain restarted
    exact ⟨c, c, loaded, reloaded, rfl, rfl, exit, output⟩

end CommandLine

end DeviceAdmission
