import HurlAssist.Config
import HurlAssist.Proofs.Api.Naming
import HurlAssist.Proofs.Path

/-!
Where settings lead. They stand in a file of the working directory or in one of the user's own
(`Config.StandIn`), name a file for the API definition, and that file is read in the format that its
name stands for. Each stage has a lemma for when it has a result. Main statement: what is loaded is
what the settings name (`Config.namesFile_iff`).
-/

namespace HurlAssist

/-- The file can be read, and its octets are this text. -/
def Disk.HasText (disk : Disk Id) (path : Path) (text : String) : Prop :=
  ∃ octets, (disk.read path).run = .ok octets ∧ octets.text? = some text

theorem Disk.readText_eq_ok {disk : Disk Id} {path : Path} {text : String} :
    (disk.readText path).run = .ok text ↔ disk.HasText path text := by
  have steps : (disk.readText path).run = (disk.read path).run.bind decodeText := rfl
  rw [steps, HasText]
  cases (disk.read path).run with
  | error e => simp [Except.bind]
  | ok octets => cases read : octets.text? <;> simp [Except.bind, decodeText, read]

theorem Api.Definition.load_eq_ok {disk : Disk Id} {path : Path} {api : Api.Definition} :
    (load disk path).run = .ok api ↔ ∃ text format, disk.HasText path text ∧
      Format.OfName path format ∧ ofText format text = .ok api := by
  simp only [← Disk.readText_eq_ok, ← Format.ofPath_eq_iff]
  cases read : (disk.readText path).run with
  | error e =>
    replace read : disk.readText path = pure (.error e) := read
    have failed : load disk path = pure (.error (.read path e)) := by rw [load, read, pure_bind]
    simp [failed]
  | ok text =>
    replace read : disk.readText path = pure (.ok text) := read
    have loaded : load disk path = pure (ofText (.ofPath path) text) := by
      rw [load, read, pure_bind]
    simp [loaded]

namespace Config

variable {disk : Disk Id} {env : Environment} {directory file folder : Path} {config : Config}

/-- The directory for the settings of the user: the one that the environment names, if its path is
absolute, or else one in the home directory. -/
inductive UserDirectory (env : Environment) : Path → Prop
  | named {directory : Path} (named : env.named = some directory)
      (absolute : directory.isAbsolute = true) : UserDirectory env directory
  | home {home : Path} (other : ∀ named, env.named = some named → named.isAbsolute = false)
      (known : env.home = some home) : UserDirectory env (home.join (.ofText ".config"))

theorem userDirectory?_eq_some : env.userDirectory? = some directory ↔
    UserDirectory env directory := by
  unfold Environment.userDirectory?
  constructor
  · intro found
    split at found
    · rename_i absolute
      obtain ⟨named, absolute⟩ := Option.filter_eq_some_iff.mp absolute
      cases found
      exact .named named absolute
    · rename_i none
      obtain ⟨home, known, rfl⟩ := Option.map_eq_some_iff.mp found
      refine .home (fun named h => ?_) known
      rw [h, Option.filter_eq_none_iff] at none
      exact Bool.eq_false_iff.mpr (none named rfl)
  · rintro (⟨named, absolute⟩ | ⟨other, known⟩)
    · rw [named, Option.filter_some_pos absolute]
    · have none : env.named.filter Path.isAbsolute = none := by
        rw [Option.filter_eq_none_iff]
        intro named h
        rw [other named h]
        exact Bool.false_ne_true
      rw [none, known]
      rfl

/-- The settings that apply stand in this file, which lies in this folder: the working directory,
which has to be known, has them, or else the user. -/
inductive StandIn (disk : Disk Id) (env : Environment) : Path → Path → Prop
  | own {workspace : Path} (known : env.workspace = .ok workspace)
      (file : (disk.isFile (workspace.join (.ofText ".hurl-ls.json"))).run = true) :
      StandIn disk env (workspace.join (.ofText ".hurl-ls.json")) ⟨Path.trimmed workspace.octets⟩
  | users {workspace directory : Path} (known : env.workspace = .ok workspace)
      (none : (disk.isFile (workspace.join (.ofText ".hurl-ls.json"))).run = false)
      (user : UserDirectory env directory)
      (file : (disk.isFile
        ((directory.join (.ofText "hurl-ls")).join (.ofText "config.json"))).run = true) :
      StandIn disk env ((directory.join (.ofText "hurl-ls")).join (.ofText "config.json"))
        (directory.join (.ofText "hurl-ls"))

theorem names_localName : Path.Names (Octets.ofText ".hurl-ls.json") :=
  ⟨by decide, ⟨Octets.ofText ".hurl-ls.jso", Octets.ofChar 'n', by decide, by decide⟩⟩

theorem names_userFolder : Path.Names (Octets.ofText "hurl-ls") :=
  ⟨by decide, ⟨Octets.ofText "hurl-l", Octets.ofChar 's', by decide, by decide⟩⟩

theorem names_userFile : Path.Names (Octets.ofText "config.json") :=
  ⟨by decide, ⟨Octets.ofText "config.jso", Octets.ofChar 'n', by decide, by decide⟩⟩

theorem StandIn.parent?_eq (h : StandIn disk env file folder) : file.parent? = some folder := by
  cases h with
  | own => exact Path.parent?_join names_localName
  | @users _ directory =>
    have whole : Path.trimmed (directory.join (.ofText "hurl-ls")).octets =
        (directory.join (.ofText "hurl-ls")).octets := Path.trimmed_join names_userFolder
    refine (Path.parent?_join names_userFile).trans ?_
    rw [whole]

theorem find?_eq_some : (find? disk env directory).run = some file ↔
    ((disk.isFile (directory.join localName)).run = true ∧ directory.join localName = file) ∨
    ((disk.isFile (directory.join localName)).run = false ∧ env.userFile? = some file ∧
      (disk.isFile file).run = true) := by
  have steps : (find? disk env directory).run =
      if (disk.isFile (directory.join localName)).run then some (directory.join localName)
      else env.userFile?.filter fun file => (disk.isFile file).run := by
    unfold find?
    cases env.userFile? <;> rfl
  rw [steps]
  cases own : (disk.isFile (directory.join localName)).run with
  | true => simp
  | false => simp [Option.filter_eq_some_iff]

/-- The file whose settings apply in the working directory. -/
theorem exists_standIn_iff : (∃ folder, StandIn disk env file folder) ↔
    ∃ workspace, env.workspace = .ok workspace ∧ (find? disk env workspace).run = some file := by
  simp only [find?_eq_some, Environment.userFile?, Option.map_eq_some_iff, userDirectory?_eq_some]
  constructor
  · rintro ⟨folder, stands⟩
    cases stands with
    | own known here => exact ⟨_, known, .inl ⟨here, rfl⟩⟩
    | users known none user here => exact ⟨_, known, .inr ⟨none, ⟨_, user, rfl⟩, here⟩⟩
  · rintro ⟨workspace, known, ⟨here, rfl⟩ | ⟨none, ⟨directory, user, rfl⟩, here⟩⟩
    · exact ⟨_, .own known here⟩
    · exact ⟨_, .users known none user here⟩

theorem loadFrom_eq_ok : (loadFrom disk file).run = .ok config ↔
    ∃ text written, disk.HasText file text ∧ ofText? text = some written ∧
      written.relativeTo file = config := by
  simp only [← Disk.readText_eq_ok]
  cases read : (disk.readText file).run with
  | error e =>
    replace read : disk.readText file = pure (.error e) := read
    have failed : loadFrom disk file = pure (.error (.read file e)) := by
      rw [loadFrom, read, pure_bind]
    simp [failed]
  | ok text =>
    replace read : disk.readText file = pure (.ok text) := read
    cases decoded : ofText? text with
    | none =>
      have failed : loadFrom disk file = pure (.error (.malformed file)) := by
        simp only [loadFrom, read, pure_bind, decoded]
      simp [failed, decoded]
    | some c =>
      have loaded : loadFrom disk file = pure (.ok (c.relativeTo file)) := by
        simp only [loadFrom, read, pure_bind, decoded]
      simp [loaded, decoded]

/-- The text of settings points to this path for the API definition: it is JSON, and a string with
the path stands at its only field. -/
inductive PointsTo (text : String) : Path → Prop
  | field {s : Json.Syntax} {written : List Json.Element} {shown : String}
      (json : Json.Syntax.ofText? text = some s)
      (field : Json.onlyField? "openapi_def" s = some (some (.string written)))
      (string : Json.text? written = some shown) : PointsTo text (.ofText shown)

theorem pointsTo_iff {text : String} {named : Path} : PointsTo text named ↔
    ∃ config, ofText? text = some config ∧ config.definition = some named := by
  constructor
  · rintro ⟨json, field, string⟩
    refine ⟨⟨some _⟩, ?_, rfl⟩
    rw [ofText?, json, Option.bind_some, ofSyntax?, fieldName, field]
    simp only [definitionOfSyntax?, string, Option.map_some]
  · rintro ⟨config, understood, names⟩
    obtain ⟨s, json, understood⟩ := Option.bind_eq_some_iff.mp understood
    unfold ofSyntax? at understood
    split at understood
    · cases understood
    · cases understood
      cases names
    · rename_i value field
      obtain ⟨path, read, rfl⟩ := Option.map_eq_some_iff.mp understood
      unfold definitionOfSyntax? at read
      split at read
      · cases read
        cases names
      · obtain ⟨shown, string, same⟩ := Option.map_eq_some_iff.mp read
        rw [← same] at names
        cases names
        exact .field json field string
      · cases read

/-- The settings name this file for the API definition: they stand somewhere, can be read, and point
to it. A path that is not absolute starts in the folder of the settings. -/
inductive NamesFile (disk : Disk Id) (env : Environment) : Path → Prop
  | intro {file folder named : Path} {text : String} (stands : StandIn disk env file folder)
      (read : disk.HasText file text) (points : PointsTo text named) :
      NamesFile disk env (if named.isAbsolute then named else folder.join named)

/-- The settings lead to this API definition: the file that they name can be read, as JSON if its
name ends in `.json` and as YAML if not. -/
def LeadsTo (disk : Disk Id) (env : Environment) (api : Api.Definition) : Prop :=
  ∃ file text format, NamesFile disk env file ∧ disk.HasText file text ∧
    Api.Format.OfName file format ∧ Api.Definition.ofText format text = .ok api

theorem load_of_known {workspace : Path} (known : env.workspace = .ok workspace) :
    (load disk env).run =
      match (find? disk env workspace).run with
      | none => .ok none
      | some file => (loadFrom disk file).run.map some := by
  rw [load, known]
  rfl

theorem load_eq_ok : (load disk env).run = .ok (some config) ↔
    ∃ file folder, StandIn disk env file folder ∧ (loadFrom disk file).run = .ok config := by
  constructor
  · intro loaded
    cases known : env.workspace with
    | error e =>
      have failed : (load disk env).run = .error (.read (.ofText ".") e) := by
        rw [load, known]
        rfl
      rw [failed] at loaded
      cases loaded
    | ok workspace =>
      rw [load_of_known known] at loaded
      split at loaded
      · cases loaded
      · rename_i file found
        obtain ⟨folder, stands⟩ := exists_standIn_iff.mpr ⟨workspace, known, found⟩
        refine ⟨file, folder, stands, ?_⟩
        cases own : (loadFrom disk file).run with
        | error e =>
          rw [own] at loaded
          cases loaded
        | ok c =>
          rw [own] at loaded
          cases loaded
          rfl
  · rintro ⟨file, folder, stands, loaded⟩
    obtain ⟨workspace, known, found⟩ := exists_standIn_iff.mp ⟨folder, stands⟩
    rw [load_of_known known, found]
    simp only [loaded]
    rfl

theorem namesFile_iff : NamesFile disk env file ↔
    ∃ config, (load disk env).run = .ok (some config) ∧ config.definition = some file := by
  constructor
  · rintro ⟨stands, read, points⟩
    obtain ⟨written, understood, names⟩ := pointsTo_iff.mp points
    refine ⟨_, load_eq_ok.mpr ⟨_, _, stands, loadFrom_eq_ok.mpr
      ⟨_, _, read, understood, rfl⟩⟩, ?_⟩
    rw [relativeTo, stands.parent?_eq]
    simp only [names, Option.map_some]
    rw [← Path.join_eq_ite]
  · rintro ⟨config, loaded, names⟩
    obtain ⟨place, folder, stands, loaded⟩ := load_eq_ok.mp loaded
    obtain ⟨text, written, read, understood, rfl⟩ := loadFrom_eq_ok.mp loaded
    rw [relativeTo, stands.parent?_eq] at names
    obtain ⟨named, set, rfl⟩ := Option.map_eq_some_iff.mp names
    rw [Path.join_eq_ite]
    exact .intro stands read (pointsTo_iff.mpr ⟨written, understood, set⟩)

end Config

end HurlAssist
