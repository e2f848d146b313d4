import HurlAssist.Disk.Basic
import HurlAssist.Json.Record

/-!
The settings of the language server: where the API definition is. They stand in a file of the
working directory, or else in one of the user's own. A relative path starts at the directory of the
file that it stands in.
-/

namespace HurlAssist

structure Config where
  /-- Where the API definition is. -/
  definition : Option Path := none
  deriving DecidableEq, Repr

namespace Config

/-- The name of the settings of a working directory. -/
def localName : Path := .ofText ".hurl-ls.json"

/-- The name of the field that says where the API definition is. -/
def fieldName : String := "openapi_def"

def isDefault (c : Config) : Bool := c == {}

/-- The settings as JSON. What is not set is left out. -/
def toJson (c : Config) : Json :=
  .object (c.definition.map fun p => (fieldName, .string p.shown)).toList

/-- What is set for the API definition. -/
def definitionOfSyntax? : Json.Syntax → Option (Option Path)
  | .null => some none
  | .string s => (Json.text? s).map fun text => some (.ofText text)
  | _ => none

def ofSyntax? (s : Json.Syntax) : Option Config :=
  match Json.onlyField? fieldName s with
  | none => none
  | some none => some {}
  | some (some value) => (definitionOfSyntax? value).map fun p => ⟨p⟩

/-- The settings that a text writes. -/
def ofText? (text : String) : Option Config := (Json.Syntax.ofText? text).bind ofSyntax?

/-- The settings as they are to be read from a file at `path`. -/
def relativeTo (path : Path) (c : Config) : Config :=
  match path.parent? with
  | none => c
  | some folder => ⟨c.definition.map folder.join⟩

/-- Why settings could not be loaded. -/
inductive LoadError where
  | read (path : Path) (error : ReadError)
  | malformed (path : Path)
  deriving DecidableEq, Repr

/-- What is wrong. What the parser says of a text that it refuses would stand behind a colon after
this. It is left out, for there are no words for it here. -/
def LoadError.message : LoadError → String
  | .read path e => "Failed to read config at " ++ path.shown ++ ": " ++ e.message
  | .malformed path => "Failed to parse config at " ++ path.shown

/-- What the environment says of the directories by which settings are found. -/
structure Environment where
  /-- The working directory, or why it cannot be told. -/
  workspace : Except ReadError Path
  /-- The home directory of the user, if there is one. -/
  home : Option Path
  /-- The directory for settings that the environment names, if it names one. -/
  named : Option Path := none

/-- The directory for the settings of the user, if there is one. One that the environment names has
to be absolute, else it does not count. -/
def Environment.userDirectory? (env : Environment) : Option Path :=
  match env.named.filter Path.isAbsolute with
  | some directory => some directory
  | none => env.home.map (·.join (.ofText ".config"))

/-- The file for the settings in a directory for the settings of a user. -/
def fileIn (directory : Path) : Path :=
  (directory.join (.ofText "hurl-ls")).join (.ofText "config.json")

/-- The file for the settings of the user, if there is a directory for it. -/
def Environment.userFile? (env : Environment) : Option Path := env.userDirectory?.map fileIn

/-- The directories by which settings are found where all of them are known. -/
structure Places where
  workspace : Path
  home : Path
  /-- The directory for settings that the environment names, if it names one. -/
  named : Option Path := none

/-- The environment that says of the directories where they are. -/
def Places.environment (p : Places) : Environment := ⟨.ok p.workspace, some p.home, p.named⟩

instance : Coe Places Environment := ⟨Places.environment⟩

theorem Places.isSome_userFile? (p : Places) : p.environment.userFile?.isSome = true := by
  unfold Environment.userFile? Environment.userDirectory?
  split <;> rfl

/-- The file for the settings of the user. -/
def Places.userFile (p : Places) : Path := p.environment.userFile?.get p.isSome_userFile?

variable {m : Type → Type} [Monad m]

/-- The file whose settings apply in a directory, if there is one. -/
def find? (disk : Disk m) (env : Environment) (directory : Path) : m (Option Path) := do
  let own := directory.join localName
  if ← disk.isFile own then return some own
  else
    match env.userFile? with
    | none => return none
    | some file => if ← disk.isFile file then return some file else return none

/-- The settings of a file. -/
def loadFrom (disk : Disk m) (path : Path) : m (Except LoadError Config) := do
  match ← disk.readText path with
  | .error e => return .error (.read path e)
  | .ok text =>
    match ofText? text with
    | none => return .error (.malformed path)
    | some c => return .ok (c.relativeTo path)

/-- The settings that apply in the working directory, if there are any. -/
def load (disk : Disk m) (env : Environment) : m (Except LoadError (Option Config)) := do
  match env.workspace with
  | .error e => return .error (.read (.ofText ".") e)
  | .ok directory =>
    match ← find? disk env directory with
    | none => return .ok none
    | some path => return (← loadFrom disk path).map some

end Config

end HurlAssist
