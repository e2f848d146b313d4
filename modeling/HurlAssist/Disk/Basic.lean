import HurlAssist.Path
import HurlAssist.Text.Lines

/-!
What the program sees of a disk: which paths are files, and what reading them gives. `m` says where
the answers come from, the machine or a model of a disk.
-/

namespace HurlAssist

/-- Why a file could not be read. -/
inductive ReadError where
  | notFound
  | notDirectory
  | isDirectory
  | nameTooLong
  | nulInName
  | notText
  /-- Any other answer of the operating system. -/
  | system (code : Nat) (text : String)
  deriving DecidableEq, Repr

namespace ReadError

def numbered (text : String) (code : Nat) : String := text ++ " (os error " ++ toString code ++ ")"

def message : ReadError → String
  | notFound => numbered "No such file or directory" 2
  | notDirectory => numbered "Not a directory" 20
  | isDirectory => numbered "Is a directory" 21
  | nameTooLong => numbered "File name too long" 36
  | nulInName => "file name contained an unexpected NUL byte"
  | notText => "stream did not contain valid UTF-8"
  | system code text => numbered text code

/-- The error that the operating system gives a number and a text for. -/
def ofSystem (code : Nat) (text : String) : ReadError :=
  if code = 2 then notFound
  else if code = 20 then notDirectory
  else if code = 21 then isDirectory
  else if code = 36 then nameTooLong
  else system code text

/-- Whether what came of reading a path shows that there is a file. -/
def meansFile {α : Type} : Except ReadError α → Bool
  | .ok _ => true
  | .error (.system _ _) => true
  | .error _ => false

end ReadError

structure Disk (m : Type → Type) where
  isFile : Path → m Bool
  read : Path → m (Except ReadError Octets)

/-- The text that octets hold. -/
def decodeText (os : Octets) : Except ReadError String :=
  match os.text? with
  | some s => .ok s
  | none => .error .notText

namespace Disk

variable {m : Type → Type} [Monad m]

/-- The text of a file. -/
def readText (d : Disk m) (p : Path) : m (Except ReadError String) := do
  return (← d.read p).bind decodeText

end Disk

/-- A document that could not be read. -/
structure SourceError where
  path : Path
  error : ReadError
  deriving DecidableEq, Repr

def SourceError.message (e : SourceError) : String :=
  "couldn't open file " ++ e.path.shown ++ ": " ++ e.error.message

/-- The lines of a document on disk. -/
def Disk.readLines {m : Type → Type} [Monad m] (d : Disk m) (p : Path) :
    m (Except SourceError (List String)) := do
  match ← d.readText p with
  | .ok text => return .ok (Text.lines text)
  | .error e => return .error ⟨p, e⟩

end HurlAssist
