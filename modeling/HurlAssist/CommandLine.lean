import HurlAssist.Digits
import HurlAssist.Disk.Basic
import HurlAssist.Document.Parse
import HurlAssist.Document.Query
import HurlAssist.Document.Tree
import HurlAssist.Program
import HurlAssist.Url.Basic

/-!
The command line: what arguments mean, and what the commands print. `tree` prints a document as
JSON, `captures` the variables that a document captures, `lsp` runs the language server.
-/

namespace HurlAssist.CommandLine

inductive Command where
  | lsp
  | tree (file : String) (compact : Bool)
  | captures (file : String) (line : Option Nat)
  | version
  deriving DecidableEq, Repr

/-- A number of a line: decimal digits, with a sign in front if one likes. It has to lie between
zero, which may have a minus too, and `2 ^ 32`. -/
def lineNumber? (s : String) : Option Nat :=
  let (bound, digits) := match s.toList with
    | '+' :: rest => (0x100000000, rest)
    | '-' :: rest => (1, rest)
    | cs => (0x100000000, cs)
  (Digits.number? 10 digits).bind fun n => if n < bound then some n else none

/-- What has been read of the arguments of a command. -/
structure Given where
  file : Option String := none
  compact : Bool := false
  line : Option Nat := none

/-- The one file that a command works on. -/
def Given.addFile? (g : Given) (s : String) : Option Given :=
  if g.file.isSome then none else some { g with file := some s }

def Given.addLine? (g : Given) (s : String) : Option Given :=
  if g.line.isSome then none
  else (lineNumber? s).map fun n => { g with line := some n }

def Given.addCompact? (g : Given) : Option Given :=
  if g.compact then none else some { g with compact := true }

/-- The text after a start that is known. -/
def afterStart? (start : String) (s : String) : Option String :=
  if start.toList.isPrefixOf s.toList then some (String.ofList (s.toList.drop start.length))
  else none

/-- Whether an argument is an option and no file. A hyphen alone is a file. -/
def isOption (s : String) : Bool :=
  match s.toList with
  | '-' :: _ :: _ => true
  | _ => false

/-- What an argument is. -/
inductive Word where
  | file
  /-- Two hyphens: all that follows are files. -/
  | onlyFiles
  | compact
  /-- The option for a line, whose number is the next argument. -/
  | line
  /-- The option for a line with its number. -/
  | lineNumber (written : String)
  | unknown

def word (s : String) : Word :=
  if !isOption s then .file
  else if s = "--" then .onlyFiles
  else if s = "--compact" then .compact
  else if s = "--line" ∨ s = "-l" then .line
  else
    match afterStart? "--line=" s, afterStart? "-l=" s, afterStart? "-l" s with
    | some n, _, _ => .lineNumber n
    | none, some n, _ => .lineNumber n
    | none, none, some n => .lineNumber n
    | none, none, none => .unknown

/-- Reads the arguments of a command, in any order. The command takes the option for a line, or else
the one for compact output. -/
def arguments? (takesLine : Bool) : Bool → Given → List String → Option Given
  | _, g, [] => some g
  | onlyFiles, g, s :: rest =>
    match if onlyFiles then .file else word s with
    | .file => (g.addFile? s).bind (arguments? takesLine onlyFiles · rest)
    | .onlyFiles => arguments? takesLine true g rest
    | .compact =>
      if takesLine then none else (g.addCompact?).bind (arguments? takesLine false · rest)
    | .line =>
      match rest with
      | [] => none
      | n :: rest =>
        if takesLine && !isOption n then
          (g.addLine? n).bind (arguments? takesLine false · rest)
        else none
    | .lineNumber n =>
      if takesLine then (g.addLine? n).bind (arguments? takesLine false · rest) else none
    | .unknown => none

/-- Whether an argument asks for the version, where a command could stand. -/
def isVersionOption (s : String) : Bool := s == "--version" || (afterStart? "-V" s).isSome

/-- The command that arguments ask for. -/
def command? : List String → Option Command
  | [] => none
  | s :: rest =>
    if isVersionOption s then some .version
    else if s = "lsp" then if rest.all (· == "--") ∧ rest.length ≤ 1 then some .lsp else none
    else if s = "tree" then
      (arguments? false false {} rest).bind fun g => g.file.map fun f => .tree f g.compact
    else if s = "captures" then
      (arguments? true false {} rest).bind fun g => g.file.map fun f => .captures f g.line
    else none

/-- Why a command fails. -/
inductive Failure where
  | input (error : ReadError)
  | source (error : SourceError)
  | malformed (error : ParseError)
  deriving Repr

def Failure.message : Failure → String
  | input e => e.message
  | source e => e.message
  | malformed e => e.message

/-- The exit code of a failure: one for a document that does not parse, three if it could not be
read. -/
def Failure.exitCode : Failure → Nat
  | input _ => 3
  | source _ => 3
  | malformed _ => 1

/-- The exit code for arguments that ask for no command. -/
def usageExitCode : Nat := 2

/-- Lines, each with its end. -/
def printed (ls : List String) : String := String.join (ls.map fun l => l ++ "\n")

/-- The tree of a document as it is printed. -/
def treeOutput (compact : Bool) (d : Document) : String :=
  printed [if compact then d.toJson.compact else d.toJson.pretty 0]

/-- The variables that can be used on a line, or all sections that capture some. -/
def capturesOutput (line : Option Nat) (d : Document) : String :=
  match line with
  | some n => printed (d.variablesAt n)
  | none => printed (d.captures.map Capture.listing)

variable {m : Type → Type} [Monad m]

/-- The lines of the document that a command works on. A hyphen is the standard input. -/
def readLines (disk : Disk m) (input : m Octets) (file : String) :
    m (Except Failure (List String)) := do
  if file = "-" then
    match decodeText (← input) with
    | .ok text => return .ok (Text.lines text)
    | .error e => return .error (.input e)
  else
    match ← disk.readLines (.ofUri file) with
    | .ok ls => return .ok ls
    | .error e => return .error (.source e)

/-- The document that a command works on. -/
def readDocument (disk : Disk m) (input : m Octets) (file : String) :
    m (Except Failure Document) := do
  match ← readLines disk input file with
  | .error e => return .error e
  | .ok ls =>
    match Document.ofLines ls with
    | .error e => return .error (.malformed e)
    | .ok d => return .ok d

/-- What the program comes to: its exit code and what it prints. -/
structure Outcome where
  exitCode : Nat
  output : String := ""
  errors : String := ""
  deriving DecidableEq, Repr

/-- What comes of a command that prints something about a document. -/
def outcome (print : Document → String) : Except Failure Document → Outcome
  | .ok d => { exitCode := 0, output := print d }
  | .error e => { exitCode := e.exitCode, errors := printed ["error: " ++ e.message] }

/-- What is printed for the version. -/
def versionOutput : String := printed [Program.name ++ " " ++ Program.version]

/-- Runs a command other than the language server, which takes no part in this. -/
def run (disk : Disk m) (input : m Octets) : Command → m Outcome
  | .tree file compact => return outcome (treeOutput compact) (← readDocument disk input file)
  | .captures file line => return outcome (capturesOutput line) (← readDocument disk input file)
  | .version => return { exitCode := 0, output := versionOutput }
  | .lsp => return { exitCode := 0 }

end HurlAssist.CommandLine
