import HurlAssist.CommandLine
import HurlAssist.Editor.Message

/-!
The program: it carries out what the command line asks for. Files, the environment and the standard
streams are read and written here and nowhere else.
-/

namespace HurlAssist

/-- The number and the text of an answer of the operating system. -/
def systemError : IO.Error → UInt32 × String
  | .alreadyExists _ code text => (code, text)
  | .otherError code text => (code, text)
  | .resourceBusy code text => (code, text)
  | .resourceVanished code text => (code, text)
  | .unsupportedOperation code text => (code, text)
  | .hardwareFault code text => (code, text)
  | .unsatisfiedConstraints code text => (code, text)
  | .illegalOperation code text => (code, text)
  | .protocolError code text => (code, text)
  | .timeExpired code text => (code, text)
  | .interrupted _ code text => (code, text)
  | .noFileOrDirectory _ code text => (code, text)
  | .invalidArgument _ code text => (code, text)
  | .permissionDenied _ code text => (code, text)
  | .resourceExhausted _ code text => (code, text)
  | .inappropriateType _ code text => (code, text)
  | .noSuchThing _ code text => (code, text)
  | .unexpectedEof => (0, "end of file")
  | .userError text => (0, text)

/-- Why a file or a directory cannot be read. A number may come negated from the library that stands
before the operating system, and its texts start with a small letter there. -/
def readError (e : IO.Error) : ReadError :=
  let (code, text) := systemError e
  .ofSystem (if code < 0x80000000 then code else 0 - code).toNat text.capitalize

/-- Reads a file of this machine. -/
def readFile (p : Path) : IO (Except ReadError Octets) := do
  if p.octets.contains 0 then return .error .nulInName
  else
    match ← (IO.FS.readBinFile p.shown).toBaseIO with
    | .ok content => return .ok content.data.toList
    | .error e => return .error (readError e)

/-- The disk of this machine. -/
def machineDisk : Disk IO where
  isFile p := do return ReadError.meansFile (← readFile p)
  read := readFile

/-- What the environment of the program says now. A working directory that has no name was removed,
and a home directory without a name is none. -/
def machineEnvironment : IO Config.Environment := do
  let workspace ← IO.currentDir.toBaseIO
  let home ← IO.getEnv "HOME"
  let named ← IO.getEnv "XDG_CONFIG_HOME"
  return {
    workspace := match workspace with
      | .ok directory => .ok (.ofText directory.toString)
      | .error _ => .error .notFound
    home := (home.filter (· != "")).map Path.ofText
    named := named.map Path.ofText }

/-- All that is left to read of a stream. -/
partial def readAll (stream : IO.FS.Stream) (done : ByteArray) : IO ByteArray := do
  let chunk ← stream.read 65536
  if chunk.isEmpty then return done else readAll stream (done ++ chunk)

/-- Writes messages to an editor. -/
def send (stream : IO.FS.Stream) (messages : List Json) : IO Unit := do
  for j in messages do stream.putStr (Editor.Message.framed j)
  stream.flush

/-- Serves an editor until it ends the connection. `pending` has come and is not read yet. -/
partial def serve (input output : IO.FS.Stream) (c : Editor.Connection) (pending : Octets) :
    IO Unit := do
  if c.phase = .ended then return
  match Editor.Message.start pending with
  | .message body rest =>
    let (c, messages) ← c.receiveOctets machineDisk (← machineEnvironment) body
    send output messages
    serve input output c rest
  | .noMessage rest => serve input output c rest
  | .incomplete =>
    let chunk ← input.read 65536
    if chunk.isEmpty then return
    else serve input output c (pending ++ chunk.data.toList)

end HurlAssist

open HurlAssist in
def main (arguments : List String) : IO UInt32 := do
  match CommandLine.command? arguments with
  | none =>
    IO.eprintln "usage: hurl-ls lsp | tree FILE [--compact] | captures FILE [--line N]"
    return CommandLine.usageExitCode.toUInt32
  | some .lsp =>
    serve (← IO.getStdin) (← IO.getStdout) {} []
    return 0
  | some command =>
    let input : IO Octets := do return (← readAll (← IO.getStdin) .empty).data.toList
    let outcome ← CommandLine.run machineDisk input command
    IO.print outcome.output
    IO.eprint outcome.errors
    return outcome.exitCode.toUInt32
