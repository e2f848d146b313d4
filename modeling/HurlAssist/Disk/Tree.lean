import HurlAssist.Disk.Basic

/-!
A disk that is held in memory: files and directories by the names that lead to them, and the
directory from which relative paths start.
-/

namespace HurlAssist

inductive Tree.Entry where
  | file (content : Octets)
  | directory
  deriving DecidableEq, Repr

structure Tree where
  /-- The names that lead to the working directory. -/
  workspace : List Octets := []
  entries : List (List Octets × Tree.Entry) := []

namespace Tree

/-- What stands at a place. The root is a directory. -/
def entry? (t : Tree) (place : List Octets) : Option Entry :=
  if place.isEmpty then some .directory else t.entries.lookup place

/-- The tree without what stands at a place and below it. -/
def remove (place : List Octets) (t : Tree) : Tree :=
  { t with entries := t.entries.filter fun e => !place.isPrefixOf e.1 }

/-- The tree with a directory at a place, if nothing stands there. -/
def addDirectory (t : Tree) (place : List Octets) : Tree :=
  if (t.entry? place).isSome then t
  else { t with entries := (place, .directory) :: t.entries }

/-- The tree with an entry at a place, and with all directories that lead there. -/
def put (place : List Octets) (e : Entry) (t : Tree) : Tree :=
  let t := (List.range place.length).foldl (fun t n => t.addDirectory (place.take n)) (t.remove place)
  { t with entries := (place, e) :: t.entries }

/-- The longest name that a disk can hold, and the longest path that can be asked for. -/
def nameLimit : Nat := 255

def pathLimit : Nat := 4095

/-- Follows names from a place on. -/
def follow (t : Tree) : List Octets → List Octets → Except ReadError (List Octets × Entry)
  | place, [] =>
    match t.entry? place with
    | some e => .ok (place, e)
    | none => .error .notFound
  | place, name :: rest =>
    match t.entry? place with
    | none => .error .notFound
    | some (.file _) => .error .notDirectory
    | some .directory =>
      if name.isEmpty ∨ name = [Path.dot] then follow t place rest
      else if name = [Path.dot, Path.dot] then follow t place.dropLast rest
      else if nameLimit < name.length then .error .nameTooLong
      else follow t (place ++ [name]) rest

/-- The place that a path leads to, and what stands there. -/
def find (t : Tree) (p : Path) : Except ReadError (List Octets × Entry) :=
  if p.octets.contains 0 then .error .nulInName
  else if p.octets.isEmpty then .error .notFound
  else if pathLimit < p.octets.length then .error .nameTooLong
  else t.follow (if p.isAbsolute then [] else t.workspace) (Path.names p.octets)

def isFile (t : Tree) (p : Path) : Bool :=
  match t.find p with
  | .ok (_, .file _) => true
  | _ => false

def read (t : Tree) (p : Path) : Except ReadError Octets :=
  match t.find p with
  | .ok (_, .file content) => .ok content
  | .ok (_, .directory) => .error .isDirectory
  | .error e => .error e

/-- What the program sees of the tree. -/
def disk (t : Tree) : Disk Id := ⟨fun p => t.isFile p, fun p => t.read p⟩

end Tree

end HurlAssist
