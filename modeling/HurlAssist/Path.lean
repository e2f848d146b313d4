import HurlAssist.Text.Octets

/-!
File paths: octets in which slashes separate names. Paths are joined as text. What they consist of
counts without slashes and dots at the end: `a/b/` and `a/b/.` both lie in `a` and are called `b`.
-/

namespace HurlAssist

structure Path where
  octets : Octets
  deriving DecidableEq, Repr, Inhabited

namespace Path

def slash : UInt8 := Octets.ofChar '/'

def dot : UInt8 := Octets.ofChar '.'

def ofText (s : String) : Path := ⟨Octets.ofText s⟩

/-- The path as it is shown. -/
def shown (p : Path) : String := p.octets.shown

def isAbsolute (p : Path) : Bool := p.octets.head? == some slash

/-- The second path as seen from the first. -/
def join (p q : Path) : Path :=
  if q.isAbsolute then q
  else if p.octets.isEmpty ∨ p.octets.getLast? = some slash then ⟨p.octets ++ q.octets⟩
  else ⟨p.octets ++ slash :: q.octets⟩

/-- The octets of a path, last one first, without slashes and dots that name nothing. -/
def dropEmptyNames : Octets → Octets
  | [] => []
  | [b] => [b]
  | a :: b :: rest =>
    if a = slash then dropEmptyNames (b :: rest)
    else if a = dot ∧ b = slash then dropEmptyNames (b :: rest)
    else a :: b :: rest

/-- The octets of a path without slashes and dots at its end that name nothing. -/
def trimmed (os : Octets) : Octets := (dropEmptyNames os.reverse).reverse

/-- The last name of a path and what stands before it. -/
def splitName (os : Octets) : Octets × Octets :=
  let name := (os.reverse.takeWhile (· != slash)).reverse
  (name, os.take (os.length - name.length))

/-- The path that this one lies in. The empty path and the root lie in none. -/
def parent? (p : Path) : Option Path :=
  let os := trimmed p.octets
  if os.isEmpty ∨ os = [slash] then none else some ⟨trimmed (splitName os).2⟩

/-- The last name of a path, unless it is that of the parent folder or of the folder itself. -/
def fileName? (p : Path) : Option Octets :=
  let name := (splitName (trimmed p.octets)).1
  if name.isEmpty ∨ name = [dot] ∨ name = [dot, dot] then none else some name

/-- What follows the last dot of the last name. A dot in front does not count. -/
def extension? (p : Path) : Option Octets :=
  match p.fileName? with
  | none => none
  | some name =>
    let ending := (name.reverse.takeWhile (· != dot)).reverse
    if name.length ≤ ending.length + 1 then none else some ending

/-- The names that a path consists of, empty ones included. -/
def names : Octets → List Octets
  | [] => [[]]
  | b :: rest =>
    if b = slash then [] :: names rest
    else
      match names rest with
      | [] => [[b]]
      | n :: ns => (b :: n) :: ns

end Path

end HurlAssist
