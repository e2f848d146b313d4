import HurlAssist.Decimal
import HurlAssist.Url.Host

/-!
The authority of a URL: user, password, host and service, of which only the host has to be there.
-/

namespace HurlAssist.Url

/-- Characters that have to be encoded in the name of a user and in a password. -/
def inUserInfo : List Char := " \"<>`#?\x7b\x7d/:;=@[\\]^|".toList

/-- What stands before the last of some characters and after it, if there is one. -/
def splitLast? (c : Char) (cs : List Char) : Option (List Char × List Char) :=
  let after := (cs.reverse.takeWhile (· ≠ c)).reverse
  if after.length = cs.length then none
  else some (cs.take (cs.length - after.length - 1), after)

/-- User and password as they are written, with the sign that follows them. A password that is empty
is left out, and so are both. -/
def userInfo (cs : List Char) : List Char :=
  let user := encode inUserInfo (cs.takeWhile (· ≠ ':'))
  let password := encode inUserInfo ((cs.dropWhile (· ≠ ':')).drop 1)
  let written := if password.isEmpty then user else user ++ ':' :: password
  if written.isEmpty then [] else written ++ ['@']

/-- The text of a host, and what follows it: a colon outside of brackets ends it. -/
def splitHost (inBrackets : Bool) : List Char → List Char × List Char
  | [] => ([], [])
  | c :: cs =>
    if c = ':' ∧ !inBrackets then ([], c :: cs)
    else
      let inBrackets := if c = '[' then true else if c = ']' then false else inBrackets
      (c :: (splitHost inBrackets cs).1, (splitHost inBrackets cs).2)

/-- The number of a service after a colon, and what follows it, which can only be a backslash. A
number that the scheme stands for is left out. -/
def service? (standard : Option Nat) (cs : List Char) : Option (List Char × List Char) :=
  match cs with
  | ':' :: cs =>
    let digits := cs.takeWhile Char.isDigit
    let rest := cs.drop digits.length
    let n := Decimal.ofDigits digits
    if 65535 < n ∨ (rest.head?.any (· ≠ '\\')) then none
    else if digits.isEmpty ∨ standard = some n then some ([], rest)
    else some (':' :: Nat.toDigits 10 n, rest)
  | _ => some ([], cs)

/-- Host and service, and what follows them. An empty host has no service, and is no host where
hosts are named. -/
def place? (standard : Option Nat) (cs : List Char) : Option (List Char × List Char) := do
  let (text, rest) := splitHost false cs
  let host ← host? standard.isSome text
  if host.isEmpty ∧ (rest.head? = some ':' ∨ standard.isSome) then none
  let (service, rest) ← service? standard rest
  return (host ++ service, rest)

/-- The authority that a text starts with, and what follows it. `isAll` says that nothing of the URL
comes after the text. A scheme with hosts that are named has a standard service. -/
def authority? (standard : Option Nat) (isAll : Bool) (cs : List Char) :
    Option (List Char × List Char) := do
  match splitLast? '@' cs with
  | none => place? standard cs
  | some (user, rest) =>
    if user.isEmpty ∧ rest.isEmpty ∧ !isAll then none
    let written := userInfo user
    let (place, rest) ← place? standard rest
    if place.isEmpty ∧ !written.isEmpty then none
    return (written ++ place, rest)

end HurlAssist.Url
