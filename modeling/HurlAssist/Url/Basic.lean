import HurlAssist.Url.Authority
import HurlAssist.Url.File

/-!
URLs, brought into one form: two texts name the same document if they have the same form. The
scheme is in lower case, the host is an ASCII name or an address in its usual form, dots are taken
out of the path, and characters that may not stand in a URL are encoded.
-/

namespace HurlAssist

/-- A URL in its one form. -/
structure Url where
  text : String
  /-- The path of a file on this machine. -/
  file : Option Path
  deriving DecidableEq, Repr

namespace Url

/-- Without control characters and blanks at both ends. -/
def trimmed (cs : List Char) : List Char :=
  let drop (cs : List Char) := cs.dropWhile fun c => c.toNat ≤ 0x20
  (drop (drop cs).reverse).reverse

/-- The scheme in lower case and what follows its colon. -/
def scheme? (cs : List Char) : Option (List Char × List Char) :=
  let isPart (c : Char) := c.isAlphanum || c == '+' || c == '-' || c == '.'
  let written := cs.takeWhile fun c => isPart c || isGap c
  let scheme := withoutGaps written
  match cs.drop written.length with
  | ':' :: rest =>
    if scheme.head?.any Char.isAlpha then some (scheme.map Char.toLower, rest) else none
  | _ => none

/-- Schemes whose URLs have a named host in front of a path with slashes of either kind, and the
number of the service that each of them stands for. -/
def hostSchemes : List (String × Nat) :=
  [("http", 80), ("https", 443), ("ws", 80), ("wss", 443), ("ftp", 21)]

/-- Characters that have to be encoded in a query. -/
def inQuery : List Char := " \"#<>".toList

/-- Characters that have to be encoded in a fragment. -/
def inFragment : List Char := " \"<>`".toList

/-- A query and a fragment. -/
def tail (quotes : List Char) (cs : List Char) : List Char :=
  match cs with
  | '?' :: rest =>
    let query := '?' :: encode (inQuery ++ quotes) (rest.takeWhile (· ≠ '#'))
    match rest.dropWhile (· ≠ '#') with
    | '#' :: fragment => query ++ '#' :: encode inFragment fragment
    | _ => query
  | '#' :: fragment => '#' :: encode inFragment fragment
  | _ => []

/-- A path whose first slash may be left out. -/
def path (separates : Char → Bool) (cs : List Char) : List Char :=
  joinSegments (segments separates (if cs.head?.any separates then cs.drop 1 else cs))

/-- Host and path of a scheme with named hosts, after any number of slashes. -/
def namedPlace? (standard : Nat) (isAll : Bool) (cs : List Char) : Option (List Char) := do
  let cs := cs.dropWhile isSlash
  let text := cs.takeWhile (!isSlash ·)
  let after := cs.drop text.length
  let (authority, _) ← authority? (some standard) (isAll && after.isEmpty) text
  return "//".toList ++ authority ++ path isSlash after

/-- What follows any other scheme: host and path after two slashes, or a path after one, or any
text. A path that starts with two slashes is marked by a dot, so that it is not taken for a host. -/
def anyPlace? (isAll : Bool) (cs : List Char) : Option (List Char) := do
  match cs with
  | '/' :: '/' :: rest =>
    let text := rest.takeWhile (· ≠ '/')
    let after := rest.drop text.length
    let (authority, left) ← authority? none (isAll && after.isEmpty) text
    let after := left ++ after
    return "//".toList ++ authority ++ if after.isEmpty then [] else path (· == '/') after
  | '/' :: _ =>
    let path := path (· == '/') cs
    return if "//".toList.isPrefixOf path then "/.".toList ++ path else path
  | _ => return encode [] cs

/-- The URL that a text names. -/
def ofText? (s : String) : Option Url := do
  let (scheme, rest) ← scheme? (trimmed s.toList)
  let body := rest.takeWhile fun c => c ≠ '?' ∧ c ≠ '#'
  let after := withoutGaps (rest.drop body.length)
  let name := String.ofList scheme
  if name = "file" then
    let file ← FileName.ofText? body
    return ⟨String.ofList (file.text ++ tail ['\''] after), file.onDisk?⟩
  else
    let body := withoutGaps body
    let (place, quotes) ← match hostSchemes.lookup name with
      | some standard => (namedPlace? standard after.isEmpty body).map (·, ['\''])
      | none => (anyPlace? after.isEmpty body).map (·, [])
    return ⟨String.ofList (scheme ++ ':' :: place ++ tail quotes after), none⟩

end Url

/-- The path that a text names, as a URL of a file or as it stands. A URL that names no file on this
machine is taken as a path too, without `file://`. -/
def Path.ofUri (uri : String) : Path :=
  match (Url.ofText? uri).bind Url.file with
  | some p => p
  | none =>
    let cs := uri.toList
    let start := "file://".toList
    .ofText (String.ofList (if start.isPrefixOf cs then cs.drop start.length else cs))

end HurlAssist
