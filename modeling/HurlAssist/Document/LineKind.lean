import HurlAssist.Text.Blank

/-!
What a line of a request file is. Several forms fit the same text (`GET` is a method and could be
body text, `"a": 1` is a key with a value and could be JSON), so the forms are tried in the order
of `LineKind` and the first that fits decides.
-/

namespace HurlAssist

open Text

/-- The role of one line. -/
inductive LineKind where
  /-- `HTTP/1.1 200` -/
  | status
  /-- `GET /pets` -/
  | method
  /-- `[Captures]` -/
  | sectionHeader
  /-- `Content-Type: text/plain` -/
  | keyValue
  /-- Nothing but blanks, or a `#` comment. -/
  | blank
  /-- Anything else: body text. -/
  | body
  deriving DecidableEq, Repr, Inhabited

namespace LineKind

/-- Lines that end a request. -/
def endsRequest (k : LineKind) : Bool := k == status || k == method

/-- Lines that end a section. -/
def endsSection (k : LineKind) : Bool := k == sectionHeader || k == method || k == status

theorem endsRequest_eq_false {k : LineKind} :
    k.endsRequest = false ↔ k ≠ status ∧ k ≠ method := by
  simp [endsRequest]

theorem endsSection_eq_false {k : LineKind} :
    k.endsSection = false ↔ k ≠ sectionHeader ∧ k ≠ method ∧ k ≠ status := by
  simp [endsSection, and_assoc]

end LineKind

namespace Line

def isDigit (c : Char) : Bool := '0' ≤ c && c ≤ '9'

def isUpper (c : Char) : Bool := 'A' ≤ c && c ≤ 'Z'

/-- The characters of a section's name. -/
def isNameChar (c : Char) : Bool :=
  isDigit c || isUpper c || ('a' ≤ c && c ≤ 'z') || c == '_' || c == '-'

/-- One or more decimal digits. -/
def isNumber (cs : List Char) : Bool := !cs.isEmpty && cs.all isDigit

/-- The text before the first `sep`, and the text after it if there is one. -/
def cutAt (sep : Char) (cs : List Char) : List Char × Option (List Char) :=
  (cs.takeWhile (· != sep),
    match cs.dropWhile (· != sep) with
    | [] => none
    | _ :: after => some after)

/-- The text after `HTTP/`, if the word starts so. -/
def afterHttp : List Char → Option (List Char)
  | 'H' :: 'T' :: 'T' :: 'P' :: '/' :: version => some version
  | _ => none

/-- `HTTP/` and a version of one number or of two numbers around a point. The version is all that
counts: the status code may be missing or be no number. -/
def isStatus (line : String) : Bool :=
  match afterHttp (firstWord line.toList) with
  | none => false
  | some version =>
    match cutAt '.' version with
    | (major, none) => isNumber major
    | (major, some minor) => isNumber major && isNumber minor

/-- A first word of upper case letters only. -/
def isMethod (line : String) : Bool :=
  let word := firstWord line.toList
  !word.isEmpty && word.all isUpper

/-- The name between the brackets of a section header. -/
def sectionName? (line : String) : Option String :=
  match trim line.toList with
  | '[' :: rest =>
    match rest.getLast? with
    | some ']' =>
      let name := rest.dropLast
      if !name.isEmpty && name.all isNameChar then some (String.ofList name) else none
    | _ => none
  | _ => none

/-- A key that starts in the first column and holds no blank, then a colon. -/
def isKeyValue (line : String) : Bool :=
  match cutAt ':' line.toList with
  | (_, none) => false
  | (before, some _) =>
    let key := trimEnd before
    !key.isEmpty && key.all (!isBlank ·)

/-- Nothing but blanks, or `#` as the first character that is not blank. -/
def isBlankOrComment (line : String) : Bool :=
  match dropBlank line.toList with
  | [] => true
  | c :: _ => c == '#'

/-- Key and value around the first colon, both without blanks around them. Without a colon the
whole line is the key. -/
def keyValue (line : String) : String × String :=
  match cutAt ':' line.toList with
  | (key, none) => (String.ofList (trim key), "")
  | (key, some value) => (String.ofList (trim key), String.ofList (trim value))

/-- The kind of a line: the first form that fits. -/
def kind (line : String) : LineKind :=
  if isStatus line then .status
  else if isMethod line then .method
  else if (sectionName? line).isSome then .sectionHeader
  else if isKeyValue line then .keyValue
  else if isBlankOrComment line then .blank
  else .body

end Line

end HurlAssist
