/-!
A place in YAML text: what is still to be read, and where it stands. A line ends at a carriage
return, a line feed, both together, a next-line character, or one of the separators of lines and
paragraphs.
-/

namespace HurlAssist.Yaml

/-- A blank or a tab. -/
def isBlank (c : Char) : Bool := c == ' ' || c == '\t'

def lineSeparator : Char := Char.ofNat 0x2028

def paragraphSeparator : Char := Char.ofNat 0x2029

def nextLine : Char := Char.ofNat 0x85

/-- A character that ends a line. -/
def isBreak (c : Char) : Bool :=
  c == '\n' || c == '\r' || c == nextLine || c == lineSeparator || c == paragraphSeparator

/-- A blank, a tab or a character that ends a line. -/
def isSpace (c : Char) : Bool := isBlank c || isBreak c

/-- A character of names: ASCII letters, digits, underscore and hyphen. -/
def isNameChar (c : Char) : Bool := c.isAlphanum || c == '_' || c == '-'

/-- Whether YAML text may hold the character. -/
def isAllowed (c : Char) : Bool :=
  c == '\t' || c == '\n' || c == '\r' || (0x20 ≤ c.toNat && c.toNat ≤ 0x7E) || c.toNat == 0x85 ||
  (0xA0 ≤ c.toNat && c.toNat ≤ 0xD7FF) || (0xE000 ≤ c.toNat && c.toNat ≤ 0xFFFD) ||
  0x10000 ≤ c.toNat

/-- The mark that may start a line and belongs to no word of it. -/
def byteOrderMark : Char := Char.ofNat 0xFEFF

/-- Whether the text is at its end or a blank or line end comes next. -/
def endsWord : List Char → Bool
  | [] => true
  | c :: _ => isSpace c

/-- Whether the text is at its end or a line end comes next. -/
def endsLine : List Char → Bool
  | [] => true
  | c :: _ => isBreak c

/-- A place in a text. Line and column count from zero. -/
structure Cursor where
  rest : List Char
  line : Nat
  column : Nat
  /-- How many characters are left. -/
  left : Nat
  /-- How many octets of UTF-8 there are before this place. -/
  offset : Nat

namespace Cursor

def ofText (cs : List Char) : Cursor := ⟨cs, 0, 0, cs.length, 0⟩

/-- The length of characters in octets of UTF-8. -/
def octetLength (cs : List Char) : Nat := cs.foldl (fun n c => n + c.utf8Size) 0

/-- The place `n` characters on, on the same line. -/
def skip (c : Cursor) (n : Nat) : Cursor :=
  ⟨c.rest.drop n, c.line, c.column + n, c.left - n, c.offset + octetLength (c.rest.take n)⟩

/-- The characters up to the first that fails a test, and the place of that one. -/
def takeWhile (p : Char → Bool) (c : Cursor) : List Char × Cursor :=
  let taken := c.rest.takeWhile p
  (taken, c.skip taken.length)

/-- The place of the first character that fails a test. -/
def dropWhile (p : Char → Bool) (c : Cursor) : Cursor := (c.takeWhile p).2

/-- The line end that stands here, as the character that it counts for, and the start of the next
line. A separator counts for itself, every other line end for a line feed. -/
def break? (c : Cursor) : Option (Char × Cursor) :=
  match c.rest with
  | '\r' :: '\n' :: rest => some ('\n', ⟨rest, c.line + 1, 0, c.left - 2, c.offset + 2⟩)
  | x :: rest =>
    if isBreak x then
      some (if x = lineSeparator ∨ x = paragraphSeparator then x else '\n',
        ⟨rest, c.line + 1, 0, c.left - 1, c.offset + x.utf8Size⟩)
    else none
  | [] => none

/-- The start of the next line, if a line end stands here. -/
def skipBreak (c : Cursor) : Cursor :=
  match c.break? with
  | some (_, next) => next
  | none => c

/-- The place after a byte order mark, if one starts this line. -/
def skipMark (c : Cursor) : Cursor :=
  if c.column = 0 ∧ c.rest.head? = some byteOrderMark then c.skip 1 else c

/-- The place after blanks and a comment, which reaches up to the end of its line. -/
def skipComment (c : Cursor) : Cursor :=
  let c := c.dropWhile isBlank
  match c.rest with
  | '#' :: _ => c.dropWhile fun x => !isBreak x
  | _ => c

/-- Whether three given characters start a line here and stand alone. -/
def marks (x : Char) (c : Cursor) : Bool :=
  c.column == 0 &&
    match c.rest with
    | a :: b :: d :: rest => a == x && b == x && d == x && endsWord rest
    | _ => false

/-- Whether a line with a mark between documents starts here. -/
def atDocumentMark (c : Cursor) : Bool := c.marks '-' || c.marks '.'

end Cursor

end HurlAssist.Yaml
