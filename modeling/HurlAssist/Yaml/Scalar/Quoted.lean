import HurlAssist.Digits
import HurlAssist.Yaml.Scalar.Fold

/-!
Scalars between quotes. Between single quotes only the quote itself is special, written twice.
Between double quotes a backslash starts an escape, and may also stand before a line end, which
then does not count.
-/

namespace HurlAssist.Yaml

/-- The number that the first `n` characters write with hexadecimal digits. -/
def hexNumber? (n : Nat) (cs : List Char) : Option Nat :=
  let digits := cs.take n
  if digits.length < n then none else Digits.number? 16 digits

/-- What a backslash and one more character stand for. -/
def simpleEscape? : Char → Option Char
  | '0' => some (Char.ofNat 0)
  | 'a' => some '\x07'
  | 'b' => some '\x08'
  | 't' => some '\t'
  | '\t' => some '\t'
  | 'n' => some '\n'
  | 'v' => some '\x0b'
  | 'f' => some '\x0c'
  | 'r' => some '\r'
  | 'e' => some '\x1b'
  | ' ' => some ' '
  | '"' => some '"'
  | '/' => some '/'
  | '\\' => some '\\'
  | 'N' => some nextLine
  | '_' => some (Char.ofNat 0xA0)
  | 'L' => some lineSeparator
  | 'P' => some paragraphSeparator
  | _ => none

/-- How many digits follow a backslash and one more character that give a code point. -/
def escapeDigits? : Char → Option Nat
  | 'x' => some 2
  | 'u' => some 4
  | 'U' => some 8
  | _ => none

/-- The character that an escape stands for, and the length of what follows the backslash. -/
def escape? : List Char → Option (Char × Nat)
  | [] => none
  | e :: rest =>
    match escapeDigits? e with
    | some n =>
      match hexNumber? n rest with
      | some value => if value.isValidChar then some (Char.ofNat value, n + 1) else none
      | none => none
    | none => (simpleEscape? e).map fun c => (c, 1)

/-- What the reading of a word between quotes comes to. -/
inductive WordEnd where
  /-- The closing quote. -/
  | quote
  /-- A blank or a line end. -/
  | space
  /-- A backslash before a line end. -/
  | escapedBreak

/-- The characters up to a blank, a line end or the closing quote, what comes there, and its
place. -/
def quotedWord? (single : Bool) : Nat → Cursor → Option (List Char × WordEnd × Cursor)
  | 0, _ => none
  | fuel + 1, c =>
    let quote := if single then '\'' else '"'
    let on (x : Char) (length : Nat) :=
      (quotedWord? single fuel (c.skip length)).map fun r => (x :: r.1, r.2)
    match c.rest with
    | [] => none
    | x :: rest =>
      if isSpace x then some ([], .space, c)
      else if x = quote then
        if single ∧ rest.head? = some quote then on quote 2 else some ([], .quote, c)
      else if x = '\\' ∧ !single then
        if (rest.head?.map isBreak).getD false then some ([], .escapedBreak, (c.skip 1).skipBreak)
        else
          match escape? rest with
          | some (y, length) => on y (length + 1)
          | none => none
      else on x 1

/-- Reads on after the pieces that have been read so far, of which the last stands first, up to the
closing quote. -/
def quotedFrom? (single : Bool) : Nat → List (List Char) → Cursor → Option (List Char × Cursor)
  | 0, _, _ => none
  | fuel + 1, done, c =>
    if c.atDocumentMark then none
    else
      match quotedWord? single (c.left + 1) c with
      | none => none
      | some (word, .quote, c) => some ((word :: done).reverse.flatten, c.skip 1)
      | some (word, stop, c) =>
        let gap := match stop with
          | .escapedBreak => Gap.escaped
          | _ => Gap.empty
        match gap.read 0 c with
        | none => none
        | some (gap, c) => quotedFrom? single fuel (gap.text :: word :: done) c

/-- Reads the scalar that starts with the quote here. -/
def quoted? (single : Bool) (c : Cursor) : Option (List Char × Cursor) :=
  quotedFrom? single (c.left + 1) [] (c.skip 1)

end HurlAssist.Yaml
