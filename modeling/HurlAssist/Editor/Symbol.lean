import HurlAssist.Span
import HurlAssist.Text.Blank

/-!
The word that a cursor stands at the start of, in, or at the end of.
-/

namespace HurlAssist.Editor

open Text

/-- The pieces of a text between its blanks, each with the column it starts in. Two blanks in a row
have an empty piece between them. -/
def piecesBetweenBlanks (col : Nat) : List Char → List (Nat × List Char)
  | [] => [(col, [])]
  | c :: cs =>
    if isBlank c then (col, []) :: piecesBetweenBlanks (col + 1) cs
    else
      match piecesBetweenBlanks (col + 1) cs with
      | [] => [(col, [c])]
      | (_, p) :: ps => (col, c :: p) :: ps

/-- Whether the column is one of the piece's columns. -/
def covers (col : Nat) (piece : Nat × List Char) : Bool :=
  piece.1 ≤ col && col < piece.1 + piece.2.length

/-- The word that has the column right of the point; empty if no word has it. -/
def symbolAt (lines : List String) (p : Point) : String :=
  match lines[p.line]? with
  | none => ""
  | some text =>
    match (piecesBetweenBlanks 0 text.toList).find? (covers (p.col + 1)) with
    | none => ""
    | some piece => String.ofList piece.2

end HurlAssist.Editor
