/-!
Text cut at the characters that separate its parts. There is one part more than there are separators,
and parts can be empty.
-/

namespace HurlAssist.Text

/-- Puts a character in front of the first part. -/
def extend (c : Char) : List (List Char) → List (List Char)
  | [] => [[c]]
  | p :: ps => (c :: p) :: ps

/-- The parts of a text between the characters that separate them. -/
def parts (separates : Char → Bool) (cs : List Char) : List (List Char) :=
  cs.foldr (fun c ps => if separates c then [] :: ps else extend c ps) [[]]

end HurlAssist.Text
