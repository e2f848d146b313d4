import HurlAssist.Text.Alphanumeric

/-!
Path templates such as `/pet/{petId}`. A placeholder is a pair of braces around letters, digits
and underscores, or around nothing; it stands for one or more ASCII letters, digits, underscores
and braces. All other text of a template stands for itself. A template matches a path if it fits
somewhere in it.

Main statement: one pass from the end of the path finds whatever can be found by trying all that the
placeholders could stand for (`templateMatches_eq`).
-/

namespace HurlAssist.Api

/-- A part of a template. -/
inductive Piece where
  | char (c : Char)
  | placeholder
  deriving DecidableEq, Repr

/-- A character of a placeholder's name. -/
def isNameChar (c : Char) : Bool := Text.isAlphanumeric c || c == '_'

/-- A character of what a placeholder stands for. -/
def isFillChar (c : Char) : Bool :=
  ('a' ≤ c && c ≤ 'z') || ('A' ≤ c && c ≤ 'Z') || ('0' ≤ c && c ≤ '9') ||
  c == '_' || c == '\x7b' || c == '\x7d'

/-- A stretch of a template: text that stands for itself, or a placeholder with its name. -/
inductive Stretch where
  | literal (text : List Char)
  | placeholder (name : List Char)
  deriving DecidableEq, Repr

def Stretch.pieces : Stretch → List Piece
  | literal text => text.map .char
  | placeholder _ => [.placeholder]

/-- One turn over a template. From the first opening brace on, a placeholder is taken if all that
stands before the next closing brace is a name, else the brace is taken as it is. Gives what is
taken, with the text in front of the brace, and what is left; nothing if there is no opening brace. -/
def turn (t : List Char) : Option (List Stretch × List Char) :=
  match t.dropWhile (· != '\x7b') with
  | [] => none
  | _ :: after =>
    let before := t.takeWhile (· != '\x7b')
    let name := after.takeWhile (· != '\x7d')
    match after.dropWhile (· != '\x7d') with
    | [] => some ([.literal (before ++ ['\x7b'])], after)
    | _ :: rest =>
      if name.all isNameChar then some ([.literal before, .placeholder name], rest)
      else some ([.literal (before ++ ['\x7b'])], after)

theorem turn_lt {t rest : List Char} {found : List Stretch} (h : turn t = some (found, rest)) :
    rest.length < t.length := by
  simp only [turn] at h
  split at h
  · cases h
  · rename_i after opened
    have left := (List.dropWhile_suffix (l := t) (· != '\x7b')).length_le
    rw [opened, List.length_cons] at left
    split at h
    · cases h
      exact left
    · rename_i closed
      have less := (List.dropWhile_suffix (l := after) (· != '\x7d')).length_le
      rw [closed, List.length_cons] at less
      split at h
      · cases h
        omega
      · cases h
        exact left

/-- The stretches of a template: what the turns take, and what is left after the last one. -/
def scan (t : List Char) : List Stretch :=
  match h : turn t with
  | none => [.literal t]
  | some (found, rest) =>
    have : rest.length < t.length := turn_lt h
    found ++ scan rest
termination_by t.length

/-- The parts of a template. -/
def pieces (t : List Char) : List Piece := (scan t).flatMap Stretch.pieces

/-- What can be left of a text when a placeholder has taken its part. -/
def afterFill : List Char → List (List Char)
  | [] => []
  | c :: cs => if isFillChar c then cs :: afterFill cs else []

/-- Whether the text starts with something that the parts stand for. -/
def fits : List Piece → List Char → Bool
  | [], _ => true
  | .char _ :: _, [] => false
  | .char p :: ps, c :: cs => p == c && fits ps cs
  | .placeholder :: ps, cs => (afterFill cs).any (fits ps)

/-- Whether the text has, from some place on, something that the parts stand for. -/
def fitsSomewhere (ps : List Piece) : List Char → Bool
  | [] => fits ps []
  | c :: cs => fits ps (c :: cs) || fitsSomewhere ps cs

/-- Whether the text starts with something that each tail of the parts stands for, the longest tail
first. -/
def fitsTails (cs : List Char) : List Piece → List Bool
  | [] => [fits [] cs]
  | p :: ps => fits (p :: ps) cs :: fitsTails cs ps

/-- What `fitsTails` says of a text that starts with `c`, from what it says of the text after it. -/
def fitsTailsCons (c : Char) : List Piece → List Bool → List Bool
  | .char p :: ps, _ :: after => (p == c && after.headD false) :: fitsTailsCons c ps after
  | .placeholder :: ps, same :: after =>
    (isFillChar c && (same || after.headD false)) :: fitsTailsCons c ps after
  | _, _ => [true]

theorem headD_fitsTails (ps : List Piece) (cs : List Char) :
    (fitsTails cs ps).headD false = fits ps cs := by
  cases ps <;> rfl

theorem fits_placeholder_cons (ps : List Piece) (c : Char) (cs : List Char) :
    fits (.placeholder :: ps) (c :: cs) =
      (isFillChar c && (fits (.placeholder :: ps) cs || fits ps cs)) := by
  cases h : isFillChar c <;> simp [fits, afterFill, h, Bool.or_comm]

theorem fitsTailsCons_fitsTails (c : Char) (cs : List Char) (ps : List Piece) :
    fitsTailsCons c ps (fitsTails cs ps) = fitsTails (c :: cs) ps := by
  induction ps with
  | nil => rfl
  | cons p ps ih =>
    cases p with
    | char p => simp only [fitsTails, fitsTailsCons, headD_fitsTails, ih, fits]
    | placeholder =>
      simp only [fitsTails, fitsTailsCons, headD_fitsTails, ih, fits_placeholder_cons]

/-- `fitsSomewhere` and `fitsTails` in one pass from the end of the text, with one step for each
character and part. -/
def search (ps : List Piece) (cs : List Char) : Bool × List Bool :=
  let start := ps.map (fun _ => false) ++ [true]
  cs.foldr (fun c (found, tails) =>
    let tails := fitsTailsCons c ps tails
    (found || tails.headD false, tails)) (start.headD false, start)

theorem fitsTails_nil (ps : List Piece) : fitsTails [] ps = ps.map (fun _ => false) ++ [true] := by
  induction ps with
  | nil => rfl
  | cons p ps ih => cases p <;> simp [fitsTails, fits, afterFill, ih]

theorem search_eq (ps : List Piece) (cs : List Char) :
    search ps cs = (fitsSomewhere ps cs, fitsTails cs ps) := by
  induction cs with
  | nil => simp only [search, List.foldr_nil, ← fitsTails_nil, headD_fitsTails, fitsSomewhere]
  | cons c cs ih =>
    simp only [search, List.foldr_cons] at ih ⊢
    rw [ih]
    simp only [fitsTailsCons_fitsTails, headD_fitsTails, fitsSomewhere, Bool.or_comm]

/-- Whether the template matches the path. -/
def templateMatches (template path : String) : Bool :=
  (search (pieces template.toList) path.toList).1

theorem templateMatches_eq (template path : String) :
    templateMatches template path = fitsSomewhere (pieces template.toList) path.toList := by
  simp [templateMatches, search_eq]

end HurlAssist.Api
