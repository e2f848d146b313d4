import HurlAssist.Json.Token

/-!
JSON text as a tree of what is written. The tree is built word by word, with a stack of the arrays
and objects that are still open, so that text of any depth can be read.
-/

namespace HurlAssist.Json

/-- A value as it is written. -/
inductive Syntax where
  | null
  | bool (b : Bool)
  | number (n : Numeral)
  | string (s : List Element)
  | array (items : List Syntax)
  | object (members : List (List Element × Syntax))
  deriving Repr, Inhabited

namespace Syntax

/-- An array or object that is still open, its parts with the last one first. -/
inductive Frame where
  | items (done : List Syntax)
  | members (done : List (List Element × Syntax))
  | member (done : List (List Element × Syntax)) (key : List Element)

/-- What may come next. -/
inductive Expect where
  /-- A value. -/
  | value
  /-- A value or the end of the array. -/
  | valueOrEnd
  /-- A key. -/
  | key
  /-- A key or the end of the object. -/
  | keyOrEnd
  /-- The colon after a key. -/
  | colon
  /-- Whatever may follow this value. -/
  | after (v : Syntax)

/-- A word where a value has to stand. -/
def startValue (stack : List Frame) : Token → Option (Expect × List Frame)
  | .null => some (.after .null, stack)
  | .bool b => some (.after (.bool b), stack)
  | .number n => some (.after (.number n), stack)
  | .string s => some (.after (.string s), stack)
  | .openArray => some (.valueOrEnd, .items [] :: stack)
  | .openObject => some (.keyOrEnd, .members [] :: stack)
  | _ => none

/-- A word after a value, which belongs to the innermost open array or object. -/
def continueValue (v : Syntax) : List Frame → Token → Option (Expect × List Frame)
  | .items done :: stack, .comma => some (.value, .items (v :: done) :: stack)
  | .items done :: stack, .closeArray => some (.after (.array (v :: done).reverse), stack)
  | .member done key :: stack, .comma => some (.key, .members ((key, v) :: done) :: stack)
  | .member done key :: stack, .closeObject =>
    some (.after (.object ((key, v) :: done).reverse), stack)
  | _, _ => none

/-- The next word. -/
def step : Expect → List Frame → Token → Option (Expect × List Frame)
  | .value, stack, t => startValue stack t
  | .valueOrEnd, .items [] :: stack, .closeArray => some (.after (.array []), stack)
  | .valueOrEnd, stack, t => startValue stack t
  | .key, .members done :: stack, .string s => some (.colon, .member done s :: stack)
  | .keyOrEnd, .members done :: stack, .string s => some (.colon, .member done s :: stack)
  | .keyOrEnd, .members [] :: stack, .closeObject => some (.after (.object []), stack)
  | .colon, stack, .colon => some (.value, stack)
  | .after v, stack, t => continueValue v stack t
  | _, _, _ => none

def run : Expect → List Frame → List Token → Option Syntax
  | .after v, [], [] => some v
  | _, _, [] => none
  | e, stack, t :: ts =>
    match step e stack t with
    | none => none
    | some (e', stack') => run e' stack' ts

/-- The one value that the words write. -/
def ofTokens? (ts : List Token) : Option Syntax := run .value [] ts

/-- The one value that the text writes. -/
def ofText? (text : String) : Option Syntax := (lex text.toList).bind ofTokens?

end Syntax

end HurlAssist.Json
