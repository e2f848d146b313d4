import HurlAssist.Decimal
import HurlAssist.Digits
import HurlAssist.Json.Basic

/-!
The value of a scalar without quotes: nothing, a truth value, a whole number, a decimal fraction,
or else text. A number with a needless zero in front is text. What is no finite double has the value
that JSON has for it, nothing.
-/

namespace HurlAssist.Yaml

def nullWord (s : String) : Bool := s == "null" || s == "Null" || s == "NULL" || s == "~"

def boolWord? (s : String) : Option Bool :=
  if s == "true" || s == "True" || s == "TRUE" then some true
  else if s == "false" || s == "False" || s == "FALSE" then some false
  else none

/-- The text without a sign in front. -/
def dropSign : List Char → List Char
  | '+' :: cs => cs
  | '-' :: cs => cs
  | cs => cs

/-- The text without a plus in front. -/
def dropPlus : List Char → List Char
  | '+' :: cs => cs
  | cs => cs

/-- Whether the text is a run of digits that starts with a needless zero. -/
def hasLeadingZero (cs : List Char) : Bool :=
  match dropSign cs with
  | '0' :: d :: ds => (d :: ds).all Char.isDigit
  | _ => false

/-- The number of a text without sign, in base ten or in the base that its mark names. -/
def natural? (cs : List Char) : Option Nat :=
  match cs with
  | '0' :: 'x' :: rest => Digits.number? 16 rest
  | '0' :: 'o' :: rest => Digits.number? 8 rest
  | '0' :: 'b' :: rest => Digits.number? 2 rest
  | _ => Digits.number? 10 cs

/-- The whole number that a text writes. -/
def integer? (cs : List Char) : Option Int :=
  if hasLeadingZero cs then none
  else
    match cs with
    | '-' :: rest => (natural? rest).map fun n => -(n : Int)
    | _ => (natural? (dropPlus cs)).map Int.ofNat

/-- The value of a whole number: it has to fit 64 bits. -/
def wholeNumber? (i : Int) : Option Json :=
  if -0x8000000000000000 ≤ i ∧ i < 0x10000000000000000 then some (.ofInt i) else none

/-- Whether a whole number is read as one: it has to fit 128 bits. -/
def isWholeNumber (i : Int) : Bool :=
  -0x80000000000000000000000000000000 ≤ i && i < 0x100000000000000000000000000000000

/-- The digits before and after the point of a decimal fraction, and what follows them. -/
def decimalParts? (cs : List Char) : Option (List Char × List Char × List Char) :=
  let whole := cs.takeWhile Char.isDigit
  let rest := cs.drop whole.length
  let (fraction, rest) := match rest with
    | '.' :: rest => (rest.takeWhile Char.isDigit, rest.dropWhile Char.isDigit)
    | _ => ([], rest)
  if whole.isEmpty ∧ fraction.isEmpty then none else some (whole, fraction, rest)

/-- The exponent that ends a decimal fraction. -/
def exponent? (cs : List Char) : Option Int :=
  match cs with
  | [] => some 0
  | e :: rest =>
    if e = 'e' ∨ e = 'E' then
      let digits := dropSign rest
      (Digits.number? 10 digits).map fun n => if rest.head? = some '-' then -(n : Int) else n
    else none

/-- The value of a decimal fraction that rounds to a finite double. -/
def decimal? (cs : List Char) : Option Json :=
  match decimalParts? (dropSign cs) with
  | none => none
  | some (whole, fraction, rest) =>
    match exponent? rest with
    | none => none
    | some written =>
      let mantissa := Decimal.ofDigits (whole ++ fraction)
      let exponent := written - fraction.length
      if Decimal.fitsDouble mantissa exponent then
        some (.number (if cs.head? = some '-' then -(mantissa : Int) else mantissa) exponent)
      else none

/-- The value of a number that need not be whole. Two signs make no number. -/
def floating? (cs : List Char) : Option Json :=
  let unsigned := String.ofList (dropSign cs)
  if unsigned == ".inf" || unsigned == ".Inf" || unsigned == ".INF" then some .null
  else if [".nan", ".NaN", ".NAN"].contains (String.ofList cs) then some .null
  else decimal? cs

/-- The value of a scalar without quotes and without a tag. A whole number beyond 64 bits has
none. -/
def plainValue? (cs : List Char) : Option Json :=
  let s := String.ofList cs
  if s.isEmpty || nullWord s then some .null
  else
    match boolWord? s, integer? cs with
    | some b, _ => some (.bool b)
    | none, some i =>
      if isWholeNumber i then wholeNumber? i
      else some ((floating? cs).getD (.string s))
    | none, none =>
      if hasLeadingZero cs then some (.string s) else some ((floating? cs).getD (.string s))

end HurlAssist.Yaml
