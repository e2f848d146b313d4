import HurlAssist.Digits

/-!
JSON values and how they are written: in one line, or over several lines with an indentation of
two blanks.
-/

namespace HurlAssist

/-- A JSON value. A number is `mantissa` times ten to the power of `exponent`. Members of an object
stand in the order in which they were written. -/
inductive Json where
  | null
  | bool (b : Bool)
  | number (mantissa exponent : Int)
  | string (s : String)
  | array (items : List Json)
  | object (members : List (String × Json))
  deriving Repr, Inhabited

namespace Json

mutual

/-- Whether two values are the same, with all members in the same order. -/
def same : Json → Json → Bool
  | null, null => true
  | bool a, bool b => a == b
  | number m e, number n f => m == n && e == f
  | string s, string t => s == t
  | array items, array others => sameItems items others
  | object members, object others => sameMembers members others
  | _, _ => false

def sameItems : List Json → List Json → Bool
  | [], [] => true
  | j :: items, k :: others => same j k && sameItems items others
  | _, _ => false

def sameMembers : List (String × Json) → List (String × Json) → Bool
  | [], [] => true
  | (key, j) :: members, (other, k) :: others =>
    key == other && same j k && sameMembers members others
  | _, _ => false

end

mutual

theorem same_iff (j k : Json) : same j k = true ↔ j = k := by
  cases j with
  | array items =>
    cases k with
    | array others => rw [same, sameItems_iff items others, array.injEq]
    | _ => simp [same]
  | object members =>
    cases k with
    | object others => rw [same, sameMembers_iff members others, object.injEq]
    | _ => simp [same]
  | _ => cases k <;> simp [same]

theorem sameItems_iff (items others : List Json) : sameItems items others = true ↔ items = others := by
  cases items with
  | nil => cases others <;> simp [sameItems]
  | cons j items =>
    cases others with
    | nil => simp [sameItems]
    | cons k others =>
      rw [sameItems, Bool.and_eq_true, same_iff j k, sameItems_iff items others, List.cons.injEq]

theorem sameMembers_iff (members others : List (String × Json)) :
    sameMembers members others = true ↔ members = others := by
  cases members with
  | nil => cases others <;> simp [sameMembers]
  | cons member members =>
    cases others with
    | nil => simp [sameMembers]
    | cons next others =>
      obtain ⟨key, j⟩ := member
      obtain ⟨other, k⟩ := next
      rw [sameMembers, Bool.and_eq_true, Bool.and_eq_true, beq_iff_eq, same_iff j k,
        sameMembers_iff members others, List.cons.injEq, Prod.mk.injEq]

end

instance : DecidableEq Json := fun j k => decidable_of_iff _ (same_iff j k)

def ofNat (n : Nat) : Json := number n 0

def ofInt (n : Int) : Json := number n 0

/-- A character as it stands in a string: quote, backslash and control characters are escaped. -/
def escape (c : Char) : List Char :=
  if c = '"' then ['\\', '"']
  else if c = '\\' then ['\\', '\\']
  else if c.toNat = 8 then ['\\', 'b']
  else if c.toNat = 12 then ['\\', 'f']
  else if c = '\n' then ['\\', 'n']
  else if c = '\r' then ['\\', 'r']
  else if c = '\t' then ['\\', 't']
  else if c.toNat < 32 then
    ['\\', 'u', '0', '0', Digits.lower (c.toNat / 16), Digits.lower (c.toNat % 16)]
  else [c]

def quote (s : String) : String := "\"" ++ String.ofList (s.toList.flatMap escape) ++ "\""

def writeNumber (mantissa exponent : Int) : String :=
  if exponent = 0 then toString mantissa else toString mantissa ++ "e" ++ toString exponent

mutual

/-- The value in one line, without blanks. -/
def compact : Json → String
  | null => "null"
  | bool b => if b then "true" else "false"
  | number m e => writeNumber m e
  | string s => quote s
  | array items => "[" ++ ",".intercalate (compactItems items) ++ "]"
  | object members => "\x7b" ++ ",".intercalate (compactMembers members) ++ "\x7d"

def compactItems : List Json → List String
  | [] => []
  | j :: rest => compact j :: compactItems rest

def compactMembers : List (String × Json) → List String
  | [] => []
  | (key, j) :: rest => (quote key ++ ":" ++ compact j) :: compactMembers rest

end

/-- A line feed and the blanks of an indentation. -/
def newline (depth : Nat) : String := String.ofList ('\n' :: List.replicate (2 * depth) ' ')

/-- Parts between brackets, each on a line of its own; nothing between the brackets if there is no
part. -/
def spread (depth : Nat) (left right : String) (parts : List String) : String :=
  if parts.isEmpty then left ++ right
  else
    left ++ newline (depth + 1) ++ ("," ++ newline (depth + 1)).intercalate parts ++
      newline depth ++ right

mutual

/-- The value over several lines, written at an indentation of `depth`. -/
def pretty (depth : Nat) : Json → String
  | null => "null"
  | bool b => if b then "true" else "false"
  | number m e => writeNumber m e
  | string s => quote s
  | array items => spread depth "[" "]" (prettyItems (depth + 1) items)
  | object members => spread depth "\x7b" "\x7d" (prettyMembers (depth + 1) members)

def prettyItems (depth : Nat) : List Json → List String
  | [] => []
  | j :: rest => pretty depth j :: prettyItems depth rest

def prettyMembers (depth : Nat) : List (String × Json) → List String
  | [] => []
  | (key, j) :: rest => (quote key ++ ": " ++ pretty depth j) :: prettyMembers depth rest

end

end Json

end HurlAssist
