import HurlAssist.Digits

/-!
The words of JSON text. A string may name a surrogate on its own and a number may have any size:
the grammar allows both, and whether a value can be made of them is asked later.

Main statement: `lex` goes on until the text ends, since what follows a word is shorter than the
text before it (`stringBody_lt`, `numeral_lt`).
-/

namespace HurlAssist.Json

/-- A number as it is written. -/
structure Numeral where
  negative : Bool
  whole : List Char
  fraction : List Char
  exponentNegative : Bool
  exponent : List Char
  deriving Repr, BEq, Inhabited

/-- One element of a string: a character as it stands, or a UTF-16 unit written as `\uXXXX`. -/
inductive Element where
  | char (c : Char)
  | unit (n : Nat)
  deriving Repr, BEq

inductive Token where
  | openArray | closeArray | openObject | closeObject | comma | colon
  | null
  | bool (b : Bool)
  | number (n : Numeral)
  | string (s : List Element)
  deriving Repr, BEq

def isDigit (c : Char) : Bool := '0' ≤ c && c ≤ '9'

/-- What a backslash and one more character stand for. -/
def simpleEscape? : Char → Option Char
  | '"' => some '"'
  | '\\' => some '\\'
  | '/' => some '/'
  | 'b' => some '\x08'
  | 'f' => some '\x0c'
  | 'n' => some '\n'
  | 'r' => some '\r'
  | 't' => some '\t'
  | _ => none

/-- The elements of a string up to its closing quote, and what follows the quote. -/
def stringBody : List Char → Option (List Element × List Char)
  | [] => none
  | '"' :: rest => some ([], rest)
  | '\\' :: 'u' :: a :: b :: c :: d :: rest =>
    match Digits.number? 16 [a, b, c, d], stringBody rest with
    | some n, some (es, after) => some (.unit n :: es, after)
    | _, _ => none
  | '\\' :: e :: rest =>
    match simpleEscape? e, stringBody rest with
    | some c, some (es, after) => some (.char c :: es, after)
    | _, _ => none
  | c :: rest =>
    if c.toNat < 32 then none
    else
      match stringBody rest with
      | some (es, after) => some (.char c :: es, after)
      | none => none

theorem stringBody_lt {cs after : List Char} {es : List Element}
    (h : stringBody cs = some (es, after)) : after.length < cs.length := by
  fun_induction stringBody cs generalizing es after with
  | case1 => simp at h
  | case2 rest =>
    simp only [Option.some.injEq, Prod.mk.injEq] at h
    obtain ⟨-, rfl⟩ := h
    simp
  | case3 a b c d rest n es' after' hs _ ih =>
    simp only [Option.some.injEq, Prod.mk.injEq] at h
    obtain ⟨-, rfl⟩ := h
    have := ih hs
    simp only [List.length_cons]
    omega
  | case4 => simp at h
  | case5 e rest _ c es' after' hs _ ih =>
    simp only [Option.some.injEq, Prod.mk.injEq] at h
    obtain ⟨-, rfl⟩ := h
    have := ih hs
    simp only [List.length_cons]
    omega
  | case6 => simp at h
  | case7 => simp at h
  | case8 c rest _ _ _ _ es' after' hs ih =>
    simp only [Option.some.injEq, Prod.mk.injEq] at h
    obtain ⟨-, rfl⟩ := h
    have := ih hs
    simp only [List.length_cons]
    omega
  | case9 => simp at h

/-- Digits without a leading zero, and what follows them. -/
def wholeDigits : List Char → Option (List Char × List Char)
  | '0' :: rest =>
    match rest with
    | [] => some (['0'], [])
    | c :: _ => if isDigit c then none else some (['0'], rest)
  | cs =>
    let digits := cs.takeWhile isDigit
    if digits.isEmpty then none else some (digits, cs.dropWhile isDigit)

/-- The digits after a point, none if there is no point. -/
def fractionDigits : List Char → Option (List Char × List Char)
  | '.' :: rest =>
    let digits := rest.takeWhile isDigit
    if digits.isEmpty then none else some (digits, rest.dropWhile isDigit)
  | cs => some ([], cs)

/-- The sign and the digits of an exponent, none if there is no exponent. -/
def exponentDigits (cs : List Char) : Option (Bool × List Char × List Char) :=
  match cs with
  | [] => some (false, [], [])
  | c :: rest =>
    if c = 'e' ∨ c = 'E' then
      let (negative, rest) :=
        match rest with
        | '-' :: rest => (true, rest)
        | '+' :: rest => (false, rest)
        | _ => (false, rest)
      let digits := rest.takeWhile isDigit
      if digits.isEmpty then none else some (negative, digits, rest.dropWhile isDigit)
    else some (false, [], cs)

/-- The number that the text starts with, and what follows it. -/
def numeral (cs : List Char) : Option (Numeral × List Char) :=
  let (negative, cs) :=
    match cs with
    | '-' :: rest => (true, rest)
    | _ => (false, cs)
  match wholeDigits cs with
  | none => none
  | some (whole, cs) =>
    match fractionDigits cs with
    | none => none
    | some (fraction, cs) =>
      match exponentDigits cs with
      | none => none
      | some (exponentNegative, exponent, cs) =>
        some (⟨negative, whole, fraction, exponentNegative, exponent⟩, cs)

theorem length_dropWhile_le (p : Char → Bool) (cs : List Char) :
    (cs.dropWhile p).length ≤ cs.length :=
  (List.dropWhile_sublist p).length_le

theorem wholeDigits_lt {cs digits after : List Char} (h : wholeDigits cs = some (digits, after)) :
    after.length < cs.length := by
  unfold wholeDigits at h
  split at h
  · split at h
    · simp only [Option.some.injEq, Prod.mk.injEq] at h
      obtain ⟨-, rfl⟩ := h
      simp
    · split at h
      · simp at h
      · simp only [Option.some.injEq, Prod.mk.injEq] at h
        obtain ⟨-, rfl⟩ := h
        simp
  · dsimp only at h
    split at h
    · simp at h
    · rename_i hne
      simp only [Option.some.injEq, Prod.mk.injEq] at h
      obtain ⟨-, rfl⟩ := h
      cases cs with
      | nil => simp at hne
      | cons c cs =>
        by_cases hc : isDigit c = true
        · have := length_dropWhile_le isDigit cs
          simp only [List.dropWhile_cons, hc, if_true, List.length_cons]
          omega
        · simp [hc] at hne

theorem fractionDigits_le {cs digits after : List Char}
    (h : fractionDigits cs = some (digits, after)) : after.length ≤ cs.length := by
  unfold fractionDigits at h
  split at h
  · rename_i rest
    dsimp only at h
    split at h
    · simp at h
    · simp only [Option.some.injEq, Prod.mk.injEq] at h
      obtain ⟨-, rfl⟩ := h
      have := length_dropWhile_le isDigit rest
      simp only [List.length_cons]
      omega
  · simp only [Option.some.injEq, Prod.mk.injEq] at h
    obtain ⟨-, rfl⟩ := h
    exact Nat.le_refl _

theorem exponentDigits_le {cs digits after : List Char} {negative : Bool}
    (h : exponentDigits cs = some (negative, digits, after)) : after.length ≤ cs.length := by
  unfold exponentDigits at h
  split at h
  · simp only [Option.some.injEq, Prod.mk.injEq] at h
    obtain ⟨-, -, rfl⟩ := h
    exact Nat.le_refl _
  · rename_i c rest
    split at h
    · split at h
      rename_i _ rest' hm
      have hr : rest'.length ≤ rest.length := by
        split at hm <;> simp only [Prod.mk.injEq] at hm <;> obtain ⟨-, rfl⟩ := hm <;> simp
      dsimp only at h
      split at h
      · simp at h
      · simp only [Option.some.injEq, Prod.mk.injEq] at h
        obtain ⟨-, -, rfl⟩ := h
        have := length_dropWhile_le isDigit rest'
        simp only [List.length_cons]
        omega
    · simp only [Option.some.injEq, Prod.mk.injEq] at h
      obtain ⟨-, -, rfl⟩ := h
      exact Nat.le_refl _

theorem numeral_lt {cs after : List Char} {n : Numeral} (h : numeral cs = some (n, after)) :
    after.length < cs.length := by
  unfold numeral at h
  split at h
  rename_i _ rest hm
  have hr : rest.length ≤ cs.length := by
    split at hm <;> simp only [Prod.mk.injEq] at hm <;> obtain ⟨-, rfl⟩ := hm <;> simp
  split at h
  · simp at h
  · rename_i hw
    have := wholeDigits_lt hw
    split at h
    · simp at h
    · rename_i hf
      have := fractionDigits_le hf
      split at h
      · simp at h
      · rename_i he
        have := exponentDigits_le he
        simp only [Option.some.injEq, Prod.mk.injEq] at h
        obtain ⟨-, rfl⟩ := h
        omega

/-- The words of a text; none if the text is not made of words and white space. -/
def lex : List Char → Option (List Token)
  | [] => some []
  | '[' :: cs => (lex cs).map (.openArray :: ·)
  | ']' :: cs => (lex cs).map (.closeArray :: ·)
  | '\x7b' :: cs => (lex cs).map (.openObject :: ·)
  | '\x7d' :: cs => (lex cs).map (.closeObject :: ·)
  | ',' :: cs => (lex cs).map (.comma :: ·)
  | ':' :: cs => (lex cs).map (.colon :: ·)
  | 'n' :: 'u' :: 'l' :: 'l' :: cs => (lex cs).map (.null :: ·)
  | 't' :: 'r' :: 'u' :: 'e' :: cs => (lex cs).map (.bool true :: ·)
  | 'f' :: 'a' :: 'l' :: 's' :: 'e' :: cs => (lex cs).map (.bool false :: ·)
  | '"' :: cs =>
    match h : stringBody cs with
    | none => none
    | some (es, after) =>
      have : after.length < cs.length + 1 := Nat.lt_succ_of_lt (stringBody_lt h)
      (lex after).map (.string es :: ·)
  | c :: cs =>
    if c = ' ' ∨ c = '\t' ∨ c = '\n' ∨ c = '\r' then lex cs
    else
      match h : numeral (c :: cs) with
      | none => none
      | some (n, after) =>
        have : after.length < cs.length + 1 := numeral_lt h
        (lex after).map (.number n :: ·)
termination_by cs => cs.length

end HurlAssist.Json
