import HurlAssist.CommandLine
import HurlAssist.Proofs.Document.Captures
import HurlAssist.Proofs.Document.Contents
import HurlAssist.Proofs.Document.JoinedLines
import HurlAssist.Proofs.Document.LineForms

/-!
What can be read off the listing of captures. A name stands in front of the colon of a key/value line,
so it is one word, whatever its characters are. That there is no blank in it tells the names on a line
apart, and the lines as well, and so the listing is read back to the captures that it lists
(`CommandLine.captures_read_back`).
-/

namespace HurlAssist

open Text

/-- There are no blanks but spaces. -/
def Text.OnlySpaces (cs : List Char) : Prop := ∀ c ∈ cs, isBlank c = true → c = ' '

namespace Text

instance (cs : List Char) : Decidable (OnlySpaces cs) :=
  List.decidableBAll (fun c => isBlank c = true → c = ' ') cs

theorem onlySpaces_of_solid {cs : List Char} (h : cs ∈ Line.solid) : OnlySpaces cs := by
  intro c hc blank
  rw [h.2 c hc] at blank
  cases blank

theorem OnlySpaces.append {cs ds : List Char} (hc : OnlySpaces cs) (hd : OnlySpaces ds) :
    OnlySpaces (cs ++ ds) := by
  intro c h
  rcases List.mem_append.mp h with h | h
  · exact hc c h
  · exact hd c h

theorem OnlySpaces.intercalate {sep : List Char} {ws : List (List Char)} (between : OnlySpaces sep)
    (h : ∀ w ∈ ws, OnlySpaces w) : OnlySpaces (sep.intercalate ws) := by
  induction ws with
  | nil => exact fun c hc => absurd hc List.not_mem_nil
  | cons w ws ih =>
    have first := h w List.mem_cons_self
    cases ws with
    | nil => rwa [List.intercalate_singleton]
    | cons v ws =>
      rw [List.intercalate_cons_cons]
      exact (first.append between).append (ih fun u hu => h u (List.mem_cons_of_mem w hu))

theorem OnlySpaces.isLine {l : String} (h : OnlySpaces l.toList) : IsLine l := by
  constructor
  · intro feed
    exact absurd (h '\n' feed (by decide)) (by decide)
  · intro last
    exact absurd (h '\r' (List.mem_of_getLast? last) (by decide)) (by decide)

end Text

namespace Capture

/-- The names between separators, which are a comma and a space each. -/
def atCommas : List Char → List (List Char)
  | [] => [[]]
  | ',' :: ' ' :: cs => [] :: atCommas cs
  | c :: cs => (atCommas cs).modifyHead (c :: ·)

/-- The names that are listed. No text is no name. -/
def ofNames (cs : List Char) : List String :=
  if cs.isEmpty then [] else (atCommas cs).map String.ofList

/-- The capture that a line lists. -/
def ofListing? (line : String) : Option Capture :=
  (CommandLine.afterStart? "after line " line).bind fun rest =>
    match Line.cutAt ':' rest.toList with
    | (digits, some (' ' :: names)) =>
      if Line.isNumber digits then some ⟨Decimal.ofDigits digits, ofNames names⟩ else none
    | _ => none

theorem atCommas_cons {c : Char} {cs : List Char} (h : cs.head? ≠ some ' ') :
    atCommas (c :: cs) = (atCommas cs).modifyHead (c :: ·) := by
  cases cs with
  | nil => simp [atCommas]
  | cons d cs =>
    have other : d ≠ ' ' := by simpa using h
    rw [atCommas]
    rintro rest - ⟨rfl, -⟩
    exact other rfl

/-- A word up to a separator is the first name. -/
theorem atCommas_append {w : List Char} (whole : ∀ c ∈ w, isBlank c = false) (cs : List Char) :
    atCommas (w ++ ',' :: ' ' :: cs) = w :: atCommas cs := by
  induction w with
  | nil => rfl
  | cons c w ih =>
    -- No space follows a character of the word, so that a comma in it is no separator.
    have next : (w ++ ',' :: ' ' :: cs).head? ≠ some ' ' := by
      cases w with
      | nil => simp
      | cons d w =>
        have solid := whole d (by simp)
        rintro ⟨⟩
        cases solid
    rw [List.cons_append, atCommas_cons next, ih fun d hd => whole d (List.mem_cons_of_mem c hd)]
    rfl

theorem atCommas_word {w : List Char} (whole : ∀ c ∈ w, isBlank c = false) : atCommas w = [w] := by
  induction w with
  | nil => rfl
  | cons c w ih =>
    have next : w.head? ≠ some ' ' := by
      intro space
      have solid := whole ' ' (List.mem_cons_of_mem c (List.mem_of_head? space))
      cases solid
    rw [atCommas_cons next, ih fun d hd => whole d (List.mem_cons_of_mem c hd)]
    rfl

theorem atCommas_intercalate {ws : List (List Char)} (ne : ws ≠ [])
    (whole : ∀ w ∈ ws, ∀ c ∈ w, isBlank c = false) :
    atCommas ([',', ' '].intercalate ws) = ws := by
  induction ws with
  | nil => exact absurd rfl ne
  | cons w ws ih =>
    have first := whole w List.mem_cons_self
    cases ws with
    | nil => rw [List.intercalate_singleton, atCommas_word first]
    | cons v ws =>
      have rest := ih (List.cons_ne_nil v ws) fun u hu => whole u (List.mem_cons_of_mem w hu)
      rw [List.intercalate_cons_cons, List.append_assoc]
      exact (atCommas_append first _).trans (congrArg (w :: ·) rest)

/-- Words are read back from between separators. -/
theorem ofNames_intercalate {names : List String} (solid : ∀ name ∈ names, name.toList ∈ Line.solid) :
    ofNames ([',', ' '].intercalate (names.map String.toList)) = names := by
  cases names with
  | nil => rfl
  | cons name names =>
    have some : [',', ' '].intercalate ((name :: names).map String.toList) ≠ [] := by
      have first := (solid name List.mem_cons_self).1
      cases names with
      | nil => simpa using first
      | cons next names => simp
    have whole : ∀ w ∈ (name :: names).map String.toList, ∀ c ∈ w, isBlank c = false := by
      intro w hw
      obtain ⟨name, hn, rfl⟩ := List.mem_map.mp hw
      exact (solid name hn).2
    rw [ofNames, if_neg (by simpa using some), atCommas_intercalate (by simp) whole, List.map_map]
    simp [Function.comp_def]

end Capture

theorem CommandLine.afterStart?_append (start rest : String) :
    afterStart? start (start ++ rest) = some rest := by
  rw [afterStart?, String.toList_append, if_pos (by simp), ← String.length_toList, List.drop_left,
    String.ofList_toList]

theorem Decimal.ofDigits_toDigits (n : Nat) : ofDigits (Nat.toDigits 10 n) = n :=
  Nat.ofDigitChars_ten_toDigits

theorem Line.isNumber_toDigits (n : Nat) : isNumber (Nat.toDigits 10 n) = true := by
  apply isNumber_iff.mpr
  refine ⟨Nat.toDigits_ne_nil, fun c hc => ?_⟩
  exact Nat.isDigit_of_mem_toDigits (by decide) (by decide) hc

/-- All names that a capture brings are words. -/
def Capture.Solid (c : Capture) : Prop := ∀ name ∈ c.brings, name.toList ∈ Line.solid

namespace Capture

theorem listing_eq (c : Capture) : c.listing = "after line " ++
    String.ofList (Nat.toDigits 10 c.useAfter ++ ':' :: ' ' ::
      [',', ' '].intercalate (c.brings.map String.toList)) := by
  simp [listing, ← String.toList_inj]

variable {c : Capture} (solid : c.Solid)

include solid

theorem ofListing?_listing : ofListing? c.listing = some c := by
  have noColon : ':' ∉ Nat.toDigits 10 c.useAfter := by
    intro colon
    have digit := (Line.isNumber_iff.mp (Line.isNumber_toDigits c.useAfter)).2 ':' colon
    cases digit
  rw [ofListing?, listing_eq, CommandLine.afterStart?_append, Option.bind_some,
    String.toList_ofList, Line.cutAt_append noColon]
  simp only [Line.isNumber_toDigits, if_true, Decimal.ofDigits_toDigits, ofNames_intercalate solid]

theorem isLine_listing : IsLine c.listing := by
  have digits : OnlySpaces (Nat.toDigits 10 c.useAfter) :=
    onlySpaces_of_solid (Line.solid_of_isDigit (Line.isNumber_iff.mp (Line.isNumber_toDigits _)))
  have names : OnlySpaces ([',', ' '].intercalate (c.brings.map String.toList)) := by
    apply OnlySpaces.intercalate (by decide)
    intro w hw
    obtain ⟨name, hn, rfl⟩ := List.mem_map.mp hw
    exact onlySpaces_of_solid (solid name hn)
  have colon : OnlySpaces [':', ' '] := by decide
  apply OnlySpaces.isLine
  rw [listing_eq, String.toList_append]
  apply OnlySpaces.append (by decide)
  rw [String.toList_ofList]
  exact digits.append (colon.append names)

end Capture

namespace CommandLine

/-- The lines of what is printed, each of which has its end. -/
def printedLines (output : String) : List String := (lines output).dropLast

theorem printedLines_printed {ls : List String} (h : ∀ l ∈ ls, IsLine l) :
    printedLines (printed ls) = ls := by
  have whole : lines (printed ls) = ls ++ [""] := by
    induction ls with
    | nil => rfl
    | cons l ls ih =>
      have first : printed (l :: ls) = l ++ LineEnd.feed.text ++ printed ls := String.join_cons
      rw [first, lines_append (h l List.mem_cons_self),
        ih fun x hx => h x (List.mem_cons_of_mem l hx), List.cons_append]
  rw [printedLines, whole, List.dropLast_concat]

end CommandLine

namespace Document

variable {ls : List String} {d : Document} (h : ofLines ls = .ok d)

include h

/-- The keys of sections are words. -/
theorem solid_of_mem_keys {s : Section} (hs : s ∈ d.responseSections) {name : String}
    (hn : name ∈ s.keyValues.keys) : name.toList ∈ Line.solid := by
  obtain ⟨c, hc, hs⟩ := exists_content_of_mem_responseSections hs
  obtain ⟨b, rfl, -, -, -⟩ := exists_sectionBlock h hc hs
  obtain ⟨pair, hp, rfl⟩ := List.mem_map.mp (KeyValues.mem_keys_ofList.mp hn)
  obtain ⟨l, hl, rfl⟩ := List.mem_map.mp hp
  exact Line.solid_key (eq_of_beq (List.mem_filter.mp hl).2)

theorem solid_of_mem_captures {c : Capture} (hc : c ∈ d.captures) : c.Solid := by
  obtain ⟨s, hs, rfl⟩ := List.mem_map.mp hc
  exact fun name hn => solid_of_mem_keys h (List.mem_filter.mp hs).1 hn

theorem solid_of_mem_variablesAt {line : Nat} {name : String} (hn : name ∈ d.variablesAt line) :
    name.toList ∈ Line.solid := by
  obtain ⟨s, hs, -, -, hn⟩ := mem_variablesAt.mp hn
  exact solid_of_mem_keys h hs hn

end Document

namespace CommandLine

open Document

section

variable {ls : List String} {d : Document} (h : ofLines ls = .ok d)

include h

theorem captures_of_output :
    (printedLines (capturesOutput none d)).map Capture.ofListing? = d.captures.map some := by
  have solid (c : Capture) (hc : c ∈ d.captures) : c.Solid := solid_of_mem_captures h hc
  rw [capturesOutput, printedLines_printed, List.map_map]
  · exact List.map_congr_left fun c hc => Capture.ofListing?_listing (solid c hc)
  · intro l hl
    obtain ⟨c, hc, rfl⟩ := List.mem_map.mp hl
    exact Capture.isLine_listing (solid c hc)

theorem variablesAt_of_output (line : Nat) :
    printedLines (capturesOutput (some line) d) = d.variablesAt line := by
  rw [capturesOutput, printedLines_printed]
  exact fun name hn => (onlySpaces_of_solid (solid_of_mem_variablesAt h hn)).isLine

end

/-- What is printed about a file that is read says what was asked for. Each printed line of the listing
is read back to a capture, and these are all captures in their order; what is printed for a line of
the file are the variables known there. So other files that give the same output have the same
captures, or the same variables known on that line. -/
theorem captures_read_back {ls : List String} {d : Document} (h : ofLines ls = .ok d) :
    (printedLines (capturesOutput none d)).map Capture.ofListing? = d.captures.map some ∧
    (∀ line, printedLines (capturesOutput (some line) d) = d.variablesAt line) ∧
    ∀ ls' d', ofLines ls' = .ok d' →
      (capturesOutput none d = capturesOutput none d' → d.captures = d'.captures) ∧
      ∀ line, capturesOutput (some line) d = capturesOutput (some line) d' →
        d.variablesAt line = d'.variablesAt line := by
  refine ⟨captures_of_output h, variablesAt_of_output h, fun ls' d' h' => ⟨?_, ?_⟩⟩
  · intro same
    have listed := captures_of_output h
    rw [same, captures_of_output h'] at listed
    exact (List.map_inj_right fun _ _ => Option.some.inj).mp listed.symm
  · intro line same
    rw [← variablesAt_of_output h, same, variablesAt_of_output h']

/-- Names with commas, quotes and braces around them, a name that comes twice, and a section without
names. -/
theorem captures_read_back_commas : ∃ d,
    ofLines ["GET /a", "HTTP/1.1 200", "[Captures]", "a,: x", ",\x7bb\x7d\": y", "a,: z",
      "[Captures]", "# c: x"] = .ok d ∧
    capturesOutput none d = "after line 5: a,, ,\x7bb\x7d\"\nafter line 7: \n" ∧
    (printedLines "after line 5: a,, ,\x7bb\x7d\"\nafter line 7: \n").map Capture.ofListing? =
      d.captures.map some ∧
    printedLines "a,\n,\x7bb\x7d\"\n" = d.variablesAt 6 := by
  have read : (ofLines ["GET /a", "HTTP/1.1 200", "[Captures]", "a,: x", ",\x7bb\x7d\": y",
      "a,: z", "[Captures]", "# c: x"]).toOption.any (fun d =>
        capturesOutput none d == "after line 5: a,, ,\x7bb\x7d\"\nafter line 7: \n" &&
          capturesOutput (some 6) d == "a,\n,\x7bb\x7d\"\n") = true := by
    decide +kernel
  obtain ⟨d, h, output⟩ := exists_of_any read
  obtain ⟨all, here⟩ := Bool.and_eq_true_iff.mp output
  obtain ⟨listed, known, _⟩ := captures_read_back h
  rw [eq_of_beq all] at listed
  have known := known 6
  rw [eq_of_beq here] at known
  exact ⟨d, h, eq_of_beq all, listed, known⟩

end CommandLine

end HurlAssist
