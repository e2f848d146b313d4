import HurlAssist.Document.LineKind
import HurlAssist.Proofs.Text.Cuts
import HurlAssist.Proofs.Text.Languages
import HurlAssist.Proofs.Text.Words

/-!
The forms of lines as languages. Each kind of line has a form, said without reading the line word by
word, and the test for a kind accepts the lines of its form. The kind of a line is the first kind
whose form the line has (`kind_first_form`).
-/

namespace HurlAssist

open Text

/-- The kinds that are tried before this one. -/
def LineKind.before : LineKind → List LineKind
  | status => []
  | method => [status]
  | sectionHeader => [status, method]
  | keyValue => [status, method, sectionHeader]
  | blank => [status, method, sectionHeader, keyValue]
  | body => [status, method, sectionHeader, keyValue, blank]

theorem LineKind.trichotomy (k k' : LineKind) : k = k' ∨ k ∈ k'.before ∨ k' ∈ k.before := by
  cases k <;> cases k' <;> decide

namespace Line

/-- The words: no text without characters, and none with blanks. -/
def solid : Language Char := {w : List Char | w ≠ [] ∧ ∀ c ∈ w, isBlank c = false}

/-- What stands behind a word: nothing, or a blank and then anything. -/
def wordEnd : Language Char := 1 + oneOrMore isBlank * ⊤

/-- The word that starts a status line. -/
def version : Language Char :=
  just "HTTP/" * oneOrMore isDigit * (1 + just "." * oneOrMore isDigit)

/-- A name between brackets. -/
def bracketed : Language Char := just "[" * oneOrMore isNameChar * just "]"

/-- A line whose first character that is not blank is `#`. -/
def comment : Language Char := many isBlank * just "#" * ⊤

/-- A character of the key of a key/value line. -/
def isKeyChar (c : Char) : Bool := !isBlank c && c != ':'

/-- The lines that have the form of a kind. -/
def form : LineKind → Language Char
  | .status => many isBlank * version * wordEnd
  | .method => many isBlank * oneOrMore isUpper * wordEnd
  | .sectionHeader => many isBlank * bracketed * many isBlank
  | .keyValue => oneOrMore isKeyChar * many isBlank * just ":" * ⊤
  | .blank => many isBlank + comment
  | .body => ⊤

variable {w cs : List Char}

theorem mem_solid : w ∈ solid ↔ (!w.isEmpty && w.all (!isBlank ·)) = true := by
  change (w ≠ [] ∧ ∀ c ∈ w, isBlank c = false) ↔ _
  simp

theorem mem_body : w ∈ form .body := mem_top

theorem mem_wordEnd : w ∈ wordEnd ↔ ∀ c, w.head? = some c → isBlank c = true := by
  rw [wordEnd, Language.mem_add, Language.mem_one, Language.mem_mul]
  constructor
  · rintro (rfl | ⟨ws, ⟨ne, blank⟩, rest, -, rfl⟩) c hc
    · cases hc
    · cases ws with
      | nil => exact absurd rfl ne
      | cons b ws =>
        cases hc
        exact blank _ List.mem_cons_self
  · intro ended
    cases w with
    | nil => exact .inl rfl
    | cons c rest =>
      right
      refine ⟨[c], ⟨List.cons_ne_nil c [], ?_⟩, rest, mem_top, rfl⟩
      intro d hd
      rw [List.mem_singleton.mp hd]
      exact ended c rfl

/-- Where blanks, a word of `words` and the end of a word follow each other, the first word is the
word of `words`. -/
theorem mem_word_form {words : Language Char} (whole : ∀ w ∈ words, w ∈ solid) :
    cs ∈ many isBlank * words * wordEnd ↔ firstWord cs ∈ words := by
  constructor
  · rintro ⟨_, ⟨ws, blank, w, hw, rfl⟩, rest, ended, rfl⟩
    obtain ⟨ne, solid⟩ := whole w hw
    simp only [firstWord_append blank ne solid (mem_wordEnd.mp ended)]
    exact hw
  · intro first
    refine ⟨_, ⟨cs.takeWhile isBlank, ?_, _, first, rfl⟩, afterFirstWord cs, ?_, ?_⟩
    · exact fun c hc => List.mem_takeWhile_imp hc
    · exact mem_wordEnd.mpr fun c hc => head?_afterFirstWord hc
    · exact (eq_blanks_append_words cs).symm

/-- Where a word of `words` stands between blanks, it is what is left without them. -/
theorem mem_trim_form {words : Language Char} (whole : ∀ w ∈ words, w ∈ solid) :
    cs ∈ many isBlank * words * many isBlank ↔ trim cs ∈ words := by
  constructor
  · rintro ⟨_, ⟨ws, blank, w, hw, rfl⟩, ws', blank', rfl⟩
    obtain ⟨ne, solid⟩ := whole w hw
    simp only [trim_append blank ne solid blank']
    exact hw
  · intro left
    obtain ⟨ws, blank, split⟩ := exists_blanks_around_trim cs
    refine ⟨_, ⟨cs.takeWhile isBlank, ?_, _, left, rfl⟩, ws, blank, split.symm⟩
    exact fun c hc => List.mem_takeWhile_imp hc

/-! Cuts at a mark. -/

theorem cutAt_append {sep : Char} {before : List Char} (free : sep ∉ before) (after : List Char) :
    cutAt sep (before ++ sep :: after) = (before, some after) := by
  rw [cutAt, takeWhile_append_mark free, dropWhile_append_mark free]

theorem cutAt_of_not_mem {sep : Char} (free : sep ∉ cs) : cutAt sep cs = (cs, none) := by
  rw [cutAt, List.takeWhile_eq_self_iff.mpr (bne_of_not_mem free), dropWhile_of_no_mark free]

/-- A cut at a mark finds the first one, if there is one. -/
theorem cutAt_spec (sep : Char) (cs : List Char) :
    cutAt sep cs = (cs, none) ∨
      ∃ before after, sep ∉ before ∧ cs = before ++ sep :: after ∧
        cutAt sep cs = (before, some after) := by
  by_cases h : sep ∈ cs
  · obtain ⟨before, after, rfl, free⟩ := List.eq_append_cons_of_mem h
    exact .inr ⟨before, after, free, rfl, cutAt_append free after⟩
  · exact .inl (cutAt_of_not_mem h)

/-! The tests for the kinds. -/

theorem isBlank_of_isNameChar {c : Char} (h : isNameChar c = true) : isBlank c = false := by
  have ends : '0'.toNat = 48 ∧ '9'.toNat = 57 ∧ 'A'.toNat = 65 ∧ 'Z'.toNat = 90 ∧
      'a'.toNat = 97 ∧ 'z'.toNat = 122 := by decide
  simp only [isNameChar, isUpper, isDigit, Bool.or_eq_true, Bool.and_eq_true, decide_eq_true_eq,
    Char.le_def, UInt32.le_iff_toNat_le, Char.toNat_val, beq_iff_eq] at h
  rcases h with (h | rfl) | rfl
  · simp only [isBlank, Bool.or_eq_false_iff, Bool.and_eq_false_iff, decide_eq_false_iff_not,
      beq_eq_false_iff_ne]
    omega
  · decide
  · decide

theorem isNameChar_of_isDigit {c : Char} (h : isDigit c = true) : isNameChar c = true := by
  simp [isNameChar, h]

theorem isNameChar_of_isUpper {c : Char} (h : isUpper c = true) : isNameChar c = true := by
  simp [isNameChar, h]

theorem solid_of_isNameChar (ne : w ≠ []) (named : ∀ c ∈ w, isNameChar c = true) : w ∈ solid :=
  ⟨ne, fun c hc => isBlank_of_isNameChar (named c hc)⟩

theorem solid_append {v : List Char} (hv : v ∈ solid) (hw : w ∈ solid) : v ++ w ∈ solid := by
  refine ⟨List.append_ne_nil_of_left_ne_nil hv.1 w, fun c hc => ?_⟩
  rcases List.mem_append.mp hc with hc | hc
  · exact hv.2 c hc
  · exact hw.2 c hc

theorem solid_of_isDigit (h : w ∈ oneOrMore isDigit) : w ∈ solid :=
  solid_of_isNameChar h.1 fun c hc => isNameChar_of_isDigit (h.2 c hc)

theorem solid_of_isUpper (h : w ∈ oneOrMore isUpper) : w ∈ solid :=
  solid_of_isNameChar h.1 fun c hc => isNameChar_of_isUpper (h.2 c hc)

theorem solid_of_version (h : w ∈ version) : w ∈ solid := by
  obtain ⟨_, ⟨_, rfl, major, hmajor, rfl⟩, behind, hbehind, rfl⟩ := h
  have front : "HTTP/".toList ++ major ∈ solid :=
    solid_append (mem_solid.mpr (by decide)) (solid_of_isDigit hmajor)
  rcases hbehind with rfl | ⟨_, rfl, minor, hminor, rfl⟩
  · simpa only [List.append_nil] using front
  · have point : ".".toList ∈ solid := mem_solid.mpr (by decide)
    exact solid_append front (solid_append point (solid_of_isDigit hminor))

theorem solid_of_bracketed (h : w ∈ bracketed) : w ∈ solid := by
  obtain ⟨_, ⟨_, rfl, name, ⟨ne, named⟩, rfl⟩, _, rfl, rfl⟩ := h
  have opens : "[".toList ∈ solid := mem_solid.mpr (by decide)
  have closes : "]".toList ∈ solid := mem_solid.mpr (by decide)
  exact solid_append (solid_append opens (solid_of_isNameChar ne named)) closes

theorem isNumber_iff : isNumber cs = true ↔ cs ∈ oneOrMore isDigit := by
  simp [isNumber, mem_oneOrMore]

theorem afterHttp_eq_some {version : List Char} :
    afterHttp w = some version ↔ w = "HTTP/".toList ++ version := by
  constructor
  · intro h
    unfold afterHttp at h
    split at h
    · cases h
      rfl
    · cases h
  · rintro rfl
    rfl

theorem isStatus_iff (line : String) : isStatus line = true ↔ line.toList ∈ form .status := by
  rw [form, mem_word_form @solid_of_version, isStatus]
  constructor
  · intro h
    split at h
    · cases h
    · rename_i rest http
      rw [afterHttp_eq_some.mp http]
      rcases cutAt_spec '.' rest with cut | ⟨major, minor, _, split, cut⟩
      · rw [cut] at h
        exact ⟨_, ⟨_, rfl, rest, isNumber_iff.mp h, rfl⟩, [], .inl rfl, List.append_nil _⟩
      · rw [cut, Bool.and_eq_true, isNumber_iff, isNumber_iff] at h
        refine ⟨_, ⟨_, rfl, major, h.1, rfl⟩, '.' :: minor, .inr ⟨_, rfl, minor, h.2, rfl⟩, ?_⟩
        rw [split]
        exact List.append_assoc _ _ _
  · rintro ⟨_, ⟨_, rfl, major, hmajor, rfl⟩, behind, hbehind, split⟩
    have noPoint : '.' ∉ major := fun point => absurd (hmajor.2 '.' point) (by decide)
    have http : afterHttp (firstWord line.toList) = some (major ++ behind) :=
      afterHttp_eq_some.mpr (split.symm.trans (List.append_assoc _ _ _))
    rw [http]
    rcases hbehind with rfl | ⟨_, rfl, minor, hminor, rfl⟩
    · simp only [List.append_nil, cutAt_of_not_mem noPoint]
      exact isNumber_iff.mpr hmajor
    · have cut : cutAt '.' (major ++ (".".toList ++ minor)) = (major, some minor) :=
        cutAt_append noPoint minor
      simp only [cut, isNumber_iff.mpr hmajor, isNumber_iff.mpr hminor, Bool.and_self]

theorem isMethod_iff (line : String) : isMethod line = true ↔ line.toList ∈ form .method := by
  rw [form, mem_word_form @solid_of_isUpper, isMethod, mem_oneOrMore]
  simp

theorem isSome_sectionName?_iff (line : String) :
    (sectionName? line).isSome = true ↔ line.toList ∈ form .sectionHeader := by
  rw [form, mem_trim_form @solid_of_bracketed, sectionName?]
  constructor
  · intro h
    split at h
    · rename_i rest opens
      split at h
      · rename_i closes
        obtain ⟨name, rfl⟩ := List.getLast?_eq_some_iff.mp closes
        simp only [List.dropLast_concat] at h
        split at h
        · rename_i named
          rw [Bool.and_eq_true, Bool.not_eq_true', List.isEmpty_eq_false_iff,
            List.all_eq_true] at named
          exact ⟨_, ⟨_, rfl, name, named, rfl⟩, _, rfl, opens.symm⟩
        · cases h
      · cases h
    · cases h
  · rintro ⟨_, ⟨_, rfl, name, ⟨ne, named⟩, rfl⟩, _, rfl, split⟩
    have brackets : trim line.toList = '[' :: (name ++ [']']) := split.symm
    have all : name.all isNameChar = true := List.all_eq_true.mpr named
    simp [brackets, ne, all]

section

variable {key ws : List Char} (isKey : key ∈ oneOrMore isKeyChar) (blank : ws ∈ many isBlank)

include isKey in
theorem solid_of_isKeyChar : key ∈ solid := by
  refine ⟨isKey.1, fun c hc => ?_⟩
  have here := isKey.2 c hc
  rw [isKeyChar, Bool.and_eq_true, Bool.not_eq_true'] at here
  exact here.1

include isKey blank

theorem colon_not_mem : ':' ∉ key ++ ws := by
  intro colon
  rcases List.mem_append.mp colon with inKey | inBlanks
  · exact absurd (isKey.2 ':' inKey) (by decide)
  · exact absurd (blank ':' inBlanks) (by decide)

theorem trimEnd_key : trimEnd (key ++ ws) = key := by
  rw [trimEnd_append_blanks key blank, trimEnd_of_whole (solid_of_isKeyChar isKey).2]

/-- Key and value of a key/value line. -/
theorem keyValue_eq_of_form {line : String} {value : List Char}
    (split : line.toList = key ++ ws ++ ':' :: value) :
    keyValue line = (String.ofList key, String.ofList (trim value)) := by
  obtain ⟨ne, whole⟩ := solid_of_isKeyChar isKey
  have noBlank : ∀ c ∈ ([] : List Char), isBlank c = true := by simp
  have trimmed : trim (key ++ ws) = key := trim_append noBlank ne whole blank
  rw [keyValue, split, cutAt_append (colon_not_mem isKey blank)]
  simp only [trimmed]

end

theorem isKeyValue_iff (line : String) :
    isKeyValue line = true ↔ line.toList ∈ form .keyValue := by
  rw [form, isKeyValue]
  constructor
  · intro h
    rcases cutAt_spec ':' line.toList with cut | ⟨before, value, free, split, cut⟩
    · rw [cut] at h
      cases h
    · obtain ⟨ws, blank, parts⟩ := trails_trimEnd before
      simp only [cut, Bool.and_eq_true, Bool.not_eq_true', List.isEmpty_eq_false_iff,
        List.all_eq_true] at h
      refine ⟨_, ⟨_, ⟨trimEnd before, ⟨h.1, ?_⟩, ws, blank, rfl⟩, _, rfl, rfl⟩, value, mem_top, ?_⟩
      · intro c hc
        have other : c ≠ ':' := by
          rintro rfl
          rw [parts] at free
          exact free (List.mem_append_left ws hc)
        simp [isKeyChar, h.2 c hc, other]
      · simp only [← parts, split, List.append_assoc]
        rfl
  · rintro ⟨_, ⟨_, ⟨key, isKey, ws, blank, rfl⟩, _, rfl, rfl⟩, value, -, split⟩
    have whole : line.toList = key ++ ws ++ ':' :: value := by
      rw [← split]
      simp
    rw [whole, cutAt_append (colon_not_mem isKey blank)]
    simp only [trimEnd_key isKey blank]
    exact mem_solid.mp (solid_of_isKeyChar isKey)

theorem mem_comment_iff : cs ∈ comment ↔ (dropBlank cs).head? = some '#' := by
  constructor
  · rintro ⟨_, ⟨ws, blank, _, rfl, rfl⟩, rest, -, rfl⟩
    have other : ¬ isBlank '#' = true := by decide
    have dropped : dropBlank (ws ++ '#' :: rest) = '#' :: rest := by
      rw [dropBlank, List.dropWhile_append_of_pos blank, List.dropWhile_cons_of_neg other]
    have parts : ws ++ "#".toList ++ rest = ws ++ '#' :: rest := List.append_assoc _ _ _
    simp only [parts, dropped, List.head?_cons]
  · intro first
    obtain ⟨rest, dropped⟩ := List.head?_eq_some_iff.mp first
    refine ⟨_, ⟨cs.takeWhile isBlank, ?_, _, rfl, rfl⟩, rest, mem_top, ?_⟩
    · exact fun c hc => List.mem_takeWhile_imp hc
    · have parts := eq_blanks_append_dropBlank cs
      rw [dropped] at parts
      exact (List.append_assoc _ _ _).trans parts.symm

theorem isBlankOrComment_iff (line : String) :
    isBlankOrComment line = true ↔ line.toList ∈ form .blank := by
  have empty : dropBlank line.toList = [] ↔ line.toList ∈ many isBlank := List.dropWhile_eq_nil_iff
  rw [form, isBlankOrComment, Language.mem_add, mem_comment_iff, ← empty]
  cases dropBlank line.toList with
  | nil => simp
  | cons c rest => simp

/-- A line has the form of its kind, and none that is tried before. -/
theorem mem_form_kind (line : String) :
    line.toList ∈ form (kind line) ∧ ∀ k ∈ (kind line).before, line.toList ∉ form k := by
  have status := isStatus_iff line
  have method := isMethod_iff line
  have header := isSome_sectionName?_iff line
  have keyValue := isKeyValue_iff line
  have blank := isBlankOrComment_iff line
  unfold kind
  split_ifs <;> simp_all [LineKind.before, mem_body]

theorem kind_eq_iff (line : String) (k : LineKind) :
    kind line = k ↔ line.toList ∈ form k ∧ ∀ k' ∈ k.before, line.toList ∉ form k' := by
  obtain ⟨has, first⟩ := mem_form_kind line
  constructor
  · rintro rfl
    exact ⟨has, first⟩
  · rintro ⟨has', first'⟩
    rcases LineKind.trichotomy (kind line) k with same | before | before
    · exact same
    · exact absurd has (first' _ before)
    · exact absurd has' (first _ before)

/-! Forms that exclude each other. -/

/-- No line has both forms. -/
def Excludes (k k' : LineKind) : Prop := ∀ cs ∈ form k, cs ∉ form k'

theorem firstWord_of_sectionHeader (h : cs ∈ form .sectionHeader) : firstWord cs ∈ bracketed := by
  apply (mem_word_form @solid_of_bracketed).mp
  obtain ⟨front, hfront, ws, blank, rfl⟩ := h
  refine ⟨front, hfront, ws, mem_wordEnd.mpr fun c hc => ?_, rfl⟩
  exact blank c (List.mem_of_head? hc)

theorem status_excludes_method : Excludes .status .method := by
  intro cs h method
  obtain ⟨_, ⟨_, rfl, major, _, rfl⟩, behind, _, split⟩ := (mem_word_form @solid_of_version).mp h
  have upper := ((mem_word_form @solid_of_isUpper).mp method).2
  rw [← split] at upper
  exact absurd (upper '/' (by simp)) (by decide)

/-- A word in brackets starts neither as a word of capitals does nor as that of a status line. -/
theorem head?_of_bracketed (h : w ∈ bracketed) : w.head? = some '[' := by
  obtain ⟨_, ⟨_, rfl, name, _, rfl⟩, _, rfl, rfl⟩ := h
  rfl

theorem status_excludes_sectionHeader : Excludes .status .sectionHeader := by
  intro cs h header
  have opens := head?_of_bracketed (firstWord_of_sectionHeader header)
  obtain ⟨_, ⟨_, rfl, major, _, rfl⟩, behind, _, split⟩ := (mem_word_form @solid_of_version).mp h
  rw [← split] at opens
  cases opens

theorem method_excludes_sectionHeader : Excludes .method .sectionHeader := by
  intro cs h header
  have opens := head?_of_bracketed (firstWord_of_sectionHeader header)
  have upper := ((mem_word_form @solid_of_isUpper).mp h).2
  exact absurd (upper '[' (List.mem_of_head? opens)) (by decide)

theorem colon_not_mem_of_sectionHeader (h : cs ∈ form .sectionHeader) : ':' ∉ cs := by
  obtain ⟨_, ⟨ws, front, _, ⟨_, ⟨_, rfl, name, ⟨_, named⟩, rfl⟩, _, rfl, rfl⟩, rfl⟩, ws', behind,
    rfl⟩ := h
  simp only [List.mem_append, not_or]
  refine ⟨⟨?_, ⟨by decide, ?_⟩, by decide⟩, ?_⟩
  · exact fun colon => absurd (front ':' colon) (by decide)
  · exact fun colon => absurd (named ':' colon) (by decide)
  · exact fun colon => absurd (behind ':' colon) (by decide)

theorem sectionHeader_excludes_keyValue : Excludes .sectionHeader .keyValue := by
  rintro _ h ⟨_, ⟨front, _, _, rfl, rfl⟩, value, -, rfl⟩
  apply colon_not_mem_of_sectionHeader h
  simp

/-- The key of a key/value line, and its value. -/
theorem exists_key {line : String} (h : kind line = .keyValue) : ∃ key ws value,
    key ∈ oneOrMore isKeyChar ∧ ws ∈ many isBlank ∧ line.toList = key ++ ws ++ ':' :: value ∧
      keyValue line = (String.ofList key, String.ofList (trim value)) := by
  obtain ⟨_, ⟨_, ⟨key, isKey, ws, blank, rfl⟩, _, rfl, rfl⟩, value, -, split⟩ :=
    ((kind_eq_iff line .keyValue).mp h).1
  have whole : line.toList = key ++ ws ++ ':' :: value :=
    split.symm.trans (List.append_assoc _ _ _)
  exact ⟨key, ws, value, isKey, blank, whole, keyValue_eq_of_form isKey blank whole⟩

/-- The key of a key/value line is one word. -/
theorem solid_key {line : String} (h : kind line = .keyValue) : (keyValue line).1.toList ∈ solid := by
  obtain ⟨key, ws, value, isKey, _, _, pair⟩ := exists_key h
  rw [pair, String.toList_ofList]
  exact solid_of_isKeyChar isKey

/-- The kind of a line is the first whose form the line has. A status line, a method line and a
section header have no form in common, and a section header is no key/value line. A key/value line
starts with its key, which has no blanks and no colon, and its value is what stands behind the first
colon, without the blanks around it. -/
theorem kind_first_form :
    (∀ line k, kind line = k ↔ line.toList ∈ form k ∧ ∀ k' ∈ k.before, line.toList ∉ form k') ∧
    Excludes .status .method ∧ Excludes .status .sectionHeader ∧
    Excludes .method .sectionHeader ∧ Excludes .sectionHeader .keyValue ∧
    ∀ line, kind line = .keyValue → ∃ key ws value,
      key ∈ oneOrMore isKeyChar ∧ ws ∈ many isBlank ∧ line.toList = key ++ ws ++ ':' :: value ∧
        keyValue line = (String.ofList key, String.ofList (trim value)) := by
  refine ⟨kind_eq_iff, status_excludes_method, status_excludes_sectionHeader,
    method_excludes_sectionHeader, sectionHeader_excludes_keyValue, fun line => exists_key⟩

/-- A key in front of a no-break space and two colons. -/
theorem kind_first_form_key : kind "a-b\u00a0: c:d " = .keyValue ∧ ∃ key ws value,
    key ∈ oneOrMore isKeyChar ∧ ws ∈ many isBlank ∧
      "a-b\u00a0: c:d ".toList = key ++ ws ++ ':' :: value ∧
      keyValue "a-b\u00a0: c:d " = (String.ofList key, String.ofList (trim value)) := by
  have kind : kind "a-b\u00a0: c:d " = .keyValue := by decide +kernel
  exact ⟨kind, kind_first_form.2.2.2.2.2 _ kind⟩

end Line

end HurlAssist
