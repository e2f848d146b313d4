import HurlAssist.Document.Parse
import HurlAssist.Proofs.Text.LineEnds

/-!
Lines joined to a text, each gap with a line end of its own. Cutting the text gives the lines back,
and every text is its lines joined (`Text.splitting_undoes_joining`). So it does not matter to what is
read which of its lines end in which way.
-/

namespace HurlAssist.Text

/-- What stands between two lines. -/
inductive LineEnd where
  | feed
  /-- A carriage return and a line feed. -/
  | returnFeed
  deriving DecidableEq, Repr

def LineEnd.text : LineEnd → String
  | feed => "\n"
  | returnFeed => "\r\n"

/-- A first line, and further lines, each behind the end of the line above it. -/
def joined (first : String) : List (LineEnd × String) → String
  | [] => first
  | (stop, l) :: more => first ++ stop.text ++ joined l more

/-- A line as it stands between line ends: no line feed is in it, and what it ends with belongs to no
line end. -/
structure IsLine (l : String) : Prop where
  noFeed : '\n' ∉ l.toList
  noReturn : l.toList.getLast? ≠ some '\r'

instance (l : String) : Decidable (IsLine l) :=
  decidable_of_iff ('\n' ∉ l.toList ∧ l.toList.getLast? ≠ some '\r')
    ⟨fun h => ⟨h.1, h.2⟩, fun h => ⟨h.noFeed, h.noReturn⟩⟩

theorem pieces_eq_splitOn (cs : List Char) : pieces cs = cs.splitOn '\n' := by
  induction cs with
  | nil => rfl
  | cons c cs ih =>
    rw [List.splitOn_cons_eq_if_modifyHead, ← ih]
    by_cases feed : c = '\n'
    · simp [pieces, feed]
    · obtain ⟨p, ps, behind, first⟩ := pieces_cons_of_ne feed cs
      simp [first, behind, feed]

/-- A piece has a carriage return at its end, which is dropped, or is a line already. -/
theorem dropReturn_cases (p : List Char) : p = dropReturn p ∨ p = dropReturn p ++ ['\r'] := by
  fun_induction dropReturn p with
  | case1 => exact .inl rfl
  | case2 => exact .inr rfl
  | case3 c => exact .inl rfl
  | case4 c d cs ih =>
    rcases ih with same | returned
    · exact .inl (congrArg (c :: ·) same)
    · exact .inr (congrArg (c :: ·) returned)

theorem dropReturn_of_noReturn {p : List Char} (h : p.getLast? ≠ some '\r') : dropReturn p = p := by
  rcases dropReturn_cases p with same | returned
  · exact same.symm
  · rw [returned, List.getLast?_concat] at h
    exact absurd rfl h

theorem feed_not_mem_of_mem_pieces {cs p : List Char} (h : p ∈ pieces cs) : '\n' ∉ p := by
  induction cs generalizing p with
  | nil =>
    rw [List.mem_singleton.mp h]
    exact List.not_mem_nil
  | cons c cs ih =>
    by_cases feed : c = '\n'
    · rw [pieces, if_pos feed] at h
      rcases List.mem_cons.mp h with rfl | h
      · exact List.not_mem_nil
      · exact ih h
    · obtain ⟨q, qs, behind, first⟩ := pieces_cons_of_ne feed cs
      rw [first] at h
      rw [behind] at ih
      rcases List.mem_cons.mp h with rfl | h
      · intro mem
        rcases List.mem_cons.mp mem with same | mem
        · exact feed same.symm
        · exact ih List.mem_cons_self mem
      · exact ih (List.mem_cons_of_mem q h)

theorem feed_not_mem_of_mem_lines {source l : String} (h : l ∈ lines source) : '\n' ∉ l.toList := by
  obtain ⟨p, hp, rfl⟩ := List.mem_map.mp h
  obtain ⟨ws, _, whole⟩ := trails_dropReturn p
  intro mem
  rw [String.toList_ofList] at mem
  apply feed_not_mem_of_mem_pieces hp
  rw [whole]
  exact List.mem_append_left ws mem

theorem length_lines (source : String) :
    (lines source).length = source.toList.count '\n' + 1 := by
  rw [lines, List.length_map, length_pieces]

theorem lines_of_isLine {l : String} (h : IsLine l) : lines l = [l] := by
  rw [lines, pieces_eq_splitOn, List.splitOn_eq_singleton h.noFeed, List.map_singleton,
    dropReturn_of_noReturn h.noReturn, String.ofList_toList]

/-- A line and its end are cut off the front of a text. -/
theorem lines_append {l : String} (h : IsLine l) (stop : LineEnd) (rest : String) :
    lines (l ++ stop.text ++ rest) = l :: lines rest := by
  have kept : dropReturn l.toList = l.toList := dropReturn_of_noReturn h.noReturn
  cases stop with
  | feed =>
    have split : (l ++ LineEnd.feed.text ++ rest).toList = l.toList ++ '\n' :: rest.toList := by
      simp [LineEnd.text]
    rw [lines, split, pieces_eq_splitOn, List.splitOn_append_cons_self_of_not_mem h.noFeed,
      List.map_cons, kept, String.ofList_toList, ← pieces_eq_splitOn, lines]
  | returnFeed =>
    have split : (l ++ LineEnd.returnFeed.text ++ rest).toList =
        (l.toList ++ ['\r']) ++ '\n' :: rest.toList := by
      simp [LineEnd.text]
    have noFeed : '\n' ∉ l.toList ++ ['\r'] := by
      simp [h.noFeed]
    rw [lines, split, pieces_eq_splitOn, List.splitOn_append_cons_self_of_not_mem noFeed,
      List.map_cons, dropReturn_concat, String.ofList_toList, ← pieces_eq_splitOn, lines]

theorem lines_joined {first : String} {more : List (LineEnd × String)}
    (h : ∀ l ∈ first :: more.map Prod.snd, IsLine l) :
    lines (joined first more) = first :: more.map Prod.snd := by
  induction more generalizing first with
  | nil => exact lines_of_isLine (h first List.mem_cons_self)
  | cons next more ih =>
    obtain ⟨stop, l⟩ := next
    rw [joined, lines_append (h first List.mem_cons_self), ih fun x hx =>
      h x (List.mem_cons_of_mem first hx)]
    rfl

/-- Pieces with line feeds between them are their lines joined, with what is dropped at the end of a
piece as part of the line end behind it. -/
theorem exists_joined_of_pieces (p : List Char) (ps : List (List Char)) : ∃ more last,
    more.map Prod.snd = ps.map (fun p => String.ofList (dropReturn p)) ∧
      (last = "" ∨ last = "\r") ∧
      String.ofList (['\n'].intercalate (p :: ps)) =
        joined (String.ofList (dropReturn p)) more ++ last := by
  induction ps generalizing p with
  | nil =>
    rw [List.intercalate_singleton]
    rcases dropReturn_cases p with same | returned
    · refine ⟨[], "", rfl, .inl rfl, ?_⟩
      rw [joined, ← same, String.append_empty]
    · refine ⟨[], "\r", rfl, .inr rfl, ?_⟩
      nth_rewrite 1 [returned]
      rw [joined, String.ofList_append]
  | cons q qs ih =>
    obtain ⟨more, last, same, ends, whole⟩ := ih q
    have front (stop : LineEnd) (h : p ++ ['\n'] = dropReturn p ++ stop.text.toList) :
        String.ofList (['\n'].intercalate (p :: q :: qs)) =
          joined (String.ofList (dropReturn p)) ((stop, String.ofList (dropReturn q)) :: more) ++
            last := by
      rw [List.intercalate_cons_cons, h, String.ofList_append, String.ofList_append, whole, joined,
        String.ofList_toList, ← String.append_assoc]
    have rest (stop : LineEnd) : ((stop, String.ofList (dropReturn q)) :: more).map Prod.snd =
        (q :: qs).map fun p => String.ofList (dropReturn p) := by
      rw [List.map_cons, same, List.map_cons]
    rcases dropReturn_cases p with plain | returned
    · refine ⟨_, last, rest .feed, ends, front .feed ?_⟩
      rw [← plain]
      rfl
    · refine ⟨_, last, rest .returnFeed, ends, front .returnFeed ?_⟩
      nth_rewrite 1 [returned]
      exact List.append_assoc _ _ _

/-- A text is its lines joined, but for a carriage return that may stand behind the last of them. -/
theorem exists_joined (source : String) : ∃ first more last,
    lines source = first :: more.map Prod.snd ∧ (last = "" ∨ last = "\r") ∧
      source = joined first more ++ last := by
  obtain ⟨p, ps, cut⟩ := List.exists_cons_of_ne_nil (pieces_ne_nil source.toList)
  obtain ⟨more, last, same, ends, whole⟩ := exists_joined_of_pieces p ps
  refine ⟨String.ofList (dropReturn p), more, last, ?_, ends, ?_⟩
  · rw [lines, cut, List.map_cons, same]
  · rw [← whole, ← cut, pieces_eq_splitOn, List.intercalate_splitOn, String.ofList_toList]

/-- Cutting a text into lines undoes joining lines, whichever line ends stand between them, so that
the joined text is read as the lines are. Every text has one line more than it has line feeds, no line
has a line feed in it, and the lines with the line ends that stood between them, and with the carriage
return that stood at the end of the last one if one did, are the text. -/
theorem splitting_undoes_joining :
    (∀ (first : String) (more : List (LineEnd × String)),
      (∀ l ∈ first :: more.map Prod.snd, IsLine l) →
        lines (joined first more) = first :: more.map Prod.snd ∧
        Document.parse (joined first more) = Document.ofLines (first :: more.map Prod.snd)) ∧
    ∀ source : String,
      (lines source).length = source.toList.count '\n' + 1 ∧
      (∀ l ∈ lines source, '\n' ∉ l.toList) ∧
      ∃ first more last, lines source = first :: more.map Prod.snd ∧
        (last = "" ∨ last = "\r") ∧ source = joined first more ++ last := by
  constructor
  · intro first more h
    have cut := lines_joined h
    exact ⟨cut, by rw [Document.parse, cut]⟩
  · intro source
    exact ⟨length_lines source, fun l => feed_not_mem_of_mem_lines, exists_joined source⟩

/-- Both line ends, a carriage return inside of a line, and an empty line at the end. -/
theorem splitting_undoes_joining_mixed :
    (∀ l ∈ ["GET /a", "x: 1\r2", "", ""], IsLine l) ∧
    lines "GET /a\r\nx: 1\r2\n\r\n" = ["GET /a", "x: 1\r2", "", ""] ∧
    Document.parse "GET /a\r\nx: 1\r2\n\r\n" = Document.ofLines ["GET /a", "x: 1\r2", "", ""] := by
  have whole : ∀ l ∈ ["GET /a", "x: 1\r2", "", ""], IsLine l := by decide
  exact ⟨whole, splitting_undoes_joining.1 "GET /a"
    [(.returnFeed, "x: 1\r2"), (.feed, ""), (.returnFeed, "")] whole⟩

end HurlAssist.Text
