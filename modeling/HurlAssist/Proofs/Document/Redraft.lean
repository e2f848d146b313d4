import HurlAssist.Proofs.Document.ContentRuns

/-!
Changes of a file, line by line, that keep the kind of each line. Such a change keeps every choice
of lines that goes by their kinds, so the changed file falls into the blocks and runs that the file
falls into, with their lines changed.
-/

namespace HurlAssist

/-- A change of lines that keeps their kinds, and moves them down. -/
structure Redraft where
  /-- What a line becomes. -/
  line : String → String
  /-- How many lines further down it comes to stand. -/
  down : Nat
  kind_line : ∀ l, Line.kind (line l) = Line.kind l

namespace Redraft

variable (r : Redraft)

/-- A block after the change. -/
def block (b : Block) : Block := ⟨b.line + r.down, r.line b.head, b.rest.map r.line⟩

/-- The change keeps a choice of lines that goes by their kind. -/
def Keeps (p : String → Bool) : Prop := ∀ l, p (r.line l) = p l

@[simp] theorem line_block (b : Block) : (r.block b).line = b.line + r.down := rfl

@[simp] theorem head_block (b : Block) : (r.block b).head = r.line b.head := rfl

@[simp] theorem rest_block (b : Block) : (r.block b).rest = b.rest.map r.line := rfl

variable {r}

theorem keeps_kind (p : LineKind → Bool) : r.Keeps fun l => p (Line.kind l) :=
  fun l => congrArg p (r.kind_line l)

variable {p : String → Bool} {n : Nat} {ls : List String}

theorem takeWhile_map (h : r.Keeps p) :
    (ls.map r.line).takeWhile p = (ls.takeWhile p).map r.line := by
  have same : p ∘ r.line = p := funext h
  rw [List.takeWhile_map, same]

theorem dropWhile_map (h : r.Keeps p) :
    (ls.map r.line).dropWhile p = (ls.dropWhile p).map r.line := by
  have same : p ∘ r.line = p := funext h
  rw [List.dropWhile_map, same]

theorem filter_map (h : r.Keeps p) : (ls.map r.line).filter p = (ls.filter p).map r.line := by
  have same : p ∘ r.line = p := funext h
  rw [List.filter_map, same]

theorem stop_block (b : Block) : (r.block b).stop = b.stop + r.down := by
  simp only [Block.stop, line_block, rest_block, List.length_map]
  omega

theorem lastText_block (b : Block) : (r.block b).lastText = r.line b.lastText := by
  simp only [Block.lastText, block, List.getLastD_eq_getLast?, List.getLast?_map]
  cases b.rest.getLast? <;> rfl

/-- Cutting the changed lines cuts them where the lines are cut. -/
theorem cut_map (h : r.Keeps p) (n : Nat) (ls : List String) :
    (Block.cut p (n + r.down) (ls.map r.line)).2 = (Block.cut p n ls).2.map r.block := by
  induction ls generalizing n with
  | nil => rfl
  | cons l ls ih =>
    have next := ih (n + 1)
    rw [Nat.add_right_comm] at next
    have keeps : r.Keeps (!p ·) := fun l => congrArg not (h l)
    rw [List.map_cons]
    cases hl : p l with
    | true =>
      rw [Block.cut_cons_head ((h l).trans hl), Block.cut_cons_head hl, next, takeWhile_map keeps]
      rfl
    | false => rw [Block.cut_cons_other ((h l).trans hl), Block.cut_cons_other hl, next]

theorem entries_map (n : Nat) (ls : List String) :
    Block.entries (n + r.down) (ls.map r.line) = (Block.entries n ls).map r.block :=
  cut_map (keeps_kind (· == .method)) n ls

theorem keeps_isTop : r.Keeps Content.isTop :=
  keeps_kind fun k => k == .keyValue || k == .blank

theorem sectionLines_map (ls : List String) :
    Content.sectionLines (ls.map r.line) = (Content.sectionLines ls).map r.line := by
  rw [Content.sectionLines, Content.sectionLines, dropWhile_map keeps_isTop]
  cases ls.dropWhile Content.isTop with
  | nil => rfl
  | cons l more =>
    simp only [List.map_cons, r.kind_line]
    rw [← List.map_cons, takeWhile_map (keeps_kind (· != .status))]
    split
    · rfl
    · rfl

theorem bodyLines_map (ls : List String) :
    Content.bodyLines (ls.map r.line) = (Content.bodyLines ls).map r.line := by
  rw [Content.bodyLines, Content.bodyLines, dropWhile_map keeps_isTop]
  cases ls.dropWhile Content.isTop with
  | nil => rfl
  | cons l more =>
    simp only [List.map_cons, r.kind_line]
    rw [← List.map_cons, dropWhile_map (keeps_kind (· != .status))]
    split
    · rfl
    · rfl

theorem upToStatus_block (b : Block) : (r.block b).upToStatus = r.block b.upToStatus := by
  simp only [Block.upToStatus, rest_block, takeWhile_map (keeps_kind (· != .status))]
  rfl

theorem fromStatus?_block (b : Block) : (r.block b).fromStatus? = b.fromStatus?.map r.block := by
  have stop : (r.block b).upToStatus.stop = b.upToStatus.stop + r.down := by
    rw [upToStatus_block, stop_block]
  simp only [Block.fromStatus?, rest_block, dropWhile_map (keeps_kind (· != .status)), stop]
  cases b.rest.dropWhile fun l => Line.kind l != .status with
  | nil => rfl
  | cons l ls => rfl

end Redraft

end HurlAssist
