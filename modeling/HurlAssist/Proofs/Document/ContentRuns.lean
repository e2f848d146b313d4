import HurlAssist.Proofs.Document.Layout

/-!
The lines below a method or status line fall into three runs: header lines and blanks, then the
lines of sections, then the lines of a body. Each run may be empty, and each part of the content
comes from its own run (`addLines_empty`).
-/

namespace HurlAssist.Content

/-- The lines that belong to sections: from the first line that is no header line and not blank up
to a status line, if the first is the header of a section. -/
def sectionLines (ls : List String) : List String :=
  match ls.dropWhile isTop with
  | [] => []
  | l :: ls =>
    if Line.kind l = .sectionHeader then (l :: ls).takeWhile fun l => Line.kind l != .status else []

/-- The lines that belong to the body: what is left. -/
def bodyLines (ls : List String) : List String :=
  match ls.dropWhile isTop with
  | [] => []
  | l :: ls =>
    if Line.kind l = .sectionHeader then (l :: ls).dropWhile fun l => Line.kind l != .status
    else l :: ls

/-- The three runs make up all of the lines. -/
theorem runs_append (ls : List String) :
    ls.takeWhile isTop ++ (sectionLines ls ++ bodyLines ls) = ls := by
  have parts := List.takeWhile_append_dropWhile (p := isTop) (l := ls)
  rw [sectionLines, bodyLines]
  cases behind : ls.dropWhile isTop with
  | nil =>
    rw [behind] at parts
    exact parts
  | cons l more =>
    rw [behind] at parts
    simp only
    split
    · rw [List.takeWhile_append_dropWhile]
      exact parts
    · exact parts

/-- A content is made of the headers of the first run, the sections of the second and the body of
the third. -/
theorem addLines_empty (n : Nat) (ls : List String) :
    empty.addLines n ls =
      ⟨empty.headers.addAll (keyValueLines n (ls.takeWhile isTop)),
        (Block.cut (fun l => Line.kind l == .sectionHeader) (n + (ls.takeWhile isTop).length)
          (sectionLines ls)).2.map Section.ofBlock,
        Body.ofLines (n + (ls.takeWhile isTop).length + (sectionLines ls).length)
          (bodyLines ls)⟩ := by
  rw [addLines, sectionLines, bodyLines]
  cases ls.dropWhile isTop with
  | nil => rfl
  | cons l more =>
    simp only
    split
    · rfl
    · rfl

end HurlAssist.Content
