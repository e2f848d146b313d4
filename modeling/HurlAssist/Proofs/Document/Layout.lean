import HurlAssist.Document.Parse
import HurlAssist.Proofs.Document.Block

/-!
How a request file is laid out, said without reading it line by line. The file is cut into blocks
at its method lines. In a block, the first status line below the head ends the request and starts
the response. What stands below a method or status line is key/value lines and blanks, and then
sections, cut at their headers, or a body.

`Proofs.Document.OnePass` shows that reading a file in one pass comes to the same.
-/

namespace HurlAssist

open Text

/-- The key/value lines among these, with their numbers. -/
def keyValueLines (line : Nat) (ls : List String) : List (String × Nat) :=
  (ls.zipIdx line).filter fun p => Line.kind p.1 == .keyValue

/-- More header lines. -/
def Headers.addAll (h : Headers) (ps : List (String × Nat)) : Headers :=
  ps.foldl (fun h p => h.add p.2 p.1) h

theorem Headers.addAll_keyValue {l : String} (hl : Line.kind l = .keyValue) (h : Headers) (n : Nat)
    (ls : List String) :
    h.addAll (keyValueLines n (l :: ls)) = (h.add n l).addAll (keyValueLines (n + 1) ls) := by
  simp [Headers.addAll, keyValueLines, hl]

theorem Headers.addAll_other {l : String} (hl : Line.kind l ≠ .keyValue) (h : Headers) (n : Nat)
    (ls : List String) :
    h.addAll (keyValueLines n (l :: ls)) = h.addAll (keyValueLines (n + 1) ls) := by
  simp [Headers.addAll, keyValueLines, hl]

/-- The body made of these lines, the first of which has the number `line`. -/
def Body.ofLines (line : Nat) : List String → Body
  | [] => .none
  | l :: ls => ⟨l :: ls, some ((⟨line, l, ls⟩ : Block).span 0)⟩

/-- The section that a block makes whose head is a section header. -/
def Section.ofBlock (b : Block) : Section :=
  let name := (Line.sectionName? b.head).getD ""
  let col := indent b.head.toList + 1
  { name := ⟨name, .onLine b.line col (col + name.length)⟩
    keyValues := .ofList ((b.rest.filter fun l => Line.kind l == .keyValue).map Line.keyValue)
    rawLines := b.rest.filter fun l => Line.kind l != .keyValue && Line.kind l != .blank
    lines := b.rest
    span := b.span (indent b.head.toList) }

namespace Content

/-- The lines that stand in front of sections and body. -/
def isTop (l : String) : Bool := Line.kind l == .keyValue || Line.kind l == .blank

/-- The sections that these lines make, up to the first status line. -/
def sectionsOf (line : Nat) (ls : List String) : List Section :=
  (Block.cut (fun l => Line.kind l == .sectionHeader) line
    (ls.takeWhile fun l => Line.kind l != .status)).2.map Section.ofBlock

/-- The body that is left behind sections: all from the first status line on. -/
def bodyBehind (line : Nat) (ls : List String) : Body :=
  .ofLines (line + (ls.takeWhile fun l => Line.kind l != .status).length)
    (ls.dropWhile fun l => Line.kind l != .status)

/-- `c` with the headers, sections and body of these lines. -/
def addLines (c : Content) (line : Nat) (ls : List String) : Content :=
  let top := ls.takeWhile isTop
  let restLine := line + top.length
  let headers := c.headers.addAll (keyValueLines line top)
  match ls.dropWhile isTop with
  | [] => { c with headers := headers }
  | first :: rest =>
    if Line.kind first = .sectionHeader then
      ⟨headers, c.sections ++ sectionsOf restLine (first :: rest),
        bodyBehind restLine (first :: rest)⟩
    else { c with headers := headers, body := .ofLines restLine (first :: rest) }

variable {c : Content} {n : Nat} {l : String}

theorem addLines_nil (c : Content) (n : Nat) : c.addLines n [] = c := rfl

theorem addLines_keyValue (h : Line.kind l = .keyValue) (ls : List String) :
    c.addLines n (l :: ls) = { c with headers := c.headers.add n l }.addLines (n + 1) ls := by
  have top : isTop l = true := by simp [isTop, h]
  simp only [addLines, List.takeWhile_cons_of_pos top, List.dropWhile_cons_of_pos top,
    keyValueLines, Headers.addAll, List.zipIdx_cons, List.length_cons]
  simp [h, Nat.add_assoc, Nat.add_comm 1]

theorem addLines_blank (h : Line.kind l = .blank) (ls : List String) :
    c.addLines n (l :: ls) = c.addLines (n + 1) ls := by
  have top : isTop l = true := by simp [isTop, h]
  simp only [addLines, List.takeWhile_cons_of_pos top, List.dropWhile_cons_of_pos top,
    keyValueLines, Headers.addAll, List.zipIdx_cons, List.length_cons]
  simp [h, Nat.add_assoc, Nat.add_comm 1]

theorem addLines_blanks {xs : List String} (h : ∀ l ∈ xs, Line.kind l = .blank)
    (ls : List String) : c.addLines n (xs ++ ls) = c.addLines (n + xs.length) ls := by
  induction xs generalizing n with
  | nil => rfl
  | cons x xs ih =>
    rw [List.cons_append, addLines_blank (h x List.mem_cons_self),
      ih fun l hl => h l (List.mem_cons_of_mem x hl)]
    simp [Nat.add_assoc, Nat.add_comm 1]

theorem addLines_body (h : Line.kind l = .body ∨ Line.kind l = .status) (ls : List String) :
    c.addLines n (l :: ls) = { c with body := .ofLines n (l :: ls) } := by
  have top : ¬ isTop l = true := by rcases h with h | h <;> simp [isTop, h]
  have other : Line.kind l ≠ .sectionHeader := by rcases h with h | h <;> simp [h]
  simp only [addLines, List.takeWhile_cons_of_neg top, List.dropWhile_cons_of_neg top,
    if_neg other]
  rfl

theorem addLines_sectionHeader (h : Line.kind l = .sectionHeader) (ls : List String) :
    c.addLines n (l :: ls) =
      ⟨c.headers, c.sections ++ sectionsOf n (l :: ls), bodyBehind n (l :: ls)⟩ := by
  have top : ¬ isTop l = true := by simp [isTop, h]
  simp only [addLines, List.takeWhile_cons_of_neg top, List.dropWhile_cons_of_neg top, if_pos h]
  rfl

/-- What follows a section: the header of another one, or a status line, or nothing. -/
def EndsSections (more : List String) : Prop :=
  ∀ x, more.head? = some x → Line.kind x = .sectionHeader ∨ Line.kind x = .status

theorem sectionsOf_cons {sec more : List String} (h : Line.kind l = .sectionHeader)
    (inside : ∀ x ∈ sec, (Line.kind x).endsSection = false) (ended : EndsSections more) :
    sectionsOf n (l :: (sec ++ more)) =
      Section.ofBlock ⟨n, l, sec⟩ :: sectionsOf (n + 1 + sec.length) more := by
  have plain (x : String) (hx : x ∈ sec) :
      Line.kind x ≠ .sectionHeader ∧ Line.kind x ≠ .status := by
    obtain ⟨header, _, status⟩ := LineKind.endsSection_eq_false.mp (inside x hx)
    exact ⟨header, status⟩
  let upTo := more.takeWhile fun x => Line.kind x != .status
  have before : (l :: (sec ++ more)).takeWhile (fun x => Line.kind x != .status) =
      l :: (sec ++ upTo) := by
    rw [List.takeWhile_cons_of_pos (by simp [h]),
      List.takeWhile_append_of_pos fun x hx => by simp [(plain x hx).2]]
  have first : (sec ++ upTo).takeWhile (fun x => !(Line.kind x == .sectionHeader)) = sec := by
    rw [List.takeWhile_append_of_pos fun x hx => by simp [(plain x hx).1]]
    cases more with
    | nil => simp [upTo]
    | cons x more => rcases ended x rfl with hx | hx <;> simp [upTo, hx]
  rw [sectionsOf, before, Block.cut_cons_head (by simp [h]), first,
    Block.cut_append _ (fun x hx => by simp [(plain x hx).1])]
  rfl

theorem bodyBehind_cons {sec more : List String} (h : Line.kind l = .sectionHeader)
    (inside : ∀ x ∈ sec, (Line.kind x).endsSection = false) :
    bodyBehind n (l :: (sec ++ more)) = bodyBehind (n + 1 + sec.length) more := by
  have plain (x : String) (hx : x ∈ l :: sec) : (Line.kind x != .status) = true := by
    rcases List.mem_cons.mp hx with rfl | hx
    · simp [h]
    · obtain ⟨_, _, status⟩ := LineKind.endsSection_eq_false.mp (inside x hx)
      simpa using status
  simp only [bodyBehind, ← List.cons_append, List.takeWhile_append_of_pos plain,
    List.dropWhile_append_of_pos plain, List.length_append, List.length_cons]
  congr 1
  omega

theorem addLines_section {sec more : List String} (h : Line.kind l = .sectionHeader)
    (inside : ∀ x ∈ sec, (Line.kind x).endsSection = false) (ended : EndsSections more)
    (noBody : c.body = .none) :
    c.addLines n (l :: (sec ++ more)) =
      { c with sections := c.sections ++ [Section.ofBlock ⟨n, l, sec⟩] }.addLines
        (n + 1 + sec.length) more := by
  rw [addLines_sectionHeader h, sectionsOf_cons h inside ended, bodyBehind_cons h inside]
  cases more with
  | nil => simp [addLines_nil, sectionsOf, bodyBehind, Block.cut, Body.ofLines, noBody]
  | cons x more =>
    rcases ended x rfl with hx | hx
    · simp [addLines_sectionHeader hx]
    · simp [addLines_body (.inr hx), sectionsOf, bodyBehind, hx, Block.cut]

end Content

/-- The request that a block makes whose head is a method line. -/
def Request.ofBlock (b : Block) : Request :=
  let head := b.head.toList
  let nameEnd := indent head + (firstWord head).length
  let width := b.head.length
  { method := ⟨String.ofList (firstWord head), .onLine b.line (indent head) nameEnd⟩
    target := ⟨String.ofList (trim (afterFirstWord head)),
      .onLine b.line (min (nameEnd + 1) width) width⟩
    content := Content.empty.addLines (b.line + 1) b.rest
    span := b.span (indent head) }

/-- The response that a block makes whose head is a status line. -/
def Response.ofBlock (b : Block) : Except ParseError Response :=
  let head := b.head.toList
  let status := firstWord (afterFirstWord head)
  if status.isEmpty then .error (.malformedStatusLine b.line (String.ofList (trim head)))
  else .ok
    { version := String.ofList (firstWord head)
      status := statusOf status
      content := Content.empty.addLines (b.line + 1) b.rest
      span := b.span (indent head) }

/-- The part of a block before its first status line below the head. -/
def Block.upToStatus (b : Block) : Block :=
  { b with rest := b.rest.takeWhile fun l => Line.kind l != .status }

/-- The part of a block from its first status line below the head. -/
def Block.fromStatus? (b : Block) : Option Block :=
  match b.rest.dropWhile fun l => Line.kind l != .status with
  | [] => none
  | l :: ls => some ⟨b.upToStatus.stop, l, ls⟩

/-- The entry that a block makes whose head is a method line. -/
def Entry.ofBlock (b : Block) : Except ParseError Entry :=
  let request := Request.ofBlock b.upToStatus
  match b.fromStatus? with
  | none => .ok ⟨request, none, request.span⟩
  | some r =>
    match Response.ofBlock r with
    | .error e => .error e
    | .ok response => .ok ⟨request, some response, request.span.join response.span⟩

/-- The entries that blocks make; the first block that makes none decides. -/
def Entry.ofBlocks : List Block → Except ParseError (List Entry)
  | [] => .ok []
  | b :: bs =>
    match Entry.ofBlock b with
    | .error e => .error e
    | .ok entry =>
      match Entry.ofBlocks bs with
      | .error e => .error e
      | .ok entries => .ok (entry :: entries)

/-- The blocks that the lines from number `n` on make at their method lines. -/
def Block.entries (n : Nat) (ls : List String) : List Block :=
  (Block.cut (fun l => Line.kind l == .method) n ls).2

end HurlAssist
