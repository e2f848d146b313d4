import HurlAssist.Proofs.Api.Choice
import HurlAssist.Proofs.Api.Placeholders

/-!
Paths with text around them, such as a base address in front and a query behind. A template that
matches a path matches every text that has the path in it (`templateMatches_of_inside`), so that the
lookup of the longer text has more templates to choose from (`Definition.Takes.size_le_of_inside`,
`Definition.Takes.place_le_of_inside`).
-/

namespace HurlAssist.Api

theorem templateMatches_of_inside {template path wider : String}
    (inside : path.toList <:+: wider.toList) (fits : templateMatches template path = true) :
    templateMatches template wider = true := by
  rw [templateMatches_eq, fitsSomewhere_iff] at fits ⊢
  obtain ⟨s, hs, here⟩ := fits
  exact ⟨s, hs, here.trans inside⟩

namespace Definition

section

variable {d : Definition} {path wider : String} {before before' : List PathItem}
  {item item' : PathItem} (taken : d.Takes path before item) (taken' : d.Takes wider before' item')
  (inside : path.toList <:+: wider.toList)

include taken in
theorem Takes.fits : templateMatches item.template path = true := by
  obtain ⟨after, _, first⟩ := taken.place
  exact first.fits

include taken taken' inside

theorem Takes.size_le_of_inside : item.template.utf8ByteSize ≤ item'.template.utf8ByteSize :=
  taken'.size_le taken.mem (templateMatches_of_inside inside taken.fits)

/-- Of two items that are equally long, the one that the longer text takes does not stand behind. -/
theorem Takes.place_le_of_inside
    (same : item'.template.utf8ByteSize = item.template.utf8ByteSize) :
    before'.length ≤ before.length := by
  have fits := templateMatches_of_inside inside taken.fits
  obtain ⟨after, parts, _⟩ := taken.place
  obtain ⟨after', parts', first'⟩ := taken'.place
  rcases List.append_eq_append_iff.mp (parts.symm.trans parts') with
    ⟨between, front, rest⟩ | ⟨between, front, _⟩
  · cases between with
    | nil => simp [front]
    | cons next between =>
      -- The first item would stand among those before the second, which are all shorter.
      obtain ⟨rfl, _⟩ := List.cons.inj rest
      have shorter := first'.shorter item (by simp [front]) fits
      omega
  · simp [front]

end

/-- Text in front of a path and text behind it lose no documentation. If a template matches the
path, one matches the whole text, and the template that a lookup of the whole text takes is not
shorter than the one for the path alone, counted in bytes; if it is as long, it stands in the same
place of the definition or before it. -/
theorem wider_path_loses_nothing (d : Definition) (method front path behind : String)
    (known : ∃ item ∈ d.items, templateMatches item.template path = true) :
    (∃ item ∈ d.items, templateMatches item.template (front ++ path ++ behind) = true) ∧
    (∃ before item, d.Takes path before item) ∧
    (∃ before item, d.Takes (front ++ path ++ behind) before item) ∧
    ∀ before item before' item', d.Takes path before item →
      d.Takes (front ++ path ++ behind) before' item' →
      (d.operation method path).path = item.template ∧
      (d.operation method (front ++ path ++ behind)).path = item'.template ∧
      item.template.utf8ByteSize ≤ item'.template.utf8ByteSize ∧
      (item'.template.utf8ByteSize = item.template.utf8ByteSize →
        before'.length ≤ before.length) := by
  obtain ⟨item, mem, fits⟩ := known
  have inside : path.toList <:+: (front ++ path ++ behind).toList :=
    ⟨front.toList, behind.toList, by simp⟩
  have fits' := templateMatches_of_inside inside fits
  refine ⟨⟨item, mem, fits'⟩, exists_takes mem fits, exists_takes mem fits', ?_⟩
  intro before item before' item' taken taken'
  exact ⟨taken.path_operation method, taken'.path_operation method,
    taken.size_le_of_inside taken' inside, taken.place_le_of_inside taken' inside⟩

/-- A query with a path of its own, which has a longer template. -/
theorem wider_path_loses_nothing_query :
    let d := ofPaths [("/pet/\x7bid\x7d", .null), ("/store/orders", .null)]
    let wider := "\x7b\x7burl\x7d\x7d" ++ "/pet/1" ++ "?next=/store/orders"
    (∃ item ∈ d.items, templateMatches item.template "/pet/1" = true) ∧
    ∃ before item before' item', d.Takes "/pet/1" before item ∧ d.Takes wider before' item' ∧
      item.template = "/pet/\x7bid\x7d" ∧ item'.template = "/store/orders" ∧
      (d.operation "GET" wider).path = item'.template ∧
      item.template.utf8ByteSize ≤ item'.template.utf8ByteSize := by
  intro d wider
  have known : ∃ item ∈ d.items, templateMatches item.template "/pet/1" = true :=
    ⟨_, List.mem_cons_self, by decide +kernel⟩
  obtain ⟨-, ⟨before, item, taken⟩, ⟨before', item', taken'⟩, both⟩ :=
    wider_path_loses_nothing d "GET" "\x7b\x7burl\x7d\x7d" "/pet/1" "?next=/store/orders" known
  obtain ⟨-, path', size_le, -⟩ := both before item before' item' taken taken'
  have here : (d.find? "/pet/1").map PathItem.template = some "/pet/\x7bid\x7d" := by
    decide +kernel
  have here' : (d.find? wider).map PathItem.template = some "/store/orders" := by decide +kernel
  rw [taken.found] at here
  rw [taken'.found] at here'
  exact ⟨known, before, item, before', item', taken, taken', Option.some.inj here,
    Option.some.inj here', path', size_le⟩

end Definition

end HurlAssist.Api
