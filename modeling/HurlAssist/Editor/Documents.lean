import HurlAssist.Document.Parse
import HurlAssist.Keyed
import HurlAssist.Url.Basic

/-!
The documents that are open in an editor. While a text does not parse, the lines and the tree of the
last one that did stay, so that both always belong to one text.

Main statements: `get?_store` and `get?_close` say what is known of each document after a change.
-/

namespace HurlAssist.Editor

/-- What is known of a document: the lines of one text, and its tree if it parses. -/
structure View where
  lines : List String
  tree : Option Document
  deriving Repr

namespace View

def ofLines (lines : List String) : View := ⟨lines, (Document.ofLines lines).toOption⟩

def ofText (text : String) : View := ofLines (Text.lines text)

/-- What is known of a document after `new` was read of it. Without a tree that counts only if
nothing was known before. -/
def replacing (new : View) (old : Option View) : View :=
  if new.tree.isSome then new else old.getD new

end View

/-- What is known of the open documents, by their URLs. -/
abbrev Documents := List (String × View)

namespace Documents

def get? (url : Url) (ds : Documents) : Option View := ds.lookup url.text

/-- What was read of a document is put in. -/
def store (url : Url) (new : View) (ds : Documents) : Documents :=
  Keyed.put url.text (new.replacing (ds.get? url)) ds

/-- A document gets a new text. -/
def update (url : Url) (text : String) (ds : Documents) : Documents := ds.store url (.ofText text)

/-- A document is closed. -/
def close (url : Url) (ds : Documents) : Documents := ds.filter fun e => e.1 != url.text

theorem get?_store (u v : Url) (new : View) (ds : Documents) :
    (ds.store v new).get? u =
      if u.text = v.text then some (new.replacing (ds.get? u)) else ds.get? u := by
  rw [store, get?, Keyed.lookup_put]
  split
  · rename_i same
    rw [get?, get?, same]
  · rfl

theorem get?_close (u v : Url) (ds : Documents) :
    (ds.close v).get? u = if u.text = v.text then none else ds.get? u := by
  unfold close get?
  induction ds with
  | nil => simp
  | cons e ds ih =>
    obtain ⟨k, view⟩ := e
    by_cases hk : k = v.text
    · subst hk
      by_cases h : u.text = v.text
      · simpa [h] using ih
      · have hb : (u.text == v.text) = false := by simpa using h
        simpa [h, hb, List.lookup_cons] using ih
    · have hn : (k != v.text) = true := by simpa using hk
      simp only [List.filter_cons, hn, if_true, List.lookup_cons]
      by_cases h : u.text = k
      · subst h
        simp [hk]
      · have hb : (u.text == k) = false := by simpa using h
        simpa [hb] using ih

end Documents

end HurlAssist.Editor
