import HurlAssist.Keyed

/-!
The keys and values of headers and of sections, in the order in which the keys first came.
-/

namespace HurlAssist

/-- Pairs of a key and its value. -/
structure KeyValues where
  toList : List (String × String)
  deriving DecidableEq, Repr, Inhabited

namespace KeyValues

def empty : KeyValues := ⟨[]⟩

def insert (kvs : KeyValues) (key value : String) : KeyValues := ⟨Keyed.put key value kvs.toList⟩

def get? (kvs : KeyValues) (key : String) : Option String := kvs.toList.lookup key

def keys (kvs : KeyValues) : List String := kvs.toList.map Prod.fst

def size (kvs : KeyValues) : Nat := kvs.toList.length

def isEmpty (kvs : KeyValues) : Bool := kvs.toList.isEmpty

/-- All pairs of a list, put in one after the other. -/
def ofList (pairs : List (String × String)) : KeyValues :=
  pairs.foldl (fun kvs p => kvs.insert p.1 p.2) empty

end KeyValues

end HurlAssist
