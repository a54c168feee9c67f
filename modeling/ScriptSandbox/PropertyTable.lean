import ScriptSandbox.Descriptor
import ScriptSandbox.Key
import ScriptSandbox.OrderedMap

/-! # Tables of properties

A table keeps its properties in order of insertion and reports them with the indices first, in
ascending order, and the names after them.
-/

namespace ScriptSandbox

namespace ArrayIndex

/-- Puts an index into an ascending list. -/
def place (i : ArrayIndex) : List ArrayIndex → List ArrayIndex
  | [] => [i]
  | j :: rest => if i ≤ j then i :: j :: rest else j :: place i rest

def ascending (is : List ArrayIndex) : List ArrayIndex := is.foldr place []

end ArrayIndex

abbrev PropertyTable := OrderedMap Key Property

namespace PropertyTable

/-- The indices among the keys, in ascending order. -/
def indices (t : PropertyTable) : List ArrayIndex :=
  ArrayIndex.ascending (t.keys.filterMap Key.index?)

/-- The names among the keys, in order of insertion. -/
def names (t : PropertyTable) : List Key := t.keys.filter fun k => k.index? = none

/-- All keys in the order in which they are reported. -/
def ownKeys (t : PropertyTable) : List Key := t.indices.map Key.index ++ t.names

/-- The indices from a given one on, the greatest first. -/
def indicesFrom (t : PropertyTable) (start : Nat) : List ArrayIndex :=
  (t.indices.filter (start ≤ ·.val)).reverse

/-- The keys of enumerable properties, in the order in which they are reported. -/
def enumerableKeys (t : PropertyTable) : List Key :=
  t.ownKeys.filter fun k => (t.get? k).any Property.enumerable

/-- Inserts properties one after the other. -/
def insertAll (t : PropertyTable) (ps : List (Key × Property)) : PropertyTable :=
  ps.foldl (fun t e => t.insert e.1 e.2) t

end PropertyTable

end ScriptSandbox
