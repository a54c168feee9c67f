import ScriptSandbox.Heap.Basic

/-! # Walking over keys

A walk yields the names of the enumerable properties of an object and then of the objects it
inherits from. The keys of an object are taken down when the walk comes to it, and each one is
looked up again when its turn comes: a key that has gone is passed over, and one that a nearer
object had is not yielded again.
-/

namespace ScriptSandbox

structure KeyWalk where
  /-- Where the walk starts; nowhere for a walk over nothing. -/
  root : Option Ref
  /-- The object whose keys are pending. -/
  current : Option Ref
  /-- The object to come to next. -/
  upcoming : Option Ref
  pending : List Key
  /-- The keys that were met and still there. -/
  visited : List Key

namespace KeyWalk

/-- A walk from an object. -/
def start (root : Option Ref) : KeyWalk := ⟨root, none, root, [], []⟩

def empty : KeyWalk := start none

def restart (w : KeyWalk) : KeyWalk := start w.root

/-- The first of some pending keys to yield. -/
def scan (properties : PropertyTable) : List Key → List Key → Option Key × List Key × List Key
  | visited, [] => (none, visited, [])
  | visited, k :: pending =>
    match properties.get? k with
    | none => scan properties visited pending
    | some p =>
      if k ∈ visited then scan properties visited pending
      else if p.enumerable then (some k, k :: visited, pending)
      else scan properties (k :: visited) pending

/-- The next name among the pending keys. -/
def nextPending (w : KeyWalk) (h : Heap) : Option Key × KeyWalk :=
  match w.current with
  | none => (none, { w with pending := [] })
  | some r =>
    let (found, visited, pending) := scan (h.cell r).properties w.visited w.pending
    (found, { w with visited := visited, pending := pending })

/-- Comes to an object and takes down its keys. -/
def load (w : KeyWalk) (h : Heap) (r : Ref) : KeyWalk :=
  { w with
    current := some r
    upcoming := h.prototype r
    pending := (h.cell r).properties.ownKeys }

/-- The next name, after coming to at most so many objects. -/
def advance (h : Heap) : Nat → KeyWalk → Option String × KeyWalk
  | fuel, w =>
    match w.nextPending h with
    | (some k, w) => (some k.text, w)
    | (none, w) =>
      match w.upcoming, fuel with
      | some r, fuel + 1 => advance h fuel (w.load h r)
      | _, _ => (none, { w with current := none, upcoming := none })

/-- The next name. A chain without a cycle has no more objects than the heap. -/
def next (w : KeyWalk) (h : Heap) : Option String × KeyWalk := advance h h.size w

/-- At most so many further names. -/
def take (h : Heap) : Nat → KeyWalk → List String × KeyWalk
  | 0, w => ([], w)
  | n + 1, w =>
    match w.next h with
    | (some s, w) =>
      let (names, w) := take h n w
      (s :: names, w)
    | (none, w) => ([], w)

/-- All further names, in a heap that stays as it is. Each name takes one of the pending keys or of
those on the chain. -/
def rest (w : KeyWalk) (h : Heap) : List String × KeyWalk :=
  let ahead := (h.chain w.upcoming).foldl (fun n r => n + (h.cell r).properties.size) 0
  take h (w.pending.length + ahead + 1) w

end KeyWalk

end ScriptSandbox
