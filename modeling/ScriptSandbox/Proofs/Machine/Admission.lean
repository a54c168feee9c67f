import ScriptSandbox.Proofs.Machine.Genesis

/-! # The making of type objects

A type object comes into the heap with the functions of its static methods behind it, and is frozen
as soon as it has them. So all of it is known from the class and the place where it comes to stand.
-/

namespace ScriptSandbox

namespace Heap

variable {h : Heap} {r : Ref} {c d : Cell} {cells : List Cell}

theorem allocAll_cons (h : Heap) (c : Cell) (cells : List Cell) :
    h.allocAll (c :: cells) = (h.alloc c).2.allocAll cells := rfl

theorem put_alloc_self (h : Heap) (c d : Cell) :
    (h.alloc c).2.put ⟨h.size⟩ d = (h.alloc d).2 := by
  refine congrArg Heap.mk (Array.ext_getElem? fun i => ?_)
  simp only [alloc, size, Array.getElem?_setIfInBounds, Array.getElem?_push, Array.size_push]
  grind

theorem put_alloc_of_lt (hr : r.id < h.size) (c d : Cell) :
    (h.alloc c).2.put r d = ((h.put r d).alloc c).2 := by
  have hlt : r.id < h.cells.size := hr
  refine congrArg Heap.mk (Array.ext_getElem? fun i => ?_)
  simp only [alloc, put, Array.getElem?_setIfInBounds, Array.getElem?_push, Array.size_push,
    Array.size_setIfInBounds]
  grind

theorem put_allocAll_of_lt (hr : r.id < h.size) (cells : List Cell) (d : Cell) :
    (h.allocAll cells).put r d = (h.put r d).allocAll cells := by
  induction cells generalizing h with
  | nil => rfl
  | cons c cells ih =>
    have hr' : r.id < (h.alloc c).2.size := by
      rw [size_alloc]
      exact Nat.lt_succ_of_lt hr
    rw [allocAll_cons, allocAll_cons, ih hr', put_alloc_of_lt hr]

/-- Changing the first of some new objects. -/
theorem put_allocAll_cons (h : Heap) (c d : Cell) (cells : List Cell) :
    (h.allocAll (c :: cells)).put ⟨h.size⟩ d = h.allocAll (d :: cells) := by
  have hlt : h.size < (h.alloc c).2.size := by
    rw [size_alloc]
    exact Nat.lt_succ_self _
  rw [allocAll_cons, put_allocAll_of_lt (r := ⟨h.size⟩) hlt, put_alloc_self, ← allocAll_cons]

theorem cell_allocAll_of_lt (hr : r.id < h.size) (cells : List Cell) :
    (h.allocAll cells).cell r = h.cell r := by
  induction cells generalizing h with
  | nil => rfl
  | cons c cells ih =>
    have hr' : r.id < (h.alloc c).2.size := by
      rw [size_alloc]
      exact Nat.lt_succ_of_lt hr
    rw [allocAll_cons, ih hr', cell_alloc_of_lt hr]

/-- The new objects stand one behind the other. -/
theorem cell_allocAll {i : Nat} (hc : cells[i]? = some c) :
    (h.allocAll cells).cell ⟨h.size + i⟩ = c := by
  induction cells generalizing h i with
  | nil => cases hc
  | cons d cells ih =>
    rw [allocAll_cons]
    cases i with
    | zero =>
      cases hc
      have hlt : h.size < (h.alloc c).2.size := by
        rw [size_alloc]
        exact Nat.lt_succ_self _
      exact (cell_allocAll_of_lt hlt cells).trans (cell_alloc_self h c)
    | succ i =>
      have hnext := ih (h := (h.alloc d).2) hc
      rwa [size_alloc, Nat.add_right_comm] at hnext

theorem cell_allocAll_cons (h : Heap) (c : Cell) (cells : List Cell) :
    (h.allocAll (c :: cells)).cell ⟨h.size⟩ = c :=
  cell_allocAll (i := 0) rfl

theorem alloc_allocAll (h : Heap) (cells : List Cell) (c : Cell) :
    ((h.allocAll cells).alloc c).2 = h.allocAll (cells ++ [c]) := by
  rw [allocAll_append]
  rfl

end Heap

/-- The cell of a function. -/
def Callable.cell (f : Callable) (target : Ref) : Cell where
  prototype := target
  properties := PropertyTable.insertAll .empty [
    (.name "name", ⟨.string f.name, false, false, true⟩),
    (.length, ⟨.ofNat f.arity, false, false, true⟩)]
  kind := .function f

namespace StaticMethod

/-- What the function of a static method is. -/
def callable (s : StaticMethod) : Callable := ⟨s.name, .callback s.callback, s.arity⟩

def key (s : StaticMethod) : Key := .ofString s.name

/-- The properties for static methods whose functions stand from a place on. -/
def entries : Nat → List StaticMethod → List (Key × Property)
  | _, [] => []
  | n, s :: rest => (s.key, .hidden (.object ⟨n⟩)) :: entries (n + 1) rest

theorem map_fst_entries (n : Nat) (ss : List StaticMethod) :
    (entries n ss).map Prod.fst = ss.map key := by
  induction ss generalizing n with
  | nil => rfl
  | cons s rest ih => rw [entries, List.map_cons, List.map_cons, ih]

end StaticMethod

/-- The cell of a type object at a place, which has the functions of the static methods behind it. -/
def HostClass.typeCell (c : HostClass) (target : Ref) (place : Nat) : Cell where
  prototype := target
  level := .frozen
  properties :=
    (PropertyTable.insertAll .empty (StaticMethod.entries (place + 1) c.statics)).mapValues
      (·.close .frozen)
  kind := .hostType c

/-- A type object and its functions. -/
def HostClass.cells (c : HostClass) (target : Ref) (place : Nat) : List Cell :=
  c.typeCell target place :: c.statics.map (·.callable.cell target)

namespace Exec

variable {m : Machine} {c : HostClass}

theorem registerMethod_apply (m : Machine) (r : Ref) (f : Callable) {h : Heap}
    (hh : (m.heap.alloc (f.cell m.realm.intrinsics.functionPrototype)).2 = h) :
    registerMethod r f.name f.routine f.arity m = .ok () (m.withHeap
      (h.put r ((h.cell r).withProperty (.ofString f.name) (.hidden (.object ⟨m.heap.size⟩))))) := by
  subst hh
  rfl

/-- A method on the first of some new objects; its function comes behind them. -/
theorem registerMethod_allocAll (m : Machine) (h : Heap) (d : Cell) (cells : List Cell)
    (s : StaticMethod) :
    registerMethod ⟨h.size⟩ s.name (.callback s.callback) s.arity
        (m.withHeap (h.allocAll (d :: cells))) =
      .ok () (m.withHeap (h.allocAll
        (d.withProperty s.key (.hidden (.object ⟨h.size + 1 + cells.length⟩)) ::
          (cells ++ [s.callable.cell m.realm.intrinsics.functionPrototype])))) := by
  have hplace : (h.allocAll (d :: cells)).size = h.size + 1 + cells.length := by
    rw [Heap.size_allocAll, List.length_cons]
    omega
  have happly := registerMethod_apply (m.withHeap (h.allocAll (d :: cells))) ⟨h.size⟩ s.callable
    (h.alloc_allocAll (d :: cells) _)
  rw [List.cons_append, Heap.cell_allocAll_cons, Heap.put_allocAll_cons] at happly
  rw [← hplace]
  exact happly

/-- Static methods on the first of some new objects; their functions come behind them. -/
theorem registerStatics_allocAll (m : Machine) (h : Heap) (d : Cell) (cells : List Cell)
    (ss : List StaticMethod) :
    registerStatics ⟨h.size⟩ ss (m.withHeap (h.allocAll (d :: cells))) = .ok () (m.withHeap
      (h.allocAll ({ d with
        properties := d.properties.insertAll
          (StaticMethod.entries (h.size + 1 + cells.length) ss) } ::
        (cells ++ ss.map (·.callable.cell m.realm.intrinsics.functionPrototype))))) := by
  induction ss generalizing d cells with
  | nil =>
    rw [List.map_nil, List.append_nil]
    rfl
  | cons s rest ih =>
    rw [registerStatics, bind_of_ok (registerMethod_allocAll m h d cells s), ih,
      List.length_append, List.append_assoc]
    rfl

/-- A type object comes into the heap with its functions behind it, and nothing else changes. -/
theorem createTypeObject_apply (m : Machine) (c : HostClass) :
    createTypeObject c m = .ok ⟨m.heap.size⟩ (m.withHeap
      (m.heap.allocAll (c.cells m.realm.intrinsics.functionPrototype m.heap.size))) := by
  generalize hd : ({ prototype := m.realm.intrinsics.functionPrototype, kind := .hostType c } :
    Cell) = d
  have halloc : alloc d m = .ok ⟨m.heap.size⟩ (m.withHeap (m.heap.allocAll [d])) := rfl
  have hstatics := registerStatics_allocAll m m.heap d [] c.statics
  have hraise : ∀ d' cells, (m.heap.allocAll (d' :: cells)).put ⟨m.heap.size⟩
      (((m.heap.allocAll (d' :: cells)).cell ⟨m.heap.size⟩).raise .frozen) =
        m.heap.allocAll (d'.raise .frozen :: cells) := fun d' cells => by
    rw [Heap.cell_allocAll_cons, Heap.put_allocAll_cons]
  unfold createTypeObject
  rw [bind_of_ok (intrinsics_apply m), hd, bind_of_ok halloc, bind_of_ok hstatics]
  refine (congrArg (fun h => EStateM.Result.ok (⟨m.heap.size⟩ : Ref) (m.withHeap h))
    (hraise _ _)).trans ?_
  rw [← hd]
  rfl

end Exec

/-- The machine after making the type object of a class and keeping it. -/
def Machine.enroll (m : Machine) (c : HostClass) : Machine where
  heap := m.heap.allocAll (c.cells m.realm.intrinsics.functionPrototype m.heap.size)
  realm := { m.realm with typeObjects := m.realm.typeObjects.insert c.name ⟨m.heap.size⟩ }
  policy := m.policy

/-- A class has one type object: it is made where none is kept. -/
theorem Exec.final_typeObject (m : Machine) (c : HostClass) : (typeObject c).final m =
    if m.realm.typeObjects.get? c.name = none then m.enroll c else m := by
  have hrealm : realm m = .ok m.realm m := rfl
  unfold typeObject
  rw [final_bind_of_ok hrealm]
  cases hr : m.realm.typeObjects.get? c.name with
  | some r => rfl
  | none =>
    rw [if_pos rfl]
    exact final_bind_of_ok (createTypeObject_apply m c)

end ScriptSandbox
