import ScriptSandbox.Proofs.Machine.Admission

/-! # The making of error objects

The object that a failure becomes is new, and its cell is known from the failure: it inherits from
the prototype of its kind, and what it says of the failure is its own.
-/

namespace ScriptSandbox

/-- The cell of an error object. -/
def ErrorKind.cell (kind : ErrorKind) (target : Ref) (message : String) : Cell where
  prototype := target
  properties :=
    let named := PropertyTable.insertAll .empty [(.name "name", .hidden (.string kind.name))]
    if message = "" then named else named.insert (.name "message") (.hidden (.string message))
  kind := .error

/-- The cell of the object for a failure. -/
def Failure.cell (f : Failure) (target : Ref) (message : String) : Cell :=
  match f.typeName? with
  | some name =>
    (f.kind.cell target message).withProperty (.name "typeName") (.hidden (.string name))
  | none => f.kind.cell target message

/-- The failure is no value that was thrown. -/
def Failure.IsOwn : Failure → Prop
  | .thrown _ => False
  | _ => True

namespace Exec

variable {m : Machine} {f : Failure}

theorem createError_apply (m : Machine) (kind : ErrorKind) (message : String) :
    createError kind message m = .ok ⟨m.heap.size⟩ (m.withHeap
      (m.heap.alloc (kind.cell (m.realm.intrinsics.errorPrototype kind) message)).2) := rfl

theorem createFailure_apply (m : Machine) (f : Failure) :
    createFailure f m = .ok ⟨m.heap.size⟩ (m.withHeap (m.heap.alloc
      (f.cell (m.realm.intrinsics.errorPrototype f.kind) (m.heap.message f))).2) := by
  have hmessage : look (·.message f) m = .ok (m.heap.message f) m := rfl
  unfold createFailure Failure.cell
  rw [bind_of_ok hmessage, bind_of_ok (createError_apply m f.kind (m.heap.message f))]
  cases f.typeName? with
  | none => rfl
  | some name =>
    have hself := Heap.cell_alloc_self m.heap
      (f.kind.cell (m.realm.intrinsics.errorPrototype f.kind) (m.heap.message f))
    refine congrArg (fun h => EStateM.Result.ok (⟨m.heap.size⟩ : Ref) (m.withHeap h)) ?_
    exact (Heap.put_alloc_self m.heap _ _).trans (congrArg (fun c : Cell => (m.heap.alloc
      (c.withProperty (.name "typeName") (.hidden (.string name)))).2) hself)

theorem caught_apply (m : Machine) (hf : f.IsOwn) :
    caught f m = .ok (.object ⟨m.heap.size⟩) (m.withHeap (m.heap.alloc
      (f.cell (m.realm.intrinsics.errorPrototype f.kind) (m.heap.message f))).2) := by
  have hcreate : caught f = (do return .object (← createFailure f) : Exec Value) := by
    cases f <;> first | rfl | exact hf.elim
  rw [hcreate, bind_of_ok (createFailure_apply m f)]
  rfl

end Exec

/-! ### What error objects are -/

/-- The object tells of itself what the failure is. -/
structure Heap.Reports (h : Heap) (f : Failure) (message : String) (r : Ref) : Prop where
  kind : h.kind r = .error
  name : h.own? r (.name "name") = some (.hidden (.string f.kind.name))
  message : h.own? r (.name "message") =
    if message = "" then none else some (.hidden (.string message))
  typeName : h.own? r (.name "typeName") = f.typeName?.map fun name => .hidden (.string name)

theorem ErrorKind.get?_cell_name (kind : ErrorKind) (target : Ref) (message : String) :
    (kind.cell target message).properties.get? (.name "name") =
      some (.hidden (.string kind.name)) := by
  simp only [cell, PropertyTable.insertAll, List.foldl_cons, List.foldl_nil]
  split <;> simp [OrderedMap.get?_insert]

theorem ErrorKind.get?_cell_message (kind : ErrorKind) (target : Ref) (message : String) :
    (kind.cell target message).properties.get? (.name "message") =
      if message = "" then none else some (.hidden (.string message)) := by
  simp only [cell, PropertyTable.insertAll, List.foldl_cons, List.foldl_nil]
  split <;> simp [OrderedMap.get?_insert]

theorem ErrorKind.get?_cell_typeName (kind : ErrorKind) (target : Ref) (message : String) :
    (kind.cell target message).properties.get? (.name "typeName") = none := by
  simp only [cell, PropertyTable.insertAll, List.foldl_cons, List.foldl_nil]
  split <;> simp [OrderedMap.get?_insert]

theorem Failure.prototype_cell (f : Failure) (target : Ref) (message : String) :
    (f.cell target message).prototype = some target := by
  unfold cell
  split <;> rfl

theorem Heap.reports_of_cell {h : Heap} {r target : Ref} {f : Failure} {message : String}
    (hr : h.cell r = f.cell target message) : h.Reports f message r := by
  cases hf : f.typeName? with
  | none =>
    have hcell : h.cell r = f.kind.cell target message := by rw [hr, Failure.cell, hf]
    constructor
    · rw [Heap.kind, hcell, ErrorKind.cell]
    · rw [own?, hcell, ErrorKind.get?_cell_name]
    · rw [own?, hcell, ErrorKind.get?_cell_message]
    · rw [own?, hcell, ErrorKind.get?_cell_typeName, hf, Option.map_none]
  | some name =>
    have hcell : h.cell r = (f.kind.cell target message).withProperty (.name "typeName")
        (.hidden (.string name)) := by rw [hr, Failure.cell, hf]
    constructor
    · rw [Heap.kind, hcell, Cell.withProperty, ErrorKind.cell]
    · rw [own?, hcell, Cell.withProperty, OrderedMap.get?_insert, if_neg (by decide),
        ErrorKind.get?_cell_name]
    · rw [own?, hcell, Cell.withProperty, OrderedMap.get?_insert, if_neg (by decide),
        ErrorKind.get?_cell_message]
    · rw [own?, hcell, Cell.withProperty, OrderedMap.get?_insert, if_pos rfl, hf, Option.map_some]

end ScriptSandbox
