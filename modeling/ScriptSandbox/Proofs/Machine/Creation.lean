import ScriptSandbox.Proofs.Machine.Furnish

/-! # Creating objects as paths

Creating an object is a traced computation, but for an array of too many elements, which is
oversized.
-/

namespace ScriptSandbox.Exec

variable {m : Machine}

theorem traced_alloc_of_isPlain {c : Cell} (hl : c.level = .extensible) (hk : c.kind.IsPlain) :
    (alloc c).Traced :=
  traced_alloc fun _ => .of_isPlain hl hk

theorem traced_createObject : createObject.Traced :=
  still_intrinsics.traced.bind fun _ => traced_alloc_of_isPlain rfl trivial

theorem traced_createWithPrototype (target : Option Ref) : (createWithPrototype target).Traced :=
  traced_alloc_of_isPlain rfl trivial

theorem traced_createObjectFrom (entries : List (String × Value)) :
    (createObjectFrom entries).Traced :=
  still_intrinsics.traced.bind fun _ => traced_alloc_of_isPlain rfl trivial

theorem traced_createArguments (elements : List Value) : (createArguments elements).Traced :=
  still_intrinsics.traced.bind fun _ => traced_alloc_of_isPlain rfl trivial

theorem traced_createFunction (name : String) (routine : Routine) (arity : Nat) :
    (createFunction name routine arity).Traced := fun _ =>
  (furnishes_createFunction (Nat.le_refl _) name routine arity).path

theorem traced_createPackage (path : String) : (createPackage path).Traced := fun _ =>
  (furnishes_createPackage (Nat.le_refl _) path).path

theorem traced_createError (kind : ErrorKind) (message : String) :
    (createError kind message).Traced := fun _ =>
  (furnishes_createError (Nat.le_refl _) kind message).path

theorem traced_caught (f : Failure) : (caught f).Traced := by
  unfold caught
  split
  · exact (still_pure _).traced
  · exact Traced.bind_pure (fun _ => (furnishes_createFailure (Nat.le_refl _) _).path) _

theorem traced_boxString (s : String) : (boxString s).Traced :=
  still_intrinsics.traced.bind fun _ => traced_alloc fun _ => .of_primitive? rfl rfl

theorem traced_box (v : Value) : (box v).Traced := by
  cases v with
  | object r => exact (still_pure r).traced
  | string s => exact traced_boxString s
  | number _ | boolean _ =>
    exact still_intrinsics.traced.bind fun _ => traced_alloc fun _ => .of_primitive? rfl rfl
  | undefined | null => exact traced_createObject

theorem traced_toObject (v : Value) : (toObject v).Traced := by
  unfold toObject
  split
  · exact (still_failType _).traced
  · exact traced_box v

/-! ### Arrays -/

theorem path_createArray {long : Set Ref} {elements : List Value} (m : Machine)
    (hn : ⟨m.heap.size⟩ ∉ long → elements.length ≤ maxLength) :
    Machine.Path long m.heap.size m ((createArray elements).final m) :=
  .single <| .alloc {
    level := rfl
    array := fun _ => ⟨elements, rfl, hn⟩
    hostType := fun h => by cases h
    hostInstance := fun h => by cases h }

theorem traced_createArray {elements : List Value} (hn : elements.length ≤ maxLength) :
    (createArray elements).Traced := fun m =>
  path_createArray m fun _ => hn

theorem fitted_createArray (elements : List Value) : (createArray elements).Fitted := fun m =>
  path_createArray m fun h => Heap.length_le_of_not_mem_oversized (h := m.heap) rfl rfl h

end ScriptSandbox.Exec
