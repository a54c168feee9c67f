import ScriptSandbox.Proofs.Heap.TextBox
import ScriptSandbox.Proofs.Machine.Failure
import ScriptSandbox.Proofs.Machine.Member

/-! # Habits of machines

A habit is a relation of machines before and after that composes, and that every single thing a
realm does respects: a step that makes no object and keeps none, a new object that is no type object,
and a type object that is made and kept at once. Whatever a realm does then respects it, and one has
to look only at these to know what holds of all operations.
-/

namespace ScriptSandbox

/-- What a new cell is, but for that of a type object. A box of a text has the properties for it. -/
structure Cell.IsInitial (c : Cell) : Prop where
  level : c.level = .extensible
  hostType : c.kind.hostType? = none
  text : ∀ {s}, c.kind = .string s → c.properties = textTable s

theorem Failure.isInitial_cell (f : Failure) (target : Ref) (message : String) :
    (f.cell target message).IsInitial := by
  unfold cell
  split <;> exact ⟨rfl, rfl, nofun⟩

namespace Machine

structure IsHabit (R : Machine → Machine → Prop) : Prop where
  refl : ∀ m, R m m
  trans : ∀ {m m' m''}, R m m' → R m' m'' → R m m''
  quiet : ∀ {m m'}, Step ∅ m.heap.size m m' → m'.heap.size = m.heap.size →
    m'.realm.typeObjects = m.realm.typeObjects → R m m'
  make : ∀ m {c : Cell}, c.IsInitial → R m (m.withHeap (m.heap.alloc c).2)
  enroll : ∀ {m c}, m.LetsThrough c → m.realm.typeObjects.get? c.name = none → R m (m.enroll c)

end Machine

namespace Exec

open Machine

variable {α β : Type} {R : Machine → Machine → Prop} {x : Exec α} {f : α → Exec β} {m : Machine}

/-- However the computation ends, it leaves a machine that is related to the one before. -/
def Follows (R : Machine → Machine → Prop) (x : Exec α) : Prop := ∀ m, R m (x.final m)

variable (hR : IsHabit R)

include hR

theorem Follows.bind (hx : x.Follows R) (hf : ∀ a, (f a).Follows R) : (x >>= f).Follows R :=
  fun m => related_bind hR.trans (hx m) fun a m' _ => hf a m'

theorem Still.follows (h : x.Still) : x.Follows R := fun m => by
  rw [h m]
  exact hR.refl m

/-- Reading something and going on. -/
theorem Still.bind_follows (hx : x.Still) (hf : ∀ a, (f a).Follows R) : (x >>= f).Follows R :=
  (hx.follows hR).bind hR hf

theorem Follows.bind_pure (hx : x.Follows R) (g : α → β) :
    (x >>= fun a => pure (g a)).Follows R :=
  hx.bind hR fun a => (still_pure (g a)).follows hR

omit hR in
theorem Follows.discard (hx : x.Follows R) : (discard x).Follows R := fun m => by
  rw [final_discard]
  exact hx m

/-! ### Changes of objects -/

theorem follows_change {g : Heap → Except Failure α × Heap}
    (hstep : ∀ m : Machine, Step ∅ m.heap.size m (m.withHeap (g m.heap).2))
    (hsize : ∀ h, (g h).2.size = h.size) : (change g).Follows R := fun m => by
  rw [final_change]
  exact hR.quiet (hstep m) (hsize m.heap) rfl

theorem follows_set (r : Ref) (k : Key) (v : Value) (mode : WriteMode) :
    (change (·.set r k v mode)).Follows R :=
  follows_change hR (fun m => .assign m r k v) fun h => h.size_assign r k v

theorem follows_delete (r : Ref) (k : Key) (mode : WriteMode) :
    (change (·.delete r k mode)).Follows R :=
  follows_change hR (fun m => .delete m r k) fun h => h.size_changeCell r (·.delete k)

theorem follows_define (r : Ref) (k : Key) (d : Descriptor) :
    (change (·.define r k d)).Follows R :=
  follows_change hR (fun m => .define m r k d) fun h => h.size_changeCell r _

theorem follows_relink (r : Ref) (target : Option Ref) : (change (·.relink r target)).Follows R :=
  follows_change hR (fun m => .relink m r target) fun h => h.size_relink r target

theorem follows_raise (r : Ref) (l : Level) : (modifyCell r (·.raise l)).Follows R := fun m =>
  hR.quiet (.raise m r l) (Heap.size_put _ _ _) rfl

/-! ### New objects -/

theorem follows_alloc {c : Cell} (hc : c.IsInitial) : (alloc c).Follows R := fun m => hR.make m hc

theorem follows_createObject : createObject.Follows R :=
  still_intrinsics.bind_follows hR fun _ => follows_alloc hR ⟨rfl, rfl, nofun⟩

theorem follows_createWithPrototype (target : Option Ref) :
    (createWithPrototype target).Follows R :=
  follows_alloc hR ⟨rfl, rfl, nofun⟩

theorem follows_createObjectFrom (entries : List (String × Value)) :
    (createObjectFrom entries).Follows R :=
  still_intrinsics.bind_follows hR fun _ => follows_alloc hR ⟨rfl, rfl, nofun⟩

theorem follows_createArray (elements : List Value) : (createArray elements).Follows R :=
  still_intrinsics.bind_follows hR fun _ => follows_alloc hR ⟨rfl, rfl, nofun⟩

theorem follows_createArguments (elements : List Value) : (createArguments elements).Follows R :=
  still_intrinsics.bind_follows hR fun _ => follows_alloc hR ⟨rfl, rfl, nofun⟩

theorem follows_createFunction (name : String) (routine : Routine) (arity : Nat) :
    (createFunction name routine arity).Follows R :=
  still_intrinsics.bind_follows hR fun _ => follows_alloc hR ⟨rfl, rfl, nofun⟩

theorem follows_createPackage (path : String) : (createPackage path).Follows R :=
  still_intrinsics.bind_follows hR fun _ => follows_alloc hR ⟨rfl, rfl, nofun⟩

theorem follows_createError (kind : ErrorKind) (message : String) :
    (createError kind message).Follows R :=
  still_intrinsics.bind_follows hR fun _ => follows_alloc hR ⟨rfl, rfl, nofun⟩

theorem follows_createFailure (f : Failure) : (createFailure f).Follows R := fun m => by
  rw [final_of_ok (createFailure_apply m f)]
  exact hR.make m (f.isInitial_cell _ _)

theorem follows_caught (f : Failure) : (caught f).Follows R := by
  unfold caught
  split
  · exact (still_pure _).follows hR
  · exact (follows_createFailure hR _).bind_pure hR _

theorem follows_box (v : Value) : (box v).Follows R := by
  cases v with
  | object r => exact (still_pure r).follows hR
  | string s =>
    refine still_intrinsics.bind_follows hR fun _ => follows_alloc hR ⟨rfl, rfl, ?_⟩
    rintro _ ⟨⟩
    rfl
  | number _ | boolean _ =>
    exact still_intrinsics.bind_follows hR fun _ => follows_alloc hR ⟨rfl, rfl, nofun⟩
  | undefined | null => exact follows_createObject hR

theorem follows_toObject (v : Value) : (toObject v).Follows R := by
  unfold toObject
  split
  · exact (still_failType _).follows hR
  · exact follows_box hR v

/-! ### Host types -/

theorem follows_resolveClass (name : String) : (resolveClass name).Follows R := fun m => by
  cases h : m.realm.gate.resolve m.policy name with
  | ok c =>
    rw [final_of_ok (resolveClass_of_ok h)]
    exact hR.quiet (.remember h) rfl rfl
  | error f =>
    rw [final, resolveClass_of_error h]
    exact hR.refl m

theorem follows_resolveType (name : String) : (resolveType name).Follows R := fun m => by
  refine related_bind hR.trans (follows_resolveClass hR name m) fun c m' h => ?_
  rw [final_typeObject]
  split
  · rename_i hnone
    exact hR.enroll (letsThrough_of_resolveClass h) hnone
  · exact hR.refl m'

theorem follows_packageMember (path : String) (k : Key) : (packageMember path k).Follows R := by
  cases k with
  | index i => exact (still_pure _).follows hR
  | name member =>
    have hpackage : ∀ q, (do return .object (← createPackage q) : Exec Value).Follows R :=
      fun q => (follows_createPackage hR q).bind_pure hR _
    simp only [packageMember]
    split
    · refine still_get.bind_follows hR fun m => ?_
      split
      · split
        · exact (still_throw _).bind_follows hR fun _ => hpackage _
        · exact hpackage _
      · split
        · exact hpackage _
        · exact (follows_resolveType hR _).bind_pure hR _
    · exact (still_pure _).follows hR

/-! ### Members -/

theorem follows_getOf (r : Ref) (k : Key) : (getOf r k).Follows R := by
  refine (still_look _).bind_follows hR fun kind => ?_
  split
  · exact follows_packageMember hR _ k
  · exact (still_look _).follows hR

theorem follows_getMember (target : Value) (k : Key) : (getMember target k).Follows R := by
  unfold getMember
  split
  · exact (still_failType _).follows hR
  · exact (still_failType _).follows hR
  · exact follows_getOf hR _ k
  · exact (follows_box hR _).bind hR fun r => (still_look _).follows hR

theorem follows_setMember (target : Value) (k : Key) (v : Value) :
    (setMember target k v).Follows R := by
  refine still_writeMode.bind_follows hR fun mode => ?_
  split
  · exact (still_failType _).follows hR
  · exact (still_failType _).follows hR
  · refine (still_look _).bind_follows hR fun kind => ?_
    split
    · exact (still_ofExcept _).follows hR
    · exact follows_set hR _ k v mode
  · exact (still_ofExcept _).follows hR

theorem follows_deleteMember (target : Value) (k : Key) : (deleteMember target k).Follows R := by
  unfold deleteMember
  split
  · exact (still_failType _).follows hR
  · refine (follows_box hR target).bind hR fun r => still_writeMode.bind_follows hR fun mode => ?_
    exact follows_delete hR r k mode

theorem follows_walkOver (target : Value) : (walkOver target).Follows R := by
  unfold walkOver
  split
  · exact (still_pure _).follows hR
  · exact (follows_box hR target).bind_pure hR _

/-! ### Free names -/

theorem follows_setGlobal (name : String) (v : Value) : (setGlobal name v).Follows R :=
  still_writeMode.bind_follows hR fun mode => still_intrinsics.bind_follows hR fun own =>
    follows_set hR own.global (.ofString name) v mode

theorem follows_findImported (name : String) (packages : List String) :
    (findImported name packages).Follows R := by
  induction packages with
  | nil => exact (still_throw _).follows hR
  | cons package rest ih =>
    refine still_get.bind_follows hR fun m => ?_
    split
    · split
      · exact ih
      · exact (still_throw _).follows hR
    · exact (follows_resolveType hR _).bind_pure hR _

theorem follows_getGlobal (name : String) : (getGlobal name).Follows R := by
  refine still_intrinsics.bind_follows hR fun own => (still_look _).bind_follows hR fun p => ?_
  split
  · exact (still_pure _).follows hR
  · exact still_realm.bind_follows hR fun realm => follows_findImported hR name realm.imports

theorem follows_importPackage (name : String) : (importPackage name).Follows R := fun m => by
  unfold importPackage
  cases hn : TypeName.check name with
  | error f => exact hR.refl m
  | ok u =>
    refine related_bind hR.trans (hR.refl m) fun _ m' h => ?_
    cases h
    rw [final_modifyRealm]
    by_cases hi : name ∈ m.realm.imports
    · rw [if_pos hi]
      exact hR.refl m
    · rw [if_neg hi]
      exact hR.quiet (.importPackage hn hi) rfl rfl

theorem follows_importClass (v : Value) : (importClass v).Follows R := by
  refine (still_hostTypeOf? v).bind_follows hR fun c => ?_
  split
  · exact ((still_text v).bind fun _ => still_failType _).follows hR
  · exact (follows_setGlobal hR _ v).discard

end Exec

end ScriptSandbox
