import ScriptSandbox.Proofs.Respect.Basic

/-! # Creating objects on well-formed machines

New objects inherit from objects of the heap and hold values of it, under canonical keys.
-/

namespace ScriptSandbox

variable {n : Nat}

theorem Cell.Below.of_prototype {c : Cell} {r : Ref} (hp : c.prototype = some r) (hr : r.id < n)
    (hc : c.properties.Below n) : c.Below n where
  prototype s hs := by
    rw [hp, Option.some.injEq] at hs
    exact hs ▸ hr
  properties := hc

namespace Exec

theorem below_elementTable {elements : List Property} {length : Property}
    (he : ∀ p ∈ elements, p.value.Below n) (hl : length.value.Below n) :
    (elementTable elements length).Below n := by
  refine PropertyTable.below_empty.insertAll fun e hmem => ?_
  rcases List.mem_append.1 hmem with hmem | hmem
  · obtain ⟨⟨p, i⟩, hp, rfl⟩ := List.mem_map.1 hmem
    exact ⟨Key.isCanonical_ofNat _, he p (List.fst_mem_of_mem_zipIdx hp)⟩
  · cases List.mem_singleton.1 hmem
    exact ⟨Key.isCanonical_length, hl⟩

/-- Making an object that inherits from one of the realm. -/
theorem respects_make {c : Intrinsics → Cell}
    (hc : ∀ own n', n ≤ n' → own.Below n' → (c own).Below n') :
    (intrinsics >>= fun own => alloc (c own)).Respects n Exists :=
  respects_intrinsics.bind fun own n' hn hown => respects_alloc (hc own n' hn hown)

theorem respects_createObject : createObject.Respects n Exists :=
  respects_make fun _ _ _ hown =>
    .of_prototype rfl hown.objectPrototype PropertyTable.below_empty

theorem respects_createWithPrototype {target : Option Ref}
    (ht : ∀ r, target = some r → r.id < n) : (createWithPrototype target).Respects n Exists :=
  respects_alloc ⟨ht, PropertyTable.below_empty⟩

theorem respects_createObjectFrom {entries : List (String × Value)}
    (he : ∀ e ∈ entries, e.2.Below n) : (createObjectFrom entries).Respects n Exists := by
  refine respects_make fun own n' hn hown => .of_prototype rfl hown.objectPrototype ?_
  refine PropertyTable.below_empty.insertAll fun e hmem => ?_
  obtain ⟨entry, hentry, rfl⟩ := List.mem_map.1 hmem
  exact ⟨Key.isCanonical_ofString _, (he entry hentry).mono hn⟩

theorem respects_createArray {elements : List Value} (he : ∀ v ∈ elements, v.Below n) :
    (createArray elements).Respects n Exists := by
  refine respects_make fun own n' hn hown => .of_prototype rfl hown.arrayPrototype ?_
  refine below_elementTable (fun p hp => ?_) trivial
  obtain ⟨v, hv, rfl⟩ := List.mem_map.1 hp
  exact (he v hv).mono hn

theorem respects_createArguments {elements : List Value} (he : ∀ v ∈ elements, v.Below n) :
    (createArguments elements).Respects n Exists := by
  refine respects_make fun own n' hn hown => .of_prototype rfl hown.objectPrototype ?_
  refine below_elementTable (fun p hp => ?_) trivial
  obtain ⟨v, hv, rfl⟩ := List.mem_map.1 hp
  exact (he v hv).mono hn

theorem respects_createFunction (name : String) (routine : Routine) (arity : Nat) :
    (createFunction name routine arity).Respects n Exists := by
  refine respects_make fun own n' _ hown => .of_prototype rfl hown.functionPrototype ?_
  refine PropertyTable.below_empty.insertAll fun e hmem => ?_
  rcases List.mem_pair.1 hmem with rfl | rfl
  · exact ⟨show (Key.name "name").IsCanonical by decide, trivial⟩
  · exact ⟨Key.isCanonical_length, trivial⟩

theorem respects_registerMethod (r : Ref) (name : String) (routine : Routine) (arity : Nat) :
    (registerMethod r name routine arity).Respects n Any :=
  (respects_createFunction name routine arity).bind fun _ _ _ hf =>
    respects_furnish (p := .hidden (.object _)) (Key.isCanonical_ofString _) hf r

theorem respects_createPackage (path : String) : (createPackage path).Respects n Exists :=
  respects_make fun _ _ _ hown =>
    .of_prototype rfl hown.objectPrototype PropertyTable.below_empty

theorem respects_boxString (s : String) : (boxString s).Respects n Exists := by
  refine respects_make fun own n' _ hown => .of_prototype rfl hown.stringPrototype ?_
  refine below_elementTable (fun p hp => ?_) trivial
  obtain ⟨c, -, rfl⟩ := List.mem_map.1 hp
  trivial

theorem respects_box {v : Value} (hv : v.Below n) : (box v).Respects n Exists := by
  cases v with
  | object r => exact respects_pure fun n' hn => Nat.lt_of_lt_of_le hv hn
  | string s => exact respects_boxString s
  | number x =>
    exact respects_make fun _ _ _ hown =>
      .of_prototype rfl hown.numberPrototype PropertyTable.below_empty
  | boolean b =>
    exact respects_make fun _ _ _ hown =>
      .of_prototype rfl hown.booleanPrototype PropertyTable.below_empty
  | undefined | null => exact respects_createObject

theorem respects_toObject {v : Value} (hv : v.Below n) : (toObject v).Respects n Exists := by
  unfold toObject
  split
  · exact respects_failType _
  · exact respects_box hv

theorem respects_createError (kind : ErrorKind) (message : String) :
    (createError kind message).Respects n Exists := by
  refine respects_make fun own n' _ hown => .of_prototype rfl (hown.errorPrototype kind) ?_
  have hnamed : PropertyTable.Below n' (PropertyTable.insertAll .empty
      [(.name "name", .hidden (.string kind.name))]) := by
    refine PropertyTable.below_empty.insertAll fun e hmem => ?_
    cases List.mem_singleton.1 hmem
    exact ⟨show (Key.name "name").IsCanonical by decide, trivial⟩
  dsimp only
  split
  · exact hnamed
  · exact hnamed.insert ⟨by decide, trivial⟩

theorem respects_createFailure (f : Failure) : (createFailure f).Respects n Exists := by
  refine (still_look _).respects.seq fun message n' _ => ?_
  refine (respects_createError f.kind message).bind fun r n' _ hr => ?_
  cases f.typeName? with
  | some name =>
    have hk : (Key.name "typeName").IsCanonical := by decide
    exact (respects_furnish (p := .hidden (.string name)) hk trivial r).seq fun _ _ hn =>
      respects_pure fun _ hn' => hr.trans_le (hn.trans hn')
  | none => exact respects_pure fun _ hn => hr.trans_le hn

theorem respects_caught (f : Failure) : (caught f).Respects n Any := by
  unfold caught
  split
  · exact (still_pure _).respects
  · exact (respects_createFailure _).bind_pure _

end Exec

end ScriptSandbox
