import ScriptSandbox.Proofs.Machine.Builtin
import ScriptSandbox.Proofs.Respect.Realm
import ScriptSandbox.Proofs.Table

/-! # Builtins on well-formed machines

What builtins put into the heap comes from their arguments or out of the heap.
-/

namespace ScriptSandbox

theorem Heap.WellFormed.isCanonical_of_mem {h : Heap} (hw : h.WellFormed) {r : Ref} {k : Key}
    (hk : k ∈ (h.cell r).properties.ownKeys) : k.IsCanonical := by
  obtain ⟨p, hp⟩ := OrderedMap.mem_keys_iff.1 (PropertyTable.mem_ownKeys_iff.1 hk)
  exact (hw.own? hp).1

namespace Exec

variable {n : Nat} {args : List Value} {this v : Value}

theorem below_argument (ha : ∀ v ∈ args, v.Below n) (i : Nat) : (argument args i).Below n := by
  rw [argument, List.getD_eq_getElem?_getD]
  cases h : args[i]? with
  | none => trivial
  | some v => exact ha v (List.mem_of_getElem? h)

theorem respects_toKey (v : Value) : (toKey v).Respects n fun _ k => k.IsCanonical := by
  refine respects_look fun h _ _ => ?_
  cases v with
  | number x => exact Key.isCanonical_ofNumber x
  | _ => exact Key.isCanonical_ofString _

/-! ### Reflection -/

namespace Reflection

theorem respects_object (ha : ∀ v ∈ args, v.Below n) : (object args).Respects n Any := by
  unfold object
  dsimp only
  split
  · exact respects_createObject.bind_pure _
  · exact (respects_box (below_argument ha 0)).bind_pure _

theorem respects_arrayOfKeys (ks : List Key) : (arrayOfKeys ks).Respects n Any := by
  refine Respects.bind_pure (respects_createArray fun v hv => ?_) _
  obtain ⟨k, -, rfl⟩ := List.mem_map.1 hv
  trivial

theorem respects_keys (ha : ∀ v ∈ args, v.Below n) : (keys args).Respects n Any :=
  (respects_toObject (below_argument ha 0)).seq fun _ _ _ =>
    (still_look _).respects.seq fun ks _ _ => respects_arrayOfKeys ks

theorem respects_getOwnPropertyNames (ha : ∀ v ∈ args, v.Below n) :
    (getOwnPropertyNames args).Respects n Any :=
  (respects_toObject (below_argument ha 0)).seq fun _ _ _ =>
    (still_look _).respects.seq fun ks _ _ => respects_arrayOfKeys ks

theorem respects_ofProperty {p : Property} (hp : p.value.Below n) :
    (ofProperty p).Respects n Exists := by
  refine respects_createObjectFrom fun e he => ?_
  simp only [List.mem_cons, List.not_mem_nil, or_false] at he
  rcases he with rfl | rfl | rfl | rfl
  · exact hp
  · trivial
  · trivial
  · trivial

theorem respects_getOwnPropertyDescriptor (ha : ∀ v ∈ args, v.Below n) :
    (getOwnPropertyDescriptor args).Respects n Any := by
  refine (respects_toObject (below_argument ha 0)).seq fun r _ _ => ?_
  refine (respects_toKey _).seq fun k _ _ => ?_
  refine Respects.bind (Q := fun n p => ∀ q, p = some q → q.value.Below n)
    (respects_look fun h hw _ q hq => (hw.own? hq).2) fun p _ _ hp => ?_
  split
  · exact (respects_ofProperty (hp _ rfl)).bind_pure _
  · exact (still_pure _).respects

theorem below_descriptorOf {h : Heap} (hw : h.WellFormed) (r : Ref) :
    (descriptorOf h r).Below h.size := by
  intro v hv
  obtain ⟨p, hp, rfl⟩ := Option.map_eq_some_iff.1 hv
  exact (hw.find? hp).2

theorem respects_toDescriptor (v : Value) :
    (toDescriptor v).Respects n fun n d => d.Below n := by
  unfold toDescriptor
  split
  · exact respects_look fun h hw _ => below_descriptorOf hw _
  · exact respects_failType _

theorem respects_defineProperty (args : List Value) : (defineProperty args).Respects n Any := by
  unfold defineProperty
  split
  · refine (respects_toKey _).bind fun k _ _ hk => (respects_toDescriptor _).bind fun d _ _ hd => ?_
    exact (respects_define hk hd _).bind_pure _
  · exact respects_failType _

theorem respects_toPrototype (hv : v.Below n) :
    (toPrototype v).Respects n fun n target => ∀ r, target = some r → r.id < n := by
  unfold toPrototype
  split
  · refine respects_pure fun n' hn r hr => ?_
    cases hr
    exact Nat.lt_of_lt_of_le hv hn
  · exact respects_pure fun _ _ _ h => by cases h
  · exact respects_failType _

theorem respects_defineAll (r source : Ref) {ks : List Key} (hks : ∀ k ∈ ks, k.IsCanonical) :
    (defineAll r source ks).Respects n Any := by
  induction ks generalizing n with
  | nil => exact (still_pure _).respects
  | cons k ks ih =>
    refine (still_look _).respects.seq fun v _ _ => (respects_toDescriptor v).bind fun d _ _ hd => ?_
    exact (respects_define (hks k List.mem_cons_self) hd r).seq fun _ _ _ =>
      ih fun j hj => hks j (List.mem_cons_of_mem _ hj)

theorem respects_create (ha : ∀ v ∈ args, v.Below n) : (create args).Respects n Any := by
  refine (respects_toPrototype (below_argument ha 0)).bind fun target n₁ h₁ ht => ?_
  refine (respects_createWithPrototype ht).seq fun r n₂ h₂ => ?_
  dsimp only
  split
  · exact (still_pure _).respects
  · refine (respects_box ((below_argument ha 1).mono (h₁.trans h₂))).seq fun source _ _ => ?_
    refine Respects.bind (Q := fun _ ks => ∀ k ∈ ks, k.IsCanonical)
      (respects_look fun h hw _ k hk => hw.isCanonical_of_mem (List.mem_of_mem_filter hk))
      fun ks _ _ hks => ?_
    exact (respects_defineAll r source hks).bind_pure _

theorem respects_getPrototypeOf (ha : ∀ v ∈ args, v.Below n) :
    (getPrototypeOf args).Respects n Any :=
  (respects_toObject (below_argument ha 0)).seq fun _ _ _ => (still_look _).respects.bind_pure _

theorem respects_relinkTarget (target : Value) {next : Option Ref}
    (hnext : ∀ r, next = some r → r.id < n) :
    (do
      match target with
      | .object r => change (·.relink r next)
      | _ => pure ()
      return target : Exec Value).Respects n Any := by
  split
  · exact (respects_relink hnext _).bind_pure _
  · exact (still_pure _).respects

theorem respects_setPrototypeOf (ha : ∀ v ∈ args, v.Below n) :
    (setPrototypeOf args).Respects n Any := by
  unfold setPrototypeOf
  dsimp only
  split
  · exact (respects_failType (Q := Any) _).seq fun _ _ h =>
      (respects_toPrototype ((below_argument ha 1).mono h)).bind fun next _ _ hnext =>
        respects_relinkTarget _ hnext
  · exact (respects_toPrototype (below_argument ha 1)).bind fun next _ _ hnext =>
      respects_relinkTarget _ hnext

theorem respects_raise (l : Level) (args : List Value) : (raise l args).Respects n Any := by
  unfold raise
  split
  · exact (Exec.respects_raise _ l).bind_pure _
  · exact (still_pure _).respects

theorem respects_hasOwnProperty (hthis : this.Below n) (args : List Value) :
    (hasOwnProperty this args).Respects n Any :=
  (respects_toObject hthis).seq fun _ _ _ => (respects_toKey _).seq fun _ _ _ =>
    (still_look _).respects.bind_pure _

theorem respects_valueOf (hthis : this.Below n) : (valueOf this).Respects n Any :=
  (respects_toObject hthis).bind_pure _

end Reflection

/-! ### Arrays -/

namespace Sequences

theorem respects_array (ha : ∀ v ∈ args, v.Below n) : (array args).Respects n Any := by
  unfold array
  split
  · split
    · exact respects_throw _
    · refine Respects.seq (respects_createArray nofun) fun r _ _ => ?_
      refine still_writeMode.respects.seq fun mode _ _ => ?_
      exact (respects_set (v := .ofNat _) Key.isCanonical_length trivial r mode).discard.bind_pure _
  · exact (respects_createArray ha).bind_pure _

theorem respects_append (r : Ref) (i : Nat) {vs : List Value} (hv : ∀ v ∈ vs, v.Below n) :
    (append r i vs).Respects n Any := by
  induction vs generalizing n i with
  | nil => exact (still_pure i).respects
  | cons v vs ih =>
    refine Respects.seq (respects_set (Key.isCanonical_ofNat i) (hv v List.mem_cons_self) r
      .strict).discard fun _ _ h => ?_
    exact ih _ fun w hw => (hv w (List.mem_cons_of_mem _ hw)).mono h

theorem respects_push (hthis : this.Below n) (ha : ∀ v ∈ args, v.Below n) :
    (push this args).Respects n Any := by
  refine (respects_toObject hthis).seq fun r _ h₁ => (still_look _).respects.seq fun i _ h₂ => ?_
  refine (respects_append r i fun v hv => (ha v hv).mono (h₁.trans h₂)).seq fun i _ _ => ?_
  exact (respects_set (v := .ofNat _) Key.isCanonical_length trivial r .strict).discard.bind_pure _

end Sequences

/-! ### Boxes -/

namespace Boxes

theorem respects_finish (hv : v.Below n) (this : Value) (target : Ref) :
    (finish this target v).Respects n Any := by
  refine (still_look _).respects.seq fun fresh _ h => ?_
  split
  · exact (respects_box (hv.mono h)).bind_pure _
  · exact (still_pure v).respects

theorem respects_string (this : Value) (args : List Value) : (string this args).Respects n Any := by
  have hfinish : ∀ s n,
      (do finish this (← intrinsics).stringPrototype (.string s) : Exec Value).Respects n Any :=
    fun s _ => still_intrinsics.respects.seq fun own _ _ =>
      respects_finish (v := .string s) trivial _ _
  unfold string
  split
  · exact (still_text _).respects.seq fun s n _ => hfinish s n
  · exact hfinish "" n

theorem respects_number (this : Value) (args : List Value) : (number this args).Respects n Any := by
  have hfinish : ∀ x n,
      (do finish this (← intrinsics).numberPrototype (.number x) : Exec Value).Respects n Any :=
    fun x _ => still_intrinsics.respects.seq fun own _ _ =>
      respects_finish (v := .number x) trivial _ _
  unfold number
  split
  · exact (still_look _).respects.seq fun x n _ => hfinish x n
  · exact hfinish .zero n

theorem respects_boolean (this : Value) (args : List Value) :
    (boolean this args).Respects n Any :=
  still_intrinsics.respects.seq fun _ _ _ => respects_finish (v := .boolean _) trivial _ _

end Boxes

/-! ### Errors and host types -/

theorem Errors.respects_construct (kind : ErrorKind) (args : List Value) :
    (construct kind args).Respects n Any := by
  have hcreate : ∀ message n,
      (do return .object (← createError kind message) : Exec Value).Respects n Any :=
    fun message _ => (respects_createError kind message).bind_pure _
  unfold construct
  split
  · exact hcreate "" n
  · exact (still_text _).respects.seq fun message n _ => hcreate message n

namespace Interop

theorem respects_hostType (args : List Value) : (hostType args).Respects n Any := by
  unfold hostType
  split
  · exact (respects_resolveType _).bind_pure _
  · exact (still_text _).respects.seq fun _ _ _ => respects_failType _

theorem respects_importPackages (args : List Value) : (importPackages args).Respects n Any := by
  induction args generalizing n with
  | nil => exact (still_pure _).respects
  | cons v vs ih =>
    refine (still_look _).respects.seq fun path _ _ => ?_
    split
    · exact (respects_importPackage _).seq fun _ _ _ => ih
    · exact (still_text v).respects.seq fun _ _ _ =>
        (respects_failType (Q := Any) _).seq fun _ _ _ => ih

theorem respects_importClasses (ha : ∀ v ∈ args, v.Below n) :
    (importClasses args).Respects n Any := by
  induction args generalizing n with
  | nil => exact (still_pure _).respects
  | cons v vs ih =>
    exact (respects_importClass (ha v List.mem_cons_self)).seq fun _ _ h =>
      ih fun w hw => (ha w (List.mem_cons_of_mem _ hw)).mono h

end Interop

theorem respects_runBuiltin (b : Builtin) (hthis : this.Below n) (ha : ∀ v ∈ args, v.Below n) :
    (runBuiltin b this args).Respects n Any := by
  cases b with
  | object => exact Reflection.respects_object ha
  | keys => exact Reflection.respects_keys ha
  | getOwnPropertyNames => exact Reflection.respects_getOwnPropertyNames ha
  | getOwnPropertyDescriptor => exact Reflection.respects_getOwnPropertyDescriptor ha
  | defineProperty => exact Reflection.respects_defineProperty args
  | create => exact Reflection.respects_create ha
  | getPrototypeOf => exact Reflection.respects_getPrototypeOf ha
  | setPrototypeOf => exact Reflection.respects_setPrototypeOf ha
  | freeze | «seal» | preventExtensions => exact Reflection.respects_raise _ args
  | isFrozen | isSealed => exact (Reflection.still_hasLevel _ args).respects
  | isExtensible => exact (Reflection.still_isExtensible args).respects
  | hasOwnProperty => exact Reflection.respects_hasOwnProperty hthis args
  | toString => exact (Reflection.still_toString this).respects
  | valueOf => exact Reflection.respects_valueOf hthis
  | array => exact Sequences.respects_array ha
  | isArray => exact (Sequences.still_isArray args).respects
  | push => exact Sequences.respects_push hthis ha
  | string => exact Boxes.respects_string this args
  | stringValue => exact (Boxes.still_stringValue this).respects
  | number => exact Boxes.respects_number this args
  | numberValue => exact (Boxes.still_numberValue this).respects
  | boolean => exact Boxes.respects_boolean this args
  | booleanValue => exact (Boxes.still_booleanValue this).respects
  | error kind => exact Errors.respects_construct kind args
  | errorText => exact (Errors.still_toString this).respects
  | hostType => exact Interop.respects_hostType args
  | isHostType => exact (Interop.still_isHostType args).respects
  | hostTypeName => exact (Interop.still_hostTypeName args).respects
  | importPackage => exact Interop.respects_importPackages args
  | importClass => exact Interop.respects_importClasses ha

end Exec

end ScriptSandbox
