import ScriptSandbox.Proofs.World.HostTypes

/-! # Resolving names of host types

What a realm answers for a name follows from the classes it was made over and the policy in force.
Which names were resolved, refused or missing before, in this realm or another one under the same
policy, makes no difference.
-/

namespace ScriptSandbox

/-- The answer for a name by a policy and a catalog, with nothing remembered. -/
def Catalog.answer (catalog : Catalog) (p : Policy) (name : String) : Except Failure HostClass :=
  if name = "" then .error (.type .emptyTypeName)
  else if ¬TypeName.isValid name then .error (.type (.invalidTypeName name))
  else if p.check name ≠ .allowed then .error (.accessDenied name)
  else
    match catalog.get? name with
    | some c => .ok c
    | none => .error (.notFound name)

theorem Gate.Sound.resolve_eq_answer {g : Gate} (hg : g.Sound) (p : Policy) (name : String) :
    g.resolve p name = g.catalog.answer p name := by
  unfold resolve TypeName.check Catalog.answer
  rw [hg.find?_eq_catalog]
  by_cases hempty : name = ""
  · simp [hempty, bind, Except.bind]
  by_cases hvalid : TypeName.isValid name
  · by_cases hp : p.check name = .allowed
    · cases g.catalog.get? name <;> simp [hempty, hvalid, hp, Policy.allows, bind, Except.bind]
    · simp [hempty, hvalid, hp, Policy.allows, bind, Except.bind]
  · simp [hempty, hvalid, bind, Except.bind]

namespace Event

def isOperation : Event → Bool
  | perform _ _ => true
  | _ => false

/-- What a new realm is made over: its classes and the place of its policy. -/
def realm? : Event → Option (List HostClass × Nat)
  | addRealm _ classes place => some (classes, place)
  | _ => none

end Event

namespace World

variable {w : World} {history : List Event} {i place : Nat} {m : Machine}

/-- What the gate of a realm answers for a name, if there is the realm. -/
def resolve? (w : World) (i : Nat) (name : String) : Option (Except Failure HostClass) :=
  (w.run i (Exec.resolveClass name)).map Prod.fst

theorem resolve?_of_some (h : w.machine? i = some (m, place)) (name : String) :
    w.resolve? i name = some (m.realm.gate.resolve m.policy name) := by
  obtain ⟨hheap, hr, hp⟩ := machine?_eq_some_iff.1 h
  have hm : ({ heap := w.heap, realm := m.realm, policy := m.policy } : Machine) = m := by
    rw [← hheap]
  unfold resolve? run
  simp only [hr, hp, hm, Option.bind_eq_bind, Option.bind_some]
  cases hres : m.realm.gate.resolve m.policy name with
  | ok c =>
    rw [Exec.resolveClass_of_ok hres]
    rfl
  | error f =>
    rw [Exec.resolveClass_of_error hres]
    rfl

/-! ### What operations leave alone -/

theorem policies_perform (w : World) (i : Nat) (op : Operation) :
    (w.perform i op).policies = w.policies := by
  cases h : w.machine? i with
  | none => rw [perform_of_none h]
  | some e =>
    obtain ⟨m, place⟩ := e
    obtain ⟨-, -, hp⟩ := machine?_eq_some_iff.1 h
    rw [perform_of_some h, store, Machine.Path.policy_eq (op.fitted_exec m)]
    exact setIfInBounds_of_getElem? hp

theorem policies_addRealm (w : World) (settings : Settings) (catalog : Catalog) (place : Nat) :
    (w.addRealm settings catalog place).2.policies = w.policies := by
  obtain ⟨m', -, h⟩ := w.addRealm_spec settings catalog place
  rw [h]

theorem policies_apply_of_isOperation {e : Event} (he : e.isOperation) (w : World) :
    (w.apply e).policies = w.policies := by
  cases e with
  | perform i op => exact w.policies_perform i op
  | updatePolicy _ _ | addPolicy _ | addRealm _ _ _ => cases he

theorem policies_apply_congr {w' : World} (h : w.policies = w'.policies) (e : Event) :
    (w.apply e).policies = (w'.apply e).policies := by
  cases e with
  | perform i op => rw [apply, apply, policies_perform, policies_perform, h]
  | updatePolicy place f => rw [apply, apply, h]
  | addPolicy p => rw [apply, apply, addPolicy, addPolicy, h]
  | addRealm settings classes place =>
    rw [apply, apply, policies_addRealm, policies_addRealm, h]

/-- The policies of a world come from the events that are no operations. -/
theorem policies_after (history : List Event) :
    (after history).policies = (after (history.filter (!·.isOperation))).policies := by
  induction history using List.reverseRecOn with
  | nil => rfl
  | append_singleton history e ih =>
    rw [List.filter_append, after_concat]
    by_cases he : e.isOperation
    · have hnone : [e].filter (!·.isOperation) = [] := by simp [he]
      rw [hnone, List.append_nil, policies_apply_of_isOperation he, ih]
    · have hself : [e].filter (!·.isOperation) = [e] := by simp [he]
      rw [hself, after_concat, policies_apply_congr ih]

/-- The catalog of a realm and the place of its policy. -/
def setting (e : Realm × Nat) : Catalog × Nat := (e.1.gate.catalog, e.2)

theorem settings_perform (hw : w.Gated) (i : Nat) (op : Operation) :
    (w.perform i op).realms.toList.map setting = w.realms.toList.map setting := by
  cases h : w.machine? i with
  | none => rw [perform_of_none h]
  | some e =>
    obtain ⟨m, place⟩ := e
    obtain ⟨-, hr, -⟩ := machine?_eq_some_iff.1 h
    have hcatalog := (Machine.Path.gate (op.fitted_exec m) (hw.gate h)).2.catalog
    have hsame : setting ((op.exec.final m).realm, place) = setting (m.realm, place) := by
      rw [setting, setting, hcatalog]
    rw [perform_of_some h, store, Array.toList_setIfInBounds, List.map_set, hsame, ← List.map_set,
      ← Array.toList_setIfInBounds, setIfInBounds_of_getElem? hr]

/-- The realms of a world are those that its history makes, over the classes they were given. -/
theorem settings_after (history : List Event) :
    (after history).realms.toList.map setting =
      (history.filterMap Event.realm?).map fun e => (Catalog.ofList e.1, e.2) := by
  induction history using List.reverseRecOn with
  | nil => rfl
  | append_singleton history e ih =>
    rw [after_concat, List.filterMap_append, List.map_append, ← ih]
    cases e with
    | perform i op =>
      have hnone : [Event.perform i op].filterMap Event.realm? = [] := rfl
      rw [hnone, List.map_nil, List.append_nil, apply, settings_perform (gated_after history)]
    | updatePolicy place f => exact (List.append_nil _).symm
    | addPolicy p => exact (List.append_nil _).symm
    | addRealm settings classes place =>
      have hsome : [Event.addRealm settings classes place].filterMap Event.realm? =
        [(classes, place)] := rfl
      obtain ⟨m', -, h⟩ := (after history).addRealm_spec settings (.ofList classes) place
      rw [hsome, apply, h, Array.toList_push, List.map_append]
      rfl

/-! ### Answers -/

/-- The answer of a realm by its classes and the policy in force alone. -/
theorem resolve?_eq_answer (history : List Event) (i : Nat) (name : String) :
    (after history).resolve? i name = do
      let (classes, place) ← (history.filterMap Event.realm?)[i]?
      let p ← (after history).policies[place]?
      return (Catalog.ofList classes).answer p name := by
  have hset := congrArg (·[i]?) (settings_after history)
  simp only [List.getElem?_map, Array.getElem?_toList] at hset
  cases hm : (history.filterMap Event.realm?)[i]? with
  | none =>
    rw [hm, Option.map_none, Option.map_eq_none_iff] at hset
    rw [resolve?, run_of_none (by simp [machine?, hset])]
    rfl
  | some e =>
    obtain ⟨classes, place⟩ := e
    rw [hm, Option.map_some, Option.map_eq_some_iff] at hset
    obtain ⟨⟨realm, place'⟩, hr, hs⟩ := hset
    simp only [setting, Prod.mk.injEq] at hs
    obtain ⟨hcatalog, hplace⟩ := hs
    subst hplace
    cases hp : (after history).policies[place']? with
    | none =>
      rw [resolve?, run_of_none (by simp [machine?, hr, hp])]
      simp [hp]
    | some p =>
      have h : (after history).machine? i = some (⟨(after history).heap, realm, p⟩, place') :=
        machine?_eq_some_iff.2 ⟨rfl, hr, hp⟩
      rw [resolve?_of_some h, (Gated.gate (gated_after history) h).resolve_eq_answer, hcatalog]
      simp [hp]

theorem filterMap_realm?_filter (history : List Event) :
    (history.filter (!·.isOperation)).filterMap Event.realm? =
      history.filterMap Event.realm? := by
  rw [List.filterMap_filter]
  congr 1
  funext e
  cases e <;> rfl

/-- The answer stays the same all along an operation. -/
theorem resolve_eq_of_path (hw : w.Gated) (h : w.machine? i = some (m, place)) {long : Set Ref}
    {base : Nat} {m' : Machine} (hp : Machine.Path long base m m') (name : String) :
    w.resolve? i name = some (m'.realm.gate.resolve m'.policy name) := by
  obtain ⟨hg', he⟩ := Machine.Path.gate hp (hw.gate h)
  rw [resolve?_of_some h, (hw.gate h).resolve_eq_answer, hg'.resolve_eq_answer, he.catalog,
    Machine.Path.policy_eq hp]

/-- What a realm answers for a name is the answer of its classes under the policy in force. It is the
same as if no operation had come before, and stays the same within an operation. Whatever a gate
remembers stands under its own name. -/
theorem resolve?_after (history : List Event) (i : Nat) (name : String) :
    ((after history).resolve? i name = do
      let (classes, place) ← (history.filterMap Event.realm?)[i]?
      let p ← (after history).policies[place]?
      return (Catalog.ofList classes).answer p name) ∧
    (after history).resolve? i name =
      (after (history.filter (!·.isOperation))).resolve? i name ∧
    (∀ m place long base m', (after history).machine? i = some (m, place) →
      Machine.Path long base m m' →
      (after history).resolve? i name = some (m'.realm.gate.resolve m'.policy name)) ∧
    ∀ realm place n c, (after history).realms[i]? = some (realm, place) →
      realm.gate.resolved.get? n = some c → c.name = n := by
  refine ⟨resolve?_eq_answer history i name, ?_, fun m place long base m' h hp => ?_,
    fun realm place n c hr hc => ?_⟩
  · rw [resolve?_eq_answer, resolve?_eq_answer, filterMap_realm?_filter, ← policies_after]
  · exact resolve_eq_of_path (gated_after history) h hp name
  · have hg := gated_after history hr
    exact hg.named n c (hg.kept hc)

/-- Two realms under one policy. The first resolves a class, the policy then closes its package, and
the second asks for another class that is not there. -/
def revoking : List Event := [
  .addPolicy {}, .addRealm {} [dog] 0, .addRealm {} [dog, memory] 0,
  .perform 0 (.resolveClass "app.Dog"),
  .perform 1 (.resolveClass "app.Cat"),
  .updatePolicy 0 fun p => { p with rules := [⟨"app.*", .deny⟩] }]

theorem resolve?_after_revoking :
    (after revoking).realms[0]?.map (fun e => e.1.gate.resolved.get? "app.Dog") = some (some dog) ∧
    (after revoking).resolve? 0 "app.Dog" = some (.error (.accessDenied "app.Dog")) ∧
    ∀ n c, (after revoking).realms[0]?.map (fun e => e.1.gate.resolved.get? n) = some (some c) →
      c.name = n := by
  obtain ⟨hanswer, -, -, hnames⟩ := resolve?_after revoking 0 "app.Dog"
  refine ⟨by decide +kernel, ?_, fun n c h => ?_⟩
  · rw [hanswer]
    decide +kernel
  · obtain ⟨⟨realm, place⟩, hr, hc⟩ := Option.map_eq_some_iff.1 h
    exact hnames realm place n c hr hc

end World

end ScriptSandbox
