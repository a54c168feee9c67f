import Mathlib.Data.List.Induction
import Mathlib.Data.List.Infix
import ScriptSandbox.History
import ScriptSandbox.Proofs.Machine.Genesis
import ScriptSandbox.Proofs.Machine.Operation

/-! # Events as paths

An operation runs on the machine of its realm, and a new realm is furnished on a machine of its own.
So whatever happens to a world, its heap changes along a path of steps.
-/

namespace ScriptSandbox

namespace World

open Machine

variable {w : World} {i place : Nat} {m : Machine}

/-- The machine that a realm runs on, and the place of the policy in force. -/
def machine? (w : World) (i : Nat) : Option (Machine × Nat) := do
  let (realm, place) ← w.realms[i]?
  let policy ← w.policies[place]?
  return ({ heap := w.heap, realm, policy }, place)

/-- The world after a realm has run. -/
def store (w : World) (i place : Nat) (m : Machine) : World where
  heap := m.heap
  policies := w.policies.setIfInBounds place m.policy
  realms := w.realms.setIfInBounds i (m.realm, place)

theorem machine?_eq_some_iff : w.machine? i = some (m, place) ↔
    m.heap = w.heap ∧ w.realms[i]? = some (m.realm, place) ∧
      w.policies[place]? = some m.policy := by
  obtain ⟨h, realm, policy⟩ := m
  simp only [machine?, Option.bind_eq_bind, Option.bind_eq_some_iff, Prod.exists, Option.pure_def,
    Option.some.injEq, Prod.mk.injEq, Machine.mk.injEq]
  constructor
  · rintro ⟨realm', place', hr, policy', hp, ⟨rfl, rfl, rfl⟩, rfl⟩
    exact ⟨rfl, hr, hp⟩
  · rintro ⟨rfl, hr, hp⟩
    exact ⟨realm, place, hr, policy, hp, ⟨rfl, rfl, rfl⟩, rfl⟩

theorem run_of_some {α : Type} (h : w.machine? i = some (m, place)) (x : Exec α) :
    ∃ result, w.run i x = some (result, w.store i place (x.final m)) := by
  obtain ⟨hh, hr, hp⟩ := machine?_eq_some_iff.1 h
  obtain ⟨heap, realm, policy⟩ := m
  subst hh
  simp only [run, hr, hp, Option.bind_eq_bind, Option.bind_some, Exec.final]
  cases x ⟨w.heap, realm, policy⟩ with
  | ok a m' => exact ⟨.ok a, rfl⟩
  | error f m' => exact ⟨.error f, rfl⟩

theorem run_of_none {α : Type} (h : w.machine? i = none) (x : Exec α) : w.run i x = none := by
  unfold machine? at h
  unfold run
  cases hr : w.realms[i]? with
  | none => rfl
  | some e =>
    rw [hr] at h
    cases hp : w.policies[e.2]? with
    | none => simp [hp]
    | some policy => simp [hp] at h

theorem perform_of_some (h : w.machine? i = some (m, place)) (op : Operation) :
    w.perform i op = w.store i place (op.exec.final m) := by
  obtain ⟨result, hr⟩ := run_of_some h op.exec
  rw [perform, hr]

theorem perform_of_none (h : w.machine? i = none) (op : Operation) : w.perform i op = w := by
  rw [perform, run_of_none h]

theorem setIfInBounds_of_getElem? {α : Type} {xs : Array α} {i : Nat} {a : α}
    (h : xs[i]? = some a) : xs.setIfInBounds i a = xs := by
  obtain ⟨hi, rfl⟩ := Array.getElem?_eq_some_iff.1 h
  rw [Array.setIfInBounds, dif_pos hi, Array.set_getElem_self]

theorem machine?_store (h : w.machine? i = some (m, place)) (m' : Machine) :
    (w.store i place m').machine? i = some (m', place) := by
  obtain ⟨-, hr, hp⟩ := machine?_eq_some_iff.1 h
  obtain ⟨hi, -⟩ := Array.getElem?_eq_some_iff.1 hr
  obtain ⟨hplace, -⟩ := Array.getElem?_eq_some_iff.1 hp
  refine machine?_eq_some_iff.2 ⟨rfl, ?_, ?_⟩
  · exact Array.getElem?_setIfInBounds_self_of_lt hi
  · exact Array.getElem?_setIfInBounds_self_of_lt hplace

/-- Storing what the realm left as it was changes the heap alone. -/
theorem store_of_eq (h : w.machine? i = some (m, place)) {m' : Machine} (hr : m'.realm = m.realm)
    (hp : m'.policy = m.policy) : w.store i place m' = { w with heap := m'.heap } := by
  obtain ⟨-, hr', hp'⟩ := machine?_eq_some_iff.1 h
  rw [store, hr, hp, setIfInBounds_of_getElem? hr', setIfInBounds_of_getElem? hp']

/-- The machine that a new realm starts on; without a policy, any will do. -/
def newMachine (w : World) (settings : Settings) (catalog : Catalog) (place : Nat) : Machine where
  heap := w.heap
  realm := { intrinsics := (Intrinsics.allocate w.heap).1, settings, gate := { catalog } }
  policy := (w.policies[place]?).getD {}

/-- The world with a new realm that is not furnished yet. -/
def bareRealm (w : World) (realm : Realm) (place : Nat) : World :=
  { w with heap := (Intrinsics.allocate w.heap).2, realms := w.realms.push (realm, place) }

theorem addRealm_snd (w : World) (settings : Settings) (catalog : Catalog) (place : Nat)
    {bare : World} (hb : bare = w.bareRealm (w.newMachine settings catalog place).realm place) :
    (w.addRealm settings catalog place).2 =
      ((bare.run w.realms.size Exec.install).map Prod.snd).getD bare := by
  subst hb
  unfold addRealm bareRealm newMachine
  dsimp only
  split
  · rename_i h
    rw [h, Option.map_some, Option.getD_some]
  · rename_i h
    rw [h, Option.map_none, Option.getD_none]

theorem machine?_bareRealm {policy : Policy} (hp : w.policies[place]? = some policy)
    (realm : Realm) :
    (w.bareRealm realm place).machine? w.realms.size =
      some ({ heap := (Intrinsics.allocate w.heap).2, realm, policy }, place) :=
  machine?_eq_some_iff.2 ⟨rfl, Array.getElem?_push_size, hp⟩

theorem machine?_bareRealm_of_none (hp : w.policies[place]? = none) (realm : Realm) :
    (w.bareRealm realm place).machine? w.realms.size = none := by
  simp [machine?, bareRealm, hp]

/-- Under a policy that is there, a new realm is installed. -/
theorem addRealm_of_some {policy : Policy} (hp : w.policies[place]? = some policy)
    {settings : Settings} {catalog : Catalog} (hm : w.newMachine settings catalog place = m) :
    (w.addRealm settings catalog place).2 = { w with
      heap := (Exec.install.final (m.withHeap (Intrinsics.allocate m.heap).2)).heap
      realms := w.realms.push (m.realm, place) } := by
  have hheap : m.heap = w.heap := by rw [← hm, newMachine]
  have hown : m.realm.intrinsics = (Intrinsics.allocate m.heap).1 := by rw [← hm, newMachine]
  have hpolicy : m.policy = policy := by rw [← hm, newMachine, hp, Option.getD_some]
  generalize hbare : w.bareRealm m.realm place = bare
  rw [addRealm_snd w settings catalog place (hm ▸ hbare.symm)]
  have hsome : bare.machine? w.realms.size =
      some (m.withHeap (Intrinsics.allocate m.heap).2, place) := by
    rw [← hbare, machine?_bareRealm hp, hheap, ← hpolicy]
    rfl
  obtain ⟨m', hinstall, hf⟩ := Machine.furnishes_install hown
  obtain ⟨result, hrun⟩ := run_of_some hsome Exec.install
  rw [hrun, Option.map_some, Option.getD_some, Exec.final_of_ok hinstall,
    store_of_eq hsome hf.realm hf.path.policy_eq, ← hbare]
  rfl

/-- A new realm changes nothing but the heap, which it furnishes. -/
theorem addRealm_spec (w : World) (settings : Settings) (catalog : Catalog) (place : Nat) :
    ∃ m', (w.newMachine settings catalog place).Furnishes w.heap.size m' ∧
      (w.addRealm settings catalog place).2 = { w with
        heap := m'.heap
        realms := w.realms.push ((w.newMachine settings catalog place).realm, place) } := by
  generalize hm : w.newMachine settings catalog place = m
  have hheap : m.heap = w.heap := by rw [← hm, newMachine]
  have hown : m.realm.intrinsics = (Intrinsics.allocate m.heap).1 := by rw [← hm, newMachine]
  cases hp : w.policies[place]? with
  | none =>
    generalize hbare : w.bareRealm m.realm place = bare
    have hnone : bare.machine? w.realms.size = none :=
      hbare ▸ machine?_bareRealm_of_none hp m.realm
    refine ⟨m.withHeap (Intrinsics.allocate m.heap).2, Intrinsics.furnishes_allocate m _, ?_⟩
    rw [addRealm_snd w settings catalog place (hm ▸ hbare.symm), run_of_none hnone,
      Option.map_none, Option.getD_none, ← hbare, bareRealm, hheap]
    rfl
  | some policy =>
    obtain ⟨m', hinstall, hf⟩ := Machine.furnishes_install hown
    refine ⟨m', hheap ▸ hf, ?_⟩
    rw [addRealm_of_some hp hm, Exec.final_of_ok hinstall]

/-! ### Events -/

/-- An event runs an operation in a realm, or furnishes a new realm, or leaves heap and realms as
they are. -/
theorem apply_cases (w : World) (e : Event) :
    (∃ i op m place, e = .perform i op ∧ w.machine? i = some (m, place) ∧
      w.apply e = w.store i place (op.exec.final m)) ∨
    (∃ settings classes place m', e = .addRealm settings classes place ∧
      (w.newMachine settings (.ofList classes) place).Furnishes w.heap.size m' ∧
      (w.apply e).heap = m'.heap ∧ (w.apply e).realms = w.realms.push (m'.realm, place)) ∨
    (w.apply e).heap = w.heap ∧ (w.apply e).realms = w.realms := by
  cases e with
  | perform i op =>
    cases h : w.machine? i with
    | none =>
      rw [apply, perform_of_none h]
      exact Or.inr (Or.inr ⟨rfl, rfl⟩)
    | some e =>
      obtain ⟨m, place⟩ := e
      exact Or.inl ⟨i, op, m, place, rfl, h, perform_of_some h op⟩
  | updatePolicy place f => exact Or.inr (Or.inr ⟨rfl, rfl⟩)
  | addPolicy p => exact Or.inr (Or.inr ⟨rfl, rfl⟩)
  | addRealm settings classes place =>
    obtain ⟨m', hf, h⟩ := w.addRealm_spec settings (.ofList classes) place
    refine Or.inr (Or.inl ⟨settings, classes, place, m', rfl, hf, ?_, ?_⟩)
    · rw [apply, h]
    · rw [apply, h, hf.realm]

/-- A realm goes on along a path, or stays as it is. -/
theorem exists_realm_apply {realm : Realm} (hr : w.realms[i]? = some (realm, place)) (e : Event) :
    ∃ long base m m', Path long base m m' ∧ m.realm = realm ∧
      (w.apply e).realms[i]? = some (m'.realm, place) := by
  have hstay : (w.apply e).realms[i]? = some (realm, place) →
      ∃ long base m m', Path long base m m' ∧ m.realm = realm ∧
        (w.apply e).realms[i]? = some (m'.realm, place) := fun h =>
    ⟨∅, 0, ⟨{}, realm, {}⟩, _, .refl, rfl, h⟩
  rcases w.apply_cases e with ⟨j, op, m, place', -, hm, h⟩ | ⟨_, _, _, m', -, -, -, h⟩ | ⟨-, h⟩
  · by_cases hij : j = i
    · subst hij
      obtain ⟨-, hrealm, -⟩ := machine?_eq_some_iff.1 hm
      rw [hr, Option.some.injEq, Prod.mk.injEq] at hrealm
      obtain ⟨rfl, rfl⟩ := hrealm
      rw [h]
      have hstored := (machine?_eq_some_iff.1 (machine?_store hm (op.exec.final m))).2.1
      exact ⟨_, _, m, _, op.fitted_exec m, rfl, hstored⟩
    · refine hstay ?_
      rw [h, store, Array.getElem?_setIfInBounds_ne hij, hr]
  · refine hstay ?_
    obtain ⟨hi, -⟩ := Array.getElem?_eq_some_iff.1 hr
    rw [h, Array.getElem?_push, if_neg (Nat.ne_of_lt hi), hr]
  · exact hstay (h ▸ hr)

/-- A realm has just run an operation, or it is new, or it was there before. -/
theorem realm_apply_cases {e : Event} {realm : Realm}
    (hr : (w.apply e).realms[i]? = some (realm, place)) :
    (∃ op m, e = .perform i op ∧ w.machine? i = some (m, place) ∧
      (op.exec.final m).realm = realm ∧ (w.apply e).heap = (op.exec.final m).heap) ∨
    (∃ settings classes m', (w.newMachine settings (.ofList classes) place).Furnishes
        w.heap.size m' ∧ m'.realm = realm ∧ (w.apply e).heap = m'.heap) ∨
    w.realms[i]? = some (realm, place) := by
  rcases w.apply_cases e with ⟨j, op, m, place', he, hm, h⟩ |
    ⟨settings, classes, place', m', -, hf, hheap, h⟩ | ⟨-, h⟩
  · rw [h] at hr ⊢
    by_cases hij : j = i
    · subst hij
      have hstored := (machine?_eq_some_iff.1 (machine?_store hm (op.exec.final m))).2.1
      rw [hr, Option.some.injEq, Prod.mk.injEq] at hstored
      obtain ⟨rfl, rfl⟩ := hstored
      exact Or.inl ⟨op, m, he, hm, rfl, rfl⟩
    · rw [store, Array.getElem?_setIfInBounds_ne hij] at hr
      exact Or.inr (Or.inr hr)
  · rw [h, Array.getElem?_push] at hr
    split_ifs at hr
    · cases hr
      exact Or.inr (Or.inl ⟨settings, classes, m', hf, rfl, hheap⟩)
    · exact Or.inr (Or.inr hr)
  · exact Or.inr (Or.inr (h ▸ hr))

/-- An event leaves the heap alone or changes it along a path, on which only what is oversized at the
end was made long. -/
theorem heap_apply (w : World) (e : Event) : (w.apply e).heap = w.heap ∨
    ∃ m m' : Machine, m.heap = w.heap ∧ m'.heap = (w.apply e).heap ∧
      Path m'.heap.oversized w.heap.size m m' := by
  rcases w.apply_cases e with ⟨i, op, m, place, -, hm, h⟩ | ⟨_, _, _, m', -, hf, h, -⟩ | ⟨h, -⟩
  · obtain ⟨hheap, -⟩ := machine?_eq_some_iff.1 hm
    exact Or.inr ⟨m, op.exec.final m, hheap, (congrArg heap h).symm, hheap ▸ op.fitted_exec m⟩
  · have hpath := Path.mono (Set.empty_subset m'.heap.oversized) (Nat.le_refl _) hf.path
    exact Or.inr ⟨_, m', rfl, h.symm, hpath⟩
  · exact Or.inl h

variable {e : Event} {r : Ref} {fits : Prop}

theorem size_le_apply (w : World) (e : Event) : w.heap.size ≤ (w.apply e).heap.size := by
  rcases w.heap_apply e with h | ⟨m, m', hm, hm', hp⟩
  · rw [h]
  · rw [← hm, ← hm']
    exact hp.size_le

theorem kind_apply (hr : r.id < w.heap.size) (e : Event) :
    (w.apply e).heap.kind r = w.heap.kind r := by
  rcases w.heap_apply e with h | ⟨m, m', hm, hm', hp⟩
  · rw [h]
  · rw [← hm] at hr ⊢
    rw [← hm']
    exact Path.kind_eq hp hr

section Sound

variable (hs : (w.heap.cell r).Sound fits)

include hs

/-- An event keeps cells sound, and lengths fit but for arrays that it makes oversized. -/
theorem sound_apply
    (hr : fits → r.id < w.heap.size ∨ ¬((w.apply e).heap.cell r).IsOversized) :
    ((w.apply e).heap.cell r).Sound fits := by
  rcases w.heap_apply e with h | ⟨m, m', hm, hm', hp⟩
  · rwa [h]
  · rw [← hm'] at hr ⊢
    rw [← hm] at hs hr
    exact Path.sound hp hs hr

theorem evolves_apply (hr : r.id < w.heap.size) :
    (w.heap.cell r).Evolves ((w.apply e).heap.cell r) := by
  rcases w.heap_apply e with h | ⟨m, m', hm, hm', hp⟩
  · rw [h]
    exact .refl _
  · rw [← hm']
    rw [← hm] at hs hr hp ⊢
    exact Path.evolves hp hs hr (Nat.le_refl _)

end Sound

/-! ### Histories -/

/-- The object is an array that some event made oversized. -/
def Oversized (history : List Event) (r : Ref) : Prop :=
  ∃ before e, before ++ [e] <+: history ∧ (after before).heap.size ≤ r.id ∧
    ((after (before ++ [e])).heap.cell r).IsOversized

variable {history : List Event}

theorem oversized_iff : Oversized history r ↔ ∃ i < history.length,
    (after (history.take i)).heap.size ≤ r.id ∧
      ((after (history.take (i + 1))).heap.cell r).IsOversized := by
  constructor
  · rintro ⟨before, e, ⟨rest, rfl⟩, hnew, hover⟩
    refine ⟨before.length, by simp, ?_, ?_⟩
    · rwa [List.append_assoc, List.take_left]
    · rwa [List.take_append_of_le_length (by simp), List.take_of_length_le (by simp)]
  · rintro ⟨i, hi, hnew, hover⟩
    refine ⟨history.take i, history[i], ?_, hnew, ?_⟩
    · rw [List.take_concat_get']
      exact List.take_prefix _ _
    · rwa [List.take_concat_get']

instance (history : List Event) (r : Ref) : Decidable (Oversized history r) :=
  decidable_of_iff _ oversized_iff.symm

theorem Oversized.of_prefix {before : List Event} (h : Oversized before r)
    (hp : before <+: history) : Oversized history r := by
  obtain ⟨start, e, hstart, h⟩ := h
  exact ⟨start, e, hstart.trans hp, h⟩

/-- What every event keeps is never lost. -/
theorem append_induction {P : World → Prop} (hstep : ∀ w e, P w → P (w.apply e))
    {before : List Event} (h : P (after before)) (rest : List Event) :
    P (after (before ++ rest)) := by
  induction rest using List.reverseRecOn with
  | nil => rwa [List.append_nil]
  | append_singleton rest e ih =>
    rw [← List.append_assoc, after_concat]
    exact hstep _ e ih

theorem after_induction {P : World → Prop} (hfirst : P {}) (hstep : ∀ w e, P w → P (w.apply e))
    (history : List Event) : P (after history) :=
  append_induction hstep (show P (after []) from hfirst) history

/-- After any history all cells are sound, and lengths fit but for oversized arrays. -/
theorem sound_after (history : List Event) (r : Ref) :
    ((after history).heap.cell r).Sound (¬Oversized history r) := by
  induction history using List.reverseRecOn with
  | nil => exact Heap.sound_of_size_le (Nat.zero_le _) _
  | append_singleton history e ih =>
    have hmade : ¬Oversized (history ++ [e]) r → r.id < (after history).heap.size ∨
        ¬((after (history ++ [e])).heap.cell r).IsOversized := by
      intro hover
      by_contra hnew
      rw [not_or, not_not, not_lt] at hnew
      exact hover ⟨history, e, List.prefix_refl _, hnew⟩
    rw [after_concat] at hmade ⊢
    refine sound_apply (ih.mono fun hover hold => hover ?_) hmade
    exact hold.of_prefix (List.prefix_append _ _)

theorem size_le_after (before rest : List Event) :
    (after before).heap.size ≤ (after (before ++ rest)).heap.size :=
  append_induction (P := fun w => (after before).heap.size ≤ w.heap.size)
    (fun w e h => h.trans (size_le_apply w e)) (Nat.le_refl _) rest

/-- Whatever is there evolves from then on. -/
theorem evolves_after {before : List Event} (hr : r.id < (after before).heap.size)
    (rest : List Event) :
    ((after before).heap.cell r).Evolves ((after (before ++ rest)).heap.cell r) := by
  induction rest using List.reverseRecOn with
  | nil =>
    rw [List.append_nil]
    exact .refl _
  | append_singleton rest e ih =>
    rw [← List.append_assoc, after_concat]
    exact ih.trans (evolves_apply (sound_after _ r) (hr.trans_le (size_le_after _ _)))

end World

end ScriptSandbox
