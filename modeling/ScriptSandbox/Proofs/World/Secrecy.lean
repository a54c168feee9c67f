import ScriptSandbox.Proofs.Uniform.Operation
import ScriptSandbox.Proofs.World.Integrity
import ScriptSandbox.Proofs.World.Resolution

/-! # What answers show of host types

Two realms are made alike but for their classes, and the same happens to both. As long as the policy
bars every name at which the classes differ, no answer tells the two worlds apart.
-/

namespace ScriptSandbox

namespace World

open Machine

variable {w : World} {i j place : Nat} {m : Machine} {c : Catalog}

/-- What an event is answered with, where it is an operation of a realm that is there. -/
def answer (w : World) : Event → Option (Except Failure Answer)
  | .perform i op => (w.run i op.exec).map Prod.fst
  | _ => none

/-- What some events are answered with, one after the other. -/
def answers (w : World) : List Event → List (Option (Except Failure Answer))
  | [] => []
  | e :: rest => w.answer e :: (w.apply e).answers rest

/-- The world whose realm at a place has another catalog. -/
def withCatalog (w : World) (i : Nat) (c : Catalog) : World :=
  { w with realms := w.realms.modify i fun e => (e.1.withCatalog c, e.2) }

/-- A catalog differs from that of a realm only at names that are barred there. -/
def Hides (w : World) (i : Nat) (c : Catalog) : Prop :=
  ∀ m place, w.machine? i = some (m, place) → m.Hides c

theorem machine?_withCatalog (w : World) (i j : Nat) (c : Catalog) :
    (w.withCatalog i c).machine? j =
      (w.machine? j).map fun e => (if i = j then e.1.withCatalog c else e.1, e.2) := by
  unfold machine? withCatalog
  rw [Array.getElem?_modify]
  by_cases hij : i = j
  · cases w.realms[j]? with
    | none => simp [hij]
    | some e => cases hp : w.policies[e.2]? <;> simp [hij, hp, Machine.withCatalog]
  · cases w.realms[j]? with
    | none => simp [hij]
    | some e => cases hp : w.policies[e.2]? <;> simp [hij, hp]

/-- Running is looking up the machine and storing what becomes of it. -/
theorem run_eq {α : Type} (w : World) (i : Nat) (x : Exec α) :
    w.run i x = (w.machine? i).map fun e => (x.outcome e.1, w.store i e.2 (x.final e.1)) := by
  unfold run machine?
  cases w.realms[i]? with
  | none => rfl
  | some e =>
    cases hp : w.policies[e.2]? with
    | none => simp [hp]
    | some policy =>
      simp only [Option.bind_eq_bind, Option.bind_some, hp, Option.pure_def, Option.map_some,
        Exec.outcome, Exec.final]
      cases x ⟨w.heap, e.1, policy⟩ <;> rfl

/-! ### One realm over another catalog -/

theorem modify_setIfInBounds {α : Type} (xs : Array α) (f : α → α) (i j : Nat) (a : α) :
    (xs.setIfInBounds j a).modify i f =
      (xs.modify i f).setIfInBounds j (if i = j then f a else a) := by
  refine Array.ext_getElem? fun k => ?_
  rw [Array.getElem?_modify, Array.getElem?_setIfInBounds, Array.getElem?_setIfInBounds,
    Array.getElem?_modify, Array.size_modify]
  by_cases hk : j = k
  · subst hk
    by_cases hi : i = j <;> by_cases hj : j < xs.size <;> simp [hi, hj]
  · simp [hk]

theorem modify_push {α : Type} (xs : Array α) (f : α → α) (i : Nat) (a : α) :
    (xs.push a).modify i f = (xs.modify i f).push (if i = xs.size then f a else a) := by
  refine Array.ext_getElem? fun k => ?_
  rw [Array.getElem?_modify, Array.getElem?_push, Array.getElem?_push, Array.getElem?_modify,
    Array.size_modify]
  by_cases hk : k = xs.size
  · by_cases hi : i = xs.size <;> simp [hk, hi]
  · simp [hk]

theorem store_withCatalog (w : World) (i j place : Nat) (m : Machine) (c : Catalog) :
    (w.withCatalog i c).store j place (if i = j then m.withCatalog c else m) =
      (w.store j place m).withCatalog i c := by
  unfold store withCatalog
  rw [modify_setIfInBounds]
  by_cases h : i = j <;> simp [h, Machine.withCatalog]

/-- A run in a world with a hidden catalog: the same answer, and the same world but for it. -/
theorem run_withCatalog {α : Type} {x : Exec α} (hx : i = j → w.Hides i c ∧ x.Uniform (Veils c)) :
    (w.withCatalog i c).run j x = (w.run j x).map fun e => (e.1, e.2.withCatalog i c) := by
  rw [run_eq, run_eq, machine?_withCatalog]
  cases hm : w.machine? j with
  | none => rfl
  | some e =>
    obtain ⟨m, place⟩ := e
    simp only [Option.map_some]
    by_cases hij : i = j
    · subst hij
      obtain ⟨hw, hx⟩ := hx rfl
      have ha := hx m _ ⟨hw m place hm, rfl⟩
      rw [if_pos rfl, ha.outcome_eq, ha.final.2, ← store_withCatalog, if_pos rfl]
    · rw [if_neg hij, ← store_withCatalog, if_neg hij]

theorem size_withCatalog (w : World) (i : Nat) (c : Catalog) :
    (w.withCatalog i c).realms.size = w.realms.size := Array.size_modify

theorem bareRealm_withCatalog (hi : i < w.realms.size) (realm : Realm) (place : Nat) :
    (w.withCatalog i c).bareRealm realm place = (w.bareRealm realm place).withCatalog i c := by
  unfold bareRealm withCatalog
  rw [modify_push, if_neg hi.ne]

/-- The next realm over another catalog. -/
theorem bareRealm_size_withCatalog (w : World) (realm : Realm) (place : Nat) (c : Catalog) :
    w.bareRealm (realm.withCatalog c) place =
      (w.bareRealm realm place).withCatalog w.realms.size c := by
  have hkeep : w.realms.modify w.realms.size (fun e => (e.1.withCatalog c, e.2)) = w.realms := by
    refine Array.ext_getElem? fun k => ?_
    rw [Array.getElem?_modify]
    split_ifs with hk
    · rw [← hk, Array.getElem?_eq_none (Nat.le_refl _), Option.map_none]
    · rfl
  unfold bareRealm withCatalog
  rw [modify_push, if_pos rfl, hkeep]

/-- An event elsewhere in the world, or in the realm whose catalog is hidden. -/
theorem apply_withCatalog (hw : w.Hides i c) (hi : i < w.realms.size) (e : Event) :
    (w.withCatalog i c).answer e = w.answer e ∧
      (w.withCatalog i c).apply e = (w.apply e).withCatalog i c := by
  cases e with
  | perform j op =>
    simp only [answer, apply, perform, run_withCatalog fun _ => ⟨hw, op.uniform_exec⟩]
    cases w.run j op.exec with
    | none => exact ⟨rfl, rfl⟩
    | some e => exact ⟨rfl, rfl⟩
  | updatePolicy place f => exact ⟨rfl, rfl⟩
  | addPolicy p => exact ⟨rfl, rfl⟩
  | addRealm settings classes place =>
    refine ⟨rfl, ?_⟩
    have hbare := bareRealm_withCatalog (c := c) hi
      (w.newMachine settings (.ofList classes) place).realm place
    rw [apply, apply, addRealm_snd _ _ _ _ hbare.symm, addRealm_snd _ _ _ _ rfl,
      size_withCatalog, run_withCatalog fun h => absurd h hi.ne]
    cases (w.bareRealm _ place).run w.realms.size Exec.install with
    | none => rfl
    | some e => rfl

/-- A new realm made over another catalog. -/
theorem addRealm_withCatalog (settings : Settings) {catalog : Catalog}
    (hc : ∀ p, w.policies[place]? = some p →
      ∀ name, c.get? name ≠ catalog.get? name → p.bars name) :
    (w.addRealm settings c place).2 =
      (w.addRealm settings catalog place).2.withCatalog w.realms.size c := by
  have hbare := w.bareRealm_size_withCatalog (w.newMachine settings catalog place).realm place c
  rw [addRealm_snd w settings catalog place rfl, addRealm_snd w settings c place hbare.symm,
    run_withCatalog fun _ => ⟨fun m place' hm => ?_, Exec.uniform_install isFrame_veils ?_⟩]
  · cases (w.bareRealm _ place).run w.realms.size Exec.install with
    | none => rfl
    | some e => rfl
  · cases hp : w.policies[place]? with
    | none =>
      rw [machine?_bareRealm_of_none hp] at hm
      cases hm
    | some p =>
      rw [machine?_bareRealm hp] at hm
      cases hm
      exact hc p hp
  · rintro m _ ⟨-, rfl⟩
    rfl

theorem size_apply_le (w : World) (e : Event) : w.realms.size ≤ (w.apply e).realms.size := by
  rcases w.apply_cases e with ⟨i, op, m, place, -, -, h⟩ | ⟨_, _, _, m', -, -, -, h⟩ | ⟨-, h⟩
  · rw [h, store, Array.size_setIfInBounds]
  · rw [h, Array.size_push]
    exact Nat.le_succ _
  · rw [h]

/-- Any events in a world with a hidden catalog. -/
theorem answers_withCatalog {rest : List Event} (hw : ∀ now, now <+: rest →
      (now.foldl apply w).Hides i c) (hi : i < w.realms.size) :
    (w.withCatalog i c).answers rest = w.answers rest ∧
      rest.foldl apply (w.withCatalog i c) = (rest.foldl apply w).withCatalog i c := by
  induction rest generalizing w with
  | nil => exact ⟨rfl, rfl⟩
  | cons e rest ih =>
    obtain ⟨ha, hnext⟩ := apply_withCatalog (w := w) (hw [] List.nil_prefix) hi e
    have hrest := ih (w := w.apply e) (fun now hnow => hw (e :: now) ?_)
      (hi.trans_le (w.size_apply_le e))
    · rw [answers, answers, List.foldl_cons, List.foldl_cons, ha, hnext]
      exact ⟨congrArg (w.answer e :: ·) hrest.1, hrest.2⟩
    · simpa using hnow

/-! ### After any history -/

theorem after_append (history rest : List Event) :
    after (history ++ rest) = rest.foldl apply (after history) := by
  rw [after, after, List.foldl_append]

theorem setting_after (before now : List Event) (settings : Settings) (classes : List HostClass)
    (place : Nat) :
    (after (before ++ .addRealm settings classes place :: now)).realms[(after before).realms.size]?.map
      setting = some (.ofList classes, place) := by
  have hbefore := congrArg List.length (settings_after before)
  have hafter := settings_after (before ++ .addRealm settings classes place :: now)
  simp only [List.length_map, Array.length_toList] at hbefore
  rw [← Array.getElem?_toList, ← List.getElem?_map, hafter, List.filterMap_append, hbefore,
    List.map_append, List.getElem?_append_right (by simp), List.length_map, Nat.sub_self]
  rfl

/-- The classes of a realm stay those it was made over. -/
theorem hides_after {before now : List Event} {settings : Settings} {classes : List HostClass}
    (hc : ∀ name, c.get? name ≠ (Catalog.ofList classes).get? name →
      ∀ p, (after (before ++ .addRealm settings classes place :: now)).policies[place]? = some p →
        p.bars name) :
    (after (before ++ .addRealm settings classes place :: now)).Hides (after before).realms.size
      c := by
  intro m place' hm name hname
  obtain ⟨-, hr, hp⟩ := machine?_eq_some_iff.1 hm
  have hset := setting_after before now settings classes place
  rw [hr, Option.map_some, Option.some.injEq, setting, Prod.mk.injEq] at hset
  obtain ⟨hcatalog, hplace⟩ := hset
  simp only at hcatalog hplace
  subst hplace
  rw [hcatalog] at hname
  exact hc name hname m.policy hp

/-- Worlds with the same history but for the classes of one realm. If the policy of the realm bars,
at every moment since it was made, all names at which the classes differ, then all operations are
answered alike, and the objects stay the same. -/
theorem answers_after {before rest : List Event} {settings : Settings}
    {classes classes' : List HostClass} {place : Nat}
    (hbars : ∀ now, now <+: rest → ∀ name,
      (Catalog.ofList classes').get? name ≠ (Catalog.ofList classes).get? name →
      ∀ p, (after (before ++ .addRealm settings classes place :: now)).policies[place]? = some p →
        p.bars name) :
    (after (before ++ [.addRealm settings classes' place])).answers rest =
      (after (before ++ [.addRealm settings classes place])).answers rest ∧
    (after (before ++ .addRealm settings classes' place :: rest)).heap =
      (after (before ++ .addRealm settings classes place :: rest)).heap := by
  have hadd : after (before ++ [.addRealm settings classes' place]) =
      (after (before ++ [.addRealm settings classes place])).withCatalog (after before).realms.size
        (.ofList classes') := by
    rw [after_concat, after_concat]
    refine addRealm_withCatalog settings fun p hp name hname => ?_
    refine hbars [] List.nil_prefix name hname p ?_
    rw [after_concat, apply, policies_addRealm, hp]
  generalize hw : after (before ++ [.addRealm settings classes place]) = w at hadd ⊢
  have hhides : ∀ now, now <+: rest →
      (now.foldl apply w).Hides (after before).realms.size (.ofList classes') := fun now hnow => by
    rw [← hw, ← after_append, List.append_assoc]
    exact hides_after (hbars now hnow)
  have hsize : (after before).realms.size < w.realms.size := by
    obtain ⟨m', -, h⟩ := (after before).addRealm_spec settings (.ofList classes) place
    rw [← hw, after_concat, apply, h, Array.size_push]
    exact Nat.lt_succ_self _
  have hsplit : ∀ classes, after (before ++ .addRealm settings classes place :: rest) =
      rest.foldl apply (after (before ++ [.addRealm settings classes place])) := fun classes => by
    rw [← after_append, List.append_assoc]
    rfl
  obtain ⟨hanswers, hend⟩ := answers_withCatalog hhides hsize
  rw [hsplit, hsplit, hadd, hw, hend]
  exact ⟨hanswers, rfl⟩

/-- A policy that closes a package by a rule. -/
def closed : List Event := [.addPolicy { rules := [⟨"app.*", .deny⟩] }]

/-- A class of the package is asked for by its name, and as a member of the package before and after
the policy comes to deny everything by default. -/
def probing : List Event := [
  .perform 0 (.resolveType "app.Dog"),
  .perform 0 (.createPackage "app"),
  .perform 0 (.get (.object firstMade) (.name "Dog")),
  .updatePolicy 0 fun p => { p with defaultAccess := .deny },
  .perform 0 (.get (.object firstMade) (.name "Dog"))]

theorem answers_after_probing :
    (Catalog.ofList []).get? "app.Dog" ≠ (Catalog.ofList [dog]).get? "app.Dog" ∧
    (∀ now ∈ probing.inits,
      (after (closed ++ .addRealm {} [dog] 0 :: now)).policies[0]?.all (·.bars "app.Dog")) ∧
    (after (closed ++ [.addRealm {} [] 0])).answers probing =
      (after (closed ++ [.addRealm {} [dog] 0])).answers probing ∧
    (after (closed ++ .addRealm {} [] 0 :: probing)).heap =
      (after (closed ++ .addRealm {} [dog] 0 :: probing)).heap := by
  have hbars : ∀ now ∈ probing.inits,
      (after (closed ++ .addRealm {} [dog] 0 :: now)).policies[0]?.all (·.bars "app.Dog") := by
    decide +kernel
  refine ⟨by decide, hbars, answers_after fun now hnow name hname p hp => ?_⟩
  have hdog : name = "app.Dog" := by
    by_contra hne
    refine hname ?_
    rw [Catalog.ofList, Catalog.ofList, List.foldl_cons, List.foldl_nil, List.foldl_nil,
      Catalog.register, OrderedMap.get?_insert, if_neg]
    exact hne
  subst hdog
  simpa [hp] using hbars now ((List.mem_inits _ _).2 hnow)

end World

end ScriptSandbox
