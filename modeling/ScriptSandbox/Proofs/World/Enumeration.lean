import ScriptSandbox.Proofs.KeyWalk.Next
import ScriptSandbox.Proofs.World.Integrity
import ScriptSandbox.Proofs.World.WellFormed

/-! # Walks in a changing world

Between two restarts of a walk it is asked for one name after the other, and anything may happen to
the world meanwhile. Still no name comes twice, each name is that of a property that is there at its
moment, no lasting property of the first object is left out, and the end is final.
-/

namespace ScriptSandbox

/-! ### Answers -/

namespace KeyWalk

variable {h : Heap} {w w' : KeyWalk} {answers : List (Option String)} {name : Option String}
  {ks : List Key} {n : Nat}

/-- The answers of a walk are the names of different keys that it has visited, and then nothing. -/
structure Tells (w : KeyWalk) (answers : List (Option String)) (ks : List Key) (n : Nat) :
    Prop where
  eq : answers = ks.map (fun k => some k.text) ++ List.replicate n none
  nodup : ks.Nodup
  canonical : ∀ k ∈ ks, k.IsCanonical
  visited : ks ⊆ w.visited
  exhausted : n ≠ 0 → w.Exhausted

theorem tells_restart (w : KeyWalk) : w.restart.Tells [] [] 0 where
  eq := rfl
  nodup := List.nodup_nil
  canonical := nofun
  visited := List.nil_subset _
  exhausted h := absurd rfl h

theorem Tells.concat_none (ht : w.Tells answers ks n) (hv : w.visited ⊆ w'.visited)
    (he : w'.Exhausted) : w'.Tells (answers ++ [none]) ks (n + 1) where
  eq := by rw [ht.eq, List.append_assoc, List.replicate_succ']
  nodup := ht.nodup
  canonical := ht.canonical
  visited := List.Subset.trans ht.visited hv
  exhausted _ := he

theorem Tells.concat_some {k : Key} (ht : w.Tells answers ks 0) (hv : w.visited ⊆ w'.visited)
    (hk : k.IsCanonical) (hnew : k ∉ w.visited) (hmem : k ∈ w'.visited) :
    w'.Tells (answers ++ [some k.text]) (ks ++ [k]) 0 where
  eq := by
    rw [ht.eq]
    simp
  nodup := ht.nodup.append (List.nodup_singleton k)
    (List.disjoint_singleton.2 fun h => hnew (ht.visited h))
  canonical j hj := by
    rcases List.mem_append.1 hj with hj | hj
    · exact ht.canonical j hj
    · exact List.mem_singleton.1 hj ▸ hk
  visited := List.append_subset.2 ⟨List.Subset.trans ht.visited hv, List.cons_subset.2
    ⟨hmem, List.nil_subset _⟩⟩
  exhausted h := absurd rfl h

theorem Tells.next (ht : w.Tells answers ks n) (hw : h.WellFormed) (hu : h.Holds w.upcoming) :
    ∃ ks n, (w.next h).2.Tells (answers ++ [(w.next h).1]) ks n := by
  have ha := answers_next hw.acyclic hw.grounded hu
  cases hname : (w.next h).1 with
  | none => exact ⟨ks, n + 1, ht.concat_none ha.visited (ha.exhausted hname)⟩
  | some s =>
    obtain ⟨k, p, hk, -, rfl, hnew, hmem⟩ := ha.met s hname
    obtain ⟨r, -, hr⟩ := Option.bind_eq_some_iff.1 hk
    -- an exhausted walk would not have named a key
    obtain rfl : n = 0 := by
      by_contra hn
      rw [((ht.exhausted hn).next h).1] at hname
      cases hname
    exact ⟨ks ++ [k], 0, ht.concat_some ha.visited (hw.own? hr).1 hnew hmem⟩

/-- The names of different canonical keys are different. -/
theorem Tells.nodup_names (ht : w.Tells answers ks n) : (ks.map Key.text).Nodup :=
  ht.nodup.map_on fun _ hk _ hj he => (ht.canonical _ hk).text_injective (ht.canonical _ hj) he

end KeyWalk

/-! ### Sessions -/

/-- What happens between two restarts of a walk. -/
inductive Action where
  /-- The next name is asked for. -/
  | next
  | event (e : Event)

def Action.event? : Action → Option Event
  | next => none
  | event e => some e

/-- A walk in a world, with its answers since it was restarted. -/
structure Session where
  world : World
  walk : KeyWalk
  answers : List (Option String) := []

namespace Session

def heap (s : Session) : Heap := s.world.heap

def act (s : Session) : Action → Session
  | .next =>
    let (name, walk) := s.walk.next s.heap
    { s with walk, answers := s.answers ++ [name] }
  | .event e => { s with world := s.world.apply e }

/-- The session after some actions on a walk that is restarted after a history. -/
def after (history : List Event) (w : KeyWalk) (actions : List Action) : Session :=
  actions.foldl act { world := World.after history, walk := w.restart }

variable {history : List Event} {w : KeyWalk} {actions before : List Action} {s : Session}
  {r : Ref} {k : Key}

theorem after_concat (history : List Event) (w : KeyWalk) (actions : List Action) (a : Action) :
    after history w (actions ++ [a]) = (after history w actions).act a := by
  simp [after]

theorem world_after (history : List Event) (w : KeyWalk) (actions : List Action) :
    (after history w actions).world =
      World.after (history ++ actions.filterMap Action.event?) := by
  induction actions using List.reverseRecOn with
  | nil => simp [after]
  | append_singleton actions a ih =>
    rw [after_concat, List.filterMap_append, ← List.append_assoc]
    cases a with
    | next =>
      change (after history w actions).world = World.after (_ ++ [])
      rw [ih, List.append_nil]
    | event e =>
      change (after history w actions).world.apply e = _
      rw [ih, ← World.after_concat]
      rfl

/-- The world is well-formed, the walk comes to objects that are there, and its answers are as they
should be. -/
structure Consistent (s : Session) : Prop where
  world : s.world.WellFormed
  holds : s.heap.Holds s.walk.upcoming
  tells : ∃ ks n, s.walk.Tells s.answers ks n

theorem Consistent.next (hs : s.Consistent) : (s.act .next).Consistent := by
  obtain ⟨ks, n, ht⟩ := hs.tells
  have hw := hs.world.heap
  exact ⟨hs.world, (KeyWalk.answers_next hw.acyclic hw.grounded hs.holds).holds,
    ht.next hw hs.holds⟩

theorem Consistent.event {e : Event} (hs : s.Consistent) (he : e.Below s.heap.size) :
    (s.act (.event e)).Consistent :=
  ⟨hs.world.apply he, fun r hr => (hs.holds r hr).trans_le (World.size_le_apply _ e), hs.tells⟩

/-- A session is consistent while its world is only asked about objects that are there. -/
theorem consistent_after
    (hs : World.Supports {} (history ++ actions.filterMap Action.event?))
    (hr : (World.after history).heap.Holds w.root) : (after history w actions).Consistent := by
  induction actions using List.reverseRecOn with
  | nil =>
    rw [List.filterMap_nil, List.append_nil] at hs
    exact ⟨World.wellFormed_after hs, hr, _, _, w.tells_restart⟩
  | append_singleton actions a ih =>
    rw [List.filterMap_append, ← List.append_assoc, World.supports_append_iff] at hs
    obtain ⟨hs, ha⟩ := hs
    rw [after_concat]
    cases a with
    | next => exact (ih hs).next
    | event e =>
      have he : e.Below (after history w actions).heap.size := by
        rw [heap, world_after]
        exact ha.1
      exact (ih hs).event he

theorem consistent_of_prefix
    (hs : World.Supports {} (history ++ actions.filterMap Action.event?))
    (hr : (World.after history).heap.Holds w.root) (hb : before <+: actions) :
    (after history w before).Consistent := by
  obtain ⟨rest, rfl⟩ := hb
  rw [List.filterMap_append, ← List.append_assoc, World.supports_append_iff] at hs
  exact consistent_after hs.1 hr

/-- Until it is named, a key of the first object is awaited, and the walk does not end. -/
theorem mem_answers_or_awaits
    (hs : World.Supports {} (history ++ actions.filterMap Action.event?))
    (hr : (World.after history).heap.Holds w.root) (hroot : w.root = some r)
    (hk : ∀ before, before ++ [.next] <+: actions → none ∉ (after history w before).answers →
      ∃ p, (after history w before).heap.own? r k = some p ∧ p.enumerable = true) :
    some k.text ∈ (after history w actions).answers ∨
      none ∉ (after history w actions).answers ∧ (after history w actions).walk.Awaits r k := by
  induction actions using List.reverseRecOn with
  | nil =>
    refine Or.inr ⟨List.not_mem_nil, ?_⟩
    change (KeyWalk.start w.root).Awaits r k
    rw [hroot]
    exact KeyWalk.awaits_start r k
  | append_singleton actions a ih =>
    have hprefix := List.prefix_append actions [a]
    have hc := consistent_of_prefix hs hr hprefix
    rw [List.filterMap_append, ← List.append_assoc, World.supports_append_iff] at hs
    have ih := ih hs.1 fun before hb => hk before (hb.trans hprefix)
    rw [after_concat]
    cases a with
    | event e => exact ih
    | next =>
      change _ ∈ _ ++ [_] ∨ _ ∉ _ ++ [_] ∧ _
      rcases ih with hmem | ⟨hnone, hwait⟩
      · exact Or.inl (List.mem_append_left _ hmem)
      · obtain ⟨p, hp, he⟩ := hk actions (List.prefix_refl _) hnone
        have hw := hc.world.heap
        obtain ⟨hsome, hname⟩ := hwait.next hp he hw.acyclic hw.grounded hc.holds
        rcases hname with hname | hwait
        · exact Or.inl (List.mem_append_right _ (List.mem_singleton.2 hname.symm))
        · refine Or.inr ⟨fun h => ?_, hwait⟩
          rcases List.mem_append.1 h with h | h
          · exact hnone h
          · exact hsome (List.mem_singleton.1 h).symm

/-- Whatever happens between two restarts of a walk, it answers with different names and after those
with nothing. Each time the loop for the next name ends, and a name is that of an enumerable own
property that the object of the walk has at this moment. And a key of the first object that is there
and enumerable each time is among the names once the walk has come to an end. -/
theorem names_after (hs : World.Supports {} (history ++ actions.filterMap Action.event?))
    (hr : (World.after history).heap.Holds w.root) :
    (∃ (names : List String) (n : Nat), (after history w actions).answers =
      names.map some ++ List.replicate n none ∧ names.Nodup) ∧
    (∀ before s, before ++ [.next] <+: actions → s = after history w before →
      Ends (KeyWalk.turn s.heap) s.walk (s.walk.next s.heap) ∧
      ∀ name, (s.walk.next s.heap).1 = some name → ∃ r k p,
        (s.walk.next s.heap).2.current = some r ∧ s.heap.own? r k = some p ∧
        p.enumerable = true ∧ k.text = name) ∧
    ∀ r k, w.root = some r →
      (∀ before, before ++ [.next] <+: actions → none ∉ (after history w before).answers →
        ∃ p, (after history w before).heap.own? r k = some p ∧ p.enumerable = true) →
      none ∈ (after history w actions).answers →
      some k.text ∈ (after history w actions).answers := by
  refine ⟨?_, ?_, fun r k hroot hk hend => ?_⟩
  · obtain ⟨ks, n, ht⟩ := (consistent_after hs hr).tells
    refine ⟨ks.map Key.text, n, ?_, ht.nodup_names⟩
    rw [ht.eq, List.map_map]
    rfl
  · rintro before s hb rfl
    have hc := consistent_of_prefix hs hr ((List.prefix_append before [.next]).trans hb)
    have hw := hc.world.heap
    refine ⟨KeyWalk.ends_next hw.acyclic hw.grounded hc.holds, fun name hname => ?_⟩
    obtain ⟨k, p, hk, he, htext, -⟩ :=
      (KeyWalk.answers_next hw.acyclic hw.grounded hc.holds).met name hname
    obtain ⟨r, hcurrent, hown⟩ := Option.bind_eq_some_iff.1 hk
    exact ⟨r, k, p, hcurrent, hown, he, htext⟩
  · rcases mem_answers_or_awaits hs hr hroot hk with h | ⟨h, -⟩
    · exact h
    · exact absurd hend h

/-- An object with three properties. -/
def filling : List Event := [
  .addPolicy {}, .addRealm {} [] 0,
  .perform 0 (.createObjectFrom [("x", .null), ("y", .null), ("z", .null)])]

/-- The second property is deleted, and the first one put back, once the walk has named the first. -/
def deleting : List Action := [
  .next,
  .event (.perform 0 (.delete (.object World.firstMade) (.name "y"))),
  .event (.perform 0 (.delete (.object World.firstMade) (.name "x"))),
  .event (.perform 0 (.set (.object World.firstMade) (.name "x") .null)),
  .next, .next, .next]

theorem names_after_deleting :
    World.Supports {} (filling ++ deleting.filterMap Action.event?) ∧
    some "z" ∈ (after filling (.start (some World.firstMade)) deleting).answers := by
  have hs : World.Supports {} (filling ++ deleting.filterMap Action.event?) := by decide +kernel
  have hr : (World.after filling).heap.Holds (some World.firstMade) :=
    Heap.holds_some (by decide +kernel)
  have hz : ∀ before ∈ deleting.inits,
      ((after filling (.start (some World.firstMade)) before).heap.own? World.firstMade
        (.name "z")).any Property.enumerable := by decide +kernel
  have hend : none ∈ (after filling (.start (some World.firstMade)) deleting).answers := by
    decide +kernel
  obtain ⟨-, -, hnamed⟩ := names_after (w := .start (some World.firstMade)) hs hr
  refine ⟨hs, hnamed World.firstMade (.name "z") rfl (fun before hb _ => ?_) hend⟩
  have hb : before <+: deleting := (List.prefix_append before [.next]).trans hb
  simpa [Option.any_eq_true] using hz before ((List.mem_inits _ _).2 hb)

end Session

end ScriptSandbox
