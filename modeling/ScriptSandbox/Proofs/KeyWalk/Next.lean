import ScriptSandbox.Proofs.KeyWalk.Loop
import ScriptSandbox.Proofs.Table

/-! # What an answer of a walk says

A walk answers with the name of a key that it meets for the first time, and only once nothing is
pending or upcoming without a name. Between two answers the heap may change in any way that keeps
its prototype chains without cycles.
-/

namespace ScriptSandbox.KeyWalk

variable {h : Heap} {w w' : KeyWalk} {name : Option String} {r : Ref} {k : Key} {p : Property}

/-- Nothing is left to come to. -/
def Exhausted (w : KeyWalk) : Prop := w.pending = [] ∧ w.upcoming = none

/-- What an answer says about the walk before and after it. -/
structure Answers (h : Heap) (w : KeyWalk) (name : Option String) (w' : KeyWalk) : Prop where
  holds : h.Holds w'.upcoming
  visited : w.visited ⊆ w'.visited
  exhausted : name = none → w'.Exhausted
  met : ∀ s, name = some s → ∃ k p, w'.lookup h k = some p ∧ p.enumerable = true ∧ k.text = s ∧
    k ∉ w.visited ∧ k ∈ w'.visited

/-- A turn that goes on visits keys or comes to the next object. -/
theorem visited_of_turn (hg : h.Grounded) (hu : h.Holds w.upcoming) (ht : turn h w = .inl w') :
    h.Holds w'.upcoming ∧ w.visited ⊆ w'.visited := by
  have htakes := takes_turn h w
  rw [ht] at htakes
  cases htakes with
  | @load r _ _ => exact ⟨hg r, List.Subset.refl _⟩
  | skip _ _ => exact ⟨hu, List.Subset.refl _⟩
  | pass _ _ _ _ => exact ⟨hu, List.subset_cons_self _ _⟩

theorem answers_of_turn (hu : h.Holds w.upcoming) (ht : turn h w = .inr (name, w')) :
    w.Answers h name w' := by
  have htakes := takes_turn h w
  rw [ht] at htakes
  cases htakes with
  | finish hp hnone => exact ⟨hu, List.Subset.refl _, fun _ => ⟨hp, hnone⟩, nofun⟩
  | @yield k _ p _ hk hv he =>
    refine ⟨hu, List.subset_cons_self _ _, nofun, ?_⟩
    rintro s ⟨⟩
    exact ⟨k, p, hk, he, rfl, hv, List.mem_cons_self⟩

theorem Answers.of_subset {u : KeyWalk} (ha : w.Answers h name w') (hv : u.visited ⊆ w.visited) :
    u.Answers h name w' where
  holds := ha.holds
  visited := List.Subset.trans hv ha.visited
  exhausted := ha.exhausted
  met s hs := by
    obtain ⟨k, p, hk, he, htext, hnew, hmem⟩ := ha.met s hs
    exact ⟨k, p, hk, he, htext, fun hk => hnew (hv hk), hmem⟩

theorem answers_next (ha : h.Acyclic) (hg : h.Grounded) (hu : h.Holds w.upcoming) :
    w.Answers h (w.next h).1 (w.next h).2 := by
  refine (ends_next ha hg hu).of_invariant
    (I := fun t => h.Holds t.upcoming ∧ w.visited ⊆ t.visited)
    (Q := fun a => w.Answers h a.1 a.2) ⟨hu, List.Subset.refl _⟩ ?_ ?_
  · rintro s t ⟨hs, hv⟩ ht
    obtain ⟨hu', hv'⟩ := visited_of_turn hg hs ht
    exact ⟨hu', List.Subset.trans hv hv'⟩
  · rintro s ⟨name, t⟩ ⟨hs, hv⟩ ht
    exact (answers_of_turn hs ht).of_subset hv

/-- A walk with nothing left has no further name, whatever the heap has become. -/
theorem Exhausted.next (hw : w.Exhausted) (h : Heap) :
    (w.next h).1 = none ∧ (w.next h).2.Exhausted := by
  obtain ⟨root, current, upcoming, pending, visited⟩ := w
  obtain ⟨rfl, rfl⟩ : pending = [] ∧ upcoming = none := hw
  have hn : nextPending ⟨root, current, none, [], visited⟩ h =
      (none, ⟨root, current, none, [], visited⟩) := by
    cases current <;> rfl
  rw [KeyWalk.next, advance_of_nil hn rfl]
  exact ⟨rfl, rfl, rfl⟩

/-! ### Keys to be met -/

/-- The walk has yet to meet a key of an object: the key is pending, or the walk has yet to come to
the object. -/
def Awaits (w : KeyWalk) (r : Ref) (k : Key) : Prop :=
  k ∉ w.visited ∧
    (w.current = some r ∧ k ∈ w.pending ∨
      w.current = none ∧ w.pending = [] ∧ w.upcoming = some r)

theorem awaits_start (r : Ref) (k : Key) : (start (some r)).Awaits r k :=
  ⟨List.not_mem_nil, Or.inr ⟨rfl, rfl, rfl⟩⟩

/-- A pending key that is taken leaves the others to be met. -/
theorem Awaits.of_cons {j : Key} {pending : List Key} (hw : w.Awaits r k)
    (hj : w.pending = j :: pending) : w.current = some r ∧
      (k ≠ j → ∀ visited, k ∉ visited → Awaits { w with visited, pending } r k) := by
  obtain ⟨-, ⟨hr, hk⟩ | ⟨-, hnil, -⟩⟩ := hw
  · refine ⟨hr, fun hne visited hv => ⟨hv, Or.inl ⟨hr, ?_⟩⟩⟩
    rw [hj, List.mem_cons] at hk
    exact hk.resolve_left hne
  · rw [hj] at hnil
    cases hnil

/-- A key that is there and enumerable is not passed over. -/
theorem Awaits.of_turn (hw : w.Awaits r k) (hp : h.own? r k = some p) (he : p.enumerable = true)
    (ht : turn h w = .inl w') : w'.Awaits r k := by
  have hlookup : w.current = some r → w.lookup h k = some p := fun hr => by
    rw [lookup, hr, Option.bind_some, hp]
  have htakes := takes_turn h w
  rw [ht] at htakes
  cases htakes with
  | @load s hnil hs =>
    obtain ⟨hv, ⟨-, hk⟩ | ⟨-, -, hr⟩⟩ := hw
    · rw [hnil] at hk
      cases hk
    · obtain rfl : s = r := Option.some.inj (hs.symm.trans hr)
      have hk : k ∈ (h.cell s).properties.ownKeys :=
        PropertyTable.mem_ownKeys_iff.2 (OrderedMap.mem_keys_iff.2 ⟨p, hp⟩)
      exact ⟨hv, Or.inl ⟨rfl, hk⟩⟩
  | @skip j _ hj hskip =>
    obtain ⟨hr, hrest⟩ := hw.of_cons hj
    refine hrest ?_ _ hw.1
    rintro rfl
    rcases hskip with hnone | hv
    · rw [hlookup hr] at hnone
      cases hnone
    · exact hw.1 hv
  | @pass j _ q hj hq _ hhidden =>
    obtain ⟨hr, hrest⟩ := hw.of_cons hj
    have hne : k ≠ j := by
      rintro rfl
      rw [hlookup hr, Option.some.injEq] at hq
      rw [hq, hhidden] at he
      cases he
    exact hrest hne _ (List.not_mem_cons_of_ne_of_not_mem hne hw.1)

/-- While a key is to be met there is a further name, and the key waits on if it is another's. -/
theorem Awaits.of_stop (hw : w.Awaits r k) (ht : turn h w = .inr (name, w')) :
    name ≠ none ∧ (name = some k.text ∨ w'.Awaits r k) := by
  have htakes := takes_turn h w
  rw [ht] at htakes
  cases htakes with
  | finish hnil hnone =>
    obtain ⟨-, ⟨-, hk⟩ | ⟨-, -, hr⟩⟩ := hw
    · rw [hnil] at hk
      cases hk
    · rw [hnone] at hr
      cases hr
  | @yield j _ _ hj _ _ _ =>
    refine ⟨nofun, ?_⟩
    by_cases hne : k = j
    · exact Or.inl (hne ▸ rfl)
    · exact Or.inr ((hw.of_cons hj).2 hne _ (List.not_mem_cons_of_ne_of_not_mem hne hw.1))

theorem Awaits.next (hw : w.Awaits r k) (hp : h.own? r k = some p) (he : p.enumerable = true)
    (ha : h.Acyclic) (hg : h.Grounded) (hu : h.Holds w.upcoming) :
    (w.next h).1 ≠ none ∧ ((w.next h).1 = some k.text ∨ (w.next h).2.Awaits r k) :=
  (ends_next ha hg hu).of_invariant (I := fun t => t.Awaits r k)
    (Q := fun a => a.1 ≠ none ∧ (a.1 = some k.text ∨ a.2.Awaits r k)) hw
    (fun _ _ ht hturn => ht.of_turn hp he hturn) (fun _ _ ht hturn => ht.of_stop hturn)

end ScriptSandbox.KeyWalk
