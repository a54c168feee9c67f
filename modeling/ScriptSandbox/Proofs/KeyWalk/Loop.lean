import ScriptSandbox.KeyWalk
import ScriptSandbox.Proofs.Heap.Loop

/-! # Walks over keys as loops

Asking a walk for its next name runs a loop that takes one pending key in each turn, or comes to one
object when none is pending. The loop ends when the chain ahead of the walk does.
-/

namespace ScriptSandbox.KeyWalk

variable {h : Heap} {w w' : KeyWalk}

/-- One turn of the loop: a pending key, or else the keys of the next object. -/
def turn (h : Heap) (w : KeyWalk) : KeyWalk ⊕ (Option String × KeyWalk) :=
  match w.pending with
  | [] =>
    match w.upcoming with
    | none => .inr (none, { w with current := none })
    | some r => .inl (w.load h r)
  | k :: pending =>
    match w.current with
    | none => .inl { w with pending }
    | some r =>
      match h.own? r k with
      | none => .inl { w with pending }
      | some p =>
        if k ∈ w.visited then .inl { w with pending }
        else
          let w := { w with visited := k :: w.visited, pending }
          if p.enumerable then .inr (some k.text, w) else .inl w

/-- What the object of the walk has under a key. -/
def lookup (h : Heap) (w : KeyWalk) (k : Key) : Option Property := w.current.bind (h.own? · k)

/-- What a turn can do. -/
inductive Takes (h : Heap) (w : KeyWalk) : KeyWalk ⊕ (Option String × KeyWalk) → Prop
  | finish (hp : w.pending = []) (hu : w.upcoming = none) :
      Takes h w (.inr (none, { w with current := none }))
  | load {r : Ref} (hp : w.pending = []) (hu : w.upcoming = some r) :
      Takes h w (.inl (w.load h r))
  | skip {k : Key} {pending : List Key} (hp : w.pending = k :: pending)
      (hk : w.lookup h k = none ∨ k ∈ w.visited) :
      Takes h w (.inl { w with pending })
  | pass {k : Key} {pending : List Key} {p : Property} (hp : w.pending = k :: pending)
      (hk : w.lookup h k = some p) (hv : k ∉ w.visited) (he : p.enumerable = false) :
      Takes h w (.inl { w with visited := k :: w.visited, pending })
  | yield {k : Key} {pending : List Key} {p : Property} (hp : w.pending = k :: pending)
      (hk : w.lookup h k = some p) (hv : k ∉ w.visited) (he : p.enumerable = true) :
      Takes h w (.inr (some k.text, { w with visited := k :: w.visited, pending }))

theorem takes_turn (h : Heap) (w : KeyWalk) : w.Takes h (turn h w) := by
  unfold turn
  split
  · rename_i hp
    split
    · rename_i hu
      exact .finish hp hu
    · rename_i r hu
      exact .load hp hu
  · rename_i k pending hp
    split
    · rename_i hc
      exact .skip hp (Or.inl (by simp [lookup, hc]))
    · rename_i r hc
      split
      · rename_i hk
        exact .skip hp (Or.inl (by simp [lookup, hc, hk]))
      · rename_i p hk
        have hl : w.lookup h k = some p := by simp [lookup, hc, hk]
        split
        · rename_i hv
          exact .skip hp (Or.inr hv)
        · rename_i hv
          dsimp only
          split
          · rename_i he
            exact .yield hp hl hv he
          · rename_i he
            exact .pass hp hl hv (by simpa using he)

/-! ### The pending keys -/

theorem scan_none {t : PropertyTable} {ks visited visited' pending : List Key}
    (hs : scan t visited ks = (none, visited', pending)) : pending = [] := by
  induction ks generalizing visited with
  | nil =>
    cases hs
    rfl
  | cons k ks ih =>
    simp only [scan] at hs
    split at hs
    · exact ih hs
    · split at hs
      · exact ih hs
      · split at hs
        · cases hs
        · exact ih hs

/-- The turns that take the pending keys of an object scan them. -/
theorem ends_scan {root upcoming : Option Ref} {r : Ref} {ks visited visited' pending : List Key}
    {found : Option Key} {a : Option String × KeyWalk}
    (hs : scan (h.cell r).properties visited ks = (found, visited', pending))
    (hsome : ∀ k, found = some k → a = (some k.text, ⟨root, some r, upcoming, pending, visited'⟩))
    (hnone : found = none → Ends (turn h) ⟨root, some r, upcoming, pending, visited'⟩ a) :
    Ends (turn h) ⟨root, some r, upcoming, ks, visited⟩ a := by
  induction ks generalizing visited with
  | nil =>
    cases hs
    exact hnone rfl
  | cons k ks ih =>
    simp only [scan] at hs
    split at hs
    · rename_i hp
      exact .go (by simp [turn, Heap.own?, hp]) (ih hs)
    · rename_i p hp
      split at hs
      · rename_i hv
        exact .go (by simp [turn, Heap.own?, hp, hv]) (ih hs)
      · rename_i hv
        split at hs
        · rename_i he
          cases hs
          rw [hsome k rfl]
          exact .stop (by simp [turn, Heap.own?, hp, hv, he])
        · rename_i he
          exact .go (by simp [turn, Heap.own?, hp, hv, he]) (ih hs)

/-- Pending keys of no object are dropped. -/
theorem ends_dropped {root upcoming : Option Ref} {ks visited : List Key}
    {a : Option String × KeyWalk} (ha : Ends (turn h) ⟨root, none, upcoming, [], visited⟩ a) :
    Ends (turn h) ⟨root, none, upcoming, ks, visited⟩ a := by
  induction ks with
  | nil => exact ha
  | cons k ks ih => exact .go rfl ih

theorem ends_of_nextPending {found : Option Key} {a : Option String × KeyWalk}
    (hn : w.nextPending h = (found, w')) (hsome : ∀ k, found = some k → a = (some k.text, w'))
    (hnone : found = none → Ends (turn h) w' a) : Ends (turn h) w a := by
  obtain ⟨root, current, upcoming, pending, visited⟩ := w
  cases current with
  | none =>
    cases hn
    exact ends_dropped (hnone rfl)
  | some r =>
    cases hs : scan (h.cell r).properties visited pending with
    | mk found' rest =>
      simp only [nextPending, hs, Prod.mk.injEq] at hn
      obtain ⟨rfl, rfl⟩ := hn
      exact ends_scan hs hsome hnone

/-- When the pending keys have no name to yield, none of them is left. -/
theorem nextPending_none (hn : w.nextPending h = (none, w')) :
    w'.pending = [] ∧ w'.upcoming = w.upcoming := by
  obtain ⟨root, current, upcoming, pending, visited⟩ := w
  cases current with
  | none =>
    cases hn
    exact ⟨rfl, rfl⟩
  | some r =>
    cases hs : scan (h.cell r).properties visited pending with
    | mk found' rest =>
      simp only [nextPending, hs, Prod.mk.injEq] at hn
      obtain ⟨rfl, rfl⟩ := hn
      exact ⟨scan_none hs, rfl⟩

/-! ### The next name -/

theorem advance_of_some {k : Key} (hn : w.nextPending h = (some k, w')) (n : Nat) :
    advance h n w = (some k.text, w') := by
  unfold advance
  rw [hn]

theorem advance_of_nil (hn : w.nextPending h = (none, w')) (hu : w.upcoming = none) (n : Nat) :
    advance h n w = (none, { w' with current := none }) := by
  have hu' : w'.upcoming = none := (nextPending_none hn).2.trans hu
  obtain ⟨root, current, upcoming, pending, visited⟩ := w'
  cases hu'
  unfold advance
  rw [hn]

theorem advance_of_cons {r : Ref} (hn : w.nextPending h = (none, w')) (hu : w.upcoming = some r)
    (n : Nat) : advance h (n + 1) w = advance h n (w'.load h r) := by
  have hu' : w'.upcoming = some r := (nextPending_none hn).2.trans hu
  rw [advance]
  simp only [hn, hu']

/-- The loop ends if the chain ahead does, with the answer within as many objects. -/
theorem ends_advance {rs : List Ref} {n : Nat} (hl : h.Lineage w.upcoming rs)
    (hn : rs.length ≤ n) : Ends (turn h) w (advance h n w) := by
  induction rs generalizing w n with
  | nil =>
    generalize hu : w.upcoming = upcoming at hl
    cases hl
    obtain ⟨found, w', hw⟩ : ∃ found w', w.nextPending h = (found, w') := ⟨_, _, rfl⟩
    refine ends_of_nextPending hw ?_ ?_
    · rintro k rfl
      exact advance_of_some hw n
    · rintro rfl
      obtain ⟨hp, hu'⟩ := nextPending_none hw
      rw [advance_of_nil hw hu]
      exact .stop (by simp only [turn, hp, hu', hu])
  | cons r rs ih =>
    generalize hu : w.upcoming = upcoming at hl
    cases hl
    rename_i hl
    obtain ⟨found, w', hw⟩ : ∃ found w', w.nextPending h = (found, w') := ⟨_, _, rfl⟩
    refine ends_of_nextPending hw ?_ ?_
    · rintro k rfl
      exact advance_of_some hw n
    · rintro rfl
      obtain ⟨hp, hu'⟩ := nextPending_none hw
      obtain ⟨n, rfl⟩ := Nat.exists_eq_succ_of_ne_zero (Nat.ne_zero_of_lt hn)
      rw [advance_of_cons hw hu]
      exact .go (by simp only [turn, hp, hu', hu]) (ih hl (Nat.le_of_succ_le_succ hn))

/-- Asking for the next name ends in a heap without cycles. -/
theorem ends_next (ha : h.Acyclic) (hg : h.Grounded) (hu : h.Holds w.upcoming) :
    Ends (turn h) w (w.next h) :=
  ends_advance (Heap.lineage_chain ha hg hu) (Heap.length_walk_le ha hg hu h.size)

end ScriptSandbox.KeyWalk
