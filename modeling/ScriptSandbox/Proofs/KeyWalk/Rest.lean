import ScriptSandbox.Proofs.KeyWalk.Loop
import ScriptSandbox.Proofs.Table
import ScriptSandbox.Proofs.Heap.Array
import ScriptSandbox.Realm.Reflection

/-! # What a walk over keys yields

In a heap that stays as it is, a walk from an object yields the enumerable keys of the object and
then those of what it inherits from, without the keys of nearer objects.
-/

namespace ScriptSandbox

namespace Heap

variable {h : Heap}

/-- The enumerable keys of some objects one after the other, without those that are seen already.
Every own key of an object is seen on the objects after it. -/
def keysBeyond (h : Heap) : (Key → Bool) → List Ref → List Key
  | _, [] => []
  | seen, r :: rs =>
    (h.cell r).properties.enumerableKeys.filter (!seen ·) ++
      h.keysBeyond (fun k => seen k || (h.own? r k).isSome) rs

theorem length_keysBeyond_le (h : Heap) (seen : Key → Bool) (rs : List Ref) (n : Nat) :
    n + (h.keysBeyond seen rs).length ≤
      rs.foldl (fun n r => n + (h.cell r).properties.size) n := by
  induction rs generalizing seen n with
  | nil => exact Nat.le_refl n
  | cons r rs ih =>
    have hkeys : ((h.cell r).properties.enumerableKeys.filter (!seen ·)).length ≤
        (h.cell r).properties.size :=
      calc _ ≤ (h.cell r).properties.enumerableKeys.length := List.length_filter_le _ _
        _ ≤ (h.cell r).properties.ownKeys.length := List.length_filter_le _ _
        _ ≤ (h.cell r).properties.size := PropertyTable.length_ownKeys_le _
    rw [keysBeyond, List.length_append, ← Nat.add_assoc]
    exact (Nat.add_le_add_right (Nat.add_le_add_left hkeys n) _).trans (ih _ _)

theorem chain_cons (ha : h.Acyclic) (hg : h.Grounded) {r : Ref} (hr : r.id < h.size) :
    h.chain (some r) = r :: h.chain (h.prototype r) :=
  (lineage_chain ha hg (holds_some hr)).unique (.cons (lineage_chain ha hg (hg r)))

end Heap

namespace KeyWalk

variable {h : Heap} {w w' : KeyWalk}

/-- Whether a pending key is to be yielded. -/
def isDue (h : Heap) (w : KeyWalk) (k : Key) : Bool :=
  k ∉ w.visited && (w.lookup h k).any Property.enumerable

/-- Whether a key has been met once the pending ones are taken. -/
def isMet (h : Heap) (w : KeyWalk) (k : Key) : Bool :=
  k ∈ w.visited || k ∈ w.pending && (w.lookup h k).isSome

/-- The keys that a walk has still to yield. -/
def remaining (h : Heap) (w : KeyWalk) : List Key :=
  w.pending.filter (w.isDue h) ++ h.keysBeyond (w.isMet h) (h.chain w.upcoming)

/-- The walk is as walks come to be: no key is pending twice, and the next object is there. -/
structure Ready (h : Heap) (w : KeyWalk) : Prop where
  nodup : w.pending.Nodup
  holds : h.Holds w.upcoming

theorem Ready.of_turn (hw : w.Ready h) (hg : h.Grounded) (ht : turn h w = .inl w') :
    w'.Ready h := by
  have htakes := takes_turn h w
  rw [ht] at htakes
  cases htakes with
  | @load r hp hu => exact ⟨PropertyTable.nodup_ownKeys _, hg r⟩
  | skip hp _ | pass hp _ _ _ =>
    have hn := hw.nodup
    rw [hp] at hn
    exact ⟨hn.of_cons, hw.holds⟩

theorem Ready.of_stop (hw : w.Ready h) {name : Option String} (ht : turn h w = .inr (name, w')) :
    w'.Ready h := by
  have htakes := takes_turn h w
  rw [ht] at htakes
  cases htakes with
  | finish hp hu => exact ⟨hw.nodup, hw.holds⟩
  | yield hp _ _ _ =>
    have hn := hw.nodup
    rw [hp] at hn
    exact ⟨hn.of_cons, hw.holds⟩

/-- Coming to an object does not change what remains. -/
theorem remaining_load {r : Ref} (ha : h.Acyclic) (hg : h.Grounded) (hr : r.id < h.size)
    (hp : w.pending = []) (hu : w.upcoming = some r) :
    (w.load h r).remaining h = w.remaining h := by
  have hdue : (h.cell r).properties.ownKeys.filter ((w.load h r).isDue h) =
      (h.cell r).properties.enumerableKeys.filter (!w.isMet h ·) := by
    rw [PropertyTable.enumerableKeys, List.filter_filter]
    refine List.filter_congr fun k _ => ?_
    by_cases hv : k ∈ w.visited <;> simp [isDue, isMet, lookup, load, Heap.own?, hp, hv]
  have hmet : (w.load h r).isMet h = fun k => w.isMet h k || (h.own? r k).isSome := by
    funext k
    have hmem : (h.own? r k).isSome → k ∈ (h.cell r).properties.ownKeys := fun hk =>
      PropertyTable.mem_ownKeys_iff.2 (OrderedMap.mem_keys_iff.2 (Option.isSome_iff_exists.1 hk))
    by_cases hv : k ∈ w.visited
    · simp [isMet, load, hv]
    · cases hk : (h.own? r k).isSome with
      | false => simp [isMet, lookup, load, hp, hv, hk]
      | true => simp [isMet, lookup, load, hv, hk, hmem hk]
  rw [remaining, remaining, hp, hu, Heap.chain_cons ha hg hr, Heap.keysBeyond, ← hmet, ← hdue]
  rfl

/-- A pending key that is passed over makes no difference. -/
theorem remaining_skip {k : Key} {pending : List Key} (hp : w.pending = k :: pending)
    (hk : w.lookup h k = none ∨ k ∈ w.visited) :
    remaining h { w with pending } = w.remaining h := by
  have hdue : w.isDue h k = false := by
    rcases hk with hk | hk <;> simp [isDue, hk]
  have hmet : isMet h { w with pending } = w.isMet h := by
    funext j
    by_cases hj : j = k
    · subst hj
      rcases hk with hk | hk
      · have hk' : lookup h { w with pending } j = none := hk
        simp [isMet, hk, hk']
      · simp [isMet, hk]
    · simp only [isMet, hp, List.mem_cons, hj, false_or]
      rfl
  rw [remaining, remaining, hmet, hp, List.filter_cons, hdue]
  rfl

/-- A pending key that is there for the first time is met, and yielded if it is enumerable. -/
theorem remaining_meet {k : Key} {pending : List Key} {p : Property} (hn : w.pending.Nodup)
    (hp : w.pending = k :: pending) (hk : w.lookup h k = some p) (hv : k ∉ w.visited) :
    w.remaining h =
      (if p.enumerable then [k] else []) ++
        remaining h { w with visited := k :: w.visited, pending } := by
  rw [hp, List.nodup_cons] at hn
  have hdue : w.isDue h k = p.enumerable := by simp [isDue, hk, hv]
  have hrest : pending.filter (w.isDue h) =
      pending.filter (isDue h { w with visited := k :: w.visited, pending }) := by
    refine List.filter_congr fun j hj => ?_
    have hne : j ≠ k := fun he => hn.1 (he ▸ hj)
    simp only [isDue, List.mem_cons, hne, false_or]
    rfl
  have hmet : isMet h { w with visited := k :: w.visited, pending } = w.isMet h := by
    funext j
    by_cases hj : j = k
    · subst hj
      simp [isMet, hp, hk]
    · simp only [isMet, hp, List.mem_cons, hj, false_or]
      rfl
  rw [remaining, remaining, hmet, hp, List.filter_cons, hdue, hrest]
  split <;> rfl

theorem remaining_of_nil (hp : w.pending = []) (hu : w.upcoming = none) :
    w.remaining h = [] := by
  have hchain : h.chain none = [] := by
    rw [Heap.chain]
    cases h.size <;> rfl
  rw [remaining, hp, hu, hchain]
  rfl

/-- The next name is that of the first remaining key, and the others remain. -/
theorem remaining_of_stop (hw : w.Ready h) {name : Option String}
    (ht : turn h w = .inr (name, w')) :
    name = (w.remaining h).head?.map Key.text ∧ w'.remaining h = (w.remaining h).tail := by
  have htakes := takes_turn h w
  rw [ht] at htakes
  cases htakes with
  | finish hp hu =>
    rw [remaining_of_nil hp hu]
    exact ⟨rfl, remaining_of_nil hp hu⟩
  | yield hp hk hv he =>
    rw [remaining_meet hw.nodup hp hk hv, if_pos he]
    exact ⟨rfl, rfl⟩

theorem remaining_of_turn (ha : h.Acyclic) (hg : h.Grounded) (hw : w.Ready h)
    (ht : turn h w = .inl w') : w'.remaining h = w.remaining h := by
  have htakes := takes_turn h w
  rw [ht] at htakes
  cases htakes with
  | load hp hu => exact remaining_load ha hg (hw.holds _ hu) hp hu
  | skip hp hk => exact remaining_skip hp hk
  | pass hp hk hv he =>
    rw [remaining_meet hw.nodup hp hk hv, he]
    rfl

/-! ### Several names -/

section Acyclic

variable (ha : h.Acyclic) (hg : h.Grounded)

include ha hg

theorem remaining_next (hw : w.Ready h) :
    (w.next h).2.Ready h ∧ (w.next h).1 = (w.remaining h).head?.map Key.text ∧
      (w.next h).2.remaining h = (w.remaining h).tail := by
  refine (ends_next ha hg hw.holds).of_invariant
    (I := fun t => t.Ready h ∧ t.remaining h = w.remaining h)
    (Q := fun a => a.2.Ready h ∧ a.1 = (w.remaining h).head?.map Key.text ∧
      a.2.remaining h = (w.remaining h).tail) ⟨hw, rfl⟩ ?_ ?_
  · rintro s t ⟨hs, he⟩ ht
    exact ⟨hs.of_turn hg ht, (remaining_of_turn ha hg hs ht).trans he⟩
  · rintro s ⟨name, t⟩ ⟨hs, he⟩ ht
    rw [← he]
    exact ⟨hs.of_stop ht, remaining_of_stop hs ht⟩

/-- A walk yields what remains, in order. -/
theorem take_eq (hw : w.Ready h) (n : Nat) :
    (take h n w).1 = ((w.remaining h).take n).map Key.text := by
  induction n generalizing w with
  | zero => rfl
  | succ n ih =>
    obtain ⟨hw', hname, hrest⟩ := remaining_next ha hg hw
    cases hn : w.next h with
    | mk name w' =>
      rw [hn] at hw' hname hrest
      cases hr : w.remaining h with
      | nil =>
        rw [hr] at hname
        cases hname
        simp [take, hn]
      | cons k ks =>
        rw [hr] at hname hrest
        cases hname
        simp only [take, hn, ih hw', hrest]
        rfl

theorem rest_eq (hw : w.Ready h) : (w.rest h).1 = (w.remaining h).map Key.text := by
  have hlen : (w.remaining h).length ≤
      w.pending.length + (h.chain w.upcoming).foldl (fun n r => n + (h.cell r).properties.size) 0 := by
    have hbeyond := h.length_keysBeyond_le (w.isMet h) (h.chain w.upcoming) 0
    rw [Nat.zero_add] at hbeyond
    rw [remaining, List.length_append]
    exact Nat.add_le_add (List.length_filter_le _ _) hbeyond
  rw [rest, take_eq ha hg hw, List.take_of_length_le (Nat.le_succ_of_le hlen)]

end Acyclic

theorem ready_start {r : Ref} (hr : r.id < h.size) : (start (some r)).Ready h where
  nodup := List.nodup_nil
  holds := Heap.holds_some hr

theorem remaining_start {r : Ref} {rs : List Ref} (ha : h.Acyclic) (hg : h.Grounded)
    (hr : r.id < h.size) (hl : h.Lineage (some r) rs) :
    (start (some r)).remaining h = h.keysBeyond (fun _ => false) rs := by
  have hchain : h.chain (some r) = rs :=
    (Heap.lineage_chain ha hg (Heap.holds_some hr)).unique hl
  have hmet : (start (some r)).isMet h = fun _ => false := by
    funext k
    simp [isMet, start]
  rw [remaining, hmet, ← hchain]
  rfl

theorem root_of_nextPending {found : Option Key} (hn : w.nextPending h = (found, w')) :
    w'.root = w.root := by
  unfold nextPending at hn
  split at hn <;> cases hn <;> rfl

theorem root_advance (h : Heap) (n : Nat) (w : KeyWalk) : (advance h n w).2.root = w.root := by
  fun_induction advance h n w with
  | case1 _ w k w' hn => exact root_of_nextPending hn
  | case2 w w' hn r n _ ih =>
    rw [ih]
    exact (root_of_nextPending hn :)
  | case3 _ w w' hn _ => exact (root_of_nextPending hn :)

/-- Asking for names does not change where a walk starts. -/
theorem root_iterate_next (w : KeyWalk) (h : Heap) (n : Nat) :
    ((fun w => (w.next h).2)^[n] w).root = w.root := by
  induction n with
  | zero => rfl
  | succ n ih => rw [Function.iterate_succ_apply', next, root_advance, ih]

/-- The builtin that lists keys answers an array of the texts of the enumerable ones. -/
theorem keys_spec (m : Machine) (r : Ref) (args : List Value) : ∃ a m',
    Exec.Reflection.keys (.object r :: args) m = .ok (.object a) m' ∧ m'.heap.kind a = .array ∧
      (m'.heap.cell a).properties =
        arrayTable ((m.heap.cell r).properties.enumerableKeys.map fun k => .string k.text) := by
  generalize hks : (m.heap.cell r).properties.enumerableKeys = ks
  let c : Cell := {
    prototype := m.realm.intrinsics.arrayPrototype
    properties := arrayTable (ks.map fun k => .string k.text)
    kind := .array }
  have hrun : Exec.Reflection.keys (.object r :: args) m =
      .ok (.object (m.heap.alloc c).1) { m with heap := (m.heap.alloc c).2 } := by
    subst hks
    rfl
  exact ⟨_, _, hrun, congrArg Cell.kind (m.heap.cell_alloc_self c),
    congrArg Cell.properties (m.heap.cell_alloc_self c)⟩

/-- A walk from an object of a heap without cycles yields the enumerable keys along the prototype
chain that no nearer object has as an own key, enumerable or not. On each object the indices come
first, in ascending order, and then the names in order of insertion. The keys of the object itself
are the answer of the builtin that lists them. After any number of names the walk can be taken up
again from the start. -/
theorem rest_start_eq {h : Heap} {r : Ref} {rs : List Ref} (ha : h.Acyclic) (hg : h.Grounded)
    (hr : r.id < h.size) (hl : h.Lineage (some r) rs) :
    ((start (some r)).rest h).1 = (h.keysBeyond (fun _ => false) rs).map Key.text ∧
    (∀ n, (take h n (start (some r))).1 =
      ((h.keysBeyond (fun _ => false) rs).take n).map Key.text) ∧
    (∀ s, ∃ is : List ArrayIndex, is.Pairwise (· < ·) ∧
      (h.cell s).properties.ownKeys =
        is.map .index ++ (h.cell s).properties.keys.filter (·.index? = none)) ∧
    (∀ n, (((fun w => (w.next h).2)^[n] (start (some r))).restart.rest h).1 =
      ((start (some r)).rest h).1) ∧
    ∀ (m : Machine) args, m.heap = h → ∃ a m' names,
      Exec.Reflection.keys (.object r :: args) m = .ok (.object a) m' ∧
      m'.heap.kind a = .array ∧
      (m'.heap.cell a).properties = arrayTable (names.map .string) ∧
      names <+: ((start (some r)).rest h).1 ∧
      names = (h.cell r).properties.enumerableKeys.map Key.text := by
  have hw := ready_start hr
  have hrest : ((start (some r)).rest h).1 = (h.keysBeyond (fun _ => false) rs).map Key.text := by
    rw [rest_eq ha hg hw, remaining_start ha hg hr hl]
  refine ⟨hrest, fun n => ?_, fun s => ⟨_, PropertyTable.pairwise_indices _, rfl⟩, fun n => ?_, ?_⟩
  · rw [take_eq ha hg hw, remaining_start ha hg hr hl]
  · rw [restart, root_iterate_next]
    rfl
  · rintro m args rfl
    obtain ⟨a, m', hrun, hkind, hproperties⟩ := keys_spec m r args
    refine ⟨a, m', _, hrun, hkind, ?_, ?_, rfl⟩
    · rw [hproperties, List.map_map]
      rfl
    · rw [hrest]
      cases hl
      refine List.IsPrefix.map _ ?_
      rw [Heap.keysBeyond]
      simp only [Bool.not_false, List.filter_true]
      exact List.prefix_append _ _

/-- An object that hides one of the two names it inherits under a name that is not enumerable. -/
def hider : Heap where
  cells := #[
    { properties := PropertyTable.insertAll .empty [
        (.name "hidden", .assigned .null), (.ofNat 1, .assigned .null),
        (.name "visible", .assigned .null)] },
    { prototype := some ⟨0⟩
      properties := PropertyTable.insertAll .empty [
        (.name "b", .assigned .null), (.ofNat 1, .assigned .null),
        (.name "hidden", .hidden .null), (.ofNat 0, .assigned .null)] }]

theorem rest_start_hider :
    ((start (some ⟨1⟩)).rest hider).1 = ["0", "1", "b", "visible"] := by
  have hlinks : ∀ r s, hider.Links r s → r = ⟨1⟩ ∧ s = ⟨0⟩ := by
    rintro ⟨_ | _ | i⟩ s hs
    · cases hs
    · exact ⟨rfl, (Option.some.inj hs).symm⟩
    · cases hs
  have ha : hider.Acyclic := Heap.acyclic_of_lt fun r s h => by
    obtain ⟨rfl, rfl⟩ := hlinks r s h
    decide
  have hg : hider.Grounded := fun r s h => by
    obtain ⟨rfl, rfl⟩ := hlinks r s h
    decide
  have hl : hider.Lineage (some ⟨1⟩) [⟨1⟩, ⟨0⟩] := .cons (.cons .nil)
  rw [(rest_start_eq ha hg (by decide) hl).1]
  decide +kernel

end KeyWalk

end ScriptSandbox
