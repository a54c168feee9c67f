import ScriptSandbox.Heap.Closing
import ScriptSandbox.Proofs.Cell.Frame
import ScriptSandbox.Proofs.Key

/-! # References in cells

What a cell refers to is among the first so many objects, and its keys are canonical. Changing its
properties keeps this up while the new keys and values are of the same kind.
-/

namespace ScriptSandbox

variable {n n' : Nat} {t : PropertyTable} {c d : Cell} {k : Key} {p : Property} {v : Value}

/-- The value is a primitive or one of the first objects. -/
def Value.Below (n : Nat) : Value → Prop
  | .object r => r.id < n
  | _ => True

instance : DecidablePred (Value.Below n)
  | .object r => inferInstanceAs (Decidable (r.id < n))
  | .undefined | .null | .boolean _ | .number _ | .string _ => isTrue trivial

theorem Value.Below.mono (hn : n ≤ n') (hv : v.Below n) : v.Below n' := by
  cases v with
  | object r => exact Nat.lt_of_lt_of_le hv hn
  | _ => trivial

/-- The key is canonical and the value below. -/
def Property.Below (n : Nat) (k : Key) (p : Property) : Prop := k.IsCanonical ∧ p.value.Below n

def Descriptor.Below (n : Nat) (d : Descriptor) : Prop := ∀ v, d.value = some v → v.Below n

def PropertyTable.Below (n : Nat) (t : PropertyTable) : Prop :=
  ∀ k p, t.get? k = some p → p.Below n k

structure Cell.Below (n : Nat) (c : Cell) : Prop where
  prototype : ∀ r, c.prototype = some r → r.id < n
  properties : c.properties.Below n

theorem Descriptor.Below.mono {d : Descriptor} (hn : n ≤ n') (hd : d.Below n) : d.Below n' :=
  fun v hv => (hd v hv).mono hn

theorem Cell.Below.mono (hn : n ≤ n') (hc : c.Below n) : c.Below n' where
  prototype r hr := Nat.lt_of_lt_of_le (hc.prototype r hr) hn
  properties k p hp := (hc.properties k p hp).imp_right fun h => h.mono hn

theorem Cell.below_default : ({} : Cell).Below n where
  prototype _ h := by cases h
  properties _ _ h := by cases h

/-! ### Tables -/

namespace PropertyTable

theorem below_empty : Below n .empty := fun _ _ h => by cases h

theorem Below.insert (ht : t.Below n) (hp : p.Below n k) : Below n (t.insert k p) := by
  intro j q hq
  rw [OrderedMap.get?_insert] at hq
  split at hq
  · rename_i hj
    cases hq
    exact hj ▸ hp
  · exact ht j q hq

theorem Below.modify {f : Property → Property} (ht : t.Below n)
    (hf : ∀ p, t.get? k = some p → p.value.Below n → (f p).value.Below n) :
    Below n (t.modify k f) := by
  intro j q hq
  rw [OrderedMap.get?_modify] at hq
  split at hq
  · rename_i hj
    obtain ⟨p, hp, rfl⟩ := Option.map_eq_some_iff.1 hq
    exact ⟨(ht j p hp).1, hf p (hj ▸ hp) (ht j p hp).2⟩
  · exact ht j q hq

theorem Below.erase (ht : t.Below n) (k : Key) : Below n (t.erase k) := by
  intro j q hq
  rw [OrderedMap.get?_erase] at hq
  split at hq
  · cases hq
  · exact ht j q hq

theorem Below.mapValues {f : Property → Property} (ht : t.Below n)
    (hf : ∀ p, (f p).value = p.value) : Below n (t.mapValues f) := by
  intro j q hq
  rw [OrderedMap.get?_mapValues] at hq
  obtain ⟨p, hp, rfl⟩ := Option.map_eq_some_iff.1 hq
  refine ⟨(ht j p hp).1, ?_⟩
  rw [hf]
  exact (ht j p hp).2

theorem Below.insertAll {ps : List (Key × Property)} (ht : t.Below n)
    (hp : ∀ e ∈ ps, e.2.Below n e.1) : Below n (t.insertAll ps) := by
  induction ps generalizing t with
  | nil => exact ht
  | cons e ps ih =>
    exact ih (ht.insert (hp e List.mem_cons_self)) fun e' he => hp e' (List.mem_cons_of_mem _ he)

end PropertyTable

/-! ### Changes of a cell -/

namespace Cell

theorem below_recordLength (hc : c.properties.Below n) (m : Nat) :
    (c.recordLength m).properties.Below n :=
  hc.modify fun _ _ _ => trivial

theorem below_closeLength (hc : c.properties.Below n) : c.closeLength.properties.Below n :=
  hc.modify fun _ _ h => h

theorem below_removeAll (hc : c.properties.Below n) (is : List ArrayIndex) :
    (c.removeAll is).properties.Below n := by
  unfold removeAll
  generalize c.properties = t at hc
  induction is generalizing t with
  | nil => exact hc
  | cons i is ih => exact ih _ (hc.erase _)

theorem below_cut (hc : c.properties.Below n) (m : Nat) : (c.cut m).1.properties.Below n :=
  below_recordLength (below_removeAll hc _) _

theorem below_redefine {d : Descriptor} (hc : c.properties.Below n) (hd : d.Below n) :
    (c.redefine k p d).2.properties.Below n := by
  unfold redefine
  split
  · refine hc.modify fun q _ hq => ?_
    cases hv : d.value with
    | none => simpa [Descriptor.applyTo, hv] using hq
    | some v => simpa [Descriptor.applyTo, hv] using hd v hv
  · exact hc

theorem below_delete (hc : c.properties.Below n) (k : Key) :
    (c.delete k).2.properties.Below n := by
  unfold delete
  split
  · exact hc.erase k
  · exact hc

theorem below_raise (hc : c.properties.Below n) (l : Level) : (c.raise l).properties.Below n := by
  unfold raise
  split
  · exact hc
  · exact hc.mapValues fun _ => rfl

end Cell

namespace Heap

variable {h : Heap}

theorem below_grow (hc : c.properties.Below n) (hg : h.grow c k = .ok d) :
    d.properties.Below n := by
  unfold grow at hg
  split at hg
  · cases hg
    exact hc
  · split_ifs at hg <;> cases hg
    · exact hc
    · exact Cell.below_recordLength hc _

theorem below_add (hc : c.properties.Below n) (hp : p.Below n k) :
    (h.add c k p).2.properties.Below n := by
  unfold add
  split
  · split
    · rename_i hg
      exact (below_grow hc hg).insert hp
    · exact hc
  · exact hc

theorem below_resize (hc : c.properties.Below n) (m : Nat) (close : Bool) :
    (h.resize c m close).2.properties.Below n := by
  have hr : (h.resized c m).properties.Below n := by
    unfold resized
    split
    · exact Cell.below_cut hc m
    · exact Cell.below_recordLength hc m
  rw [resize_snd]
  split
  · exact Cell.below_closeLength hr
  · exact hr

theorem below_defineLength {d : Descriptor} (hc : c.properties.Below n) (hd : d.Below n) :
    (h.defineLength c d).2.properties.Below n := by
  unfold defineLength
  split
  · exact hc
  · exact Cell.below_redefine hc hd
  · split
    · exact hc
    · split
      · exact below_resize hc _ _
      · exact hc

theorem below_defineIn {d : Descriptor} (hc : c.properties.Below n) (hk : k.IsCanonical)
    (hd : d.Below n) : (h.defineIn c k d).2.properties.Below n := by
  unfold defineIn
  split
  · exact below_defineLength hc hd
  · split
    · exact Cell.below_redefine hc hd
    · refine below_add hc ⟨hk, ?_⟩
      cases hv : d.value with
      | none => simp [Descriptor.toProperty, hv, Value.Below]
      | some v => simpa [Descriptor.toProperty, hv] using hd v hv

theorem below_assignIn (hc : c.properties.Below n) (hk : k.IsCanonical) (hv : v.Below n) :
    (h.assignIn c k v).2.properties.Below n := by
  unfold assignIn
  split
  · exact below_add hc ⟨hk, hv⟩
  · split
    · exact hc
    · split
      · split
        · exact hc
        · exact below_resize hc _ _
      · exact hc.modify fun _ _ _ => hv

end Heap

end ScriptSandbox
