import ScriptSandbox.Proofs.Heap.Resizing
import ScriptSandbox.Proofs.Machine.Refusal
import ScriptSandbox.Proofs.Number.Exact

/-! # Describing and defining properties

A property is described by an object with its value and its attributes as own properties, so what
scripts add to the prototype of objects makes no difference to it. Defining a property as it is
described changes nothing, whatever the attributes, and gives an object without it the same
property.
-/

namespace ScriptSandbox

namespace Descriptor

@[simp] theorem toProperty_ofProperty (p : Property) : (ofProperty p).toProperty = p := rfl

/-- A property may always be redefined as what it is. -/
theorem suits_ofProperty (p : Property) : (ofProperty p).suits p := by
  rw [suits_iff]
  cases hc : p.configurable with
  | true => exact Or.inl rfl
  | false =>
    refine Or.inr ⟨?_, ?_, ?_, ?_⟩
    · simp [ofProperty, hc]
    · rintro b ⟨⟩
      rfl
    · intro hw
      simp [ofProperty, hw]
    · rintro - v ⟨⟩
      exact Value.same_iff.2 rfl

end Descriptor

theorem Cell.closeLength_eq_self {c : Cell}
    (hw : ∀ p, c.properties.get? .length = some p → p.writable = false) : c.closeLength = c := by
  have hmodify : c.properties.modify .length ({ · with writable := false }) = c.properties := by
    refine OrderedMap.modify_eq_self fun p hp => ?_
    rw [← hw p hp]
  rw [closeLength, hmodify]

namespace Heap

variable {h : Heap} {r t d : Ref} {k : Key} {p : Property} {n : Nat}

/-! ### Defining what is there -/

theorem storedLength_of_arrayLength? (hp : h.own? r .length = some p)
    (hn : h.arrayLength? p.value = some n) : h.storedLength (h.cell r) = n := by
  obtain ⟨hnat, hle⟩ := Number.arrayLength?_eq_some_iff.1 hn
  rw [storedLength_of_own? hp, Number.clamp32_of_toNat? hnat, Nat.min_eq_left hle]

theorem define_ofProperty (hk : ¬(h.kind r = .array ∧ k = .length)) (hp : h.own? r k = some p) :
    h.define r k (.ofProperty p) = (.ok (), h) := by
  have hsame : (h.cell r).properties.modify k (Descriptor.ofProperty p).applyTo =
      (h.cell r).properties := by
    refine OrderedMap.modify_eq_self fun q hq => ?_
    rw [show (h.cell r).properties.get? k = some p from hp] at hq
    exact Option.some.inj hq
  rw [define_of_own? hk hp]
  apply changeCell_of_eq_self
  rw [Cell.redefine, if_pos (Descriptor.suits_ofProperty p), hsame]

theorem define_length_ofProperty_of_none (ha : h.kind r = .array) (hp : h.own? r .length = some p)
    (hn : h.arrayLength? p.value = none) :
    h.define r .length (.ofProperty p) = (.error .invalidLength, h) := by
  have harray : (h.cell r).isArray := by simpa [Cell.isArray, kind] using ha
  have hp' : (h.cell r).properties.get? .length = some p := hp
  have hvalue : (Descriptor.ofProperty p).value = some p.value := rfl
  rw [define]
  apply changeCell_of_eq_self
  simp only [defineIn, harray, and_self, if_true, defineLength, hp', hvalue, hn]

/-- Defining the length of an array as the value that it has records the natural for that value. -/
theorem define_length_ofProperty_of_some (ha : h.kind r = .array) (hp : h.own? r .length = some p)
    (hn : h.arrayLength? p.value = some n) :
    h.define r .length (.ofProperty p) = (.ok (), h.put r ((h.cell r).recordLength n)) := by
  have harray : (h.cell r).isArray := by simpa [Cell.isArray, kind] using ha
  have hp' : (h.cell r).properties.get? .length = some p := hp
  have hsuits : { Descriptor.ofProperty p with value := none }.suits p := by
    have h := Descriptor.suits_iff.1 (Descriptor.suits_ofProperty p)
    refine Descriptor.suits_iff.2 (h.imp_right fun h => ?_)
    refine ⟨h.configurable, h.enumerable, h.writable, ?_⟩
    rintro - v ⟨⟩
  have hvalue : (Descriptor.ofProperty p).value = some p.value := rfl
  have hstored := storedLength_of_arrayLength? hp hn
  rw [define]
  apply changeCell_of_eq
  simp only [defineIn, harray, and_self, if_true, defineLength, hp', hvalue, hn, hsuits, hstored,
    or_true]
  rw [resize_of_le hstored.le]
  cases hw : p.writable with
  | true => simp [Descriptor.ofProperty, hw]
  | false =>
    have hclosed : ((h.cell r).recordLength n).closeLength = (h.cell r).recordLength n := by
      refine Cell.closeLength_eq_self fun q hq => ?_
      rw [Cell.recordLength, OrderedMap.get?_modify, if_pos rfl, hp'] at hq
      cases hq
      exact hw
    simp [Descriptor.ofProperty, hw, hclosed]

/-- So the length of an array may be defined as it is exactly if it is a natural that fits. -/
theorem define_length_ofProperty_iff (ha : h.kind r = .array) (hp : h.own? r .length = some p) :
    h.define r .length (.ofProperty p) = (.ok (), h) ↔ ∃ n ≤ maxLength, p.value = .ofNat n := by
  have hp' : (h.cell r).properties.get? .length = some p := hp
  constructor
  · intro heq
    cases hn : h.arrayLength? p.value with
    | none =>
      rw [define_length_ofProperty_of_none ha hp hn] at heq
      cases heq
    | some n =>
      rw [define_length_ofProperty_of_some ha hp hn] at heq
      have hheap : h.put r ((h.cell r).recordLength n) = h := congrArg Prod.snd heq
      have hcell := cell_put_self (lt_size_of_own? hp) ((h.cell r).recordLength n)
      rw [hheap] at hcell
      rw [hcell, Cell.recordLength, OrderedMap.get?_modify, if_pos rfl] at hp'
      obtain ⟨q, -, rfl⟩ := Option.map_eq_some_iff.1 hp'
      exact ⟨n, arrayLength?_le hn, rfl⟩
  · rintro ⟨n, hle, hv⟩
    have hsame : (h.cell r).recordLength n = h.cell r := by
      have hmodify : (h.cell r).properties.modify .length ({ · with value := .ofNat n }) =
          (h.cell r).properties := by
        refine OrderedMap.modify_eq_self fun q hq => ?_
        rw [hp'] at hq
        cases hq
        rw [← hv]
      rw [Cell.recordLength, hmodify]
    have hn : h.arrayLength? p.value = some n := by rw [hv, h.arrayLength?_ofNat hle]
    rw [define_length_ofProperty_of_some ha hp hn, hsame, put_cell]

/-- The length of an array is a natural that fits, as all of its changes leave it. -/
def Recordable (h : Heap) (r : Ref) (k : Key) (p : Property) : Prop :=
  h.kind r = .array → k = .length → ∃ n ≤ maxLength, p.value = .ofNat n

theorem define_ofProperty_iff (hp : h.own? r k = some p) :
    h.define r k (.ofProperty p) = (.ok (), h) ↔ h.Recordable r k p := by
  by_cases hk : h.kind r = .array ∧ k = .length
  · obtain ⟨ha, rfl⟩ := hk
    rw [define_length_ofProperty_iff ha hp]
    constructor
    · intro h _ _
      exact h
    · intro h
      exact h ha rfl
  · constructor
    · intro _ ha hl
      exact absurd ⟨ha, hl⟩ hk
    · intro _
      exact define_ofProperty hk hp

/-- An object that is open to new keys and no array takes a property as it is described. -/
theorem exists_define_ofProperty (ht : t.id < h.size) (ha : h.kind t ≠ .array)
    (hx : (h.cell t).isExtensible) (hk : h.own? t k = none) (p : Property) :
    ∃ h', h.define t k (.ofProperty p) = (.ok (), h') ∧ h.Stores t k p h' := by
  have hgrowth : ¬h.Overflows t k := by
    rintro ⟨_, _, _, -, harray, -⟩
    exact ha harray
  refine ⟨_, ?_, stores_add ht hk p⟩
  rw [define_of_new (fun h => ha h.1) hk]
  apply changeCell_of_eq
  rw [add_eq, hx, if_neg (by simp), if_neg (mt overflows_iff.2 hgrowth),
    Descriptor.toProperty_ofProperty]

/-! ### Descriptions -/

/-- The object has an own property of the name with the value. -/
def HasField (h : Heap) (d : Ref) (name : String) (v : Value) : Prop :=
  ∃ q, h.own? d (.name name) = some q ∧ q.value = v

/-- The object describes the property by own fields. -/
structure Describes (h : Heap) (d : Ref) (p : Property) : Prop where
  value : h.HasField d "value" p.value
  writable : h.HasField d "writable" (.boolean p.writable)
  enumerable : h.HasField d "enumerable" (.boolean p.enumerable)
  configurable : h.HasField d "configurable" (.boolean p.configurable)

theorem HasField.find? {name : String} {v : Value} (hf : h.HasField d name v) :
    (h.find? d (.name name)).map (·.value) = some v := by
  obtain ⟨q, hq, rfl⟩ := hf
  rw [find?_of_own? hq, Option.map_some]

/-- Inherited fields have no say in what is described in full. -/
theorem Describes.descriptorOf (hd : h.Describes d p) :
    Exec.Reflection.descriptorOf h d = .ofProperty p := by
  simp only [Exec.Reflection.descriptorOf, hd.value.find?, hd.writable.find?, hd.enumerable.find?,
    hd.configurable.find?, Option.map_some]
  rfl

end Heap

/-- What an object that describes a property is made of. -/
def Property.describing (p : Property) (target : Ref) : Cell where
  prototype := some target
  properties := PropertyTable.insertAll .empty
    ([("value", p.value), ("writable", .boolean p.writable), ("enumerable", .boolean p.enumerable),
      ("configurable", .boolean p.configurable)].map fun e => (.ofString e.1, .assigned e.2))

theorem Property.describes_describing {h : Heap} {d target : Ref} {p : Property}
    (hd : h.cell d = p.describing target) : h.Describes d p := by
  have hfield : ∀ name v, (p.describing target).properties.get? (.name name) =
      some (.assigned v) → h.HasField d name v := by
    intro name v hv
    rw [← hd] at hv
    exact ⟨_, hv, rfl⟩
  have hkeys : Key.ofString "value" = .name "value" ∧ Key.ofString "writable" = .name "writable" ∧
      Key.ofString "enumerable" = .name "enumerable" ∧
      Key.ofString "configurable" = .name "configurable" := by decide +kernel
  constructor <;> refine hfield _ _ ?_ <;>
    simp [describing, PropertyTable.insertAll, OrderedMap.get?_insert, hkeys]

namespace Exec

variable {m : Machine} {r t d : Ref} {v getter definer : Value} {p : Property}

open Reflection in
/-- Describing a property adds the object that describes it. -/
theorem call_getOwnPropertyDescriptor (hc : m.heap.Runs getter .getOwnPropertyDescriptor)
    (hp : m.heap.own? r (m.heap.toKey v) = some p) (this : Value) :
    call getter this [.object r, v] m = .ok (.object ⟨m.heap.size⟩)
      (m.withHeap (m.heap.alloc (p.describing m.realm.intrinsics.objectPrototype)).2) := by
  have hobject : toObject (argument [.object r, v] 0) m = .ok r m := rfl
  have hkey : toKey (argument [.object r, v] 1) m = .ok (m.heap.toKey v) m := rfl
  rw [call_apply_of_runs hc, runBuiltin, getOwnPropertyDescriptor, bind_of_ok hobject,
    bind_of_ok hkey, bind_of_ok (look_apply _ m), hp]
  rfl

open Reflection in
/-- Defining a property as an object describes it. -/
theorem call_defineProperty (hc : m.heap.Runs definer .defineProperty)
    (hd : m.heap.Describes d p) (this : Value) :
    call definer this [.object t, v, .object d] m =
      match m.heap.define t (m.heap.toKey v) (.ofProperty p) with
      | (.ok (), h) => .ok (.object t) (m.withHeap h)
      | (.error f, h) => .error f (m.withHeap h) := by
  have hkey : toKey (argument [.object t, v, .object d] 1) m = .ok (m.heap.toKey v) m := rfl
  have hdescriptor : toDescriptor (argument [.object t, v, .object d] 2) m =
      .ok (.ofProperty p) m := by
    rw [← hd.descriptorOf]
    rfl
  have hrun : runBuiltin .defineProperty this [.object t, v, .object d] m = (do
      let k ← toKey (argument [.object t, v, .object d] 1)
      let d ← toDescriptor (argument [.object t, v, .object d] 2)
      change (·.define t k d)
      return .object t : Exec Value) m := rfl
  rw [call_apply_of_runs hc, hrun, bind_of_ok hkey, bind_of_ok hdescriptor]
  cases hdef : m.heap.define t (m.heap.toKey v) (.ofProperty p) with
  | mk result h =>
    have hchange : change (·.define t (m.heap.toKey v) (.ofProperty p)) m =
        ofExcept result (m.withHeap h) := by
      rw [change_apply, hdef]
    cases result with
    | ok u => exact bind_of_ok hchange
    | error f => exact bind_of_error hchange

theorem call_defineProperty_eq_self_iff (hc : m.heap.Runs definer .defineProperty)
    (hd : m.heap.Describes d p) (hp : m.heap.own? r (m.heap.toKey v) = some p) (this : Value) :
    call definer this [.object r, v, .object d] m = .ok (.object r) m ↔
      m.heap.Recordable r (m.heap.toKey v) p := by
  rw [call_defineProperty hc hd, ← Heap.define_ofProperty_iff hp]
  cases m.heap.define r (m.heap.toKey v) (.ofProperty p) with
  | mk result h =>
    cases result with
    | ok u =>
      simp only [EStateM.Result.ok.injEq, true_and, Prod.mk.injEq]
      constructor
      · intro heq
        exact congrArg Machine.heap heq
      · rintro rfl
        rfl
    | error f => simp

/-- Describing an own property adds an object that describes it. The property may be defined as this
says, to no effect, if it is recordable. -/
theorem exists_description {getter definer v : Value}
    (hg : m.heap.Runs getter .getOwnPropertyDescriptor)
    (hd : m.heap.Runs definer .defineProperty)
    (hp : m.heap.own? r (m.heap.toKey v) = some p) (this : Value) :
    ∃ d m₁, call getter this [.object r, v] m = .ok (.object d) m₁ ∧
      m.heap.Extends m₁.heap ∧ m₁.realm = m.realm ∧ m₁.policy = m.policy ∧
      m₁.heap.Describes d p ∧
      (call definer this [.object r, v, .object d] m₁ = .ok (.object r) m₁ ↔
        m.heap.Recordable r (m.heap.toKey v) p) := by
  have hcall := call_getOwnPropertyDescriptor hg hp this
  generalize hc : p.describing m.realm.intrinsics.objectPrototype = c at hcall
  have hplain : c.kind = .ordinary := hc ▸ rfl
  generalize hm₁ : m.withHeap (m.heap.alloc c).2 = m₁ at hcall
  have hheap : m₁.heap = (m.heap.alloc c).2 := hm₁ ▸ rfl
  have he : m.heap.Extends m₁.heap := hheap ▸ .alloc m.heap c
  have hnew : m₁.heap.cell ⟨m.heap.size⟩ = p.describing m.realm.intrinsics.objectPrototype := by
    rw [hheap, hc]
    exact m.heap.cell_alloc_self c
  have hdescribes := Property.describes_describing hnew
  have hkey : m₁.heap.toKey v = m.heap.toKey v := by rw [hheap, Heap.toKey_alloc hplain]
  have hcell : m₁.heap.cell r = m.heap.cell r := he.cell_eq r (Heap.lt_size_of_own? hp)
  have hp₁ : m₁.heap.own? r (m₁.heap.toKey v) = some p := by
    rw [hkey, Heap.own?, hcell]
    exact hp
  have hruns : m₁.heap.Runs definer .defineProperty := hheap ▸ hd.alloc hplain
  refine ⟨⟨m.heap.size⟩, m₁, hcall, he, hm₁ ▸ rfl, hm₁ ▸ rfl, hdescribes, ?_⟩
  rw [call_defineProperty_eq_self_iff hruns hdescribes hp₁, hkey, Heap.Recordable, Heap.Recordable,
    Heap.kind, Heap.kind, hcell]

end Exec

end ScriptSandbox
