import ScriptSandbox.Proofs.Machine.Description
import ScriptSandbox.Proofs.Machine.TypeObject
import ScriptSandbox.Proofs.World.Errors
import ScriptSandbox.Proofs.World.WellFormed

/-! # Descriptions in a world

What scripts get as the description of a property they may define again: on the same object to no
effect, and on other objects to the same effect. Only an array that has something else than a length
in the place of its length does not take it back.
-/

namespace ScriptSandbox

namespace World

open Machine

variable {history : List Event} {r : Ref}

/-- Lengths are natural and fit, but for those of oversized arrays. -/
theorem recordable_after (hover : ¬Oversized history r) {k : Key} {p : Property}
    (hp : (after history).heap.own? r k = some p) : (after history).heap.Recordable r k p := by
  rintro ha rfl
  obtain ⟨n, w, hlength, hn⟩ := (sound_after history r).length ha
  refine ⟨n, hn hover, ?_⟩
  rw [Heap.own?, hlength.own] at hp
  cases hp
  rfl

/-- Describing an own property gives a new object and changes nothing else. Defining the property as
it is described changes nothing at all, unless it is the length of an array and no natural that fits
there, as never comes about by operations but by making an oversized array. As long as the object
describes the property, defining it on an object that is open and no array and has no such property
stores just that property there. -/
theorem describe_define {m : Machine} {getter definer v : Value} {p : Property}
    (hg : m.heap.Runs getter .getOwnPropertyDescriptor)
    (hd : m.heap.Runs definer .defineProperty)
    (hp : m.heap.own? r (m.heap.toKey v) = some p) (this : Value) :
    ∃ d m₁, Exec.call getter this [.object r, v] m = .ok (.object d) m₁ ∧ m.Extends m₁ ∧
      m₁.heap.Describes d p ∧
      (Exec.call definer this [.object r, v, .object d] m₁ = .ok (.object r) m₁ ↔
        m.heap.Recordable r (m.heap.toKey v) p) ∧
      (∀ history, (after history).heap = m.heap → ¬Oversized history r →
        Exec.call definer this [.object r, v, .object d] m₁ = .ok (.object r) m₁) ∧
      ∀ m₂ : Machine, m₂.heap.Runs definer .defineProperty → m₂.heap.Describes d p → ∀ t,
        t.id < m₂.heap.size → m₂.heap.kind t ≠ .array → (m₂.heap.cell t).isExtensible →
        m₂.heap.own? t (m₂.heap.toKey v) = none →
        ∃ h, Exec.call definer this [.object t, v, .object d] m₂ =
            .ok (.object t) (m₂.withHeap h) ∧
          m₂.heap.Stores t (m₂.heap.toKey v) p h := by
  obtain ⟨d, m₁, hcall, he, hrealm, hpolicy, hdescribes, hagain⟩ :=
    Exec.exists_description hg hd hp this
  refine ⟨d, m₁, hcall, .of_realm_eq he hpolicy hrealm, hdescribes, hagain, ?_, ?_⟩
  · intro history hsame hover
    rw [hagain, ← hsame]
    exact recordable_after hover (hsame.symm ▸ hp)
  · intro m₂ hruns₂ hdescribes₂ t ht ha hx hk
    obtain ⟨h, hdef, hs⟩ := Heap.exists_define_ofProperty ht ha hx hk p
    refine ⟨h, ?_, hs⟩
    rw [Exec.call_defineProperty hruns₂ hdescribes₂ this, hdef]

section Sample

/-- The functions that describe and define properties in the first realm of a world. -/
def describingFunction : Value := .object ⟨19⟩

def definingFunction : Value := .object ⟨20⟩

def objectPrototype : Ref := ⟨0⟩

/-- A frozen array and an open object, in a realm whose objects inherit a field of descriptions. -/
def describing : List Event := founding ++ [
  .perform 0 (.createArray [.null, .number .nan]),
  .perform 0 (.assign objectPrototype (.name "writable") (.boolean true) .silent),
  .perform 0 (.raise ⟨61⟩ .frozen),
  .perform 0 .createObject]

theorem describe_define_frozen : ∃ m place, (after describing).machine? 0 = some (m, place) ∧
    ∃ d m₁ h,
      Exec.call describingFunction .undefined [.object ⟨61⟩, .string "length"] m =
        .ok (.object d) m₁ ∧
      Exec.call definingFunction .undefined [.object ⟨61⟩, .string "length", .object d] m₁ =
        .ok (.object ⟨61⟩) m₁ ∧
      Exec.call definingFunction .undefined [.object ⟨62⟩, .string "length", .object d] m₁ =
        .ok (.object ⟨62⟩) (m₁.withHeap h) ∧
      h.own? ⟨62⟩ .length = some ⟨.ofNat 2, false, false, false⟩ := by
  obtain ⟨⟨m, place⟩, hm⟩ : ∃ e, (after describing).machine? 0 = some e :=
    Option.isSome_iff_exists.1 (by decide +kernel)
  have hheap : m.heap = (after describing).heap := (machine?_eq_some_iff.1 hm).1
  have hfacts : (after describing).heap.kind ⟨19⟩ =
        .function ⟨"getOwnPropertyDescriptor", .builtin .getOwnPropertyDescriptor, 2⟩ ∧
      (after describing).heap.kind ⟨20⟩ = .function ⟨"defineProperty", .builtin .defineProperty, 3⟩ ∧
      (after describing).heap.own? ⟨61⟩ .length = some ⟨.ofNat 2, false, false, false⟩ ∧
      62 < (after describing).heap.size ∧
      ((after describing).heap.cell ⟨62⟩).kind = .ordinary ∧
      ((after describing).heap.cell ⟨62⟩).isExtensible ∧
      ((after describing).heap.cell ⟨62⟩).properties.get? .length = none := by decide +kernel
  rw [← hheap] at hfacts
  obtain ⟨hgetter, hdefiner, hown, hlt, hkind, hopen, hnone⟩ := hfacts
  have hkey : ∀ h : Heap, h.toKey (.string "length") = .length := fun _ =>
    (by decide +kernel : Key.ofString "length" = .length)
  have hover : ¬Oversized describing ⟨61⟩ := by decide +kernel
  have hdefines : m.heap.Runs definingFunction .defineProperty := ⟨_, _, rfl, hdefiner, rfl⟩
  rw [← hkey m.heap] at hown
  obtain ⟨d, m₁, hcall, he, hdescribes, -, hsame, hother⟩ :=
    describe_define ⟨_, _, rfl, hgetter, rfl⟩ hdefines hown .undefined
  have hcell : m₁.heap.cell ⟨62⟩ = m.heap.cell ⟨62⟩ := he.heap.cell_eq _ hlt
  have hdefiner₁ : m₁.heap.kind ⟨20⟩ = m.heap.kind ⟨20⟩ := by
    refine he.heap.kind_eq ?_
    simp [hdefiner]
  obtain ⟨h, hother, hstores⟩ := hother m₁ ⟨_, _, rfl, hdefiner₁.trans hdefiner, rfl⟩ hdescribes
    ⟨62⟩ (hlt.trans_le he.heap.size_le) (by simp [Heap.kind, hcell, hkind])
    (by rw [hcell]; exact hopen) (by rw [hkey, Heap.own?, hcell]; exact hnone)
  refine ⟨m, place, hm, d, m₁, h, hcall, hsame describing hheap.symm hover, hother, ?_⟩
  rw [← hstores.own, hkey]

/-- A method that is put on an array in the place of its length, which nothing checks. To define it
there again is refused, as for all that is no length. -/
theorem describe_define_registered : ¬∀ history i m place s name routine arity m',
    Supports {} history → (after history).machine? i = some (m, place) →
    (Exec.registerMethod s name routine arity).final m = m' → ∀ getter definer r v p,
    m'.heap.Runs getter .getOwnPropertyDescriptor → m'.heap.Runs definer .defineProperty →
    m'.heap.own? r (m'.heap.toKey v) = some p →
    ∃ d m₁, Exec.call getter .undefined [.object r, v] m' = .ok (.object d) m₁ ∧
      Exec.call definer .undefined [.object r, v, .object d] m₁ = .ok (.object r) m₁ := by
  intro hall
  obtain ⟨⟨m, place⟩, hm⟩ : ∃ e, (after describing).machine? 0 = some e :=
    Option.isSome_iff_exists.1 (by decide +kernel)
  have hfacts : ((after describing).machine? 0).all fun e =>
      let h := ((Exec.registerMethod ⟨61⟩ "length" (.callback .noop) 0).final e.1).heap
      h.kind ⟨19⟩ = .function ⟨"getOwnPropertyDescriptor", .builtin .getOwnPropertyDescriptor, 2⟩ ∧
      h.kind ⟨20⟩ = .function ⟨"defineProperty", .builtin .defineProperty, 3⟩ ∧
      h.kind ⟨61⟩ = .array ∧ h.toKey (.string "length") = .length ∧
      h.own? ⟨61⟩ (h.toKey (.string "length")) = some (.hidden (.object ⟨63⟩)) := by decide +kernel
  rw [hm, Option.all_some] at hfacts
  generalize hm' : (Exec.registerMethod ⟨61⟩ "length" (.callback .noop) 0).final m = m' at hfacts
  obtain ⟨hgetter, hdefiner, harray, hkey, hown⟩ := of_decide_eq_true hfacts
  have hg : m'.heap.Runs describingFunction .getOwnPropertyDescriptor := ⟨_, _, rfl, hgetter, rfl⟩
  have hd : m'.heap.Runs definingFunction .defineProperty := ⟨_, _, rfl, hdefiner, rfl⟩
  obtain ⟨d, m₁, hcall, hagain⟩ := hall describing 0 m place ⟨61⟩ "length" (.callback .noop) 0 m'
    (by decide +kernel) hm hm' _ _ _ _ _ hg hd hown
  obtain ⟨d', m₁', hcall', -, -, -, -, hiff⟩ := Exec.exists_description hg hd hown .undefined
  rw [hcall'] at hcall
  cases hcall
  obtain ⟨n, -, hn⟩ := hiff.1 hagain harray hkey
  cases hn

end Sample

end World

end ScriptSandbox
