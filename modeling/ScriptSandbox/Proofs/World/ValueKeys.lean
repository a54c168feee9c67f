import ScriptSandbox.Proofs.Number.RoundTrip
import ScriptSandbox.Proofs.World.Boxes
import ScriptSandbox.Proofs.World.Keys

/-! # Keys of values

A value names the property that its text names. For a number the key is read off the value and not
off the text, and the two still agree: the numbers that are written like an index are those that
have its value, and only the zeros are written alike. An object that is its own length has no text
to be read.
-/

namespace ScriptSandbox

namespace Key

variable {x y : Number} {i : ArrayIndex}

theorem ofNumber_eq_index_iff : ofNumber x = index i ↔ x.toNat? = some i.val := by
  unfold ofNumber
  constructor
  · intro h
    split at h
    · rename_i n hn
      split at h
      · rw [hn, ← Key.index.inj h]
      · cases h
    · cases h
  · intro hx
    simp only [hx, dif_pos i.isLt]

/-- The key of a number that is no index is its text. -/
theorem ofNumber_eq_name (hx : ∀ i : ArrayIndex, x.toNat? ≠ some i.val) :
    ofNumber x = name x.text := by
  rw [ofNumber_eq]
  refine ofString_eq_name fun i h => hx i ?_
  rwa [← ofNumber_eq, ofNumber_eq_index_iff] at h

theorem ofNumber_eq_iff : ofNumber x = ofNumber y ↔ x = y ∨ x.equals .zero ∧ y.equals .zero := by
  rw [ofNumber_eq, ofNumber_eq, ofString_injective.eq_iff, Number.text_eq_iff]

end Key

namespace Machine

open World

/-- A value names the key of its text. So does what a call of the constructor of boxed texts makes
of it, if the value has a text, as all values have but objects that are their own length. A number
names an index exactly if it is that index, its text otherwise, and two numbers name one key exactly
if they are equal or both zero. -/
theorem toKey_eq_toKey_text (m : Machine) :
    (∀ v, m.heap.toKey v = .ofString (m.heap.text v)) ∧
    (∀ v callee, m.heap.Runs callee .string →
      (∀ r, v = .object r → ¬m.heap.MeasuresItself r) →
      ∃ s, Exec.call callee .undefined [v] m = .ok (.string s) m ∧
        m.heap.toKey (.string s) = m.heap.toKey v) ∧
    (∀ x i, m.heap.toKey (.number x) = .index i ↔ x.toNat? = some i.val) ∧
    (∀ x : Number, (∀ i : ArrayIndex, x.toNat? ≠ some i.val) →
      m.heap.toKey (.number x) = .name x.text) ∧
    ∀ x y, m.heap.toKey (.number x) = m.heap.toKey (.number y) ↔
      x = y ∨ x.equals .zero ∧ y.equals .zero := by
  refine ⟨Key.toKey_eq m.heap, ?_, ?_, ?_, ?_⟩
  · intro v callee hc hv
    have htext : m.heap.text? v ≠ none := by
      rw [Ne, Heap.text?_eq_none_iff]
      rintro ⟨r, hr, hmeasures⟩
      exact hv r hr hmeasures
    have hcall : Exec.call callee .undefined [v] m = .ok (.string (m.heap.text v)) m :=
      Exec.call_of_not_isFresh (b := .string) hc (.text (Heap.text?_eq_some_text htext)) rfl
    exact ⟨_, hcall, (Key.toKey_eq m.heap v).symm⟩
  · intro x i
    exact Key.ofNumber_eq_index_iff
  · intro x hx
    exact Key.ofNumber_eq_name hx
  · intro x y
    exact Key.ofNumber_eq_iff

theorem toKey_eq_toKey_text_founding : ∃ m place, (after founding).machine? 0 = some (m, place) ∧
    m.heap.Runs (.object stringConstructor) .string ∧
    (∃ s, Exec.call (.object stringConstructor) .undefined [.number (.ofNat 7)] m =
        .ok (.string s) m ∧
      m.heap.toKey (.string s) = .ofNat 7) ∧
    m.heap.toKey (.number (.ofNat maxLength)) = .name (Number.ofNat maxLength).text := by
  obtain ⟨⟨m, place⟩, hm⟩ : ∃ e, (after founding).machine? 0 = some e :=
    Option.isSome_iff_exists.1 (by decide +kernel)
  have hfunction : ((after founding).machine? 0).all fun e =>
      e.1.heap.kind stringConstructor = .function ⟨"String", .builtin .string, 1⟩ := by
    decide +kernel
  rw [hm, Option.all_some, decide_eq_true_eq] at hfunction
  have hruns : m.heap.Runs (.object stringConstructor) .string := ⟨_, _, rfl, hfunction, rfl⟩
  obtain ⟨-, hcall, hindex, hname, -⟩ := m.toKey_eq_toKey_text
  obtain ⟨s, hs, hkey⟩ := hcall (.number (.ofNat 7)) _ hruns (fun _ h => Value.noConfusion h)
  have hseven : m.heap.toKey (.number (.ofNat 7)) = .ofNat 7 :=
    (hindex _ ⟨7, by decide⟩).2 (Number.toNat?_ofNat (by decide))
  refine ⟨m, place, hm, hruns, ⟨s, hs, hkey.trans hseven⟩, hname _ fun i hi => ?_⟩
  rw [Number.toNat?_ofNat (by decide), Option.some.injEq] at hi
  exact i.isLt.ne hi.symm

end Machine

end ScriptSandbox
