import ScriptSandbox.Proofs.KeyWalk.Loop
import ScriptSandbox.Proofs.World.WellFormed

/-! # Prototype chains of a world

Whatever happens to a world, no object comes to inherit from itself. So all that follows prototype
links ends, the check for cycles among it, and that check refuses no link but those that would make
a cycle.
-/

namespace ScriptSandbox

namespace Heap

variable {h : Heap} {r : Ref} {k : Key}

namespace WellFormed

variable (hw : h.WellFormed)

include hw

theorem lineage_chain {start : Option Ref} (hs : h.Holds start) :
    h.Lineage start (h.chain start) :=
  Heap.lineage_chain hw.acyclic hw.grounded hs

theorem holds_prototype (r : Ref) : h.Holds (h.prototype r) := hw.grounded r

theorem ends_find? (hr : r.id < h.size) (k : Key) : Ends (h.findTurn k) (some r) (h.find? r k) :=
  (hw.lineage_chain (holds_some hr)).ends_findTurn k

theorem ends_isShielded (hk : h.own? r k = none) :
    Ends (h.shieldTurn k) (h.prototype r) (h.isShielded r k) := by
  have hshield : h.isShielded r k = (h.findFrom (h.prototype r) k).any (¬·.writable) := by
    simp [isShielded, hk]
  rw [hshield]
  exact (hw.lineage_chain (hw.holds_prototype r)).ends_shieldTurn k

theorem ends_inherits (r ancestor : Ref) :
    Ends (h.meetTurn ancestor) (h.prototype r) (h.inherits r ancestor) :=
  (hw.lineage_chain (hw.holds_prototype r)).ends_meetTurn ancestor

end WellFormed

end Heap

namespace World

variable {history : List Event}

/-- No object of a world inherits from itself, and each loop along prototype links ends: looking for
a property, for a read-only one that shields it, for a constructor's prototype, for a cycle, and for
the next name of a walk. Linking an object to a prototype is accepted exactly for the prototype that
it has, or if it is extensible and not on the chain from the new one; and a link makes a cycle
exactly if the object is on that chain. A link that is not accepted changes nothing. -/
theorem prototypes_after (hs : Supports {} history) {h : Heap} (hh : h = (after history).heap) :
    h.Acyclic ∧
    (∀ r k, r.id < h.size → Ends (h.findTurn k) (some r) (h.find? r k)) ∧
    (∀ r k, h.own? r k = none → Ends (h.shieldTurn k) (h.prototype r) (h.isShielded r k)) ∧
    (∀ r ancestor, Ends (h.meetTurn ancestor) (h.prototype r) (h.inherits r ancestor)) ∧
    (∀ w : KeyWalk, h.Holds w.upcoming → Ends (KeyWalk.turn h) w (w.next h)) ∧
    ∀ r target, r.id < h.size → h.Holds target →
      Ends (h.meetTurn r) target (decide (r ∈ h.chain target)) ∧
      (r ∈ h.chain target ↔ h.Reaches target r) ∧
      ((h.put r { h.cell r with prototype := target }).Acyclic ↔ ¬h.Reaches target r) ∧
      ((h.relink r target).1 = .ok () ↔
        target = h.prototype r ∨ (h.cell r).isExtensible ∧ ¬h.Reaches target r) ∧
      (h.relink r target).2 = if (h.relink r target).1 = .ok ()
        then h.put r { h.cell r with prototype := target } else h := by
  subst hh
  have hw := (wellFormed_after hs).heap
  refine ⟨hw.acyclic, fun r k hr => hw.ends_find? hr k, fun r k hk => hw.ends_isShielded hk,
    hw.ends_inherits, fun w hu => KeyWalk.ends_next hw.acyclic hw.grounded hu,
    fun r target hr ht => ⟨(hw.lineage_chain ht).ends_meetTurn r,
      Heap.mem_chain_iff hw.acyclic hw.grounded ht, Heap.acyclic_put_iff hw.acyclic hr, ?_⟩⟩
  exact Heap.relink_spec hw.acyclic hw.grounded ht

/-- The prototype of objects is linked to the global object, once that inherits from it no more. -/
def linking : List Event := [
  .addPolicy {}, .addRealm {} [] 0,
  .perform 0 (.relink ⟨0⟩ (some ⟨1⟩)),
  .perform 0 (.relink ⟨1⟩ none),
  .perform 0 (.relink ⟨0⟩ (some ⟨1⟩))]

theorem prototypes_after_linking : Supports {} linking ∧
    Ends ((after linking).heap.meetTurn ⟨1⟩) (some ⟨0⟩) true ∧
    ((after linking).heap.relink ⟨1⟩ (some ⟨0⟩)).1 ≠ .ok () := by
  have hs : Supports {} linking := by decide +kernel
  have hchain : decide (⟨1⟩ ∈ (after linking).heap.chain (some ⟨0⟩)) = true := by decide +kernel
  have hother : some ⟨0⟩ ≠ (after linking).heap.prototype ⟨1⟩ := by decide +kernel
  obtain ⟨-, -, -, -, -, hlink⟩ := prototypes_after hs rfl
  obtain ⟨hends, hmem, -, hok, -⟩ := hlink ⟨1⟩ (some ⟨0⟩) (by decide +kernel)
    (Heap.holds_some (by decide +kernel))
  rw [hchain] at hends
  refine ⟨hs, hends, fun h => ?_⟩
  exact ((hok.1 h).resolve_left hother).2 (hmem.1 (by simpa using hchain))

end World

end ScriptSandbox
