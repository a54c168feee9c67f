import ScriptSandbox.Heap.Assign
import ScriptSandbox.Proofs.Heap.Chain

/-! # Loops along prototype chains

A walk along a chain follows the prototype links with nothing to bound it, one object in each turn of
a loop. On a chain that comes to an end each of these loops ends, with the answer that the bounded
walks of the library give.
-/

namespace ScriptSandbox

/-- A loop comes from a state to an end with an answer. Each turn leads to the next state, or to the
end. -/
inductive Ends {σ ρ : Type} (turn : σ → σ ⊕ ρ) : σ → ρ → Prop
  | stop {s : σ} {a : ρ} (h : turn s = .inr a) : Ends turn s a
  | go {s t : σ} {a : ρ} (h : turn s = .inl t) (ht : Ends turn t a) : Ends turn s a

/-- What each turn keeps up to the last one carries over to the answer. -/
theorem Ends.of_invariant {σ ρ : Type} {turn : σ → σ ⊕ ρ} {s : σ} {a : ρ} {I : σ → Prop}
    {Q : ρ → Prop} (he : Ends turn s a) (hs : I s) (hgo : ∀ s t, I s → turn s = .inl t → I t)
    (hstop : ∀ s a, I s → turn s = .inr a → Q a) : Q a := by
  induction he with
  | stop h => exact hstop _ _ hs h
  | go h _ ih => exact ih (hgo _ _ hs h)

namespace Heap

variable {h : Heap} {start : Option Ref} {rs : List Ref}

/-- Looking for the nearest property of a key. -/
def findTurn (h : Heap) (k : Key) : Option Ref → Option Ref ⊕ Option Property
  | none => .inr none
  | some r =>
    match h.own? r k with
    | some p => .inr (some p)
    | none => .inl (h.prototype r)

/-- Looking for a read-only property of a key with none of the key before it. -/
def shieldTurn (h : Heap) (k : Key) : Option Ref → Option Ref ⊕ Bool
  | none => .inr false
  | some r =>
    match h.own? r k with
    | some p => if p.writable then .inl none else .inr true
    | none => .inl (h.prototype r)

/-- Looking for an object. -/
def meetTurn (h : Heap) (r : Ref) : Option Ref → Option Ref ⊕ Bool
  | none => .inr false
  | some s => if s = r then .inr true else .inl (h.prototype s)

theorem Lineage.ends_findTurn (hl : h.Lineage start rs) (k : Key) :
    Ends (h.findTurn k) start (rs.findSome? (h.own? · k)) := by
  induction hl with
  | nil => exact .stop rfl
  | @cons r rs _ ih =>
    rw [List.findSome?_cons]
    cases hp : h.own? r k with
    | some p => exact .stop (by simp [findTurn, hp])
    | none => exact .go (by simp [findTurn, hp]) ih

theorem Lineage.ends_shieldTurn (hl : h.Lineage start rs) (k : Key) :
    Ends (h.shieldTurn k) start ((rs.findSome? (h.own? · k)).any (¬·.writable)) := by
  induction hl with
  | nil => exact .stop rfl
  | @cons r rs _ ih =>
    rw [List.findSome?_cons]
    cases hp : h.own? r k with
    | some p =>
      by_cases hw : p.writable
      · have hturn : h.shieldTurn k (some r) = .inl none := by simp [shieldTurn, hp, hw]
        have hend : Ends (h.shieldTurn k) (some r) false := .go hturn (.stop rfl)
        simpa [hw] using hend
      · have hturn : h.shieldTurn k (some r) = .inr true := by simp [shieldTurn, hp, hw]
        have hend : Ends (h.shieldTurn k) (some r) true := .stop hturn
        simpa [hw] using hend
    | none =>
      have hturn : h.shieldTurn k (some r) = .inl (h.prototype r) := by simp [shieldTurn, hp]
      exact .go hturn ih

theorem Lineage.ends_meetTurn (hl : h.Lineage start rs) (r : Ref) :
    Ends (h.meetTurn r) start (decide (r ∈ rs)) := by
  induction hl with
  | nil => exact .stop rfl
  | @cons s rs _ ih =>
    by_cases hs : s = r
    · exact .stop (by simp [meetTurn, hs])
    · have hmem : decide (r ∈ s :: rs) = decide (r ∈ rs) := by simp [Ne.symm hs]
      rw [hmem]
      exact .go (if_neg hs) ih

end Heap

end ScriptSandbox
