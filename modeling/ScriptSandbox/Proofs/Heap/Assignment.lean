import ScriptSandbox.Proofs.Heap.Chain
import ScriptSandbox.Proofs.Heap.Storing

/-! # What an assignment does

An own property decides about an assignment to its key. Where there is none, the nearest inherited
one may shield the key, then the object may be closed to new keys, and then a read-only length may
keep an array from growing. An assignment that nothing refuses stores the value, in either mode.
-/

namespace ScriptSandbox

theorem WriteMode.settle_error {f : Failure} (hf : f.isWriteRejection) (mode : WriteMode) :
    mode.settle (.error f) = if mode = .strict then .error f else .ok false := by
  cases mode <;> simp [settle, reject, hf]

namespace Heap

variable {h h' : Heap} {r : Ref} {start : Option Ref} {rs : List Ref} {k : Key} {p : Property}
  {v : Value} {f : Failure}

/-! ### The nearest property -/

/-- The nearest property of a key along the prototype links from a start. -/
inductive Nearest (h : Heap) (k : Key) : Option Ref → Property → Prop
  | here {r : Ref} {p : Property} (hp : h.own? r k = some p) : Nearest h k (some r) p
  | above {r : Ref} {p : Property} (hk : h.own? r k = none) (hp : Nearest h k (h.prototype r) p) :
      Nearest h k (some r) p

theorem Lineage.findSome?_eq_some_iff (hl : h.Lineage start rs) :
    rs.findSome? (h.own? · k) = some p ↔ h.Nearest k start p := by
  induction hl with
  | nil =>
    constructor
    · rintro ⟨⟩
    · rintro ⟨⟩
  | @cons r rs _ ih =>
    rw [List.findSome?_cons]
    constructor
    · intro hp
      cases hk : h.own? r k with
      | some q =>
        rw [hk] at hp
        cases hp
        exact .here hk
      | none =>
        rw [hk] at hp
        exact .above hk (ih.1 hp)
    · intro hp
      cases hp with
      | here hp => rw [hp]
      | above hk hp =>
        rw [hk]
        exact ih.2 hp

theorem findFrom_eq_some_iff (ha : h.Acyclic) (hg : h.Grounded) (hs : h.Holds start) :
    h.findFrom start k = some p ↔ h.Nearest k start p :=
  (lineage_chain ha hg hs).findSome?_eq_some_iff

/-- The object lacks the key, and nothing that it inherits shields it. -/
structure IsOpenTo (h : Heap) (r : Ref) (k : Key) : Prop where
  own : h.own? r k = none
  inherited : ∀ p, h.Nearest k (h.prototype r) p → p.writable = true

/-- What speaks against an assignment; each reason counts only where those before it do not. -/
inductive Refuses (h : Heap) (r : Ref) (k : Key) : Failure → Prop
  | readOnly {p : Property} (hp : h.own? r k = some p) (hw : p.writable = false) :
      Refuses h r k (.frozenWrite k)
  | shielded {p : Property} (hk : h.own? r k = none) (hp : h.Nearest k (h.prototype r) p)
      (hw : p.writable = false) : Refuses h r k (.frozenWrite k)
  | closed (ho : h.IsOpenTo r k) (hx : (h.cell r).isExtensible = false) :
      Refuses h r k (.notExtensible k)
  | full (ho : h.IsOpenTo r k) (hx : (h.cell r).isExtensible = true) (hl : h.Overflows r k) :
      Refuses h r k (.frozenWrite .length)

theorem Refuses.isWriteRejection (hf : h.Refuses r k f) : f.isWriteRejection := by
  cases hf <;> rfl

theorem assign_of_own? (hp : h.own? r k = some p) (v : Value) :
    h.assign r k v = h.changeCell r (h.assignIn · k v) := by
  have hs : ¬h.isShielded r k := by simp [isShielded, hp]
  rw [assign, if_neg hs]

section Assign

variable (ha : h.Acyclic) (hg : h.Grounded)

include ha hg

end Assign

/-! ### Assignments that go through -/

/-- The key is the length that an array has. -/
def IsOwnLength (h : Heap) (r : Ref) (k : Key) : Prop :=
  h.kind r = .array ∧ k = .length ∧ h.own? r k ≠ none

/-- The property that an assignment leaves under a key. -/
def written (h : Heap) (r : Ref) (k : Key) (v : Value) : Property :=
  match h.own? r k with
  | some p => { p with value := v }
  | none => .assigned v

end Heap

end ScriptSandbox
