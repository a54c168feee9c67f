import Mathlib.Tactic.SplitIfs
import ScriptSandbox.Heap.Assign

/-! # What a change of properties leaves alone

Assigning, defining and deleting change nothing of a cell but its properties, whether they succeed
or not.
-/

namespace ScriptSandbox

namespace Cell

variable {c d e : Cell}

/-- The cells differ in their properties at most. -/
structure Frames (c d : Cell) : Prop where
  kind : d.kind = c.kind
  level : d.level = c.level
  prototype : d.prototype = c.prototype

protected theorem Frames.refl (c : Cell) : c.Frames c := ⟨rfl, rfl, rfl⟩

protected theorem Frames.trans (h : c.Frames d) (h' : d.Frames e) : c.Frames e :=
  ⟨h'.kind.trans h.kind, h'.level.trans h.level, h'.prototype.trans h.prototype⟩

theorem frames_properties (c : Cell) (t : PropertyTable) : c.Frames { c with properties := t } :=
  ⟨rfl, rfl, rfl⟩

theorem frames_redefine (c : Cell) (k : Key) (p : Property) (d : Descriptor) :
    c.Frames (c.redefine k p d).2 := by
  unfold redefine
  split
  · exact c.frames_properties _
  · exact .refl c

theorem frames_delete (c : Cell) (k : Key) : c.Frames (c.delete k).2 := by
  unfold delete
  split
  · exact c.frames_properties _
  · exact .refl c

end Cell

namespace Heap

open Cell

variable (h : Heap) (c : Cell) {d : Cell} (k : Key)

/-- The cell that a resizing leaves, before it closes the length. -/
def resized (n : Nat) : Cell := if n < h.storedLength c then (c.cut n).1 else c.recordLength n

theorem resize_snd (n : Nat) (close : Bool) :
    (h.resize c n close).2 =
      if close then (h.resized c n).closeLength else h.resized c n := by
  simp only [resize, resized]
  split_ifs <;> split <;> rfl

theorem frames_resize (n : Nat) (close : Bool) : c.Frames (h.resize c n close).2 := by
  have hr : c.Frames (h.resized c n) := by
    unfold resized
    split <;> exact c.frames_properties _
  rw [resize_snd]
  split
  · exact hr.trans (frames_properties _ _)
  · exact hr

variable {h c k} in
theorem frames_grow (hg : h.grow c k = .ok d) : c.Frames d := by
  unfold grow at hg
  split at hg
  · cases hg
    exact .refl c
  · split_ifs at hg <;> cases hg
    · exact .refl c
    · exact c.frames_properties _

theorem frames_add (p : Property) : c.Frames (h.add c k p).2 := by
  unfold add
  split
  · split
    · rename_i hg
      exact (frames_grow hg).trans (frames_properties _ _)
    · exact .refl c
  · exact .refl c

theorem frames_defineLength (d : Descriptor) : c.Frames (h.defineLength c d).2 := by
  unfold defineLength
  split
  · exact .refl c
  · exact c.frames_redefine _ _ _
  · split
    · exact .refl c
    · split
      · exact h.frames_resize c _ _
      · exact .refl c

theorem frames_defineIn (d : Descriptor) : c.Frames (h.defineIn c k d).2 := by
  unfold defineIn
  split
  · exact h.frames_defineLength c d
  · split
    · exact c.frames_redefine _ _ _
    · exact h.frames_add c k _

theorem frames_assignIn (v : Value) : c.Frames (h.assignIn c k v).2 := by
  unfold assignIn
  split
  · exact h.frames_add c k _
  · split
    · exact .refl c
    · split
      · split
        · exact .refl c
        · exact h.frames_resize c _ _
      · exact c.frames_properties _

end Heap

end ScriptSandbox
