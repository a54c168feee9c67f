import ScriptSandbox.Proofs.Heap.Assignment
import ScriptSandbox.Proofs.Heap.Definition

/-! # Resizing arrays

An array that is cut back loses its elements from the last one down to the greatest that is locked.
This one stays, with all below it, and decides the length. Assigning a length and defining one come
to the same.
-/

namespace ScriptSandbox

namespace Cell

variable {c d : Cell} {h : Heap} {n m L : Nat} {b b' : ArrayIndex} {is rest : List ArrayIndex}
  {gone : ArrayIndex → Bool} {p : Property}

/-! ### Where a cut stops -/

/-- The greatest index of a locked element, if it is past the end. -/
structure IsStop (c : Cell) (n : Nat) (b : ArrayIndex) : Prop where
  le : n ≤ b.val
  locked : ∃ p, c.properties.get? (.index b) = some p ∧ p.configurable = false
  greatest : ∀ i p, c.properties.get? (.index i) = some p → p.configurable = false → i ≤ b

theorem IsStop.unique (hb : c.IsStop n b) (hb' : c.IsStop n b') : b = b' := by
  obtain ⟨p, hp, hc⟩ := hb.locked
  obtain ⟨p', hp', hc'⟩ := hb'.locked
  exact le_antisymm (hb'.greatest b p hp hc) (hb.greatest b' p' hp' hc')

/-- A cut that goes all the way has no stop and removes all from the new end on. -/
theorem mem_removed_iff_of_stuck_eq_nil (hs : c.stuck n = []) :
    (∀ b, ¬c.IsStop n b) ∧
      ∀ i, .index i ∈ c.properties.keys → (i ∈ c.removed n ↔ n ≤ i.val) := by
  have hall : ∀ i, .index i ∈ c.properties.keys → n ≤ i.val → i ∈ c.removed n := by
    intro i hi hn
    have hmem := mem_removed_or_mem_stuck hi hn
    rw [hs] at hmem
    exact hmem.resolve_right List.not_mem_nil
  constructor
  · rintro b ⟨hle, ⟨p, hp, hc⟩, -⟩
    rw [configurable_of_mem_removed (hall b (OrderedMap.mem_keys_iff.2 ⟨p, hp⟩) hle) hp] at hc
    cases hc
  · intro i hi
    constructor
    · intro hmem
      exact (PropertyTable.mem_indicesFrom_iff.1 ((List.takeWhile_sublist _).mem hmem)).2
    · exact hall i hi

/-- A cut that is held up has its stop there and removes all past it. -/
theorem mem_removed_iff_of_stuck_eq_cons (hs : c.stuck n = b :: rest) :
    c.IsStop n b ∧ ∀ i, .index i ∈ c.properties.keys → (i ∈ c.removed n ↔ b < i) := by
  obtain ⟨⟨hle, hkey⟩, habove, hbelow⟩ := lt_of_stuck_eq_cons hs
  have htaken : ∀ i, .index i ∈ c.properties.keys → (i ∈ c.removed n ↔ b < i) := by
    intro i hi
    constructor
    · exact habove i
    · intro hlt
      have hmem := mem_removed_or_mem_stuck hi (hle.trans (Nat.le_of_lt hlt))
      rw [hs] at hmem
      refine hmem.resolve_right fun hrest => ?_
      rcases List.mem_cons.1 hrest with rfl | hrest
      · exact lt_irrefl _ hlt
      · exact lt_asymm hlt (hbelow i hrest)
  refine ⟨⟨hle, ?_, fun i p hp hc => ?_⟩, htaken⟩
  · obtain ⟨p, hp⟩ := OrderedMap.mem_keys_iff.1 hkey
    have hnot := isRemovable_of_stuck_eq_cons hs
    rw [isRemovable, hp, Option.any_some] at hnot
    exact ⟨p, hp, hnot⟩
  · by_contra hlt
    have hi := (htaken i (OrderedMap.mem_keys_iff.2 ⟨p, hp⟩)).2 (not_le.1 hlt)
    rw [configurable_of_mem_removed hi hp] at hc
    cases hc

/-! ### What a cut leaves -/

theorem keys_removeAll (c : Cell) (is : List ArrayIndex) :
    (c.removeAll is).properties.keys =
      c.properties.keys.filter fun k => !k.index?.any (· ∈ is) := by
  induction is generalizing c with
  | nil =>
    have hall : ∀ k ∈ c.properties.keys, (!k.index?.any (· ∈ ([] : List ArrayIndex))) = true := by
      simp
    exact (List.filter_eq_self.2 hall).symm
  | cons i is ih =>
    have hstep : c.removeAll (i :: is) =
      removeAll { c with properties := c.properties.erase (.index i) } is := rfl
    rw [hstep, ih, OrderedMap.keys_erase, List.filter_filter]
    congr 1
    funext k
    cases k with
    | index j => simp [Key.index?, Bool.and_comm]
    | name s => simp [Key.index?]

/-- The second cell comes from the first by the loss of elements and a new length. -/
structure Resizes (c : Cell) (gone : ArrayIndex → Bool) (p : Property) (d : Cell) : Prop where
  frames : c.Frames d
  length : d.properties.get? .length = some p
  keys : d.properties.keys = c.properties.keys.filter fun k => !k.index?.any gone
  other : ∀ k ∈ d.properties.keys, k ≠ .length → d.properties.get? k = c.properties.get? k

theorem HasLength.resizes_removeAll (hc : c.HasLength L true)
    (hg : ∀ i, .index i ∈ c.properties.keys → (i ∈ is ↔ gone i)) (m : Nat) :
    c.Resizes gone ⟨.ofNat m, true, false, false⟩ ((c.removeAll is).recordLength m) where
  frames := (frames_properties c _).trans (frames_properties _ _)
  length := by
    rw [Cell.recordLength, OrderedMap.get?_modify, if_pos rfl, (hc.removeAll is).own]
    rfl
  keys := by
    rw [Cell.recordLength, OrderedMap.keys_modify, keys_removeAll]
    refine List.filter_congr fun k hk => ?_
    cases k with
    | index i =>
      have hi : decide (i ∈ is) = gone i := Bool.eq_iff_iff.2 (by simpa using hg i hk)
      simp [Key.index?, hi]
    | name s => rfl
  other k hk hne := by
    rw [Cell.recordLength, OrderedMap.keys_modify, mem_keys_removeAll] at hk
    rw [Cell.recordLength, OrderedMap.get?_modify, if_neg hne, get?_removeAll, if_neg hk.2]

theorem Resizes.closeLength (hd : c.Resizes gone p d) :
    c.Resizes gone { p with writable := false } d.closeLength where
  frames := hd.frames.trans (frames_properties _ _)
  length := by
    rw [Cell.closeLength, OrderedMap.get?_modify, if_pos rfl, hd.length]
    rfl
  keys := by rw [Cell.closeLength, OrderedMap.keys_modify, hd.keys]
  other k hk hne := by
    rw [Cell.closeLength, OrderedMap.keys_modify] at hk
    rw [Cell.closeLength, OrderedMap.get?_modify, if_neg hne, hd.other k hk hne]

/-- A length may be closed after the cell got it. -/
theorem Resizes.ite_closeLength (hd : c.Resizes gone ⟨.ofNat m, true, false, false⟩ d)
    (close : Bool) :
    c.Resizes gone ⟨.ofNat m, !close, false, false⟩ (if close then d.closeLength else d) := by
  cases close with
  | true => exact hd.closeLength
  | false => exact hd

end Cell

namespace Heap

variable {h : Heap} {r : Ref} {c d : Cell} {n m L : Nat} {b : ArrayIndex} {v : Value}
  {gone : ArrayIndex → Bool} {p : Property} {result : Except Failure Unit}

/-! ### Outcomes of resizing -/

theorem resize_of_le (hle : h.storedLength c ≤ n) (close : Bool) : h.resize c n close =
    (.ok (), if close then (c.recordLength n).closeLength else c.recordLength n) := by
  simp [resize, Nat.not_lt.2 hle]

theorem resize_of_lt (hlt : n < h.storedLength c) (close : Bool) : h.resize c n close =
    ((match (c.cut n).2 with
      | some i => .error (.notConfigurable (.index i))
      | none => .ok ()), if close then (c.cut n).1.closeLength else (c.cut n).1) := by
  simp only [resize, if_pos hlt]
  cases (c.cut n).2 <;> rfl

/-- Resizing a cell has this result and leaves that much of it. -/
def ResizesTo (h : Heap) (c : Cell) (n : Nat) (gone : ArrayIndex → Bool) (m : Nat)
    (result : Except Failure Unit) : Prop :=
  ∀ close, ∃ d, h.resize c n close = (result, d) ∧
    c.Resizes gone ⟨.ofNat m, !close, false, false⟩ d

section Resize

variable (hc : c.HasLength L true) (hL : L ≤ maxLength)

include hc hL

theorem storedLength_eq : h.storedLength c = L := by rw [hc.storedLength, Nat.min_eq_left hL]

theorem resizesTo_of_le (hle : L ≤ n) : h.ResizesTo c n (fun _ => false) n (.ok ()) := by
  intro close
  rw [← storedLength_eq (h := h) hc hL] at hle
  have hnone : ∀ i, .index i ∈ c.properties.keys → (i ∈ ([] : List ArrayIndex) ↔ false) := by simp
  exact ⟨_, resize_of_le hle close, (hc.resizes_removeAll hnone n).ite_closeLength close⟩

theorem resizesTo_of_no_stop (hlt : n < L) (hn : ∀ b, ¬c.IsStop n b) :
    h.ResizesTo c n (n ≤ ·.val) n (.ok ()) := by
  intro close
  rw [← storedLength_eq (h := h) hc hL] at hlt
  cases hd : c.stuck n with
  | nil =>
    obtain ⟨-, htaken⟩ := Cell.mem_removed_iff_of_stuck_eq_nil hd
    have hcut := c.cut_eq n
    rw [hd, List.head?_nil, Option.map_none, Option.getD_none] at hcut
    refine ⟨_, by rw [resize_of_lt hlt, hcut], Cell.Resizes.ite_closeLength ?_ close⟩
    exact hc.resizes_removeAll (fun i hi => by rw [htaken i hi, decide_eq_true_eq]) n
  | cons b rest => exact absurd (Cell.mem_removed_iff_of_stuck_eq_cons hd).1 (hn b)

theorem resizesTo_of_isStop (hlt : n < L) (hb : c.IsStop n b) :
    h.ResizesTo c n (b < ·) (b.val + 1) (.error (.notConfigurable (.index b))) := by
  intro close
  rw [← storedLength_eq (h := h) hc hL] at hlt
  cases hd : c.stuck n with
  | nil => exact absurd hb ((Cell.mem_removed_iff_of_stuck_eq_nil hd).1 b)
  | cons b' rest =>
    obtain ⟨hb', htaken⟩ := Cell.mem_removed_iff_of_stuck_eq_cons hd
    cases hb'.unique hb
    have hcut := c.cut_eq n
    rw [hd, List.head?_cons, Option.map_some, Option.getD_some] at hcut
    refine ⟨_, by rw [resize_of_lt hlt, hcut], Cell.Resizes.ite_closeLength ?_ close⟩
    exact hc.resizes_removeAll (fun i hi => by rw [htaken i hi, decide_eq_true_eq]) _

end Resize

/-! ### The two ways to give an array a length -/

/-- The second heap comes from the first by the loss of elements of an array and a new length. -/
structure Resizes (h : Heap) (r : Ref) (gone : ArrayIndex → Bool) (p : Property) (h' : Heap) :
    Prop where
  size : h'.size = h.size
  cell : ∀ s, s ≠ r → h'.cell s = h.cell s
  self : (h.cell r).Resizes gone p (h'.cell r)

theorem resizes_put (hr : r.id < h.size) (hd : (h.cell r).Resizes gone p d) :
    h.Resizes r gone p (h.put r d) where
  size := size_put _ _ _
  cell s hs := cell_put_of_ne hs _ _
  self := by rwa [cell_put_self hr]

/-- Assigning a value to the length of an array and defining one with it lose the same elements,
leave the same length, and report the same, but for what the write mode makes of it. -/
structure TakesLength (h : Heap) (r : Ref) (v : Value) (gone : ArrayIndex → Bool) (m : Nat)
    (result : Except Failure Unit) : Prop where
  strict : (h.set r .length v .strict).1 = result.map fun _ => true
  silent : (h.set r .length v .silent).1 = .ok result.isOk
  set : ∀ mode, h.Resizes r gone ⟨.ofNat m, true, false, false⟩ (h.set r .length v mode).2
  define : ∀ d : Descriptor, d.value = some v → d.enumerable ≠ some true →
    d.configurable ≠ some true → (h.define r .length d).1 = result ∧
      h.Resizes r gone ⟨.ofNat m, d.writable ≠ some false, false, false⟩ (h.define r .length d).2

section Length

variable (ha : h.kind r = .array) (hc : (h.cell r).HasLength L true)
  (hn : h.arrayLength? v = some n)

include ha hc hn

theorem assign_length (hd : h.resize (h.cell r) n false = (result, d)) :
    h.assign r .length v = (result, h.put r d) := by
  have harray : (h.cell r).isArray := by simpa [Cell.isArray, kind] using ha
  rw [assign_of_own? hc.own]
  apply changeCell_of_eq
  simp only [assignIn, hc.own, harray, hn, not_true_eq_false, if_false, and_self, if_true, hd]

theorem define_length {desc : Descriptor} (hv : desc.value = some v)
    (henum : desc.enumerable ≠ some true) (hconf : desc.configurable ≠ some true)
    (hd : h.resize (h.cell r) n (desc.writable = some false) = (result, d)) :
    h.define r .length desc = (result, h.put r d) := by
  have harray : (h.cell r).isArray := by simpa [Cell.isArray, kind] using ha
  have hsuits : { desc with value := none }.suits ⟨.ofNat L, true, false, false⟩ := by
    rw [Descriptor.suits_iff]
    refine Or.inr ⟨hconf, fun e he => ?_, ?_, ?_⟩
    · cases e with
      | true => exact absurd he henum
      | false => rfl
    · rintro ⟨⟩
    · rintro ⟨⟩
  rw [Heap.define]
  apply changeCell_of_eq
  simp only [defineIn, harray, and_self, if_true, defineLength, hc.own, hv, hn, hsuits, true_or, hd]

theorem takesLength_of_resizesTo (hr : h.ResizesTo (h.cell r) n gone m result)
    (hresult : ∀ f, result = .error f → f.isWriteRejection) : h.TakesLength r v gone m result := by
  have hsize : r.id < h.size := lt_size_of_own? hc.own
  obtain ⟨d, hd, hres⟩ := hr false
  have hassign := assign_length ha hc hn hd
  constructor
  case strict =>
    simp only [Heap.set, hassign]
    cases result with
    | ok u => rfl
    | error f => simp [WriteMode.settle_error (hresult f rfl), Except.map]
  case silent =>
    simp only [Heap.set, hassign]
    cases result with
    | ok u => rfl
    | error f => simp [WriteMode.settle_error (hresult f rfl), Except.isOk, Except.toBool]
  case set =>
    intro mode
    simp only [Heap.set, hassign]
    exact resizes_put hsize hres
  case define =>
    intro desc hv henum hconf
    obtain ⟨d', hd', hres'⟩ := hr (desc.writable = some false)
    rw [define_length ha hc hn hv henum hconf hd']
    exact ⟨rfl, by simpa using resizes_put hsize hres'⟩

end Length

/-- An array that gets a length no less than its own just records it. One that is cut back loses all
elements from the new length on, or else those past the greatest locked one, which is reported and
keeps the length above itself. -/
theorem takesLength_of_hasLength (ha : h.kind r = .array) (hc : (h.cell r).HasLength L true)
    (hL : L ≤ maxLength) (hn : h.arrayLength? v = some n) :
    (L ≤ n → h.TakesLength r v (fun _ => false) n (.ok ())) ∧
    (n < L → (∀ b, ¬(h.cell r).IsStop n b) → h.TakesLength r v (n ≤ ·.val) n (.ok ())) ∧
    (n < L → ∀ b, (h.cell r).IsStop n b →
      h.TakesLength r v (b < ·) (b.val + 1) (.error (.notConfigurable (.index b)))) := by
  refine ⟨fun hle => ?_, fun hlt hnone => ?_, fun hlt b hb => ?_⟩
  · exact takesLength_of_resizesTo ha hc hn (resizesTo_of_le hc hL hle) nofun
  · exact takesLength_of_resizesTo ha hc hn (resizesTo_of_no_stop hc hL hlt hnone) nofun
  · refine takesLength_of_resizesTo ha hc hn (resizesTo_of_isStop hc hL hlt hb) ?_
    rintro f ⟨⟩
    rfl

/-- A sparse array with a locked element among others. -/
def heldUp : Heap where
  cells := #[
    { properties := PropertyTable.insertAll .empty [
        (.length, ⟨.ofNat 7, true, false, false⟩), (.index ⟨5, by decide⟩, .assigned .null),
        (.index ⟨2, by decide⟩, ⟨.null, true, true, false⟩),
        (.index ⟨0, by decide⟩, .assigned .null)]
      kind := .array }]

theorem hasLength_heldUp : (heldUp.cell ⟨0⟩).HasLength 7 true where
  own := by decide +kernel
  lt {i} hi := by
    have hkeys : (heldUp.cell ⟨0⟩).properties.keys =
      [.length, .index ⟨5, by decide⟩, .index ⟨2, by decide⟩, .index ⟨0, by decide⟩] := rfl
    rw [hkeys] at hi
    simp only [Key.length, List.mem_cons, reduceCtorEq, Key.index.injEq, List.not_mem_nil, false_or,
      or_false] at hi
    rcases hi with rfl | rfl | rfl <;> decide

theorem isStop_heldUp : (heldUp.cell ⟨0⟩).IsStop 1 ⟨2, by decide⟩ where
  le := by decide
  locked := ⟨⟨.null, true, true, false⟩, by decide +kernel, rfl⟩
  greatest i p hp hc := by
    by_contra hlt
    have hi : i.val < 7 := hasLength_heldUp.lt (OrderedMap.mem_keys_iff.2 ⟨p, hp⟩)
    have hnone : ∀ j : Fin 7, 2 < j.val →
        ((heldUp.cell ⟨0⟩).properties.get? (.ofNat j.val)).all Property.configurable := by
      decide +kernel
    have hall := hnone ⟨i.val, hi⟩ (Nat.not_le.1 hlt)
    rw [Key.ofNat, dif_pos i.isLt, hp, Option.all_some, hc] at hall
    cases hall

theorem takesLength_of_hasLength_heldUp :
    heldUp.kind ⟨0⟩ = .array ∧ 7 ≤ maxLength ∧
    heldUp.arrayLength? (.boolean true) = some 1 ∧
    (heldUp.set ⟨0⟩ .length (.boolean true) .silent).1 = .ok false ∧
    (heldUp.set ⟨0⟩ .length (.boolean true) .silent).2.own? ⟨0⟩ .length =
      some ⟨.ofNat 3, true, false, false⟩ ∧
    ((heldUp.define ⟨0⟩ .length { value := some (.boolean true), writable := some false }).2.cell
      ⟨0⟩).properties.keys = [.length, .index ⟨2, by decide⟩, .index ⟨0, by decide⟩] := by
  have hn : heldUp.arrayLength? (.boolean true) = some 1 := by decide +kernel
  have htakes := (takesLength_of_hasLength rfl hasLength_heldUp (by decide) hn).2.2 (by decide) _
    isStop_heldUp
  refine ⟨rfl, by decide, hn, htakes.silent, (htakes.set .silent).self.length, ?_⟩
  rw [(htakes.define _ rfl (by decide) (by decide)).2.self.keys]
  decide +kernel

end Heap

end ScriptSandbox
