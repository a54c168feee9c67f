import ScriptSandbox.Proofs.Cell.Length

/-! # Sound cells

A cell is sound if its level has been carried out on its properties and, for an array, if it has a
length, which no array has beyond the greatest unless it was made so. Assigning, defining, deleting
and closing keep a cell sound, and change it only as it may evolve, whether they succeed or not.
-/

namespace ScriptSandbox

namespace Cell

/-- The cell is closed as its level asks, and an array has a length, which may be said to fit. -/
structure Sound (c : Cell) (fits : Prop) : Prop where
  closed : c.Closed
  length : c.kind = .array → ∃ n w, c.HasLength n w ∧ (fits → n ≤ maxLength)

variable {c d : Cell} {k : Key} {p : Property} {fits : Prop}

theorem Sound.mono {fits' : Prop} (hf : fits' → fits) (hc : c.Sound fits) : c.Sound fits' where
  closed := hc.closed
  length ha := by
    obtain ⟨n, w, hn, hle⟩ := hc.length ha
    exact ⟨n, w, hn, fun h => hle (hf h)⟩

theorem Sound.toFits (hc : c.Sound fits) (hf : fits) : c.Fits := by
  intro ha
  obtain ⟨n, w, hn, hle⟩ := hc.length ha
  exact hn.fits (hle hf) ha

/-- What may become of a sound cell by an operation that does not raise its level. A length that is
new is one that fits. -/
structure Moves (c d : Cell) : Prop where
  evolves : c.Evolves d
  level : d.level = c.level
  length : c.kind = .array → ∀ {n w}, c.HasLength n w →
    ∃ n' w', d.HasLength n' w' ∧ (n' = n ∨ n' ≤ maxLength)

protected theorem Moves.refl (c : Cell) : c.Moves c :=
  ⟨.refl c, rfl, fun _ n w hn => ⟨n, w, hn, Or.inl rfl⟩⟩

protected theorem Moves.trans {e : Cell} (h : c.Moves d) (h' : d.Moves e) : c.Moves e where
  evolves := h.evolves.trans h'.evolves
  level := h'.level.trans h.level
  length hk n w hn := by
    obtain ⟨n', w', hn', hle⟩ := h.length hk hn
    obtain ⟨n'', w'', hn'', hle'⟩ := h'.length (h.evolves.kind.trans hk) hn'
    refine ⟨n'', w'', hn'', ?_⟩
    rcases hle' with rfl | hle'
    · exact hle
    · exact Or.inr hle'

theorem Moves.sound (h : c.Moves d) (hc : c.Sound fits) : d.Sound fits where
  closed := h.evolves.closed h.level hc.closed
  length hk := by
    rw [h.evolves.kind] at hk
    obtain ⟨n, w, hn, hle⟩ := hc.length hk
    obtain ⟨n', w', hn', hle'⟩ := h.length hk hn
    refine ⟨n', w', hn', fun hf => ?_⟩
    rcases hle' with rfl | hle'
    · exact hle hf
    · exact hle'

theorem moves_modify {f : Property → Property} (hk : c.isArray → k ≠ .length)
    (hf : ∀ p, c.properties.get? k = some p → p.Yields (k = .length → c.Fits) (f p)) :
    c.Moves { c with properties := c.properties.modify k f } where
  evolves := evolves_modify hf
  level := rfl
  length ha n w hn := ⟨n, w, hn.modify (hk (by simp [isArray, ha])) f, Or.inl rfl⟩

theorem moves_redefine {d : Descriptor} (hp : c.properties.get? k = some p)
    (hk : c.isArray → k = .length → d.value = none) : c.Moves (c.redefine k p d).2 := by
  unfold redefine
  split
  · rename_i hs
    have hy : ∀ q, c.properties.get? k = some q →
        q.Yields (k = .length → c.Fits) (d.applyTo q) := by
      intro q hq
      rw [hp, Option.some.injEq] at hq
      exact hq ▸ Descriptor.yields_applyTo hs _
    refine ⟨evolves_modify hy, rfl, fun ha n w hn => ?_⟩
    by_cases hkl : k = .length
    · subst hkl
      have hv := hk (by simp [isArray, ha]) rfl
      obtain ⟨hcfg, he, -⟩ := hy _ hn.own rfl
      refine ⟨n, (d.applyTo ⟨.ofNat n, w, false, false⟩).writable, ⟨?_, fun hi => ?_⟩, Or.inl rfl⟩
      · rw [OrderedMap.get?_modify, if_pos rfl, hn.own, Option.map_some]
        simp only [Descriptor.applyTo, hv, Option.getD_none] at he hcfg ⊢
        rw [he, hcfg]
      · rw [OrderedMap.keys_modify] at hi
        exact hn.lt hi
    · exact ⟨n, w, hn.modify hkl _, Or.inl rfl⟩
  · exact .refl c

theorem moves_delete (c : Cell) (k : Key) : c.Moves (c.delete k).2 := by
  unfold Cell.delete
  split
  · rename_i hr
    refine ⟨evolves_erase fun p hp => ?_, rfl, fun _ n w hn => ⟨n, w, hn.erase ?_, Or.inl rfl⟩⟩
    · simpa [hp] using hr
    · rintro rfl
      simp [hn.own] at hr
  · exact .refl c

theorem Sound.raise (hc : c.Sound fits) (l : Level) : (c.raise l).Sound fits where
  closed := hc.closed.raise l
  length hk := by
    rw [(evolves_raise c l).kind] at hk
    obtain ⟨n, w, hn, hle⟩ := hc.length hk
    unfold Cell.raise
    split
    · exact ⟨n, w, hn, hle⟩
    · obtain ⟨w', hn'⟩ := hn.mapValues_close l
      exact ⟨n, w', ⟨hn'.own, hn'.lt⟩, hle⟩

theorem Sound.relink (hc : c.Sound fits) (target : Option Ref) :
    Sound { c with prototype := target } fits where
  closed := ⟨hc.closed.sealed, hc.closed.frozen⟩
  length hk := by
    obtain ⟨n, w, hn, hle⟩ := hc.length hk
    exact ⟨n, w, ⟨hn.own, hn.lt⟩, hle⟩

end Cell

namespace Heap

variable {h : Heap} {c d : Cell} {k : Key} {p : Property} {fits : Prop}

/-- Making room for a key puts an index below the length of an array. -/
theorem moves_grow (hc : c.Sound fits) (hg : h.grow c k = .ok d) :
    c.Moves d ∧ d.properties.get? k = c.properties.get? k ∧
      (c.kind = .array → ∀ {n w}, d.HasLength n w → ∀ i, k = .index i → i.val < n) := by
  unfold grow at hg
  cases k with
  | name s =>
    cases hg
    exact ⟨.refl c, rfl, fun _ _ _ _ i hi => by cases hi⟩
  | index i =>
    simp only [Key.index?] at hg
    split_ifs at hg with h₁ h₂
    · cases hg
      refine ⟨.refl c, rfl, fun ha n w hn j hj => ?_⟩
      cases hj
      rw [hn.storedLength h] at h₁
      have hlt : i.val < min n maxLength := by simpa [Cell.isArray, ha] using h₁
      exact (Nat.lt_min.1 hlt).1
    · cases hg
      rw [not_or, not_lt] at h₁
      have ha : c.kind = .array := by simpa [Cell.isArray] using h₁.1
      obtain ⟨n, w, hn, -⟩ := hc.length ha
      rw [hn.lengthWritable] at h₂
      rw [hn.storedLength h] at h₁
      have hd := hn.grow h₁.2
      refine ⟨⟨hn.evolves_recordLength ha (Or.inl h₂), rfl, fun _ _ _ _ => ?_⟩, ?_, ?_⟩
      · exact ⟨_, w, hd, Or.inr i.isLt⟩
      · rw [Cell.recordLength, OrderedMap.get?_modify, if_neg (by simp [Key.length])]
      · intro _ n' w' hn' j hj
        cases hj
        exact hd.le_of_le hn' i.isLt

theorem moves_add (hc : c.Sound fits) (hk : c.properties.get? k = none) :
    c.Moves (h.add c k p).2 := by
  unfold add
  split
  · rename_i hx
    split
    · rename_i d hg
      obtain ⟨hm, hd, hlen⟩ := moves_grow hc hg
      have hlevel : d.level = .extensible := hm.level.trans (by simpa [Cell.isExtensible] using hx)
      refine hm.trans ⟨Cell.evolves_withProperty hlevel (hd.trans hk), rfl, fun ha n w hn => ?_⟩
      have hlt := hlen (hm.evolves.kind.symm.trans ha) hn
      exact ⟨n, w, hn.withProperty (hn.ne_length (hd.trans hk)) hlt, Or.inl rfl⟩
    · exact .refl c
  · exact .refl c

theorem moves_resize {n m : Nat} {w : Bool} (hn : c.HasLength n w) (ha : c.kind = .array)
    (hm : m ≤ maxLength) (hw : w = true ∨ m = min n maxLength) (close : Bool) :
    c.Moves (h.resize c m close).2 where
  evolves := hn.evolves_resize ha hw close
  level := (h.frames_resize c m close).level
  length _ _ _ _ := by
    obtain ⟨n', hle, w', hn'⟩ := hn.resize hm close
    exact ⟨n', w', hn', Or.inr hle⟩

theorem moves_defineLength (hc : c.Sound fits) (ha : c.kind = .array) (d : Descriptor) :
    c.Moves (h.defineLength c d).2 := by
  obtain ⟨n, w, hn, -⟩ := hc.length ha
  unfold defineLength
  rw [hn.own]
  cases hv : d.value with
  | none => exact Cell.moves_redefine hn.own fun _ _ => hv
  | some v =>
    dsimp only
    cases hlen : h.arrayLength? v with
    | none => exact .refl c
    | some m =>
      dsimp only
      split
      · rename_i hs
        rw [hn.storedLength h] at hs
        exact moves_resize hn ha (arrayLength?_le hlen) hs.2 _
      · exact .refl c

theorem moves_defineIn (hc : c.Sound fits) (k : Key) (d : Descriptor) :
    c.Moves (h.defineIn c k d).2 := by
  unfold defineIn
  split
  · rename_i ha
    exact moves_defineLength hc (by simpa [Cell.isArray] using ha.1) d
  · rename_i hne
    split
    · rename_i p hp
      exact Cell.moves_redefine hp fun ha hk => absurd ⟨ha, hk⟩ hne
    · rename_i hk
      exact moves_add hc hk

theorem moves_assignIn (hc : c.Sound fits) (k : Key) (v : Value) : c.Moves (h.assignIn c k v).2 := by
  unfold assignIn
  split
  · rename_i hk
    exact moves_add hc hk
  · rename_i p hp
    by_cases hw : p.writable = false
    · simpa [hw] using Cell.Moves.refl c
    by_cases ha : c.isArray = true ∧ k = .length
    · simp only [hw, ha, not_true_eq_false, and_self, ↓reduceIte]
      have harray : c.kind = .array := by simpa [Cell.isArray] using ha.1
      obtain ⟨n, w, hn, -⟩ := hc.length harray
      rw [ha.2, hn.own, Option.some.injEq] at hp
      split
      · exact .refl c
      · rename_i m hlen
        refine moves_resize hn harray (arrayLength?_le hlen) (Or.inl ?_) false
        simpa [← hp] using hw
    · simp only [hw, ha]
      refine Cell.moves_modify (fun h₁ h₂ => ha ⟨h₁, h₂⟩) fun q hq hcfg => ?_
      rw [hp, Option.some.injEq] at hq
      subst hq
      exact ⟨hcfg, rfl, fun h₁ => absurd h₁ (by simpa using hw)⟩

end Heap

end ScriptSandbox
