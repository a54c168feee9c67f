import ScriptSandbox.Key
import ScriptSandbox.Proofs.Number.Numeral

/-! # Canonical keys

A key is canonical if it is the key of its text. All keys that are made of texts, naturals and
numbers are, and different canonical keys have different texts.
-/

namespace ScriptSandbox.Key

variable {k j : Key}

/-- No name is the numeral of an index. -/
def IsCanonical (k : Key) : Prop := ofString k.text = k

instance : DecidablePred IsCanonical := fun k => inferInstanceAs (Decidable (ofString k.text = k))

theorem IsCanonical.text_injective (hk : k.IsCanonical) (hj : j.IsCanonical)
    (h : k.text = j.text) : k = j := by
  rw [← hk, ← hj, h]

theorem ofString_repr (n : Nat) : ofString n.repr = ofNat n := by
  rw [ofString, Nat.toList_repr, Numeral.parse?_toDigits, ofNat]
  simp

theorem text_ofNat (n : Nat) : (ofNat n).text = n.repr := by
  rw [ofNat]
  split <;> rfl

theorem ofNat_injective : Function.Injective ofNat := fun m n h => by
  have ht := congrArg text h
  rw [text_ofNat, text_ofNat] at ht
  rw [← Numeral.value_toDigits m, ← Nat.toList_repr, ht, Nat.toList_repr, Numeral.value_toDigits]

theorem isCanonical_ofNat (n : Nat) : (ofNat n).IsCanonical := by
  rw [IsCanonical, text_ofNat, ofString_repr]

theorem ofNat_ne_length (n : Nat) : ofNat n ≠ length := by
  intro h
  have hlist := congrArg (fun k => Numeral.parse? k.text.toList) h
  simp only [text_ofNat, Nat.toList_repr, Numeral.parse?_toDigits] at hlist
  cases hlist

theorem isCanonical_length : length.IsCanonical := by decide

theorem isCanonical_index (i : ArrayIndex) : (index i).IsCanonical := by
  have hi : ofNat i.val = index i := dif_pos i.isLt
  rw [← hi]
  exact isCanonical_ofNat i.val

/-- A text that is taken for an index is the text of that index. -/
theorem text_ofString (s : String) : (ofString s).text = s := by
  rw [ofString]
  split
  · split
    · rename_i h
      exact h.2
    · rfl
  · rfl

theorem ofString_injective : Function.Injective ofString := fun s t h => by
  rw [← text_ofString s, h, text_ofString]

theorem ofString_eq_name {s : String} (h : ∀ i, ofString s ≠ .index i) :
    ofString s = .name s := by
  have ht := text_ofString s
  cases hk : ofString s with
  | index i => exact absurd hk (h i)
  | name t =>
    rw [hk] at ht
    exact congrArg name ht

theorem isCanonical_ofString (s : String) : (ofString s).IsCanonical := by
  rw [IsCanonical, text_ofString]

/-- A number that is no index is not written like one. -/
theorem isCanonical_ofNumber (x : Number) : (ofNumber x).IsCanonical := by
  have hname : (∀ n < maxLength, x.toNat? ≠ some n) → (name x.text).IsCanonical := by
    intro hx
    rw [IsCanonical, text, ofString]
    split
    · rename_i n hn
      refine dif_neg fun h => hx n h.1 (Number.toNat?_of_text ?_ hn)
      exact h.1.trans (by decide)
    · rfl
  rw [ofNumber]
  split
  · rename_i n hn
    split
    · exact isCanonical_index _
    · rename_i hle
      refine hname fun i hi hx => hle ?_
      rw [hn, Option.some.injEq] at hx
      exact hx ▸ hi
  · rename_i hn
    exact hname fun i _ hx => by simp [hn] at hx

/-- A number names the same key as its text. -/
theorem ofNumber_eq (x : Number) : ofNumber x = ofString x.text := by
  have hcanonical := isCanonical_ofNumber x
  rw [ofNumber] at hcanonical ⊢
  split at hcanonical
  · rename_i n hn
    split at hcanonical
    · rename_i hlt
      rw [Number.text_of_toNat? hn (hlt.trans (by decide)), ofString_repr, ofNat]
    · rename_i hle
      rw [dif_neg hle]
      exact hcanonical.symm
  · exact hcanonical.symm

/-- A text is the key of an index where it is the canonical numeral of one. -/
theorem ofString_eq_index_iff {s : String} :
    (∃ i, ofString s = index i) ↔
      Numeral.IsCanonical s.toList ∧ Numeral.value s.toList < maxLength := by
  constructor
  · rintro ⟨i, hi⟩
    have hs : s = i.val.repr := by rw [← text_ofString s, hi, text]
    rw [hs, Nat.toList_repr, Numeral.value_toDigits]
    exact ⟨Numeral.isCanonical_toDigits i.val, i.isLt⟩
  · rintro ⟨hs, hlt⟩
    have hrepr : (Numeral.value s.toList).repr = s := by
      rw [Nat.repr_eq_ofList_toDigits, Numeral.toDigits_value hs, String.ofList_toList]
    have hkey := ofString_repr (Numeral.value s.toList)
    rw [hrepr, ofNat, dif_pos hlt] at hkey
    exact ⟨_, hkey⟩

end ScriptSandbox.Key
