import ScriptSandbox.Proofs.World.WellFormed

/-! # Keys and their texts

Keys are made of texts, naturals and values. Such a key and its text determine each other, so no
object has two properties whose keys are written alike.
-/

namespace ScriptSandbox

namespace Key

variable {j k : Key} {i : ArrayIndex}

/-- The keys that the conversions make. -/
inductive IsConverted : Key → Prop
  | ofString (s : String) : IsConverted (ofString s)
  | ofNat (n : Nat) : IsConverted (ofNat n)
  | ofValue (h : Heap) (v : Value) : IsConverted (h.toKey v)

theorem toKey_eq (h : Heap) (v : Value) : h.toKey v = ofString (h.text v) := by
  cases v with
  | number x => exact ofNumber_eq x
  | _ => rfl

theorem text_toKey (h : Heap) (v : Value) : (h.toKey v).text = h.text v := by
  rw [toKey_eq, text_ofString]

theorem IsConverted.isCanonical (hk : k.IsConverted) : k.IsCanonical := by
  cases hk with
  | ofString s => exact isCanonical_ofString s
  | ofNat n => exact isCanonical_ofNat n
  | ofValue h v =>
    rw [toKey_eq]
    exact isCanonical_ofString _

theorem IsCanonical.eq_iff (hj : j.IsCanonical) (hk : k.IsCanonical) : j = k ↔ j.text = k.text :=
  ⟨congrArg text, hj.text_injective hk⟩

/-- A canonical key is an index exactly if its text is the canonical numeral of one. -/
theorem IsCanonical.isIndex_iff (hk : k.IsCanonical) : (∃ i, k = index i) ↔
    Numeral.IsCanonical k.text.toList ∧ Numeral.value k.text.toList < maxLength := by
  rw [← ofString_eq_index_iff, hk]

end Key

theorem Heap.WellFormed.nodup_texts {h : Heap} (hw : h.WellFormed) (r : Ref) :
    ((h.cell r).properties.ownKeys.map Key.text).Nodup :=
  (PropertyTable.nodup_ownKeys _).map_on fun _ hj _ hk =>
    (hw.isCanonical_of_mem hj).text_injective (hw.isCanonical_of_mem hk)

namespace World

variable {history : List Event}

/-- A text is read back from its key, and so is the text of a value. A key that was made by any
conversion is made again of its text; two such keys are equal exactly if they are written alike, and
one is an index exactly if it is written as a canonical numeral below the greatest length. No object
of a world has two own keys that are written alike. -/
theorem keys_after (hs : Supports {} history) :
    (∀ s, (Key.ofString s).text = s) ∧
    (∀ (h : Heap) v, (h.toKey v).text = h.text v) ∧
    (∀ k : Key, k.IsConverted → Key.ofString k.text = k) ∧
    (∀ j k : Key, j.IsConverted → k.IsConverted → (j = k ↔ j.text = k.text)) ∧
    (∀ k : Key, k.IsConverted → ((∃ i, k = .index i) ↔
      Numeral.IsCanonical k.text.toList ∧ Numeral.value k.text.toList < maxLength)) ∧
    (∀ (k : Key) i, k.IsConverted → (k = .index i ↔ k.text = i.val.repr)) ∧
    ∀ r, (((after history).heap.cell r).properties.ownKeys.map Key.text).Nodup := by
  refine ⟨Key.text_ofString, Key.text_toKey, fun k hk => hk.isCanonical,
    fun j k hj hk => hj.isCanonical.eq_iff hk.isCanonical,
    fun k hk => hk.isCanonical.isIndex_iff,
    fun k i hk => hk.isCanonical.eq_iff (Key.isCanonical_index i), fun r => ?_⟩
  exact (wellFormed_after hs).heap.nodup_texts r

/-- One property is written through a text and through a number, beside two that look like it. -/
def respelling : List Event := [
  .addPolicy {}, .addRealm {} [] 0,
  .perform 0 (.set (.object ⟨0⟩) (.ofString "7") .null),
  .perform 0 (.set (.object ⟨0⟩) (.ofNat 7) (.string "again")),
  .perform 0 (.set (.object ⟨0⟩) (.ofString "07") .null),
  .perform 0 (.set (.object ⟨0⟩) (.ofNat 4294967295) .null)]

theorem keys_after_respelling : Supports {} respelling ∧
    (((after respelling).heap.cell ⟨0⟩).properties.ownKeys.map Key.text).Nodup ∧
    "7" ∈ ((after respelling).heap.cell ⟨0⟩).properties.ownKeys.map Key.text := by
  have hs : Supports {} respelling := by decide +kernel
  obtain ⟨-, -, -, -, -, -, hnodup⟩ := keys_after hs
  exact ⟨hs, hnodup ⟨0⟩, by decide +kernel⟩

end World

end ScriptSandbox
