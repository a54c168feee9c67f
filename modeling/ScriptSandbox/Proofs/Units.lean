import ScriptSandbox.Text.Units

/-! # Texts in 16-bit units

A character of the first 65,536 is one unit, and any other is a high half followed by a low half. The
halves are units that no character is, so each of them is shown as the replacement character.
-/

namespace ScriptSandbox.Text

/-- The units of a character. -/
def encode (c : Char) : List Nat :=
  if c.toNat < 0x10000 then [c.toNat]
  else [0xD800 + (c.toNat - 0x10000) / 0x400, 0xDC00 + (c.toNat - 0x10000) % 0x400]

/-- The units of a text. -/
def utf16 (s : String) : List Nat := s.toList.flatMap encode

/-- The character that a unit is shown as. -/
def shown (u : Nat) : Char :=
  if 0xD800 ≤ u ∧ u ≤ 0xDFFF then replacement else Char.ofNat u

theorem shown_toNat (c : Char) : shown c.toNat = c := by
  have hvalid : ¬(0xD800 ≤ c.toNat ∧ c.toNat ≤ 0xDFFF) := by
    rcases c.valid with h | ⟨h, -⟩ <;> simp only [Char.toNat] <;> omega
  rw [shown, if_neg hvalid, Char.ofNat_toNat]

theorem shown_of_half {u : Nat} (h : 0xD800 ≤ u) (h' : u ≤ 0xDFFF) : shown u = replacement :=
  if_pos ⟨h, h'⟩

theorem charUnits_eq (c : Char) : charUnits c = (encode c).map shown := by
  unfold charUnits encode
  split
  · rw [List.map_singleton, shown_toNat]
  · have hlt : c.toNat < 0x110000 := by
      rcases c.valid with h | ⟨-, h⟩ <;> simp only [Char.toNat] <;> omega
    rw [List.map_cons, List.map_singleton, shown_of_half (by omega) (by omega),
      shown_of_half (by omega) (by omega)]

theorem units_eq (s : String) : units s = (utf16 s).map shown := by
  rw [units, utf16, List.map_flatMap]
  exact congrArg (List.flatMap · s.toList) (funext charUnits_eq)

theorem length_units (s : String) : (units s).length = (utf16 s).length := by
  rw [units_eq, List.length_map]

end ScriptSandbox.Text
