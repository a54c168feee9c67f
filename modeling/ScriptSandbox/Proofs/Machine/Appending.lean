import ScriptSandbox.Proofs.Heap.Resizing
import ScriptSandbox.Proofs.Key
import ScriptSandbox.Proofs.Machine.Trace
import ScriptSandbox.Proofs.Uniform.Basic
import ScriptSandbox.Realm.Genesis
import ScriptSandbox.Realm.Invocation

/-! # Appending to arrays

Values are appended to an array by writes under the keys from its length on, one after the other.
The count of them stops at the greatest length. What comes up to there lands under indices of its
own; all values past it are written under the one name that is the numeral of that length, and only
the last of them stays.
-/

namespace ScriptSandbox

namespace Heap

variable {h h₁ h' : Heap} {r : Ref} {k : Key} {v w : Value} {vs : List Value} {l n : Nat}
  {p q : Property}

/-! ### Writes that go through -/

theorem stores_of_assign (hr : r.id < h.size) (hk : ¬h.IsOwnLength r k)
    (ha : h.assign r k v = (.ok (), h')) : h.Stores r k (h.written r k v) h' := by
  rw [assign] at ha
  split_ifs at ha with hshielded
  · cases ha
  obtain ⟨c, hc, rfl⟩ := exists_of_changeCell ha
  cases hp : h.own? r k with
  | some p =>
    have hlength : ¬((h.cell r).isArray ∧ k = .length) := by
      rintro ⟨harray, rfl⟩
      exact hk ⟨by simpa [Cell.isArray, kind] using harray, rfl, by simp [hp]⟩
    rw [assignIn, show (h.cell r).properties.get? k = some p from hp] at hc
    simp only [if_neg hlength] at hc
    split_ifs at hc with hw
    · cases hc
      rw [written, hp]
      exact stores_modify hr (f := ({ · with value := v })) hp
    · cases hc
  | none =>
    rw [assignIn, show (h.cell r).properties.get? k = none from hp] at hc
    simp only [add_eq] at hc
    split_ifs at hc with hx hg
    · cases hc
    · cases hc
    · cases hc
      rw [written, hp]
      exact stores_add hr hp (.assigned v)

/-- A length that is not less than before is just recorded. -/
theorem stores_of_assign_length (ha : h.kind r = .array) (hp : h.own? r .length = some p)
    (hle : h.storedLength (h.cell r) ≤ n) (hn : n ≤ maxLength)
    (hassign : h.assign r .length (.ofNat n) = (.ok (), h')) :
    h.Stores r .length { p with value := .ofNat n } h' := by
  have harray : (h.cell r).isArray := by simpa [Cell.isArray, kind] using ha
  have hlength : h.arrayLength? (.ofNat n) = some n := h.arrayLength?_ofNat hn
  rw [assign_of_own? hp] at hassign
  obtain ⟨c, hc, rfl⟩ := exists_of_changeCell hassign
  rw [assignIn, show (h.cell r).properties.get? .length = some p from hp] at hc
  simp only [harray, and_self, if_true, hlength, resize_of_le hle, Bool.false_eq_true, if_false]
    at hc
  split_ifs at hc with hw
  · cases hc
    exact stores_modify (lt_size_of_own? hp) (f := ({ · with value := .ofNat n })) hp
  · cases hc

/-! ### Runs of writes -/

/-- The second heap comes from the first by appending values to an object from a length on. -/
structure Appends (h : Heap) (r : Ref) (n : Nat) (vs : List Value) (h' : Heap) : Prop where
  cell : ∀ s, s ≠ r → h'.cell s = h.cell s
  frames : (h.cell r).Frames (h'.cell r)
  /-- What comes up to the greatest length has a place of its own. -/
  element : ∀ i v, vs[i]? = some v → n + i < maxLength →
    h'.own? r (.ofNat (n + i)) = some (h.written r (.ofNat (n + i)) v)
  /-- Of all that comes after it, the last value stays. -/
  last : ∀ v, vs.getLast? = some v → maxLength < n + vs.length →
    h'.own? r (.ofNat maxLength) = some (h.written r (.ofNat maxLength) v)
  other : ∀ k, k ≠ .length → (∀ i < vs.length, k ≠ .ofNat (min (n + i) maxLength)) →
    h'.own? r k = h.own? r k

theorem appends_nil (h : Heap) (r : Ref) (n : Nat) : h.Appends r n [] h where
  cell _ _ := rfl
  frames := .refl _
  element _ _ hv := nomatch hv
  last _ hv := nomatch hv
  other _ _ _ := rfl

namespace Stores

variable (hs : h.Stores r k (h.written r k v) h₁)

include hs

/-- The next write sees the property that this one has left or found, but for its value. -/
theorem written_eq {j : Key} (hj : j ≠ .length) (w : Value) :
    h₁.written r j w = h.written r j w := by
  by_cases hjk : j = k
  · subst hjk
    rw [written, hs.own, written, written]
    cases h.own? r j <;> rfl
  · rw [written, written, hs.other j hjk hj]

end Stores

theorem Stores.appends_cons (hs : h.Stores r (.ofNat n) (h.written r (.ofNat n) v) h₁)
    (hn : n ≤ maxLength) (hrest : h₁.Appends r (min (n + 1) maxLength) vs h') :
    h.Appends r n (v :: vs) h' where
  cell s hne := (hrest.cell s hne).trans (hs.cell s hne)
  frames := hs.frames.trans hrest.frames
  element i w hw hi := by
    cases i with
    | zero =>
      cases hw
      rw [Nat.add_zero] at hi ⊢
      rw [hrest.other _ (Key.ofNat_ne_length n) fun j hj he => ?_, hs.own]
      have := Key.ofNat_injective he
      omega
    | succ i =>
      have hmin : min (n + 1) maxLength + i = n + (i + 1) := by omega
      have helement := hrest.element i w hw (by rwa [hmin])
      rwa [hmin, hs.written_eq (Key.ofNat_ne_length _)] at helement
  last w hw hlt := by
    cases vs with
    | nil =>
      -- the only value comes after the greatest length just where the count is there already
      cases hw
      have hmax : n = maxLength := by
        simp only [List.length_singleton] at hlt
        omega
      subst hmax
      rw [hrest.other _ (Key.ofNat_ne_length _) nofun, hs.own]
      rfl
    | cons u us =>
      rw [List.getLast?_cons_cons] at hw
      rw [hrest.last w hw ?_, hs.written_eq (Key.ofNat_ne_length _)]
      simp only [List.length_cons] at hlt ⊢
      omega
  other j hj hne := by
    have hfirst : j ≠ .ofNat n := by
      have := hne 0 (by simp)
      rwa [Nat.add_zero, Nat.min_eq_left hn] at this
    rw [hrest.other j hj fun i hi he => ?_, hs.other j hfirst hj]
    refine hne (i + 1) (by simpa using hi) ?_
    rw [he]
    congr 1
    omega

/-- A write of the next value leaves a length that is still not past the count. -/
theorem Stores.exists_length (hs : h.Stores r (.ofNat n) q h₁)
    (hp : h.own? r .length = some { p with value := .ofNat l }) (hl : l ≤ n) (hn : n ≤ maxLength) :
    ∃ l' ≤ min (n + 1) maxLength, h₁.own? r .length = some { p with value := .ofNat l' } := by
  by_cases hg : h.own? r (.ofNat n) = none ∧ h.growth? (h.cell r) (.ofNat n) ≠ none
  · obtain ⟨n', hn'⟩ := Option.ne_none_iff_exists'.1 hg.2
    obtain ⟨i, hi, -, -, rfl⟩ := growth?_eq_some_iff.1 hn'
    have hin : i.val = n := Key.ofNat_injective (by rw [hi, Key.ofNat, dif_pos i.isLt])
    have := i.isLt
    refine ⟨i.val + 1, by omega, ?_⟩
    rw [hs.grows _ hg.1 hn', hp, Option.map_some]
  · refine ⟨l, by omega, ?_⟩
    rw [hs.length (Key.ofNat_ne_length n), hp]
    rwa [not_and_or, not_not] at hg

end Heap

namespace Exec

open Heap

variable {α : Type} {m m' : Machine} {r : Ref} {k : Key} {v : Value} {vs : List Value}
  {l n n' L : Nat} {p : Property} {x : Exec α} {a : α}

/-- What follows a strict write happens only if the write goes through. -/
theorem exists_of_strict_bind
    (h : (do discard (change (·.set r k v .strict)); x : Exec α) m = .ok a m') :
    ∃ h₁, m.heap.assign r k v = (.ok (), h₁) ∧ x (m.withHeap h₁) = .ok a m' := by
  obtain ⟨u, m₁, hd, hx⟩ := exists_of_bind_eq_ok h
  obtain ⟨b, hb⟩ := exists_of_discard_eq_ok hd
  have hchange : change (·.set r k v .strict) m = ofExcept (m.heap.set r k v .strict).1
    (m.withHeap (m.heap.set r k v .strict).2) := rfl
  rw [hchange, Heap.set] at hb
  cases ha : m.heap.assign r k v with
  | mk result h₁ =>
    rw [ha] at hb
    cases result with
    | ok u =>
      cases hb
      exact ⟨h₁, rfl, hx⟩
    | error e =>
      have he : WriteMode.strict.settle (.error e) = .error e := by
        simp [WriteMode.settle, WriteMode.reject]
      simp only [he] at hb
      cases hb

namespace Sequences

/-- Appending runs through all values, and leaves a length that is not past the count. -/
theorem append_spec (hr : r.id < m.heap.size) (hn : n ≤ maxLength) (hl : l ≤ n)
    (hp : m.heap.own? r .length = some { p with value := .ofNat l })
    (hx : append r n vs m = .ok n' m') :
    n' = min (n + vs.length) maxLength ∧ m' = m.withHeap m'.heap ∧ m.heap.Appends r n vs m'.heap ∧
      ∃ l' ≤ n', m'.heap.own? r .length = some { p with value := .ofNat l' } := by
  induction vs generalizing n l m with
  | nil =>
    cases hx
    exact ⟨(Nat.min_eq_left hn).symm, rfl, appends_nil _ r _, l, hl, hp⟩
  | cons v vs ih =>
    obtain ⟨h₁, hassign, hrest⟩ := exists_of_strict_bind hx
    have hs := stores_of_assign hr (fun hk => Key.ofNat_ne_length n hk.2.1) hassign
    obtain ⟨l₁, hl₁, hp₁⟩ := hs.exists_length hp hl hn
    have hr₁ : r.id < (m.withHeap h₁).heap.size := hs.size.symm ▸ hr
    obtain ⟨rfl, hm, happends, hlength⟩ := ih hr₁ (Nat.min_le_right _ _) hl₁ hp₁ hrest
    refine ⟨?_, hm, hs.appends_cons hn happends, hlength⟩
    rw [List.length_cons]
    generalize maxLength = greatest
    omega

end Sequences

/-- A push onto an array that goes through appends its arguments and answers the new length, which
is no more than the greatest one. -/
theorem push_appends {vs : List Value} (ha : m.heap.kind r = .array)
    (hp : m.heap.own? r .length = some p) (hv : p.value = .ofNat L) (hL : L ≤ maxLength)
    (hx : runBuiltin .push (.object r) vs m = .ok v m') :
    v = .ofNat (min (L + vs.length) maxLength) ∧
    m'.heap.own? r .length = some { p with value := v } ∧
    (∀ i w, vs[i]? = some w → L + i < maxLength →
      m'.heap.own? r (.ofNat (L + i)) = some (m.heap.written r (.ofNat (L + i)) w)) ∧
    (∀ w, vs.getLast? = some w → maxLength < L + vs.length →
      m'.heap.own? r (.ofNat maxLength) = some (m.heap.written r (.ofNat maxLength) w)) ∧
    (∀ k, k ≠ .length → (∀ i < vs.length, k ≠ .ofNat (min (L + i) maxLength)) →
      m'.heap.own? r k = m.heap.own? r k) ∧
    (m.heap.cell r).Frames (m'.heap.cell r) ∧
    (∀ s, s ≠ r → m'.heap.cell s = m.heap.cell s) ∧ m' = m.withHeap m'.heap := by
  have hp₀ : m.heap.own? r .length = some { p with value := .ofNat L } := by rw [hp, ← hv]
  have hcount : (m.heap.toNumber (m.heap.get r .length)).clamp32 = L := by
    rw [get_of_own? hp, hv, toNumber_ofNat, Number.clamp32_ofNat, Nat.min_eq_left hL]
  have hto : toObject (.object r) m = .ok r m := rfl
  rw [runBuiltin, Sequences.push, bind_of_ok hto, bind_of_ok (look_apply _ m), hcount] at hx
  obtain ⟨n, m₁, happend, hx⟩ := exists_of_bind_eq_ok hx
  obtain ⟨rfl, hm₁, happends, l, hl, hp₁⟩ :=
    Sequences.append_spec (lt_size_of_own? hp) hL le_rfl hp₀ happend
  obtain ⟨h₂, hassign, hx⟩ := exists_of_strict_bind hx
  cases hx
  -- the last write finds a length that is not past the count, so it cuts nothing
  have hstored : m₁.heap.storedLength (m₁.heap.cell r) ≤ min (L + vs.length) maxLength := by
    rw [storedLength_of_own? hp₁, toNumber_ofNat, Number.clamp32_ofNat]
    exact (Nat.min_le_left _ _).trans hl
  have hs := stores_of_assign_length (happends.frames.kind.trans ha) hp₁ hstored
    (Nat.min_le_right _ _) hassign
  refine ⟨rfl, hs.own, fun i w hw hi => ?_, fun w hw hlt => ?_, fun k hk hne => ?_,
    happends.frames.trans hs.frames, fun s hne => ?_, ?_⟩
  · have hk := Key.ofNat_ne_length (L + i)
    exact (hs.other _ hk hk).trans (happends.element i w hw hi)
  · have hk := Key.ofNat_ne_length maxLength
    exact (hs.other _ hk hk).trans (happends.last w hw hlt)
  · exact (hs.other k hk hk).trans (happends.other k hk hne)
  · exact (hs.cell s hne).trans (happends.cell s hne)
  · rw [hm₁]
    rfl

/-- A realm before anything is installed. -/
def blank : Machine where
  heap := (Intrinsics.allocate {}).2
  realm := { intrinsics := (Intrinsics.allocate {}).1, settings := {}, gate := { catalog := .empty } }
  policy := {}

/-- An array is made with that length. -/
def spacious (n : Nat) : Machine := (runBuiltin .array .undefined [.ofNat n]).final blank

def newest : Ref := ⟨blank.heap.size⟩

theorem push_appends_spacious :
    (spacious (maxLength - 1)).heap.kind newest = .array ∧
    (spacious (maxLength - 1)).heap.own? newest .length =
      some ⟨.ofNat (maxLength - 1), true, false, false⟩ ∧
    ∃ m', runBuiltin .push (.object newest) [.string "x", .string "y", .string "z"]
        (spacious (maxLength - 1)) = .ok (.ofNat maxLength) m' ∧
      m'.heap.own? newest .length = some ⟨.ofNat maxLength, true, false, false⟩ ∧
      m'.heap.own? newest (.ofNat (maxLength - 1)) = some (.assigned (.string "x")) ∧
      m'.heap.own? newest (.name "4294967295") = some (.assigned (.string "z")) := by
  have ha : (spacious (maxLength - 1)).heap.kind newest = .array := by decide +kernel
  have hp : (spacious (maxLength - 1)).heap.own? newest .length =
      some ⟨.ofNat (maxLength - 1), true, false, false⟩ := by decide +kernel
  have hx := ok_of_outcome (x := runBuiltin .push (.object newest)
    [.string "x", .string "y", .string "z"]) (m := spacious (maxLength - 1))
    (a := .ofNat maxLength) (by decide +kernel)
  obtain ⟨-, hlength, helement, hlast, -⟩ := push_appends ha hp rfl (by decide) hx
  refine ⟨ha, hp, _, hx, hlength, ?_, ?_⟩
  · exact (helement 0 _ rfl (by decide)).trans (by decide +kernel)
  · exact (hlast _ rfl (by decide)).trans (by decide +kernel)

/-- On an array of the greatest length there is no place left: of two values the first one is lost,
and neither answer nor length counts them. -/
theorem push_spacious_maxLength :
    (spacious maxLength).heap.kind newest = .array ∧
    (spacious maxLength).heap.own? newest .length =
      some ⟨.ofNat maxLength, true, false, false⟩ ∧
    ∃ m', runBuiltin .push (.object newest) [.string "x", .string "y"] (spacious maxLength) =
        .ok (.ofNat maxLength) m' ∧
      Value.ofNat maxLength ≠ .ofNat (maxLength + 2) ∧
      (m'.heap.cell newest).properties.keys = [.length, .name "4294967295"] ∧
      m'.heap.own? newest .length = some ⟨.ofNat maxLength, true, false, false⟩ ∧
      m'.heap.own? newest (.ofNat maxLength) = some (.assigned (.string "y")) ∧
      m'.heap.own? newest (.ofNat (maxLength + 1)) = none := by
  have hx := ok_of_outcome (x := runBuiltin .push (.object newest) [.string "x", .string "y"])
    (m := spacious maxLength) (a := .ofNat maxLength) (by decide +kernel)
  exact ⟨by decide +kernel, by decide +kernel, _, hx, by decide +kernel, by decide +kernel,
    by decide +kernel, by decide +kernel, by decide +kernel⟩

end Exec

end ScriptSandbox
