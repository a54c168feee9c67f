import Mathlib.Data.List.TakeWhile
import ScriptSandbox.TypeName

/-! # Qualified names

A qualified name is put together from its parts by dots. It is valid exactly if all that it is put
together from is.
-/

namespace ScriptSandbox.TypeName

variable {name s t : String}

/-- The pieces between dots. -/
def parts (name : String) : List String := (segments name.toList).map String.ofList

theorem segments_eq_splitOn (cs : List Char) : segments cs = cs.splitOn '.' := by
  induction cs with
  | nil => rfl
  | cons c cs ih =>
    rw [segments, List.splitOn_cons_eq_if_modifyHead, ih]
    by_cases hc : c = '.'
    · simp [hc]
    · rw [if_neg hc, if_neg (by simpa using hc)]
      cases h : cs.splitOn '.' with
      | nil => exact absurd h (List.splitOn_ne_nil _ _)
      | cons s rest => rfl

theorem intercalate_parts (name : String) : ".".intercalate (parts name) = name := by
  apply String.toList_inj.1
  rw [String.toList_intercalate, parts, List.map_map, segments_eq_splitOn]
  have hid : String.toList ∘ String.ofList = id := by
    funext cs
    exact String.toList_ofList
  rw [hid, List.map_id]
  exact List.intercalate_splitOn '.'

theorem parts_ne_nil (name : String) : parts name ≠ [] := by
  simp [parts, segments_eq_splitOn, List.splitOn_ne_nil]

theorem segments_append_dot (s t : String) :
    segments (s ++ "." ++ t).toList = segments s.toList ++ segments t.toList := by
  have hdot : (s ++ "." ++ t).toList = s.toList ++ '.' :: t.toList := by simp
  rw [hdot, segments_eq_splitOn, List.splitOn_append_cons_self, segments_eq_splitOn,
    segments_eq_splitOn]

theorem parts_append_dot (s t : String) : parts (s ++ "." ++ t) = parts s ++ parts t := by
  rw [parts, segments_append_dot, List.map_append, parts, parts]

theorem isValid_append_dot (s t : String) :
    isValid (s ++ "." ++ t) = (isValid s && isValid t) := by
  rw [isValid, segments_append_dot, List.all_append, isValid, isValid]

/-- Every piece of a name is free of dots. -/
theorem dot_not_mem_segments {cs : List Char} {s : List Char} (hs : s ∈ segments cs) :
    '.' ∉ s := by
  induction cs generalizing s with
  | nil =>
    rw [segments, List.mem_singleton] at hs
    simp [hs]
  | cons c cs ih =>
    by_cases hc : c = '.'
    · rw [segments, if_pos hc] at hs
      rcases List.mem_cons.1 hs with rfl | hs
      · exact List.not_mem_nil
      · exact ih hs
    · rw [segments, if_neg hc] at hs
      cases h : segments cs with
      | nil =>
        rw [h, List.mem_singleton] at hs
        simp [hs, Ne.symm hc]
      | cons t rest =>
        rw [h] at hs ih
        rcases List.mem_cons.1 hs with rfl | hs
        · simp [Ne.symm hc, ih List.mem_cons_self]
        · exact ih (List.mem_cons_of_mem _ hs)

theorem segments_of_dot_not_mem {cs : List Char} (h : '.' ∉ cs) : segments cs = [cs] := by
  rw [segments_eq_splitOn, List.splitOn_eq_singleton h]

/-- The pieces of a valid name are names of members. -/
theorem isValid_of_mem_parts (h : isValid name) (hs : s ∈ parts name) :
    isValid s ∧ '.' ∉ s.toList := by
  obtain ⟨cs, hcs, rfl⟩ := List.mem_map.1 hs
  have hdot := dot_not_mem_segments hcs
  rw [isValid, String.toList_ofList, segments_of_dot_not_mem hdot]
  exact ⟨by simpa using List.all_eq_true.1 h cs hcs, hdot⟩

theorem ne_empty_of_isValid (h : isValid name) : name ≠ "" := by
  rintro rfl
  exact absurd h (by decide)

/-! ### Members of members -/

theorem member_of_ne_empty (hs : s ≠ "") (t : String) : member s t = s ++ "." ++ t := if_neg hs

theorem member_ne_empty (ht : t ≠ "") (s : String) : member s t ≠ "" := by
  unfold member
  split
  · exact ht
  · simp

theorem member_member (path : String) (hs : s ≠ "") (t : String) :
    member (member path s) t = member path (s ++ "." ++ t) := by
  rw [member_of_ne_empty (member_ne_empty hs path)]
  unfold member
  split
  · rfl
  · simp only [String.append_assoc]

/-- Going down a path member by member. -/
theorem foldl_member {ss : List String} (hne : ss ≠ []) (hss : ∀ s ∈ ss, s ≠ "") (path : String) :
    ss.foldl member path = member path (".".intercalate ss) := by
  induction ss generalizing path with
  | nil => exact absurd rfl hne
  | cons s ss ih =>
    cases ss with
    | nil => simp
    | cons t rest =>
      have hs := hss s List.mem_cons_self
      rw [List.foldl_cons, ih (List.cons_ne_nil _ _) fun u hu => hss u (List.mem_cons_of_mem _ hu),
        member_member path hs, String.intercalate_cons_cons]

theorem foldl_member_parts (h : isValid name) : (parts name).foldl member "" = name := by
  rw [foldl_member (parts_ne_nil name) fun s hs => ne_empty_of_isValid
    (isValid_of_mem_parts h hs).1, intercalate_parts]
  rfl

/-- A name with a dot is its short name in its package. -/
theorem package_append_short (h : '.' ∈ name.toList) :
    package name ++ "." ++ short name = name := by
  apply String.toList_inj.1
  have hdrop : name.toList.reverse.dropWhile (· ≠ '.') =
      '.' :: (name.toList.reverse.dropWhile (· ≠ '.')).drop 1 := by
    cases hd : name.toList.reverse.dropWhile (· ≠ '.') with
    | nil =>
      rw [List.dropWhile_eq_nil_iff] at hd
      exact absurd (hd '.' (List.mem_reverse.2 h)) (by decide)
    | cons c rest =>
      have hc := List.head?_dropWhile_not (· ≠ '.') name.toList.reverse
      rw [hd] at hc
      have hdot : c = '.' := by simpa using hc
      rw [hdot, List.drop_one, List.tail_cons]
  calc (package name ++ "." ++ short name).toList
      = ((name.toList.reverse.dropWhile (· ≠ '.')).drop 1).reverse ++
          '.' :: (name.toList.reverse.takeWhile (· ≠ '.')).reverse := by
        simp [package, short]
    _ = (name.toList.reverse.takeWhile (· ≠ '.') ++
          '.' :: (name.toList.reverse.dropWhile (· ≠ '.')).drop 1).reverse := by simp
    _ = name.toList := by
        rw [← hdrop, List.takeWhile_append_dropWhile, List.reverse_reverse]

/-! ### Names without a dot -/

theorem takeWhile_of_dot_not_mem {cs : List Char} (h : '.' ∉ cs) :
    cs.takeWhile (· ≠ '.') = cs := by
  rw [List.takeWhile_eq_self_iff]
  intro c hc
  simpa using fun he : c = '.' => h (he ▸ hc)

theorem short_of_dot_not_mem (h : '.' ∉ name.toList) : short name = name := by
  have hrev : '.' ∉ name.toList.reverse := fun hm => h (List.mem_reverse.1 hm)
  rw [short, takeWhile_of_dot_not_mem hrev, List.reverse_reverse, String.ofList_toList]

theorem package_of_dot_not_mem (h : '.' ∉ name.toList) : package name = "" := by
  have hrev : '.' ∉ name.toList.reverse := fun hm => h (List.mem_reverse.1 hm)
  have hdrop : name.toList.reverse.dropWhile (· ≠ '.') = [] := by
    rw [List.dropWhile_eq_nil_iff]
    intro c hc
    simpa using fun he : c = '.' => hrev (he ▸ hc)
  rw [package, hdrop]
  rfl

theorem dot_not_mem_short (name : String) : '.' ∉ (short name).toList := by
  rw [short, String.toList_ofList, List.mem_reverse]
  intro h
  simpa using List.mem_takeWhile_imp h

end ScriptSandbox.TypeName
