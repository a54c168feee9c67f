import ScriptSandbox.Proofs.Heap.Assignment
import ScriptSandbox.Proofs.Machine.FreeName
import ScriptSandbox.Proofs.World.Resolution
import ScriptSandbox.Proofs.World.WellFormed

/-! # Free names in a world

What a free name stands for follows from what is bound on the global object and above it, from the
imports in the order they were made in, and from the policy and the classes of the realm. Other
names that were looked up before make no difference.
-/

namespace ScriptSandbox

namespace World

open Machine

variable {w : World} {history before : List Event} {i place : Nat} {m m₁ m' : Machine}
  {realm realm' : Realm}

/-! ### Imports -/

def Orderly (w : World) : Prop :=
  ∀ {i : Nat} {realm : Realm} {place : Nat}, w.realms[i]? = some (realm, place) → realm.Orderly

theorem Orderly.apply (hw : w.Orderly) (e : Event) : (w.apply e).Orderly := by
  intro i realm place hr
  rcases realm_apply_cases hr with ⟨op, m, -, hm, rfl, -⟩ | ⟨_, _, m', hf, rfl, -⟩ | hr
  · exact Path.orderly (op.fitted_exec m) (hw (machine?_eq_some_iff.1 hm).2.1)
  · rw [hf.realm]
    exact ⟨List.nodup_nil, fun _ h => absurd h List.not_mem_nil⟩
  · exact hw hr

theorem orderly_after (history : List Event) : (after history).Orderly :=
  after_induction (P := Orderly) (fun h => nomatch h) (fun _ e hw => hw.apply e) history

/-- What is imported stays imported, in the same order. -/
theorem imports_prefix_after (hr : (after before).realms[i]? = some (realm, place))
    (rest : List Event) {place' : Nat}
    (hr' : (after (before ++ rest)).realms[i]? = some (realm', place')) :
    realm.imports <+: realm'.imports := by
  obtain ⟨realm₁, h₁, hp⟩ := append_induction
    (P := fun w => ∃ realm', w.realms[i]? = some (realm', place) ∧
      realm.imports <+: realm'.imports)
    (fun w e ⟨realm₁, h₁, hp⟩ => by
      obtain ⟨long, base, m, m', hpath, rfl, h⟩ := exists_realm_apply h₁ e
      exact ⟨m'.realm, h, hp.trans (Path.imports_isPrefix hpath)⟩)
    ⟨realm, hr, List.prefix_refl _⟩ rest
  rw [hr', Option.some.injEq, Prod.mk.injEq] at h₁
  rw [h₁.1]
  exact hp

/-! ### Type objects -/

/-- The realms keep type objects of the classes in their catalogs. -/
def Stocked (w : World) : Prop :=
  ∀ {i : Nat} {realm : Realm} {place : Nat}, w.realms[i]? = some (realm, place) →
    ∀ policy, Machine.Stocked { heap := w.heap, realm, policy }

theorem Stocked.machine (hw : w.Stocked) (h : w.machine? i = some (m, place)) : m.Stocked := by
  obtain ⟨hheap, hr, -⟩ := machine?_eq_some_iff.1 h
  have hm := hw hr m.policy
  rwa [← hheap] at hm

theorem Stocked.apply (hw : w.Stocked) (e : Event) : (w.apply e).Stocked := by
  intro i realm place hr policy
  rcases realm_apply_cases hr with ⟨op, m, -, hm, rfl, hheap⟩ | ⟨_, classes, m', hf, rfl, -⟩ | hr
  · have hs : (op.exec.final m).Stocked := op.follows_exec isHabit_stocked m (hw.machine hm)
    rw [hheap]
    exact hs.of_eq hs.gate rfl (fun _ _ => rfl) rfl
  · rw [hf.realm]
    exact ⟨Gate.sound_ofList classes, fun h => absurd h (Option.some_ne_none _).symm⟩
  · exact (hw hr policy).of_eq (hw hr policy).gate rfl (fun _ h => kind_apply h e) rfl

theorem stocked_after (history : List Event) : (after history).Stocked :=
  after_induction (P := Stocked) (fun h => nomatch h) (fun _ e hw => hw.apply e) history

/-! ### Lookups -/

/-- What a lookup of a free name comes to on a machine, by what was bound, imported, allowed and
registered on another one. A bound name has its value whatever is imported or allowed. -/
structure Answers (m m₁ : Machine) (name : String) : Prop where
  bound : ∀ p, m.heap.Nearest (.ofString name) (some m.realm.intrinsics.global) p →
    ∀ m', m'.heap = m₁.heap → m'.realm.intrinsics = m₁.realm.intrinsics →
      Exec.getGlobal name m' = .ok p.value m'
  free : (∀ p, ¬m.heap.Nearest (.ofString name) (some m.realm.intrinsics.global) p) →
    match holder? (m.realm.gate.catalog.answer m.policy) name m.realm.imports with
    | none => Exec.getGlobal name m₁ = .error (.reference name) m₁
    | some package =>
      Exec.getGlobal name m₁ = Exec.resolveValue (package ++ "." ++ name) m₁ ∧
      match m.realm.gate.catalog.answer m.policy (package ++ "." ++ name) with
      | .ok c => ∃ r m₂, Exec.getGlobal name m₁ = .ok (.object r) m₂ ∧
          m₂.realm.typeObjects.get? (package ++ "." ++ name) = some r ∧
          m₂.heap.kind r = .hostType c
      | .error f => f = .accessDenied (package ++ "." ++ name) ∧
          Exec.getGlobal name m₁ = .error f m₁

theorem nearest_global_iff (hm : m.WellFormed) {k : Key} {p : Property} :
    m.heap.Nearest k (some m.realm.intrinsics.global) p ↔
      m.heap.find? m.realm.intrinsics.global k = some p :=
  (Heap.findFrom_eq_some_iff hm.heap.acyclic hm.heap.grounded
    (Heap.holds_some hm.realm.intrinsics.global)).symm

theorem answers_of_extends (hm : m.WellFormed) (he : m.Extends m₁) (hs : m₁.Stocked)
    (name : String) : Answers m m₁ name := by
  have hfind : m₁.heap.find? m₁.realm.intrinsics.global (.ofString name) =
      m.heap.find? m.realm.intrinsics.global (.ofString name) := by
    rw [he.intrinsics, he.heap.find?_eq hm.heap.acyclic hm.heap.grounded
      hm.realm.intrinsics.global]
  have hanswer : m₁.realm.gate.resolve m₁.policy = m.realm.gate.catalog.answer m.policy := by
    funext q
    rw [hs.gate.resolve_eq_answer, he.gate.catalog, he.policy]
  constructor
  · intro p hp m' hheap hown
    refine Exec.getGlobal_of_bound ?_
    rw [hheap, hown, hfind]
    exact (nearest_global_iff hm).1 hp
  · intro hnone
    have hfree : m₁.heap.find? m₁.realm.intrinsics.global (.ofString name) = none := by
      rw [hfind, Option.eq_none_iff_forall_ne_some]
      exact fun p hp => hnone p ((nearest_global_iff hm).2 hp)
    have hsearch := Exec.getGlobal_of_free hfree
    rw [Exec.findImported_eq, hanswer, he.imports] at hsearch
    cases hh : holder? (m.realm.gate.catalog.answer m.policy) name m.realm.imports with
    | none =>
      rw [hh] at hsearch
      exact hsearch
    | some package =>
      rw [hh] at hsearch
      refine ⟨hsearch, ?_⟩
      have hsettles := List.find?_some hh
      cases ha : m.realm.gate.catalog.answer m.policy (package ++ "." ++ name) with
      | ok c =>
        obtain ⟨r, m₂, hok, hkept, hk⟩ :=
          Exec.resolveValue_of_ok hs ((congrFun hanswer _).trans ha)
        exact ⟨r, m₂, hsearch.trans hok, hkept, hk⟩
      | error f =>
        have hr := (congrFun hanswer _).trans ha
        rw [ha] at hsettles
        rcases Gate.resolve_error_cases hr with hnot | hdenied
        · rw [hnot] at hsettles
          cases hsettles
        · exact ⟨hdenied, hsearch.trans (Exec.bind_of_error (Exec.resolveType_of_error hr))⟩

/-- Lookups one after the other, and one more after them. -/
theorem answers_of_lookups (hm : m.WellFormed) (hs : m.Stocked) (earlier : List String)
    (name : String) (hrun : (Exec.runAll (earlier.map Exec.getGlobal) m).2 = m₁) :
    Answers m m₁ name ∧ m.Extends m₁ ∧ m₁.Extends ((Exec.getGlobal name).final m₁) := by
  subst hrun
  obtain ⟨he, hg⟩ := Exec.extends_lookups hs.gate earlier
  exact ⟨answers_of_extends hm he (hs.lookups earlier) name, he, Exec.extends_getGlobal hg name⟩

/-- Looking up a free name gives its value where it is bound, and else what the first of the imported
packages that decides has for it, whatever was looked up before. Lookups change no object and no
import. No package is imported twice, all have valid names, and they stay in the order in which they
were first imported. -/
theorem getGlobal_after (hs : Supports {} history)
    (hm : (after history).machine? i = some (m, place)) :
    (∀ (earlier : List String) (name : String) (m₁ : Machine),
      (Exec.runAll (earlier.map Exec.getGlobal) m).2 = m₁ →
      Answers m m₁ name ∧ m.Extends m₁ ∧ m₁.Extends ((Exec.getGlobal name).final m₁)) ∧
    (∀ long base m', Path long base m m' →
      m'.realm.Orderly ∧ m.realm.imports <+: m'.realm.imports) ∧
    ∀ before rest realm place', history = before ++ rest →
      (after before).realms[i]? = some (realm, place') → realm.imports <+: m.realm.imports := by
  have hwf := (wellFormed_after hs).machine hm
  have hstocked := Stocked.machine (stocked_after history) hm
  obtain ⟨-, hr, -⟩ := machine?_eq_some_iff.1 hm
  refine ⟨fun earlier name m₁ => answers_of_lookups hwf hstocked earlier name,
    fun long base m' hp =>
      ⟨Path.orderly hp (orderly_after history hr), Path.imports_isPrefix hp⟩, ?_⟩
  rintro before rest realm place' rfl hr'
  exact imports_prefix_after hr' rest hr

def cat : HostClass := { name := "app.Cat" }

/-- Of the packages that are imported, one has nothing, one has a type that is closed, and one has
another type of the same name. -/
def scanning : List Event := [
  .addPolicy { rules := [⟨"zoo.Dog", .deny⟩] }, .addRealm {} [dog, cat, { name := "zoo.Dog" }] 0,
  .perform 0 (.importPackage "lib"), .perform 0 (.importPackage "zoo"),
  .perform 0 (.importPackage "app"), .perform 0 (.importPackage "zoo")]

theorem getGlobal_after_scanning : Supports {} scanning ∧
    ∃ m place, (after scanning).machine? 0 = some (m, place) ∧
      m.realm.imports = ["lib", "zoo", "app"] ∧
      ∃ r m₁, Exec.getGlobal "Cat" m = .ok (.object r) m₁ ∧ m₁.heap.kind r = .hostType cat ∧
        Exec.getGlobal "Dog" m₁ = .error (.accessDenied "zoo.Dog") m₁ ∧
        Exec.getGlobal "Cow" m₁ = .error (.reference "Cow") m₁ := by
  have hs : Supports {} scanning := by decide +kernel
  obtain ⟨⟨m, place⟩, hm⟩ : ∃ e, (after scanning).machine? 0 = some e :=
    Option.isSome_iff_exists.1 (by decide +kernel)
  have hfacts : ((after scanning).machine? 0).all fun e =>
      let answer := e.1.realm.gate.catalog.answer e.1.policy
      let imports := e.1.realm.imports
      imports = ["lib", "zoo", "app"] ∧ (∀ name ∈ ["Cat", "Dog", "Cow"],
          e.1.heap.find? e.1.realm.intrinsics.global (.ofString name) = none) ∧
        holder? answer "Cat" imports = some "app" ∧ answer "app.Cat" = .ok cat ∧
        holder? answer "Dog" imports = some "zoo" ∧
        answer "zoo.Dog" = .error (.accessDenied "zoo.Dog") ∧
        holder? answer "Cow" imports = none := by decide +kernel
  rw [hm, Option.all_some, decide_eq_true_eq] at hfacts
  obtain ⟨himports, hfind, hcat, hcat', hdog, hdog', hcow⟩ := hfacts
  have hfree : ∀ name ∈ ["Cat", "Dog", "Cow"], ∀ p,
      ¬m.heap.Nearest (.ofString name) (some m.realm.intrinsics.global) p := by
    intro name hname p hp
    rw [nearest_global_iff ((wellFormed_after hs).machine hm), hfind name hname] at hp
    cases hp
  obtain ⟨hlookups, -, -⟩ := getGlobal_after hs hm
  have h := (hlookups [] "Cat" m rfl).1.free (hfree "Cat" (by simp))
  rw [hcat] at h
  dsimp only at h
  rw [show "app" ++ "." ++ "Cat" = "app.Cat" from rfl, hcat'] at h
  obtain ⟨-, r, m₁, hok, -, hk⟩ := h
  -- the other two names are looked up after the first one
  have hrun : (Exec.runAll (["Cat"].map Exec.getGlobal) m).2 = m₁ := Exec.final_of_ok hok
  have hd := (hlookups ["Cat"] "Dog" m₁ hrun).1.free (hfree "Dog" (by simp))
  rw [hdog] at hd
  dsimp only at hd
  rw [show "zoo" ++ "." ++ "Dog" = "zoo.Dog" from rfl, hdog'] at hd
  have hc := (hlookups ["Cat"] "Cow" m₁ hrun).1.free (hfree "Cow" (by simp))
  rw [hcow] at hc
  exact ⟨hs, m, place, hm, himports, r, m₁, hok, hk, hd.2.2, hc⟩

end World

end ScriptSandbox
