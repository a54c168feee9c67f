import ScriptSandbox.Proofs.Machine.Host
import ScriptSandbox.Proofs.Permission
import ScriptSandbox.Proofs.World.Run

/-! # The host types of a world

Every object for a host type or of one carries a class that the gate of some realm handed out, at a
moment when the policy in force allowed it. While the protection of sensitive names is on they stay
out of the heap; without it only a rule for the name alone lets one in.
-/

namespace ScriptSandbox

/-- A valid name is no pattern. -/
theorem Gate.star_not_mem_of_resolve {g : Gate} {p : Policy} {name : String} {c : HostClass}
    (h : g.resolve p name = .ok c) : '*' ∉ name.toList := by
  obtain ⟨hn, -, -⟩ := resolve_eq_ok_iff.1 h
  unfold TypeName.check at hn
  split_ifs at hn with _ hvalid
  exact TypeName.star_not_mem_of_isValid hvalid

namespace World

open Machine

variable {w : World} {i place : Nat} {m m' : Machine} {c : HostClass}

/-- The gates of all realms are sound. -/
def Gated (w : World) : Prop :=
  ∀ {i : Nat} {realm : Realm} {place : Nat}, w.realms[i]? = some (realm, place) → realm.gate.Sound

theorem Gated.gate (hw : w.Gated) (h : w.machine? i = some (m, place)) : m.realm.gate.Sound :=
  hw (machine?_eq_some_iff.1 h).2.1

theorem Gated.apply (hw : w.Gated) (e : Event) : (w.apply e).Gated := by
  intro i realm place hr
  rcases realm_apply_cases hr with ⟨op, m, -, hm, rfl, -⟩ | ⟨_, classes, m', hf, rfl, -⟩ | hr
  · exact (Path.gate (op.fitted_exec m) (hw.gate hm)).1
  · rw [hf.realm]
    exact Gate.sound_ofList classes
  · exact hw hr

theorem gated_after (history : List Event) : (after history).Gated :=
  after_induction (P := Gated) (fun h => nomatch h) (fun _ e hw => hw.apply e) history

/-- A realm lets a class through: the policy in force allows its name, and the gate answers with
it. -/
def Admits (w : World) (i : Nat) (c : HostClass) : Prop :=
  ∃ m place, w.machine? i = some (m, place) ∧ m.policy.check c.name = .allowed ∧
    m.realm.gate.resolve m.policy c.name = .ok c

/-- A realm has handed a class out under its name. -/
def HasHandedOut (w : World) (i : Nat) (c : HostClass) : Prop :=
  ∃ realm place, w.realms[i]? = some (realm, place) ∧
    realm.gate.resolved.get? c.name = some c

theorem admits_of_resolve (h : w.machine? i = some (m, place))
    (hr : m.realm.gate.resolve m.policy c.name = .ok c) : w.Admits i c :=
  ⟨m, place, h, (Gate.resolve_eq_ok_iff.1 hr).2.1, hr⟩

theorem hasHandedOut_store (h : w.machine? i = some (m, place))
    (hc : m'.realm.gate.resolved.get? c.name = some c) :
    (w.store i place m').HasHandedOut i c :=
  ⟨_, place, (machine?_eq_some_iff.1 (machine?_store h m')).2.1, hc⟩

/-- What was handed out stays so. -/
theorem HasHandedOut.apply (hc : w.HasHandedOut i c) (hw : w.Gated) (e : Event) :
    (w.apply e).HasHandedOut i c := by
  obtain ⟨realm, place, hr, hc⟩ := hc
  obtain ⟨long, base, m, m', hp, rfl, hr'⟩ := exists_realm_apply hr e
  exact ⟨m'.realm, place, hr', (Path.gate hp (hw hr)).2.resolved hc⟩

/-- Only an operation of a realm that admits a class hands it out. -/
theorem hasHandedOut_apply (hw : w.Gated) {e : Event} (hc : (w.apply e).HasHandedOut i c) :
    w.HasHandedOut i c ∨ w.Admits i c ∧ ∃ op, e = .perform i op := by
  obtain ⟨realm, place, hr, hc⟩ := hc
  rcases realm_apply_cases hr with ⟨op, m, he, hm, rfl, -⟩ | ⟨_, _, m', hf, rfl, -⟩ | hr
  · rcases Path.remembered (op.fitted_exec m) (hw.gate hm) hc with hc | hres
    · exact Or.inl ⟨_, place, (machine?_eq_some_iff.1 hm).2.1, hc⟩
    · exact Or.inr ⟨admits_of_resolve hm hres, op, he⟩
  · rw [hf.realm] at hc
    cases hc
  · exact Or.inl ⟨realm, place, hr, hc⟩

/-- A class comes into the heap only by an operation of a realm that admits it at that moment. -/
theorem carries_apply (hw : w.Gated) {e : Event} (hc : (w.apply e).heap.Carries c) :
    w.heap.Carries c ∨ ∃ i, w.Admits i c ∧ (w.apply e).HasHandedOut i c := by
  rcases w.apply_cases e with ⟨i, op, m, place, -, hm, h⟩ | ⟨_, classes, _, m', -, hf, h, -⟩ | ⟨h, -⟩
  · rw [h] at hc ⊢
    rcases Path.carries (op.fitted_exec m) (hw.gate hm) hc with hc | ⟨hres, hmem⟩
    · rw [(machine?_eq_some_iff.1 hm).1] at hc
      exact Or.inl hc
    · exact Or.inr ⟨i, admits_of_resolve hm hres, hasHandedOut_store hm hmem⟩
  · rw [h] at hc
    rcases Path.carries hf.path (Gate.sound_ofList classes) hc with hc | ⟨-, hmem⟩
    · exact Or.inl hc
    · rw [hf.realm] at hmem
      cases hmem
  · exact Or.inl (h ▸ hc)

/-! ### Histories -/

variable {history : List Event}

theorem hasHandedOut_of_carries (hc : (after history).heap.Carries c) :
    ∃ i, (after history).HasHandedOut i c := by
  induction history using List.reverseRecOn with
  | nil =>
    obtain ⟨r, hr⟩ := hc
    exact absurd (Heap.lt_size_of_hostClass? hr) (Nat.not_lt_zero _)
  | append_singleton history e ih =>
    rw [after_concat] at hc ⊢
    rcases carries_apply (gated_after history) hc with hc | ⟨i, -, hi⟩
    · obtain ⟨i, hi⟩ := ih hc
      exact ⟨i, hi.apply (gated_after history) e⟩
    · exact ⟨i, hi⟩

/-- There is a first operation at which a realm hands a class out, and the realm admits it then. -/
theorem exists_of_hasHandedOut (hc : (after history).HasHandedOut i c) :
    ∃ before op rest, history = before ++ .perform i op :: rest ∧ (after before).Admits i c ∧
      ¬(after before).HasHandedOut i c ∧ (after (before ++ [.perform i op])).HasHandedOut i c := by
  induction history using List.reverseRecOn with
  | nil =>
    obtain ⟨realm, place, hr, -⟩ := hc
    cases hr
  | append_singleton history e ih =>
    by_cases hold : (after history).HasHandedOut i c
    · obtain ⟨before, op, rest, he, h⟩ := ih hold
      exact ⟨before, op, rest ++ [e], by simp [he], h⟩
    · have hnew := hc
      rw [after_concat] at hc
      rcases hasHandedOut_apply (gated_after history) hc with hc | ⟨ha, op, rfl⟩
      · exact absurd hc hold
      · exact ⟨history, op, [], rfl, ha, hold, hnew⟩

/-- A realm whose policy protects sensitive names admits none. -/
theorem Admits.not_isSensitive (ha : w.Admits i c)
    (hp : ∀ p ∈ w.policies, p.sensitiveProtection = true) : isSensitive c.name = false := by
  obtain ⟨m, place, h, hcheck, hres⟩ := ha
  obtain ⟨-, -, hpolicy⟩ := machine?_eq_some_iff.1 h
  have hon := hp _ (Array.mem_of_getElem? hpolicy)
  refine Bool.eq_false_iff.2 fun hs => ?_
  have hoff := (Policy.sensitive_of_check hcheck hs (Gate.star_not_mem_of_resolve hres)).1
  rw [hon] at hoff
  cases hoff

/-- Every host class in the heap was handed out under its own name by a realm that admitted it. With
the protection of sensitive names on all along, none of them is sensitive; and a sensitive name is
resolved only while a rule allows it alone and none denies it alone. -/
theorem hostClasses_after (history : List Event) :
    (∀ c, (after history).heap.Carries c →
      ∃ before i op rest, history = before ++ .perform i op :: rest ∧
        (after before).Admits i c ∧ ¬(after before).HasHandedOut i c ∧
        (after (before ++ [.perform i op])).HasHandedOut i c) ∧
    ((∀ before, before <+: history → ∀ p ∈ (after before).policies, p.sensitiveProtection = true) →
      ∀ c, (after history).heap.Carries c → isSensitive c.name = false) ∧
    ∀ m m' name c, Exec.resolveClass name m = .ok c m' → isSensitive name = true →
      m.policy.sensitiveProtection = false ∧
        ⟨name, .allow⟩ ∈ m.policy.rules ∧ ⟨name, .deny⟩ ∉ m.policy.rules := by
  refine ⟨fun c hc => ?_, fun hp c hc => ?_, fun m m' name c h hs => ?_⟩
  · obtain ⟨i, hi⟩ := hasHandedOut_of_carries hc
    obtain ⟨before, op, rest, h⟩ := exists_of_hasHandedOut hi
    exact ⟨before, i, op, rest, h⟩
  · obtain ⟨i, hi⟩ := hasHandedOut_of_carries hc
    obtain ⟨before, op, rest, rfl, ha, -⟩ := exists_of_hasHandedOut hi
    exact ha.not_isSensitive (hp before (List.prefix_append _ _))
  · obtain ⟨hres, -⟩ := Exec.resolveClass_eq_ok_iff.1 h
    exact Policy.sensitive_of_check (Gate.resolve_eq_ok_iff.1 hres).2.1 hs
      (Gate.star_not_mem_of_resolve hres)

section Sample

def dog : HostClass := { name := "app.Dog", constructor := some .noop }

def memory : HostClass := { name := "sun.misc.Unsafe" }

/-- An instance is made of one class; the other is refused. -/
def hosting : List Event := [
  .addPolicy {}, .addRealm {} [dog, memory] 0,
  .perform 0 (.resolveType "sun.misc.Unsafe"),
  .perform 0 (.resolveType "app.Dog"),
  .perform 0 (.construct (.object ⟨61⟩) [])]

/-- A machine without protection that allows the sensitive class by its name. -/
def exposing : Machine where
  heap := {}
  realm := {
    intrinsics := (Intrinsics.allocate {}).1
    settings := {}
    gate := { catalog := .ofList [memory] } }
  policy := { rules := [⟨"sun.misc.Unsafe", .allow⟩], sensitiveProtection := false }

theorem hostClasses_after_hosting :
    (after hosting).heap.Carries dog ∧
    (∃ before i op rest, hosting = before ++ .perform i op :: rest ∧
      (after before).Admits i dog ∧ ¬(after before).HasHandedOut i dog ∧
      (after (before ++ [.perform i op])).HasHandedOut i dog) ∧
    isSensitive dog.name = false ∧ isSensitive memory.name = true ∧
    ⟨memory.name, .allow⟩ ∈ exposing.policy.rules ∧ ⟨memory.name, .deny⟩ ∉ exposing.policy.rules := by
  obtain ⟨hmoment, hprotected, hexact⟩ := hostClasses_after hosting
  have hc : (after hosting).heap.Carries dog := ⟨⟨62⟩, by decide +kernel⟩
  have hp : ∀ before, before <+: hosting → ∀ p ∈ (after before).policies,
      p.sensitiveProtection = true := by
    have hall : ∀ before ∈ hosting.inits, ∀ p ∈ (after before).policies,
      p.sensitiveProtection = true := by decide +kernel
    exact fun before h => hall before ((List.mem_inits _ _).2 h)
  have hs : isSensitive memory.name = true := by decide +kernel
  have hr : exposing.realm.gate.resolve exposing.policy memory.name = .ok memory := by
    decide +kernel
  have h := hexact _ _ _ _ (Exec.resolveClass_of_ok hr) hs
  exact ⟨hc, hmoment dog hc, hprotected hp dog hc, hs, h.2⟩

end Sample

end World

end ScriptSandbox
