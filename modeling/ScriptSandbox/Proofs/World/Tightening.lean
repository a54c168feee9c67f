import Mathlib.Logic.Relation
import ScriptSandbox.Proofs.Decision
import ScriptSandbox.Proofs.World.Resolution

/-! # Tightening a policy

A policy is tightened by denials that come in, permissions that go, a default that denies, and
protection that is switched on. In whatever order this happens, it opens no name, and a realm goes on
refusing what it refused before.
-/

namespace ScriptSandbox

/-- Ranks are in a line. -/
theorem Rank.eq_of_not_lt {a b : Rank} (h : a.lt b = false) (h' : b.lt a = false) : a = b := by
  cases a <;> cases b <;>
    simp only [lt, decide_eq_false_iff_not, reduceCtorEq, below.injEq] at h h' ⊢
  omega

namespace Scope

variable {s t : Scope} {name : String}

/-- A package whose pattern is the name is as long as any that covers the name. -/
theorem eq_of_length_le {package other : String} (hp : (below package).pattern = name)
    (ho : (below other).Covers name) (hle : package.length ≤ other.length) : package = other := by
  obtain ⟨rest, hrest⟩ := covers_below_iff_eq_append.1 ho
  have hlist : package.toList ++ ['.', '*'] = other.toList ++ '.' :: rest.toList := by
    have h := congrArg String.toList (hp.trans hrest)
    simpa [pattern] using h
  cases hr : rest.toList with
  | nil =>
    -- the name would end in the dot behind the longer package
    rw [hr, List.append_cons] at hlist
    have hlast := (List.append_inj' hlist rfl).2
    simp at hlast
  | cons c cs =>
    rw [hr] at hlist
    have hlength := congrArg List.length hlist
    simp only [List.length_append, List.length_cons, List.length_nil, String.length_toList]
      at hlength
    have heq : package.toList.length = other.toList.length := by
      rw [String.length_toList, String.length_toList]
      omega
    exact String.toList_inj.1 (List.append_inj hlist heq).1

/-- For a sensitive name, a scope whose pattern is the name is outranked by none, and has the rank of
none with another pattern. -/
theorem pattern_eq_of_not_lt (hs : isSensitive name) (hp : s.pattern = name)
    (hn : s.Covers name) (ht : t.Covers name) (hlt : t.rank.lt s.rank = false) :
    t.pattern = name := by
  cases t with
  | only n => exact ht
  | everything =>
    cases s with
    | everything => exact hp
    | below package =>
      have hempty : package = "" := by
        simpa [rank, Rank.lt] using hlt
      subst hempty
      rw [← hp] at hs
      exact absurd hs (by decide +kernel)
    | only n => cases hlt
  | below other =>
    cases s with
    | everything =>
      rw [← hp] at hs
      exact absurd hs (by decide +kernel)
    | below package =>
      have hle : package.length ≤ other.length := by simpa [rank, Rank.lt] using hlt
      rw [← eq_of_length_le hp ht hle, hp]
    | only n => cases hlt

end Scope

namespace Policy

open Relation

variable {p q : Policy} {name : String}

/-- One way to tighten a policy. -/
inductive Tightens : Policy → Policy → Prop
  | deny {p : Policy} (before rest : List Rule) (pattern : String) (h : p.rules = before ++ rest) :
      Tightens p { p with rules := before ++ ⟨pattern, .deny⟩ :: rest }
  | revoke {p : Policy} (before rest : List Rule) (pattern : String)
      (h : p.rules = before ++ ⟨pattern, .allow⟩ :: rest) :
      Tightens p { p with rules := before ++ rest }
  | closeDefault (p : Policy) : Tightens p { p with defaultAccess := .deny }
  | protectSensitive (p : Policy) : Tightens p { p with sensitiveProtection := true }

/-- The second policy has all denials of the first one, and no permission besides those of the first
one. -/
structure Confines (p q : Policy) : Prop where
  deny : ∀ r ∈ p.rules, r.access = .deny → r ∈ q.rules
  allow : ∀ r ∈ q.rules, r.access = .allow → r ∈ p.rules
  defaultAccess : q.defaultAccess = .allow → p.defaultAccess = .allow
  sensitiveProtection : q.sensitiveProtection = false → p.sensitiveProtection = false

protected theorem Confines.refl (p : Policy) : p.Confines p :=
  ⟨fun _ h _ => h, fun _ h _ => h, id, id⟩

protected theorem Confines.trans {s : Policy} (h : p.Confines q) (h' : q.Confines s) :
    p.Confines s where
  deny r hr hd := h'.deny r (h.deny r hr hd) hd
  allow r hr ha := h.allow r (h'.allow r hr ha) ha
  defaultAccess hd := h.defaultAccess (h'.defaultAccess hd)
  sensitiveProtection hs := h.sensitiveProtection (h'.sensitiveProtection hs)

theorem Tightens.confines (h : p.Tightens q) : p.Confines q := by
  cases h with
  | deny before rest pattern h =>
    have hmem : ∀ r, r ∈ before ++ ⟨pattern, .deny⟩ :: rest ↔ r = ⟨pattern, .deny⟩ ∨ r ∈ p.rules :=
      fun r => by rw [h, List.perm_middle.mem_iff, List.mem_cons]
    refine ⟨fun r hr _ => (hmem r).2 (Or.inr hr), fun r hr ha => ?_, id, id⟩
    rcases (hmem r).1 hr with rfl | hr
    · cases ha
    · exact hr
  | revoke before rest pattern h =>
    have hmem : ∀ r, r ∈ p.rules ↔ r = ⟨pattern, .allow⟩ ∨ r ∈ before ++ rest :=
      fun r => by rw [h, List.perm_middle.mem_iff, List.mem_cons]
    refine ⟨fun r hr hd => ?_, fun r hr _ => (hmem r).2 (Or.inr hr), id, id⟩
    rcases (hmem r).1 hr with rfl | hr
    · cases hd
    · exact hr
  | closeDefault => exact { Confines.refl p with defaultAccess := nofun }
  | protectSensitive => exact { Confines.refl p with sensitiveProtection := nofun }

theorem confines_of_tightens (h : ReflTransGen Tightens p q) : p.Confines q := by
  induction h with
  | refl => exact .refl p
  | tail _ h ih => exact ih.trans h.confines

theorem isBest_of_best? {rules : List Rule} {rank : Rank} {b : Rule}
    (h : best? rules name = some (rank, b)) : IsBest rules name rank b := by
  rcases best?_spec rules name with ⟨hnone, -⟩ | ⟨rank', b', hsome, hbest⟩
  · rw [h] at hnone
    cases hnone
  · rw [h] at hsome
    cases hsome
    exact hbest

theorem rank?_of_best?_eq_none {rules : List Rule} {r : Rule} (h : best? rules name = none)
    (hr : r ∈ rules) : r.rank? name = none := by
  rcases best?_spec rules name with ⟨-, hall⟩ | ⟨rank, b, hsome, -⟩
  · exact hall r hr
  · rw [h] at hsome
    cases hsome

/-- What opens a name: a best rule that allows it, or else the default. -/
theorem check_eq_allowed_iff : p.check name = .allowed ↔
    (isSensitive name → p.sensitiveProtection = false) ∧
      ((∃ rank b, best? p.rules name = some (rank, b) ∧ b.access = .allow ∧
          (isSensitive name → b.pattern = name)) ∨
        best? p.rules name = none ∧ ¬isSensitive name ∧ p.defaultAccess = .allow) := by
  by_cases hg : isSensitive name ∧ p.sensitiveProtection
  · simp [check, hg.1, hg.2]
  · have ho : isSensitive name → p.sensitiveProtection = false := by simpa using hg
    rw [check_of_open ho]
    cases hb : best? p.rules name with
    | none =>
      by_cases hs : isSensitive name
      · simp [hs]
      · cases ha : p.defaultAccess <;> simp [hs]
    | some e =>
      obtain ⟨rank, b⟩ := e
      by_cases hs : isSensitive name
      · cases ha : b.access <;> simp [hs, ofRule, ha, ho hs]
      · cases ha : b.access <;> simp [hs, ofRule, ha]

/-- A best rule is for a sensitive name alone if any rule is that matches it. -/
theorem IsBest.pattern_eq {rules : List Rule} {k k' : Rank} {b r : Rule}
    (hb : IsBest rules name k b) (hs : isSensitive name) (hr : r ∈ rules)
    (hk : r.rank? name = some k') (hp : r.pattern = name) : b.pattern = name := by
  have hlt := hb.max r hr k' hk
  obtain ⟨s, hfit, rfl⟩ := Rule.exists_matches_of_rank? hk
  obtain ⟨t, hfit', rfl⟩ := Rule.exists_matches_of_rank? hb.rank_eq
  rw [← hfit'.pattern]
  exact Scope.pattern_eq_of_not_lt hs (hfit.pattern.trans hp) hfit.covers hfit'.covers hlt

namespace Confines

variable {k k' : Rank} {b b' : Rule}

/-- The best rule before was no denial if the best one now is none: it would still be there, of the
rank of the rule that allows the name. -/
theorem access_eq_allow (h : p.Confines q) (hp : IsBest p.rules name k' b')
    (hq : IsBest q.rules name k b) (hallow : b.access = .allow) : b'.access = .allow := by
  have hlt := hp.max b (h.allow b hq.mem hallow) k hq.rank_eq
  cases ha : b'.access with
  | allow => rfl
  | deny =>
    have hmem := h.deny b' hp.mem ha
    obtain rfl := Rank.eq_of_not_lt hlt (hq.max b' hmem k' hp.rank_eq)
    rw [hq.deny b' hmem hp.rank_eq ha] at hallow
    cases hallow

/-- Nor was it a denial if no rule matches the name now. -/
theorem access_eq_allow_of_unmatched (h : p.Confines q) (hp : IsBest p.rules name k' b')
    (hq : best? q.rules name = none) : b'.access = .allow := by
  cases ha : b'.access with
  | allow => rfl
  | deny =>
    have hnot := rank?_of_best?_eq_none hq (h.deny b' hp.mem ha)
    rw [hp.rank_eq] at hnot
    cases hnot

/-- What a policy leaves open was open before it was confined. -/
theorem allowed (h : p.Confines q) (hq : q.check name = .allowed) : p.check name = .allowed := by
  rw [check_eq_allowed_iff] at hq ⊢
  obtain ⟨ho, hq⟩ := hq
  refine ⟨fun hs => h.sensitiveProtection (ho hs), ?_⟩
  rcases hq with ⟨k, b, hb, hallow, hx⟩ | ⟨hb, hs, hd⟩
  · -- the rule that allows the name was there before, so some rule matched the name then
    have hbest := isBest_of_best? hb
    have hmem := h.allow b hbest.mem hallow
    rcases best?_spec p.rules name with ⟨-, hall⟩ | ⟨k', b', hsome, hbest'⟩
    · have hnot := hall b hmem
      rw [hbest.rank_eq] at hnot
      cases hnot
    · exact Or.inl ⟨k', b', hsome, h.access_eq_allow hbest' hbest hallow,
        fun hs => hbest'.pattern_eq hs hmem hbest.rank_eq (hx hs)⟩
  · rcases best?_spec p.rules name with ⟨hnone, -⟩ | ⟨k', b', hsome, hbest'⟩
    · exact Or.inr ⟨hnone, hs, h.defaultAccess hd⟩
    · exact Or.inl ⟨k', b', hsome, h.access_eq_allow_of_unmatched hbest' hb,
        fun hs' => absurd hs' hs⟩

end Confines

end Policy

namespace Gate

open Relation

variable {g g' : Gate} {p q : Policy} {name : String}

theorem resolve_eq_accessDenied_iff : g.resolve p name = .error (.accessDenied name) ↔
    TypeName.check name = .ok () ∧ p.check name ≠ .allowed := by
  cases hn : TypeName.check name with
  | error f =>
    unfold TypeName.check at hn
    split_ifs at hn <;> cases hn <;> simp_all [resolve, TypeName.check, bind, Except.bind]
  | ok u =>
    by_cases hp : p.check name = .allowed
    · have hallows : p.allows name := by simpa [Policy.allows] using hp
      rw [resolve_of_allowed hn hallows]
      cases g.find? name <;> simp [hp]
    · have hallows : ¬p.allows name := by simpa [Policy.allows] using hp
      simp [resolve_of_denied hn hallows, hp]

/-- What one gate refuses, every gate refuses under a tighter policy. -/
theorem resolve_eq_accessDenied_of_confines (h : p.Confines q)
    (hg : g.resolve p name = .error (.accessDenied name)) :
    g'.resolve q name = .error (.accessDenied name) := by
  rw [resolve_eq_accessDenied_iff] at hg ⊢
  exact ⟨hg.1, fun hq => hg.2 (h.allowed hq)⟩

end Gate

namespace World

open Relation Policy

variable {w : World} {i place : Nat} {m : Machine} {p q : Policy} {name : String}

/-- A refused name leaves the world as it is. -/
theorem perform_resolveClass_of_error {f : Failure} (h : w.resolve? i name = some (.error f)) :
    w.perform i (.resolveClass name) = w := by
  cases hm : w.machine? i with
  | none => exact perform_of_none hm _
  | some e =>
    obtain ⟨m, place⟩ := e
    rw [resolve?_of_some hm, Option.some.injEq] at h
    have hfinal : (Operation.resolveClass name).exec.final m = m := by
      rw [Exec.final, Operation.exec, Exec.bind_of_error (Exec.resolveClass_of_error h)]
    rw [perform_of_some hm, hfinal, store_of_eq hm rfl rfl, (machine?_eq_some_iff.1 hm).1]

/-- A realm goes on refusing a name when its policy is tightened. -/
theorem resolve?_updatePolicy_of_confines {f : Policy → Policy}
    (hm : w.machine? i = some (m, place)) (hf : m.policy.Confines (f m.policy))
    (h : w.resolve? i name = some (.error (.accessDenied name))) :
    (w.apply (.updatePolicy place f)).resolve? i name =
      some (.error (.accessDenied name)) := by
  rw [resolve?_of_some hm, Option.some.injEq] at h
  obtain ⟨hheap, hr, hp⟩ := machine?_eq_some_iff.1 hm
  have hm' : (w.apply (.updatePolicy place f)).machine? i =
      some ({ m with policy := f m.policy }, place) := by
    refine machine?_eq_some_iff.2 ⟨hheap, hr, ?_⟩
    rw [apply, Array.getElem?_modify, if_pos rfl, hp, Option.map_some]
  rw [resolve?_of_some hm', Gate.resolve_eq_accessDenied_of_confines hf h]

/-- Tightening a policy step by step opens no name. Whatever a gate refuses under the policy before is
refused by all gates under the one after, and so by a realm that refused it just before its policy
was tightened. -/
theorem refuses_of_tightens (h : ReflTransGen Tightens p q) :
    (∀ name, q.check name = .allowed → p.check name = .allowed) ∧
    (∀ (g g' : Gate) name, g.resolve p name = .error (.accessDenied name) →
      g'.resolve q name = .error (.accessDenied name)) ∧
    ∀ (w : World) i place m f name, w.machine? i = some (m, place) → m.policy = p → f p = q →
      w.resolve? i name = some (.error (.accessDenied name)) →
      ((w.perform i (.resolveClass name)).apply (.updatePolicy place f)).resolve? i name =
        some (.error (.accessDenied name)) := by
  have hconfines := confines_of_tightens h
  refine ⟨fun _ => hconfines.allowed,
    fun _ _ _ => Gate.resolve_eq_accessDenied_of_confines hconfines, ?_⟩
  rintro w i place m f name hm rfl rfl hres
  rw [perform_resolveClass_of_error hres]
  exact resolve?_updatePolicy_of_confines hm hconfines hres

def lenient : Policy where
  rules := [⟨"app.*", .allow⟩, ⟨"app.Cat", .deny⟩, ⟨"app.Dog", .allow⟩, ⟨"sun.misc.*", .allow⟩]
  sensitiveProtection := false

/-- The policy before, with one denial more, one permission less and its protection. -/
def severe : Policy where
  rules := [⟨"app.*", .allow⟩, ⟨"app.*", .deny⟩, ⟨"app.Cat", .deny⟩, ⟨"sun.misc.*", .allow⟩]

theorem tightens_severe : ReflTransGen Tightens lenient severe :=
  .head (.deny [⟨"app.*", .allow⟩] _ "app.*" rfl) <|
  .head (.revoke [⟨"app.*", .allow⟩, ⟨"app.*", .deny⟩, ⟨"app.Cat", .deny⟩]
    [⟨"sun.misc.*", .allow⟩] "app.Dog" rfl) <|
  .single (.protectSensitive _)

def lodging : List Event := [.addPolicy lenient, .addRealm {} [dog] 0]

theorem refuses_of_tightens_severe :
    lenient.check "app.Dog" = .allowed ∧ severe.check "app.Dog" = .denied (.rule "app.*") ∧
    ReflTransGen Tightens lenient severe ∧
    (∀ name, severe.check name = .allowed → lenient.check name = .allowed) ∧
    (((after lodging).perform 0 (.resolveClass "app.Cat")).apply
        (.updatePolicy 0 fun _ => severe)).resolve? 0 "app.Cat" =
      some (.error (.accessDenied "app.Cat")) := by
  obtain ⟨hopen, -, hworld⟩ := refuses_of_tightens tightens_severe
  refine ⟨by decide +kernel, by decide +kernel, tightens_severe, hopen, ?_⟩
  have hm : ((after lodging).machine? 0).map (fun e => (e.1.policy, e.2)) = some (lenient, 0) := by
    decide +kernel
  obtain ⟨⟨m, place⟩, hm, he⟩ := Option.map_eq_some_iff.1 hm
  simp only [Prod.mk.injEq] at he
  obtain ⟨hp, rfl⟩ := he
  exact hworld (after lodging) 0 0 m (fun _ => severe) "app.Cat" hm hp rfl (by decide +kernel)

end World

end ScriptSandbox
