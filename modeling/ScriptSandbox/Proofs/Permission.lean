import Mathlib.Data.List.Induction
import Mathlib.Tactic.SplitIfs
import ScriptSandbox.Permission
import ScriptSandbox.TypeName

/-! # The rule that decides

Of the rules that fit a name the best is one of the highest rank, and a denial if there is one of
that rank. So a sensitive name is open only through a rule for it alone that no denial of it alone
meets.
-/

namespace ScriptSandbox

namespace Rank

variable {a b c : Rank}

theorem lt_irrefl (a : Rank) : a.lt a = false := by
  cases a <;> simp [lt]

theorem not_lt_of_lt (h : a.lt b) : b.lt a = false := by
  cases a <;> cases b <;> simp only [lt, decide_eq_true_eq, decide_eq_false_iff_not] at h ⊢
  · omega
  · cases h

theorem not_lt_trans (h : a.lt b = false) (h' : b.lt c = false) : a.lt c = false := by
  cases a <;> cases b <;> cases c <;>
    simp only [lt, decide_eq_false_iff_not, reduceCtorEq] at h h' ⊢
  omega

end Rank

namespace Policy

variable {p : Policy} {rules : List Rule} {name : String} {rank : Rank} {r b : Rule}

theorem best?_concat (rules : List Rule) (r : Rule) (name : String) :
    best? (rules ++ [r]) name =
      match r.rank? name, best? rules name with
      | none, best => best
      | some rank, none => some (rank, r)
      | some rank, some (bestRank, b) =>
        if outranks rank r bestRank b then some (rank, r) else some (bestRank, b) := by
  simp only [best?, List.foldl_append, List.foldl_cons, List.foldl_nil]
  split <;> simp_all

/-- What makes a rule the best one. -/
structure IsBest (rules : List Rule) (name : String) (rank : Rank) (b : Rule) : Prop where
  mem : b ∈ rules
  rank_eq : b.rank? name = some rank
  max : ∀ r ∈ rules, ∀ k, r.rank? name = some k → rank.lt k = false
  deny : ∀ r ∈ rules, r.rank? name = some rank → r.access = .deny → b.access = .deny

namespace IsBest

/-- A rule that does not outrank the best one changes nothing. -/
theorem keep (h : IsBest rules name rank b)
    (hr : ∀ k, r.rank? name = some k → outranks k r rank b = false) :
    IsBest (rules ++ [r]) name rank b where
  mem := List.mem_append_left _ h.mem
  rank_eq := h.rank_eq
  max s hs k hk := by
    rcases List.mem_append.1 hs with hs | hs
    · exact h.max s hs k hk
    · rw [List.mem_singleton.1 hs] at hk
      have ho := hr k hk
      simp only [outranks, decide_eq_false_iff_not, not_or, Bool.not_eq_true] at ho
      exact ho.1
  deny s hs hk hd := by
    rcases List.mem_append.1 hs with hs | hs
    · exact h.deny s hs hk hd
    · rw [List.mem_singleton.1 hs] at hk hd
      have ho := hr rank hk
      simp only [outranks, decide_eq_false_iff_not, not_or, true_and, hd] at ho
      cases hb : b.access with
      | allow => exact absurd hb ho.2
      | deny => rfl

/-- A rule that outranks the best one takes its place. -/
theorem replace {bestRank : Rank} (h : IsBest rules name bestRank b) (hr : r.rank? name = some rank)
    (ho : outranks rank r bestRank b) : IsBest (rules ++ [r]) name rank r where
  mem := List.mem_append_right _ List.mem_cons_self
  rank_eq := hr
  max s hs k hk := by
    simp only [outranks, decide_eq_true_eq] at ho
    rcases List.mem_append.1 hs with hs | hs
    · have hmax := h.max s hs k hk
      rcases ho with ho | ⟨rfl, -⟩
      · exact Rank.not_lt_trans (Rank.not_lt_of_lt ho) hmax
      · exact hmax
    · rw [List.mem_singleton.1 hs, hr, Option.some.injEq] at hk
      rw [hk]
      exact Rank.lt_irrefl k
  deny s hs hk hd := by
    simp only [outranks, decide_eq_true_eq] at ho
    rcases List.mem_append.1 hs with hs | hs
    · rcases ho with ho | ⟨-, ho, -⟩
      · rw [h.max s hs rank hk] at ho
        cases ho
      · exact ho
    · rwa [List.mem_singleton.1 hs] at hd

/-- The first rule that fits is the best one so far. -/
theorem first (h : ∀ s ∈ rules, s.rank? name = none) (hr : r.rank? name = some rank) :
    IsBest (rules ++ [r]) name rank r where
  mem := List.mem_append_right _ List.mem_cons_self
  rank_eq := hr
  max s hs k hk := by
    rcases List.mem_append.1 hs with hs | hs
    · rw [h s hs] at hk
      cases hk
    · rw [List.mem_singleton.1 hs, hr, Option.some.injEq] at hk
      rw [hk]
      exact Rank.lt_irrefl k
  deny s hs hk hd := by
    rcases List.mem_append.1 hs with hs | hs
    · rw [h s hs] at hk
      cases hk
    · rwa [List.mem_singleton.1 hs] at hd

end IsBest

/-- The search finds the best rule, if any rule fits. -/
theorem best?_spec (rules : List Rule) (name : String) :
    (best? rules name = none ∧ ∀ r ∈ rules, r.rank? name = none) ∨
      ∃ rank b, best? rules name = some (rank, b) ∧ IsBest rules name rank b := by
  induction rules using List.reverseRecOn with
  | nil => exact Or.inl ⟨rfl, fun r hr => nomatch hr⟩
  | append_singleton rules r ih =>
    rw [best?_concat]
    rcases ih with ⟨hnone, hall⟩ | ⟨bestRank, b, hsome, hbest⟩
    · rw [hnone]
      cases hr : r.rank? name with
      | none =>
        refine Or.inl ⟨rfl, fun s hs => ?_⟩
        rcases List.mem_append.1 hs with hs | hs
        · exact hall s hs
        · rw [List.mem_singleton.1 hs, hr]
      | some rank => exact Or.inr ⟨rank, r, rfl, .first hall hr⟩
    · rw [hsome]
      refine Or.inr ?_
      cases hr : r.rank? name with
      | none => exact ⟨bestRank, b, rfl, hbest.keep fun k hk => nomatch hr.symm.trans hk⟩
      | some rank =>
        dsimp only
        split
        · rename_i ho
          exact ⟨rank, r, rfl, hbest.replace hr ho⟩
        · rename_i ho
          refine ⟨bestRank, b, rfl, hbest.keep fun k hk => ?_⟩
          rw [hr, Option.some.injEq] at hk
          rw [← hk]
          exact Bool.eq_false_iff.2 ho

/-! ### Barred names -/

/-- Whether the policy refuses a name for what it is, and not by default. -/
def bars (p : Policy) (name : String) : Bool :=
  match p.check name with
  | .denied .sensitive | .denied (.rule _) => true
  | .denied .byDefault | .allowed => false

theorem allows_eq_false_of_bars (h : p.bars name) : p.allows name = false := by
  unfold bars at h
  split at h <;> simp_all [allows]

theorem check_ne_byDefault_of_bars (h : p.bars name) : p.check name ≠ .denied .byDefault := by
  intro hp
  simp [bars, hp] at h

theorem allows_of_not_bars (h : ¬p.bars name) (hd : p.check name ≠ .denied .byDefault) :
    p.allows name := by
  unfold bars at h
  split at h <;> simp_all [allows]

end Policy

/-! ### Sensitive names -/

namespace TypeName

theorem eq_dot_or_mem_segments {c : Char} {cs : List Char} (hc : c ∈ cs) :
    c = '.' ∨ ∃ s ∈ segments cs, c ∈ s := by
  induction cs with
  | nil => cases hc
  | cons d cs ih =>
    by_cases hd : d = '.'
    · rw [segments, if_pos hd]
      rcases List.mem_cons.1 hc with rfl | hc
      · exact Or.inl hd
      · refine (ih hc).imp_right ?_
        rintro ⟨s, hs, hcs⟩
        exact ⟨s, List.mem_cons_of_mem _ hs, hcs⟩
    · rw [segments, if_neg hd]
      cases hseg : segments cs with
      | nil =>
        rw [hseg] at ih
        rcases List.mem_cons.1 hc with rfl | hc
        · exact Or.inr ⟨[c], List.mem_cons_self, List.mem_cons_self⟩
        · refine (ih hc).imp_right ?_
          rintro ⟨s, hs, -⟩
          cases hs
      | cons t rest =>
        rw [hseg] at ih
        rcases List.mem_cons.1 hc with rfl | hc
        · exact Or.inr ⟨c :: t, List.mem_cons_self, List.mem_cons_self⟩
        · refine (ih hc).imp_right ?_
          rintro ⟨s, hs, hcs⟩
          rcases List.mem_cons.1 hs with rfl | hs
          · exact ⟨d :: s, List.mem_cons_self, List.mem_cons_of_mem _ hcs⟩
          · exact ⟨s, List.mem_cons_of_mem _ hs, hcs⟩

/-- A valid name is no pattern. -/
theorem star_not_mem_of_isValid {name : String} (h : isValid name) : '*' ∉ name.toList := by
  intro hc
  rcases eq_dot_or_mem_segments hc with hd | ⟨s, hs, hc⟩
  · cases hd
  · have hseg := List.all_eq_true.1 h s hs
    simp only [isSegment, decide_eq_true_eq] at hseg
    have hchar := List.all_eq_true.1 hseg.2 _ hc
    revert hchar
    decide +kernel

end TypeName

/-- A rule for a single name fits it exactly. -/
theorem Rule.rank?_pattern {r : Rule} (h : '*' ∉ r.pattern.toList) :
    r.rank? r.pattern = some .exact := by
  have hall : r.pattern ≠ "*" := by
    intro he
    rw [he] at h
    exact h (by decide)
  have hpackage : package? r.pattern = none := by
    unfold package?
    split
    · rename_i hrev
      refine absurd (List.mem_reverse.1 ?_) h
      rw [hrev]
      exact List.mem_cons_self
    · rfl
  rw [rank?, if_neg hall, hpackage]
  exact if_pos rfl

namespace Policy

variable {p : Policy} {rules : List Rule} {name : String} {rank : Rank} {b : Rule}

/-- A best rule that allows just the name is met by no denial of just the name. -/
theorem IsBest.deny_not_mem (h : IsBest rules name rank b) (hp : b.pattern = name)
    (hb : b.access = .allow) (hn : '*' ∉ name.toList) : ⟨name, .deny⟩ ∉ rules := by
  intro hd
  subst hp
  have hrank := h.rank_eq
  rw [Rule.rank?_pattern hn, Option.some.injEq] at hrank
  subst hrank
  have hdeny := h.deny _ hd (Rule.rank?_pattern (r := ⟨b.pattern, .deny⟩) hn) rfl
  rw [hb] at hdeny
  cases hdeny

/-- A sensitive name is allowed only without protection, by a rule for it alone and no denial of it
alone. -/
theorem sensitive_of_check (h : p.check name = .allowed) (hs : isSensitive name)
    (hn : '*' ∉ name.toList) :
    p.sensitiveProtection = false ∧ ⟨name, .allow⟩ ∈ p.rules ∧ ⟨name, .deny⟩ ∉ p.rules := by
  rw [check, if_pos hs] at h
  split_ifs at h with hp
  rcases best?_spec p.rules name with ⟨hnone, -⟩ | ⟨rank, b, hsome, hbest⟩
  · rw [hnone] at h
    cases h
  · rw [hsome] at h
    dsimp only at h
    split_ifs at h with hb
    have hallow : b.access = .allow := by
      unfold ofRule at h
      split at h
      · assumption
      · cases h
    have hpattern : b.pattern = name := by
      by_contra hne
      exact hb ⟨hallow, hne⟩
    refine ⟨Bool.eq_false_iff.2 hp, ?_, hbest.deny_not_mem hpattern hallow hn⟩
    have he : b = ⟨name, .allow⟩ := by
      cases b
      simp_all
    exact he ▸ hbest.mem

end Policy

end ScriptSandbox
