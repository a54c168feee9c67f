import ScriptSandbox.Proofs.Gate
import ScriptSandbox.Proofs.Permission

/-! # Decisions about names

What a policy decides about a valid name follows from the rules that match it most closely. All of
these have one pattern, so neither the order of the rules nor their number matters.
-/

namespace ScriptSandbox

/-- What a pattern stands for. -/
inductive Scope where
  | everything
  | below (package : String)
  | only (name : String)

namespace Scope

variable {s t : Scope} {package name : String}

def pattern : Scope → String
  | everything => "*"
  | below package => package ++ ".*"
  | only name => name

/-- A package covers the names that have its segments and more. -/
def Covers : Scope → String → Prop
  | everything, _ => True
  | below package, name =>
    ∃ rest, rest ≠ [] ∧ TypeName.parts name = TypeName.parts package ++ rest
  | only n, name => n = name

/-- A single name is closer than any package, a longer package closer than a shorter one, and
everything is the least close. -/
inductive Closer : Scope → Scope → Prop
  | only_below (name package : String) : Closer (only name) (below package)
  | only_everything (name : String) : Closer (only name) everything
  | below_below {package other : String} (h : other.length < package.length) :
      Closer (below package) (below other)
  | below_everything (package : String) : Closer (below package) everything

theorem covers_below_iff_eq_append :
    (below package).Covers name ↔ ∃ rest, name = package ++ "." ++ rest := by
  constructor
  · rintro ⟨rest, hrest, hparts⟩
    refine ⟨".".intercalate rest, ?_⟩
    rw [← TypeName.intercalate_parts name, hparts,
      String.intercalate_append_of_ne_nil (TypeName.parts_ne_nil package) hrest,
      TypeName.intercalate_parts]
  · rintro ⟨rest, rfl⟩
    exact ⟨TypeName.parts rest, TypeName.parts_ne_nil rest, TypeName.parts_append_dot _ _⟩

theorem covers_below_iff_isPrefix :
    (below package).Covers name ↔ package.toList ++ ['.'] <+: name.toList := by
  rw [covers_below_iff_eq_append]
  constructor
  · rintro ⟨rest, rfl⟩
    exact ⟨rest.toList, by simp⟩
  · rintro ⟨cs, hcs⟩
    refine ⟨String.ofList cs, String.toList_inj.1 ?_⟩
    simp [← hcs]

/-- Of two scopes that cover a name one is closer, unless they are the same. -/
theorem eq_of_not_closer (hs : s.Covers name) (ht : t.Covers name) (hst : ¬s.Closer t)
    (hts : ¬t.Closer s) : s = t := by
  cases s with
  | everything =>
    cases t with
    | everything => rfl
    | below q => exact absurd (.below_everything q) hts
    | only n => exact absurd (.only_everything n) hts
  | below p =>
    cases t with
    | everything => exact absurd (.below_everything p) hst
    | below q =>
      -- both are cut from the front of the name, at the same place
      have hle : ∀ {p q : String}, ¬(below p).Closer (below q) → p.length ≤ q.length :=
        fun h => Nat.not_lt.1 fun hlt => h (.below_below hlt)
      have hlength : (p.toList ++ ['.']).length = (q.toList ++ ['.']).length := by
        simpa only [List.length_append, String.length_toList, Nat.add_right_cancel_iff] using
          Nat.le_antisymm (hle hst) (hle hts)
      have hpre := List.prefix_of_prefix_length_le (covers_below_iff_isPrefix.1 hs)
        (covers_below_iff_isPrefix.1 ht) hlength.le
      rw [String.toList_inj.1 (List.append_cancel_right (hpre.eq_of_length hlength))]
    | only n => exact absurd (.only_below n p) hts
  | only n =>
    cases t with
    | everything => exact absurd (.only_everything n) hst
    | below q => exact absurd (.only_below n q) hst
    | only n' => exact congrArg only (hs.trans ht.symm)

def rank : Scope → Rank
  | everything => .below 0
  | below package => .below package.length
  | only _ => .exact

/-- Where scopes cover a valid name, the closer one has the greater rank. -/
theorem lt_rank_of_closer (hn : TypeName.isValid name) (hs : s.Covers name) (h : s.Closer t) :
    t.rank.lt s.rank := by
  cases h with
  | only_below | only_everything => rfl
  | below_below h => simpa [rank, Rank.lt] using h
  | below_everything package =>
    obtain ⟨rest, rfl⟩ := covers_below_iff_eq_append.1 hs
    rw [TypeName.isValid_append_dot, Bool.and_eq_true] at hn
    have hne := TypeName.ne_empty_of_isValid hn.1
    simpa [rank, Rank.lt, Nat.pos_iff_ne_zero] using hne

end Scope

/-- The sensitive names are two types, and three packages with everything in them. -/
theorem isSensitive_iff {name : String} : isSensitive name ↔ name ∈ sensitiveTypes ∨
    ∃ package ∈ sensitivePackages, name = package ∨ (Scope.below package).Covers name := by
  simp only [isSensitive, List.any_eq_true, decide_eq_true_eq, List.isPrefixOf_iff_prefix,
    Scope.covers_below_iff_isPrefix]

namespace Rule

variable {r : Rule} {name : String} {s t : Scope} {rank : Rank}

/-- The rule is written for a scope, and the name is in it. -/
structure Matches (r : Rule) (name : String) (s : Scope) : Prop where
  pattern : s.pattern = r.pattern
  covers : s.Covers name

theorem package?_eq_some_iff {pattern : String} {cs : List Char} :
    package? pattern = some cs ↔ pattern.toList = cs ++ ['.', '*'] := by
  rw [← List.reverse_inj, List.reverse_append]
  unfold package?
  constructor
  · intro h
    split at h
    · rename_i hrev
      cases h
      simpa using hrev
    · cases h
  · intro h
    simp [h]

theorem rank?_of_everything (hp : r.pattern = "*") : r.rank? name = some (.below 0) := by
  rw [rank?, if_pos hp]

theorem rank?_of_package {cs : List Char} (hp : package? r.pattern = some cs) :
    r.rank? name =
      if (cs ++ ['.']).isPrefixOf name.toList then some (.below cs.length) else none := by
  have hall : r.pattern ≠ "*" := by
    intro hstar
    rw [hstar] at hp
    cases hp
  rw [rank?, if_neg hall, hp]

theorem rank?_of_name (hall : r.pattern ≠ "*") (hp : package? r.pattern = none) :
    r.rank? name = if r.pattern = name then some .exact else none := by
  rw [rank?, if_neg hall, hp]

theorem exists_matches_of_rank? (h : r.rank? name = some rank) :
    ∃ s, r.Matches name s ∧ s.rank = rank := by
  by_cases hall : r.pattern = "*"
  · rw [rank?_of_everything hall, Option.some.injEq] at h
    exact ⟨.everything, ⟨hall.symm, trivial⟩, h⟩
  · cases hp : package? r.pattern with
    | some cs =>
      rw [rank?_of_package hp, Option.ite_none_right_eq_some, Option.some.injEq] at h
      refine ⟨.below (String.ofList cs), ⟨String.toList_inj.1 ?_, ?_⟩, ?_⟩
      · simp [Scope.pattern, package?_eq_some_iff.1 hp]
      · rw [Scope.covers_below_iff_isPrefix, String.toList_ofList]
        exact List.isPrefixOf_iff_prefix.1 h.1
      · rw [Scope.rank, String.length_ofList, h.2]
    | none =>
      rw [rank?_of_name hall hp, Option.ite_none_right_eq_some, Option.some.injEq] at h
      exact ⟨.only name, ⟨h.1.symm, rfl⟩, h.2⟩

theorem Matches.rank?_eq (hn : TypeName.isValid name) (h : r.Matches name s) :
    r.rank? name = some s.rank := by
  obtain ⟨hpattern, hcovers⟩ := h
  cases s with
  | everything => exact rank?_of_everything hpattern.symm
  | below package =>
    have hp : package? r.pattern = some package.toList := by
      rw [package?_eq_some_iff, ← hpattern]
      simp [Scope.pattern]
    rw [rank?_of_package hp, String.length_toList]
    exact if_pos (List.isPrefixOf_iff_prefix.2 (Scope.covers_below_iff_isPrefix.1 hcovers))
  | only n =>
    have hname : r.pattern = name := hpattern.symm.trans hcovers
    subst hname
    exact rank?_pattern (TypeName.star_not_mem_of_isValid hn)

/-- The rank of a rule is that of the scope in which the name matches it. -/
theorem rank?_eq_some_iff (hn : TypeName.isValid name) :
    r.rank? name = some rank ↔ ∃ s, r.Matches name s ∧ s.rank = rank := by
  constructor
  · exact exists_matches_of_rank?
  · rintro ⟨s, hs, rfl⟩
    exact hs.rank?_eq hn

theorem rank?_eq_none_iff (hn : TypeName.isValid name) :
    r.rank? name = none ↔ ∀ s, ¬r.Matches name s := by
  rw [← Option.not_isSome_iff_eq_none, Option.isSome_iff_exists]
  simp only [rank?_eq_some_iff hn, not_exists]
  exact ⟨fun h s hs => h s.rank s ⟨hs, rfl⟩, fun h k s hs => h s hs.1⟩

end Rule

namespace Policy

variable {p q : Policy} {name : String} {s t : Scope} {r b : Rule} {rank : Rank} {d : Decision}

/-- The rule matches the name in a scope, and no rule matches it in a closer one. -/
structure Decisive (p : Policy) (name : String) (s : Scope) (r : Rule) : Prop where
  mem : r ∈ p.rules
  fits : r.Matches name s
  closest : ∀ r' ∈ p.rules, ∀ t, r'.Matches name t → ¬t.Closer s

theorem Decisive.scope_eq (hr : p.Decisive name s r) (hb : p.Decisive name t b) : s = t :=
  Scope.eq_of_not_closer hr.fits.covers hb.fits.covers
    (hb.closest r hr.mem s hr.fits) (hr.closest b hb.mem t hb.fits)

/-- All decisive rules have one pattern. -/
theorem Decisive.pattern_eq (hr : p.Decisive name s r) (hb : p.Decisive name t b) :
    r.pattern = b.pattern := by
  rw [← hr.fits.pattern, ← hb.fits.pattern, hr.scope_eq hb]

/-- A decisive rule is one for the name alone if its pattern is the name. -/
theorem Decisive.scope_eq_only_iff (hn : TypeName.isValid name) (hr : p.Decisive name s r) :
    s = .only name ↔ r.pattern = name := by
  obtain ⟨hpattern, hcovers⟩ := hr.fits
  have hstar := TypeName.star_not_mem_of_isValid hn
  constructor
  · rintro rfl
    exact hpattern.symm
  · intro h
    rw [h] at hpattern
    cases s with
    | everything | below _ => simp [← hpattern, Scope.pattern] at hstar
    | only n => exact congrArg Scope.only hcovers

/-- Which rules are decisive is a matter of the rules that there are. -/
theorem Decisive.congr (h : ∀ r, r ∈ q.rules ↔ r ∈ p.rules) :
    q.Decisive name s r ↔ p.Decisive name s r := by
  constructor
  · intro hr
    exact ⟨(h r).1 hr.mem, hr.fits, fun r' hr' => hr.closest r' ((h r').2 hr')⟩
  · intro hr
    exact ⟨(h r).2 hr.mem, hr.fits, fun r' hr' => hr.closest r' ((h r').1 hr')⟩

/-- The decision of a policy about a name. -/
inductive Decides (p : Policy) (name : String) : Decision → Prop
  /-- Sensitive names are closed while they are protected. -/
  | guarded (hs : isSensitive name) (hp : p.sensitiveProtection) :
      Decides p name (.denied .sensitive)
  /-- A decisive denial closes the name. -/
  | refused {s : Scope} {r : Rule} (ho : isSensitive name → p.sensitiveProtection = false)
      (hr : p.Decisive name s r) (ha : r.access = .deny) :
      Decides p name (.denied (.rule r.pattern))
  /-- Without one the name is open, a sensitive name only to rules for it alone. -/
  | granted {s : Scope} {r : Rule} (ho : isSensitive name → p.sensitiveProtection = false)
      (hr : p.Decisive name s r) (ha : ∀ t b, p.Decisive name t b → b.access = .allow)
      (hx : isSensitive name → s = .only name) : Decides p name .allowed
  | inexact {s : Scope} {r : Rule} (hs : isSensitive name) (hp : p.sensitiveProtection = false)
      (hr : p.Decisive name s r) (ha : ∀ t b, p.Decisive name t b → b.access = .allow)
      (hx : s ≠ .only name) : Decides p name (.denied .sensitive)
  /-- Names that no rule matches are left to the default, but for sensitive ones. -/
  | unmatchedSensitive (hs : isSensitive name) (hp : p.sensitiveProtection = false)
      (hn : ∀ r ∈ p.rules, ∀ t, ¬r.Matches name t) : Decides p name (.denied .sensitive)
  | unmatchedAllow (hs : ¬isSensitive name) (hn : ∀ r ∈ p.rules, ∀ t, ¬r.Matches name t)
      (ha : p.defaultAccess = .allow) : Decides p name .allowed
  | unmatchedDeny (hs : ¬isSensitive name) (hn : ∀ r ∈ p.rules, ∀ t, ¬r.Matches name t)
      (ha : p.defaultAccess = .deny) : Decides p name (.denied .byDefault)

/-- A decision depends on the rules that there are, not on their order or number. -/
theorem Decides.congr (h : ∀ r, r ∈ q.rules ↔ r ∈ p.rules)
    (ha : q.defaultAccess = p.defaultAccess) (hs : q.sensitiveProtection = p.sensitiveProtection)
    (hd : p.Decides name d) : q.Decides name d := by
  have hdecisive : ∀ {t b}, q.Decisive name t b ↔ p.Decisive name t b := Decisive.congr h
  cases hd with
  | guarded hsens hp => exact .guarded hsens (hs.trans hp)
  | refused ho hr hdeny => exact .refused (hs ▸ ho) (hdecisive.2 hr) hdeny
  | granted ho hr hall hx =>
    exact .granted (hs ▸ ho) (hdecisive.2 hr) (fun t b hb => hall t b (hdecisive.1 hb)) hx
  | inexact hsens hp hr hall hx =>
    exact .inexact hsens (hs.trans hp) (hdecisive.2 hr)
      (fun t b hb => hall t b (hdecisive.1 hb)) hx
  | unmatchedSensitive hsens hp hn =>
    exact .unmatchedSensitive hsens (hs.trans hp) fun r hr => hn r ((h r).1 hr)
  | unmatchedAllow hsens hn hp =>
    exact .unmatchedAllow hsens (fun r hr => hn r ((h r).1 hr)) (ha.trans hp)
  | unmatchedDeny hsens hn hp =>
    exact .unmatchedDeny hsens (fun r hr => hn r ((h r).1 hr)) (ha.trans hp)

/-! ### The search for the best rule -/

/-- What is left to say once the search is over and no protection stands against the name. -/
theorem check_of_open (ho : isSensitive name → p.sensitiveProtection = false) : p.check name =
    match best? p.rules name with
    | some (_, r) =>
      if isSensitive name ∧ r.access = .allow ∧ r.pattern ≠ name then .denied .sensitive
      else ofRule r
    | none =>
      if isSensitive name then .denied .sensitive
      else
        match p.defaultAccess with
        | .allow => .allowed
        | .deny => .denied .byDefault := by
  unfold check
  by_cases hs : isSensitive name
  · have hp := ho hs
    cases best? p.rules name <;> simp [hs, hp]
  · cases best? p.rules name <;> cases p.defaultAccess <;> simp [hs]

/-- While they are protected, sensitive names have one decision. -/
theorem Decides.eq_of_guarded (h : p.Decides name d) (hs : isSensitive name)
    (hp : p.sensitiveProtection) : d = .denied .sensitive := by
  cases h with
  | guarded | inexact | unmatchedSensitive => rfl
  | refused ho | granted ho =>
    rw [ho hs] at hp
    cases hp
  | unmatchedAllow hn | unmatchedDeny hn => exact absurd hs hn

/-- The case where no rule matches. -/
theorem Decides.check_eq_of_unmatched (h : p.Decides name d)
    (ho : isSensitive name → p.sensitiveProtection = false) (hnone : best? p.rules name = none)
    (hall : ∀ r ∈ p.rules, ∀ s, ¬r.Matches name s) : p.check name = d := by
  rw [check_of_open ho, hnone]
  cases h with
  | guarded hs hp =>
    rw [ho hs] at hp
    cases hp
  | refused _ hr _ | granted _ hr _ _ | inexact _ _ hr _ _ =>
    exact absurd hr.fits (hall _ hr.mem _)
  | unmatchedSensitive hs => exact if_pos hs
  | unmatchedAllow hs _ ha | unmatchedDeny hs _ ha => simp only [if_neg hs, ha]

section Valid

variable (hn : TypeName.isValid name)

include hn

theorem IsBest.decisive (h : IsBest p.rules name rank b) : ∃ s, p.Decisive name s b := by
  obtain ⟨s, hs, rfl⟩ := (Rule.rank?_eq_some_iff hn).1 h.rank_eq
  refine ⟨s, h.mem, hs, fun r hr t ht hcloser => ?_⟩
  have hlt := Scope.lt_rank_of_closer hn ht.covers hcloser
  rw [h.max r hr _ (ht.rank?_eq hn)] at hlt
  cases hlt

/-- The search ends with a decisive rule, a denial if there is one. -/
theorem best?_cases (p : Policy) :
    (best? p.rules name = none ∧ ∀ r ∈ p.rules, ∀ s, ¬r.Matches name s) ∨
      ∃ rank b s, best? p.rules name = some (rank, b) ∧ p.Decisive name s b ∧
        (b.access = .allow → ∀ t r, p.Decisive name t r → r.access = .allow) := by
  rcases best?_spec p.rules name with ⟨hnone, hall⟩ | ⟨rank, b, hsome, hbest⟩
  · exact Or.inl ⟨hnone, fun r hr => (Rule.rank?_eq_none_iff hn).1 (hall r hr)⟩
  · obtain ⟨s, hs⟩ := hbest.decisive hn
    refine Or.inr ⟨rank, b, s, hsome, hs, fun hallow t r hr => ?_⟩
    have hrank : r.rank? name = some rank := by
      rw [hr.fits.rank?_eq hn, hr.scope_eq hs, ← hs.fits.rank?_eq hn, hbest.rank_eq]
    cases ha : r.access with
    | allow => rfl
    | deny =>
      rw [hbest.deny r hr.mem hrank ha] at hallow
      cases hallow

theorem decides_check (p : Policy) : p.Decides name (p.check name) := by
  by_cases hg : isSensitive name ∧ p.sensitiveProtection
  · rw [check, if_pos hg.1, if_pos hg.2]
    exact .guarded hg.1 hg.2
  · have ho : isSensitive name → p.sensitiveProtection = false := by simpa using hg
    rw [check_of_open ho]
    rcases p.best?_cases hn with ⟨hnone, hall⟩ | ⟨rank, b, s, hsome, hb, hallow⟩
    · rw [hnone]
      dsimp only
      split_ifs with hs
      · exact .unmatchedSensitive hs (ho hs) hall
      · cases ha : p.defaultAccess with
        | allow => exact .unmatchedAllow hs hall ha
        | deny => exact .unmatchedDeny hs hall ha
    · rw [hsome]
      have hexact := hb.scope_eq_only_iff hn
      cases ha : b.access with
      | allow =>
        simp only [ofRule, ha, true_and]
        split_ifs with hx
        · exact .inexact hx.1 (ho hx.1) hb (hallow ha) (hexact.not.2 hx.2)
        · refine .granted ho hb (hallow ha) fun hs => hexact.2 ?_
          by_contra hne
          exact hx ⟨hs, hne⟩
      | deny =>
        simp only [ofRule, ha, reduceCtorEq, false_and, and_false, if_false]
        exact .refused ho hb ha

/-- The case where the search ends with a decisive rule. -/
theorem Decides.check_eq_of_decisive (h : p.Decides name d)
    (ho : isSensitive name → p.sensitiveProtection = false)
    (hsome : best? p.rules name = some (rank, b)) (hb : p.Decisive name s b)
    (hallow : b.access = .allow → ∀ t r, p.Decisive name t r → r.access = .allow) :
    p.check name = d := by
  have hexact := hb.scope_eq_only_iff hn
  rw [check_of_open ho, hsome]
  cases h with
  | guarded hs hp =>
    rw [ho hs] at hp
    cases hp
  | refused _ hr ha =>
    have hdeny : b.access = .deny := by
      cases hb' : b.access with
      | allow =>
        rw [hallow hb' _ _ hr] at ha
        cases ha
      | deny => rfl
    simp [hdeny, ofRule, hr.pattern_eq hb]
  | granted _ hr ha hx =>
    rw [hr.scope_eq hb] at hx
    simpa [ha _ _ hb, ofRule, ← hexact] using hx
  | inexact hs _ hr ha hx =>
    rw [hr.scope_eq hb] at hx
    simp [hs, ha _ _ hb, ← hexact, hx]
  | unmatchedSensitive _ _ hall | unmatchedAllow _ hall _ | unmatchedDeny _ hall _ =>
    exact absurd hb.fits (hall _ hb.mem _)

theorem Decides.check_eq (h : p.Decides name d) : p.check name = d := by
  by_cases hg : isSensitive name ∧ p.sensitiveProtection
  · rw [h.eq_of_guarded hg.1 hg.2, check, if_pos hg.1, if_pos hg.2]
  · have ho : isSensitive name → p.sensitiveProtection = false := by simpa using hg
    rcases p.best?_cases hn with ⟨hnone, hall⟩ | ⟨rank, b, s, hsome, hb, hallow⟩
    · exact h.check_eq_of_unmatched ho hnone hall
    · exact h.check_eq_of_decisive hn ho hsome hb hallow

end Valid

/-- A policy decides about a valid name as its decisive rules say, which have one pattern, and else
by default. The rules decide the same in any order, and however often they are there. -/
theorem check_eq_iff_decides (hn : TypeName.check name = .ok ()) (p : Policy) :
    (∀ d, p.check name = d ↔ p.Decides name d) ∧
    (∀ s r t b, p.Decisive name s r → p.Decisive name t b → r.pattern = b.pattern) ∧
    (isSensitive name ↔ name ∈ sensitiveTypes ∨
      ∃ package ∈ sensitivePackages, name = package ∨ (Scope.below package).Covers name) ∧
    ∀ rules, (∀ r, r ∈ rules ↔ r ∈ p.rules) → { p with rules }.check name = p.check name := by
  have hvalid := TypeName.check_eq_ok_iff.1 hn
  refine ⟨fun d => ⟨?_, fun h => h.check_eq hvalid⟩, fun s r t b hr hb => hr.pattern_eq hb,
    isSensitive_iff, fun rules h => ?_⟩
  · rintro rfl
    exact p.decides_check hvalid
  · have hd : Decides { p with rules } name (p.check name) :=
      (p.decides_check hvalid).congr h rfl rfl
    exact hd.check_eq hvalid

/-- A policy without protection that closes a sensitive package but for one of its types. -/
def excepting : Policy where
  rules := [⟨"*", .allow⟩, ⟨"jdk.internal.*", .deny⟩, ⟨"jdk.internal.ref.Cleaner", .allow⟩,
    ⟨"jdk.internal.ref.*", .deny⟩]
  sensitiveProtection := false

theorem check_eq_iff_decides_excepting :
    TypeName.check "jdk.internal.ref.Cleaner" = .ok () ∧
    TypeName.check "jdk.internal.ref.Soft" = .ok () ∧
    excepting.Decides "jdk.internal.ref.Cleaner" .allowed ∧
    excepting.Decides "jdk.internal.ref.Soft" (.denied (.rule "jdk.internal.ref.*")) ∧
    check { excepting with rules := excepting.rules.reverse ++ excepting.rules }
      "jdk.internal.ref.Soft" = .denied (.rule "jdk.internal.ref.*") := by
  have hcleaner : TypeName.check "jdk.internal.ref.Cleaner" = .ok () := by decide +kernel
  have hsoft : TypeName.check "jdk.internal.ref.Soft" = .ok () := by decide +kernel
  obtain ⟨hdecides, -, -, hrules⟩ := check_eq_iff_decides hsoft excepting
  have hcheck : excepting.check "jdk.internal.ref.Soft" =
    .denied (.rule "jdk.internal.ref.*") := by decide +kernel
  refine ⟨hcleaner, hsoft, ((check_eq_iff_decides hcleaner excepting).1 _).1 (by decide +kernel),
    (hdecides _).1 hcheck, ?_⟩
  rw [hrules _ (by simp), hcheck]

end Policy

end ScriptSandbox
