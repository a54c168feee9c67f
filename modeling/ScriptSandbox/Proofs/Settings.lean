import ScriptSandbox.Proofs.Json.Tree
import ScriptSandbox.Settings

/-! # Settings read back

Characters are no halves, so a string is read back from its code points. Every record writes each of
its fields once, under the name that it reads.
-/

namespace ScriptSandbox

namespace Json

theorem isHalf_toNat (c : Char) : isHighHalf c.toNat = false ∧ isLowHalf c.toNat = false := by
  have hc : c.toNat < 0xD800 ∨ 0xDFFF < c.toNat ∧ c.toNat < 0x110000 := c.valid
  simp only [isHighHalf, isLowHalf, decide_eq_false_iff_not]
  omega

theorem charsOf?_toNat (cs : List Char) : charsOf? (cs.map Char.toNat) = some cs := by
  induction cs with
  | nil => rfl
  | cons c cs ih =>
    cases cs with
    | nil => simp [charsOf?, isHalf_toNat]
    | cons d ds =>
      rw [List.map_cons] at ih
      simp [charsOf?, isHalf_toNat, ih]

@[simp]
theorem stringOf?_pointsOf (s : String) : stringOf? (pointsOf s) = some s := by
  rw [stringOf?, pointsOf, charsOf?_toNat, Option.map_some, String.ofList_toList]

@[simp]
theorem string?_ofString (s : String) : (ofString s).string? = some s := stringOf?_pointsOf s

theorem list?_map {α : Type} {read : Json → Option α} {made : α → Json}
    (h : ∀ a, read (made a) = some a) (as : List α) :
    list? read (.array (as.map made)) = some as := by
  rw [list?]
  induction as with
  | nil => rfl
  | cons a as ih =>
    rw [List.map_cons, List.mapM_cons, h, ih]
    rfl

theorem areCodePoints_pointsOf (s : String) : AreCodePoints (pointsOf s) := by
  intro n hn
  obtain ⟨c, -, rfl⟩ := List.mem_map.1 hn
  have hc : c.toNat < 0xD800 ∨ 0xDFFF < c.toNat ∧ c.toNat < 0x110000 := c.valid
  omega

theorem isWritable_ofString (s : String) : IsWritable (ofString s) :=
  .text (areCodePoints_pointsOf s)

theorem isWritable_map {α : Type} {made : α → Json} (h : ∀ a, IsWritable (made a)) (as : List α) :
    IsWritable (.array (as.map made)) := by
  refine .array fun j hj => ?_
  obtain ⟨a, -, rfl⟩ := List.mem_map.1 hj
  exact h a

/-- A record of named fields. -/
def ofFields (fields : List (String × Json)) : Json :=
  .object (fields.map fun f => (pointsOf f.1, f.2))

theorem isWritable_ofFields {fields : List (String × Json)} (h : ∀ f ∈ fields, IsWritable f.2) :
    IsWritable (ofFields fields) := by
  refine .object (fun m hm => ?_) fun m hm => ?_
  · obtain ⟨f, -, rfl⟩ := List.mem_map.1 hm
    exact areCodePoints_pointsOf f.1
  · obtain ⟨f, hf, rfl⟩ := List.mem_map.1 hm
    exact h f hf

theorem mapM_stringOf? (fields : List (String × Json)) :
    (fields.map fun f => (pointsOf f.1, f.2)).mapM (fun m => (stringOf? m.1).map (·, m.2)) =
      some fields := by
  induction fields with
  | nil => rfl
  | cons f fields ih =>
    rw [List.map_cons, List.mapM_cons, stringOf?_pointsOf, ih]
    rfl

/-- A record that has no field twice, and none that is not known, is read as its fields. -/
theorem record?_ofFields {names : List String} {fields : List (String × Json)}
    (hknown : ∀ f ∈ fields, f.1 ∈ names) (h : (fields.map Prod.fst).Nodup) :
    record? names (ofFields fields) = some fields := by
  have hfilter : fields.filter (·.1 ∈ names) = fields :=
    List.filter_eq_self.2 fun f hf => decide_eq_true (hknown f hf)
  simp only [record?, ofFields, mapM_stringOf?, Option.bind_eq_bind, Option.bind_some, hfilter,
    if_pos h]

theorem fieldOr_of_lookup {α : Type} {fields : List (String × Json)} {name : String} {j : Json}
    (h : fields.lookup name = some j) (read : Json → Option α) (missing : α) :
    fieldOr fields name read missing = read j := by
  rw [fieldOr, h]

end Json

open Json

variable (a : Access) (r : Rule) (p : Policy) (s : Settings)

theorem Access.ofJson?_toJson : ofJson? a.toJson = some a := by
  have hname : (ofString a.name).string?.bind ofName? = some a := by
    rw [string?_ofString]
    cases a <;> decide
  exact hname

theorem Access.isWritable_toJson : IsWritable a.toJson := isWritable_ofString a.name

/-! ### Rules -/

def Rule.fields : List (String × Json) :=
  [("pattern", .ofString r.pattern), ("access", r.access.toJson)]

theorem Rule.toJson_eq : r.toJson = ofFields r.fields := rfl

theorem Rule.isWritable_toJson : IsWritable r.toJson := by
  rw [toJson_eq]
  refine isWritable_ofFields ?_
  simp [fields, isWritable_ofString, Access.isWritable_toJson]

theorem Rule.ofJson?_toJson : ofJson? r.toJson = some r := by
  have hrecord : record? ["pattern", "access"] r.toJson = some r.fields := by
    rw [toJson_eq]
    exact record?_ofFields (by simp [fields]) (by simp [fields])
  simp [ofJson?, hrecord, fields, field?, List.lookup_cons, Access.ofJson?_toJson]

/-! ### Policies -/

def Policy.fields : List (String × Json) :=
  [("default_access", p.defaultAccess.toJson), ("rules", .array (p.rules.map Rule.toJson)),
    ("sensitive_protection", .bool p.sensitiveProtection)]

theorem Policy.toJson_eq : p.toJson = ofFields p.fields := rfl

theorem Policy.isWritable_toJson : IsWritable p.toJson := by
  rw [toJson_eq]
  refine isWritable_ofFields ?_
  simp [fields, Access.isWritable_toJson, isWritable_map Rule.isWritable_toJson, IsWritable.bool]

theorem Policy.ofJson?_toJson : ofJson? p.toJson = some p := by
  have hrecord : record? ["default_access", "rules", "sensitive_protection"] p.toJson =
      some p.fields := by
    rw [toJson_eq]
    exact record?_ofFields (by simp [fields]) (by simp [fields])
  have haccess : p.fields.lookup "default_access" = some p.defaultAccess.toJson := by
    simp [fields]
  have hrules : p.fields.lookup "rules" = some (.array (p.rules.map Rule.toJson)) := by
    simp [fields, List.lookup_cons]
  have hprotection : p.fields.lookup "sensitive_protection" =
      some (.bool p.sensitiveProtection) := by
    simp [fields, List.lookup_cons]
  simp only [ofJson?, hrecord, Option.bind_eq_bind, Option.bind_some, fieldOr_of_lookup haccess,
    fieldOr_of_lookup hrules, fieldOr_of_lookup hprotection, Access.ofJson?_toJson,
    list?_map Rule.ofJson?_toJson, bool?, Option.pure_def]

/-! ### Settings -/

def Settings.fields : List (String × Json) :=
  [("strict", .bool s.strict), ("package_roots", .array (s.packageRoots.map Json.ofString)),
    ("policy", s.policy.toJson)]

theorem Settings.toJson_eq : s.toJson = ofFields s.fields := rfl

theorem Settings.isWritable_toJson : IsWritable s.toJson := by
  rw [toJson_eq]
  refine isWritable_ofFields ?_
  simp [fields, isWritable_map isWritable_ofString, Policy.isWritable_toJson, IsWritable.bool]

theorem Settings.ofJson?_toJson : ofJson? s.toJson = some s := by
  have hrecord : record? ["strict", "package_roots", "policy"] s.toJson = some s.fields := by
    rw [toJson_eq]
    exact record?_ofFields (by simp [fields]) (by simp [fields])
  have hstrict : s.fields.lookup "strict" = some (.bool s.strict) := by
    simp [fields]
  have hroots : s.fields.lookup "package_roots" =
      some (.array (s.packageRoots.map Json.ofString)) := by
    simp [fields, List.lookup_cons]
  have hpolicy : s.fields.lookup "policy" = some s.policy.toJson := by
    simp [fields, List.lookup_cons]
  simp only [ofJson?, hrecord, Option.bind_eq_bind, Option.bind_some, fieldOr_of_lookup hstrict,
    fieldOr_of_lookup hroots, fieldOr_of_lookup hpolicy, bool?, list?_map string?_ofString,
    Policy.ofJson?_toJson, Option.pure_def]

/-- Settings that are written as a text are read back from it. -/
theorem Settings.parse?_text : parse? s.text = some s := by
  rw [parse?, text, Json.parse?_pretty s.isWritable_toJson]
  exact s.ofJson?_toJson

end ScriptSandbox
