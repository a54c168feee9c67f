import ScriptSandbox.Proofs.Gate

/-! # Names of host classes

Two texts are qualified names exactly if they make one with a dot between them. So the package and
the short name that the name of a class is taken apart into are names again.
-/

namespace ScriptSandbox

theorem TypeName.check_append_dot_iff {s t : String} :
    check (s ++ "." ++ t) = .ok () ↔ check s = .ok () ∧ check t = .ok () := by
  rw [check_eq_ok_iff, check_eq_ok_iff, check_eq_ok_iff, isValid_append_dot, Bool.and_eq_true]

namespace HostClass

/-- How the name of a class comes apart: it stands in no package, or it is the short name in the
package, and both parts are names. -/
inductive Splits (c : HostClass) : Prop
  | bare (hname : '.' ∉ c.name.toList) (hpackage : c.package = "") (hshort : c.short = c.name)
  | dotted (hname : c.name = c.package ++ "." ++ c.short)
      (hpackage : TypeName.check c.package = .ok ()) (hshort : TypeName.check c.short = .ok ())
      (hdot : '.' ∉ c.short.toList)

theorem splits {c : HostClass} (h : TypeName.check c.name = .ok ()) : c.Splits := by
  by_cases hdot : '.' ∈ c.name.toList
  · have hname : c.package ++ "." ++ c.short = c.name := TypeName.package_append_short hdot
    rw [← hname, TypeName.check_append_dot_iff] at h
    exact .dotted hname.symm h.1 h.2 (TypeName.dot_not_mem_short c.name)
  · exact .bare hdot (TypeName.package_of_dot_not_mem hdot) (TypeName.short_of_dot_not_mem hdot)

/-- A text with a dot in it is a name exactly if what stands before the dot and behind it are names,
whichever dot it is. And a class with a name has it from its package and its short name, where the
short name is behind the last dot; without a dot the package is empty. -/
theorem name_splits :
    (∀ s t : String, TypeName.check (s ++ "." ++ t) = .ok () ↔
      TypeName.check s = .ok () ∧ TypeName.check t = .ok ()) ∧
    ∀ c : HostClass, TypeName.check c.name = .ok () → c.Splits :=
  ⟨fun _ _ => TypeName.check_append_dot_iff, fun _ => splits⟩

theorem name_splits_map : ∃ c : HostClass, TypeName.check c.name = .ok () ∧ c.Splits ∧
    c.package = "java.util" ∧ TypeName.check "java.util" = .ok () ∧ c.short = "HashMap" := by
  have hok : TypeName.check "java.util.HashMap" = .ok () := by decide +kernel
  have hparts : TypeName.check "java.util" = .ok () ∧ TypeName.check "HashMap" = .ok () :=
    (name_splits.1 "java.util" "HashMap").1 hok
  refine ⟨{ name := "java.util.HashMap" }, hok, name_splits.2 _ hok, ?_, hparts.1, ?_⟩
  · decide +kernel
  · decide +kernel

end HostClass

end ScriptSandbox
