import ScriptSandbox.Json.Layout
import ScriptSandbox.Json.Tree
import ScriptSandbox.Permission

/-! # Settings

The settings of a realm and the policy in them, read from JSON and written to it. Fields that are
left out have their default; a field of the wrong type, or one that is given twice, is refused, and
unknown fields are passed over.
-/

namespace ScriptSandbox

namespace Access

def name : Access → String
  | allow => "allow"
  | deny => "deny"

def ofName? (s : String) : Option Access :=
  if s = "allow" then some allow else if s = "deny" then some deny else none

def toJson (a : Access) : Json := .ofString a.name

/-- An access is its name, or an object whose only member has that name and holds null. -/
def ofJson? : Json → Option Access
  | .object [(name, .null)] => (Json.stringOf? name).bind ofName?
  | j => j.string?.bind ofName?

end Access

namespace Rule

def toJson (r : Rule) : Json :=
  .object [
    (Json.pointsOf "pattern", .ofString r.pattern),
    (Json.pointsOf "access", r.access.toJson)]

/-- A rule has both its fields. -/
def ofJson? (j : Json) : Option Rule := do
  let fields ← j.record? ["pattern", "access"]
  return {
    pattern := ← Json.field? fields "pattern" Json.string?
    access := ← Json.field? fields "access" Access.ofJson? }

end Rule

namespace Policy

def toJson (p : Policy) : Json :=
  .object [
    (Json.pointsOf "default_access", p.defaultAccess.toJson),
    (Json.pointsOf "rules", .array (p.rules.map Rule.toJson)),
    (Json.pointsOf "sensitive_protection", .bool p.sensitiveProtection)]

def ofJson? (j : Json) : Option Policy := do
  let fields ← j.record? ["default_access", "rules", "sensitive_protection"]
  let standard : Policy := {}
  return {
    defaultAccess := ← Json.fieldOr fields "default_access" Access.ofJson? standard.defaultAccess
    rules := ← Json.fieldOr fields "rules" (Json.list? Rule.ofJson?) standard.rules
    sensitiveProtection :=
      ← Json.fieldOr fields "sensitive_protection" Json.bool? standard.sensitiveProtection }

def parse? (s : String) : Option Policy := (Json.parse? s).bind ofJson?

end Policy

structure Settings where
  /-- Whether rejected writes are failures. -/
  strict : Bool := false
  /-- The packages that have a global name of their own. -/
  packageRoots : List String := ["java", "javax", "javafx", "com", "edu", "net", "org"]
  policy : Policy := {}
deriving DecidableEq

namespace Settings

def toJson (s : Settings) : Json :=
  .object [
    (Json.pointsOf "strict", .bool s.strict),
    (Json.pointsOf "package_roots", .array (s.packageRoots.map Json.ofString)),
    (Json.pointsOf "policy", s.policy.toJson)]

def ofJson? (j : Json) : Option Settings := do
  let fields ← j.record? ["strict", "package_roots", "policy"]
  let standard : Settings := {}
  return {
    strict := ← Json.fieldOr fields "strict" Json.bool? standard.strict
    packageRoots :=
      ← Json.fieldOr fields "package_roots" (Json.list? Json.string?) standard.packageRoots
    policy := ← Json.fieldOr fields "policy" Policy.ofJson? standard.policy }

def parse? (s : String) : Option Settings := (Json.parse? s).bind ofJson?

/-- The settings as a JSON text, which reads back to them. -/
def text (s : Settings) : String := s.toJson.pretty

end Settings

end ScriptSandbox
