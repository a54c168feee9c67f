/-! # Permission to use host types

A policy decides by name whether a host type may be used. Rules name one type, everything below a
package, or everything; the most specific matching rule decides, and of equally specific rules a
denial. Some host facilities are sensitive: they stay closed while their protection is on, and
without it only a rule that names one exactly opens it.
-/

namespace ScriptSandbox

inductive Access where
  | allow
  | deny
deriving DecidableEq

/-- A rule for the names that match a pattern: `*`, a package followed by `.*`, or one name. -/
structure Rule where
  pattern : String
  access : Access
deriving DecidableEq

/-- How closely a pattern fits a name: as something below a package of the given length, where
everything counts as the empty package, or exactly. -/
inductive Rank where
  | below (length : Nat)
  | exact
deriving DecidableEq

namespace Rank

def lt : Rank → Rank → Bool
  | below m, below n => m < n
  | below _, exact => true
  | exact, _ => false

end Rank

namespace Rule

/-- The package of a pattern that ends in `.*`. -/
def package? (pattern : String) : Option (List Char) :=
  match pattern.toList.reverse with
  | '*' :: '.' :: rest => some rest.reverse
  | _ => none

/-- How closely the rule fits a name, if it does. A package fits names strictly below it. -/
def rank? (r : Rule) (name : String) : Option Rank :=
  if r.pattern = "*" then some (.below 0)
  else
    match package? r.pattern with
    | some package =>
      if (package ++ ['.']).isPrefixOf name.toList then some (.below package.length) else none
    | none => if r.pattern = name then some .exact else none

end Rule

/-- Names of single types that are sensitive. -/
def sensitiveTypes : List String := ["sun.misc.Unsafe", "jdk.internal.misc.Unsafe"]

/-- Packages that are sensitive with everything in them. -/
def sensitivePackages : List String := ["jdk.internal", "sun.reflect", "jdk.nashorn.internal"]

def isSensitive (name : String) : Bool :=
  name ∈ sensitiveTypes ∨
    sensitivePackages.any fun package =>
      name = package ∨ (package.toList ++ ['.']).isPrefixOf name.toList

structure Policy where
  defaultAccess : Access := .allow
  rules : List Rule := []
  sensitiveProtection : Bool := true
deriving DecidableEq

inductive Denial where
  | sensitive
  | rule (pattern : String)
  | byDefault
deriving DecidableEq

inductive Decision where
  | allowed
  | denied (reason : Denial)
deriving DecidableEq

namespace Policy

/-- The policy that allows only what a rule allows. -/
def denyAll : Policy := { defaultAccess := .deny }

/-- Whether a rule of one rank takes the place of the best rule so far. -/
def outranks (rank : Rank) (r : Rule) (bestRank : Rank) (best : Rule) : Bool :=
  bestRank.lt rank ∨ (rank = bestRank ∧ r.access = .deny ∧ best.access = .allow)

/-- The best of the rules that fit a name. -/
def best? (rules : List Rule) (name : String) : Option (Rank × Rule) :=
  rules.foldl (fun best r =>
    match r.rank? name, best with
    | none, _ => best
    | some rank, none => some (rank, r)
    | some rank, some (bestRank, b) =>
      if outranks rank r bestRank b then some (rank, r) else best) none

/-- The answer of a rule that decides alone. -/
def ofRule (r : Rule) : Decision :=
  match r.access with
  | .allow => .allowed
  | .deny => .denied (.rule r.pattern)

def check (p : Policy) (name : String) : Decision :=
  if isSensitive name then
    if p.sensitiveProtection then .denied .sensitive
    else
      match best? p.rules name with
      | none => .denied .sensitive
      | some (_, r) =>
        if r.access = .allow ∧ r.pattern ≠ name then .denied .sensitive else ofRule r
  else
    match best? p.rules name with
    | some (_, r) => ofRule r
    | none =>
      match p.defaultAccess with
      | .allow => .allowed
      | .deny => .denied .byDefault

def allows (p : Policy) (name : String) : Bool := p.check name = .allowed

end Policy

end ScriptSandbox
