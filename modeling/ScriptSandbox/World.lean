import ScriptSandbox.Realm.Genesis
import ScriptSandbox.Realm.Invocation

/-! # Worlds

Realms of one embedding share the heap, and may share a policy: a change of it is seen by every
realm that it governs.
-/

namespace ScriptSandbox

structure World where
  heap : Heap := {}
  policies : Array Policy := #[]
  /-- The realms, each with the place of its policy. -/
  realms : Array (Realm × Nat) := #[]

namespace World

/-- Runs an operation in a realm. In a world without such a realm nothing happens. -/
def run {α : Type} (w : World) (i : Nat) (x : Exec α) : Option (Except Failure α × World) := do
  let (realm, place) ← w.realms[i]?
  let policy ← w.policies[place]?
  let (result, m) := match x { heap := w.heap, realm, policy } with
    | .ok a m => (Except.ok a, m)
    | .error f m => (Except.error f, m)
  return (result, {
    heap := m.heap
    policies := w.policies.setIfInBounds place m.policy
    realms := w.realms.setIfInBounds i (m.realm, place) })

def addPolicy (w : World) (p : Policy) : Nat × World :=
  (w.policies.size, { w with policies := w.policies.push p })

/-- Adds a realm under a policy that is there, and answers its place. -/
def addRealm (w : World) (settings : Settings) (catalog : Catalog) (place : Nat) : Nat × World :=
  let (intrinsics, h) := Intrinsics.allocate w.heap
  let i := w.realms.size
  let realm : Realm := { intrinsics, settings, gate := { catalog } }
  let w := { w with heap := h, realms := w.realms.push (realm, place) }
  match w.run i Exec.install with
  | some (_, w) => (i, w)
  | none => (i, w)

/-- The place of the policy of a realm. -/
def policyPlace? (w : World) (i : Nat) : Option Nat := (w.realms[i]?).map Prod.snd

end World

end ScriptSandbox
