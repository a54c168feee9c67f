import ScriptSandbox.Operation
import ScriptSandbox.World

/-! # Histories

A history is what happens to a world, one event after the other: operations of its realms, changes
of its policies, and new policies and realms. A failed operation keeps what it did before it failed.
-/

namespace ScriptSandbox

inductive Event where
  /-- An operation in the realm at a place. -/
  | perform (i : Nat) (op : Operation)
  | updatePolicy (place : Nat) (f : Policy → Policy)
  | addPolicy (p : Policy)
  /-- A new realm over some host classes, under the policy at a place. -/
  | addRealm (settings : Settings) (classes : List HostClass) (place : Nat)

namespace World

def perform (w : World) (i : Nat) (op : Operation) : World :=
  match w.run i op.exec with
  | some (_, w) => w
  | none => w

def apply (w : World) : Event → World
  | .perform i op => w.perform i op
  | .updatePolicy place f => { w with policies := w.policies.modify place f }
  | .addPolicy p => (w.addPolicy p).2
  | .addRealm settings classes place => (w.addRealm settings (.ofList classes) place).2

/-- The world after a history that starts with nothing. -/
def after (history : List Event) : World := history.foldl apply {}

@[simp] theorem after_nil : after [] = {} := rfl

@[simp] theorem after_concat (history : List Event) (e : Event) :
    after (history ++ [e]) = (after history).apply e := by
  simp [after]

end World

end ScriptSandbox
