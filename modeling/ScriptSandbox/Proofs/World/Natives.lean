import ScriptSandbox.Proofs.Machine.Native
import ScriptSandbox.Proofs.World.Registrations

/-! # Natives in a world

What a native does to a world its requests do as incidents, one after the other. So natives reach no
world that is not reached without them, and what holds after every history holds after all that
natives do by operations.
-/

namespace ScriptSandbox

/-- What an embedding with natives of its own does to a world. -/
inductive Deed where
  | incident (o : Incident)
  /-- A native runs in the realm at a place. -/
  | native (i : Nat) (n : Native)

/-- No method is put on an object that is there. -/
def Deed.Operates : Deed → Prop
  | .incident o => ∃ e, o = .event e
  | .native _ n => n.Operates

def Request.incident (i : Nat) : Request → Incident
  | operation op => .event (.perform i op)
  | register r f => .register i r f

/-- The requests that a native comes to make of a machine. -/
def Native.requests : Native → Machine → List Request
  | done _, _ => []
  | look next, m => (next m).requests m
  | request q next, m => q :: (next (q.exec.outcome m)).requests (q.exec.final m)

theorem Native.Operates.exists_requests_eq {n : Native} (hn : n.Operates) (m : Machine) :
    ∃ ops : List Operation, n.requests m = ops.map .operation := by
  induction n generalizing m with
  | done result => exact ⟨[], rfl⟩
  | look next ih => exact ih m (hn m) m
  | request q next ih =>
    obtain ⟨⟨op, rfl⟩, hnext⟩ := hn
    obtain ⟨ops, hops⟩ := ih _ (hnext _) ((Request.operation op).exec.final m)
    refine ⟨op :: ops, ?_⟩
    rw [Native.requests, hops]
    rfl

namespace World

variable {w : World} {i place : Nat} {m : Machine} {n : Native} {deeds : List Deed}

theorem store_self (h : w.machine? i = some (m, place)) : w.store i place m = w := by
  rw [store_of_eq h rfl rfl, (machine?_eq_some_iff.1 h).1]

theorem store_store (w : World) (i place : Nat) (m m' : Machine) :
    (w.store i place m).store i place m' = w.store i place m' := by
  simp [store]

/-- A request is an incident. -/
theorem undergo_incident (h : w.machine? i = some (m, place)) (q : Request) :
    w.undergo (q.incident i) = w.store i place (q.exec.final m) := by
  cases q with
  | operation op => exact perform_of_some h op
  | register r f =>
    have hfinal : (Request.register r f).exec.final m =
        (Exec.registerMethod r f.name f.routine f.arity).final m := rfl
    rw [hfinal]
    exact register_of_some h r f

/-- A native comes to what its requests come to. -/
theorem foldl_requests (h : w.machine? i = some (m, place)) (n : Native) :
    ((n.requests m).map (Request.incident i)).foldl undergo w =
      w.store i place (n.exec.final m) := by
  induction n generalizing w m with
  | done result =>
    have hfinal : (Native.done result).exec.final m = m := by cases result <;> rfl
    rw [hfinal, store_self h]
    rfl
  | look next ih => exact ih m h
  | request q next ih =>
    have hq := undergo_incident h q
    have hstored := machine?_store h (q.exec.final m)
    rw [Native.requests, List.map_cons, List.foldl_cons, hq, ih _ hstored, store_store]
    rfl

/-! ### What embeddings reach -/

def does (w : World) : Deed → World
  | .incident o => w.undergo o
  | .native i n =>
    match w.run i n.exec with
    | some (_, w) => w
    | none => w

/-- What a deed comes down to in a world. -/
def incidentsOf (w : World) : Deed → List Incident
  | .incident o => [o]
  | .native i n => (w.machine? i).elim [] fun e => (n.requests e.1).map (Request.incident i)

theorem does_eq (w : World) (d : Deed) : w.does d = (w.incidentsOf d).foldl undergo w := by
  cases d with
  | incident o => rfl
  | native i n =>
    cases hm : w.machine? i with
    | none => rw [does, run_of_none hm, incidentsOf, hm]; rfl
    | some e =>
      obtain ⟨m, place⟩ := e
      obtain ⟨result, hr⟩ := run_of_some hm n.exec
      rw [does, hr, incidentsOf, hm, Option.elim_some, foldl_requests hm]

/-- What deeds come down to, one after the other. -/
def incidentsOfAll : World → List Deed → List Incident
  | _, [] => []
  | w, d :: rest => w.incidentsOf d ++ (w.does d).incidentsOfAll rest

theorem foldl_does (w : World) (deeds : List Deed) :
    deeds.foldl does w = (w.incidentsOfAll deeds).foldl undergo w := by
  induction deeds generalizing w with
  | nil => rfl
  | cons d rest ih =>
    rw [List.foldl_cons, ih, incidentsOfAll, List.foldl_append, ← does_eq]

/-- Names and keys rest on the same as without natives. -/
theorem steady_of_deeds (hb : Bears {} (incidentsOfAll {} deeds)) :
    (deeds.foldl does {}).Steady := by
  rw [foldl_does]
  exact steady_course hb

/-- An event that happens by itself, or an operation of a realm that a native runs in. -/
def StemsFrom (deeds : List Deed) (e : Event) : Prop :=
  .incident (.event e) ∈ deeds ∨ ∃ i op n, e = .perform i op ∧ .native i n ∈ deeds

theorem exists_events_of_operates (w : World) {d : Deed} (hd : d.Operates) :
    ∃ events : List Event, w.incidentsOf d = events.map .event ∧ ∀ e ∈ events, StemsFrom [d] e := by
  cases d with
  | incident o =>
    obtain ⟨e, rfl⟩ := hd
    refine ⟨[e], rfl, ?_⟩
    simp [StemsFrom]
  | native i n =>
    cases hm : w.machine? i with
    | none =>
      refine ⟨[], ?_, by simp⟩
      rw [incidentsOf, hm]
      rfl
    | some found =>
      obtain ⟨m, place⟩ := found
      obtain ⟨ops, hops⟩ := hd.exists_requests_eq m
      refine ⟨ops.map (.perform i), ?_, ?_⟩
      · rw [incidentsOf, hm, Option.elim_some, hops, List.map_map, List.map_map]
        rfl
      · intro e hmem
        obtain ⟨op, -, rfl⟩ := List.mem_map.1 hmem
        exact Or.inr ⟨i, op, n, rfl, List.mem_singleton_self _⟩

theorem exists_foldl_does (w : World) (hd : ∀ d ∈ deeds, d.Operates) :
    ∃ events : List Event, deeds.foldl does w = events.foldl apply w ∧
      ∀ e ∈ events, StemsFrom deeds e := by
  induction deeds generalizing w with
  | nil => exact ⟨[], rfl, by simp⟩
  | cons d rest ih =>
    obtain ⟨first, hfirst, hstems⟩ := w.exists_events_of_operates (hd d List.mem_cons_self)
    obtain ⟨events, hrest, hstems'⟩ :=
      ih (w.does d) fun d hmem => hd d (List.mem_cons_of_mem _ hmem)
    refine ⟨first ++ events, ?_, ?_⟩
    · rw [List.foldl_cons, hrest, List.foldl_append, does_eq, hfirst, List.foldl_map]
      rfl
    · intro e hmem
      rcases List.mem_append.1 hmem with hmem | hmem
      · rcases hstems e hmem with h | ⟨i, op, n, rfl, h⟩
        · exact Or.inl (List.mem_cons.2 (Or.inl (List.mem_singleton.1 h)))
        · exact Or.inr ⟨i, op, n, rfl, List.mem_cons.2 (Or.inl (List.mem_singleton.1 h))⟩
      · rcases hstems' e hmem with h | ⟨i, op, n, rfl, h⟩
        · exact Or.inl (List.mem_cons_of_mem _ h)
        · exact Or.inr ⟨i, op, n, rfl, List.mem_cons_of_mem _ h⟩

/-- Whatever natives do by operations, the world is one that a history leaves: its events happen by
themselves, or are operations of realms that natives run in. -/
theorem exists_after_of_deeds (hd : ∀ d ∈ deeds, d.Operates) :
    ∃ history, deeds.foldl does {} = after history ∧ ∀ e ∈ history, StemsFrom deeds e :=
  exists_foldl_does {} hd

end World

end ScriptSandbox
