import ScriptSandbox.Proofs.KeyWalk.TextBox
import ScriptSandbox.Proofs.Machine.Boxing
import ScriptSandbox.Proofs.Machine.TextBox
import ScriptSandbox.Proofs.World.Enumeration

/-! # Boxed texts in a world

Whatever happens to a box of a text, its units and its length stay as they were made, and a walk over
the box or over the text itself names the units first.
-/

namespace ScriptSandbox

/-! ### Making boxes -/

namespace Exec

variable {s : String}

theorem boxString_apply (m : Machine) (s : String) : ∃ r m', boxString s m = .ok r m' ∧
    m.Boxes .string (.string s) r m' ∧ (m'.heap.cell r).kind = .string s ∧
    (m'.heap.cell r).properties = textTable s := by
  let c : Cell := {
    prototype := m.realm.intrinsics.stringPrototype
    properties := textTable s
    kind := .string s }
  have hself := m.heap.cell_alloc_self c
  exact ⟨_, _, rfl, boxes_alloc (b := .string) (c := c) rfl rfl, congrArg Cell.kind hself,
    congrArg Cell.properties hself⟩

theorem walkOver_string {m m' : Machine} {r : Ref} (h : boxString s m = .ok r m') :
    walkOver (.string s) m = .ok (.start (some r)) m' :=
  bind_of_ok h

end Exec

namespace World

variable {w : World} {history before : List Event} {r : Ref} {s : String}

theorem spelled_apply (hw : w.heap.Spelled) (e : Event) : (w.apply e).heap.Spelled := by
  rcases w.apply_cases e with ⟨i, op, m, place, -, hm, h⟩ | ⟨_, _, _, m', -, hf, h, -⟩ | ⟨h, -⟩
  · obtain ⟨hheap, -⟩ := machine?_eq_some_iff.1 hm
    rw [h]
    exact op.follows_exec Machine.isHabit_spelled m (hheap ▸ hw)
  · rw [h]
    exact hw.of_cell_eq (fun r hr => hf.old hr hr) fun r hr => hf.unboxed hr
  · rwa [h]

theorem spelled_after (history : List Event) : (after history).heap.Spelled :=
  after_induction (P := fun w => w.heap.Spelled) Heap.spelled_empty
    (fun _ e hw => spelled_apply hw e) history

/-- A box of a text spells it from then on. -/
theorem spells_after (hr : (after before).heap.kind r = .string s)
    (hn : (Text.utf16 s).length ≤ maxLength) (rest : List Event) :
    ((after (before ++ rest)).heap.cell r).Spells s := by
  have hkind := (evolves_after (Heap.ref_lt_of_kind_ne hr nofun) rest).kind
  exact (spelled_after _ r s (hkind.trans hr) hn).2

end World

/-- However the world changes meanwhile, a walk from the box names the units first. -/
theorem Session.names_of_box {history : List Event} {r : Ref} {s : String}
    (hr : (World.after history).heap.kind r = .string s) (hn : (Text.utf16 s).length ≤ maxLength)
    (actions : List Action) : KeyWalk.Names r s (after history (.start (some r)) actions).walk
      (after history (.start (some r)) actions).answers := by
  induction actions using List.reverseRecOn with
  | nil => exact .nothing
  | append_singleton actions a ih =>
    rw [after_concat]
    cases a with
    | event e => exact ih
    | next =>
      refine ih.next ?_ hn
      rw [heap, world_after]
      exact World.spells_after hr hn _

namespace World

variable {history : List Event} {s : String}

/-- A walk over a text as a value names its units, and then what boxes inherit. -/
theorem recites_walkOver (hs : Supports {} history) (hn : (Text.utf16 s).length ≤ maxLength)
    {i place : Nat} {m : Machine} (hm : (after history).machine? i = some (m, place)) :
    ∃ r m', Exec.walkOver (.string s) m = .ok (.start (some r)) m' ∧
      m.Boxes .string (.string s) r m' ∧ ∃ tail : List Key,
        ((KeyWalk.start (some r)).rest m'.heap).1 = unitNames s ++ tail.map Key.text ∧
          ∀ k ∈ tail, m'.heap.Inherits r k := by
  obtain ⟨r, m', hbox, hboxes, hkind, htable⟩ := Exec.boxString_apply m s
  have hwalk := Exec.walkOver_string hbox
  -- The walk is an operation of the realm, so the heap with the box is that of a history.
  have hfinal : (Operation.walk (.string s)).exec.final m = m' :=
    Exec.final_of_ok ((Exec.bind_of_ok hwalk).trans rfl)
  have hheap : (after (history ++ [.perform i (.walk (.string s))])).heap = m'.heap := by
    rw [after_concat, apply, perform_of_some hm]
    exact congrArg Machine.heap hfinal
  have hbelow : (Event.perform i (.walk (.string s))).Below (after history).heap.size :=
    ⟨List.forall_mem_singleton.2 trivial, List.forall_mem_nil _⟩
  have hsupports : Supports {} (history ++ [.perform i (.walk (.string s))]) := by
    rw [supports_append_iff]
    exact ⟨hs, hbelow, trivial⟩
  have hwf : m'.heap.WellFormed := hheap ▸ (wellFormed_after hsupports).heap
  have hspells := Cell.spells_of_textTable hkind htable hn
  obtain ⟨tail, hrest, htail⟩ := KeyWalk.recites hwf.acyclic hwf.grounded hspells hn
  refine ⟨r, m', hwalk, hboxes, tail, hrest, fun k hk => (htail k hk).resolve_left ?_⟩
  exact Heap.not_adds_of_ownKeys (htable ▸ ownKeys_textTable hn)

/-- A box of a text is made with exactly the units of the text, in order, and its length as its
properties. They stay as they are, and it stays a box of the text, whatever scripts do to it or to
anything else. A walk over the box names the units in order, even if the world changes between two
names. If it does not change, what follows are keys that were added to the box or that it inherits.
The same is true of a walk over the text, to whose box nothing is added. -/
theorem boxedTexts_after (hs : Supports {} history) (hn : (Text.utf16 s).length ≤ maxLength) :
    (∀ m, ∃ r m', Exec.boxString s m = .ok r m' ∧ m.Boxes .string (.string s) r m' ∧
      (m'.heap.cell r).Spells s ∧ (m'.heap.cell r).properties.ownKeys = unitKeys s) ∧
    (∀ before rest r, history = before ++ rest → (after before).heap.kind r = .string s →
      ((after before).heap.cell r).Spells s ∧ ((after history).heap.cell r).Spells s) ∧
    (∀ r, (after history).heap.kind r = .string s →
      KeyWalk.Recites (after history).heap r s ∧
      ∀ actions, (Session.after history (.start (some r)) actions).answers <+:
          (unitNames s).map some ∨
        (unitNames s).map some <+: (Session.after history (.start (some r)) actions).answers) ∧
    ∀ i m place, (after history).machine? i = some (m, place) →
      (∀ r, Exec.walkOver (.object r) m = .ok (.start (some r)) m) ∧
      ∃ r m', Exec.walkOver (.string s) m = .ok (.start (some r)) m' ∧
        m.Boxes .string (.string s) r m' ∧ ∃ tail : List Key,
          ((KeyWalk.start (some r)).rest m'.heap).1 = unitNames s ++ tail.map Key.text ∧
            ∀ k ∈ tail, m'.heap.Inherits r k := by
  refine ⟨fun m => ?_, ?_, fun r hr => ⟨?_, fun actions => ?_⟩, fun i m place hm => ⟨fun _ => rfl, ?_⟩⟩
  · obtain ⟨r, m', hbox, hboxes, hkind, htable⟩ := Exec.boxString_apply m s
    exact ⟨r, m', hbox, hboxes, Cell.spells_of_textTable hkind htable hn,
      htable ▸ ownKeys_textTable hn⟩
  · rintro before rest r rfl hr
    exact ⟨(spelled_after before r s hr hn).2, spells_after hr hn rest⟩
  · have hwf := (wellFormed_after hs).heap
    exact KeyWalk.recites hwf.acyclic hwf.grounded (spelled_after history r s hr hn).2 hn
  · exact (Session.names_of_box hr hn actions).agrees
  · exact recites_walkOver hs hn hm

section Sample

/-- A text of a character of one unit and one of two. -/
def clef : String := "a" ++ String.singleton (Char.ofNat 0x1D11E)

/-- A box that is written to and added to, and then frozen. -/
def boxing : List Event := [
  .addPolicy {}, .addRealm {} [] 0, .perform 0 (.box (.string clef)),
  .perform 0 (.set (.object firstMade) (.ofNat 0) (.string "b")),
  .perform 0 (.delete (.object firstMade) .length),
  .perform 0 (.set (.object firstMade) (.ofString "own") .null),
  .perform 0 (.raise firstMade .frozen)]

theorem boxedTexts_after_boxing : Supports {} boxing ∧ (Text.utf16 clef).length = 3 ∧
    ((after boxing).heap.cell firstMade).properties.get? (.ofNat 2) =
      some ⟨.string (String.singleton Text.replacement), false, true, false⟩ ∧
    ∃ names, ((KeyWalk.start (some firstMade)).rest (after boxing).heap).1 =
      ["0", "1", "2"] ++ names := by
  have hs : Supports {} boxing := by decide +kernel
  have hlength : (Text.utf16 clef).length = 3 := by decide +kernel
  have hn : (Text.utf16 clef).length ≤ maxLength := by
    rw [hlength]
    decide
  have hr : (after boxing).heap.kind firstMade = .string clef := by decide +kernel
  have hhalf : (Text.utf16 clef)[2]? = some 0xDD1E := by decide +kernel
  obtain ⟨-, hkept, hnamed, -⟩ := boxedTexts_after hs hn
  obtain ⟨-, hspells⟩ := hkept boxing [] firstMade (List.append_nil _).symm hr
  obtain ⟨⟨tail, hrest, -⟩, -⟩ := hnamed firstMade hr
  have hnames : unitNames clef = ["0", "1", "2"] := by decide +kernel
  refine ⟨hs, hlength, ?_, tail.map Key.text, hnames ▸ hrest⟩
  exact (hspells.unit 2 _ hhalf).trans (by decide)

end Sample

end World

end ScriptSandbox
