import ScriptSandbox.Proofs.Machine.Boxing
import ScriptSandbox.Proofs.World.Errors
import ScriptSandbox.Proofs.World.WellFormed

/-! # Boxes in a world

Whatever becomes of the globals and the prototypes of boxes, the constructors of a realm go on making
boxes of what they convert to. Their calls box it as well for a receiver that a script has made with
their prototype. Nothing comes of either if a text is asked of an object that is its own length.
-/

namespace ScriptSandbox

namespace World

open Machine

variable {w : World} {place : Nat} {before : List Event}

/-- What comes of a function that runs as a constructor of boxes, by the primitive that the
arguments convert to. A call gives the primitive, or a box of it if the receiver is a plain object
with the prototype of the boxes; a construction gives a box of it, or a plain object if the
prototype of the function is another one. -/
structure ConvertsOrBoxes (m : Machine) (b : Boxing) (ctor : Ref) (args : List Value)
    (v : Value) : Prop where
  call_eq : ∀ this, Exec.Boxes.isFresh m.heap this (b.target m.realm.intrinsics) = false →
    Exec.call (.object ctor) this args m = .ok v m
  call_fresh : ∀ this, Exec.Boxes.isFresh m.heap this (b.target m.realm.intrinsics) = true →
    ∃ r m', Exec.call (.object ctor) this args m = .ok (.object r) m' ∧ m.Boxes b v r m'
  construct_eq : m.heap.constructionTarget m.realm.intrinsics ctor = b.target m.realm.intrinsics →
    ∃ r m', Exec.construct (.object ctor) args m = .ok (.object r) m' ∧ m.Boxes b v r m'
  construct_ne : m.heap.constructionTarget m.realm.intrinsics ctor ≠ b.target m.realm.intrinsics →
    Exec.construct (.object ctor) args m = .ok (.object ⟨m.heap.size⟩) (m.withHeap (m.heap.alloc
      { prototype := some (m.heap.constructionTarget m.realm.intrinsics ctor) }).2)

theorem convertsOrBoxes_of_runs {m : Machine} {b : Boxing} {ctor : Ref} {args : List Value}
    {v : Value} (hc : m.heap.Runs (.object ctor) b.builtin)
    (hv : Boxing.Converts m.heap b args v) : ConvertsOrBoxes m b ctor args v where
  call_eq _ hthis := Exec.call_of_not_isFresh hc hv hthis
  call_fresh _ hthis := Exec.call_of_isFresh hc hv hthis
  construct_eq ht := Exec.construct_of_target hc hv ht
  construct_ne ht := Exec.construct_of_target_ne hc hv ht

/-- A realm that is made has a constructor for each kind of boxes, global unless a package root has
its name. From then on, at any moment of any operation of the realm and whatever scripts have done,
arguments convert to a primitive, unless a text is asked of an object that is its own length. A
construction with the constructor gives a new box of that primitive. A call gives the primitive
itself, but for a plain object that inherits from the prototype of the boxes at once. -/
theorem boxes_after (hp : place < (after before).policies.size) (settings : Settings)
    (classes : List HostClass) {made : List Event}
    (hmade : made = before ++ [.addRealm settings classes place]) :
    ∃ own, ∃ ctor : Boxing → Ref, (after made).HasIntrinsics (after before).realms.size own ∧
      (∀ b, (after made).heap.Constructs b.name b.builtin (b.target own) (ctor b) ∧
        (b.name ∉ settings.packageRoots →
          (after made).heap.own? own.global (.ofString b.name) =
            some (.hidden (.object (ctor b))))) ∧
      ∀ later m place' long m₁, (after (made ++ later)).machine? (after before).realms.size =
          some (m, place') → Path long m.heap.size m m₁ → ∀ (b : Boxing) (args : List Value),
        m₁.heap.Runs (.object (ctor b)) b.builtin ∧
        ((∃ v, Boxing.Converts m₁.heap b args v) ∨
          b = .string ∧ ∃ r rest, args = .object r :: rest ∧ m₁.heap.MeasuresItself r) ∧
        ∀ v, Boxing.Converts m₁.heap b args v →
          (∃ r m₂, Exec.construct (.object (ctor b)) args m₁ = .ok (.object r) m₂ ∧
            m₁.Boxes b v r m₂) ∧
          ∀ c, m₁.heap.Runs (.object c) b.builtin → ConvertsOrBoxes m₁ b c args v := by
  have hafter : after made = (after before).apply (.addRealm settings classes place) := by
    rw [hmade, after_concat]
  obtain ⟨m₀, base, rfl, hnew, -, hown, hheap⟩ := exists_install_addRealm hp settings classes hafter
  have hall := Exec.exists_boxing_install rfl hnew
  rw [← hheap] at hall
  choose ctor hctor using hall
  refine ⟨m₀.realm.intrinsics, ctor, hown, hctor, ?_⟩
  intro later m place' long m₁ hm hpath b args
  have hc := (hctor b).1
  obtain ⟨hfunction, hprototype⟩ :=
    hc.of_evolves (evolves_of_path (Heap.lt_size_of_own? hc.prototype) hm hpath)
  have hruns : m₁.heap.Runs (.object (ctor b)) b.builtin := ⟨ctor b, _, rfl, hfunction, rfl⟩
  have htarget : m₁.heap.constructionTarget m₁.realm.intrinsics (ctor b) =
      b.target m₁.realm.intrinsics := by
    rw [Heap.constructionTarget, Heap.get_of_own? hprototype, hown.eq_of_path hm hpath]
  refine ⟨hruns, or_iff_not_imp_right.2 Boxing.exists_converts_iff.2, fun v hv => ?_⟩
  exact ⟨Exec.construct_of_target hruns hv htarget, fun c hc => convertsOrBoxes_of_runs hc hv⟩

section Sample

/-- The constructor of boxed texts and the prototype of its boxes in the first realm of a world. -/
def stringConstructor : Ref := ⟨35⟩

def stringPrototype : Ref := ⟨4⟩

/-- A plain object that inherits from the prototype of boxed texts. -/
def disguising : List Event := founding ++ [.perform 0 (.createWithPrototype (some stringPrototype))]

theorem boxes_after_founding : ∃ m place r m₁, (after founding).machine? 0 = some (m, place) ∧
    Exec.call (.object stringConstructor) .undefined [.string "x"] m = .ok (.string "x") m ∧
    Exec.construct (.object stringConstructor) [.string "x"] m = .ok (.object r) m₁ ∧
    (m₁.heap.kind r).primitive? = some (.string "x") := by
  have hplace : 0 < (after [.addPolicy {}]).policies.size := by decide
  obtain ⟨own, ctor, hown, hctor, hlater⟩ := boxes_after hplace {} [] (rfl : founding = _)
  have hstring : ctor .string = stringConstructor := by
    have hglobal := (hown.map_eq fun own =>
      (after founding).heap.own? own.global (.ofString "String")).symm.trans
        (by decide +kernel : _ = some (some (.hidden (.object stringConstructor))))
    have hname := (hctor .string).2 (by decide +kernel)
    rw [Boxing.name] at hname
    rw [hname] at hglobal
    simpa [Property.hidden] using hglobal
  obtain ⟨⟨m, place⟩, hm⟩ : ∃ e, (after founding).machine? 0 = some e :=
    Option.isSome_iff_exists.1 (by decide +kernel)
  obtain ⟨hruns, -, hconverts⟩ := hlater [] m place ∅ m hm .refl .string [.string "x"]
  obtain ⟨⟨r, m₁, hok, hbox⟩, hcalls⟩ := hconverts _ (.text rfl)
  rw [hstring] at hok hruns
  exact ⟨m, place, r, m₁, hm, (hcalls _ hruns).call_eq .undefined rfl, hok, hbox.primitive⟩

theorem call_boxes_of_disguising : ¬∀ history i m place (b : Boxing) callee this args,
    Supports {} history → (after history).machine? i = some (m, place) →
    m.heap.Runs callee b.builtin →
    ∃ v m', Exec.call callee this args m = .ok v m' ∧ v.isObject = false := by
  intro hnever
  obtain ⟨⟨m, place⟩, hm⟩ : ∃ e, (after disguising).machine? 0 = some e :=
    Option.isSome_iff_exists.1 (by decide +kernel)
  have hfacts : ((after disguising).machine? 0).all fun e =>
      e.1.heap.kind stringConstructor = .function ⟨"String", .builtin .string, 1⟩ ∧
      Exec.Boxes.isFresh e.1.heap (.object ⟨61⟩) (Boxing.string.target e.1.realm.intrinsics) =
        true := by decide +kernel
  rw [hm, Option.all_some, decide_eq_true_eq] at hfacts
  obtain ⟨hfunction, hfresh⟩ := hfacts
  have hruns : m.heap.Runs (.object stringConstructor) Boxing.string.builtin :=
    ⟨_, _, rfl, hfunction, rfl⟩
  obtain ⟨v, m', hok, hv⟩ := hnever disguising 0 m place .string _ (.object ⟨61⟩) [.string "x"]
    (by decide +kernel) hm hruns
  have hx : Boxing.Converts m.heap .string [.string "x"] (.string "x") := .text rfl
  obtain ⟨r, m₁, hbox, -⟩ := Exec.call_of_isFresh hruns hx hfresh
  rw [hbox] at hok
  cases hok
  cases hv

end Sample

end World

end ScriptSandbox
