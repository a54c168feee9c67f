import ScriptSandbox.Proofs.Heap.Conversion
import ScriptSandbox.Proofs.Machine.Constructor
import ScriptSandbox.Proofs.Machine.Refusal

/-! # Calling and constructing boxes

The constructors of boxes convert their argument to a primitive. They box it for a receiver that
looks as if it had been made for them, which is all that tells a construction from a call.
-/

namespace ScriptSandbox

/-- The constructors of boxes. -/
inductive Boxing where
  | string
  | number
  | boolean
deriving DecidableEq

namespace Boxing

def name : Boxing → String
  | string => "String"
  | number => "Number"
  | boolean => "Boolean"

def builtin : Boxing → Builtin
  | string => .string
  | number => .number
  | boolean => .boolean

/-- What the boxes of a realm inherit from. -/
def target (own : Intrinsics) : Boxing → Ref
  | string => own.stringPrototype
  | number => own.numberPrototype
  | boolean => own.booleanPrototype

/-- The functions that the boxes inherit. -/
def methods : Boxing → List (String × Builtin × Nat)
  | string => [("toString", .stringValue, 0), ("valueOf", .stringValue, 0)]
  | number => [("valueOf", .numberValue, 0)]
  | boolean => [("valueOf", .booleanValue, 0)]

theorem name_injective : Function.Injective name := by
  intro a b h
  cases a <;> cases b <;> first | rfl | exact absurd h (by decide)

variable {b : Boxing} {h : Heap} {c : Cell} {v : Value} {args : List Value}

/-- The primitive that arguments are converted to. A text may be missing, numbers and booleans are
always there. -/
inductive Converts (h : Heap) : Boxing → List Value → Value → Prop
  | noText : Converts h string [] (.string "")
  | text {v : Value} {rest : List Value} {s : String} (hs : h.text? v = some s) :
      Converts h string (v :: rest) (.string s)
  | noNumber : Converts h number [] (.number .zero)
  | number (v : Value) (rest : List Value) : Converts h number (v :: rest) (.number (h.toNumber v))
  | boolean (args : List Value) :
      Converts h boolean args (.boolean (Exec.argument args 0).isTruthy)

/-- Nothing comes of the conversion only if a text is asked of an object that is its own length. -/
theorem exists_converts_iff : (∃ v, Converts h b args v) ↔
    ¬(b = string ∧ ∃ r rest, args = .object r :: rest ∧ h.MeasuresItself r) := by
  constructor
  · rintro ⟨v, hv⟩ ⟨rfl, r, rest, rfl, hr⟩
    cases hv with
    | text hs => exact absurd (Heap.text?_eq_none_iff.2 ⟨r, rfl, hr⟩) (by simp [hs])
  · intro hno
    cases b with
    | string =>
      cases args with
      | nil => exact ⟨_, .noText⟩
      | cons first rest =>
        have htext : h.text? first ≠ none := by
          rw [Ne, Heap.text?_eq_none_iff]
          rintro ⟨r, rfl, hr⟩
          exact hno ⟨rfl, r, rest, rfl, hr⟩
        exact ⟨_, .text (Heap.text?_eq_some_text htext)⟩
    | number =>
      cases args with
      | nil => exact ⟨_, .noNumber⟩
      | cons first rest => exact ⟨_, .number first rest⟩
    | boolean => exact ⟨_, .boolean args⟩

theorem Converts.isObject_eq_false (hv : Converts h b args v) : v.isObject = false := by
  cases hv <;> rfl

theorem Converts.alloc (hv : Converts h b args v) (hc : c.kind = .ordinary) :
    Converts (h.alloc c).2 b args v := by
  cases hv with
  | noText => exact .noText
  | text hs => exact .text ((Heap.text?_alloc hc _).trans hs)
  | noNumber => exact .noNumber
  | number first rest => exact Heap.toNumber_alloc hc first ▸ .number first rest
  | boolean args => exact .boolean args

end Boxing

/-- The object is a new box of a primitive, and nothing else is different. -/
structure Machine.Boxes (m : Machine) (b : Boxing) (v : Value) (r : Ref) (m' : Machine) :
    Prop where
  size_le : m.heap.size ≤ r.id
  primitive : (m'.heap.kind r).primitive? = some v
  prototype : m'.heap.prototype r = some (b.target m.realm.intrinsics)
  heap : m.heap.Extends m'.heap
  realm : m'.realm = m.realm
  policy : m'.policy = m.policy

/-- What a construction lets a new object inherit from. -/
def Heap.constructionTarget (h : Heap) (own : Intrinsics) (ctor : Ref) : Ref :=
  match h.get ctor (.name "prototype") with
  | .object r => r
  | _ => own.objectPrototype

namespace Exec

variable {m : Machine} {b : Boxing} {callee this v : Value} {ctor : Ref} {args : List Value}

/-! ### Calls -/

theorem boxes_alloc {c : Cell} (hk : c.kind.primitive? = some v)
    (hp : c.prototype = some (b.target m.realm.intrinsics)) :
    m.Boxes b v ⟨m.heap.size⟩ (m.withHeap (m.heap.alloc c).2) := by
  have hcell : (m.withHeap (m.heap.alloc c).2).heap.cell ⟨m.heap.size⟩ = c :=
    m.heap.cell_alloc_self c
  exact ⟨Nat.le_refl _, by rw [Heap.kind, hcell, hk], by rw [Heap.prototype, hcell, hp],
    .alloc m.heap c, rfl, rfl⟩

theorem boxes_box {h : Heap} (hv : Boxing.Converts h b args v) (m : Machine) :
    ∃ r m', box v m = .ok r m' ∧ m.Boxes b v r m' := by
  cases hv <;> exact ⟨_, _, rfl, boxes_alloc rfl rfl⟩

theorem call_boxing (hc : m.heap.Runs callee b.builtin) (hv : Boxing.Converts m.heap b args v)
    (this : Value) :
    call callee this args m = Boxes.finish this (b.target m.realm.intrinsics) v m := by
  rw [call_apply_of_runs hc]
  cases hv with
  | text hs =>
    rw [← Heap.text_of_text? hs]
    rfl
  | _ => rfl

/-- For other receivers the constructors of boxes only convert. -/
theorem call_of_not_isFresh (hc : m.heap.Runs callee b.builtin)
    (hv : Boxing.Converts m.heap b args v)
    (hthis : Boxes.isFresh m.heap this (b.target m.realm.intrinsics) = false) :
    call callee this args m = .ok v m := by
  rw [call_boxing hc hv, Boxes.finish, bind_of_ok (look_apply _ m), hthis]
  rfl

theorem call_of_isFresh (hc : m.heap.Runs callee b.builtin) (hv : Boxing.Converts m.heap b args v)
    (hthis : Boxes.isFresh m.heap this (b.target m.realm.intrinsics) = true) :
    ∃ r m', call callee this args m = .ok (.object r) m' ∧ m.Boxes b v r m' := by
  obtain ⟨r, m', hbox, hnew⟩ := boxes_box hv m
  refine ⟨r, m', ?_, hnew⟩
  rw [call_boxing hc hv, Boxes.finish, bind_of_ok (look_apply _ m), hthis, if_pos rfl,
    bind_of_ok hbox]
  rfl

/-! ### Constructions -/

theorem exists_function_of_runs {builtin : Builtin} (hc : m.heap.Runs (.object ctor) builtin) :
    ∃ f, m.heap.kind ctor = .function f := by
  obtain ⟨_, f, ⟨⟩, hf, -⟩ := hc
  exact ⟨f, hf⟩

/-- A construction calls the function for a new object. -/
theorem construct_of_function {f : Callable} (hf : m.heap.kind ctor = .function f)
    (args : List Value) :
    construct (.object ctor) args m = (do
      let result ← call (.object ctor) (.object ⟨m.heap.size⟩) args
      if result.isObject then return result else return .object ⟨m.heap.size⟩)
      (m.withHeap (m.heap.alloc
        { prototype := some (m.heap.constructionTarget m.realm.intrinsics ctor) }).2) := by
  unfold construct Heap.constructionTarget
  dsimp only
  rw [bind_of_ok (look_apply _ m), hf]
  dsimp only
  rw [bind_of_ok (look_apply _ m)]
  cases m.heap.get ctor (.name "prototype") <;> rfl

/-- The new object looks as if made for the prototype that it inherits from. -/
theorem isFresh_alloc (h : Heap) (target source : Ref) :
    Boxes.isFresh (h.alloc { prototype := some source }).2 (.object ⟨h.size⟩) target =
      decide (source = target) := by
  have hcell : (h.alloc { prototype := some source }).2.cell ⟨h.size⟩ =
      { prototype := some source } := h.cell_alloc_self _
  rw [Boxes.isFresh, Value.object?, Option.any_some, Heap.kind, Heap.prototype, hcell]
  simp

/-- A construction boxes the primitive that a call converts to, if the constructor makes objects for
the prototype of boxes. -/
theorem construct_of_target (hc : m.heap.Runs (.object ctor) b.builtin)
    (hv : Boxing.Converts m.heap b args v)
    (ht : m.heap.constructionTarget m.realm.intrinsics ctor = b.target m.realm.intrinsics) :
    ∃ r m', construct (.object ctor) args m = .ok (.object r) m' ∧ m.Boxes b v r m' := by
  have hfresh := isFresh_alloc m.heap (b.target m.realm.intrinsics) (b.target m.realm.intrinsics)
  rw [decide_eq_true rfl] at hfresh
  obtain ⟨f, hf⟩ := exists_function_of_runs hc
  rw [construct_of_function hf, ht]
  generalize hcell : ({ prototype := some (b.target m.realm.intrinsics) } : Cell) = c at hfresh ⊢
  have hplain : c.kind = .ordinary := hcell ▸ rfl
  -- The call is made on the machine that already has the plain object.
  generalize hm₁ : m.withHeap (m.heap.alloc c).2 = m₁
  have hheap : m₁.heap = (m.heap.alloc c).2 := hm₁ ▸ rfl
  have hrealm : m₁.realm = m.realm := hm₁ ▸ rfl
  have hpolicy : m₁.policy = m.policy := hm₁ ▸ rfl
  rw [← hheap, ← hrealm] at hfresh
  obtain ⟨r, m', hcall, hnew⟩ :=
    call_of_isFresh (hheap ▸ hc.alloc hplain) (hheap ▸ hv.alloc hplain) hfresh
  refine ⟨r, m', ?_, ?_⟩
  · rw [bind_of_ok hcall]
    rfl
  · have he : m.heap.Extends m₁.heap := hheap ▸ .alloc m.heap c
    exact ⟨he.size_le.trans hnew.size_le, hnew.primitive, hrealm ▸ hnew.prototype,
      he.trans hnew.heap, hnew.realm.trans hrealm, hnew.policy.trans hpolicy⟩

/-- For another prototype there is no box, but the plain object. -/
theorem construct_of_target_ne (hc : m.heap.Runs (.object ctor) b.builtin)
    (hv : Boxing.Converts m.heap b args v)
    (ht : m.heap.constructionTarget m.realm.intrinsics ctor ≠ b.target m.realm.intrinsics) :
    construct (.object ctor) args m = .ok (.object ⟨m.heap.size⟩) (m.withHeap (m.heap.alloc
      { prototype := some (m.heap.constructionTarget m.realm.intrinsics ctor) }).2) := by
  obtain ⟨f, hf⟩ := exists_function_of_runs hc
  rw [construct_of_function hf]
  generalize m.heap.constructionTarget m.realm.intrinsics ctor = source at ht ⊢
  generalize hm₁ : m.withHeap (m.heap.alloc { prototype := some source }).2 = m₁
  have hheap : m₁.heap = (m.heap.alloc { prototype := some source }).2 := hm₁ ▸ rfl
  have hrealm : m₁.realm = m.realm := hm₁ ▸ rfl
  have hstale : Boxes.isFresh m₁.heap (.object ⟨m.heap.size⟩)
      (b.target m₁.realm.intrinsics) = false := by
    rw [hheap, hrealm, isFresh_alloc, decide_eq_false ht]
  rw [bind_of_ok (call_of_not_isFresh (hheap ▸ hc.alloc rfl) (hheap ▸ hv.alloc rfl) hstale),
    hv.isObject_eq_false]
  rfl

/-! ### The constructors of a realm -/

open Machine

section Install

variable {realm : Realm} {base : Nat} {r : Ref} {k : Key} {boxings : List Boxing}

/-- Furnishes the prototype of the boxes and makes their constructor. -/
def installBox (own : Intrinsics) (b : Boxing) : Exec Unit := do
  registerAll (b.target own) b.methods
  discard (installConstructor b.name b.builtin (b.target own))

def installEach (own : Intrinsics) : List Boxing → Exec Unit
  | [] => return
  | b :: rest => do
    installBox own b
    installEach own rest

theorem installBoxes_eq :
    installBoxes = intrinsics >>= (installEach · [.string, .number, .boolean]) := by
  simp only [installEach, installBox, bind_assoc, bind_pure_unit]
  rfl

theorem isOwn_target (b : Boxing) (own : Intrinsics) (base : Nat) :
    IsOwn own base (b.target own) := by
  intro h ho
  cases b with
  | string => exact ho.stringPrototype
  | number => exact ho.numberPrototype
  | boolean => exact ho.booleanPrototype

/-- The keys that prototypes of boxes and errors are furnished under. -/
def furnishedKeys : List Key :=
  [.ofString "toString", .ofString "valueOf", .name "constructor", .name "name", .name "message"]

theorem spares_installBox (b : Boxing) (hk : ∀ j ∈ furnishedKeys, j ≠ k)
    (hg : realm.intrinsics.global ≠ r ∨ Key.ofString b.name ≠ k) :
    (installBox realm.intrinsics b).Spares realm r k := by
  have hmethods : ∀ e ∈ b.methods, Key.ofString e.1 ≠ k := by
    intro e he
    have hname : e.1 = "toString" ∨ e.1 = "valueOf" := by
      cases b <;> simp only [Boxing.methods, List.mem_cons, List.not_mem_nil, or_false] at he <;>
        rcases he with rfl | rfl <;> simp
    rcases hname with h | h
    · rw [h]
      exact hk _ (by simp [furnishedKeys])
    · rw [h]
      exact hk _ (by simp [furnishedKeys])
  refine (spares_registerAll _ (Or.inr hmethods)).bind fun _ => Spares.discard ?_
  exact spares_installConstructor _ _ (Or.inr (hk _ (by simp [furnishedKeys]))) hg

theorem spares_installEach (hk : ∀ j ∈ furnishedKeys, j ≠ k)
    (hg : ∀ b ∈ boxings, realm.intrinsics.global ≠ r ∨ Key.ofString b.name ≠ k) :
    (installEach realm.intrinsics boxings).Spares realm r k := by
  induction boxings with
  | nil => exact .pure ()
  | cons b rest ih =>
    refine (spares_installBox b hk (hg b List.mem_cons_self)).bind fun _ => ?_
    exact ih fun b' hb => hg b' (List.mem_cons_of_mem _ hb)

theorem installs_installBox (own : Intrinsics) (base : Nat) (b : Boxing) :
    Installs own base (installBox own b) :=
  (installs_registerAll (isOwn_target b own base) _).bind fun _ =>
    (installs_installConstructor (isOwn_target b own base) _ _).discard

/-- The boxing has its constructor, which is global. -/
def HasBoxing (own : Intrinsics) (h : Heap) (b : Boxing) (ctor : Ref) : Prop :=
  ctor ≠ own.global ∧ h.Constructs b.name b.builtin (b.target own) ctor ∧
    h.own? own.global (.ofString b.name) = some (.hidden (.object ctor))

theorem Spares.hasBoxing {x : Exec Unit} {b : Boxing} {ctor : Ref} {m : Machine}
    (hm : m.realm = realm) (hc : HasBoxing realm.intrinsics m.heap b ctor)
    (hp : x.Spares realm ctor (.name "prototype"))
    (hg : x.Spares realm realm.intrinsics.global (.ofString b.name)) :
    HasBoxing realm.intrinsics (x.final m).heap b ctor := by
  obtain ⟨hne, hconstructs, hglobal⟩ := hc
  obtain ⟨-, -, -, hown⟩ := hg m hm (Heap.lt_size_of_own? hglobal)
  exact ⟨hne, (hp m).constructs hm hconstructs, hown.trans hglobal⟩

theorem hasBoxing_installBox {m : Machine} (ho : m.realm.intrinsics.AreNew base m.heap)
    (b : Boxing) : ∃ ctor, HasBoxing m.realm.intrinsics
      ((installBox m.realm.intrinsics b).final m).heap b ctor := by
  generalize hown : m.realm.intrinsics = own at ho ⊢
  obtain ⟨_, m₁, h₁, hf₁, -⟩ := installs_registerAll (isOwn_target b own base) b.methods m hown ho
  have ho₁ := hf₁.areNew ho
  have hown₁ : m₁.realm.intrinsics = own := (congrArg Realm.intrinsics hf₁.realm).trans hown
  obtain ⟨hconstructs, hglobal⟩ := constructs_installConstructor (hown₁ ▸ ho₁.global.lt)
    (isOwn_target b own base ho₁).lt b.name b.builtin rfl
  rw [hown₁] at hglobal
  refine ⟨⟨m₁.heap.size⟩, ?_, ?_, ?_⟩
  · intro h
    exact absurd (h ▸ ho₁.global.lt) (Nat.lt_irrefl _)
  · rw [installBox, final_bind_of_ok h₁, final_discard]
    exact hconstructs
  · rw [installBox, final_bind_of_ok h₁, final_discard]
    exact hglobal

/-- The constructors of boxes are found under other keys than those. -/
theorem ne_name_of_mem_furnishedKeys (b : Boxing) : ∀ j ∈ furnishedKeys, j ≠ .ofString b.name := by
  have hkeys : furnishedKeys =
      ["toString", "valueOf", "constructor", "name", "message"].map Key.ofString := by
    decide +kernel
  rw [hkeys]
  intro j hj he
  obtain ⟨s, hs, rfl⟩ := List.mem_map.1 hj
  rw [Key.ofString_injective he] at hs
  cases b <;> exact absurd hs (by decide)

theorem exists_hasBoxing_installEach (hn : boxings.Nodup) {m : Machine} (hm : m.realm = realm)
    (ho : realm.intrinsics.AreNew base m.heap) : ∀ b ∈ boxings, ∃ ctor,
      HasBoxing realm.intrinsics ((installEach realm.intrinsics boxings).final m).heap b ctor := by
  induction boxings generalizing m with
  | nil => nofun
  | cons first rest ih =>
    obtain ⟨hfirst, hrest⟩ := List.nodup_cons.1 hn
    subst hm
    obtain ⟨_, m', h, hf, -⟩ := installs_installBox m.realm.intrinsics base first m rfl ho
    rw [installEach, final_bind_of_ok h]
    intro b hb
    rcases List.mem_cons.1 hb with rfl | hb
    · obtain ⟨ctor, hc⟩ := hasBoxing_installBox ho b
      rw [final_of_ok h] at hc
      refine ⟨ctor, Spares.hasBoxing hf.realm hc ?_ ?_⟩
      · refine spares_installEach ?_ fun b' _ => Or.inl hc.1.symm
        decide +kernel
      · refine spares_installEach (ne_name_of_mem_furnishedKeys b) fun b' hb' => Or.inr fun he => ?_
        rw [Boxing.name_injective (Key.ofString_injective he)] at hb'
        exact hfirst hb'
    · exact ih hrest hf.realm (hf.areNew ho) b hb

theorem spares_installErrors (hk : ∀ j ∈ furnishedKeys, j ≠ k)
    (hg : ∀ kind : ErrorKind, realm.intrinsics.global ≠ r ∨ Key.ofString kind.name ≠ k) :
    installErrors.Spares realm r k := by
  refine Spares.bind ?_ fun _ => .bind_intrinsics (spares_registerAll _ (Or.inr ?_))
  · refine spares_installErrorKinds _ (fun _ _ => Or.inr fun j hj => hk j ?_) fun kind _ => hg kind
    simp only [List.mem_cons, List.not_mem_nil, or_false] at hj
    rcases hj with rfl | rfl | rfl <;> simp [furnishedKeys]
  · intro e he
    rw [List.mem_singleton.1 he]
    exact hk _ (by simp [furnishedKeys])

/-- A furnished realm has the constructor of each kind of boxes; it is global, unless a package root
has its name. -/
theorem exists_boxing_install {m : Machine} (hm : m.realm = realm)
    (ho : realm.intrinsics.AreNew base m.heap) (b : Boxing) : ∃ ctor,
      (install.final m).heap.Constructs b.name b.builtin (b.target realm.intrinsics) ctor ∧
        (b.name ∉ realm.settings.packageRoots →
          (install.final m).heap.own? realm.intrinsics.global (.ofString b.name) =
            some (.hidden (.object ctor))) := by
  obtain ⟨m₁, hf₁, hfinal⟩ := exists_final_install (congrArg Realm.intrinsics hm) ho
  have hr₁ := hf₁.realm.trans hm
  have ho₁ := hf₁.areNew ho
  have hmem : b ∈ [Boxing.string, .number, .boolean] := by cases b <;> decide
  obtain ⟨ctor, hc⟩ := exists_hasBoxing_installEach (by decide) hr₁ ho₁ b hmem
  have hboxes : (installEach realm.intrinsics [.string, .number, .boolean]).final m₁ =
      installBoxes.final m₁ := by
    rw [installBoxes_eq, final_bind_of_ok (intrinsics_apply m₁), hr₁]
  rw [hboxes] at hc
  have hf₂ := installs_installBoxes.furnishes_final (congrArg _ hr₁) ho₁
  generalize installBoxes.final m₁ = m₂ at hc hf₂ hfinal
  have hr₂ := hf₂.realm.trans hr₁
  have hr₃ := (installs_installErrors.furnishes_final (congrArg _ hr₂) (hf₂.areNew ho₁)).realm.trans
    hr₂
  have herrors := Spares.hasBoxing hr₂ hc
    (spares_installErrors (by decide +kernel) fun _ => Or.inl hc.1.symm)
    (spares_installErrors (ne_name_of_mem_furnishedKeys b) fun kind => Or.inr fun he => ?_)
  · generalize installErrors.final m₂ = m₃ at hr₃ herrors hfinal
    obtain ⟨hne, hconstructs, hglobal⟩ := herrors
    rw [hfinal]
    refine ⟨ctor, ?_, fun hroot => ?_⟩
    · exact (spares_installInterop (Or.inl hne.symm) m₃).constructs hr₃ hconstructs
    · have hspares : installInterop.Spares realm realm.intrinsics.global (.ofString b.name) := by
        refine spares_installInterop (Or.inr fun name hn he => ?_)
        rw [Key.ofString_injective he] at hn
        rcases List.mem_append.1 hn with hn | hn
        · cases b <;> exact absurd hn (by decide)
        · exact hroot hn
      obtain ⟨-, -, -, hkept⟩ := hspares m₃ hr₃ (Heap.lt_size_of_own? hglobal)
      exact hkept.trans hglobal
  · exact absurd (Key.ofString_injective he) (by cases b <;> cases kind <;> decide)

end Install

end Exec

end ScriptSandbox
