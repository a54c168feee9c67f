import ScriptSandbox.Proofs.Key
import ScriptSandbox.Proofs.Machine.Admission
import ScriptSandbox.Proofs.Machine.Sparing
import ScriptSandbox.Realm.Invocation

/-! # The constructors of errors

Furnishing a realm ties each prototype of errors and a constructor to each other, and what is
furnished afterwards spares them. Whatever becomes of them later, an object that inherits from the
prototype is an instance of the constructor.
-/

namespace ScriptSandbox

/-! ### Constructors and their prototypes -/

/-- The function runs a builtin, and has the object that what it makes inherits from. -/
structure Heap.Constructs (h : Heap) (name : String) (b : Builtin) (target ctor : Ref) : Prop where
  function : h.kind ctor = .function ⟨name, .builtin b, 1⟩
  prototype : h.own? ctor (.name "prototype") = some ⟨.object target, false, false, false⟩

section Constructs

variable {h h' : Heap} {name : String} {b : Builtin} {target ctor : Ref} {realm : Realm}
  {m m' : Machine}

/-- A constructor cannot be parted from its prototype. -/
theorem Heap.Constructs.of_evolves (hc : h.Constructs name b target ctor)
    (he : (h.cell ctor).Evolves (h'.cell ctor)) : h'.Constructs name b target ctor := by
  have hkey : Key.name "prototype" ≠ .length := by decide
  obtain ⟨q, hq, hy⟩ := he.locked hc.prototype rfl
  rw [hy.eq rfl rfl fun hk => absurd hk hkey] at hq
  exact ⟨he.kind.trans hc.function, hq⟩

theorem Machine.Spares.constructs (hp : m.Spares realm ctor (.name "prototype") m')
    (hm : m.realm = realm) (hc : m.heap.Constructs name b target ctor) :
    m'.heap.Constructs name b target ctor := by
  obtain ⟨-, -, hkind, hown⟩ := hp hm (Heap.lt_size_of_own? hc.prototype)
  exact ⟨hkind.trans hc.function, hown.trans hc.prototype⟩

theorem Exec.final_installConstructor (m : Machine) (name : String) (b : Builtin) (target : Ref) :
    (installConstructor name b target).final m = m.withHeap
      ((((m.heap.alloc ((⟨name, .builtin b, 1⟩ : Callable).cell
        m.realm.intrinsics.functionPrototype)).2.furnish
          ⟨m.heap.size⟩ (.name "prototype") ⟨.object target, false, false, false⟩).furnish
          target (.name "constructor") (.hidden (.object ⟨m.heap.size⟩))).furnish
          m.realm.intrinsics.global (.ofString name) (.hidden (.object ⟨m.heap.size⟩))) := rfl

/-- The function that is installed is a constructor for the object, and global under its name. -/
theorem Exec.constructs_installConstructor (hg : m.realm.intrinsics.global.id < m.heap.size)
    (ht : target.id < m.heap.size) (name : String) (b : Builtin)
    (h : (installConstructor name b target).final m = m') :
    m'.heap.Constructs name b target ⟨m.heap.size⟩ ∧
      m'.heap.own? m.realm.intrinsics.global (.ofString name) =
        some (.hidden (.object ⟨m.heap.size⟩)) := by
  rw [final_installConstructor] at h
  have hnew : ∀ {r : Ref}, r.id < m.heap.size → r ≠ ⟨m.heap.size⟩ := by
    rintro r hr rfl
    exact absurd hr (Nat.lt_irrefl _)
  subst h
  refine ⟨⟨?_, ?_⟩, ?_⟩
  · simp only [Machine.withHeap, Heap.kind_furnish]
    exact congrArg Cell.kind (m.heap.cell_alloc_self _)
  · rw [Machine.withHeap, Heap.own?_furnish_of_ne (Or.inl (hnew hg)),
      Heap.own?_furnish_of_ne (Or.inl (hnew ht)), Heap.own?_furnish]
    rw [Heap.size_alloc]
    exact Nat.lt_succ_self _
  · rw [Machine.withHeap, Heap.own?_furnish]
    rw [Heap.size_furnish, Heap.size_furnish, Heap.size_alloc]
    exact Nat.lt_succ_of_lt hg

end Constructs

/-! ### Constructors of errors -/

theorem ErrorKind.name_injective : Function.Injective ErrorKind.name := by
  intro a b h
  cases a <;> cases b <;> first | rfl | exact absurd h (by decide)

theorem ErrorKind.mem_all (kind : ErrorKind) : kind ∈ all := by
  cases kind <;> decide

/-- The intrinsics that constructors are put on are different objects. -/
structure Intrinsics.AreApart (own : Intrinsics) : Prop where
  injective : Function.Injective own.errorPrototype
  ne_global : ∀ kind, own.errorPrototype kind ≠ own.global

theorem Intrinsics.areApart_allocate (h : Heap) : (allocate h).1.AreApart where
  injective a b hab := by
    have hid := congrArg Ref.id hab
    cases a <;> cases b <;>
      simp only [allocate, Heap.alloc, Heap.size, Array.size_push] at hid ⊢ <;> omega
  ne_global kind hg := by
    have hid := congrArg Ref.id hg
    cases kind <;> simp only [allocate, Heap.alloc, Heap.size, Array.size_push] at hid <;> omega

/-- The function is the constructor of the errors of a kind: it and the prototype of the kind are
tied to each other. -/
structure Heap.HasConstructor (h : Heap) (own : Intrinsics) (kind : ErrorKind) (ctor : Ref) :
    Prop where
  function : h.kind ctor = .function ⟨kind.name, .builtin (.error kind), 1⟩
  prototype : h.own? ctor (.name "prototype") =
    some ⟨.object (own.errorPrototype kind), false, false, false⟩
  constructor : h.own? (own.errorPrototype kind) (.name "constructor") =
    some (.hidden (.object ctor))
  /-- What is put on the global object is not put on the constructor. -/
  ne_global : ctor ≠ own.global

theorem Heap.HasConstructor.constructs {h : Heap} {own : Intrinsics} {kind : ErrorKind} {ctor : Ref}
    (hc : h.HasConstructor own kind ctor) :
    h.Constructs kind.name (.error kind) (own.errorPrototype kind) ctor :=
  ⟨hc.function, hc.prototype⟩

/-- The constructor is global under the name of the kind. -/
def Heap.HasGlobal (h : Heap) (own : Intrinsics) (kind : ErrorKind) (ctor : Ref) : Prop :=
  h.own? own.global (.ofString kind.name) = some (.hidden (.object ctor))

namespace Machine

variable {realm : Realm} {own : Intrinsics} {base : Nat} {m m' : Machine} {kind : ErrorKind}
  {ctor : Ref}

theorem Spares.hasConstructor (hm : m.realm = realm)
    (hc : m.heap.HasConstructor own kind ctor)
    (hp : m.Spares realm ctor (.name "prototype") m')
    (hb : m.Spares realm (own.errorPrototype kind) (.name "constructor") m') :
    m'.heap.HasConstructor own kind ctor := by
  obtain ⟨hfunction, hprototype⟩ := hp.constructs hm hc.constructs
  obtain ⟨-, -, -, hback⟩ := hb hm (Heap.lt_size_of_own? hc.constructor)
  exact ⟨hfunction, hprototype, hback.trans hc.constructor, hc.ne_global⟩

theorem Spares.hasGlobal (hm : m.realm = realm) (hc : m.heap.HasGlobal own kind ctor)
    (hg : m.Spares realm own.global (.ofString kind.name) m') :
    m'.heap.HasGlobal own kind ctor := by
  obtain ⟨-, -, -, hown⟩ := hg hm (Heap.lt_size_of_own? hc)
  exact hown.trans hc

end Machine

namespace Exec

open Machine

variable {realm : Realm} {own : Intrinsics} {base : Nat} {m : Machine} {kind : ErrorKind}
  {kinds : List ErrorKind} {ctor : Ref}

/-- The function that is installed for a kind is its constructor. -/
theorem hasConstructor_installConstructor (hm : m.realm.intrinsics = own)
    (ho : own.AreNew base m.heap) (ha : own.AreApart) (kind : ErrorKind) {m' : Machine}
    (h : (installConstructor kind.name (.error kind) (own.errorPrototype kind)).final m = m') :
    m'.heap.HasConstructor own kind ⟨m.heap.size⟩ ∧ m'.heap.HasGlobal own kind ⟨m.heap.size⟩ := by
  subst hm
  have hglobal := ho.global.lt
  have htarget := (ho.errorPrototype kind).lt
  obtain ⟨⟨hfunction, hprototype⟩, hg⟩ :=
    constructs_installConstructor hglobal htarget kind.name (.error kind) h
  refine ⟨⟨hfunction, hprototype, ?_, ?_⟩, hg⟩
  · rw [final_installConstructor] at h
    subst h
    rw [withHeap, Heap.own?_furnish_of_ne (Or.inl (ha.ne_global kind).symm), Heap.own?_furnish]
    rw [Heap.size_furnish, Heap.size_alloc]
    exact Nat.lt_succ_of_lt htarget
  · intro h
    rw [← h] at hglobal
    exact absurd hglobal (Nat.lt_irrefl _)

/-- What is installed for other kinds spares the constructor of a kind. -/
theorem hasConstructor_installErrorKinds (hm : m.realm = realm) (ha : realm.intrinsics.AreApart)
    (hk : kind ∉ kinds) (hc : m.heap.HasConstructor realm.intrinsics kind ctor)
    (hg : m.heap.HasGlobal realm.intrinsics kind ctor) :
    ((installErrorKinds kinds).final m).heap.HasConstructor realm.intrinsics kind ctor ∧
      ((installErrorKinds kinds).final m).heap.HasGlobal realm.intrinsics kind ctor := by
  have hne : ∀ kind' ∈ kinds, kind' ≠ kind := fun kind' h he => hk (he ▸ h)
  refine ⟨Spares.hasConstructor hm hc ?_ ?_, Spares.hasGlobal hm hg ?_⟩
  · refine spares_installErrorKinds kinds (fun kind' _ => Or.inr (by decide)) (fun kind' _ => ?_) m
    exact Or.inl hc.ne_global.symm
  · refine spares_installErrorKinds kinds (fun kind' h => Or.inl fun he => ?_)
      (fun kind' _ => Or.inl (ha.ne_global kind).symm) m
    exact hne kind' h (ha.injective he)
  · refine spares_installErrorKinds kinds (fun kind' _ => Or.inl (ha.ne_global kind'))
      (fun kind' h => Or.inr fun he => ?_) m
    exact hne kind' h (ErrorKind.name_injective (Key.ofString_injective he))

/-- Of several kinds the first has its constructor before the others are furnished. -/
theorem exists_final_installErrorKinds (ho : m.realm.intrinsics.AreNew base m.heap)
    (ha : m.realm.intrinsics.AreApart) (kind : ErrorKind) (rest : List ErrorKind) :
    ∃ m' ctor, (installErrorKinds (kind :: rest)).final m = (installErrorKinds rest).final m' ∧
      m.Furnishes base m' ∧ m'.heap.HasConstructor m.realm.intrinsics kind ctor ∧
      m'.heap.HasGlobal m.realm.intrinsics kind ctor := by
  have hput : ∀ {m' : Machine}, m.Furnishes base m' → ∀ k p, ∃ m'',
      modifyCell (m.realm.intrinsics.errorPrototype kind) (·.withProperty k p) m' = .ok () m'' ∧
        m.Furnishes base m'' := fun hf k p =>
    ⟨_, rfl, hf.trans (.put ((hf.areNew ho).errorPrototype kind) k p)⟩
  obtain ⟨m₁, h₁, hf₁⟩ := hput (.refl m) (.name "name") (.hidden (.string kind.name))
  obtain ⟨m₂, h₂, hf₂⟩ := hput hf₁ (.name "message") (.hidden (.string ""))
  have hown : m₂.realm.intrinsics = m.realm.intrinsics := congrArg Realm.intrinsics hf₂.realm
  obtain ⟨_, m₃, h₃, hf₃, -⟩ := furnishes_installConstructor hown (hf₂.areNew ho)
    (·.errorPrototype kind) kind.name (.error kind)
  refine ⟨m₃, ⟨m₂.heap.size⟩, ?_, hf₂.trans hf₃, ?_⟩
  · rw [installErrorKinds, final_bind_of_ok (intrinsics_apply m), final_bind_of_ok h₁,
      final_bind_of_ok h₂, final_bind_of_ok (discard_of_ok h₃)]
  · exact hasConstructor_installConstructor hown (hf₂.areNew ho) ha kind (final_of_ok h₃)

/-- Each kind has its constructor once the constructors of all are installed. -/
theorem exists_hasConstructor_installErrorKinds (hn : kinds.Nodup) (hm : m.realm = realm)
    (ho : realm.intrinsics.AreNew base m.heap) (ha : realm.intrinsics.AreApart) :
    ∀ kind ∈ kinds, ∃ ctor,
      ((installErrorKinds kinds).final m).heap.HasConstructor realm.intrinsics kind ctor ∧
        ((installErrorKinds kinds).final m).heap.HasGlobal realm.intrinsics kind ctor := by
  induction kinds generalizing m with
  | nil => nofun
  | cons first rest ih =>
    obtain ⟨hfirst, hrest⟩ := List.nodup_cons.1 hn
    subst hm
    obtain ⟨m', ctor, hfinal, hf, hc, hg⟩ := exists_final_installErrorKinds ho ha first rest
    rw [hfinal]
    intro kind hk
    rcases List.mem_cons.1 hk with rfl | hk
    · exact ⟨ctor, hasConstructor_installErrorKinds hf.realm ha hfirst hc hg⟩
    · exact ih hrest hf.realm (hf.areNew ho) kind hk

theorem exists_hasConstructor_installErrors (hm : m.realm = realm)
    (ho : realm.intrinsics.AreNew base m.heap) (ha : realm.intrinsics.AreApart)
    (kind : ErrorKind) : ∃ ctor,
      (installErrors.final m).heap.HasConstructor realm.intrinsics kind ctor ∧
        (installErrors.final m).heap.HasGlobal realm.intrinsics kind ctor := by
  have hnodup : ErrorKind.all.Nodup := by decide
  obtain ⟨ctor, hc, hg⟩ :=
    exists_hasConstructor_installErrorKinds hnodup hm ho ha kind kind.mem_all
  obtain ⟨_, m', h, hf, -⟩ := installs_installErrorKinds ErrorKind.all m (congrArg _ hm) ho
  have hm' : m'.realm = realm := hf.realm.trans hm
  have hspares : ∀ {r k}, Key.ofString "toString" ≠ k → m'.Spares realm r k
      (installErrors.final m) := fun hk => by
    rw [installErrors, final_bind_of_ok h]
    refine Spares.bind_intrinsics (spares_registerAll _ (Or.inr fun e he => ?_)) m'
    rw [List.mem_singleton.1 he]
    exact hk
  rw [final_of_ok h] at hc hg
  refine ⟨ctor, Spares.hasConstructor hm' hc (hspares ?_) (hspares ?_),
    Spares.hasGlobal hm' hg (hspares ?_)⟩
  · decide +kernel
  · decide +kernel
  · exact fun hk => absurd (Key.ofString_injective hk) (by cases kind <;> decide)

/-- A furnished realm has the constructor of each kind of errors; it is global, unless a package
root has its name. -/
theorem exists_hasConstructor_install (hm : m.realm = realm)
    (ho : realm.intrinsics.AreNew base m.heap) (ha : realm.intrinsics.AreApart)
    (kind : ErrorKind) : ∃ ctor,
      (install.final m).heap.HasConstructor realm.intrinsics kind ctor ∧
        (kind.name ∉ realm.settings.packageRoots →
          (install.final m).heap.HasGlobal realm.intrinsics kind ctor) := by
  obtain ⟨m₁, hf₁, hfinal⟩ := exists_final_install (congrArg Realm.intrinsics hm) ho
  have hr₁ := hf₁.realm.trans hm
  have hboxes := installs_installBoxes.furnishes_final (congrArg _ hr₁) (hf₁.areNew ho)
  generalize installBoxes.final m₁ = m₂ at hboxes hfinal
  have hr₂ := hboxes.realm.trans hr₁
  have ho₂ := hboxes.areNew (hf₁.areNew ho)
  have herrors := installs_installErrors.furnishes_final (congrArg _ hr₂) ho₂
  have hr₃ := herrors.realm.trans hr₂
  obtain ⟨ctor, hc, hg⟩ := exists_hasConstructor_installErrors hr₂ ho₂ ha kind
  generalize installErrors.final m₂ = m₃ at hr₃ hc hg hfinal
  rw [hfinal]
  refine ⟨ctor, Spares.hasConstructor hr₃ hc ?_ ?_, fun hroot => Spares.hasGlobal hr₃ hg ?_⟩
  · exact spares_installInterop (Or.inl hc.ne_global.symm) m₃
  · exact spares_installInterop (Or.inl (ha.ne_global kind).symm) m₃
  · refine spares_installInterop (Or.inr fun name hn he => ?_) m₃
    rw [Key.ofString_injective he] at hn
    rcases List.mem_append.1 hn with hn | hn
    · cases kind <;> exact absurd hn (by decide)
    · exact hroot hn

end Exec

/-! ### Instances -/

namespace Heap

variable {h : Heap} {r target : Ref}

theorem inherits_prototype (hr : r.id < h.size)
    (ht : h.prototype r = some target) : h.inherits r target := by
  obtain ⟨n, hn⟩ := Nat.exists_eq_add_one.2 (Nat.zero_lt_of_lt hr)
  rw [inherits, ht, chain, hn, walk]
  simp

end Heap

section Instances

variable {ctor r target : Ref} {p : Property} {m : Machine} {f : Callable}

/-- An object that inherits at once from the prototype of a constructor is an instance. -/
theorem Exec.instanceOf_of_prototype (hf : m.heap.kind ctor = .function f)
    (hp : m.heap.own? ctor (.name "prototype") = some p) (hv : p.value = .object target)
    (hr : r.id < m.heap.size) (ht : m.heap.prototype r = some target) :
    instanceOf (.object r) (.object ctor) m = .ok true m := by
  have hget := (Heap.get_of_own? hp).trans hv
  unfold instanceOf
  dsimp only
  rw [bind_of_ok (look_apply _ m), hf]
  dsimp only
  rw [bind_of_ok (look_apply _ m), hget]
  dsimp only
  rw [look_apply, Heap.inherits_prototype hr ht]

end Instances

end ScriptSandbox
