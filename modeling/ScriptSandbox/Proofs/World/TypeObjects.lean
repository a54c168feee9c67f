import ScriptSandbox.Proofs.Key
import ScriptSandbox.Proofs.Machine.Curation
import ScriptSandbox.Proofs.Machine.TypeObject
import ScriptSandbox.Proofs.World.HostTypes

/-! # Type objects of a world

Every type object is made by an operation of some realm. The realm keeps it from then on and makes
no other one of its name, and whatever happens later, the object stays what its class makes of it.
-/

namespace ScriptSandbox

/-- The keys of the static methods of a class, each where it comes first. -/
def HostClass.keys (c : HostClass) : List Key := (c.statics.map StaticMethod.key).eraseDups

/-- The object is closed, and has one read-only property for each name of a static method of the
class: the function of the last method of that name. -/
structure Heap.IsTypeObject (h : Heap) (c : HostClass) (target r : Ref) : Prop where
  kind : h.kind r = .hostType c
  prototype : h.prototype r = some target
  isExtensible : (h.cell r).isExtensible = false
  keys : (h.cell r).properties.keys = c.keys
  ownKeys : (h.cell r).properties.ownKeys =
    (ArrayIndex.ascending (c.keys.filterMap Key.index?)).map Key.index ++
      c.keys.filter fun k => k.index? = none
  methods : ∀ (i : Nat) (s : StaticMethod), c.statics[i]? = some s →
    (∀ (j : Nat) (t : StaticMethod), i < j → c.statics[j]? = some t → t.name ≠ s.name) →
    ∃ f, h.own? r (.ofString s.name) = some ⟨.object f, false, false, false⟩ ∧
      h.kind f = .function ⟨s.name, .callback s.callback, s.arity⟩

theorem Heap.Represents.isTypeObject {h : Heap} {c : HostClass} {target r : Ref}
    (hr : h.Represents c target r) : h.IsTypeObject c target r := by
  have hkeys : (h.cell r).properties.keys = c.keys := by
    rw [hr.cell, c.keys_typeCell, HostClass.keys]
  refine ⟨hr.kind, ?_, ?_, hkeys, ?_, fun i s hs hlast => ?_⟩
  · rw [Heap.prototype, hr.cell, HostClass.typeCell]
  · rw [hr.cell, HostClass.typeCell]
    rfl
  · rw [PropertyTable.ownKeys, PropertyTable.indices, PropertyTable.names, hkeys]
  · refine ⟨⟨r.id + 1 + i⟩, ?_, hr.functions i s hs⟩
    rw [Heap.own?, hr.cell]
    refine HostClass.get?_typeCell hs fun j t hij hj hkey => hlast j t hij hj ?_
    rw [← Key.text_ofString t.name, ← Key.text_ofString s.name]
    exact congrArg Key.text hkey

namespace World

open Machine

variable {w : World} {i j place : Nat} {m m' : Machine} {c d : HostClass} {target r s : Ref}

/-- The realm keeps the type object of the class under its name. -/
def Keeps (w : World) (i : Nat) (c : HostClass) (target r : Ref) : Prop :=
  ∃ realm place, w.realms[i]? = some (realm, place) ∧
    realm.intrinsics.functionPrototype = target ∧
    realm.typeObjects.get? c.name = some r ∧ w.heap.Represents c target r

/-- What a realm does changes no type object that another one keeps. -/
theorem Keeps.perform (hk : w.Keeps i c target r) (h : w.machine? j = some (m, place))
    (hm : m.Curates m') : (w.store j place m').Keeps i c target r := by
  obtain ⟨realm, place', hr, htarget, hname, hrep⟩ := hk
  obtain ⟨hheap, hrealm, -⟩ := machine?_eq_some_iff.1 h
  rw [← hheap] at hrep
  by_cases hij : j = i
  · subst hij
    rw [hr, Option.some.injEq, Prod.mk.injEq] at hrealm
    obtain ⟨rfl, rfl⟩ := hrealm
    have hstored := (machine?_eq_some_iff.1 (machine?_store h m')).2.1
    exact ⟨m'.realm, _, hstored, by rw [hm.intrinsics, htarget], hm.kept hname, hm.represents hrep⟩
  · refine ⟨realm, place', ?_, htarget, hname, hm.represents hrep⟩
    rw [store, Array.getElem?_setIfInBounds_ne hij, hr]

theorem Keeps.apply (hk : w.Keeps i c target r) (e : Event) :
    (w.apply e).Keeps i c target r := by
  rcases w.apply_cases e with ⟨j, op, m, place, -, hm, h⟩ | ⟨_, _, place, m', -, hf, hheap, h⟩ |
    ⟨hheap, h⟩
  · rw [h]
    exact hk.perform hm (op.follows_exec isHabit_curates m)
  · obtain ⟨realm, place', hr, htarget, hname, hrep⟩ := hk
    refine ⟨realm, place', ?_, htarget, hname, ?_⟩
    · obtain ⟨hi, -⟩ := Array.getElem?_eq_some_iff.1 hr
      rw [h, Array.getElem?_push, if_neg (Nat.ne_of_lt hi), hr]
    · rw [hheap]
      exact hrep.of_cell_eq fun s hs => hf.old hs hs
  · obtain ⟨realm, place', hr, htarget, hname, hrep⟩ := hk
    exact ⟨realm, place', h ▸ hr, htarget, hname, hheap ▸ hrep⟩

/-- A realm keeps one object for a name. -/
theorem Keeps.unique {target' : Ref} (hk : w.Keeps i c target r) (hk' : w.Keeps i d target' s)
    (hn : c.name = d.name) : r = s := by
  obtain ⟨realm, place, hr, -, hname, -⟩ := hk
  obtain ⟨realm', place', hr', -, hname', -⟩ := hk'
  rw [hr, Option.some.injEq, Prod.mk.injEq] at hr'
  rw [← hr'.1, ← hn, hname, Option.some.injEq] at hname'
  exact hname'

/-- A type object comes into the heap only by an operation of a realm, which keeps it. -/
theorem keeps_of_new (hr : w.heap.size ≤ r.id) {e : Event}
    (hc : (w.apply e).heap.kind r = .hostType c) :
    ∃ i op, e = .perform i op ∧ ∃ target, (w.apply e).Keeps i c target r := by
  rcases w.apply_cases e with ⟨i, op, m, place, he, hm, h⟩ | ⟨_, classes, _, m', -, hf, hheap, -⟩ |
    ⟨hheap, -⟩
  · obtain ⟨hm', -, -⟩ := machine?_eq_some_iff.1 hm
    have hcurates := op.follows_exec isHabit_curates m
    rw [h] at hc ⊢
    rw [← hm'] at hr
    obtain ⟨hname, hrep⟩ := hcurates.fresh hr hc
    have hstored := (machine?_eq_some_iff.1 (machine?_store hm (op.exec.final m))).2.1
    exact ⟨i, op, he, _, _, place, hstored, rfl, hname, hrep⟩
  · rw [hheap] at hc
    have hmem := Path.contains_of_hostType hf.path (Gate.sound_ofList classes) hr hc
    rw [hf.realm] at hmem
    cases hmem
  · rw [hheap] at hc
    exact absurd (Heap.lt_size_of_hostType hc) (Nat.not_lt.2 hr)

/-! ### Histories -/

variable {history before rest : List Event}

/-- An operation of the realm made the type object of the class. -/
def HasMade (history : List Event) (i : Nat) (c : HostClass) (r : Ref) : Prop :=
  ∃ before op rest, history = before ++ .perform i op :: rest ∧
    (after before).heap.size ≤ r.id ∧
    (after (before ++ [.perform i op])).heap.kind r = .hostType c

theorem HasMade.append (h : HasMade before i c r) (rest : List Event) :
    HasMade (before ++ rest) i c r := by
  obtain ⟨start, op, rest', rfl, h⟩ := h
  exact ⟨start, op, rest' ++ rest, by simp, h⟩

theorem Keeps.append (hk : (after before).Keeps i c target r) (rest : List Event) :
    (after (before ++ rest)).Keeps i c target r :=
  append_induction (P := (·.Keeps i c target r)) (fun _ e hw => hw.apply e) hk rest

/-- A realm still keeps what it made. -/
theorem HasMade.keeps (h : HasMade history i c r) :
    ∃ target, (after history).Keeps i c target r := by
  obtain ⟨before, op, rest, rfl, hr, hc⟩ := h
  rw [after_concat] at hc
  obtain ⟨i', op', he, target, hk⟩ := keeps_of_new hr hc
  cases he
  rw [← after_concat] at hk
  rw [List.append_cons]
  exact ⟨target, hk.append rest⟩

theorem exists_hasMade (hc : (after history).heap.kind r = .hostType c) :
    ∃ i, HasMade history i c r := by
  induction history using List.reverseRecOn with
  | nil => cases hc
  | append_singleton history e ih =>
    by_cases hr : r.id < (after history).heap.size
    · have hkind := (evolves_apply (e := e) (sound_after history r) hr).kind
      rw [after_concat, Heap.kind, hkind] at hc
      obtain ⟨i, hi⟩ := ih hc
      exact ⟨i, hi.append [e]⟩
    · rw [after_concat] at hc
      obtain ⟨i, op, rfl, -⟩ := keeps_of_new (Nat.not_lt.1 hr) hc
      exact ⟨i, history, op, [], rfl, Nat.not_lt.1 hr, by rwa [after_concat]⟩

/-- Where a realm keeps a type object of the name, resolving the name gives that one. -/
theorem Keeps.resolveType (hk : w.Keeps i c target r) (hw : w.Gated)
    (h : w.machine? i = some (m, place)) (hs : Exec.resolveType c.name m = .ok s m') : s = r := by
  obtain ⟨realm, place', hr, -, hname, -⟩ := hk
  obtain ⟨-, hrealm, -⟩ := machine?_eq_some_iff.1 h
  rw [hr, Option.some.injEq, Prod.mk.injEq] at hrealm
  rw [hrealm.1] at hname
  cases hres : m.realm.gate.resolve m.policy c.name with
  | error f =>
    rw [Exec.resolveType_of_error hres] at hs
    cases hs
  | ok d =>
    obtain ⟨s', m₁, hok, hext, hkept⟩ := Exec.resolveType_of_ok hres (hw.gate h)
    rw [hok] at hs
    cases hs
    rw [hext.typeObjects hname, Option.some.injEq] at hkept
    exact hkept.symm

/-- Every type object was made by some realm, and a realm makes one for a name; in a world of one
realm there is one for a name. From the moment it was made on, the object is as its class makes it,
and nothing about it ever changes. Whenever its realm resolves the name with success, the answer is
that object. -/
theorem typeObjects_after (history : List Event) :
    (∀ c r, (after history).heap.kind r = .hostType c → ∃ i, HasMade history i c r) ∧
    (∀ i c d r s, HasMade history i c r → HasMade history i d s → c.name = d.name → r = s) ∧
    ((after history).realms.size = 1 → ∀ c d r s, (after history).heap.kind r = .hostType c →
      (after history).heap.kind s = .hostType d → c.name = d.name → r = s) ∧
    (∀ before rest i c r, history = before ++ rest → HasMade before i c r →
      ∃ realm place, (after history).realms[i]? = some (realm, place) ∧
        (after history).heap.IsTypeObject c realm.intrinsics.functionPrototype r ∧
        (after history).heap.cell r = (after before).heap.cell r) ∧
    ∀ i c r s m place m', HasMade history i c r → (after history).machine? i = some (m, place) →
      Exec.resolveType c.name m = .ok s m' → s = r := by
  have hunique : ∀ i c d r s, HasMade history i c r → HasMade history i d s →
      c.name = d.name → r = s := fun i c d r s hr hs hn => by
    obtain ⟨target, hk⟩ := hr.keeps
    obtain ⟨target', hk'⟩ := hs.keeps
    exact hk.unique hk' hn
  have hfirst : (after history).realms.size = 1 → ∀ {i c r}, HasMade history i c r → i = 0 := by
    intro hone i c r hmade
    obtain ⟨target, realm, place, hr, -⟩ := hmade.keeps
    obtain ⟨hi, -⟩ := Array.getElem?_eq_some_iff.1 hr
    omega
  refine ⟨fun c r => exists_hasMade, hunique, fun hone c d r s hr hs hn => ?_,
    fun before rest i c r he hmade => ?_, fun i c r s m place m' hmade h hs => ?_⟩
  · obtain ⟨i, hi⟩ := exists_hasMade hr
    obtain ⟨j, hj⟩ := exists_hasMade hs
    obtain rfl := hfirst hone hi
    obtain rfl := hfirst hone hj
    exact hunique 0 c d r s hi hj hn
  · obtain ⟨target, hk⟩ := hmade.keeps
    have hcell : (after before).heap.cell r = c.typeCell target r.id := by
      obtain ⟨-, -, -, -, -, hrep⟩ := hk
      exact hrep.cell
    obtain ⟨realm, place, hr, htarget, -, hrep⟩ := hk.append rest
    rw [← he] at hr hrep
    refine ⟨realm, place, hr, htarget ▸ hrep.isTypeObject, ?_⟩
    rw [hrep.cell, hcell]
  · obtain ⟨target, hk⟩ := hmade.keeps
    exact hk.resolveType (gated_after history) h hs

section Sample

/-- A class with two static methods of one name, and with some that are named like indices. -/
def beeper : HostClass where
  name := "app.Beeper"
  statics := [⟨"beep", .noop, 0⟩, ⟨"1", .noop, 0⟩, ⟨"beep", .noop, 2⟩, ⟨"0", .noop, 0⟩]

def beeperType : Ref := ⟨61⟩

def minting : List Event := [
  .addPolicy {}, .addRealm {} [beeper] 0,
  .perform 0 (.resolveType "app.Beeper")]

/-- Attempts to change the type object, and to have another one after the policy has closed and
opened its package. -/
def renewing : List Event := [
  .perform 0 (.assign beeperType (.name "beep") .undefined .silent),
  .perform 0 (.remove beeperType (.ofNat 0) .silent),
  .perform 0 (.relink beeperType none),
  .updatePolicy 0 fun p => { p with rules := [⟨"app.*", .deny⟩] },
  .perform 0 (.resolveType "app.Beeper"),
  .updatePolicy 0 fun p => { p with rules := [] },
  .perform 0 (.resolveType "app.Beeper")]

theorem typeObjects_after_renewing : HasMade minting 0 beeper beeperType ∧
    (∀ d s, (after (minting ++ renewing)).heap.kind s = .hostType d → d.name = "app.Beeper" →
      s = beeperType) ∧
    (after (minting ++ renewing)).heap.cell beeperType = (after minting).heap.cell beeperType ∧
    ((after (minting ++ renewing)).heap.cell beeperType).properties.ownKeys =
      [.ofNat 0, .ofNat 1, .name "beep"] ∧
    (∃ f, (after (minting ++ renewing)).heap.own? beeperType (.name "beep") =
        some ⟨.object f, false, false, false⟩ ∧
      (after (minting ++ renewing)).heap.kind f = .function ⟨"beep", .callback .noop, 2⟩) ∧
    ∃ m place m', (after (minting ++ renewing)).machine? 0 = some (m, place) ∧
      Exec.resolveType "app.Beeper" m = .ok beeperType m' := by
  have hmade : HasMade minting 0 beeper beeperType :=
    ⟨minting.take 2, .resolveType "app.Beeper", [], rfl, by decide +kernel, by decide +kernel⟩
  have hlast : ∀ (j : Nat) (t : StaticMethod), 2 < j → beeper.statics[j]? = some t →
      t.name ≠ "beep" := by
    intro j t hj ht
    obtain ⟨hlt, rfl⟩ := List.getElem?_eq_some_iff.1 ht
    have hlength : beeper.statics.length = 4 := rfl
    obtain rfl : j = 3 := by omega
    have hname : beeper.statics[3].name = "0" := rfl
    rw [hname]
    decide
  obtain ⟨-, -, hworld, hshape, hresolve⟩ := typeObjects_after (minting ++ renewing)
  obtain ⟨realm, place, hr, htype, hcell⟩ :=
    hshape minting renewing 0 beeper beeperType rfl hmade
  obtain ⟨⟨m, place'⟩, hm⟩ : ∃ e, (after (minting ++ renewing)).machine? 0 = some e :=
    Option.isSome_iff_exists.1 (by decide +kernel)
  have hopen : ((after (minting ++ renewing)).machine? 0).all fun e =>
      e.1.realm.gate.resolve e.1.policy "app.Beeper" = .ok beeper := by decide +kernel
  rw [hm, Option.all_some, decide_eq_true_eq] at hopen
  obtain ⟨s, m', hok, -⟩ := Exec.resolveType_of_ok hopen (Gated.gate (gated_after _) hm)
  obtain rfl : s = beeperType := hresolve 0 beeper beeperType s m place' m' (hmade.append _) hm hok
  refine ⟨hmade, fun d s hs hn => ?_, hcell, ?_, ?_, m, place', m', hm, hok⟩
  · exact hworld (by decide +kernel) d beeper s _ hs htype.kind hn
  · rw [htype.ownKeys]
    decide +kernel
  · have hkey : Key.ofString "beep" = .name "beep" := by decide +kernel
    exact hkey ▸ htype.methods 2 ⟨"beep", .noop, 2⟩ rfl hlast

end Sample

end World

end ScriptSandbox
