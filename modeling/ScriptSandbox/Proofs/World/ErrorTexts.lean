import ScriptSandbox.Proofs.Heap.Conversion
import ScriptSandbox.Proofs.Machine.Refusal
import ScriptSandbox.Proofs.World.Errors
import ScriptSandbox.Proofs.World.WellFormed

/-! # The two texts of an error

An error that is turned into a text is written by its own name and message. The function that
scripts call for its text goes by the name and the message that are found on the error or above it.
Both texts have one layout, so they differ only where an own part is no text and something else is
found in its place. The function answers nothing where an object that is its own length is found.
-/

namespace ScriptSandbox

/-- What the text of an error is made of. -/
@[ext] structure ErrorParts where
  name : String
  message : String

/-- The name, and a message that is not empty behind it. -/
def ErrorParts.text (e : ErrorParts) : String :=
  if e.message = "" then e.name else e.name ++ ": " ++ e.message

namespace ErrorParts

variable {e e' : ErrorParts}

/-- Texts with one name tell their messages apart. -/
theorem text_eq_iff_message (hn : e.name = e'.name) : e.text = e'.text ↔ e.message = e'.message := by
  have hlonger : ∀ n m : String, n ≠ n ++ ": " ++ m := by
    intro n m h
    rw [String.append_assoc, eq_comm, String.append_eq_left_iff, String.append_eq_empty_iff] at h
    exact absurd h.1 (by decide)
  constructor
  · intro h
    unfold text at h
    rw [hn] at h
    split_ifs at h with hm hm' hm'
    · rw [hm, hm']
    · exact absurd h (hlonger _ _)
    · exact absurd h.symm (hlonger _ _)
    · exact (String.append_right_inj _).1 h
  · intro hm
    rw [text, text, hn, hm]

/-- Texts with one message tell their names apart. -/
theorem text_eq_iff_name (hm : e.message = e'.message) : e.text = e'.text ↔ e.name = e'.name := by
  unfold text
  rw [hm]
  split
  · rfl
  · rw [String.append_assoc, String.append_assoc, String.append_left_inj]

end ErrorParts

/-- The own name and the own message, each with what stands for it where it is no text. -/
def Cell.errorParts (c : Cell) : ErrorParts where
  name := (c.ownString? "name").getD "Error"
  message := (c.ownString? "message").getD ""

namespace Heap

variable {h : Heap} {r : Ref}

/-- The text of a member, with one for when it is undefined. There is none if the value that is
found has none. -/
def memberText? (h : Heap) (r : Ref) (name missing : String) : Option String :=
  match h.get r (.name name) with
  | .undefined => some missing
  | v => h.text? v

/-- The name and the message that are found on an object or above it. -/
structure Finds (h : Heap) (r : Ref) (e : ErrorParts) : Prop where
  name : h.memberText? r "name" "Error" = some e.name
  message : h.memberText? r "message" "" = some e.message

/-- The member is an own text, or what is found in its place reads like the text for a missing
one. -/
def Tells (h : Heap) (r : Ref) (name missing : String) : Prop :=
  (∃ p s, h.own? r (.name name) = some p ∧ p.value = .string s) ∨
    h.memberText? r name missing = some missing

/-- A name and a message are found, unless one of them is an object that is its own length. -/
theorem exists_finds_iff : (∃ e, h.Finds r e) ↔ ∀ key ∈ ["name", "message"], ∀ s,
    h.get r (.name key) = .object s → ¬h.MeasuresItself s := by
  have hmember : ∀ name missing, (∃ s, h.memberText? r name missing = some s) ↔
      ∀ s, h.get r (.name name) = .object s → ¬h.MeasuresItself s := by
    intro name missing
    rw [← Option.ne_none_iff_exists', memberText?]
    split
    · rename_i hget
      simp [hget]
    · rw [Ne, text?_eq_none_iff, not_exists]
      exact forall_congr' fun s => not_and
  simp only [List.forall_mem_cons, List.not_mem_nil, false_implies, implies_true, and_true]
  rw [← hmember "name" "Error", ← hmember "message" ""]
  constructor
  · rintro ⟨e, he⟩
    exact ⟨⟨_, he.name⟩, _, he.message⟩
  · rintro ⟨⟨name, hn⟩, message, hm⟩
    exact ⟨⟨name, message⟩, hn, hm⟩

/-- The conversion of an error looks at nothing but its own name and message, and always ends. -/
theorem text?_of_error (hk : h.kind r = .error) :
    h.text? (.object r) = some (h.cell r).errorParts.text := by
  rw [text?_of_kind_ne (by simp [hk]) (by simp [hk]), text, objectText, hk]
  rfl

/-- The own part and the part that is found are the same exactly if the member tells it. -/
theorem ownString?_eq_iff {name missing found : String}
    (hfound : h.memberText? r name missing = some found) :
    ((h.cell r).ownString? name).getD missing = found ↔ h.Tells r name missing := by
  cases hs : (h.cell r).ownString? name with
  | some s =>
    obtain ⟨p, hp, hv⟩ := Option.bind_eq_some_iff.1 hs
    have hvalue : p.value = .string s := by
      cases hpv : p.value with
      | string t =>
        rw [hpv] at hv
        exact congrArg Value.string (Option.some.inj hv)
      | _ =>
        rw [hpv] at hv
        cases hv
    have hget : h.get r (.name name) = .string s := (get_of_own? hp).trans hvalue
    rw [memberText?, hget] at hfound
    constructor
    · intro _
      exact Or.inl ⟨p, s, hp, hvalue⟩
    · intro _
      exact Option.some.inj hfound
  | none =>
    rw [Option.getD_none, Tells, hfound, Option.some.injEq, eq_comm, iff_or_self]
    rintro ⟨p, s, hp, hv⟩
    rw [Cell.ownString?, show (h.cell r).properties.get? (.name name) = some p from hp,
      Option.bind_some, hv] at hs
    cases hs

theorem Finds.errorParts_eq_iff {e : ErrorParts} (he : h.Finds r e) :
    (h.cell r).errorParts = e ↔ h.Tells r "name" "Error" ∧ h.Tells r "message" "" := by
  rw [← ownString?_eq_iff he.name, ← ownString?_eq_iff he.message]
  exact ErrorParts.ext_iff

end Heap

namespace Exec

variable {m : Machine} {r : Ref} {callee : Value} {e : ErrorParts}

theorem memberText_apply {name missing found : String}
    (hfound : m.heap.memberText? r name missing = some found) :
    Errors.memberText r name missing m = .ok found m := by
  unfold Errors.memberText
  unfold Heap.memberText? at hfound
  rw [bind_of_ok (look_apply _ m)]
  cases hget : m.heap.get r (.name name) with
  | undefined =>
    rw [hget] at hfound
    exact congrArg (EStateM.Result.ok · m) (Option.some.inj hfound)
  | _ =>
    rw [hget] at hfound
    exact congrArg (EStateM.Result.ok · m) (Heap.text_of_text? hfound)

theorem call_errorText (hc : m.heap.Runs callee .errorText) (he : m.heap.Finds r e)
    (args : List Value) : call callee (.object r) args m = .ok (.string e.text) m := by
  have hrun : runBuiltin .errorText (.object r) args = (do
      let name ← Errors.memberText r "name" "Error"
      let message ← Errors.memberText r "message" ""
      return .string (ErrorParts.text ⟨name, message⟩)) := rfl
  rw [call_apply_of_runs hc, hrun, bind_of_ok (memberText_apply he.name),
    bind_of_ok (memberText_apply he.message)]
  rfl

/-- The text of an error is laid out by its own name and message, the answer of the function for it
in the same way by those that are found. A name and a message are found unless one of them is an
object that is its own length. The two texts are the same if each part is told by the error; and
where one part is the same, the texts are the same only if the other part is. -/
theorem errorText_eq_of_tells (hk : m.heap.kind r = .error) (hc : m.heap.Runs callee .errorText)
    (args : List Value) :
    m.heap.text? (.object r) = some (m.heap.cell r).errorParts.text ∧
    ((∃ e, m.heap.Finds r e) ∨ ∃ key ∈ ["name", "message"], ∃ s,
      m.heap.get r (.name key) = .object s ∧ m.heap.MeasuresItself s) ∧
    ∀ e, m.heap.Finds r e →
      call callee (.object r) args m = .ok (.string e.text) m ∧
      (m.heap.Tells r "name" "Error" → m.heap.Tells r "message" "" →
        call callee (.object r) args m = .ok (.string (m.heap.text (.object r))) m) ∧
      (m.heap.Tells r "message" "" →
        call callee (.object r) args m = .ok (.string (m.heap.text (.object r))) m →
        m.heap.Tells r "name" "Error") ∧
      (m.heap.Tells r "name" "Error" →
        call callee (.object r) args m = .ok (.string (m.heap.text (.object r))) m →
        m.heap.Tells r "message" "") := by
  have htext := Heap.text_of_text? (Heap.text?_of_error hk)
  refine ⟨Heap.text?_of_error hk, ?_, fun e he => ?_⟩
  · by_contra hno
    rw [not_or, Heap.exists_finds_iff] at hno
    exact hno.1 fun key hkey s hget hs => hno.2 ⟨key, hkey, s, hget, hs⟩
  have hcall := call_errorText hc he args
  have hsame : call callee (.object r) args m = .ok (.string (m.heap.text (.object r))) m ↔
      (m.heap.cell r).errorParts.text = e.text := by
    rw [hcall, htext]
    simp [eq_comm]
  rw [hsame]
  refine ⟨hcall, ?_, ?_, ?_⟩
  · intro hn hm
    rw [he.errorParts_eq_iff.2 ⟨hn, hm⟩]
  · intro hm h
    have hmessage := (Heap.ownString?_eq_iff he.message).2 hm
    exact (Heap.ownString?_eq_iff he.name).1 ((ErrorParts.text_eq_iff_name hmessage).1 h)
  · intro hn h
    have hname := (Heap.ownString?_eq_iff he.name).2 hn
    exact (Heap.ownString?_eq_iff he.message).1 ((ErrorParts.text_eq_iff_message hname).1 h)

section Sample

open World

/-- The function for the text of an error in the first realm of a world, and its first error. -/
def errorTextFunction : Ref := ⟨46⟩

def firstError : Ref := ⟨61⟩

def failing : List Event := founding ++ [.perform 0 (.createError .typeError "m")]

/-- The name of the error is taken away. -/
def unnaming : List Event := failing ++ [.perform 0 (.remove firstError (.name "name") .silent)]

theorem errorText_eq_of_failing : ∃ m place, (after failing).machine? 0 = some (m, place) ∧
    m.heap.text (.object firstError) = "TypeError: m" ∧
    call (.object errorTextFunction) (.object firstError) [] m =
      .ok (.string "TypeError: m") m := by
  obtain ⟨⟨m, place⟩, hm⟩ : ∃ e, (after failing).machine? 0 = some e :=
    Option.isSome_iff_exists.1 (by decide +kernel)
  have hfacts : ((after failing).machine? 0).all fun e =>
      e.1.heap.kind firstError = .error ∧
      e.1.heap.kind errorTextFunction = .function ⟨"toString", .builtin .errorText, 0⟩ ∧
      e.1.heap.own? firstError (.name "name") = some (.hidden (.string "TypeError")) ∧
      e.1.heap.own? firstError (.name "message") = some (.hidden (.string "m")) ∧
      e.1.heap.text (.object firstError) = "TypeError: m" ∧
      e.1.heap.memberText? firstError "name" "Error" = some "TypeError" ∧
      e.1.heap.memberText? firstError "message" "" = some "m" := by decide +kernel
  rw [hm, Option.all_some, decide_eq_true_eq] at hfacts
  obtain ⟨hk, hfunction, hname, hmessage, htext, hn, hm'⟩ := hfacts
  have hfinds : m.heap.Finds firstError ⟨"TypeError", "m"⟩ := ⟨hn, hm'⟩
  obtain ⟨-, -, hfound⟩ := errorText_eq_of_tells hk ⟨_, _, rfl, hfunction, rfl⟩ []
  have hcall := (hfound _ hfinds).2.1 (Or.inl ⟨_, _, hname, rfl⟩) (Or.inl ⟨_, _, hmessage, rfl⟩)
  rw [htext] at hcall
  exact ⟨m, place, hm, htext, hcall⟩

theorem errorText_ne_of_unnaming : ¬∀ history i m place r callee args, Supports {} history →
    (after history).machine? i = some (m, place) → m.heap.kind r = .error →
    m.heap.Runs callee .errorText →
    call callee (.object r) args m = .ok (.string (m.heap.text (.object r))) m := by
  intro hsame
  obtain ⟨⟨m, place⟩, hm⟩ : ∃ e, (after unnaming).machine? 0 = some e :=
    Option.isSome_iff_exists.1 (by decide +kernel)
  have hfacts : ((after unnaming).machine? 0).all fun e =>
      e.1.heap.kind firstError = .error ∧
      e.1.heap.kind errorTextFunction = .function ⟨"toString", .builtin .errorText, 0⟩ ∧
      e.1.heap.text (.object firstError) = "Error: m" ∧
      e.1.heap.memberText? firstError "name" "Error" = some "TypeError" ∧
      e.1.heap.memberText? firstError "message" "" = some "m" := by decide +kernel
  rw [hm, Option.all_some, decide_eq_true_eq] at hfacts
  obtain ⟨hk, hfunction, htext, hn, hm'⟩ := hfacts
  have hfinds : m.heap.Finds firstError ⟨"TypeError", "m"⟩ := ⟨hn, hm'⟩
  have hruns : m.heap.Runs (.object errorTextFunction) .errorText := ⟨_, _, rfl, hfunction, rfl⟩
  have h := hsame unnaming 0 m place firstError _ [] (by decide +kernel) hm hk hruns
  rw [call_errorText hruns hfinds, htext] at h
  revert h
  simp [ErrorParts.text]

end Sample

end Exec

end ScriptSandbox
