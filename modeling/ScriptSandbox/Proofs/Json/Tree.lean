import ScriptSandbox.Json.Tree
import ScriptSandbox.Proofs.Json.Token

/-! # Values of tokens

The tokens of a value, read where a value may stand, deliver that value. A layout is therefore read
back to the value that it was made for.
-/

namespace ScriptSandbox.Json

namespace Parse

open Token (closeArray closeObject)

variable {frames : List Frame} {t : Token}

theorem step_firstItem (h : t ≠ closeArray) : step ⟨.firstItem, frames⟩ t = value frames t := by
  cases t <;> first | rfl | exact absurd rfl h

/-- The first token of a value closes nothing. -/
theorem exists_tokens_eq_cons (j : Json) : ∃ t ts, tokens j = t :: ts ∧ t ≠ closeArray := by
  cases j with
  | array items =>
    cases items with
    | nil => exact ⟨.openArray, _, by rw [tokens], by simp⟩
    | cons j items => exact ⟨.openArray, _, by rw [tokens], by simp⟩
  | object members =>
    cases members with
    | nil => exact ⟨.openObject, _, by rw [tokens], by simp⟩
    | cons m members => exact ⟨.openObject, _, by rw [tokens], by simp⟩
  | _ => exact ⟨.scalar _, _, by rw [tokens], by simp⟩

/-- A value may be the first item of an array. -/
theorem foldlM_firstItem (j : Json) (ts : List Token) (frames : List Frame) :
    (tokens j ++ ts).foldlM step ⟨.firstItem, frames⟩ =
      (tokens j ++ ts).foldlM step ⟨.value, frames⟩ := by
  obtain ⟨t, ts', h, ht⟩ := exists_tokens_eq_cons j
  rw [h, List.cons_append, List.foldlM_cons, List.foldlM_cons, step_firstItem ht]
  rfl

/-- What the tokens of a value do where a value may stand. -/
def Delivers (j : Json) : Prop :=
  ∀ frames, (tokens j).foldlM step ⟨.value, frames⟩ = deliver j frames

theorem foldlM_tokens {j : Json} (h : Delivers j) (ts : List Token) (frames : List Frame) :
    (tokens j ++ ts).foldlM step ⟨.value, frames⟩ =
      (deliver j frames).bind fun p => ts.foldlM step p := by
  rw [List.foldlM_append, h frames]
  rfl

theorem foldlM_tokensOfItems {items : List Json} (h : ∀ j ∈ items, Delivers j)
    (before : List Json) (frames : List Frame) :
    (tokensOfItems items ++ [closeArray]).foldlM step ⟨.separator, .array before :: frames⟩ =
      deliver (.array (before.reverse ++ items)) frames := by
  induction items generalizing before with
  | nil =>
    rw [tokensOfItems, List.nil_append, List.foldlM_cons, List.append_nil]
    exact bind_pure _
  | cons j items ih =>
    have hj := foldlM_tokens (h j List.mem_cons_self) (tokensOfItems items ++ [closeArray])
      (.array before :: frames)
    have hrest := ih (fun i hi => h i (List.mem_cons_of_mem _ hi)) (j :: before)
    rw [tokensOfItems, List.cons_append, List.append_assoc, List.foldlM_cons]
    calc (tokens j ++ (tokensOfItems items ++ [closeArray])).foldlM step
          ⟨.value, .array before :: frames⟩
      _ = (tokensOfItems items ++ [closeArray]).foldlM step
          ⟨.separator, .array (j :: before) :: frames⟩ := hj
      _ = deliver (.array (before.reverse ++ j :: items)) frames := by
        rw [hrest, List.reverse_cons, List.append_assoc, List.singleton_append]

/-- A member where a name may stand. -/
theorem foldlM_tokensOfMember {m : List Nat × Json} (h : Delivers m.2) (ts : List Token)
    (before : List (List Nat × Json)) (frames : List Frame) :
    (tokensOfMember m ++ ts).foldlM step ⟨.name, .object before :: frames⟩ =
      ts.foldlM step ⟨.separator, .object (m :: before) :: frames⟩ := by
  obtain ⟨name, j⟩ := m
  exact foldlM_tokens h ts (.member before name :: frames)

/-- A member may be the first one of an object. -/
theorem foldlM_firstName (m : List Nat × Json) (ts : List Token) (frames : List Frame) :
    (tokensOfMember m ++ ts).foldlM step ⟨.firstName, frames⟩ =
      (tokensOfMember m ++ ts).foldlM step ⟨.name, frames⟩ := by
  obtain ⟨name, j⟩ := m
  rfl

theorem foldlM_tokensOfMembers {members : List (List Nat × Json)}
    (h : ∀ m ∈ members, Delivers m.2) (before : List (List Nat × Json)) (frames : List Frame) :
    (tokensOfMembers members ++ [closeObject]).foldlM step
        ⟨.separator, .object before :: frames⟩ =
      deliver (.object (before.reverse ++ members)) frames := by
  induction members generalizing before with
  | nil =>
    rw [tokensOfMembers, List.nil_append, List.foldlM_cons, List.append_nil]
    exact bind_pure _
  | cons m members ih =>
    have hm := foldlM_tokensOfMember (h m List.mem_cons_self)
      (tokensOfMembers members ++ [closeObject]) before frames
    have hrest := ih (fun i hi => h i (List.mem_cons_of_mem _ hi)) (m :: before)
    rw [tokensOfMembers, List.cons_append, List.append_assoc, List.foldlM_cons]
    calc (tokensOfMember m ++ (tokensOfMembers members ++ [closeObject])).foldlM step
          ⟨.name, .object before :: frames⟩
      _ = (tokensOfMembers members ++ [closeObject]).foldlM step
          ⟨.separator, .object (m :: before) :: frames⟩ := hm
      _ = deliver (.object (before.reverse ++ m :: members)) frames := by
        rw [hrest, List.reverse_cons, List.append_assoc, List.singleton_append]

theorem delivers_scalar {j : Json} (h : tokens j = [.scalar j]) : Delivers j := fun frames => by
  rw [h, List.foldlM_cons]
  exact bind_pure (deliver j frames)

/-- Each value is delivered, the parts of arrays and objects first. -/
theorem delivers {j : Json} (hj : IsWritable j) : Delivers j := by
  induction hj with
  | @array items h ih =>
    intro frames
    cases items with
    | nil =>
      rw [tokens, List.foldlM_cons]
      exact bind_pure (deliver (.array []) frames)
    | cons j items =>
      have hfirst := foldlM_tokens (ih j List.mem_cons_self) (tokensOfItems items ++ [closeArray])
        (.array [] :: frames)
      rw [tokens, List.foldlM_cons, List.append_assoc]
      calc (tokens j ++ (tokensOfItems items ++ [closeArray])).foldlM step
            ⟨.firstItem, .array [] :: frames⟩
        _ = (tokensOfItems items ++ [closeArray]).foldlM step
            ⟨.separator, .array [j] :: frames⟩ := (foldlM_firstItem j _ _).trans hfirst
        _ = deliver (.array (j :: items)) frames :=
          foldlM_tokensOfItems (fun i hi => ih i (List.mem_cons_of_mem _ hi)) [j] frames
  | @object members hn h ih =>
    intro frames
    cases members with
    | nil =>
      rw [tokens, List.foldlM_cons]
      exact bind_pure (deliver (.object []) frames)
    | cons m members =>
      have hfirst := foldlM_tokensOfMember (ih m List.mem_cons_self)
        (tokensOfMembers members ++ [closeObject]) [] frames
      rw [tokens, List.foldlM_cons, List.append_assoc]
      calc (tokensOfMember m ++ (tokensOfMembers members ++ [closeObject])).foldlM step
            ⟨.firstName, .object [] :: frames⟩
        _ = (tokensOfMembers members ++ [closeObject]).foldlM step
            ⟨.separator, .object [m] :: frames⟩ := (foldlM_firstName m _ _).trans hfirst
        _ = deliver (.object (m :: members)) frames :=
          foldlM_tokensOfMembers (fun i hi => ih i (List.mem_cons_of_mem _ hi)) [m] frames
  | _ => exact delivers_scalar (by rw [tokens])

end Parse

theorem ofTokens?_tokens {j : Json} (hj : IsWritable j) : ofTokens? (tokens j) = some j := by
  rw [ofTokens?, Parse.initial, Parse.delivers hj []]
  rfl

/-- A layout reads back to its value. -/
theorem parse?_pretty {j : Json} (hj : IsWritable j) : parse? j.pretty = some j := by
  have htokens := Token.readFrom_write hj 0 Token.ends_nil
  rw [List.append_nil] at htokens
  have hread : Token.ofChars? (write 0 j) = some (tokens j) := by
    rw [Token.ofChars?, htokens]
    simp [Token.readFrom, Token.finish]
  rw [parse?, pretty, String.toList_ofList, hread]
  exact ofTokens?_tokens hj

end ScriptSandbox.Json
