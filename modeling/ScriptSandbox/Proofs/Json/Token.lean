import Mathlib.Data.List.TakeDrop
import Mathlib.Data.List.TakeWhile
import Mathlib.Tactic.SplitIfs
import ScriptSandbox.Json.Layout
import ScriptSandbox.Json.Token

/-! # Tokens of written values

A value that is written somewhere is read there as its tokens, if what comes next ends a bare word.
Every escape is read as the code point that it was written for.
-/

namespace ScriptSandbox.Json

def AreCodePoints (points : List Nat) : Prop := ∀ n ∈ points, n < 0x110000

/-- The texts of the value are made of code points, and its numbers are written as numbers. -/
inductive IsWritable : Json → Prop
  | null : IsWritable null
  | bool (b : Bool) : IsWritable (bool b)
  | number {digits : List Char} (h : Token.isNumber digits) : IsWritable (number digits)
  | text {points : List Nat} (h : AreCodePoints points) : IsWritable (text points)
  | array {items : List Json} (h : ∀ j ∈ items, IsWritable j) : IsWritable (array items)
  | object {members : List (List Nat × Json)} (hn : ∀ m ∈ members, AreCodePoints m.1)
      (h : ∀ m ∈ members, IsWritable m.2) : IsWritable (object members)

mutual

/-- The tokens of a value. -/
def tokens : Json → List Token
  | array [] => [.openArray, .closeArray]
  | array (j :: items) => .openArray :: (tokens j ++ tokensOfItems items ++ [.closeArray])
  | object [] => [.openObject, .closeObject]
  | object (m :: members) =>
    .openObject :: (tokensOfMember m ++ tokensOfMembers members ++ [.closeObject])
  | null => [.scalar null]
  | bool b => [.scalar (bool b)]
  | number digits => [.scalar (number digits)]
  | text points => [.scalar (text points)]

/-- The tokens of the items behind the first one. -/
def tokensOfItems : List Json → List Token
  | [] => []
  | j :: items => .comma :: (tokens j ++ tokensOfItems items)

def tokensOfMember : List Nat × Json → List Token
  | (name, j) => .scalar (text name) :: .colon :: tokens j

def tokensOfMembers : List (List Nat × Json) → List Token
  | [] => []
  | m :: members => .comma :: (tokensOfMember m ++ tokensOfMembers members)

end

namespace Token

variable {place next : Place} {c : Char} {cs rest run : List Char} {ts : List Token} {t : Token}
  {acc : List Nat} {n : Nat}

theorem readFrom_cons (h : step place c = some (ts, next)) (cs : List Char) :
    readFrom place (c :: cs) = (readFrom next cs).map (ts ++ ·) := by
  rw [readFrom, h]
  rfl

/-- Nothing comes next, or something that ends a bare word. -/
def Ends (rest : List Char) : Prop := ∀ c ∈ rest.head?, endsBare c

theorem ends_nil : Ends [] := nofun

theorem ends_cons (h : endsBare c) : Ends (c :: cs) := by
  rintro _ ⟨⟩
  exact h

/-! ### Between tokens -/

theorem readFrom_mark (h : mark? c = some t) (hs : isSpace c = false) (cs : List Char) :
    readFrom .between (c :: cs) = (readFrom .between cs).map (t :: ·) := by
  have hstep : step .between c = some ([t], .between) := by simp [step, start, h, hs]
  rw [readFrom_cons hstep]
  rfl

theorem readFrom_space (h : isSpace c) (cs : List Char) :
    readFrom .between (c :: cs) = readFrom .between cs := by
  have hstep : step .between c = some ([], .between) := by simp [step, start, h]
  rw [readFrom_cons hstep]
  simp

theorem readFrom_newLine (depth : Nat) (rest : List Char) :
    readFrom .between (newLine depth ++ rest) = readFrom .between rest := by
  rw [newLine, List.cons_append, readFrom_space (by decide)]
  generalize 2 * depth = k
  induction k with
  | zero => rfl
  | succ k ih => rw [List.replicate_succ, List.cons_append, readFrom_space (by decide), ih]

theorem ends_newLine (depth : Nat) (rest : List Char) : Ends (newLine depth ++ rest) :=
  ends_cons (by decide)

/-! ### Bare words -/

/-- What ends a bare word is read as if nothing came before it. -/
theorem readFrom_bare_of_ends (h : ofBare? run.reverse = some t) (hrest : Ends rest) :
    readFrom (.bare run) rest = (readFrom .between rest).map (t :: ·) := by
  cases rest with
  | nil =>
    simp only [readFrom, finish, h]
    rfl
  | cons c cs =>
    have hstep : step (.bare run) c = some (t :: (start c).1, (start c).2) := by
      simp [step, h, hrest c rfl]
    have hbetween : step .between c = some ((start c).1, (start c).2) := rfl
    rw [readFrom_cons hstep, readFrom_cons hbetween, Option.map_map]
    rfl

theorem readFrom_bare (h : ∀ c ∈ cs, endsBare c = false) (run rest : List Char) :
    readFrom (.bare run) (cs ++ rest) = readFrom (.bare (cs.reverse ++ run)) rest := by
  induction cs generalizing run with
  | nil => rfl
  | cons c cs ih =>
    have hstep : step (.bare run) c = some ([], .bare (c :: run)) := by
      simp [step, h c List.mem_cons_self]
    rw [List.cons_append, readFrom_cons hstep, ih fun d hd => h d (List.mem_cons_of_mem _ hd)]
    simp

theorem start_of_endsBare_eq_false (h : endsBare c = false) : start c = ([], .bare [c]) := by
  simp only [endsBare, decide_eq_false_iff_not, not_or, Bool.not_eq_true,
    Option.isSome_eq_false_iff, Option.isNone_iff_eq_none] at h
  simp [start, h.1, h.2.1, h.2.2]

theorem readFrom_word (hne : cs ≠ []) (h : ∀ c ∈ cs, endsBare c = false)
    (ht : ofBare? cs = some t) (hrest : Ends rest) :
    readFrom .between (cs ++ rest) = (readFrom .between rest).map (t :: ·) := by
  cases cs with
  | nil => exact absurd rfl hne
  | cons c cs =>
    have hstep : step .between c = some ([], .bare [c]) :=
      congrArg some (start_of_endsBare_eq_false (h c List.mem_cons_self))
    rw [List.cons_append, readFrom_cons hstep,
      readFrom_bare fun d hd => h d (List.mem_cons_of_mem _ hd),
      readFrom_bare_of_ends (by simpa using ht) hrest, Option.map_map]
    rfl

theorem endsBare_eq_false_of_all (h : cs.all (!endsBare ·)) : ∀ c ∈ cs, endsBare c = false := by
  simpa using h

/-! ### Numbers -/

/-- The characters of numbers. -/
def isNumberChar (c : Char) : Bool := c.isDigit || c ∈ ['-', '+', '.', 'e', 'E']

theorem endsBare_of_isNumberChar (h : isNumberChar c) : endsBare c = false := by
  have hends : [' ', '\t', '\n', '\r', '[', ']', '{', '}', ':', ',', '"'].all
      (!isNumberChar ·) := rfl
  by_contra hc
  rw [Bool.not_eq_false] at hc
  have hmem : c ∈ [' ', '\t', '\n', '\r', '[', ']', '{', '}', ':', ',', '"'] := by
    simp only [endsBare, isSpace, mark?, decide_eq_true_eq] at hc
    split at hc <;> simp_all [or_assoc]
  have hc' := List.all_eq_true.1 hends c hmem
  rw [h] at hc'
  cases hc'

theorem eq_append_of_digits? (h : digits? cs = some rest) :
    ∃ ds, cs = ds ++ rest ∧ ds ≠ [] ∧ ∀ c ∈ ds, c.isDigit := by
  unfold digits? at h
  rw [List.span_eq_takeWhile_dropWhile] at h
  split at h
  · cases h
  · rename_i ds rest' hne heq
    cases h
    refine ⟨cs.takeWhile Char.isDigit, ?_, ?_, fun c hc => List.mem_takeWhile_imp hc⟩
    · rw [← (Prod.mk.inj heq).2, List.takeWhile_append_dropWhile]
    · rw [(Prod.mk.inj heq).1]
      exact hne

/-- Of characters of numbers, all but a rest. -/
theorem all_isNumberChar_of_digits? (h : digits? cs = some rest) (hrest : rest.all isNumberChar) :
    cs ≠ [] ∧ cs.all isNumberChar := by
  obtain ⟨ds, rfl, hne, hds⟩ := eq_append_of_digits? h
  refine ⟨by simp [hne], ?_⟩
  rw [List.all_append, hrest, Bool.and_true, List.all_eq_true]
  exact fun c hc => by simp [isNumberChar, hds c hc]

theorem all_isNumberChar_of_isExponent (h : isExponent cs) : cs.all isNumberChar := by
  cases cs with
  | nil => rfl
  | cons mark cs =>
    simp only [isExponent, decide_eq_true_eq] at h
    have hmark : isNumberChar mark := by
      rcases h.1 with rfl | rfl <;> decide
    rw [List.all_cons, hmark, Bool.true_and]
    have hsigned := h.2
    split at hsigned
    · exact Bool.and_eq_true_iff.2 ⟨rfl, (all_isNumberChar_of_digits? hsigned rfl).2⟩
    · exact Bool.and_eq_true_iff.2 ⟨rfl, (all_isNumberChar_of_digits? hsigned rfl).2⟩
    · exact (all_isNumberChar_of_digits? hsigned rfl).2

theorem all_isNumberChar_of_fraction? (h : fraction? cs = some rest)
    (hrest : rest.all isNumberChar) : cs.all isNumberChar := by
  unfold fraction? at h
  split at h
  · exact Bool.and_eq_true_iff.2 ⟨rfl, (all_isNumberChar_of_digits? h hrest).2⟩
  · cases h
    exact hrest

theorem all_isNumberChar_of_whole? (h : whole? cs = some rest) (hrest : rest.all isNumberChar) :
    cs ≠ [] ∧ cs.all isNumberChar := by
  unfold whole? at h
  split at h
  · cases h
    exact ⟨List.cons_ne_nil _ _, Bool.and_eq_true_iff.2 ⟨rfl, hrest⟩⟩
  · exact all_isNumberChar_of_digits? h hrest

/-- What comes behind the sign of a number. -/
theorem all_isNumberChar_of_unsigned (hrest : (whole? cs).bind fraction? = some rest)
    (h : isExponent rest) : cs ≠ [] ∧ cs.all isNumberChar := by
  obtain ⟨rest', hwhole, hfraction⟩ := Option.bind_eq_some_iff.1 hrest
  exact all_isNumberChar_of_whole? hwhole
    (all_isNumberChar_of_fraction? hfraction (all_isNumberChar_of_isExponent h))

theorem all_isNumberChar_of_isNumber (h : isNumber cs) : cs ≠ [] ∧ cs.all isNumberChar := by
  unfold isNumber at h
  dsimp only at h
  split at h
  · rename_i hrest
    split at hrest
    · have hall := (all_isNumberChar_of_unsigned hrest h).2
      exact ⟨List.cons_ne_nil _ _, Bool.and_eq_true_iff.2 ⟨rfl, hall⟩⟩
    · exact all_isNumberChar_of_unsigned hrest h
  · cases h

theorem ofBare?_of_isNumber (h : isNumber cs) : ofBare? cs = some (scalar (.number cs)) := by
  have hnull : isNumber "null".toList = false := by decide
  have htrue : isNumber "true".toList = false := by decide
  have hfalse : isNumber "false".toList = false := by decide
  unfold ofBare?
  split_ifs with h₁ h₂ h₃
  · rw [h₁, hnull] at h
    cases h
  · rw [h₂, htrue] at h
    cases h
  · rw [h₃, hfalse] at h
    cases h
  · rfl

/-! ### Quoted texts -/

theorem hexValue?_hexDigit (n : Nat) : hexValue? (hexDigit n) = some (n % 16) := by
  have hall : ∀ d < 16, hexValue? (Nat.digitChar d) = some d := by decide
  exact hall _ (Nat.mod_lt _ (by decide))

theorem readFrom_unit (acc : List Nat) (count value n : Nat) (cs : List Char) (hcount : count < 3) :
    readFrom (.unit acc count value) (hexDigit n :: cs) =
      readFrom (.unit acc (count + 1) (16 * value + n % 16)) cs := by
  have hstep : step (.unit acc count value) (hexDigit n) =
      some ([], .unit acc (count + 1) (16 * value + n % 16)) := by
    simp [step, hexValue?_hexDigit, Nat.ne_of_lt hcount]
  rw [readFrom_cons hstep]
  simp

/-- The escape of a code unit is read as that unit. -/
theorem readFrom_unitEscape (h : n < 0x10000) (acc : List Nat) (cs : List Char) :
    readFrom (.quoted acc) (unitEscape n ++ cs) = readFrom (.quoted (n :: acc)) cs := by
  have hvalue : 16 * (16 * (16 * (16 * 0 + n / 0x1000 % 16) + n / 0x100 % 16) + n / 0x10 % 16) +
      n % 16 = n := by omega
  have hback : step (.quoted acc) '\\' = some ([], .escaped acc) := rfl
  have hu : step (.escaped acc) 'u' = some ([], .unit acc 0 0) := rfl
  have hlast : ∀ value, step (.unit acc 3 value) (hexDigit n) =
      some ([], .quoted ((16 * value + n % 16) :: acc)) := fun value => by
    simp [step, hexValue?_hexDigit]
  simp only [unitEscape, List.cons_append, List.nil_append]
  rw [readFrom_cons hback, readFrom_cons hu, readFrom_unit _ _ _ _ _ (by decide),
    readFrom_unit _ _ _ _ _ (by decide), readFrom_unit _ _ _ _ _ (by decide),
    readFrom_cons (hlast _), hvalue]
  simp

/-- An escape of one character is read as the code point that it was written for. -/
theorem readFrom_escape (h : escape? c = some n) (hu : c ≠ 'u') (acc : List Nat)
    (cs : List Char) : readFrom (.quoted acc) ('\\' :: c :: cs) = readFrom (.quoted (n :: acc)) cs := by
  have hback : step (.quoted acc) '\\' = some ([], .escaped acc) := rfl
  have hstep : step (.escaped acc) c = some ([], .quoted (n :: acc)) := by simp [step, h, hu]
  rw [readFrom_cons hback, readFrom_cons hstep]
  simp

theorem isValidChar_of_not_half (h : n < 0x110000) (hh : isHighHalf n = false)
    (hl : isLowHalf n = false) : n.isValidChar := by
  simp only [isHighHalf, isLowHalf, decide_eq_false_iff_not] at hh hl
  unfold Nat.isValidChar
  omega

theorem readFrom_plain (h : n.isValidChar) (hlt : 0x20 ≤ n) (hq : n ≠ 0x22) (hb : n ≠ 0x5C)
    (acc : List Nat) (cs : List Char) :
    readFrom (.quoted acc) (Char.ofNat n :: cs) = readFrom (.quoted (n :: acc)) cs := by
  have hnat : (Char.ofNat n).toNat = n := by
    rw [Char.ofNat, dif_pos h]
    rfl
  have hne : ∀ d : Char, n ≠ d.toNat → Char.ofNat n ≠ d := by
    rintro d hd rfl
    exact hd hnat.symm
  have hstep : step (.quoted acc) (Char.ofNat n) = some ([], .quoted (n :: acc)) := by
    simp [step, hne '"' hq, hne '\\' hb, hnat, Nat.not_lt.2 hlt]
  rw [readFrom_cons hstep]
  simp

theorem readFrom_writePoint (h : n < 0x110000) (acc : List Nat) (cs : List Char) :
    readFrom (.quoted acc) (writePoint n ++ cs) = readFrom (.quoted (n :: acc)) cs := by
  unfold writePoint
  split_ifs with hq hb h₈ hc ha hd h₉ hu
  · exact hq ▸ readFrom_escape rfl (by decide) acc cs
  · exact hb ▸ readFrom_escape rfl (by decide) acc cs
  · exact h₈ ▸ readFrom_escape rfl (by decide) acc cs
  · exact hc ▸ readFrom_escape rfl (by decide) acc cs
  · exact ha ▸ readFrom_escape rfl (by decide) acc cs
  · exact hd ▸ readFrom_escape rfl (by decide) acc cs
  · exact h₉ ▸ readFrom_escape rfl (by decide) acc cs
  · refine readFrom_unitEscape ?_ acc cs
    simp only [isHighHalf, isLowHalf, decide_eq_true_eq] at hu
    omega
  · simp only [not_or, Bool.not_eq_true, Nat.not_lt] at hu
    exact readFrom_plain (isValidChar_of_not_half h hu.2.1 hu.2.2) hu.1 hq hb acc cs

theorem readFrom_points {points : List Nat} (h : AreCodePoints points) (acc : List Nat)
    (rest : List Char) :
    readFrom (.quoted acc) (points.flatMap writePoint ++ '"' :: rest) =
      (readFrom .between rest).map (scalar (.text (acc.reverse ++ points)) :: ·) := by
  induction points generalizing acc with
  | nil =>
    have hquote : step (.quoted acc) '"' = some ([scalar (.text acc.reverse)], .between) := rfl
    rw [List.flatMap_nil, List.nil_append, readFrom_cons hquote, List.append_nil]
    rfl
  | cons n points ih =>
    rw [List.flatMap_cons, List.append_assoc, readFrom_writePoint (h n List.mem_cons_self),
      ih fun m hm => h m (List.mem_cons_of_mem _ hm)]
    simp

theorem readFrom_writeText {points : List Nat} (h : AreCodePoints points) (rest : List Char) :
    readFrom .between (writeText points ++ rest) =
      (readFrom .between rest).map (scalar (.text points) :: ·) := by
  have hquote : step .between '"' = some ([], .quoted []) := rfl
  have hsplit : writeText points ++ rest = '"' :: (points.flatMap writePoint ++ '"' :: rest) := by
    simp [writeText]
  rw [hsplit, readFrom_cons hquote, readFrom_points h, Option.map_map]
  rfl

/-! ### Values -/

theorem ends_writeItems (depth : Nat) (items : List Json) (hrest : Ends rest) :
    Ends (writeItems depth items ++ rest) := by
  cases items with
  | nil => rwa [writeItems]
  | cons j items => exact ends_cons (by decide)

theorem ends_writeMembers (depth : Nat) (members : List (List Nat × Json)) (hrest : Ends rest) :
    Ends (writeMembers depth members ++ rest) := by
  cases members with
  | nil => rwa [writeMembers]
  | cons m members => exact ends_cons (by decide)

/-- The items behind the first one, if each is read as its tokens. -/
theorem readFrom_writeItems {items : List Json} (depth : Nat)
    (h : ∀ j ∈ items, ∀ rest, Ends rest → readFrom .between (write depth j ++ rest) =
      (readFrom .between rest).map (tokens j ++ ·)) (hrest : Ends rest) :
    readFrom .between (writeItems depth items ++ rest) =
      (readFrom .between rest).map (tokensOfItems items ++ ·) := by
  induction items with
  | nil => simp [writeItems, tokensOfItems]
  | cons j items ih =>
    have hj := h j List.mem_cons_self (writeItems depth items ++ rest)
      (ends_writeItems depth items hrest)
    rw [writeItems, tokensOfItems, List.cons_append, readFrom_mark (t := .comma) rfl rfl,
      List.append_assoc, List.append_assoc, readFrom_newLine, hj,
      ih fun i hi => h i (List.mem_cons_of_mem _ hi)]
    simp [Function.comp_def]

theorem readFrom_writeMember {m : List Nat × Json} (depth : Nat) (hn : AreCodePoints m.1)
    (h : readFrom .between (write depth m.2 ++ rest) =
      (readFrom .between rest).map (tokens m.2 ++ ·)) :
    readFrom .between (writeMember depth m ++ rest) =
      (readFrom .between rest).map (tokensOfMember m ++ ·) := by
  obtain ⟨name, j⟩ := m
  rw [writeMember, tokensOfMember, List.append_assoc, readFrom_writeText hn, List.cons_append,
    readFrom_mark (t := .colon) rfl rfl, List.cons_append, readFrom_space rfl, h]
  simp [Function.comp_def]

theorem readFrom_writeMembers {members : List (List Nat × Json)} (depth : Nat)
    (hn : ∀ m ∈ members, AreCodePoints m.1)
    (h : ∀ m ∈ members, ∀ rest, Ends rest → readFrom .between (write depth m.2 ++ rest) =
      (readFrom .between rest).map (tokens m.2 ++ ·)) (hrest : Ends rest) :
    readFrom .between (writeMembers depth members ++ rest) =
      (readFrom .between rest).map (tokensOfMembers members ++ ·) := by
  induction members with
  | nil => simp [writeMembers, tokensOfMembers]
  | cons m members ih =>
    have hm := h m List.mem_cons_self (writeMembers depth members ++ rest)
      (ends_writeMembers depth members hrest)
    rw [writeMembers, tokensOfMembers, List.cons_append, readFrom_mark (t := .comma) rfl rfl,
      List.append_assoc, List.append_assoc, readFrom_newLine,
      readFrom_writeMember depth (hn m List.mem_cons_self) hm,
      ih (fun i hi => hn i (List.mem_cons_of_mem _ hi)) fun i hi =>
        h i (List.mem_cons_of_mem _ hi)]
    simp [Function.comp_def]

/-- A written value is read as its tokens. -/
theorem readFrom_write {j : Json} (hj : IsWritable j) (depth : Nat) (hrest : Ends rest) :
    readFrom .between (write depth j ++ rest) = (readFrom .between rest).map (tokens j ++ ·) := by
  induction hj generalizing depth rest with
  | null =>
    rw [write, tokens]
    exact readFrom_word (by decide) (endsBare_eq_false_of_all rfl) rfl hrest
  | bool b =>
    cases b with
    | false =>
      rw [write, tokens]
      exact readFrom_word (by decide) (endsBare_eq_false_of_all rfl) rfl hrest
    | true =>
      rw [write, tokens]
      exact readFrom_word (by decide) (endsBare_eq_false_of_all rfl) rfl hrest
  | number h =>
    obtain ⟨hne, hall⟩ := all_isNumberChar_of_isNumber h
    refine readFrom_word hne (fun c hc => ?_) (ofBare?_of_isNumber h) hrest
    exact endsBare_of_isNumberChar (List.all_eq_true.1 hall c hc)
  | text h => exact readFrom_writeText h rest
  | @array items h ih =>
    cases items with
    | nil =>
      rw [write, tokens, List.cons_append, readFrom_mark (t := .openArray) rfl rfl,
        List.cons_append, List.nil_append, readFrom_mark (t := .closeArray) rfl rfl]
      simp [Function.comp_def]
    | cons j items =>
      have hend := ends_newLine depth (']' :: rest)
      have hitems := readFrom_writeItems (depth + 1)
        (fun i hi _ => ih i (List.mem_cons_of_mem _ hi) (depth + 1)) hend
      have hfirst := ih j List.mem_cons_self (depth + 1) (ends_writeItems (depth + 1) items hend)
      simp only [write, tokens, List.cons_append, List.append_assoc, List.nil_append]
      rw [readFrom_mark (t := .openArray) rfl rfl, readFrom_newLine, hfirst, hitems,
        readFrom_newLine, readFrom_mark (t := .closeArray) rfl rfl]
      simp [Function.comp_def]
  | @object members hn h ih =>
    cases members with
    | nil =>
      rw [write, tokens, List.cons_append, readFrom_mark (t := .openObject) rfl rfl,
        List.cons_append, List.nil_append, readFrom_mark (t := .closeObject) rfl rfl]
      simp [Function.comp_def]
    | cons m members =>
      have hend := ends_newLine depth ('\x7d' :: rest)
      have hmembers := readFrom_writeMembers (depth + 1)
        (fun i hi => hn i (List.mem_cons_of_mem _ hi))
        (fun i hi _ => ih i (List.mem_cons_of_mem _ hi) (depth + 1)) hend
      have hfirst := readFrom_writeMember (depth + 1) (hn m List.mem_cons_self)
        (ih m List.mem_cons_self (depth + 1) (ends_writeMembers (depth + 1) members hend))
      simp only [write, tokens, List.cons_append, List.append_assoc, List.nil_append]
      rw [readFrom_mark (t := .openObject) rfl rfl, readFrom_newLine, hfirst, hmembers,
        readFrom_newLine, readFrom_mark (t := .closeObject) rfl rfl]
      simp [Function.comp_def]

end Token

end ScriptSandbox.Json
