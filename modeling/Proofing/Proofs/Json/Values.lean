import Mathlib.Algebra.Group.Int.Defs
import Proofing.Json.Decode
import Proofing.Proofs.Json.Members
import Proofing.Proofs.Json.Texts
/-
  Proofing — values are read as they were written.

  * A whole number of 64 bits is read digit by digit, up to what closes it
    (`scalar?_int`);
  * `Raw.ofJson` is the tree that a value is read as, and `Json.Exact` says that
    the value has no other numbers than those: `parse?_compact`;
  * `Json.Plain` says that the tree has the value again, `Json.Legible` both at
    once: `Json.parse?_compact`.
-/
namespace Proofing

namespace Raw

open Text (Source)
open Json (commas quote)

/-! ## Whole numbers -/

/-- What can follow a value: nothing, or what goes on with the list or the object that it is in. -/
inductive Closes : Source → Prop
  | ends : Closes []
  | comma (rest : Source) : Closes (some ',' :: rest)
  | bracket (rest : Source) : Closes (some ']' :: rest)
  | brace (rest : Source) : Closes (some '}' :: rest)

/-- The digit that a character stands for. -/
def digitOf (c : Char) : Nat :=
  c.toNat - '0'.toNat

theorem range_of_isDigit {c : Char} (h : c.isDigit = true) : '0' ≤ c ∧ c ≤ '9' := by
  simp only [Char.isDigit, Bool.and_eq_true, decide_eq_true_eq] at h
  exact h

theorem digit?_of_isDigit {c : Char} (h : c.isDigit = true) :
    digit? (some c) = some (digitOf c) := by
  simp [digit?, digitOf, range_of_isDigit h]

theorem isDigit_toDigits (n : Nat) : ∀ c ∈ Nat.toDigits 10 n, c.isDigit = true :=
  fun _ hc => Nat.isDigit_of_mem_toDigits (by decide) (by decide) hc

theorem digits_append {cs : List Char} (h : ∀ c ∈ cs, c.isDigit = true) {rest : Source}
    (hr : Closes rest) : digits (cs.map some ++ rest) = (cs.map digitOf, rest) := by
  induction cs with
  | nil => cases hr <;> rfl
  | cons c cs ih =>
    obtain ⟨hc, hcs⟩ := List.forall_mem_cons.1 h
    rw [List.map_cons, List.cons_append, digits, digit?_of_isDigit hc, ih hcs, List.map_cons]

/-- No zero stands in front of other digits. -/
theorem head?_toDigits {n : Nat} (h : 0 < n) :
    ((Nat.toDigits 10 n).map digitOf).head? ≠ some 0 := by
  induction n using Nat.strongRecOn with
  | ind n ih =>
    by_cases hn : n < 10
    · have small : ∀ n : Fin 10, 0 < n.val → digitOf (Nat.digitChar n) ≠ 0 := by decide
      rw [Nat.toDigits_of_lt_base hn]
      simpa using small ⟨n, hn⟩ h
    · have hdiv : 0 < n / 10 := by omega
      have front := ih (n / 10) (by omega) hdiv
      rw [Nat.toDigits_of_base_le (by decide) (by omega), List.map_append]
      cases hds : (Nat.toDigits 10 (n / 10)).map digitOf with
      | nil => exact absurd (List.map_eq_nil_iff.1 hds) Nat.toDigits_ne_nil
      | cons d ds => rw [hds] at front; exact front

theorem foldl_ge (ds : List Nat) (s : Nat) : s ≤ ds.foldl (fun s d => s * 10 + d) s := by
  induction ds generalizing s with
  | nil => exact Nat.le_refl s
  | cons d ds ih => exact Nat.le_trans (by omega) (ih (s * 10 + d))

theorem leading_eq {ds : List Nat} {s : Nat}
    (h : ds.foldl (fun s d => s * 10 + d) s < UInt64.size) :
    Numeral.leading s ds = (ds.foldl (fun s d => s * 10 + d) s, 0) := by
  induction ds generalizing s with
  | nil => rfl
  | cons d ds ih =>
    rw [List.foldl_cons] at h ⊢
    have hnext : s * 10 + d < UInt64.size := Nat.lt_of_le_of_lt (foldl_ge ds _) h
    rw [Numeral.leading, if_pos hnext, ih h]

theorem leading_toDigits {n : Nat} (h : n < UInt64.size) :
    Numeral.leading 0 ((Nat.toDigits 10 n).map digitOf) = (n, 0) := by
  have hvalue : ((Nat.toDigits 10 n).map digitOf).foldl (fun s d => s * 10 + d) 0 = n := by
    rw [List.foldl_map]
    simpa only [Nat.ofDigitChars_eq_foldl, digitOf, Nat.mul_comm 10] using
      @Nat.ofDigitChars_ten_toDigits n
  rw [leading_eq (by rw [hvalue]; exact h), hvalue]

/-- The digits of a number, with its sign. -/
theorem numeral?_toDigits (negative : Bool) (n : Nat) {rest : Source} (hr : Closes rest) :
    numeral? ((if negative then [some '-'] else []) ++ ((Nat.toDigits 10 n).map some ++ rest)) =
      some (⟨negative, (Nat.toDigits 10 n).map digitOf, none, none⟩, rest) := by
  have isDigit := isDigit_toDigits n
  have hdigits : digits? ((Nat.toDigits 10 n).map some ++ rest) =
      some ((Nat.toDigits 10 n).map digitOf, rest) := by
    rw [digits?, digits_append isDigit hr]
    cases h : (Nat.toDigits 10 n).map digitOf with
    | nil => exact absurd (List.map_eq_nil_iff.1 h) Nat.toDigits_ne_nil
    | cons d ds => rfl
  have hzero : ¬ (((Nat.toDigits 10 n).map digitOf).head? = some 0 ∧
      ((Nat.toDigits 10 n).map digitOf).length ≠ 1) := by
    rintro ⟨hhead, hlen⟩
    rcases Nat.eq_zero_or_pos n with rfl | hn
    · exact hlen rfl
    · exact head?_toDigits hn hhead
  have hend : fraction? rest = some (none, rest) ∧ exponent? rest = some (none, rest) := by
    cases hr <;> exact ⟨rfl, rfl⟩
  have hsign : ∀ c ∈ Nat.toDigits 10 n, c ≠ '-' := by
    rintro c hc rfl
    exact absurd (isDigit '-' hc) (by decide)
  generalize (Nat.toDigits 10 n).map digitOf = ds at hdigits hzero ⊢
  cases negative with
  | true => simp [numeral?, hdigits, hzero, hend]
  | false =>
    cases h : Nat.toDigits 10 n with
    | nil => exact absurd h Nat.toDigits_ne_nil
    | cons c cs =>
      have hc : c ≠ '-' := hsign c (h ▸ List.mem_cons_self)
      rw [h, List.map_cons, List.cons_append] at hdigits
      simp [numeral?, hc, hdigits, hzero, hend]

/-- What is written of a number: its digits, behind a sign if it is negative. -/
theorem toList_toString (n : Int) :
    (toString n).toList = (if n < 0 then ['-'] else []) ++ Nat.toDigits 10 n.natAbs := by
  cases n with
  | ofNat m =>
    have htext : toString (Int.ofNat m) = toString m := rfl
    rw [htext, Nat.toString_eq_ofList_toDigits, String.toList_ofList]
    simp
  | negSucc m =>
    have htext : toString (Int.negSucc m) = "-" ++ toString (m + 1) := rfl
    rw [htext, Nat.toString_eq_ofList_toDigits, String.toList_append, String.toList_ofList]
    simp [Int.negSucc_lt_zero]

/-- The value of a numeral of 64 bits. -/
theorem value?_toDigits {n : Int} (low : -2 ^ 63 ≤ n) (high : n < 2 ^ 64) :
    Numeral.value? ⟨decide (n < 0), (Nat.toDigits 10 n.natAbs).map digitOf, none, none⟩ =
      some (.int n) := by
  have hsize : n.natAbs < UInt64.size := by
    change _ < 2 ^ 64
    omega
  simp only [Numeral.value?, leading_toDigits hsize, decide_eq_true_eq]
  split
  · rename_i hneg
    rw [if_pos (by change 0 < n.natAbs ∧ n.natAbs ≤ 2 ^ 63; omega)]
    congr 2
    omega
  · congr 2
    omega

/-- The first character of a value that is written. -/
def Begins (c : Char) : Prop :=
  c.isDigit = true ∨ c ∈ ['-', 'n', 't', 'f', '"', '[', '{']

theorem begins_toString (n : Int) : ∃ c cs, (toString n).toList = c :: cs ∧
    (c.isDigit = true ∨ c = '-') := by
  rw [toList_toString]
  split
  · exact ⟨'-', _, rfl, .inr rfl⟩
  · cases h : Nat.toDigits 10 n.natAbs with
    | nil => exact absurd h Nat.toDigits_ne_nil
    | cons c cs =>
      have hc : c ∈ Nat.toDigits 10 n.natAbs := h ▸ List.mem_cons_self
      exact ⟨c, cs, rfl, .inl (isDigit_toDigits _ c hc)⟩

/-- What begins a value is neither a blank nor a closing bracket. -/
theorem Begins.not_mem {c : Char} (h : Begins c) : c ∉ [' ', '\n', '\t', '\r', ']', '}'] := by
  intro hc
  simp only [List.mem_cons, List.not_mem_nil, or_false] at hc
  rcases hc with rfl | rfl | rfl | rfl | rfl | rfl <;> exact absurd h (by unfold Begins; decide)

theorem scalar?_numeral {c : Char} (h : c.isDigit = true ∨ c = '-') (rest : Source) :
    scalar? (some c :: rest) =
      (numeral? (some c :: rest)).map fun p => (number p.1.value?, p.2) := by
  have apart : c ∉ ['n', 't', 'f', '"'] := by
    intro hc
    simp only [List.mem_cons, List.not_mem_nil, or_false] at hc
    rcases hc with rfl | rfl | rfl | rfl <;> exact absurd h (by decide)
  simp only [List.mem_cons, List.not_mem_nil, or_false, not_or] at apart
  rw [scalar?] <;> simp [apart]

/-- **A whole number of 64 bits is read as it was written.** -/
theorem scalar?_int {n : Int} (low : -2 ^ 63 ≤ n) (high : n < 2 ^ 64) {rest : Source}
    (hr : Closes rest) :
    scalar? ((toString n).toList.map some ++ rest) = some (.number (some (.int n)), rest) := by
  have hread : numeral? ((toString n).toList.map some ++ rest) =
      some (⟨decide (n < 0), (Nat.toDigits 10 n.natAbs).map digitOf, none, none⟩, rest) := by
    rw [toList_toString, ← numeral?_toDigits (decide (n < 0)) n.natAbs hr]
    split <;> simp [*]
  obtain ⟨c, cs, htext, hc⟩ := begins_toString n
  rw [htext, List.map_cons, List.cons_append] at hread ⊢
  rw [scalar?_numeral hc, hread, Option.map_some, value?_toDigits low high]

end Raw

/-! ## Values -/

mutual

/-- Every number of the value is a whole number of 64 bits. -/
def Json.Exact : Json → Prop
  | .int n => -2 ^ 63 ≤ n ∧ n < 2 ^ 64
  | .float _ => False
  | .arr items => ExactItems items
  | .obj ms => ExactMembers ms
  | .null | .bool _ | .str _ => True

def Json.ExactItems : List Json → Prop
  | [] => True
  | v :: rest => v.Exact ∧ ExactItems rest

def Json.ExactMembers : List (String × Json) → Prop
  | [] => True
  | (_, v) :: rest => v.Exact ∧ ExactMembers rest

end

namespace Raw

open Text (Source)
open Json (chars charsOfItems charsOfMembers commas quote)

mutual

/-- The tree that a value is read as. -/
def ofJson : Json → Raw
  | .null => .null
  | .bool b => .bool b
  | .int n => .number (some (.int n))
  | .float x => .number (some (.float x))
  | .str s => .str (some s)
  | .arr items => .arr (ofItems items)
  | .obj ms => .obj (ofMembers ms)

def ofItems : List Json → List Raw
  | [] => []
  | v :: rest => ofJson v :: ofItems rest

def ofMembers : List (String × Json) → List (Option String × Raw)
  | [] => []
  | (k, v) :: rest => (some k, ofJson v) :: ofMembers rest

end

theorem begins_chars {j : Json} (h : j.Exact) : ∃ c cs, chars j = c :: cs ∧ Begins c := by
  cases j with
  | null => exact ⟨'n', _, rfl, .inr (by decide)⟩
  | bool b => cases b <;> exact ⟨_, _, rfl, .inr (by decide)⟩
  | int n =>
    obtain ⟨c, cs, htext, hc⟩ := begins_toString n
    exact ⟨c, cs, htext, hc.imp id fun e => by simp [e]⟩
  | float x => exact absurd h id
  | str s => exact ⟨'"', _, rfl, .inr (by decide)⟩
  | arr items => exact ⟨'[', _, rfl, .inr (by decide)⟩
  | obj ms => exact ⟨'{', _, rfl, .inr (by decide)⟩

theorem value?_scalar {c : Char} (h : c ∉ [' ', '\n', '\t', '\r', '[', '{']) (fuel : Nat)
    (rest : Source) : value? (fuel + 1) (some c :: rest) = scalar? (some c :: rest) := by
  simp only [List.mem_cons, List.not_mem_nil, or_false, not_or] at h
  rw [value?, skipBlanks_cons (by simp [h])]
  split
  all_goals simp_all

theorem length_chars {j : Json} (h : j.Exact) : 0 < (chars j).length := by
  obtain ⟨c, cs, hj, -⟩ := begins_chars h
  rw [hj]
  exact Nat.succ_pos _

theorem value?_int {n : Int} (h : (Json.int n).Exact) (fuel : Nat) {rest : Source}
    (hr : Closes rest) : value? (fuel + 1) ((chars (.int n)).map some ++ rest) =
      some (.number (some (.int n)), rest) := by
  obtain ⟨c, cs, htext, hc⟩ := begins_toString n
  have hread := scalar?_int h.1 h.2 hr
  have hchars : chars (.int n) = c :: cs := htext
  have plain : c ∉ [' ', '\n', '\t', '\r', '[', '{'] := by
    intro hm
    simp only [List.mem_cons, List.not_mem_nil, or_false] at hm
    rcases hm with rfl | rfl | rfl | rfl | rfl | rfl <;> exact absurd hc (by decide)
  rw [htext] at hread
  rw [hchars, List.map_cons, List.cons_append] at *
  rw [value?_scalar plain, hread]

theorem value?_brackets {src src' rest : Source} {fuel : Nat} {items : List Raw} {c : Char}
    (hsrc : src = some c :: src') (hc : Begins c) (h : items? fuel src = some (items, rest)) :
    value? (fuel + 1) (some '[' :: src) = some (.arr items, rest) := by
  have plain := hc.not_mem
  simp only [List.mem_cons, List.not_mem_nil, or_false, not_or] at plain
  subst hsrc
  rw [value?, skipBlanks_cons (by decide)]
  simp only [skipBlanks_cons (c := c) (by simp [plain])]
  split
  · rename_i e
    exact absurd (Option.some.inj (List.cons.inj e).1) plain.2.2.2.2.1
  · rw [h]
    rfl

theorem value?_braces {src src' rest : Source} {fuel : Nat} {ms : List (Option String × Raw)}
    (hsrc : src = some '"' :: src') (h : members? fuel src = some (ms, rest)) :
    value? (fuel + 1) (some '{' :: src) = some (.obj ms, rest) := by
  subst hsrc
  rw [value?, skipBlanks_cons (by decide)]
  simp only [skipBlanks_cons (c := '"') (by decide)]
  change (members? fuel _).map _ = _
  rw [h]
  rfl

theorem items?_last {src rest : Source} {fuel : Nat} {v : Raw}
    (h : value? fuel src = some (v, some ']' :: rest)) :
    items? (fuel + 1) src = some ([v], rest) := by
  rw [items?, h]
  simp only [skipBlanks_cons (c := ']') (by decide)]

theorem items?_more {src rest rest' : Source} {fuel : Nat} {v : Raw} {items : List Raw}
    (h : value? fuel src = some (v, some ',' :: rest)) (more : items? fuel rest = some (items, rest')) :
    items? (fuel + 1) src = some (v :: items, rest') := by
  rw [items?, h]
  simp only [skipBlanks_cons (c := ',') (by decide), more]
  rfl

theorem members?_last {src rest : Source} {fuel : Nat} {k : String} {v : Raw}
    (h : value? fuel src = some (v, some '}' :: rest)) :
    members? (fuel + 1) ((quote k).map some ++ some ':' :: src) = some ([(some k, v)], rest) := by
  rw [members?, key?_quote]
  simp only [h, skipBlanks_cons (c := '}') (by decide)]

theorem members?_more {src rest rest' : Source} {fuel : Nat} {k : String} {v : Raw}
    {ms : List (Option String × Raw)} (h : value? fuel src = some (v, some ',' :: rest))
    (more : members? fuel rest = some (ms, rest')) :
    members? (fuel + 1) ((quote k).map some ++ some ':' :: src) =
      some ((some k, v) :: ms, rest') := by
  rw [members?, key?_quote]
  simp only [h, skipBlanks_cons (c := ',') (by decide), more]
  rfl

theorem commas_cons {p q : List Char} {pieces : List (List Char)} (tail : Source) :
    (commas (p :: q :: pieces)).map some ++ tail =
      p.map some ++ some ',' :: ((commas (q :: pieces)).map some ++ tail) := by
  simp [commas]

theorem begins_items {v : Json} (h : v.Exact) (items : List Json) (rest : Source) :
    ∃ c tail, (commas (charsOfItems (v :: items))).map some ++ rest = some c :: tail ∧ Begins c := by
  obtain ⟨c, cs, hv, hc⟩ := begins_chars h
  cases items with
  | nil => exact ⟨c, cs.map some ++ rest, by simp [charsOfItems, commas, hv], hc⟩
  | cons w items => exact ⟨c, _, by rw [charsOfItems, hv, charsOfItems, commas_cons]; rfl, hc⟩

theorem quote_members (m : String × Json) (ms : List (String × Json)) (rest : Source) :
    ∃ tail, (commas (charsOfMembers (m :: ms))).map some ++ rest = some '"' :: tail := by
  cases ms with
  | nil => exact ⟨_, by rw [charsOfMembers, charsOfMembers, commas]; rfl⟩
  | cons w ms => exact ⟨_, by rw [charsOfMembers, charsOfMembers, commas_cons]; rfl⟩

mutual

/-- A value is read up to what closes it, if there is fuel for two calls a character. -/
theorem value?_chars : ∀ (j : Json), j.Exact → ∀ (fuel : Nat), 2 * (chars j).length ≤ fuel + 1 →
    ∀ rest : Source, Closes rest →
      value? (fuel + 1) ((chars j).map some ++ rest) = some (ofJson j, rest)
  | .null, _, fuel, _, rest, _ => value?_scalar (by decide) fuel _
  | .bool b, _, fuel, _, rest, _ => by cases b <;> exact value?_scalar (by decide) fuel _
  | .int n, h, fuel, _, rest, hr => value?_int h fuel hr
  | .float _, h, _, _, _, _ => absurd h id
  | .str s, _, fuel, _, rest, _ => value?_quote fuel s rest
  | .arr [], _, fuel, _, rest, _ => rfl
  | .arr (v :: items), h, fuel, hf, rest, _ => by
    obtain ⟨fuel, rfl⟩ : ∃ k, fuel = k + 2 := ⟨fuel - 2, by simp [chars] at hf; omega⟩
    have hread := items?_chars (v :: items) (List.cons_ne_nil _ _) h fuel
      (by simp [chars] at hf ⊢; omega) rest
    have split : (chars (.arr (v :: items))).map some ++ rest =
        some '[' :: ((commas (charsOfItems (v :: items))).map some ++ some ']' :: rest) := by
      simp [chars]
    obtain ⟨c, tail, hbegin, hc⟩ := begins_items h.1 items (some ']' :: rest)
    rw [split]
    exact value?_brackets hbegin hc hread
  | .obj [], _, fuel, _, rest, _ => rfl
  | .obj (m :: ms), h, fuel, hf, rest, hr => by
    obtain ⟨fuel, rfl⟩ : ∃ k, fuel = k + 2 := ⟨fuel - 2, by simp [chars] at hf; omega⟩
    have hread := members?_chars (m :: ms) (List.cons_ne_nil _ _) h fuel
      (by simp [chars] at hf ⊢; omega) rest
    have split : (chars (.obj (m :: ms))).map some ++ rest =
        some '{' :: ((commas (charsOfMembers (m :: ms))).map some ++ some '}' :: rest) := by
      simp [chars]
    obtain ⟨tail, hbegin⟩ := quote_members m ms (some '}' :: rest)
    rw [split]
    exact value?_braces hbegin hread

theorem items?_chars : ∀ (items : List Json), items ≠ [] → Json.ExactItems items → ∀ (fuel : Nat),
    2 * (commas (charsOfItems items)).length ≤ fuel + 1 → ∀ rest : Source,
      items? (fuel + 2) ((commas (charsOfItems items)).map some ++ some ']' :: rest) =
        some (ofItems items, rest)
  | [v], _, h, fuel, hf, rest => items?_last (value?_chars v h.1 fuel hf _ (.bracket rest))
  | v :: w :: items, _, h, fuel, hf, rest => by
    have hv := length_chars h.1
    simp only [charsOfItems, commas, List.length_append, List.length_cons] at hf
    obtain ⟨fuel, rfl⟩ : ∃ k, fuel = k + 1 := ⟨fuel - 1, by omega⟩
    have hread := value?_chars v h.1 (fuel + 1) (by omega)
    have hnext := items?_chars (w :: items) (List.cons_ne_nil _ _) h.2 fuel
      (by simp only [charsOfItems]; omega) rest
    exact (congrArg _ (commas_cons _)).trans (items?_more (hread _ (.comma _)) hnext)

theorem members?_chars : ∀ (ms : List (String × Json)), ms ≠ [] → Json.ExactMembers ms →
    ∀ (fuel : Nat), 2 * (commas (charsOfMembers ms)).length ≤ fuel + 1 → ∀ rest : Source,
      members? (fuel + 2) ((commas (charsOfMembers ms)).map some ++ some '}' :: rest) =
        some (ofMembers ms, rest)
  | [(k, v)], _, h, fuel, hf, rest => by
    simp only [charsOfMembers, commas, List.length_append, List.length_cons] at hf ⊢
    have hread := value?_chars v h.1 fuel (by omega) _ (.brace rest)
    rw [List.map_append, List.append_assoc]
    exact members?_last hread
  | (k, v) :: m :: ms, _, h, fuel, hf, rest => by
    have hv := length_chars h.1
    simp only [charsOfMembers, commas, List.length_append, List.length_cons] at hf
    obtain ⟨fuel, rfl⟩ : ∃ k, fuel = k + 1 := ⟨fuel - 1, by omega⟩
    have hread := value?_chars v h.1 (fuel + 1) (by omega)
    have hnext := members?_chars (m :: ms) (List.cons_ne_nil _ _) h.2 fuel
      (by simp only [charsOfMembers]; omega) rest
    refine (congrArg _ ((commas_cons _).trans ?_)).trans (members?_more (hread _ (.comma _)) hnext)
    rw [List.map_append, List.append_assoc]
    rfl

end

/-- **The text of a value is read as its tree.** -/
theorem parse?_compact {j : Json} (h : j.Exact) :
    parse? (.ofString (Json.compact j)) = some (ofJson j) := by
  have hread := value?_chars j h (2 * ((chars j).map some).length + 1) (by simp; omega) [] .ends
  rw [List.append_nil] at hread
  rw [Source.ofString, Json.compact, String.toList_ofList, parse?, hread]
  rfl

/-- An object whose values are texts. -/
def texts (ms : Members String) : Json :=
  .obj (ms.map fun m => (m.1, .str m.2))

theorem exact_texts (ms : Members String) : (texts ms).Exact := by
  induction ms with
  | nil => trivial
  | cons m ms ih => exact ⟨trivial, ih⟩

theorem ofJson_texts (ms : Members String) :
    ofJson (texts ms) = .obj (ms.map fun m => (some m.1, .str (some m.2))) := by
  have members : ofMembers (ms.map fun m => (m.1, .str m.2)) =
      ms.map fun m => (some m.1, .str (some m.2)) := by
    induction ms with
    | nil => rfl
    | cons m ms ih => rw [List.map_cons, ofMembers, ih]; rfl
  exact congrArg Raw.obj members

/-- An object of texts is read as it was written. -/
theorem parse?_texts (ms : Members String) :
    parse? (.ofString (Json.compact (texts ms))) =
      some (.obj (ms.map fun m => (some m.1, .str (some m.2)))) := by
  rw [parse?_compact (exact_texts ms), ofJson_texts]

end Raw

/-! ## Taking the value -/

mutual

/-- The value has all of its parts in its tree: no brackets more than `depth` deep, and each object
    holds its members in their order. -/
def Json.Plain (depth : Nat) : Json → Prop
  | .arr items => 0 < depth ∧ PlainItems (depth - 1) items
  | .obj ms => 0 < depth ∧ Members.ofList ms = ms ∧ PlainMembers (depth - 1) ms
  | .null | .bool _ | .int _ | .float _ | .str _ => True

def Json.PlainItems (depth : Nat) : List Json → Prop
  | [] => True
  | v :: rest => v.Plain depth ∧ PlainItems depth rest

def Json.PlainMembers (depth : Nat) : List (String × Json) → Prop
  | [] => True
  | (_, v) :: rest => v.Plain depth ∧ PlainMembers depth rest

end

namespace Raw

mutual

theorem toJson?_ofJson : ∀ (j : Json) (depth : Nat), j.Plain depth →
    toJson? depth (ofJson j) = some j
  | .null, _, _ | .bool _, _, _ | .int _, _, _ | .float _, _, _ | .str _, _, _ => rfl
  | .arr items, depth, h => by
    rw [ofJson, toJson?, if_neg (Nat.pos_iff_ne_zero.1 h.1), itemsToJson?_ofItems items _ h.2]
    rfl
  | .obj ms, depth, h => by
    rw [ofJson, toJson?, if_neg (Nat.pos_iff_ne_zero.1 h.1), membersToJson?_ofMembers ms _ h.2.2,
      Option.map_some, h.2.1]

theorem itemsToJson?_ofItems : ∀ (items : List Json) (depth : Nat), Json.PlainItems depth items →
    itemsToJson? depth (ofItems items) = some items
  | [], _, _ => rfl
  | v :: items, depth, h => by
    rw [ofItems, itemsToJson?, toJson?_ofJson v depth h.1, itemsToJson?_ofItems items depth h.2]
    rfl

theorem membersToJson?_ofMembers : ∀ (ms : List (String × Json)) (depth : Nat),
    Json.PlainMembers depth ms → membersToJson? depth (ofMembers ms) = some ms
  | [], _, _ => rfl
  | (k, v) :: ms, depth, h => by
    rw [ofMembers, membersToJson?, toJson?_ofJson v depth h.1,
      membersToJson?_ofMembers ms depth h.2]
    rfl

end

end Raw

namespace Json
variable {ms : List (String × Json)}

theorem exactMembers_iff : ExactMembers ms ↔ ∀ m ∈ ms, m.2.Exact := by
  induction ms with
  | nil => simp [ExactMembers]
  | cons m ms ih => rw [ExactMembers, ih, List.forall_mem_cons]

theorem plainMembers_iff {depth : Nat} : PlainMembers depth ms ↔ ∀ m ∈ ms, m.2.Plain depth := by
  induction ms with
  | nil => simp [PlainMembers]
  | cons m ms ih => rw [PlainMembers, ih, List.forall_mem_cons]

theorem exact_nat {n : Nat} (h : n < 2 ^ 64) : (nat n).Exact := by
  change -2 ^ 63 ≤ (n : Int) ∧ (n : Int) < 2 ^ 64
  omega

/-- The value is read from its text: its numbers are whole ones of 64 bits, and its brackets no more
    than `depth` deep. -/
def Legible (depth : Nat) (j : Json) : Prop :=
  j.Exact ∧ j.Plain depth

theorem legible_null (depth : Nat) : Legible depth null := ⟨trivial, trivial⟩

theorem legible_bool (depth : Nat) (b : Bool) : Legible depth (bool b) := ⟨trivial, trivial⟩

theorem legible_str (depth : Nat) (s : String) : Legible depth (str s) := ⟨trivial, trivial⟩

theorem legible_nat (depth : Nat) {n : Nat} (h : n < 2 ^ 64) : Legible depth (nat n) :=
  ⟨exact_nat h, trivial⟩

theorem legible_word32 (depth : Nat) (n : UInt32) : Legible depth (Coded.encode n) :=
  legible_nat depth (by have := n.toNat_lt; omega)

theorem legible_word64 (depth : Nat) (n : UInt64) : Legible depth (Coded.encode n) :=
  legible_nat depth n.toNat_lt

theorem legible_option {α : Type} [Coded α] {depth : Nat}
    (h : ∀ a : α, Legible depth (Coded.encode a)) :
    ∀ o : Option α, Legible depth (Coded.encode o)
  | none => legible_null depth
  | some a => h a

theorem legible_ofMembers {depth : Nat} (h : ∀ m ∈ ms, Legible depth m.2) :
    Legible (depth + 1) (ofMembers ms) where
  left := exactMembers_iff.2 fun m hm => (h m (Members.mem_of_mem_ofList hm)).1
  right := ⟨Nat.succ_pos depth, Members.ofList_ofList ms,
    plainMembers_iff.2 fun m hm => (h m (Members.mem_of_mem_ofList hm)).2⟩

/-- **A value is read as it was written.** -/
theorem parse?_compact {j : Json} (h : Legible Raw.maxDepth j) : parse? (compact j) = some j := by
  rw [parse?, Raw.parse?_compact h.1, Option.bind_some, Raw.toJson?_ofJson j _ h.2]

end Json

end Proofing
