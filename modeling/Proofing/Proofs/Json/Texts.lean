import Mathlib.Tactic.Common
import Proofing.Json.Printer
import Proofing.Json.Raw
/-
  Proofing — texts are read as they were written.

  Each character is one piece of a string literal (`literal?_escape`), and the
  pieces are the text (`scalar?_quote`, `key?_quote`), whatever characters it has.
-/
namespace Proofing.Raw

open Text (Source)
open Json (escape hexDigit quote)

/-- What is read of an escaped character. -/
def piece (c : Char) : Piece :=
  if c ∈ ['"', '\\', '\x08', '\x0c', '\n', '\r', '\t'] then .plain (some c)
  else if c.toNat < 0x20 then .unit c.toNat
  else .plain (some c)

theorem hexValue?_hexDigit {n : Nat} (h : n < 16) : hexValue? (some (hexDigit n)) = some n := by
  have all : ∀ n : Fin 16, hexValue? (some (hexDigit n)) = some n.val := by decide
  exact all ⟨n, h⟩

theorem unit?_hexDigits {n : Nat} (h : n < 256) :
    unit? (some '0') (some '0') (some (hexDigit (n / 16))) (some (hexDigit (n % 16))) = some n := by
  have zero : hexValue? (some '0') = some 0 := rfl
  have high : hexValue? (some (hexDigit (n / 16))) = some (n / 16) := hexValue?_hexDigit (by omega)
  have low : hexValue? (some (hexDigit (n % 16))) = some (n % 16) := hexValue?_hexDigit (by omega)
  simp only [unit?, zero, high, low, Option.bind_eq_bind, Option.bind_some, pure]
  rw [Option.some.injEq]
  omega

/-- A character that stands for itself. -/
theorem literal?_plain {c : Char} (quote : c ≠ '"') (backslash : c ≠ '\\') (h : ¬ c.toNat < 0x20)
    (rest : Source) :
    literal? (some c :: rest) = (literal? rest).map fun p => (.plain (some c) :: p.1, p.2) := by
  rw [literal?]
  · simp [h]
  · simpa using quote
  · simp [backslash]
  · simp [backslash]
  · simp [backslash]

theorem literal?_escape (c : Char) (rest : Source) :
    literal? ((escape c).map some ++ rest) =
      (literal? rest).map fun p => (piece c :: p.1, p.2) := by
  unfold escape
  by_cases h : c ∈ ['"', '\\', '\x08', '\x0c', '\n', '\r', '\t']
  · rw [piece, if_pos h]
    simp only [List.mem_cons, List.not_mem_nil, or_false] at h
    rcases h with rfl | rfl | rfl | rfl | rfl | rfl | rfl <;> rfl
  · rw [piece, if_neg h]
    simp only [List.mem_cons, List.not_mem_nil, or_false, not_or] at h
    obtain ⟨h1, h2, h3, h4, h5, h6, h7⟩ := h
    simp only [if_neg h1, if_neg h2, if_neg h3, if_neg h4, if_neg h5, if_neg h6, if_neg h7]
    split
    · rename_i hc
      simp only [List.map_cons, List.map_nil, List.cons_append, List.nil_append]
      rw [literal?, unit?_hexDigits (by omega)]
    · rename_i hc
      exact literal?_plain h1 h2 hc rest

theorem characters?_piece (c : Char) (ps : List Piece) :
    characters? (piece c :: ps) = (characters? ps).map (c :: ·) := by
  have plain : characters? (.plain (some c) :: ps) = (characters? ps).map (c :: ·) := by
    simp only [characters?]
    cases characters? ps <;> rfl
  unfold piece
  split
  · exact plain
  · split
    · rename_i hc
      conv_lhs => unfold characters?
      rw [if_pos (Or.inl (by omega)), Char.ofNat_toNat]
    · exact plain

theorem literal?_escapes (cs : List Char) (rest : Source) :
    literal? ((cs.flatMap escape).map some ++ some '"' :: rest) = some (cs.map piece, rest) := by
  induction cs with
  | nil => rfl
  | cons c cs ih =>
    rw [List.flatMap_cons, List.map_append, List.append_assoc, literal?_escape, ih]
    rfl

theorem characters?_pieces (cs : List Char) : characters? (cs.map piece) = some cs := by
  induction cs with
  | nil => rfl
  | cons c cs ih => rw [List.map_cons, characters?_piece, ih]; rfl

theorem content?_pieces (s : String) : content? (s.toList.map piece) = some s := by
  rw [content?, characters?_pieces, Option.map_some, String.ofList_toList]

theorem quote_append (s : String) (rest : Source) :
    (quote s).map some ++ rest =
      some '"' :: ((s.toList.flatMap escape).map some ++ some '"' :: rest) := by
  simp [quote]

/-- **A string literal is read as the text that it was written for.** -/
theorem scalar?_quote (s : String) (rest : Source) :
    scalar? ((quote s).map some ++ rest) = some (.str (some s), rest) := by
  rw [quote_append, scalar?, literal?_escapes, Option.map_some, content?_pieces]

theorem skipBlanks_cons {c : Char} (h : c ∉ [' ', '\n', '\t', '\r']) (rest : Source) :
    skipBlanks (some c :: rest) = some c :: rest := by
  simp only [List.mem_cons, List.not_mem_nil, or_false, not_or] at h
  rw [skipBlanks] <;> simp [h]

theorem key?_quote (k : String) (rest : Source) :
    key? ((quote k).map some ++ some ':' :: rest) = some (some k, rest) := by
  rw [quote_append, key?, skipBlanks_cons (by decide)]
  simp only [literal?_escapes, skipBlanks_cons (c := ':') (by decide), content?_pieces]

theorem value?_quote (fuel : Nat) (s : String) (rest : Source) :
    value? (fuel + 1) ((quote s).map some ++ rest) = some (.str (some s), rest) := by
  have h := scalar?_quote s rest
  rw [quote_append] at h ⊢
  rw [value?]
  exact h

end Proofing.Raw
