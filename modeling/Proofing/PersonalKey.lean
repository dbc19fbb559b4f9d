import Proofing.Json.Decode
import Proofing.Password
import Proofing.Text.Blank
/-
  Proofing — personal keys.

  A personal key is shown to the user once and opens the sealed data when the
  password is lost.  It is four groups of four letters or digits, and is read
  without regard to case or surrounding blanks (`PersonalKey.parse`).  New keys
  use a set of 32 characters that are hard to mistake for each other
  (`PersonalKey.draw`).
-/
namespace Proofing

namespace PersonalKey

/-- An ASCII letter in upper case, or a digit. -/
def isMark (c : Char) : Bool :=
  ('0' ≤ c && c ≤ '9') || ('A' ≤ c && c ≤ 'Z')

/-- The groups between hyphens. -/
def groups : List Char → List (List Char)
  | [] => [[]]
  | '-' :: rest => [] :: groups rest
  | c :: rest =>
    match groups rest with
    | g :: gs => (c :: g) :: gs
    | [] => [[c]]

/-- Four groups of four letters or digits. -/
def isWellFormed (cs : List Char) : Bool :=
  let gs := groups cs
  gs.length == 4 && gs.all fun g => g.length == 4 && g.all isMark

end PersonalKey

/-- A key that opens the sealed data in place of the password. -/
structure PersonalKey where
  text : String
  wellFormed : PersonalKey.isWellFormed text.toList = true
  deriving DecidableEq

namespace PersonalKey

/-- The key that a text names, in any case and with blanks around it. -/
def parse (raw : String) : Except FormatError PersonalKey :=
  let text := String.ofList (Text.raise (Text.trim raw.toList))
  if h : isWellFormed text.toList then .ok ⟨text, h⟩ else .error .personalKey

instance : Coded PersonalKey := ⟨fun k => .str k.text, Decode.text parse⟩

/-- What is shown in place of a key. -/
def redacted : String := "PersonalKey(<redacted>)"

/-- The key as a password. -/
def password (k : PersonalKey) : Password :=
  ⟨k.text⟩

/-! ## New keys -/

/-- Digits and letters without `I`, `L`, `O` and `U`. -/
def alphabet : List Char := "0123456789ABCDEFGHJKMNPQRSTVWXYZ".toList

/-- The character with a number below 32. -/
def mark (n : Fin 32) : Char :=
  alphabet.getD n.val '0'

/-- The text with groups of four characters, hyphens between them. -/
def hyphenated : List Char → List Char
  | a :: b :: c :: d :: e :: rest => a :: b :: c :: d :: '-' :: hyphenated (e :: rest)
  | cs => cs

/-- The text of the key that sixteen draws make. -/
def drawn (draws : Fin 16 → Fin 32) : List Char :=
  hyphenated ((List.finRange 16).map fun i => mark (draws i))

theorem isMark_mark (n : Fin 32) : isMark (mark n) = true := by
  revert n; decide

theorem mark_ne_hyphen (n : Fin 32) : mark n ≠ '-' := by
  revert n; decide

theorem groups_cons {c : Char} (h : c ≠ '-') (cs : List Char) :
    groups (c :: cs) = match groups cs with
      | g :: gs => (c :: g) :: gs
      | [] => [[c]] := by
  rw [groups]
  exact h

theorem isWellFormed_drawn (draws : Fin 16 → Fin 32) : isWellFormed (drawn draws) = true := by
  have h : (List.finRange 16).map (fun i => mark (draws i)) =
      [mark (draws 0), mark (draws 1), mark (draws 2), mark (draws 3), mark (draws 4),
        mark (draws 5), mark (draws 6), mark (draws 7), mark (draws 8), mark (draws 9),
        mark (draws 10), mark (draws 11), mark (draws 12), mark (draws 13), mark (draws 14),
        mark (draws 15)] := by
    simp [List.finRange, List.ofFn, Fin.foldr, Fin.foldr.loop]
  simp only [drawn, h, hyphenated, isWellFormed, groups_cons (mark_ne_hyphen _), groups]
  simp [isMark_mark]

/-- The key that sixteen draws from the alphabet make. -/
def draw (draws : Fin 16 → Fin 32) : PersonalKey where
  text := String.ofList (drawn draws)
  wellFormed := by simpa using isWellFormed_drawn draws

/-- Four groups of four characters of the alphabet. -/
def isIssued (k : PersonalKey) : Bool :=
  (groups k.text.toList).all fun g => g.all (· ∈ alphabet)

end PersonalKey

end Proofing
