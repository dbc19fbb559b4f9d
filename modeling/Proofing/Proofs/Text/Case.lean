import Mathlib.Tactic.Common
import Proofing.Proofs.Text.Trimming
/-
  Proofing — letter case.

  * `toNat_toLower` and `toNat_toUpper` say what changing the case of a character
    does to its number;
  * the case makes no difference to what is raised (`raise_lower`), nor to what is
    a blank (`isBlank_toLower`);
  * so texts that are `Alike`, but for the case of letters and for blanks around
    them, are trimmed and raised to the same text (`Alike.raise_trim`).
-/
namespace Proofing.Text

theorem toNat_toLower (c : Char) : c.toLower.toNat =
    if 0x41 ≤ c.toNat ∧ c.toNat ≤ 0x5A then c.toNat + 32 else c.toNat := by
  unfold Char.toLower
  simp only [ge_iff_le, UInt32.le_iff_toNat_le]
  split <;> rename_i h
  · have range : 0x41 ≤ c.toNat ∧ c.toNat ≤ 0x5A := h
    rw [if_pos range]
    change (c.toNat + 32) % 2 ^ 32 = c.toNat + 32
    omega
  · exact (if_neg h).symm

theorem toNat_toUpper (c : Char) : c.toUpper.toNat =
    if 0x61 ≤ c.toNat ∧ c.toNat ≤ 0x7A then c.toNat - 32 else c.toNat := by
  unfold Char.toUpper
  simp only [UInt32.le_iff_toNat_le]
  split <;> rename_i h
  · have range : 0x61 ≤ c.toNat ∧ c.toNat ≤ 0x7A := h
    rw [if_pos range]
    have gap : ('A'.val - 'a'.val).toNat = 2 ^ 32 - 32 := by decide
    have sum := UInt32.toNat_add c.val ('A'.val - 'a'.val)
    rw [gap] at sum
    refine Eq.trans sum ?_
    change (c.toNat + 4294967264) % 4294967296 = c.toNat - 32
    omega
  · exact (if_neg h).symm

/-- Raising does not ask for the case. -/
theorem toUpper_toLower (c : Char) : c.toLower.toUpper = c.toUpper := by
  have lower := toNat_toLower c
  have upper := toNat_toUpper c
  have upper' := toNat_toUpper c.toLower
  refine Char.toNat_inj.1 ?_
  split at lower <;> split at upper <;> split at upper' <;> omega

theorem toUpper_toUpper (c : Char) : c.toUpper.toUpper = c.toUpper := by
  have upper := toNat_toUpper c
  have upper' := toNat_toUpper c.toUpper
  refine Char.toNat_inj.1 ?_
  split at upper <;> split at upper' <;> omega

/-- A blank is no letter, and the same in any case. -/
theorem isBlank_toLower (c : Char) : isBlank c.toLower = isBlank c := by
  have lower := toNat_toLower c
  rw [Bool.eq_iff_iff]
  simp only [isBlank, Bool.or_eq_true, Bool.and_eq_true, decide_eq_true_eq, beq_iff_eq]
  split at lower <;> omega

theorem raise_lower (cs : List Char) : raise (lower cs) = raise cs := by
  rw [raise, lower, List.map_map]
  exact List.map_congr_left fun c _ => toUpper_toLower c

theorem lower_trim (cs : List Char) : lower (trim cs) = trim (lower cs) :=
  map_trim isBlank_toLower cs

/-! ## Texts that are alike -/

/-- Two texts differ in nothing but the case of letters and the blanks around them. -/
inductive Alike : List Char → List Char → Prop where
  | intro {before after before' after' cs ds : List Char} (case : lower cs = lower ds)
    (hb : ∀ c ∈ before, isBlank c = true) (ha : ∀ c ∈ after, isBlank c = true)
    (hb' : ∀ c ∈ before', isBlank c = true) (ha' : ∀ c ∈ after', isBlank c = true) :
    Alike (before ++ cs ++ after) (before' ++ ds ++ after')

/-- Texts that are alike become one text when they are trimmed and raised. -/
theorem Alike.raise_trim {t u : List Char} (h : Alike t u) : raise (trim t) = raise (trim u) := by
  cases h with
  | @intro before after before' after' cs ds case hb ha hb' ha' =>
    calc raise (trim (before ++ cs ++ after)) = raise (trim cs) := by rw [trim_surrounded hb ha]
      _ = raise (trim (lower cs)) := by rw [← lower_trim, raise_lower]
      _ = raise (trim (lower ds)) := by rw [case]
      _ = raise (trim ds) := by rw [← lower_trim, raise_lower]
      _ = raise (trim (before' ++ ds ++ after')) := by rw [trim_surrounded hb' ha']

end Proofing.Text
