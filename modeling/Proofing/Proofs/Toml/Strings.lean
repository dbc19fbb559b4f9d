import Mathlib.Data.List.Infix
import Mathlib.Tactic.Common
import Proofing.Toml.Printer
import Proofing.Toml.Text
/-
  Proofing — TOML strings are read as they were written.

  `stringChars` has four forms to choose from, and each is read back on its own:

  * `basic?_basicChars`, `literal?_append`: between one quote of either kind;
  * `longBasic?_longBasicChars`, `longLiteral?_append`: between three of them.  A quote
    of the string must not be taken for what closes it, nor the other way round:
    both readers look ahead far enough for that (`LooksAhead`) if no more than two
    quotes of the string stand in a row.  With escapes the writer sees to it
    (`not_prefix_longBasicChars`); without them it is asked first (`le_longestRun`);
  * `string?_stringChars`: whatever form is chosen, the string is what is read.
-/
namespace Proofing.Toml

variable {c : Char} {cs e rest w : List Char} {quotes : Nat}

/-- Characters are not the same if only one of them is of some kind. -/
theorem ne_of_kind {p : Char → Bool} {x : Char} (h : p c = true) (hx : p x = false) : c ≠ x := by
  rintro rfl
  rw [h] at hx
  cases hx

/-! ## Escapes -/

/-- An escape of one letter, or of four hexadecimal digits. -/
inductive Escape (c : Char) : List Char → Prop
  | letter {x : Char} (h : escaped? x = some c) : Escape c ['\\', x]
  | digits {x y : Char} (h : named? ['0', '0', x, y] = some c) :
    Escape c ['\\', 'u', '0', '0', x, y]

theorem hexValue?_upperDigit {n : Nat} (h : n < 16) :
    Raw.hexValue? (some (upperDigit n)) = some n := by
  have all : ∀ n : Fin 16, Raw.hexValue? (some (upperDigit n)) = some n.val := by decide
  exact all ⟨n, h⟩

theorem named?_upperDigits (h : c.toNat < 256) :
    named? ['0', '0', upperDigit (c.toNat / 16), upperDigit (c.toNat % 16)] = some c := by
  have zero : Raw.hexValue? (some '0') = some 0 := rfl
  have high := hexValue?_upperDigit (n := c.toNat / 16) (by omega)
  have low := hexValue?_upperDigit (n := c.toNat % 16) (by omega)
  have value : 16 * (c.toNat / 16) + c.toNat % 16 = c.toNat := by omega
  have valid : c.toNat.isValidChar := c.valid
  simp [named?, hexNumber?, zero, high, low, value, charOf?, valid]

theorem isCommentChar_of_not_isHidden (h : isHidden c = false) (broken : c ≠ '\n') :
    isCommentChar c = true := by
  grind [isHidden, isCommentChar]

/-- Any other character than a quotation mark is escaped, or stands for itself. -/
theorem escape_or_plain (quote : c ≠ '"') :
    Escape c ((escape? c).getD [c]) ∨ isPlain c = true ∧ (escape? c).getD [c] = [c] := by
  unfold escape?
  split
  case h_7 _ _ _ broken _ _ backslash =>
    split
    · rename_i hidden
      have low : c.toNat < 256 := by
        simp only [isHidden, Bool.or_eq_true, Bool.and_eq_true, decide_eq_true_eq, beq_iff_eq]
          at hidden
        omega
      exact .inl (.digits (named?_upperDigits low))
    · rename_i hidden
      have shown : isCommentChar c = true :=
        isCommentChar_of_not_isHidden (by simpa using hidden) broken
      have backslash : c ≠ '\\' := backslash
      exact .inr ⟨by simp [isPlain, shown, quote, backslash], rfl⟩
  all_goals exact .inl (.letter rfl)

/-! ## Between one quote of either kind -/

theorem basic?_plain (h : isPlain c = true) (rest : List Char) :
    basic? (c :: rest) = prepend c (basic? rest) := by
  have quote : c ≠ '"' := ne_of_kind h rfl
  have backslash : c ≠ '\\' := ne_of_kind h rfl
  rw [basic?, if_pos h] <;> simp_all

theorem basic?_escape (h : Escape c e) (rest : List Char) :
    basic? (e ++ rest) = prepend c (basic? rest) := by
  cases h with
  | @letter x h =>
    have short : x ≠ 'u' ∧ x ≠ 'U' := by constructor <;> rintro rfl <;> cases h
    simp only [List.cons_append, List.nil_append]
    rw [basic?, h, Option.bind_some] <;> simp_all
  | digits h =>
    simp only [List.cons_append, List.nil_append]
    rw [basic?, h, Option.bind_some]

theorem basic?_basicChars (cs rest : List Char) :
    basic? (basicChars cs ++ '"' :: rest) = some (cs, rest) := by
  induction cs with
  | nil => rfl
  | cons c cs ih =>
    rw [basicChars, List.flatMap_cons, ← basicChars, List.append_assoc]
    split
    · rename_i quote
      subst quote
      rw [basic?_escape (.letter rfl), ih]; rfl
    · rename_i quote
      rcases escape_or_plain quote with h | ⟨h, plain⟩
      · rw [basic?_escape h, ih]; rfl
      · rw [plain, List.singleton_append, basic?_plain h, ih]; rfl

theorem literal?_append (h : ∀ c ∈ cs, isLiteral c = true) (rest : List Char) :
    literal? (cs ++ '\'' :: rest) = some (cs, rest) := by
  induction cs with
  | nil => rfl
  | cons c cs ih =>
    obtain ⟨hc, hcs⟩ := List.forall_mem_cons.1 h
    have quote : c ≠ '\'' := ne_of_kind hc rfl
    rw [List.cons_append, literal?, if_pos hc, ih hcs]
    · rfl
    · exact quote

/-! ## Runs of a character -/

/-- A character is counted: the run that it ends, and the longest one so far. -/
def count (q : Char) : Nat × Nat → Char → Nat × Nat
  | (run, longest), c => if c = q then (run + 1, max (run + 1) longest) else (0, longest)

theorem longestRun_eq (q : Char) (cs : List Char) :
    longestRun q cs = (cs.foldl (count q) (0, 0)).2 :=
  rfl

theorem le_foldl_count (q : Char) (cs : List Char) (s : Nat × Nat) :
    s.2 ≤ (cs.foldl (count q) s).2 := by
  induction cs generalizing s with
  | nil => exact Nat.le_refl s.2
  | cons c cs ih =>
    have step : s.2 ≤ (count q s c).2 := by grind [count]
    exact Nat.le_trans step (ih _)

theorem foldl_replicate_fst (q : Char) (n : Nat) (s : Nat × Nat) :
    ((List.replicate n q).foldl (count q) s).1 = s.1 + n := by
  induction n generalizing s with
  | zero => rfl
  | succ n ih =>
    have step : (count q s q).1 = s.1 + 1 := by simp [count]
    rw [List.replicate_succ, List.foldl_cons, ih, step]
    omega

/-- The longest run is as long as any. -/
theorem le_longestRun {q : Char} {n : Nat} (h : List.replicate n q <:+: cs) :
    n ≤ longestRun q cs := by
  obtain ⟨before, after, rfl⟩ := h
  rw [longestRun_eq, List.foldl_append, List.foldl_append]
  refine Nat.le_trans ?_ (le_foldl_count q after _)
  cases n with
  | zero => exact Nat.zero_le _
  | succ n =>
    -- the last one of the run is counted with those in front of it
    have front := foldl_replicate_fst q n (before.foldl (count q) (0, 0))
    rw [List.replicate_succ', List.foldl_append, List.foldl_cons, List.foldl_nil, count, if_pos rfl]
    exact Nat.le_trans (by omega) (Nat.le_max_left ..)

theorem not_mem_of_longestRun {q : Char} (h : longestRun q cs = 0) : q ∉ cs := fun hq => by
  have one : 1 ≤ longestRun q cs := le_longestRun ((List.singleton_infix_iff q cs).2 hq)
  omega

/-! ## Between three quotes of either kind -/

theorem longBasic?_self (h : isPlain c = true ∨ c = '\n') (rest : List Char) :
    longBasic? false (c :: rest) = prepend c (longBasic? false rest) := by
  rcases h with h | rfl
  · have quote : c ≠ '"' := ne_of_kind h rfl
    have backslash : c ≠ '\\' := ne_of_kind h rfl
    have feed : c ≠ '\n' := ne_of_kind h rfl
    have back : c ≠ '\r' := ne_of_kind h rfl
    rw [longBasic?] <;> simp_all
  · rw [longBasic?, if_neg Bool.false_ne_true]

theorem longLiteral?_self (h : isHidden c = false) (quote : c ≠ '\'') (rest : List Char) :
    longLiteral? (c :: rest) = prepend c (longLiteral? rest) := by
  by_cases broken : c = '\n'
  · subst broken
    rw [longLiteral?]
  · have shown : isLiteral c = true := by
      simp [isLiteral, isCommentChar_of_not_isHidden h broken, quote]
    have others : c ≠ '\r' := by rintro rfl; cases h
    rw [longLiteral?, if_pos shown] <;> simp_all

theorem longBasic?_escape (h : Escape c e) (rest : List Char) :
    longBasic? false (e ++ rest) = prepend c (longBasic? false rest) := by
  cases h with
  | @letter x h =>
    have short : x ≠ 'u' ∧ x ≠ 'U' := by constructor <;> rintro rfl <;> cases h
    have inside : endsLine (x :: rest) = false := by
      unfold escaped? at h
      split at h <;> first | rfl | cases h
    simp only [List.cons_append, List.nil_append]
    rw [longBasic?, inside, if_neg Bool.false_ne_true, h, Option.bind_some] <;> simp_all
  | digits h =>
    simp only [List.cons_append, List.nil_append]
    rw [longBasic?, if_neg (by exact Bool.false_ne_true), h, Option.bind_some]

/-- How far a reader looks ahead at a quote: three of them close the string, up to two in front of
    them are a part of it, and so is one that no two others follow. -/
structure LooksAhead (q : Char) (read : List Char → Read (List Char)) : Prop where
  three {rest : List Char} (hr : rest.head? ≠ some q) :
    read (q :: q :: q :: rest) = some ([], rest)
  four {rest : List Char} (hr : rest.head? ≠ some q) :
    read (q :: q :: q :: q :: rest) = some ([q], rest)
  five (rest : List Char) : read (q :: q :: q :: q :: q :: rest) = some ([q, q], rest)
  inside {w : List Char} (hw : ¬ [q, q] <+: w) : read (q :: w) = prepend q (read w)

theorem looksAhead_longBasic : LooksAhead '"' (longBasic? false) where
  three hr := by rw [longBasic?] <;> rintro _ rfl <;> exact hr rfl
  four hr := by rw [longBasic?]; rintro _ rfl; exact hr rfl
  five rest := by rw [longBasic?]
  inside hw := by rw [longBasic?] <;> rintro _ rfl <;> exact hw ⟨_, rfl⟩

theorem looksAhead_longLiteral : LooksAhead '\'' longLiteral? where
  three hr := by rw [longLiteral?] <;> rintro _ rfl <;> exact hr rfl
  four hr := by rw [longLiteral?]; rintro _ rfl; exact hr rfl
  five rest := by rw [longLiteral?]
  inside hw := by rw [longLiteral?] <;> rintro _ rfl <;> exact hw ⟨_, rfl⟩

/-- A quote of the string is taken for a part of it, whatever follows up to the closing ones. -/
theorem LooksAhead.quote {q : Char} {read : List Char → Read (List Char)} (h : LooksAhead q read)
    (hw : ¬ [q, q] <+: w) (hr : rest.head? ≠ some q) :
    read (q :: (w ++ q :: q :: q :: rest)) = prepend q (read (w ++ q :: q :: q :: rest)) := by
  match w, hw with
  | [], _ =>
    rw [List.nil_append, h.four hr, h.three hr]
    rfl
  | [x], _ =>
    by_cases hx : x = q
    · subst hx
      rw [List.singleton_append, h.five, h.four hr]
      rfl
    · exact h.inside fun ⟨_, e⟩ => hx (List.cons.inj e).1.symm
  | x :: y :: w, hw =>
    refine h.inside fun ⟨_, e⟩ => hw ⟨w, ?_⟩
    obtain ⟨hx, e⟩ := List.cons.inj e
    obtain ⟨hy, -⟩ := List.cons.inj e
    rw [← hx, ← hy]
    rfl

/-- A character of a long string is escaped; or it is a quotation mark, of which no more than two
    are written in a row; or it stands for itself. -/
theorem longBasicChars_cons (quotes : Nat) (c : Char) (cs : List Char) :
    (∃ e, Escape c e ∧ longBasicChars quotes (c :: cs) = e ++ longBasicChars 0 cs) ∨
      (c = '"' ∧ quotes ≠ 2 ∧
        longBasicChars quotes (c :: cs) = '"' :: longBasicChars (quotes + 1) cs) ∨
      ((isPlain c = true ∨ c = '\n') ∧
        longBasicChars quotes (c :: cs) = c :: longBasicChars 0 cs) := by
  by_cases quote : c = '"'
  · subst quote
    by_cases h : quotes = 2
    · exact .inl ⟨['\\', '"'], .letter rfl, by simp [longBasicChars, h]⟩
    · exact .inr (.inl ⟨rfl, h, by simp [longBasicChars, h]⟩)
  · by_cases broken : c = '\n'
    · subst broken
      exact .inr (.inr ⟨.inr rfl, rfl⟩)
    · have next :
          longBasicChars quotes (c :: cs) = (escape? c).getD [c] ++ longBasicChars 0 cs := by
        rw [longBasicChars] <;> assumption
      rcases escape_or_plain quote with h | ⟨h, plain⟩
      · exact .inl ⟨_, h, next⟩
      · exact .inr (.inr ⟨.inl h, by rw [next, plain, List.singleton_append]⟩)

theorem Escape.head (h : Escape c e) : ∃ w, e = '\\' :: w := by
  cases h <;> exact ⟨_, rfl⟩

theorem prefix_longBasicChars (h : ['"'] <+: longBasicChars quotes cs) :
    quotes ≠ 2 ∧ ∃ cs', longBasicChars quotes cs = '"' :: longBasicChars (quotes + 1) cs' := by
  cases cs with
  | nil => cases List.prefix_nil.1 h
  | cons c cs =>
    rcases longBasicChars_cons quotes c cs with ⟨e, he, next⟩ | ⟨rfl, hne, next⟩ | ⟨hc, next⟩
    · obtain ⟨w, rfl⟩ := he.head
      rw [next] at h
      cases (List.cons_prefix_cons.1 h).1
    · exact ⟨hne, cs, next⟩
    · rw [next] at h
      obtain ⟨rfl, -⟩ := List.cons_prefix_cons.1 h
      rcases hc with hc | hc <;> cases hc

/-- The third quotation mark in a row is not written as it is. -/
theorem not_prefix_longBasicChars (h : 0 < quotes) (hle : quotes ≤ 2) :
    ¬ ['"', '"'] <+: longBasicChars quotes cs := by
  intro two
  obtain ⟨hne, cs', next⟩ := prefix_longBasicChars ((List.prefix_append ['"'] ['"']).trans two)
  rw [next] at two
  obtain ⟨hne', -⟩ := prefix_longBasicChars (List.cons_prefix_cons.1 two).2
  omega

theorem longBasic?_longBasicChars (hle : quotes ≤ 2) (hr : rest.head? ≠ some '"') :
    longBasic? false (longBasicChars quotes cs ++ '"' :: '"' :: '"' :: rest) = some (cs, rest) := by
  induction cs generalizing quotes with
  | nil => exact looksAhead_longBasic.three hr
  | cons c cs ih =>
    rcases longBasicChars_cons quotes c cs with ⟨e, h, next⟩ | ⟨rfl, hne, next⟩ | ⟨h, next⟩
    · rw [next, List.append_assoc, longBasic?_escape h, ih (by omega)]
      rfl
    · have hw : ¬ ['"', '"'] <+: longBasicChars (quotes + 1) cs :=
        not_prefix_longBasicChars (by omega) (by omega)
      rw [next, List.cons_append, looksAhead_longBasic.quote hw hr, ih (by omega)]
      rfl
    · rw [next, List.cons_append, longBasic?_self h, ih (by omega)]
      rfl

theorem longLiteral?_append (h : ∀ c ∈ cs, isHidden c = false) (runs : ¬ ['\'', '\'', '\''] <:+: cs)
    (hr : rest.head? ≠ some '\'') :
    longLiteral? (cs ++ '\'' :: '\'' :: '\'' :: rest) = some (cs, rest) := by
  induction cs with
  | nil => exact looksAhead_longLiteral.three hr
  | cons c cs ih =>
    obtain ⟨hc, hcs⟩ := List.forall_mem_cons.1 h
    have next := ih hcs fun inside => runs (inside.trans (List.suffix_cons c cs).isInfix)
    by_cases quote : c = '\''
    · subst quote
      have hw : ¬ ['\'', '\''] <+: cs := fun two =>
        runs (List.cons_prefix_cons.2 ⟨rfl, two⟩).isInfix
      rw [List.cons_append, looksAhead_longLiteral.quote hw hr, next]
      rfl
    · rw [List.cons_append, longLiteral?_self hc quote, next]
      rfl

/-! ## The line break in front of a long string -/

theorem newline?_cons {x : Char} (h : x ≠ '\n') (h' : x ≠ '\r') (rest : List Char) :
    newline? (x :: rest) = none := by
  rw [newline?] <;> simp [h, h']

/-- The line break that is put in front is dropped, and none other is. -/
theorem afterBreak_append (h : '\n' ∉ cs → newline? w = none) :
    afterBreak ((if '\n' ∈ cs then ['\n'] else []) ++ w) = w := by
  split
  · rfl
  · rw [List.nil_append, afterBreak, h ‹_›, Option.getD_none]

theorem newline?_longBasicChars (h : '\n' ∉ cs) (rest : List Char) :
    newline? (longBasicChars quotes cs ++ '"' :: rest) = none := by
  cases cs with
  | nil => rfl
  | cons c cs =>
    rcases longBasicChars_cons quotes c cs with ⟨e, he, next⟩ | ⟨rfl, hne, next⟩ | ⟨hc, next⟩
    · obtain ⟨w, rfl⟩ := he.head
      rw [next]; rfl
    · rw [next]; rfl
    · have plain : isPlain c = true := hc.resolve_right fun e => h (e ▸ List.mem_cons_self)
      rw [next]
      exact newline?_cons (ne_of_kind plain rfl) (ne_of_kind plain rfl) _

/-! ## All forms -/

theorem head_basicChars (cs : List Char) : ∀ x ∈ (basicChars cs).head?, x ≠ '"' := by
  cases cs with
  | nil => exact fun _ hx => nomatch hx
  | cons c cs =>
    rw [basicChars, List.flatMap_cons]
    split
    · simp
    · rename_i quote
      rcases escape_or_plain quote with h | ⟨-, plain⟩
      · obtain ⟨w, hw⟩ := h.head
        simp [hw]
      · simp [plain, quote]

theorem string?_basic (hr : rest.head? ≠ some '"') :
    string? ('"' :: basicChars cs ++ ['"'] ++ rest) = some (cs, rest) := by
  have text : '"' :: basicChars cs ++ ['"'] ++ rest = '"' :: (basicChars cs ++ '"' :: rest) := by
    simp
  have inside := basic?_basicChars cs rest
  have head := head_basicChars cs
  rw [text, string?, inside]
  -- it does not begin like a long string
  intro rest' e
  cases h : basicChars cs with
  | nil =>
    rw [h, List.nil_append] at e
    exact hr ((List.cons.inj e).2 ▸ rfl)
  | cons x w =>
    rw [h] at e head
    exact head x rfl (List.cons.inj e).1

theorem string?_literal (hne : cs ≠ []) (h : ∀ c ∈ cs, isLiteral c = true) (rest : List Char) :
    string? ('\'' :: cs ++ ['\''] ++ rest) = some (cs, rest) := by
  have text : '\'' :: cs ++ ['\''] ++ rest = '\'' :: (cs ++ '\'' :: rest) := by simp
  rw [text, string?, literal?_append h]
  intro rest' e
  match cs, hne with
  | c :: cs, _ =>
    obtain ⟨rfl, -⟩ := List.cons.inj e
    cases h _ List.mem_cons_self

theorem string?_longBasic (hr : rest.head? ≠ some '"') :
    string? (long '"' cs (longBasicChars 0 cs) ++ rest) = some (cs, rest) := by
  have text : long '"' cs (longBasicChars 0 cs) ++ rest = '"' :: '"' :: '"' ::
      ((if '\n' ∈ cs then ['\n'] else []) ++
        (longBasicChars 0 cs ++ '"' :: '"' :: '"' :: rest)) := by
    simp [long]
  rw [text, string?, afterBreak_append fun h => newline?_longBasicChars h _,
    longBasic?_longBasicChars (Nat.zero_le 2) hr]

theorem string?_longLiteral (h : ∀ c ∈ cs, isHidden c = false)
    (runs : ¬ ['\'', '\'', '\''] <:+: cs) (hr : rest.head? ≠ some '\'') :
    string? (long '\'' cs cs ++ rest) = some (cs, rest) := by
  have text : long '\'' cs cs ++ rest = '\'' :: '\'' :: '\'' ::
      ((if '\n' ∈ cs then ['\n'] else []) ++ (cs ++ '\'' :: '\'' :: '\'' :: rest)) := by
    simp [long]
  have start (whole : '\n' ∉ cs) : newline? (cs ++ '\'' :: '\'' :: '\'' :: rest) = none := by
    cases cs with
    | nil => rfl
    | cons c cs =>
      have hc := h c List.mem_cons_self
      exact newline?_cons (fun e => whole (e ▸ List.mem_cons_self)) (by rintro rfl; cases hc) _
  rw [text, string?, afterBreak_append start, longLiteral?_append h runs hr]

/-- **A string is read as it was written**, in whatever form. -/
theorem string?_stringChars (cs : List Char) (quotation : rest.head? ≠ some '"')
    (apostrophe : rest.head? ≠ some '\'') :
    string? (stringChars cs ++ rest) = some (cs, rest) := by
  unfold stringChars
  extract_lets hidden broken backslash quotes apostrophes
  have shown (h : hidden = false) : ∀ c ∈ cs, isHidden c = false := by
    simpa [hidden, List.any_eq_false] using h
  split
  case isTrue => exact string?_basic quotation
  case isFalse first =>
  split
  case isTrue h =>
    simp only [Bool.and_eq_true, Bool.not_eq_true', beq_iff_eq, decide_eq_false_iff_not] at h
    obtain ⟨⟨hhidden, hruns⟩, hbroken⟩ := h
    refine string?_literal ?_ (fun c hc => ?_) rest
    · rintro rfl
      exact first rfl
    · have whole : c ≠ '\n' := fun e => hbroken (show '\n' ∈ cs from e ▸ hc)
      have quote : c ≠ '\'' := fun e => not_mem_of_longestRun hruns (e ▸ hc)
      simp [isLiteral, isCommentChar_of_not_isHidden (shown hhidden c hc) whole, quote]
  case isFalse =>
  split
  case isTrue => exact string?_longBasic quotation
  case isFalse =>
  split
  case isTrue h =>
    simp only [Bool.and_eq_true, Bool.not_eq_true', decide_eq_true_eq] at h
    refine string?_longLiteral (shown h.1) (fun three => ?_) apostrophe
    have : 3 ≤ longestRun '\'' cs := le_longestRun three
    omega
  case isFalse =>
  split
  case isTrue => exact string?_longBasic quotation
  case isFalse => exact string?_basic quotation

end Proofing.Toml
