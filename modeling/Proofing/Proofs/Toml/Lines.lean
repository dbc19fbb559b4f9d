import Proofing.Proofs.Json.Values
import Proofing.Proofs.Toml.Strings
import Proofing.Toml.Document
/-
  Proofing — TOML documents are read line by line as they were written.

  * `Reads` says that a text, at the end of a line, is read as a value: so it is for
    truth values, strings and whole numbers of 63 bits;
  * `Entry` is a line with a key, whose text is read as its value;
  * `parse?_lines`: a document of such lines is read as the table of their
    values, unless a key comes up twice.
-/
namespace Proofing.Toml

variable {c : Char} {cs ds rest text : List Char} {n fuel : Nat} {v : Value}

/-! ## Values -/

/-- The text is read as a value if the line ends behind it. -/
structure Reads (text : List Char) (v : Value) : Prop where
  /-- It does not start with a blank. -/
  start : ∃ c cs, text = c :: cs ∧ isSpace c = false
  value (fuel : Nat) {rest : List Char} (hr : rest.head? ≠ some ':') :
    value? (fuel + 1) 0 (text ++ '\n' :: rest) = some (v, '\n' :: rest)

theorem reads_bool (b : Bool) : Reads (toString b).toList (.bool b) := by
  cases b <;> exact ⟨⟨_, _, rfl, rfl⟩, fun _ _ _ => rfl⟩

/-- Every string is written behind a quote. -/
theorem stringChars_cons (cs : List Char) :
    ∃ w, stringChars cs = '"' :: w ∨ stringChars cs = '\'' :: w := by
  unfold stringChars
  extract_lets
  split_ifs <;> simp [long]

theorem reads_string (s : String) : Reads (stringChars s.toList) (.str s) := by
  have inside (rest : List Char) :
      string? (stringChars s.toList ++ '\n' :: rest) = some (s.toList, '\n' :: rest) :=
    string?_stringChars s.toList (by simp) (by simp)
  obtain ⟨w, h | h⟩ := stringChars_cons s.toList <;> rw [h] at inside ⊢
  all_goals
    refine ⟨⟨_, _, rfl, rfl⟩, fun fuel rest _ => ?_⟩
    have text := inside rest
    rw [List.cons_append] at text ⊢
    rw [value?, text]
    simp only [Option.map_some, String.ofList_toList]

/-! ## Whole numbers -/

/-- Behind digits at the end of a line there are digits, up to the line feed. -/
theorem next_of_digits (h : ∀ c ∈ ds, c.isDigit = true) {front : List Char}
    (hfront : ∀ c ∈ front, c.isDigit = true) {x : Char} {cs : List Char}
    (e : ds ++ '\n' :: rest = front ++ x :: cs) : x.isDigit = true ∨ x = '\n' := by
  induction front generalizing ds with
  | nil =>
    cases ds with
    | nil => exact .inr (List.cons.inj e).1.symm
    | cons d ds => exact .inl ((List.cons.inj e).1 ▸ h d List.mem_cons_self)
  | cons y front ih =>
    cases ds with
    | nil =>
      have hy := hfront y List.mem_cons_self
      rw [← (List.cons.inj e).1] at hy
      cases hy
    | cons d ds =>
      exact ih (List.forall_mem_cons.1 h).2 (List.forall_mem_cons.1 hfront).2 (List.cons.inj e).2

theorem hasDouble_of_digits (h : ∀ c ∈ ds, c.isDigit = true) : spaced?.hasDouble ds = false := by
  induction ds with
  | nil => rfl
  | cons d ds ih =>
    obtain ⟨hd, hds⟩ := List.forall_mem_cons.1 h
    have digit : d ≠ '_' := ne_of_kind hd rfl
    rw [spaced?.hasDouble, ih hds]
    simp [digit]

theorem spaced?_digits (h : ∀ c ∈ ds, c.isDigit = true) (hne : ds ≠ []) (rest : List Char) :
    spaced? Char.isDigit (ds ++ '\n' :: rest) = some (ds, '\n' :: rest) := by
  have digit : '_' ∉ ds := fun hc => nomatch h _ hc
  have run : (ds ++ '\n' :: rest).span (fun c => c.isDigit || c == '_') = (ds, '\n' :: rest) := by
    have all : ∀ c ∈ ds, (c.isDigit || c == '_') = true := fun c hc => by simp [h c hc]
    rw [List.span_eq_takeWhile_dropWhile, List.takeWhile_append_of_pos all,
      List.dropWhile_append_of_pos all]
    simp
  have first : ds.head? ≠ some '_' := fun e => digit (List.mem_of_head? e)
  have last : ds.getLast? ≠ some '_' := fun e => digit (List.mem_of_getLast? e)
  have all : ds.filter (· != '_') = ds :=
    List.filter_eq_self.2 fun c hc => by simpa using fun e : c = '_' => digit (e ▸ hc)
  simp only [spaced?, run]
  simp [hne, first, last, hasDouble_of_digits h, all]

theorem decimal?_toDigits (n : Nat) (rest : List Char) :
    decimal? (Nat.toDigits 10 n ++ '\n' :: rest) = some (Nat.toDigits 10 n, '\n' :: rest) := by
  have bare : ¬ (1 < (Nat.toDigits 10 n).length ∧ (Nat.toDigits 10 n).head? = some '0') := by
    rintro ⟨long, zero⟩
    rcases Nat.eq_zero_or_pos n with rfl | hn
    · exact absurd long (by decide)
    · exact Raw.head?_toDigits hn (by rw [List.head?_map, zero]; rfl)
  rw [decimal?, spaced?_digits (Raw.isDigit_toDigits n) Nat.toDigits_ne_nil]
  simp [bare]

theorem hexValue?_of_isDigit (h : c.isDigit = true) :
    Raw.hexValue? (some c) = some (Raw.digitOf c) := by
  simp [Raw.hexValue?, Raw.digitOf, Raw.range_of_isDigit h]

theorem ofDigits_toDigits (n : Nat) : ofDigits 10 (Nat.toDigits 10 n) = n := by
  have fold (ds : List Char) (h : ∀ c ∈ ds, c.isDigit = true) (acc : Nat) :
      ds.foldl (fun acc c => 10 * acc + (Raw.hexValue? (some c)).getD 0) acc =
        ds.foldl (fun acc c => 10 * acc + (c.toNat - '0'.toNat)) acc := by
    induction ds generalizing acc with
    | nil => rfl
    | cons d ds ih =>
      obtain ⟨hd, hds⟩ := List.forall_mem_cons.1 h
      rw [List.foldl_cons, List.foldl_cons, hexValue?_of_isDigit hd, ih hds]
      rfl
  rw [ofDigits, fold _ (Raw.isDigit_toDigits n), ← Nat.ofDigitChars_eq_foldl]
  exact Nat.ofDigitChars_ten_toDigits

theorem decimalNumber?_toDigits (h : n < 2 ^ 63) (rest : List Char) :
    decimalNumber? (Nat.toDigits 10 n ++ '\n' :: rest) = some (.int n, '\n' :: rest) := by
  have digits := decimal?_toDigits n rest
  have value := ofDigits_toDigits n
  have fits : whole? (n : Int) = some (.int n) := by
    have low : Int64.minValue.toInt = -2 ^ 63 := by decide
    have high : Int64.maxValue.toInt = 2 ^ 63 - 1 := by decide
    rw [whole?, low, high, if_pos (by omega)]
  have isDigit := Raw.isDigit_toDigits n
  have hne : Nat.toDigits 10 n ≠ [] := Nat.toDigits_ne_nil
  generalize Nat.toDigits 10 n = ds at digits value isDigit hne ⊢
  match ds, hne with
  | d :: ds, _ =>
    have hd := isDigit d List.mem_cons_self
    have other {x : Char} (hx : x.isDigit = false) : d ≠ x := ne_of_kind hd hx
    have unsigned : sign (d :: ds ++ '\n' :: rest) = (none, d :: ds ++ '\n' :: rest) := by
      rw [List.cons_append, sign] <;> simp [other]
    rw [decimalNumber?, unsigned]
    dsimp only
    split
    · simp_all
    · simp_all
    · rw [digits]
      simp [fraction?, exponent?, value, fits]

/-- No prefix of another kind of number, and no date or time. -/
theorem number?_digits (h : ∀ c ∈ ds, c.isDigit = true) (hne : ds ≠ [])
    (hr : rest.head? ≠ some ':') :
    number? (ds ++ '\n' :: rest) = decimalNumber? (ds ++ '\n' :: rest) := by
  generalize e : ds ++ '\n' :: rest = cs
  have next (front : List Char) {x : Char} {after : List Char} (e' : cs = front ++ x :: after)
      (hfront : ∀ c ∈ front, c.isDigit = true) : x.isDigit = true ∨ x = '\n' :=
    next_of_digits h hfront (e.trans e')
  have zero : ∀ c ∈ ['0'], c.isDigit = true := List.forall_mem_singleton.2 rfl
  unfold number?
  split
  case h_1 => exact absurd (next ['0'] rfl zero) (by decide)
  case h_2 => exact absurd (next ['0'] rfl zero) (by decide)
  case h_3 => exact absurd (next ['0'] rfl zero) (by decide)
  case h_4 a b after _ _ _ =>
    split
    · rename_i hab
      exact absurd (next [a, b] rfl (by simpa using hab)) (by decide)
    · -- one digit, and then the colon would stand at the start of the next line
      rename_i hab
      match ds, hne with
      | [d], _ => simp_all
      | d :: d' :: ds, _ => simp_all
  case h_5 a b c d after _ _ _ _ =>
    split
    · rename_i habcd
      exact absurd (next [a, b, c, d] rfl (by simpa using habcd)) (by decide)
    · rfl
  case h_6 => rfl

theorem reads_number (h : n < 2 ^ 63) : Reads (toString n).toList (.int n) := by
  rw [Nat.toString_eq_ofList_toDigits, String.toList_ofList]
  have isDigit := Raw.isDigit_toDigits n
  have number {rest : List Char} (hr : rest.head? ≠ some ':') :
      number? (Nat.toDigits 10 n ++ '\n' :: rest) = some (.int n, '\n' :: rest) :=
    (number?_digits isDigit Nat.toDigits_ne_nil hr).trans (decimalNumber?_toDigits h rest)
  match hds : Nat.toDigits 10 n with
  | [] => exact absurd hds Nat.toDigits_ne_nil
  | d :: ds =>
    rw [hds] at isDigit number
    have hd := isDigit d List.mem_cons_self
    have other {x : Char} (hx : x.isDigit = false) : d ≠ x := ne_of_kind hd hx
    refine ⟨⟨d, ds, rfl, ?_⟩, fun fuel rest hr => ?_⟩
    · simp [isSpace, other]
    · rw [← number hr, List.cons_append, value?] <;> simp [other]

/-! ## Lines -/

/-- A key that needs no quotes. -/
def Bare (key : String) : Prop :=
  key.toList ≠ [] ∧ key.toList.all isKeyChar = true

instance (key : String) : Decidable (Bare key) :=
  inferInstanceAs (Decidable (_ ∧ _))

/-- A line with a key, and what is read of it. -/
structure Entry where
  key : String
  text : List Char
  value : Value
  bare : Bare key
  reads : Reads text value

variable {e : Entry} {es : List Entry} {root : Table}

/-- The line of an entry. -/
def Entry.line (e : Entry) : List Char :=
  Toml.line e.key e.text

theorem isSpace_of_isKeyChar (h : isKeyChar c = true) : isSpace c = false := by
  have blank : c ≠ ' ' := ne_of_kind h rfl
  have tab : c ≠ '\t' := ne_of_kind h rfl
  simp [isSpace, blank, tab]

theorem skipSpaces_cons (h : isSpace c = false) (cs : List Char) :
    skipSpaces (c :: cs) = c :: cs := by
  rw [skipSpaces, List.dropWhile_cons_of_neg (by simp [h])]

theorem Bare.cons {key : String} (h : Bare key) :
    ∃ c cs, key.toList = c :: cs ∧ isKeyChar c = true := by
  obtain ⟨hne, hkey⟩ := h
  match hk : key.toList, hne with
  | c :: cs, _ => exact ⟨c, cs, rfl, List.all_eq_true.1 hkey c (hk ▸ List.mem_cons_self)⟩

theorem part?_bare {key : String} (h : Bare key) (rest : List Char) :
    part? (key.toList ++ ' ' :: rest) = some (key, ' ' :: rest) := by
  obtain ⟨c, cs, hk, hc⟩ := h.cons
  have all := List.all_eq_true.1 h.2
  have run : (key.toList ++ ' ' :: rest).span isKeyChar = (key.toList, ' ' :: rest) := by
    rw [List.span_eq_takeWhile_dropWhile, List.takeWhile_append_of_pos all,
      List.dropWhile_append_of_pos all, List.takeWhile_cons_of_neg (by decide),
      List.dropWhile_cons_of_neg (by decide), List.append_nil]
  have whole : String.ofList (c :: cs) = key := by rw [← hk, String.ofList_toList]
  rw [hk] at run ⊢
  rw [List.cons_append] at run ⊢
  rw [part?, run]
  · simp only [whole]
  · exact fun _ e => ne_of_kind hc rfl (List.cons.inj e).1
  · exact fun _ e => ne_of_kind hc rfl (List.cons.inj e).1

theorem key?_bare {key : String} (h : Bare key) (rest : List Char) :
    key? (key.toList ++ ' ' :: '=' :: rest) = some (([], key), '=' :: rest) := by
  obtain ⟨c, cs, hk, hc⟩ := h.cons
  have first :
      skipSpaces (key.toList ++ ' ' :: '=' :: rest) = key.toList ++ ' ' :: '=' :: rest := by
    rw [hk, List.cons_append, skipSpaces_cons (isSpace_of_isKeyChar hc)]
  have behind : skipSpaces (' ' :: '=' :: rest) = '=' :: rest := rfl
  rw [key?, parts?, first, part?_bare h]
  simp [behind, maxParts]

theorem entry?_line (e : Entry) (hr : rest.head? ≠ some ':') :
    entry? (e.line ++ rest) = some ((([], e.key), e.value), '\n' :: rest) := by
  have line : e.line ++ rest =
      e.key.toList ++ ' ' :: '=' :: ' ' :: (e.text ++ '\n' :: rest) := by
    simp [Entry.line, Toml.line]
  obtain ⟨c, cs, text, space⟩ := e.reads.start
  have behind : skipSpaces (' ' :: (e.text ++ '\n' :: rest)) = e.text ++ '\n' :: rest := by
    rw [text]
    exact skipSpaces_cons space _
  rw [line, entry?, key?_bare e.bare]
  simp [behind, e.reads.value _ hr]

theorem enter_root (key : String) (v : Value) (root : Table) :
    Reading.enter ⟨root, []⟩ [] key v =
      if (Members.find? key root).isSome then none else some ⟨Members.put key v root, []⟩ := by
  have origin : (Origin.header == Origin.dotted) = false := rfl
  simp only [Reading.enter, Table.within, Table.insert, Table.add, Table.addKey]
  split <;> simp_all

/-- A line starts with its key. -/
theorem Entry.line_cons (e : Entry) : ∃ c cs, e.line = c :: cs ∧ isKeyChar c = true := by
  obtain ⟨c, cs, hk, hc⟩ := e.bare.cons
  exact ⟨c, _, by rw [Entry.line, Toml.line, hk]; rfl, hc⟩

theorem line?_line (e : Entry) (hr : rest.head? ≠ some ':') (r : Reading) :
    line? r (e.line ++ rest) = (r.enter [] e.key e.value).map (·, '\n' :: rest) := by
  have entry := entry?_line e hr
  obtain ⟨c, cs, hline, hc⟩ := e.line_cons
  rw [hline, List.cons_append] at entry ⊢
  have bracket : c ≠ '[' := ne_of_kind hc rfl
  rw [line?, entry]
  · simp only [Option.bind_eq_bind, Option.bind_some]
    cases r.enter [] e.key e.value <;> rfl
  · exact fun _ e => absurd (List.cons.inj e).1 bracket
  · exact fun _ e => absurd (List.cons.inj e).1 bracket

/-- A line adds its entry, unless the key is there already. -/
theorem lines?_line (e : Entry) (hr : rest.head? ≠ some ':') (fuel : Nat) (root : Table) :
    lines? (fuel + 1) ⟨root, []⟩ (e.line ++ rest) =
      if (Members.find? e.key root).isSome then none
      else lines? fuel ⟨Members.put e.key e.value root, []⟩ rest := by
  have line := line?_line e hr ⟨root, []⟩
  obtain ⟨c, cs, hline, hc⟩ := e.line_cons
  have entry : ¬ (c = '#' ∨ (newline? (c :: (cs ++ rest))).isSome) := by
    rw [newline?_cons (ne_of_kind hc rfl) (ne_of_kind hc rfl)]
    simpa using ne_of_kind hc rfl
  have ends : lineEnd? ('\n' :: rest) = some rest := rfl
  rw [hline, List.cons_append] at line ⊢
  rw [lines?, skipSpaces_cons (isSpace_of_isKeyChar hc)]
  simp only [if_neg entry, line, enter_root]
  split <;> simp [ends]

/-- So does a document of lines. -/
theorem isKeyChar_of_head? (h : (es.flatMap Entry.line).head? = some c) : isKeyChar c = true := by
  cases es with
  | nil => cases h
  | cons e es =>
    obtain ⟨c', cs, hline, hc⟩ := e.line_cons
    rw [List.flatMap_cons, hline] at h
    cases h
    exact hc

theorem length_le_lines (es : List Entry) : es.length ≤ (es.flatMap Entry.line).length := by
  induction es with
  | nil => exact Nat.le_refl 0
  | cons e es ih =>
    obtain ⟨c, cs, hline, -⟩ := e.line_cons
    simp only [List.flatMap_cons, List.length_append, hline, List.length_cons]
    omega

/-- The lines of entries add them all, unless a key comes up twice. -/
theorem lines?_lines (es : List Entry) (root : Table) (hfuel : es.length < fuel) :
    lines? fuel ⟨root, []⟩ (es.flatMap Entry.line) =
      if (es.map Entry.key).Nodup ∧ ∀ e ∈ es, Members.find? e.key root = none then
        some (es.foldl (fun t e => Members.put e.key e.value t) root)
      else none := by
  induction es generalizing root fuel with
  | nil =>
    cases fuel with
    | zero => cases hfuel
    | succ fuel => simp [lines?, skipSpaces]
  | cons e es ih =>
    cases fuel with
    | zero => cases hfuel
    | succ fuel =>
      have hfuel : es.length < fuel := Nat.lt_of_succ_lt_succ hfuel
      have hr : (es.flatMap Entry.line).head? ≠ some ':' := fun h =>
        absurd (isKeyChar_of_head? h) (by decide)
      rw [List.flatMap_cons, lines?_line e hr, ih _ hfuel]
      by_cases there : (Members.find? e.key root).isSome
      · have taken : Members.find? e.key root ≠ none := Option.isSome_iff_ne_none.1 there
        rw [if_pos there, if_neg fun h => taken (h.2 e List.mem_cons_self)]
      · have free : Members.find? e.key root = none := by simpa using there
        rw [if_neg there]
        refine if_congr ?_ rfl rfl
        simp only [Members.find?_put, List.map_cons, List.nodup_cons, List.mem_map,
          List.forall_mem_cons, free]
        grind

/-- **A document of lines is read as the table of their entries**; it is none if a key comes up
    twice. -/
theorem parse?_lines (es : List Entry) :
    parse? (String.ofList (es.flatMap Entry.line)) =
      if (es.map Entry.key).Nodup then some (Members.ofList (es.map fun e => (e.key, e.value)))
      else none := by
  have mark : ∀ cs, es.flatMap Entry.line ≠ '\ufeff' :: cs := fun cs h =>
    absurd (isKeyChar_of_head? (congrArg List.head? h)) (by decide)
  have lines := lines?_lines es [] (Nat.lt_succ_of_le (length_le_lines es))
  simp only [Members.find?, implies_true, and_true] at lines
  rw [parse?, String.toList_ofList]
  split
  · exact absurd ‹_› (mark _)
  · rw [lines, Members.ofList, List.foldl_map]

end Proofing.Toml
