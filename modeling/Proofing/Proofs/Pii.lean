import Proofing.Pii.Held
import Proofing.Proofs.Envelope
import Proofing.Proofs.Json.Records
import Proofing.Proofs.Json.Values
/-
  Proofing — personal data comes back from where it is put.

  * `Pii.reads`: what the record of personal data reads;
  * `decode_eq_ok_iff`: what is read as personal data, and as which;
  * `ofText?_text`: the JSON text of personal data is read as that data, whatever
    parts are there and whatever characters they have;
  * `isBlank_ofPii`: data that is staged is never taken for nothing, and there is
    no data in a blank text (`isBlank_of_toPii?`);
  * `Envelope.unlock_lock`: what is sealed is opened under the same password.
-/
namespace Proofing

namespace Pii

/-- The parts that are there, of parts under their names. -/
def there (es : List (String × Option String)) : Members String :=
  es.filterMap fun e => e.2.map (e.1, ·)

/-- The names of the parts. -/
def names : List String :=
  ["first_name", "middle_name", "last_name", "dob", "ssn", "address1", "address2", "city", "state",
    "zipcode", "phone", "state_id_number", "state_id_jurisdiction"]

theorem map_entries (p : Pii) : p.entries.map (·.1) = names := rfl

theorem nodup_names : names.Nodup := by decide

theorem members_eq (p : Pii) :
    p.members = Members.there (p.entries.map fun e => (e.1, e.2.map Coded.encode)) := by
  simp only [members, present, Members.there, List.map_filterMap, List.filterMap_map]
  congr 1
  funext e
  obtain ⟨k, v⟩ := e
  cases v <;> rfl

theorem reads (p : Pii) :
    record.Reads (p.entries.map fun e => (e.1, e.2.map Coded.encode)) p := by
  have part (name : String) (o : Option String) := Record.reads_part name o
  have first := (part "first_name" p.firstName).map Pii.mk
  exact (((((((((((first.seq (part _ p.middleName)).seq (part _ p.lastName)).seq
    (part _ p.dob)).seq (part _ p.ssn)).seq (part _ p.address1)).seq (part _ p.address2)).seq
    (part _ p.city)).seq (part _ p.state)).seq (part _ p.zipcode)).seq (part _ p.phone)).seq
    (part _ p.stateIdNumber)).seq (part _ p.stateIdJurisdiction)

theorem decode_record (p : Pii) : record.decode "Pii" (.obj p.members) = .ok p := by
  rw [members_eq]
  exact p.reads.decode_there (by rw [List.map_map]; exact nodup_names) _

/-- **The text of personal data is read as that data.** -/
theorem ofText?_text (p : Pii) : ofText? p.text = some p := by
  have known : ∀ m ∈ there p.entries, m.1 ∈ record.fields.map (·.name) := by
    intro m hm
    have hnames : record.fields.map (·.name) = names := rfl
    rw [hnames, ← p.map_entries]
    exact (Members.keys_there p.entries).subset (List.mem_map_of_mem hm)
  have distinct : ((there p.entries).map (·.1)).Nodup :=
    nodup_names.sublist (p.map_entries ▸ Members.keys_there p.entries)
  change (Raw.parse? (.ofString (Json.compact (Raw.texts (there p.entries))))).bind _ = _
  rw [Raw.parse?_texts]
  exact Raw.record?_obj (Raw.fields?_texts known distinct) (decode_record p)

/-! ## What is read as personal data -/

/-- The value is a text, or stands for none. -/
def IsPart (j : Json) : Prop :=
  j = .null ∨ ∃ text, j = .str text

/-- The text that a value is. -/
def part? : Option Json → Option String
  | some (.str text) => some text
  | _ => none

theorem part?_eq_some_iff {value : Option Json} {text : String} :
    part? value = some text ↔ value = some (.str text) := by
  unfold part?
  split <;> simp_all

theorem isPart_iff (j : Json) :
    (Coded.decode j : Except DecodeError (Option String)).map (fun _ => ()) = .ok () ↔ IsPart j := by
  cases j <;> simp [IsPart, Coded.decode, Decode.option, Decode.string, Except.map]

theorem decode_of_isPart {j : Json} (h : IsPart j) :
    (Coded.decode j : Except DecodeError (Option String)) = .ok (part? (some j)) := by
  rcases h with rfl | ⟨text, rfl⟩ <;> rfl

/-- The members of an object; a list has its items under the names of the parts, in their order. -/
def membersOf? : Json → Option (Members Json)
  | .obj ms => some ms
  | .arr items => if items.length ≤ names.length then some (names.zip items) else none
  | _ => none

/-- The parts that are there among members. -/
def ofMembers (ms : Members Json) : Pii :=
  let part (name : String) := part? (Members.find? name ms)
  ⟨part "first_name", part "middle_name", part "last_name", part "dob", part "ssn",
    part "address1", part "address2", part "city", part "state", part "zipcode", part "phone",
    part "state_id_number", part "state_id_jurisdiction"⟩

theorem entries_ofMembers (ms : Members Json) :
    (ofMembers ms).entries = names.map fun name => (name, part? (Members.find? name ms)) := rfl

/-- The field of a part: it may be absent, or hold a text or `null`. -/
def field (name : String) : Field :=
  ⟨name, .defaulted, fun j =>
    (Coded.decode j : Except DecodeError (Option String)).map fun _ => ()⟩

theorem fields_record : record.fields = names.map field := rfl

theorem eq_field_of_mem {f : Field} (h : f ∈ record.fields) : ∃ name ∈ names, f = field name := by
  rw [fields_record] at h
  obtain ⟨name, hname, rfl⟩ := List.mem_map.1 h
  exact ⟨name, hname, rfl⟩

theorem build_record {ms : Members Json} (h : ∀ m ∈ ms, m.1 ∈ names → IsPart m.2) :
    record.build ms = .ok (ofMembers ms) := by
  have part (name : String) (known : name ∈ names) :
      (Record.defaulted name (none : Option String)).build ms =
        .ok (part? (Members.find? name ms)) := by
    simp only [Record.defaulted, Record.ofField]
    cases hfind : Members.find? name ms with
    | none => rfl
    | some j => exact decode_of_isPart (h _ (Members.mem_of_find? hfind) known)
  -- the last part first, as the record is put together
  iterate 12 refine Record.build_seq ?_ (part _ (by decide))
  exact Record.build_map (part _ (by decide))

/-- A member is read if it is a text or `null`, or no part at all. -/
theorem check_member_iff {name : String} {j : Json} :
    (∀ f, Record.find? record.fields name = some f → f.check j = .ok ()) ↔
      (name ∈ names → IsPart j) := by
  constructor
  · intro h known
    have mem : field name ∈ record.fields := List.mem_map_of_mem known
    cases hfind : Record.find? record.fields name with
    | none => simpa [field] using List.find?_eq_none.1 hfind _ mem
    | some f =>
      obtain ⟨other, -, rfl⟩ := eq_field_of_mem (List.mem_of_find?_eq_some hfind)
      exact (isPart_iff j).1 (h _ hfind)
  · intro h f hfind
    obtain ⟨other, known, rfl⟩ := eq_field_of_mem (List.mem_of_find?_eq_some hfind)
    obtain rfl : other = name := by simpa [field] using List.find?_some hfind
    exact (isPart_iff j).2 (h known)

theorem decode_obj_eq_ok_iff {ms : Members Json} {p : Pii} :
    record.decode "Pii" (.obj ms) = .ok p ↔
      (∀ m ∈ ms, m.1 ∈ names → IsPart m.2) ∧ p = ofMembers ms := by
  constructor
  · intro h
    obtain ⟨members, hbuild⟩ := Record.of_decode_obj h
    have parts : ∀ m ∈ ms, m.1 ∈ names → IsPart m.2 :=
      fun m hm => check_member_iff.1 (members m hm)
    rw [build_record parts] at hbuild
    exact ⟨parts, (Except.ok.inj hbuild).symm⟩
  · rintro ⟨parts, rfl⟩
    refine Record.decode_obj (fun m hm => check_member_iff.2 (parts m hm)) ?_ (build_record parts)
    intro f hf required
    obtain ⟨name, -, rfl⟩ := eq_field_of_mem hf
    cases required

/-- **What is read as personal data**: an object, or a list that is not too long, whose parts are
    texts or `null`.  The data has the texts. -/
theorem decode_eq_ok_iff {j : Json} {p : Pii} :
    (Coded.decode j : Except DecodeError Pii) = .ok p ↔
      ∃ ms, membersOf? j = some ms ∧ (∀ m ∈ ms, m.1 ∈ names → IsPart m.2) ∧ p = ofMembers ms := by
  change record.decode "Pii" j = _ ↔ _
  cases j with
  | obj ms => simp [membersOf?, decode_obj_eq_ok_iff]
  | arr items =>
    by_cases fits : items.length ≤ names.length
    · have hnames : record.fields.map (·.name) = names := rfl
      have absent : ∀ f ∈ record.fields, f.presence = .defaulted := by
        intro f hf
        obtain ⟨name, -, rfl⟩ := eq_field_of_mem hf
        rfl
      rw [Record.decode_arr (hnames ▸ nodup_names) absent fits, hnames, decode_obj_eq_ok_iff]
      simp [membersOf?, fits]
    · constructor
      · intro h
        exact absurd (Record.length_le_of_decode h) fits
      · rintro ⟨ms, hms, -⟩
        simp [membersOf?, fits] at hms
  | _ => simp [membersOf?, Record.decode]

/-- Some part is there. -/
theorem isEmpty_eq_false_iff {p : Pii} :
    p.isEmpty = false ↔ ∃ name text, (name, some text) ∈ p.entries := by
  have hpresent : p.present = there p.entries := rfl
  rw [isEmpty, hpresent, List.isEmpty_eq_false_iff_exists_mem]
  simp only [Prod.exists]
  exact exists₂_congr fun _ _ => Members.mem_there

/-- Some part is there among members if one of them is a text. -/
theorem isEmpty_ofMembers {ms : Members Json} : (ofMembers ms).isEmpty = false ↔
    ∃ name ∈ names, ∃ text, Members.find? name ms = some (.str text) := by
  rw [isEmpty_eq_false_iff, entries_ofMembers]
  simp [part?_eq_some_iff]

end Pii

theorem StagedText.toPii?_ofPii (p : Pii) : (ofPii p).toPii? = some p :=
  p.ofText?_text

/-- A staged text begins with a brace. -/
theorem StagedText.isBlank_ofPii (p : Pii) : (ofPii p).isBlank = false := by
  obtain ⟨cs, first⟩ : ∃ cs, p.text.toList = '{' :: cs := ⟨_, String.toList_ofList⟩
  simp only [isBlank, ofPii, Text.allBlank, first, List.all_cons]
  rfl

/-! ## Blank texts -/

namespace Raw

/-- What is left of blanks begins with a blank, if there is anything left. -/
theorem skipBlanks_of_isBlank {cs : List Char} (h : ∀ c ∈ cs, Text.isBlank c = true) :
    skipBlanks (cs.map some) = [] ∨
      ∃ c rest, Text.isBlank c = true ∧ skipBlanks (cs.map some) = some c :: rest := by
  induction cs with
  | nil => exact .inl rfl
  | cons c cs ih =>
    obtain ⟨hc, hcs⟩ := List.forall_mem_cons.1 h
    by_cases hskip : c ∈ [' ', '\n', '\t', '\r']
    · have hnext : skipBlanks ((c :: cs).map some) = skipBlanks (cs.map some) := by
        simp only [List.mem_cons, List.not_mem_nil, or_false] at hskip
        rcases hskip with rfl | rfl | rfl | rfl <;> rfl
      rw [hnext]
      exact ih hcs
    · exact .inr ⟨c, _, hc, skipBlanks_cons hskip _⟩

/-- No value begins with a blank. -/
theorem scalar?_of_isBlank {c : Char} (h : Text.isBlank c = true) (rest : Text.Source) :
    scalar? (some c :: rest) = none := by
  have apart : ∀ n ∈ ['n', 't', 'f', '"', '-'], c ≠ n := by
    rintro n hn rfl
    simp only [List.mem_cons, List.not_mem_nil, or_false] at hn
    rcases hn with rfl | rfl | rfl | rfl | rfl <;> exact absurd h (by decide)
  have hdigit : digit? (some c) = none := by
    refine if_neg fun ⟨low, high⟩ => ?_
    have hlow : 0x30 ≤ c.toNat := low
    have hhigh : c.toNat ≤ 0x39 := high
    simp only [Text.isBlank, Bool.or_eq_true, Bool.and_eq_true, decide_eq_true_eq, beq_iff_eq] at h
    omega
  have hnumeral : numeral? (some c :: rest) = none := by
    have hminus : c ≠ '-' := apart _ (by simp)
    simp [numeral?, digits?, digits, hdigit, hminus]
  rw [scalar?, hnumeral]
  · rfl
  all_goals simp [apart]

theorem parse?_of_isBlank {cs : List Char} (h : ∀ c ∈ cs, Text.isBlank c = true) :
    parse? (cs.map some) = none := by
  have hvalue (fuel : Nat) : value? (fuel + 1) (cs.map some) = none := by
    rw [value?]
    rcases skipBlanks_of_isBlank h with hnil | ⟨c, rest, hc, hskip⟩
    · rw [hnil]; rfl
    · have hopen : c ≠ '[' ∧ c ≠ '{' := by
        constructor <;> rintro rfl <;> exact absurd hc (by decide)
      rw [hskip]
      simp [hopen, scalar?_of_isBlank hc]
  rw [parse?, hvalue]

end Raw

/-- There is no data in a blank text. -/
theorem StagedText.isBlank_of_toPii? {t : StagedText} {p : Pii} (h : t.toPii? = some p) :
    t.isBlank = false := by
  rw [← Bool.not_eq_true]
  intro hb
  have hparse := Raw.parse?_of_isBlank (List.all_eq_true.1 hb)
  rw [toPii?, Pii.ofText?, Pii.ofSource?, Text.Source.ofString, hparse] at h
  cases h

/-! ## Sealed data -/

/-- **What is sealed is opened under the same password.** -/
theorem Envelope.unlock_lock {pii : Pii} {password : Password} {cost : KeyCost} {draw : Draw}
    {e : Envelope} (h : lock pii password cost draw = .ok e) : e.unlock password = .ok pii := by
  cases hk : key cost password (List.ofFn draw.salt) with
  | error err => simp only [lock, hk] at h; cases h
  | ok k =>
    rw [lock_eq hk] at h
    cases h
    have hn : ¬ (List.ofFn draw.nonce).length ≠ nonceSize := by simp
    have hp : Pii.ofSource? (.ofString pii.text) = some pii := pii.ofText?_text
    simp only [unlock, octets, Hex.decode_encode, Except.mapError, bind, Except.bind, if_neg hn, hk,
      Crypto.Gcm.decrypt?_encrypt, Text.Source.ofOctets_octets, hp, ne_eq, not_true_eq_false,
      if_false]
    rfl

end Proofing
