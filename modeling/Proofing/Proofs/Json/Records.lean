import Mathlib.Data.List.Forall2
import Proofing.Json.Reader
import Proofing.Proofs.Json.Lawful
import Proofing.Proofs.Json.Members
/-
  Proofing — records are read as they were written.

  * `Record.build_map` and `Record.build_seq` give the value of a record from the
    values of its fields;
  * `Record.decode_obj`: an object is read if each of its members is, and nothing
    is missing, and only then (`of_decode_obj`); a list stands for the object of
    the fields in their order (`decode_arr`);
  * `Record.Reads` says which value a record reads from which entries.  It is put
    together field by field, as the record is, and `Reads.decode_ofMembers` reads
    the object of the entries;
  * `Raw.fields?_texts`: no member of an object of texts is passed over.
-/
namespace Proofing

/-- The field takes an entry under its name: a value that it can hold, or that it is absent. -/
structure Field.Takes (f : Field) (e : String × Option Json) : Prop where
  name : f.name = e.1
  value : ∀ j, e.2 = some j → f.check j = .ok ()
  absent : e.2 = none → f.presence ≠ .required

namespace Record
variable {α β : Type} {fields : List Field} {ms : Members Json}

theorem build_map {f : α → β} {r : Record α} {a : α} (h : r.build ms = .ok a) :
    (f <$> r).build ms = .ok (f a) := by
  change (r.build ms).map f = _
  rw [h]; rfl

theorem build_seq {f : Record (α → β)} {r : Record α} {g : α → β} {a : α}
    (hf : f.build ms = .ok g) (hr : r.build ms = .ok a) : (f <*> r).build ms = .ok (g a) := by
  change (do return (← f.build ms) (← r.build ms) : Except DecodeError β) = _
  rw [hf, hr]; rfl

theorem checkMembers_eq_ok_iff : checkMembers fields ms = .ok () ↔
    ∀ m ∈ ms, ∀ f, find? fields m.1 = some f → f.check m.2 = .ok () := by
  induction ms with
  | nil => simp [checkMembers]
  | cons m ms ih =>
    rw [List.forall_mem_cons, ← ih, checkMembers]
    cases hf : find? fields m.1 with
    | none => simp
    | some f =>
      change (f.check m.2 >>= fun _ => _) = _ ↔ _
      cases hm : f.check m.2 <;> simp [hm, bind, Except.bind]

theorem checkMissing_ok
    (h : ∀ f ∈ fields, f.presence = .required → Members.find? f.name ms ≠ none) :
    checkMissing ms fields = .ok () := by
  induction fields with
  | nil => rfl
  | cons f fields ih =>
    obtain ⟨hf, hfields⟩ := List.forall_mem_cons.1 h
    rw [checkMissing, if_neg (fun ⟨hp, hn⟩ => hf hp hn), ih hfields]

theorem decode_obj {r : Record α} {type : String} {a : α}
    (members : ∀ m ∈ ms, ∀ f, find? r.fields m.1 = some f → f.check m.2 = .ok ())
    (missing : ∀ f ∈ r.fields, f.presence = .required → Members.find? f.name ms ≠ none)
    (h : r.build ms = .ok a) : r.decode type (.obj ms) = .ok a := by
  rw [decode, checkMembers_eq_ok_iff.2 members, checkMissing_ok missing, h]; rfl

/-- Where an object is read, so is each of its members. -/
theorem of_decode_obj {r : Record α} {type : String} {a : α} (h : r.decode type (.obj ms) = .ok a) :
    (∀ m ∈ ms, ∀ f, find? r.fields m.1 = some f → f.check m.2 = .ok ()) ∧ r.build ms = .ok a := by
  rw [decode] at h
  cases hmembers : checkMembers r.fields ms with
  | error e => rw [hmembers] at h; cases h
  | ok u =>
    cases hmissing : checkMissing ms r.fields with
    | error e => rw [hmembers, hmissing] at h; cases h
    | ok u =>
      rw [hmembers, hmissing] at h
      exact ⟨checkMembers_eq_ok_iff.1 hmembers, h⟩

/-! ## Lists of fields -/

/-- The items of a list go to the fields in their order, and are read as members of an object. -/
theorem pair_eq (type : String) {all : List Field} {items : List Json}
    (found : ∀ f ∈ fields, find? all f.name = some f)
    (absent : ∀ f ∈ fields, f.presence = .defaulted) (fits : items.length ≤ fields.length)
    (seen : Nat) :
    pair type all seen fields items =
      (checkMembers all ((fields.map (·.name)).zip items)).map
        fun _ => (fields.map (·.name)).zip items := by
  induction fields generalizing items seen with
  | nil =>
    obtain rfl : items = [] := List.length_eq_zero_iff.1 (Nat.le_zero.1 fits)
    rfl
  | cons f fields ih =>
    obtain ⟨hf, hfields⟩ := List.forall_mem_cons.1 found
    obtain ⟨ha, habsent⟩ := List.forall_mem_cons.1 absent
    cases items with
    | nil =>
      rw [pair, if_pos ha, ih hfields habsent (Nat.zero_le _)]
      simp
    | cons j items =>
      have hitems := ih hfields habsent (Nat.le_of_succ_le_succ fits) (seen + 1)
      rw [pair, hitems, List.map_cons, List.zip_cons_cons, checkMembers, hf]
      change (f.check j >>= fun _ => _) = Except.map _ (f.check j >>= fun _ => _)
      cases f.check j with
      | error e => rfl
      | ok u => cases checkMembers all ((fields.map (·.name)).zip items) <;> rfl

theorem length_le_of_pair {type : String} {all : List Field} {seen : Nat} {items : List Json}
    (h : pair type all seen fields items = .ok ms) : items.length ≤ fields.length := by
  induction fields generalizing items seen ms with
  | nil =>
    cases items with
    | nil => exact Nat.le_refl _
    | cons j items => cases h
  | cons f fields ih =>
    cases items with
    | nil => exact Nat.zero_le _
    | cons j items =>
      rw [pair] at h
      cases hj : f.check j with
      | error e => rw [hj] at h; cases h
      | ok u =>
        cases hp : pair type all (seen + 1) fields items with
        | error e => rw [hj, hp] at h; cases h
        | ok ms' => exact Nat.succ_le_succ (ih hp)

/-- A list that is not too long is read as the object that has its items under the names of the
    fields, if no field has to be there. -/
theorem decode_arr {r : Record α} (distinct : (r.fields.map (·.name)).Nodup)
    (absent : ∀ f ∈ r.fields, f.presence = .defaulted) {items : List Json}
    (fits : items.length ≤ r.fields.length) (type : String) :
    r.decode type (.arr items) = r.decode type (.obj ((r.fields.map (·.name)).zip items)) := by
  have found : ∀ f ∈ r.fields, find? r.fields f.name = some f := by
    intro f hf
    cases h : find? r.fields f.name with
    | none => simpa using List.find?_eq_none.1 h f hf
    | some f' =>
      have hname : f'.name = f.name := by simpa using List.find?_some h
      rw [List.inj_on_of_nodup_map distinct (List.mem_of_find?_eq_some h) hf hname]
  rw [decode, decode, pair_eq type found absent fits, checkMissing_ok]
  · cases checkMembers r.fields ((r.fields.map (·.name)).zip items) <;> rfl
  · intro f hf required
    rw [absent f hf] at required
    cases required

theorem length_le_of_decode {r : Record α} {type : String} {items : List Json} {a : α}
    (h : r.decode type (.arr items) = .ok a) : items.length ≤ r.fields.length := by
  rw [decode] at h
  cases hp : pair type r.fields 0 r.fields items with
  | error e => rw [hp] at h; cases h
  | ok ms => exact length_le_of_pair hp

/-! ## What a record reads -/

/-- The record reads a value from entries, one for each of its fields in their order. -/
structure Reads (r : Record α) (es : List (String × Option Json)) (a : α) : Prop where
  fields : List.Forall₂ Field.Takes r.fields es
  build : ∀ ms, (∀ e ∈ es, Members.find? e.1 ms = e.2) → r.build ms = .ok a

section
variable {es es' : List (String × Option Json)}

theorem reads_ofField [Coded α] {a : α} (h : Coded.decode (Coded.encode a) = .ok a) (name : String)
    (presence : Presence) (absent : Except DecodeError α) :
    (ofField name presence absent).Reads [(name, some (Coded.encode a))] a where
  fields := by
    refine .cons ⟨rfl, fun j hj => ?_, fun h => by cases h⟩ .nil
    cases hj
    exact congrArg (Except.map _) h
  build ms hms := by
    have found := hms _ List.mem_cons_self
    simp only [ofField, found, h]

theorem reads_field [Coded α] [Coded.Lawful α] (name : String) (a : α) :
    (field name).Reads [(name, some (Coded.encode a))] a :=
  reads_ofField (Coded.decode_encode a) name _ _

/-- A field that is written as `null` where there is no value. -/
theorem reads_optional [Coded α] [Coded.Lawful α] (name : String) (o : Option α) :
    (optional name).Reads [(name, some (Coded.encode o))] o :=
  reads_ofField (Coded.decode_encode_option o) name _ _

theorem reads_defaulted [Coded α] [Coded.Lawful α] (name : String) (standard a : α) :
    (defaulted name standard).Reads [(name, some (Coded.encode a))] a :=
  reads_ofField (Coded.decode_encode a) name _ _

/-- A part that is left out where there is none. -/
theorem reads_part [Coded α] [Coded.Lawful α] (name : String) (o : Option α) :
    (defaulted name (none : Option α)).Reads [(name, o.map Coded.encode)] o where
  fields := by
    refine .cons ⟨rfl, fun j hj => ?_, fun _ h => by cases h⟩ .nil
    obtain ⟨a, rfl, rfl⟩ := Option.map_eq_some_iff.1 hj
    have read := Coded.decode_encode_option (some a)
    change (Coded.decode (Coded.encode (some a)) : Except DecodeError (Option α)).map _ = _
    rw [read]; rfl
  build ms h := by
    have found := h _ List.mem_cons_self
    simp only [defaulted, ofField, found]
    cases o with
    | none => rfl
    | some a => exact Coded.decode_encode_option (some a)

theorem Reads.map {r : Record α} {a : α} (h : r.Reads es a) (f : α → β) :
    (f <$> r).Reads es (f a) :=
  ⟨h.fields, fun ms found => build_map (h.build ms found)⟩

theorem Reads.seq {f : Record (α → β)} {r : Record α} {g : α → β} {a : α} (hf : f.Reads es g)
    (hr : r.Reads es' a) : (f <*> r).Reads (es ++ es') (g a) where
  fields := List.rel_append hf.fields hr.fields
  build ms found := by
    simp only [List.mem_append] at found
    exact build_seq (hf.build ms fun e he => found e (Or.inl he))
      (hr.build ms fun e he => found e (Or.inr he))

/-- An object is read that holds the entries with a value, and nothing else. -/
theorem Reads.decode_obj {r : Record α} {a : α} (h : r.Reads es a)
    (distinct : (es.map (·.1)).Nodup) (type : String)
    (found : ∀ e ∈ es, Members.find? e.1 ms = e.2) (only : ∀ m ∈ ms, (m.1, some m.2) ∈ es) :
    r.decode type (.obj ms) = .ok a := by
  have taken : ∀ f ∈ r.fields, ∃ e ∈ es, f.Takes e := fun f hf => by
    obtain ⟨i, hi, rfl⟩ := List.getElem_of_mem hf
    obtain ⟨hlength, takes⟩ := List.forall₂_iff_get.1 h.fields
    exact ⟨es.get ⟨i, hlength ▸ hi⟩, List.get_mem _ _, takes i hi (hlength ▸ hi)⟩
  refine Record.decode_obj (fun m hm f hf => ?_) (fun f hf required missing => ?_)
    (h.build ms found)
  · obtain ⟨e, he, takes⟩ := taken f (List.mem_of_find?_eq_some hf)
    have same : f.name = m.1 := by simpa using List.find?_some hf
    have := List.inj_on_of_nodup_map distinct he (only m hm) (takes.name.symm.trans same)
    exact takes.value m.2 (by rw [this])
  · obtain ⟨e, he, takes⟩ := taken f hf
    exact takes.absent (by rw [← found e he, ← takes.name, missing]) required

/-- The members of the entries that have a value are read, in the order of the entries. -/
theorem Reads.decode_there {r : Record α} {a : α} (h : r.Reads es a)
    (distinct : (es.map (·.1)).Nodup) (type : String) :
    r.decode type (.obj (Members.there es)) = .ok a :=
  h.decode_obj distinct type (fun _ he => Members.find?_there distinct he)
    fun _ hm => Members.mem_there.1 hm

/-- The object of the entries that have a value is read. -/
theorem Reads.decode_ofMembers {r : Record α} {a : α} (h : r.Reads es a)
    (distinct : (es.map (·.1)).Nodup) (type : String) :
    r.decode type (.ofMembers (Members.there es)) = .ok a :=
  h.decode_obj distinct type (fun _ he => Members.find?_ofList_there distinct he)
    fun _ hm => Members.mem_there.1 (Members.mem_of_mem_ofList hm)

end

end Record

namespace Raw

theorem fields?_texts {names : List String} {ms : Members String} (known : ∀ m ∈ ms, m.1 ∈ names)
    (distinct : (ms.map (·.1)).Nodup) :
    fields? names (ms.map fun m => (some m.1, .str (some m.2))) =
      some (ms.map fun m => (m.1, .str m.2)) := by
  induction ms with
  | nil => rfl
  | cons m ms ih =>
    obtain ⟨hm, hms⟩ := List.forall_mem_cons.1 known
    obtain ⟨hnew, hrest⟩ := List.nodup_cons.1 distinct
    have fresh : (ms.map fun m => (m.1, Json.str m.2)).any (·.1 == m.1) = false := by
      rw [List.any_eq_false]
      intro x hx
      obtain ⟨m', hm', rfl⟩ := List.mem_map.1 hx
      simp only [beq_iff_eq]
      exact fun e => hnew (List.mem_map.2 ⟨m', hm', e⟩)
    simp only [List.map_cons, fields?, if_pos hm, ih hms hrest, fresh, toJson?, Option.map_some,
      Option.bind_eq_bind, Option.bind_some, Bool.false_eq_true, if_false]

theorem record?_obj {α : Type} {type : String} {r : Record α} {ms : List (Option String × Raw)}
    {values : Members Json} {a : α} (hf : fields? (r.fields.map (·.name)) ms = some values)
    (hd : r.decode type (.obj values) = .ok a) : record? type r (.obj ms) = some a := by
  simp only [record?, hf, Option.bind_eq_bind, Option.bind_some, hd]; rfl

end Raw

end Proofing
