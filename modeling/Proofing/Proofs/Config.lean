import Proofing.Config.Toml
import Proofing.Proofs.Json.Records
import Proofing.Proofs.Toml.Lines
/-
  Proofing — settings are read as they were written, all of them or some.

  `Setting` names the ten settings of a record, each with a key, with values of a
  type of its own and with what it falls back to; what is read of a value is a TOML
  value (`Legible`).

  * `Setting.absent_eq`: each setting falls back to its default, so a record without
    any is the default one (`build_of_absent` in JSON);
  * `ofTable?_of_holds`: a table with some settings of a record, and no others, is
    read as the record in which the rest has its defaults (`only`);
  * `rereads`: so is every text with such a table, and the lines of the settings
    in any order; all of them are the record again.
-/
namespace Proofing.Config

open Toml (Reads)

/-- The values of a type are read as they were written. -/
class Legible (α : Type) [TomlCoded α] where
  /-- What is read of a value. -/
  value : α → Toml.Value
  reads (a : α) : Reads (TomlCoded.toToml a) (value a)
  ofToml?_value (a : α) : TomlCoded.ofToml? (value a) = some a

instance : Legible Bool where
  value := .bool
  reads := Toml.reads_bool
  ofToml?_value _ := rfl

instance : Legible String where
  value := .str
  reads := Toml.reads_string
  ofToml?_value _ := rfl

instance : Legible UInt32 where
  value n := .int n.toNat
  reads n := Toml.reads_number (Nat.lt_trans n.toNat_lt (by decide))
  ofToml?_value n := by
    have fits : 0 ≤ (n.toNat : Int) ∧ (n.toNat : Int) < UInt32.size :=
      ⟨Int.natCast_nonneg _, Int.ofNat_lt.2 n.toNat_lt⟩
    change (if _ then _ else _) = _
    rw [if_pos fits, Int.toNat_natCast, UInt32.ofNat_toNat]

/-- A name is read as the value with that name. -/
abbrev Legible.ofVariants {α : Type} [Variants α]
    (found : ∀ a : α, Variants.ofName? (Variants.name a) = some a) : Legible α where
  value a := .str (Variants.name a)
  reads a := Toml.reads_string (Variants.name a)
  ofToml?_value a := found a

instance : Legible UnknownNames := .ofVariants fun n => by cases n <;> rfl

instance : Legible LogFormat := .ofVariants fun f => by cases f <;> rfl

/-! ## Settings -/

/-- A setting. -/
inductive Setting where
  | decisioning
  | unknownNames
  | sessionSpace
  | visitSpace
  | countryCode
  | kdfMemory
  | kdfPasses
  | kdfLanes
  | logFormat
  | logLevel
  deriving DecidableEq, Repr

namespace Setting

/-- The settings in the order of declaration. -/
def all : List Setting :=
  [decisioning, unknownNames, sessionSpace, visitSpace, countryCode, kdfMemory, kdfPasses, kdfLanes,
    logFormat, logLevel]

/-- The key of a setting. -/
def key : Setting → String
  | decisioning => "device_profiling_decisioning_enabled"
  | unknownNames => "unknown_attribute_policy"
  | sessionSpace => "session_namespace"
  | visitSpace => "in_person_namespace"
  | countryCode => "default_phone_country_code"
  | kdfMemory => "pii_kdf_memory_kib"
  | kdfPasses => "pii_kdf_iterations"
  | kdfLanes => "pii_kdf_parallelism"
  | logFormat => "log_format"
  | logLevel => "log_level"

/-- The type of the values of a setting. -/
def Value : Setting → Type
  | decisioning => Bool
  | unknownNames => UnknownNames
  | sessionSpace | visitSpace | countryCode | logLevel => String
  | kdfMemory | kdfPasses | kdfLanes => UInt32
  | logFormat => LogFormat

/-- The value of a setting in a record. -/
def of : (k : Setting) → Config → k.Value
  | decisioning => Config.decisioning
  | unknownNames => Config.unknownNames
  | sessionSpace => Config.sessionSpace
  | visitSpace => Config.visitSpace
  | countryCode => Config.countryCode
  | kdfMemory => Config.kdfMemory
  | kdfPasses => Config.kdfPasses
  | kdfLanes => Config.kdfLanes
  | logFormat => Config.logFormat
  | logLevel => Config.logLevel

/-- What an absent setting is read as. -/
def absent : (k : Setting) → k.Value
  | decisioning => false
  | unknownNames => UnknownNames.standard
  | sessionSpace => defaultSessionSpace
  | visitSpace => defaultVisitSpace
  | countryCode => defaultCountryCode
  | kdfMemory => defaultKdfMemory
  | kdfPasses => defaultKdfPasses
  | kdfLanes => defaultKdfLanes
  | logFormat => LogFormat.standard
  | logLevel => defaultLogLevel

/-- **What a setting falls back to is its default.** -/
theorem absent_eq (k : Setting) : k.absent = k.of default := by
  cases k <;> rfl

instance : (k : Setting) → TomlCoded k.Value
  | decisioning => inferInstanceAs (TomlCoded Bool)
  | unknownNames => inferInstanceAs (TomlCoded UnknownNames)
  | sessionSpace | visitSpace | countryCode | logLevel => inferInstanceAs (TomlCoded String)
  | kdfMemory | kdfPasses | kdfLanes => inferInstanceAs (TomlCoded UInt32)
  | logFormat => inferInstanceAs (TomlCoded LogFormat)

instance : (k : Setting) → Legible k.Value
  | decisioning => inferInstanceAs (Legible Bool)
  | unknownNames => inferInstanceAs (Legible UnknownNames)
  | sessionSpace | visitSpace | countryCode | logLevel => inferInstanceAs (Legible String)
  | kdfMemory | kdfPasses | kdfLanes => inferInstanceAs (Legible UInt32)
  | logFormat => inferInstanceAs (Legible LogFormat)

theorem bare_key (k : Setting) : Toml.Bare k.key := by
  cases k <;> decide

theorem mem_all (k : Setting) : k ∈ all := by
  cases k <;> decide

theorem key_injective : Function.Injective key := fun k l =>
  List.inj_on_of_nodup_map (l := all) (by decide) (mem_all k) (mem_all l)

end Setting

variable {c : Config} {ks : List Setting} {t : Toml.Table}

/-- The record of given settings. -/
def ofSettings (f : (k : Setting) → k.Value) : Config where
  decisioning := f .decisioning
  unknownNames := f .unknownNames
  sessionSpace := f .sessionSpace
  visitSpace := f .visitSpace
  countryCode := f .countryCode
  kdfMemory := f .kdfMemory
  kdfPasses := f .kdfPasses
  kdfLanes := f .kdfLanes
  logFormat := f .logFormat
  logLevel := f .logLevel

@[simp] theorem of_ofSettings (f : (k : Setting) → k.Value) (k : Setting) :
    k.of (ofSettings f) = f k := by
  cases k <;> rfl

@[simp] theorem ofSettings_of (c : Config) : (ofSettings fun k => k.of c) = c :=
  rfl

/-- Some settings of a record, and the defaults of the others. -/
def only (c : Config) (ks : List Setting) : Config :=
  ofSettings fun k => if k ∈ ks then k.of c else k.of default

theorem of_only (c : Config) (ks : List Setting) (k : Setting) :
    k.of (c.only ks) = if k ∈ ks then k.of c else k.of default :=
  of_ofSettings _ k

theorem only_all (c : Config) : c.only Setting.all = c := by
  simp only [only, Setting.mem_all, if_true, ofSettings_of]

/-- A record is read if each of its settings is. -/
theorem ofTable?_of_settings (h : ∀ k : Setting, setting? t k.key k.absent = some (k.of c)) :
    ofTable? t = some c := by
  have next {α β : Type} {x : Option α} {a : α} {f : α → Option β} {b : β} (hx : x = some a)
      (hf : f a = some b) : x >>= f = some b := by
    rw [hx]
    exact hf
  exact next (h .decisioning) <| next (h .unknownNames) <| next (h .sessionSpace) <|
    next (h .visitSpace) <| next (h .countryCode) <| next (h .kdfMemory) <|
    next (h .kdfPasses) <| next (h .kdfLanes) <| next (h .logFormat) <| next (h .logLevel) rfl

/-- A JSON object without settings is read as the default record. -/
theorem build_of_absent {ms : Members Json} (h : ∀ k : Setting, Members.find? k.key ms = none) :
    record.build ms = .ok default := by
  have field {α : Type} [Coded α] {value : α} (k : Setting) :
      (Record.defaulted k.key value).build ms = .ok value := by
    simp only [Record.defaulted, Record.ofField, h k]
  open Record in
  exact build_seq (build_seq (build_seq (build_seq (build_seq (build_seq (build_seq (build_seq
    (build_seq (build_map (field .decisioning)) (field .unknownNames)) (field .sessionSpace))
    (field .visitSpace)) (field .countryCode)) (field .kdfMemory)) (field .kdfPasses))
    (field .kdfLanes)) (field .logFormat)) (field .logLevel)

/-! ## Tables and texts with some settings -/

/-- The table has these settings of a record, and no others; it may have other keys. -/
def Holds (t : Toml.Table) (c : Config) (ks : List Setting) : Prop :=
  ∀ k : Setting, Members.find? k.key t = if k ∈ ks then some (Legible.value (k.of c)) else none

theorem ofTable?_of_holds (h : Holds t c ks) : ofTable? t = some (c.only ks) := by
  refine ofTable?_of_settings fun k => ?_
  rw [of_only, setting?, h k]
  by_cases hk : k ∈ ks
  · simp only [if_pos hk, Legible.ofToml?_value]
  · simp only [if_neg hk, k.absent_eq]

/-- The line of a setting. -/
def entry (c : Config) (k : Setting) : Toml.Entry where
  key := k.key
  text := TomlCoded.toToml (k.of c)
  value := Legible.value (k.of c)
  bare := k.bare_key
  reads := Legible.reads (k.of c)

/-- The lines of some settings. -/
def textOf (c : Config) (ks : List Setting) : String :=
  String.ofList (ks.flatMap fun k => line k.key (k.of c))

theorem toToml_eq (c : Config) : c.toToml = c.textOf Setting.all := by
  rw [toToml, textOf]
  simp only [Setting.all, List.flatMap_cons, List.flatMap_nil, List.append_nil, List.append_assoc]
  rfl

theorem parse?_textOf (c : Config) (ks : List Setting) :
    Toml.parse? (c.textOf ks) = if ks.Nodup then
      some (Members.ofList (ks.map fun k => (k.key, Legible.value (k.of c)))) else none := by
  have text : c.textOf ks = String.ofList ((ks.map (entry c)).flatMap Toml.Entry.line) := by
    rw [List.flatMap_map]
    rfl
  have keys : (ks.map (entry c)).map Toml.Entry.key = ks.map Setting.key := List.map_map
  rw [text, Toml.parse?_lines, keys, List.map_map]
  exact if_congr (List.nodup_map_iff Setting.key_injective) rfl rfl

theorem holds_ofList (distinct : ks.Nodup) (c : Config) :
    Holds (Members.ofList (ks.map fun k => (k.key, Legible.value (k.of c)))) c ks := by
  have keys : (ks.map fun k => (k.key, Legible.value (k.of c))).map (·.1) = ks.map Setting.key :=
    List.map_map
  have hkeys : (ks.map Setting.key).Nodup := distinct.map Setting.key_injective
  intro k
  rw [Members.find?_ofList (keys ▸ hkeys)]
  split
  · exact Members.find?_of_mem (keys ▸ hkeys) (List.mem_map.2 ⟨k, ‹_›, rfl⟩)
  · rename_i hk
    refine Members.find?_eq_none ?_
    rwa [keys, List.mem_map_of_injective Setting.key_injective]

/-- What texts with settings of a record are read as. -/
structure Rereads (c : Config) : Prop where
  /-- The text of all settings is read as the record. -/
  whole : ofToml c.toToml = .ok c
  /-- Lines of some settings, in any order, are read as the record with the defaults of the others;
      no setting may come up twice. -/
  lines (ks : List Setting) :
    ofToml (c.textOf ks) = if ks.Nodup then .ok (c.only ks) else .error .invalid
  /-- So is any other text of a table with some settings. -/
  table {ks : List Setting} {text : String} {t : Toml.Table} (parsed : Toml.parse? text = some t)
    (h : Holds t c ks) : ofToml text = .ok (c.only ks)
  /-- That record agrees with the given one where a setting is chosen, and with the defaults where
      it is not. -/
  agrees (ks : List Setting) (k : Setting) :
    k.of (c.only ks) = if k ∈ ks then k.of c else k.of default

/-- **Settings are read as they were written, all of them or some.** -/
theorem rereads (c : Config) : Rereads c := by
  have table {ks : List Setting} {text : String} {t : Toml.Table}
      (parsed : Toml.parse? text = some t) (h : Holds t c ks) : ofToml text = .ok (c.only ks) := by
    rw [ofToml, parsed, Option.bind_some, ofTable?_of_holds h]
  have lines (ks : List Setting) :
      ofToml (c.textOf ks) = if ks.Nodup then .ok (c.only ks) else .error .invalid := by
    have parsed := parse?_textOf c ks
    split at parsed
    · rename_i distinct
      rw [if_pos distinct, table parsed (holds_ofList distinct c)]
    · rename_i twice
      rw [if_neg twice, ofToml, parsed, Option.bind_none]
  have whole : ofToml c.toToml = .ok c := by
    rw [toToml_eq, lines, if_pos (by decide), only_all]
  exact ⟨whole, lines, table, of_only c⟩

/-- Blanks, comments and other keys make no difference. -/
example : ofToml "  log_level = 'debug' # more\n[other]\nlog_level = 1\n" =
    .ok { default with logLevel := "debug" } := by
  decide +kernel

end Proofing.Config
