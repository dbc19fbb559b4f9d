import Proofing.Config
import Proofing.Toml.Document
import Proofing.Toml.Printer
/-
  Proofing — settings as TOML texts.

  `Config.toToml` writes every setting on a line of its own; `Config.ofToml` reads
  a text in which any of them may be absent, and passes over other keys.  A setting
  that is absent is read as what it falls back to in every record of settings.
-/
namespace Proofing

/-- Why there are no settings. -/
inductive ConfigError where
  /-- The file with the settings cannot be read. -/
  | file (text : String)
  /-- The text is no record of settings. -/
  | invalid
  deriving DecidableEq, Repr

/-- The wording of an error. -/
def ConfigError.message : ConfigError → String
  | file text => "cannot read config file: " ++ text
  | invalid => "invalid config"

namespace Config

/-- The values that settings may have in a TOML text. -/
class TomlCoded (α : Type) where
  ofToml? : Toml.Value → Option α
  toToml : α → List Char

instance : TomlCoded Bool where
  ofToml?
    | .bool b => some b
    | _ => none
  toToml b := (toString b).toList

instance : TomlCoded String where
  ofToml?
    | .str s => some s
    | _ => none
  toToml s := Toml.stringChars s.toList

instance : TomlCoded UInt32 where
  ofToml?
    | .int n => if 0 ≤ n ∧ n < UInt32.size then some (UInt32.ofNat n.toNat) else none
    | _ => none
  toToml n := (toString n.toNat).toList

/-- A name, or a table whose only key is the name and whose only value is empty. -/
def variant? {α : Type} [Variants α] : Toml.Value → Option α
  | .str s => Variants.ofName? s
  | .table _ [(name, .arr [])] => Variants.ofName? name
  | .table _ [(name, .table _ [])] => Variants.ofName? name
  | _ => none

instance {α : Type} [Variants α] : TomlCoded α where
  ofToml? := variant?
  toToml a := Toml.stringChars (Variants.name a).toList

/-- The setting under a key, or what it falls back to. -/
def setting? {α : Type} [TomlCoded α] (t : Toml.Table) (key : String) (absent : α) : Option α :=
  match Members.find? key t with
  | none => some absent
  | some v => TomlCoded.ofToml? v

/-- The settings in a table. -/
def ofTable? (t : Toml.Table) : Option Config := do
  return {
    decisioning := ← setting? t "device_profiling_decisioning_enabled" false
    unknownNames := ← setting? t "unknown_attribute_policy" UnknownNames.standard
    sessionSpace := ← setting? t "session_namespace" defaultSessionSpace
    visitSpace := ← setting? t "in_person_namespace" defaultVisitSpace
    countryCode := ← setting? t "default_phone_country_code" defaultCountryCode
    kdfMemory := ← setting? t "pii_kdf_memory_kib" defaultKdfMemory
    kdfPasses := ← setting? t "pii_kdf_iterations" defaultKdfPasses
    kdfLanes := ← setting? t "pii_kdf_parallelism" defaultKdfLanes
    logFormat := ← setting? t "log_format" LogFormat.standard
    logLevel := ← setting? t "log_level" defaultLogLevel }

/-- The settings in a text. -/
def ofToml (text : String) : Except ConfigError Config :=
  match (Toml.parse? text).bind ofTable? with
  | some c => .ok c
  | none => .error .invalid

/-- A setting on a line. -/
def line {α : Type} [TomlCoded α] (key : String) (a : α) : List Char :=
  Toml.line key (TomlCoded.toToml a)

/-- The text of settings, in the order of declaration. -/
def toToml (c : Config) : String :=
  String.ofList <|
    line "device_profiling_decisioning_enabled" c.decisioning ++
      line "unknown_attribute_policy" c.unknownNames ++ line "session_namespace" c.sessionSpace ++
      line "in_person_namespace" c.visitSpace ++
      line "default_phone_country_code" c.countryCode ++ line "pii_kdf_memory_kib" c.kdfMemory ++
      line "pii_kdf_iterations" c.kdfPasses ++ line "pii_kdf_parallelism" c.kdfLanes ++
      line "log_format" c.logFormat ++ line "log_level" c.logLevel

end Config

end Proofing
