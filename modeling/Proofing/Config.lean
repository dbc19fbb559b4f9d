import Proofing.Envelope
import Proofing.Phone.Normalizer
/-
  Proofing — the settings of a flow.

  Every setting has a default of its own, which a record of settings falls back to
  where the setting is absent (`Config.record`).  The settings where there is no
  record at all are `Config.default`.
-/
namespace Proofing

/-- What becomes of names that are no attributes. -/
inductive UnknownNames where
  /-- Access by such a name is an error. -/
  | reject
  /-- Access by such a name finds nothing and writes nothing. -/
  | ignore
  deriving DecidableEq, Repr

/-- What becomes of such names unless it is chosen. -/
def UnknownNames.standard : UnknownNames := .reject

/-- The name in stored data. -/
def UnknownNames.name : UnknownNames → String
  | reject => "reject"
  | ignore => "log_and_ignore"

instance : Variants UnknownNames :=
  ⟨[("reject", .reject), ("log_and_ignore", .ignore)], UnknownNames.name⟩

/-- The form of log lines. -/
inductive LogFormat where
  | human
  | json
  deriving DecidableEq, Repr

namespace LogFormat

/-- The form of log lines unless it is chosen. -/
def standard : LogFormat := .human

/-- The name in stored data. -/
def name : LogFormat → String
  | human => "human"
  | json => "json"

instance : Variants LogFormat := ⟨[("human", .human), ("json", .json)], LogFormat.name⟩

/-- The format with a name, in any case of ASCII letters; else the name in lower case. -/
def parse (text : String) : Except String LogFormat :=
  match String.ofList (Text.lower text.toList) with
  | "human" => .ok human
  | "json" => .ok json
  | other => .error other

end LogFormat

/-- The settings. -/
structure Config where
  /-- Verdicts of device profiling hold profiles back. -/
  decisioning : Bool
  unknownNames : UnknownNames
  /-- The key of a flow in a web session. -/
  sessionSpace : String
  /-- The key of the data of visits in a web session. -/
  visitSpace : String
  /-- The country code of phone numbers without one. -/
  countryCode : String
  kdfMemory : UInt32
  kdfPasses : UInt32
  kdfLanes : UInt32
  logFormat : LogFormat
  logLevel : String
  deriving DecidableEq

namespace Config

/-! ## Defaults -/

def defaultSessionSpace : String := "idv"

def defaultVisitSpace : String := "idv/in_person"

def defaultCountryCode : String := "1"

def defaultKdfMemory : UInt32 := KeyCost.standard.memory

def defaultKdfPasses : UInt32 := KeyCost.standard.passes

def defaultKdfLanes : UInt32 := KeyCost.standard.lanes

def defaultLogLevel : String := "info"

/-- The settings where none are given. -/
def default : Config where
  decisioning := false
  unknownNames := .standard
  sessionSpace := defaultSessionSpace
  visitSpace := defaultVisitSpace
  countryCode := defaultCountryCode
  kdfMemory := defaultKdfMemory
  kdfPasses := defaultKdfPasses
  kdfLanes := defaultKdfLanes
  logFormat := .standard
  logLevel := defaultLogLevel

/-- The default settings with a cost of keys that protects nothing. -/
def light : Config :=
  { default with
    kdfMemory := KeyCost.light.memory
    kdfPasses := KeyCost.light.passes
    kdfLanes := KeyCost.light.lanes }

/-- The cost of keys. -/
def cost (c : Config) : KeyCost :=
  ⟨c.kdfMemory, c.kdfPasses, c.kdfLanes⟩

/-- How phone numbers are read. -/
def normalizer (c : Config) : Normalizer :=
  ⟨c.countryCode⟩

/-- The fields of a record of settings, each with what it falls back to. -/
def record : Record Config :=
  Config.mk <$> .defaulted "device_profiling_decisioning_enabled" false <*>
    .defaulted "unknown_attribute_policy" UnknownNames.standard <*>
    .defaulted "session_namespace" defaultSessionSpace <*>
    .defaulted "in_person_namespace" defaultVisitSpace <*>
    .defaulted "default_phone_country_code" defaultCountryCode <*>
    .defaulted "pii_kdf_memory_kib" defaultKdfMemory <*>
    .defaulted "pii_kdf_iterations" defaultKdfPasses <*>
    .defaulted "pii_kdf_parallelism" defaultKdfLanes <*> .defaulted "log_format" LogFormat.standard <*>
    .defaulted "log_level" defaultLogLevel

/-- The settings under their names, in the order of declaration. -/
def members (c : Config) : List (String × Json) :=
  [("device_profiling_decisioning_enabled", .bool c.decisioning),
    ("unknown_attribute_policy", Coded.encode c.unknownNames),
    ("session_namespace", .str c.sessionSpace), ("in_person_namespace", .str c.visitSpace),
    ("default_phone_country_code", .str c.countryCode),
    ("pii_kdf_memory_kib", Coded.encode c.kdfMemory),
    ("pii_kdf_iterations", Coded.encode c.kdfPasses),
    ("pii_kdf_parallelism", Coded.encode c.kdfLanes), ("log_format", Coded.encode c.logFormat),
    ("log_level", .str c.logLevel)]

instance : Coded Config := ⟨fun c => .ofMembers c.members, record.decode "IdvConfig"⟩

end Config

end Proofing
