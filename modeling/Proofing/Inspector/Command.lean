import Proofing.Config.Toml
import Proofing.Inspector.Arguments
import Proofing.Inspector.Path
import Proofing.Inspector.Summary
/-
  Proofing — the commands that look into stored sessions.

  `run` does what the arguments say.  Files and the standard input are reached
  through a `Host`, so that a run can be a pure function of what they hold.
-/
namespace Proofing.Inspector

/-- Files and the standard input; a failure comes with its text. -/
structure Host (m : Type → Type) where
  readFile : String → m (Except String String)
  readInput : m (Except String String)
  writeFile : String → String → m (Except String Unit)

/-- What a run leaves. -/
structure Report where
  code : Nat
  output : String
  /-- The first line that is reported where the run fails. -/
  trouble : Option String
  deriving DecidableEq, Repr

namespace Report

/-- A run that did what it was asked for. -/
def done (output : String) : Report := ⟨0, output, none⟩

/-- A run that failed. -/
def failed (text : String) : Report := ⟨1, "", some ("Error: " ++ text)⟩

/-- A run whose arguments make no sense. -/
def misused : Report := ⟨2, "", none⟩

end Report

/-- How the commands are used. -/
def help : String :=
  "Usage: proofing [--config FILE] [--log-level LEVEL] [--log-format FORMAT] COMMAND\n\n" ++
  "Commands:\n" ++
  "  inspect SESSION                          show where a session stands\n" ++
  "  invalidate SESSION --step STEP [--write] reset a step of a session\n" ++
  "  normalize-phone RAW                      show a phone number in E.164 form\n" ++
  "  default-config                           show the default configuration\n"

/-- Loads a session, resets a step and stores the session; none if the session is locked. -/
def applyReset (web : WebSession) (config : Config) (reset : Reset) : Option WebSession :=
  match (Session.load web config).reset reset with
  | (.locked, _) => none
  | (.cleared, s) => some (s.store web)

section

variable {m : Type → Type} [Monad m]

/-- The text at a path. -/
def readText (host : Host m) (path : String) : m (Except String String) :=
  if isInput path then host.readInput
  else (Except.mapError fun _ => "reading " ++ path) <$> host.readFile path

/-- The web session at a path. -/
def readSession (host : Host m) (path : String) : m (Except String WebSession) := do
  let text ← readText host path
  return text.bind fun text =>
    match WebSession.ofText? text with
    | some web => .ok web
    | none => .error "session file is not a serialized UserSession"

/-- The settings at a path, or the default ones. -/
def readConfig (host : Host m) : Option String → m (Except String Config)
  | none => return .ok Config.default
  | some path => do
    match ← host.readFile path with
    | .error text => return .error (ConfigError.file text).message
    | .ok text => return (Config.ofToml text).mapError ConfigError.message

/-- Does what a command says. -/
def execute (host : Host m) (config : Config) : Command → m (Except String String)
  | .inspect path => do
    return (← readSession host path).map fun web =>
      Json.pretty (summary (Session.load web config)) ++ "\n"
  | .invalidate path reset write => do
    match ← readSession host path with
    | .error text => return .error text
    | .ok web =>
      match applyReset web config reset with
      | none => return .error "session already has a profile; refusing to invalidate"
      | some web =>
        if write && !isInput path then
          return ((← host.writeFile path web.text).mapError fun _ => "writing " ++ path).map
            fun _ => ""
        else return .ok (web.text ++ "\n")
  | .normalizePhone raw =>
    return ((config.normalizer.parse raw).mapError FormatError.message).map fun n => n.text ++ "\n"
  | .defaultConfig => return .ok Config.default.toToml

/-- Does what the arguments say; the settings are read before anything else. -/
def run (host : Host m) (env : Environment) (args : List String) : m Report := do
  match Arguments.parse env args with
  | .error .help => return .done help
  | .error .wrong => return .misused
  | .ok a =>
    match ← readConfig host a.config with
    | .error text => return .failed text
    | .ok config =>
      match ← execute host config a.command with
      | .error text => return .failed text
      | .ok output => return .done output

end

end Proofing.Inspector
