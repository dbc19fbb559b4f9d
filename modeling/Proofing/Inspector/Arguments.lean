import Proofing.Config
import Proofing.Session.Reset
/-
  Proofing — the arguments of the command line.

  Options stand before the command, and the arguments of a command after it.  A
  value follows its option as an argument of its own or after an equals sign; only
  in the latter case, or after `--`, may it start with a hyphen, a lone hyphen
  apart.  What is not given is looked for in the environment.
-/
namespace Proofing.Inspector

/-- What to do. -/
inductive Command where
  /-- Show how far a session has come. -/
  | inspect (path : String)
  /-- Reset a step of a session, and write it back or show it. -/
  | invalidate (path : String) (reset : Reset) (write : Bool)
  /-- Show a phone number in international form. -/
  | normalizePhone (raw : String)
  /-- Show the default settings. -/
  | defaultConfig
  deriving DecidableEq

/-- The arguments. -/
structure Arguments where
  /-- The file with the settings. -/
  config : Option String
  logLevel : Option String
  logFormat : Option LogFormat
  command : Command

/-- Why there is nothing to do. -/
inductive Usage where
  /-- Help was asked for. -/
  | help
  /-- The arguments make no sense. -/
  | wrong
  deriving DecidableEq, Repr

/-- The environment, by name. -/
abbrev Environment := String → Option String

namespace Arguments

/-- An argument by its form. -/
inductive Form where
  /-- It ends the options. -/
  | separator
  /-- An option, with the value behind its equals sign. -/
  | option (name : String) (value : Option String)
  /-- Some letters after a single hyphen. -/
  | letters (names : List Char)
  | plain (text : String)

/-- The characters before and after the first equals sign. -/
def splitEquals : List Char → List Char × Option (List Char)
  | [] => ([], none)
  | '=' :: rest => ([], some rest)
  | c :: rest =>
    let (name, value) := splitEquals rest
    (c :: name, value)

/-- The form of an argument. -/
def form (text : String) : Form :=
  match text.toList with
  | ['-', '-'] => .separator
  | '-' :: '-' :: rest =>
    let (name, value) := splitEquals rest
    .option (String.ofList name) (value.map String.ofList)
  | '-' :: c :: rest => .letters (c :: rest)
  | _ => .plain text

/-- The letters ask for help before anything else. -/
def asksHelp (names : List Char) : Bool :=
  names.head? == some 'h'

/-- The value of an option, behind its equals sign or in the next argument, and the arguments that
    follow. -/
def value (given : Option String) (rest : List String) : Except Usage (String × List String) :=
  match given, rest with
  | some v, rest => .ok (v, rest)
  | none, [] => .error .wrong
  | none, v :: rest =>
    match form v with
    | .plain v => .ok (v, rest)
    | _ => .error .wrong

/-- A value for what has none yet. -/
def once {α : Type} (old : Option α) (new : α) : Except Usage (Option α) :=
  if old.isSome then .error .wrong else .ok (some new)

/-- A path is not empty. -/
def path (text : String) : Except Usage String :=
  if text.isEmpty then .error .wrong else .ok text

/-- A format of log lines. -/
def format (text : String) : Except Usage LogFormat :=
  match LogFormat.parse text with
  | .ok f => .ok f
  | .error _ => .error .wrong

/-- The step with a name. -/
def step (name : String) : Except Usage Reset :=
  match name with
  | "after-ssn" => .ok .afterSsn
  | "verify-info" => .ok .resolution
  | "after-verify-info" => .ok .afterResolution
  | "phone" => .ok .phone
  | "applicant" => .ok .applicant
  | _ => .error .wrong

/-- What is known of the arguments of a command. -/
structure Partial where
  operand : Option String
  step : Option Reset
  write : Bool

/-- How a command reads its operand, if it has one. -/
abbrev Operand := Option (String → Except Usage String)

/-- The operand of a command that has none yet. -/
def operand (o : Operand) (old : Option String) (text : String) : Except Usage (Option String) := do
  match o with
  | none => throw .wrong
  | some read => once old (← read text)

/-- Reads the arguments of a command in turn. -/
def operands (resets : Bool) (o : Operand) (p : Partial) : Nat → List String → Except Usage Partial
  | 0, _ => .error .wrong
  | _ + 1, [] => .ok p
  | fuel + 1, a :: rest =>
    match form a with
    | .separator => do return { p with operand := ← rest.foldlM (operand o) p.operand }
    | .option "help" none => .error .help
    | .option "step" given => do
      if !resets then throw .wrong
      let (name, rest) ← value given rest
      operands resets o { p with step := ← once p.step (← step name) } fuel rest
    | .option "write" none =>
      if !resets || p.write then .error .wrong
      else operands resets o { p with write := true } fuel rest
    | .option .. => .error .wrong
    | .letters names => .error (if asksHelp names then .help else .wrong)
    | .plain text => do
      operands resets o { p with operand := ← operand o p.operand text } fuel rest

/-- The names of the commands. -/
def commandNames : List String :=
  ["inspect", "invalidate", "normalize-phone", "default-config", "help"]

/-- What follows from asking for help on a command; commands have no commands of their own. -/
def helpOn : List String → Usage
  | [] => .help
  | [name] => if name ∈ commandNames then .help else .wrong
  | _ => .wrong

/-- The command with a name and arguments. -/
def commandNamed (name : String) (rest : List String) : Except Usage Command := do
  let read (resets : Bool) (o : Operand) :=
    operands resets o ⟨none, none, false⟩ (rest.length + 1) rest
  let need {α : Type} (a : Option α) : Except Usage α :=
    match a with
    | some a => .ok a
    | none => .error .wrong
  match name with
  | "inspect" => do
    let p ← read false (some path)
    return .inspect (← need p.operand)
  | "invalidate" => do
    let p ← read true (some path)
    return .invalidate (← need p.operand) (← need p.step) p.write
  | "normalize-phone" => do
    let p ← read false (some pure)
    return .normalizePhone (← need p.operand)
  | "default-config" => do
    let _ ← read false none
    return .defaultConfig
  | "help" => throw (helpOn rest)
  | _ => throw .wrong

/-- What is known of the options. -/
structure Options where
  config : Option String
  logLevel : Option String
  logFormat : Option LogFormat

/-- Takes from the environment what the arguments do not say. -/
def complete (env : Environment) (o : Options) : Except Usage Options := do
  let config ← match o.config, env "IDV_CONFIG" with
    | none, some text => (path text).map some
    | given, _ => .ok given
  let logFormat ← match o.logFormat, env "IDV_LOG_FORMAT" with
    | none, some text => (format text).map some
    | given, _ => .ok given
  return ⟨config, o.logLevel <|> env "IDV_LOG_LEVEL", logFormat⟩

/-- Reads the options and then the command. -/
def options (env : Environment) (o : Options) : Nat → List String → Except Usage Arguments
  | 0, _ | _ + 1, [] => .error .wrong
  | fuel + 1, a :: rest =>
    match form a with
    | .separator => .error .wrong
    | .option "help" none => .error .help
    | .option "config" given => do
      let (text, rest) ← value given rest
      options env { o with config := ← once o.config (← path text) } fuel rest
    | .option "log-level" given => do
      let (text, rest) ← value given rest
      options env { o with logLevel := ← once o.logLevel text } fuel rest
    | .option "log-format" given => do
      let (text, rest) ← value given rest
      options env { o with logFormat := ← once o.logFormat (← format text) } fuel rest
    | .option .. => .error .wrong
    | .letters names => .error (if asksHelp names then .help else .wrong)
    | .plain name => do
      let c ← commandNamed name rest
      let o ← complete env o
      return ⟨o.config, o.logLevel, o.logFormat, c⟩

/-- Reads the arguments. -/
def parse (env : Environment) (args : List String) : Except Usage Arguments :=
  options env ⟨none, none, none⟩ (args.length + 1) args

end Arguments

end Proofing.Inspector
