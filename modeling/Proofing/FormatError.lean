/-
  Proofing — texts that do not have the form they need.
-/
namespace Proofing

/-- A text is no phone number, personal key or cache token. -/
inductive FormatError where
  /-- The text is not a phone number. -/
  | phone (raw : String)
  /-- The text is not four groups of four letters or digits. -/
  | personalKey
  /-- The token is blank. -/
  | cacheToken (raw : String)
  deriving DecidableEq, Repr

/-- What is said about the text. -/
def FormatError.message : FormatError → String
  | phone raw => "invalid E.164 phone number: " ++ raw
  | personalKey => "invalid personal key format"
  | cacheToken raw => "invalid cache token: " ++ raw

end Proofing
