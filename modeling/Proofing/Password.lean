/-
  Proofing — the password of an account.  Nothing shows it but `text`.
-/
namespace Proofing

/-- The password that opens the sealed data of an account. -/
structure Password where
  text : String
  deriving DecidableEq

/-- What is shown in place of a password. -/
def Password.redacted : String := "Password(<redacted>)"

end Proofing
