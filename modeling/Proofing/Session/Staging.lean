import Proofing.Session.Basic
import Proofing.Vault
/-
  Proofing — moving staged personal data into the vault.

  The data goes in under the profile of the session and is then no longer staged,
  so a second attempt finds nothing to do; an attempt that fails leaves it staged.
-/
namespace Proofing

/-- Stages personal data in the session. -/
def Session.stage (s : Session) (t : StagedText) : Session :=
  { s with staged := some t }

/-- Takes what is staged in a session into the vault, and says whether there was anything. -/
def Vault.relocate (v : Vault) (s : Session) (user : UserId) :
    Except StoreFault (Bool × Session × Vault) :=
  if s.hasStaged then
    match s.profileId, s.staged with
    | some id, some t => do
      let v ← v.persist user id t
      return (true, { s with staged := none }, v)
    | _, _ => return (false, s, v)
  else return (false, s, v)

end Proofing
