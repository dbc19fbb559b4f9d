import Proofing.Completion.Basic
import Proofing.Inspector.Disk
import Proofing.Main
import Proofing.Proofs.Completion.Activation
import Proofing.Proofs.Completion.Confluence
import Proofing.Proofs.Completion.Crowd
import Proofing.Proofs.Completion.Evidence
import Proofing.Proofs.Completion.Key
import Proofing.Proofs.Completion.Ledger
import Proofing.Proofs.Completion.Locked
import Proofing.Proofs.Completion.Recovery
import Proofing.Proofs.Completion.Relocation
import Proofing.Proofs.Completion.Restart
import Proofing.Proofs.Completion.Status
import Proofing.Proofs.Completion.Tabs
import Proofing.Proofs.Config
import Proofing.Proofs.Hex
import Proofing.Proofs.Idempotency
import Proofing.Proofs.Inspector.Discretion
import Proofing.Proofs.Inspector.Resets
import Proofing.Proofs.Opening
import Proofing.Proofs.PersonalKey.Laws
import Proofing.Proofs.Phone.Grammar
import Proofing.Proofs.Pii
import Proofing.Proofs.Profile
import Proofing.Proofs.Sealing
import Proofing.Proofs.Session.Capture
import Proofing.Proofs.Session.Laws
import Proofing.Proofs.Session.Rejections
import Proofing.Proofs.Vault
