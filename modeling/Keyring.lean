import Keyring.Command.Run
import Keyring.Engine.Run
import Keyring.Main
import Keyring.Proofs.Account.Documents
import Keyring.Proofs.Account.Registry
import Keyring.Proofs.Action
import Keyring.Proofs.Base58
import Keyring.Proofs.Command.Expiry
import Keyring.Proofs.Crypto.Canonical
import Keyring.Proofs.Derivation.Search
import Keyring.Proofs.Engine.Allowance
import Keyring.Proofs.Engine.Approving
import Keyring.Proofs.Engine.Atomicity
import Keyring.Proofs.Engine.Batch
import Keyring.Proofs.Engine.Expiring
import Keyring.Proofs.Engine.Labels
import Keyring.Proofs.Engine.Liveness
import Keyring.Proofs.Engine.Mirror
import Keyring.Proofs.Engine.Replay
import Keyring.Proofs.Engine.Revising
import Keyring.Proofs.Engine.Revoking
import Keyring.Proofs.Engine.Withdrawal
import Keyring.Proofs.Journal.Tail
import Keyring.Proofs.Signature
import Keyring.Proofs.Store.ReadBack
import Keyring.Proofs.Token.Supply
