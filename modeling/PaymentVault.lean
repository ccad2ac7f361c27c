import PaymentVault.Payment.Query
import PaymentVault.Rehearsal.Rotation
import PaymentVault.Snapshot.Form
import PaymentVault.Wallet.Description
import PaymentVault.Wallet.Outcome
import PaymentVault.Wallet.Payments
import PaymentVault.Wallet.Settings
import PaymentVault.Proofs.Rotation.BeforeCommit
import PaymentVault.Proofs.Rotation.Reversibility
import PaymentVault.Proofs.Rotation.RollBack
import PaymentVault.Proofs.Wallet.Course
import PaymentVault.Proofs.Snapshot.RoundTrip
import PaymentVault.Proofs.Ledger.Confluence
import PaymentVault.Proofs.Ledger.Funding
import PaymentVault.Proofs.Wallet.Listener
import PaymentVault.Proofs.Ledger.Repetition
import PaymentVault.Proofs.Ledger.Effect
import PaymentVault.Proofs.Payment.Order
import PaymentVault.Proofs.Wallet.PaymentsList
import PaymentVault.Proofs.Snapshot.Reading
import PaymentVault.Proofs.Vault.SealedFile
import PaymentVault.Proofs.Wallet.Forms
import PaymentVault.Proofs.Wallet.Closing
import PaymentVault.Proofs.Wallet.Identity
import PaymentVault.Proofs.Snapshot.Evolution
import PaymentVault.Proofs.Payment.Conversion
import PaymentVault.Proofs.Payment.Search
import PaymentVault.Proofs.Wallet.Recovery
import PaymentVault.Proofs.Wallet.FundedRequests
import PaymentVault.Proofs.Wallet.LoadFailure
