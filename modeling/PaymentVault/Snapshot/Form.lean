import PaymentVault.Payment.Form
import PaymentVault.Snapshot.Basic

/-!
# Snapshots in JSON
-/
namespace PaymentVault.Snapshot

open Json Json.Format

def form : Format Snapshot :=
  (Members.required "requests" PaymentRequest.form.list <|
    .required "annotations" Memo.form.list .done).format.imap
    (fun (requests, memos, _) => { requests, memos })
    (fun s => (s.requests, s.memos, ()))

end PaymentVault.Snapshot
