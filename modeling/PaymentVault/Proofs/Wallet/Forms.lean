import PaymentVault.Payment.Form
import PaymentVault.Proofs.Json.Alternatives
import PaymentVault.Proofs.Snapshot.RoundTrip
import PaymentVault.Proofs.Vault.Draft
import PaymentVault.Proofs.Vault.SummaryFile
import PaymentVault.Rehearsal.Cipher
import PaymentVault.Wallet.Outcome
import PaymentVault.Wallet.Settings

/-!
# Reading back what is kept as JSON

Whatever a wallet keeps or reports as JSON is parsed as it was, in either layout; of its decimals
only a zero can lose something, namely its sign (`json_round_trip`). A summary without notes is
the summary with empty ones, in whatever order its members stand.
-/
namespace PaymentVault

open Json Json.Format

/-- Whatever is printed in either layout is parsed as the same again. -/
def Json.Format.RoundTrips {α : Type} (format : Format α) (same : α → α → Prop) : Prop :=
  ∀ a, ∃ a', format.parse (format.write a).compactText = .ok a' ∧
    format.parse (format.write a).indentedText = .ok a' ∧ same a' a

namespace Json.Format

variable {α : Type} {format : Format α}

theorem roundTrips_of_yields {settle : α → α} (yields : ∀ a, format.Yields a (settle a))
    {same : α → α → Prop} (related : ∀ a, same (settle a) a) : format.RoundTrips same := by
  intro a
  exact ⟨settle a, (yields a).parse_compactText, (yields a).parse_indentedText, related a⟩

theorem ReadsBack.roundTrips (back : format.ReadsBack) : format.RoundTrips (· = ·) :=
  roundTrips_of_yields back fun _ => rfl

end Json.Format

/-! ## Names -/

theorem Classification.form_readsBack : Classification.form.ReadsBack :=
  named_readsBack fun classification => by cases classification <;> decide

theorem Severity.form_readsBack : Severity.form.ReadsBack :=
  named_readsBack fun severity => by cases severity <;> decide

theorem StatusReason.form_readsBack : StatusReason.form.ReadsBack :=
  named_readsBack fun reason => by cases reason <;> decide

theorem PaymentKind.form_readsBack : PaymentKind.form.ReadsBack :=
  named_readsBack fun kind => by cases kind <;> decide

theorem RotationReason.form_readsBack : RotationReason.form.ReadsBack :=
  named_readsBack fun reason => by cases reason <;> decide

/-! ## Records -/

theorem optional_string : string.optional.ReadsBack := string_readsBack.optional nofun

theorem optional_uint64 : uint64.optional.ReadsBack := uint64_readsBack.optional nofun

theorem optional_decimal (d : Option Decimal) :
    decimal.optional.Yields d (d.map Decimal.settled) :=
  optional_yields decimal_yields nofun d

theorem Status.form_readsBack : Status.form.ReadsBack := by
  intro status
  refine Yields.imap (Members.format_yields (by decide) ?_) rfl
  exact ⟨Severity.form_readsBack _, StatusReason.form_readsBack _,
    uint32_readsBack.optional nofun _, uint32_readsBack _, trivial⟩

theorem FiatValue.form_yields (value : FiatValue) : FiatValue.form.Yields value value.settled := by
  refine Yields.imap (Members.format_yields (by decide) ?_) rfl
  exact ⟨optional_string _, optional_decimal _, optional_string _, optional_decimal _, trivial⟩

theorem PaymentRequest.form_yields (r : PaymentRequest) : PaymentRequest.form.Yields r r.settled := by
  refine Yields.imap (Members.format_yields (by decide) ?_) rfl
  exact ⟨string_readsBack _, uint64_readsBack _, uint64_readsBack _, optional_string _,
    optional_string _, instant_readsBack _, FiatValue.form_yields _, string_readsBack.list _,
    trivial⟩

theorem Memo.form_yields (memo : Memo) : Memo.form.Yields memo memo.settled := by
  refine Yields.imap (Members.format_yields (by decide) ?_) rfl
  exact ⟨string_readsBack _, optional_string _, FiatValue.form_yields _, optional_uint64 _,
    optional_uint64 _, trivial⟩

namespace TransactionPayment

/-- The transaction as it comes back from text: no zero keeps a sign. -/
def settled (t : TransactionPayment) : TransactionPayment := { t with fiat := t.fiat.settled }

/-- Transactions that agree in every field, in the fiat value up to signs of zeros. -/
structure Same (a b : TransactionPayment) : Prop where
  fiat : a.fiat.Same b.fiat
  others : { a with fiat := b.fiat } = b

theorem settled_same (t : TransactionPayment) : t.settled.Same t := ⟨t.fiat.settled_same, rfl⟩

theorem form_yields (t : TransactionPayment) : form.Yields t t.settled := by
  refine Yields.imap (Members.format_yields (by decide) ?_) rfl
  exact ⟨string_readsBack _, instant_readsBack _, Status.form_readsBack _, int64_readsBack _,
    FiatValue.form_yields _, optional_uint64 _, optional_uint64 _,
    Classification.form_readsBack.optional nofun _, PaymentKind.form_readsBack _,
    string_readsBack _, string_readsBack _, bool_readsBack _, string_readsBack.list _,
    string_readsBack _, uint64_readsBack _, trivial⟩

end TransactionPayment

namespace Payment

def settled : Payment → Payment
  | request r => request r.settled
  | transaction t => transaction t.settled

/-- Payments of one kind that agree up to signs of zeros. -/
inductive Same : Payment → Payment → Prop
  | request {a b : PaymentRequest} (same : a.Same b) : Same (.request a) (.request b)
  | transaction {a b : TransactionPayment} (same : a.Same b) : Same (.transaction a) (.transaction b)

theorem settled_same (payment : Payment) : payment.settled.Same payment := by
  cases payment with
  | request r => exact .request r.settled_same
  | transaction t => exact .transaction t.settled_same

theorem form_yields (payment : Payment) : form.Yields payment payment.settled := by
  cases payment with
  | request r => exact Yields.imap (either_yields_inl r.form_yields) rfl
  | transaction t => exact Yields.imap (either_yields_inr (by decide) t.form_yields) rfl

end Payment

theorem Argon2.Params.form_readsBack : Argon2.Params.form.ReadsBack := by
  intro params
  refine Yields.imap (Members.format_yields (by decide) ?_) rfl
  exact ⟨uint32_readsBack _, uint32_readsBack _, uint32_readsBack _, trivial⟩

theorem RotationOutcome.form_readsBack : RotationOutcome.form.ReadsBack := by
  intro outcome
  refine Yields.imap (Members.format_yields (by decide) ?_) rfl
  exact ⟨bool_readsBack _, RotationReason.form_readsBack _, optional_string _, trivial⟩

theorem Settings.form_readsBack (directory : String) : (Settings.form directory).ReadsBack := by
  intro settings
  refine Yields.imap (Members.format_yields (by simp [Members.names]) ?_) rfl
  exact ⟨string_readsBack _, Argon2.Params.form_readsBack _, uint64_readsBack _, uint64_readsBack _,
    uint64_readsBack _, trivial⟩

/-! ## Summaries -/

namespace WalletSummary

/-- The members of a summary that must be given. -/
def neededMembers (summary : WalletSummary) : List (String × Json) :=
  [("wallet_id", .string summary.walletId), ("name", .string summary.name),
    ("encrypted_backup_key", .string (Bytes.hex summary.sealedBackupKey)),
    ("encrypted_password", .string (Bytes.hex summary.sealedCredential))]

/-- Without notes a summary is read with empty ones, its members in any order. -/
theorem reads_of_perm {summary : WalletSummary} {members : List (String × Json)}
    (same : members.Perm summary.neededMembers) :
    Reads form.read (.object members) { summary with notes := "" } := by
  have names : summary.neededMembers.map (·.1) =
      ["wallet_id", "name", "encrypted_backup_key", "encrypted_password"] := rfl
  have known (name : String) : name ∈ members.map (·.1) ↔
      name ∈ ["wallet_id", "name", "encrypted_backup_key", "encrypted_password"] :=
    names ▸ (same.map (·.1)).mem_iff
  have distinct : (members.map (·.1)).Nodup := by
    rw [(same.map (·.1)).nodup_iff, names]
    decide
  refine Reads.imap ?_ rfl
  let values := (summary.walletId, summary.name, summary.notes, summary.sealedBackupKey,
    summary.sealedCredential, ())
  refine Members.reads_object (by decide) values values ?_ ?_ distinct ?_
  · exact ⟨string_readsBack _, string_readsBack _, string_readsBack _, hexBytes_readsBack _,
      hexBytes_readsBack _, trivial⟩
  · intro entry member
    have needed := same.mem_iff.1 member
    simp only [neededMembers, List.mem_cons, List.not_mem_nil, or_false] at needed
    rcases needed with rfl | rfl | rfl | rfl <;> simp [Members.write] <;> rfl
  · simp [Members.drafted, Members.complete?, known, values]

variable {summary : WalletSummary} {file : FilePath} {disk : Disk}

/-- Where a summary can be written, it is written and read back. -/
theorem read_write {place : List String} (writable : disk.writable file = .ok place)
    (willing : disk.refusals.head? ≠ some true) :
    (summary.write file disk).1 = .ok () ∧ read file (summary.write file disk).2 = .ok summary := by
  have written : (summary.write file disk).1 = .ok () :=
    (Disk.write_eq_ok_iff _ willing).2 ⟨place, writable⟩
  exact ⟨written, read_write_of_ok summary file disk written⟩

theorem read_of_parse {text : String} {found : WalletSummary}
    (stands : disk.read file = .ok (.ofText text)) (parsed : form.parse text = .ok found) :
    read file disk = .ok found := by
  simp only [read, stands, bind, Except.bind, parse, parseBytes_ofText, parsed]
  rfl

end WalletSummary

/-- Payments and their parts, summaries, costs of keys, outcomes and settings are parsed from
their text as they were, decimals with value and scale. A summary that is written is read from its
file; one without notes, in any order, is read with empty notes. -/
theorem json_round_trip :
    PaymentRequest.form.RoundTrips PaymentRequest.Same ∧ Memo.form.RoundTrips Memo.Same ∧
    FiatValue.form.RoundTrips FiatValue.Same ∧ Status.form.RoundTrips (· = ·) ∧
    TransactionPayment.form.RoundTrips TransactionPayment.Same ∧
    Payment.form.RoundTrips Payment.Same ∧ WalletSummary.form.RoundTrips (· = ·) ∧
    Argon2.Params.form.RoundTrips (· = ·) ∧ RotationOutcome.form.RoundTrips (· = ·) ∧
    (∀ directory, (Settings.form directory).RoundTrips (· = ·)) ∧
    (∀ (summary : WalletSummary) (file : FilePath) (disk : Disk) (place : List String),
      disk.writable file = .ok place → disk.refusals.head? ≠ some true →
      (summary.write file disk).1 = .ok () ∧
        WalletSummary.read file (summary.write file disk).2 = .ok summary) ∧
    ∀ (summary : WalletSummary) (members : List (String × Json)) (file : FilePath) (disk : Disk),
      members.Perm summary.neededMembers →
      disk.read file = .ok (.ofText (Json.object members).compactText) ∨
        disk.read file = .ok (.ofText (Json.object members).indentedText) →
      WalletSummary.read file disk = .ok { summary with notes := "" } := by
  refine ⟨?_, ?_, ?_, ?_, ?_, ?_, ?_, ?_, ?_, ?_, ?_, ?_⟩
  · exact roundTrips_of_yields PaymentRequest.form_yields PaymentRequest.settled_same
  · exact roundTrips_of_yields Memo.form_yields Memo.settled_same
  · exact roundTrips_of_yields FiatValue.form_yields FiatValue.settled_same
  · exact Status.form_readsBack.roundTrips
  · exact roundTrips_of_yields TransactionPayment.form_yields TransactionPayment.settled_same
  · exact roundTrips_of_yields Payment.form_yields Payment.settled_same
  · exact WalletSummary.form_readsBack.roundTrips
  · exact Argon2.Params.form_readsBack.roundTrips
  · exact RotationOutcome.form_readsBack.roundTrips
  · exact fun directory => (Settings.form_readsBack directory).roundTrips
  · exact fun summary file disk place => WalletSummary.read_write
  · intro summary members file disk same stands
    have reads := WalletSummary.reads_of_perm same
    rcases stands with compact | indented
    · exact WalletSummary.read_of_parse compact reads.parse_compactText
    · exact WalletSummary.read_of_parse indented reads.parse_indentedText

/-- A request from the first leap second there can be, with a zero that has a sign, and a summary
with a quote in its name, whose members without notes are read from the last to the first. -/
theorem json_round_trip_leap :
    let request : PaymentRequest :=
      { address := "\u0000\"\\"
        amount := 18446744073709551615
        date := ⟨-8334601228741, 1999999999, by decide, by decide, by decide, by decide⟩
        fiat := { rate := some ⟨true, 0, 28, by decide, by decide⟩ } }
    let summary : WalletSummary :=
      { walletId := "", name := "\"", notes := "", sealedBackupKey := [0], sealedCredential := [] }
    let file := WalletSummary.path (.root "wallet" 0)
    let text := (Json.object summary.neededMembers.reverse).compactText
    (∃ found, PaymentRequest.form.parse (PaymentRequest.form.write request).compactText = .ok found ∧
      found.Same request) ∧
      WalletSummary.read file (summary.write file (.rooted (.root "wallet" 0))).2 = .ok summary ∧
      WalletSummary.read file ((Disk.rooted (.root "wallet" 0)).write file (.ofText text)).2 =
        .ok summary := by
  intro request summary file text
  obtain ⟨requests, -, -, -, -, -, -, -, -, -, written, without⟩ := json_round_trip
  refine ⟨?_, ?_, ?_⟩
  · obtain ⟨found, parsed, -, same⟩ := requests request
    exact ⟨found, parsed, same⟩
  · exact (written summary file (.rooted (.root "wallet" 0)) ["wallet", "wallet-summary.json"]
      (by decide) (by decide)).2
  · exact without summary _ file _ (List.reverse_perm _)
      (.inl (Disk.read_write_of_ok file _ _ (write_rooted _)))

end PaymentVault
