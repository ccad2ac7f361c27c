import PaymentVault.Proofs.Json.Records
import PaymentVault.Proofs.Vault.Disk
import PaymentVault.Vault.Summary

/-!
# Summaries and their file

A summary that was written is the summary that is read. Its secrets are what comes out of its
two containers.
-/
namespace PaymentVault.WalletSummary

open Json Json.Format

theorem form_readsBack : form.ReadsBack := by
  intro summary
  refine Yields.imap (Members.format_yields (by decide) ?_) rfl
  exact ⟨string_readsBack _, string_readsBack _, string_readsBack _, hexBytes_readsBack _,
    hexBytes_readsBack _, trivial⟩

theorem parse_fileText (summary : WalletSummary) :
    parse (.ofText summary.fileText) = .ok summary := by
  rw [parse, fileText, parseBytes_ofText, (form_readsBack summary).parse_indentedText]
  rfl

/-- What is read depends on the bytes of the file only. -/
theorem read_congr {file : FilePath} {disk disk' : Disk} (same : disk'.read file = disk.read file) :
    read file disk' = read file disk := by
  simp only [read, same]

variable (summary : WalletSummary) (file : FilePath) (disk : Disk)

/-- What was written is what is read. -/
theorem read_write_of_ok (written : (summary.write file disk).1 = .ok ()) :
    read file (summary.write file disk).2 = .ok summary := by
  have stands : (summary.write file disk).2.read file = .ok (.ofText summary.fileText) :=
    Disk.read_write_of_ok file _ disk written
  simp only [read, stands, bind, Except.bind]
  exact parse_fileText summary

/-- A write that fails leaves the file as it was. -/
theorem read_write_of_error {cause : VaultError}
    (failed : (summary.write file disk).1 = .error cause) :
    read file (summary.write file disk).2 = read file disk :=
  read_congr (Disk.read_write_of_error file _ disk failed file)

/-! ## The secrets -/

variable {summary} {cipher : KeyCipher} {key backupKey : WalletKey}

theorem backupKey_eq_ok_iff :
    summary.backupKey cipher key = .ok backupKey ↔
      cipher.decrypt key summary.sealedBackupKey = .ok backupKey.bytes := by
  rcases opened : cipher.decrypt key summary.sealedBackupKey with cause | bytes
  · simp [WalletSummary.backupKey, opened, bind, Except.bind]
  · simp [WalletSummary.backupKey, opened, bind, Except.bind, WalletKey.ofBytes_eq_ok_iff]

theorem credential_of_unpad {padded : Bytes} {credential : String}
    (opened : cipher.decrypt backupKey summary.sealedCredential = .ok padded)
    (unpadded : Padding.unpad padded = .ok (.ofText credential)) :
    summary.credential cipher backupKey = .ok credential := by
  simp only [WalletSummary.credential, opened, unpadded, bind, Except.bind, mapError_ok,
    Bytes.toText?_ofText]
  rfl

end PaymentVault.WalletSummary
