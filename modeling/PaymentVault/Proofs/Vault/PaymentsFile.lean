import PaymentVault.Proofs.Snapshot.Dates
import PaymentVault.Proofs.Vault.Cipher
import PaymentVault.Vault.SealedFile

/-!
# The payments file beside the summary

The payments file and the summary are in one directory, and neither is changed by writing the
other. Saving payments replaces what can be read of them, or leaves it alone.
-/
namespace PaymentVault

theorem SealedFile.load_of_read {cipher : KeyCipher} {path : FilePath}
    {credential : String} {disk : Disk} {container : Bytes} {key : WalletKey}
    (stands : disk.read path = .ok container) (derived : cipher.deriveKey credential = .ok key) :
    load cipher path credential disk = cipher.decrypt key container := by
  simp only [load, stands, derived, bind, Except.bind]

namespace PaymentsFile

section

variable (file : PaymentsFile) (cipher : KeyCipher) (credential : String)
  (snapshot : Snapshot) (disk : Disk)

/-- Nothing is stored, or what is stored opens under a credential to a snapshot. -/
def IsReadable : Prop :=
  disk.read file.path = .error (.missing file.path.text) ∨
    ∃ snapshot, file.load cipher credential disk = .ok (some snapshot)

/-- What is stored can be read, and if it is read it can be stored and read again. -/
structure IsSound : Prop where
  readable : file.IsReadable cipher credential disk
  ordinary : ∀ snapshot, file.load cipher credential disk = .ok (some snapshot) →
    snapshot.HasOrdinaryDates

/-- The snapshot is in the file, sealed under the credential. -/
def Keeps : Prop :=
  ∃ key container, cipher.deriveKey credential = .ok key ∧
    cipher.encrypt key snapshot.encode = .ok container ∧ disk.read file.path = .ok container

/-- A save fails before anything is sealed, or writes what was sealed. -/
theorem save_cases :
    (∃ cause, file.save cipher credential snapshot disk =
      (.error cause, (disk.ensureDirectory file.directory).2)) ∨
      ∃ key container, cipher.deriveKey credential = .ok key ∧
        cipher.encrypt key snapshot.encode = .ok container ∧
        file.save cipher credential snapshot disk =
          (disk.ensureDirectory file.directory).2.write file.path container := by
  unfold save SealedFile.save SealedFile.saveWithKey
  rcases disk.ensureDirectory file.directory with ⟨cause | ⟨⟩, ensured⟩
  · exact .inl ⟨cause, rfl⟩
  cases derived : cipher.deriveKey credential with
  | error cause => exact .inl ⟨cause, rfl⟩
  | ok key =>
    cases sealed : cipher.encrypt key snapshot.encode with
    | error cause => exact .inl ⟨cause, by simp only [sealed]⟩
    | ok container => exact .inr ⟨key, container, rfl, sealed, by simp only [sealed]⟩

end

variable {file : PaymentsFile} {cipher : KeyCipher} {credential : String} {snapshot : Snapshot}
  {disk disk' : Disk}

theorem load_congr (same : disk'.read file.path = disk.read file.path) :
    file.load cipher credential disk' = file.load cipher credential disk := by
  simp only [load, SealedFile.load, same]

theorem IsSound.congr (sound : file.IsSound cipher credential disk)
    (same : disk'.read file.path = disk.read file.path) : file.IsSound cipher credential disk' := by
  obtain ⟨readable, ordinary⟩ := sound
  constructor
  · unfold IsReadable at readable ⊢
    rwa [same, load_congr same]
  · rwa [load_congr same]

/-- What is missing is so under every credential. -/
theorem isSound_of_missing (missing : disk.read file.path = .error (.missing file.path.text)) :
    file.IsSound cipher credential disk := by
  refine ⟨.inl missing, fun snapshot loaded => ?_⟩
  simp [load, SealedFile.load, missing, bind, Except.bind] at loaded

/-- A save that succeeds leaves the snapshot in the file. -/
theorem keeps_save (saved : (file.save cipher credential snapshot disk).1 = .ok ()) :
    file.Keeps cipher credential snapshot (file.save cipher credential snapshot disk).2 := by
  rcases file.save_cases cipher credential snapshot disk with
    ⟨cause, failed⟩ | ⟨key, container, derived, sealed, wrote⟩
  · rw [failed] at saved
    cases saved
  · rw [wrote] at saved ⊢
    exact ⟨key, container, derived, sealed, Disk.read_write_of_ok _ _ _ saved⟩

/-- Credentials with one key load the same. -/
theorem load_eq_of_deriveKey {other : String}
    (same : cipher.deriveKey other = cipher.deriveKey credential) :
    file.load cipher other disk = file.load cipher credential disk := by
  simp only [load, SealedFile.load, same]

/-- What is in the file is loaded, unless a request is from a leap second. -/
theorem Keeps.load_eq (keeps : file.Keeps cipher credential snapshot disk)
    (faithful : cipher.Faithful) :
    file.load cipher credential disk =
      match snapshot.firstLeap? with
      | none => .ok (some snapshot.settled)
      | some r => .error (.malformed (.requestWithoutDate r.address)) := by
  obtain ⟨key, container, derived, sealed, stands⟩ := keeps
  rw [load, SealedFile.load_of_read stands derived, faithful.opens sealed]
  dsimp only
  rw [Snapshot.decode_encode_of_fits (.of_length (faithful.bounded sealed))]
  cases snapshot.firstLeap? <;> rfl

/-- What was saved is what is loaded. -/
theorem load_save (faithful : cipher.Faithful) (ordinary : snapshot.HasOrdinaryDates)
    (saved : (file.save cipher credential snapshot disk).1 = .ok ()) :
    file.load cipher credential (file.save cipher credential snapshot disk).2 =
      .ok (some snapshot.settled) := by
  rw [(keeps_save saved).load_eq faithful, ordinary.firstLeap?_eq_none]

/-- What was saved can be read. -/
theorem isSound_save (faithful : cipher.Faithful) (ordinary : snapshot.HasOrdinaryDates)
    (saved : (file.save cipher credential snapshot disk).1 = .ok ()) :
    file.IsSound cipher credential (file.save cipher credential snapshot disk).2 := by
  have loaded := load_save faithful ordinary saved
  refine ⟨.inr ⟨_, loaded⟩, fun other again => ?_⟩
  rw [loaded] at again
  cases again
  exact ordinary.settled

/-- A save takes nothing away. -/
theorem extends_save : (file.save cipher credential snapshot disk).2.tree.Extends
    (disk.ensureDirectory file.directory).2.tree := by
  rcases file.save_cases cipher credential snapshot disk with ⟨cause, failed⟩ | ⟨_, _, -, -, wrote⟩
  · rw [failed]
    exact .refl _
  · rw [wrote]
    exact Disk.extends_write _ _ _

theorem workplace_save :
    (file.save cipher credential snapshot disk).2.workplace = disk.workplace := by
  rcases file.save_cases cipher credential snapshot disk with ⟨cause, failed⟩ | ⟨_, _, -, -, wrote⟩
  · rw [failed]
    exact Disk.workplace_ensureDirectory _ disk
  · rw [wrote, Disk.workplace_write, Disk.workplace_ensureDirectory]

/-- A directory is where it was after a save. -/
theorem leadsTo_save {path : FilePath} {place : List String} (leads : disk.LeadsTo path place) :
    (file.save cipher credential snapshot disk).2.LeadsTo path place :=
  leads.extends (extends_save.trans (Disk.extends_ensureDirectory _ disk)) workplace_save

/-- After a save that succeeded the directory need not be made again. -/
theorem ensureDirectory_save (saved : (file.save cipher credential snapshot disk).1 = .ok ()) :
    (file.save cipher credential snapshot disk).2.ensureDirectory file.directory =
      (.ok (), (file.save cipher credential snapshot disk).2) := by
  refine Disk.ensureDirectory_again file.directory disk ?_ extends_save workplace_save
  unfold save at saved
  split at saved
  · cases saved
  · next ensured => rw [ensured]

/-! ## In the directory of a wallet -/

variable {directory : FilePath} {place : List String} {summary : WalletSummary}

theorem segments_path_ofWallet :
    (ofWallet directory).path.segments = directory.segments ++ ["payments", "payments.aes"] := by
  simp [ofWallet, FilePath.child]

theorem isName_payments : ∀ name ∈ ["payments", "payments.aes"], FilePath.isName name := by decide

theorem isName_summary : ∀ name ∈ ["wallet-summary.json"], FilePath.isName name := by decide

/-- A summary that can be read is in a directory. -/
theorem leadsTo_of_filed
    (filed : WalletSummary.read (WalletSummary.path directory) disk = .ok summary) :
    ∃ place, disk.LeadsTo directory place := by
  unfold WalletSummary.read at filed
  cases stands : disk.read (WalletSummary.path directory) with
  | error cause => simp [stands, bind, Except.bind] at filed
  | ok content => exact Disk.leadsTo_of_read (by decide) stands

/-- Saving payments leaves the summary alone. -/
theorem read_summary_save
    (filed : WalletSummary.read (WalletSummary.path directory) disk = .ok summary) :
    WalletSummary.read (WalletSummary.path directory)
      ((ofWallet directory).save cipher credential snapshot disk).2 = .ok summary := by
  obtain ⟨place, leads⟩ := leadsTo_of_filed filed
  have apart (passed : List String) (front : passed <+: ["wallet-summary.json"]) : ["payments"] ≠
      passed := by
    rintro rfl
    exact absurd front (by decide)
  have further (passed : List String) (front : passed <+: ["wallet-summary.json"]) :
      ["payments"] ++ ["payments.aes"] ≠ passed := by
    rintro rfl
    exact absurd front (by decide)
  have ensured : (disk.ensureDirectory (ofWallet directory).directory).2.read
      (WalletSummary.path directory) =
      disk.read (WalletSummary.path directory) :=
    leads.read_ensureDirectory (by decide) rfl rfl isName_summary apart
  rw [← filed]
  rcases (ofWallet directory).save_cases cipher credential snapshot disk with
    ⟨cause, failed⟩ | ⟨_, container, -, -, wrote⟩
  · rw [failed]
    exact WalletSummary.read_congr ensured
  · rw [wrote]
    refine WalletSummary.read_congr (.trans ?_ ensured)
    exact (leads.ensureDirectory _).read_write container rfl segments_path_ofWallet
      (by decide) rfl rfl isName_summary further

/-- Making the directory of the payments makes no file. -/
theorem read_ensureDirectory (leads : disk.LeadsTo directory place) :
    (disk.ensureDirectory (ofWallet directory).directory).2.read (ofWallet directory).path =
      disk.read (ofWallet directory).path :=
  leads.read_ensureDirectory_of_inside (by decide) (by decide) (by decide) (by decide) rfl
    segments_path_ofWallet

/-- A save that fails leaves the payments alone. -/
theorem read_save_of_error (leads : disk.LeadsTo directory place) {cause : VaultError}
    (failed : ((ofWallet directory).save cipher credential snapshot disk).1 = .error cause) :
    ((ofWallet directory).save cipher credential snapshot disk).2.read (ofWallet directory).path =
      disk.read (ofWallet directory).path := by
  rcases (ofWallet directory).save_cases cipher credential snapshot disk with
    ⟨cause, stopped⟩ | ⟨_, container, -, -, wrote⟩
  · rw [stopped]
    exact read_ensureDirectory leads
  · rw [wrote] at failed ⊢
    exact (Disk.read_write_of_error _ container _ failed _).trans (read_ensureDirectory leads)

/-- Where the directory of the payments cannot be made, nothing is. -/
theorem ensureDirectory_of_error (leads : disk.LeadsTo directory place) {cause : VaultError}
    (failed : disk.ensureDirectory (ofWallet directory).directory = (.error cause, disk')) :
    disk' = disk := by
  have named : FilePath.isName "payments" := by decide
  rcases leads.ensureDirectory_cases named with ⟨fault, stopped⟩ | ⟨later, -, ensured⟩
  · rw [ofWallet, stopped] at failed
    exact (congrArg Prod.snd failed).symm
  · rw [ofWallet, ensured] at failed
    cases failed

/-- Writing the summary leaves the payments alone. -/
theorem read_writeSummary :
    (summary.write (WalletSummary.path directory) disk).2.read (ofWallet directory).path =
      disk.read (ofWallet directory).path := by
  have apart (passed : List String) (front : passed <+: ["payments", "payments.aes"]) :
      [] ++ ["wallet-summary.json"] ≠ passed := by
    rintro rfl
    exact absurd front (by decide)
  cases result : (summary.write (WalletSummary.path directory) disk).1 with
  | error cause => exact Disk.read_write_of_error _ _ _ result _
  | ok =>
    obtain ⟨target, writable⟩ := Disk.writable_of_write_ok _ _ _ result
    obtain ⟨place, leads, -⟩ := Disk.leadsTo_of_target (Disk.of_writable _ _ writable).2.2.1
    exact leads.read_write _ rfl rfl (by decide) rfl segments_path_ofWallet isName_payments apart

end PaymentsFile
end PaymentVault
