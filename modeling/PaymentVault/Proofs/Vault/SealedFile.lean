import PaymentVault.Proofs.Vault.Cipher
import PaymentVault.Proofs.Vault.Draft
import PaymentVault.Vault.SealedFile

/-!
# Files that are saved and loaded over and over

Calls save texts and load them, each by a path, a cipher and a credential of its own. A call that
fails changes no file, and one that succeeds changes only the file it saves. So what was last saved
at a place is what is loaded from it, whatever happened since, and by whichever path
(`replaced_or_kept`). Where there is no file, a load says so before it needs a key, unless the path
is one that no file can have (`load_overlong`).
-/
namespace PaymentVault

/-- What a cipher seals under a key opens under that key. -/
def KeyCipher.Inverts (cipher : KeyCipher) : Prop :=
  ∀ key text container, cipher.encrypt key text = .ok container →
    cipher.decrypt key container = .ok text

namespace SealedFile

/-- A call on sealed files. Each may come with another cipher. -/
inductive Call where
  | save (cipher : KeyCipher) (path : FilePath) (credential : String) (text : Bytes)
  | saveWithKey (cipher : KeyCipher) (path : FilePath) (key : WalletKey) (text : Bytes)
  | load (cipher : KeyCipher) (path : FilePath) (credential : String)

namespace Call

/-- A call and its answer; only a load has a text to answer. -/
def perform (disk : Disk) : Call → Except VaultError (Option Bytes) × Disk
  | save cipher path credential text =>
    let (result, disk) := SealedFile.save cipher path credential text disk
    (result.map fun () => none, disk)
  | saveWithKey cipher path key text =>
    let (result, disk) := SealedFile.saveWithKey cipher path key text disk
    (result.map fun () => none, disk)
  | load cipher path credential =>
    ((SealedFile.load cipher path credential disk).map some, disk)

/-- The call is to seal a text under a key and to put it at a path. -/
inductive Saves : Call → KeyCipher → FilePath → WalletKey → Bytes → Prop
  | save {cipher path credential text key} (derived : cipher.deriveKey credential = .ok key) :
    Saves (.save cipher path credential text) cipher path key text
  | saveWithKey {cipher path key text} : Saves (.saveWithKey cipher path key text) cipher path key text

/-- The call is a save that succeeds and puts its file at a place. -/
def SavesAt (place : List String) (disk : Disk) (call : Call) : Prop :=
  ∃ cipher path key text, call.Saves cipher path key text ∧ (call.perform disk).1 = .ok none ∧
    disk.writable path = .ok place

end Call

/-- The disk after some calls, one after another. -/
def run : List Call → Disk → Disk
  | [], disk => disk
  | call :: rest, disk => run rest (call.perform disk).2

/-- None of the calls, each in its turn, is a save that succeeds at a place. -/
def Spares (place : List String) : List Call → Disk → Prop
  | [], _ => True
  | call :: rest, disk => ¬call.SavesAt place disk ∧ Spares place rest (call.perform disk).2

/-! ## One call -/

variable {cipher : KeyCipher} {path : FilePath} {key : WalletKey} {text : Bytes} {disk : Disk}
  {call : Call} {place : List String}

theorem workplace_saveWithKey :
    (saveWithKey cipher path key text disk).2.workplace = disk.workplace := by
  unfold saveWithKey
  split
  · rfl
  · exact Disk.workplace_write _ _ _

/-- A save fails and leaves the tree alone, or a container of the text stands at the place of its
path. -/
theorem saveWithKey_cases (cipher : KeyCipher) (path : FilePath) (key : WalletKey) (text : Bytes)
    (disk : Disk) :
    (∃ cause, (saveWithKey cipher path key text disk).1 = .error cause ∧
      (saveWithKey cipher path key text disk).2.tree = disk.tree) ∨
      ∃ container place, cipher.encrypt key text = .ok container ∧ disk.writable path = .ok place ∧
        (saveWithKey cipher path key text disk).1 = .ok () ∧
        (saveWithKey cipher path key text disk).2.tree = disk.tree.put place (.file container) := by
  unfold saveWithKey
  cases sealed : cipher.encrypt key text with
  | error cause => exact .inl ⟨cause, rfl, rfl⟩
  | ok container =>
    dsimp only
    cases written : (disk.write path container).1 with
    | error cause => exact .inl ⟨cause, rfl, Disk.tree_write_of_error path container disk written⟩
    | ok =>
      obtain ⟨place, writable⟩ := Disk.writable_of_write_ok path container disk written
      exact .inr ⟨container, place, rfl, writable, rfl,
        Disk.tree_write_of_ok path container disk written writable⟩

namespace Call

theorem perform_of_saves (saves : call.Saves cipher path key text) :
    call.perform disk =
      ((SealedFile.saveWithKey cipher path key text disk).1.map fun () => none,
        (SealedFile.saveWithKey cipher path key text disk).2) := by
  cases saves with
  | save derived => simp only [perform, SealedFile.save, derived]
  | saveWithKey => rfl

/-- A call that is no save with a key changes nothing. -/
theorem perform_of_not_saves (idle : ∀ cipher path key text, ¬call.Saves cipher path key text) :
    (call.perform disk).2 = disk := by
  cases call with
  | save cipher path credential text =>
    cases derived : cipher.deriveKey credential with
    | error cause => simp only [perform, SealedFile.save, derived]
    | ok key => exact absurd (.save derived) (idle cipher path key text)
  | saveWithKey cipher path key text => exact absurd .saveWithKey (idle cipher path key text)
  | load cipher path credential => rfl

/-- A call changes no file, or it is a save that succeeds and puts a container at its place. -/
theorem perform_cases (call : Call) (disk : Disk) :
    ((call.perform disk).2.tree = disk.tree) ∨
      ∃ cipher path key text container place, call.Saves cipher path key text ∧
        cipher.encrypt key text = .ok container ∧ disk.writable path = .ok place ∧
        (call.perform disk).1 = .ok none ∧
        (call.perform disk).2.tree = disk.tree.put place (.file container) := by
  by_cases saving : ∃ cipher path key text, call.Saves cipher path key text
  · obtain ⟨cipher, path, key, text, saves⟩ := saving
    rw [perform_of_saves saves]
    rcases saveWithKey_cases cipher path key text disk with
      ⟨cause, -, same⟩ | ⟨container, place, sealed, writable, succeeded, put⟩
    · exact .inl same
    · refine .inr ⟨cipher, path, key, text, container, place, saves, sealed, writable, ?_, put⟩
      rw [succeeded]
      rfl
  · simp only [not_exists] at saving
    rw [perform_of_not_saves saving]
    exact .inl rfl

theorem workplace_perform (call : Call) (disk : Disk) :
    (call.perform disk).2.workplace = disk.workplace := by
  by_cases saving : ∃ cipher path key text, call.Saves cipher path key text
  · obtain ⟨cipher, path, key, text, saves⟩ := saving
    rw [perform_of_saves saves]
    exact workplace_saveWithKey
  · simp only [not_exists] at saving
    rw [perform_of_not_saves saving]

theorem extends_perform (call : Call) (disk : Disk) :
    (call.perform disk).2.tree.Extends disk.tree := by
  rcases call.perform_cases disk with same | ⟨_, path, _, _, _, place, -, -, writable, -, put⟩
  · rw [same]
    exact .refl disk.tree
  · obtain ⟨-, -, target, free⟩ := Disk.of_writable path disk writable
    rw [put]
    exact FileTree.extends_put (FileTree.takes_of_target target) (by simp [free])

/-- A call leaves every place alone but the one where it saves a file. -/
theorem node?_perform (spared : ¬call.SavesAt place disk) :
    (call.perform disk).2.tree.node? place = disk.tree.node? place := by
  rcases call.perform_cases disk with
    same | ⟨cipher, path, key, text, container, there, saves, -, writable, succeeded, put⟩
  · rw [same]
  · obtain ⟨-, -, target, free⟩ := Disk.of_writable path disk writable
    have other : there ≠ place := by
      rintro rfl
      exact spared ⟨cipher, path, key, text, saves, succeeded, writable⟩
    rw [put, FileTree.node?_put (FileTree.takes_of_target target) (by simp [free]), if_neg other]

/-- A save that succeeds leaves a container of its text. -/
theorem exists_container (saves : call.Saves cipher path key text)
    (succeeded : (call.perform disk).1 = .ok none) (writable : disk.writable path = .ok place) :
    ∃ container, cipher.encrypt key text = .ok container ∧
      (call.perform disk).2.tree.node? place = some (.file container) := by
  rw [perform_of_saves saves] at succeeded ⊢
  rcases saveWithKey_cases cipher path key text disk with
    ⟨cause, failed, -⟩ | ⟨container, there, sealed, writable', -, put⟩
  · rw [failed] at succeeded
    cases succeeded
  · obtain rfl : there = place := Except.ok.inj (writable'.symm.trans writable)
    obtain ⟨-, -, target, free⟩ := Disk.of_writable path disk writable
    refine ⟨container, sealed, ?_⟩
    rw [put, FileTree.node?_put (FileTree.takes_of_target target) (by simp [free]), if_pos rfl]

end Call

/-! ## Calls in turn -/

theorem workplace_run (calls : List Call) (disk : Disk) :
    (run calls disk).workplace = disk.workplace := by
  induction calls generalizing disk with
  | nil => rfl
  | cons call rest ih => rw [run, ih, call.workplace_perform]

theorem extends_run (calls : List Call) (disk : Disk) :
    (run calls disk).tree.Extends disk.tree := by
  induction calls generalizing disk with
  | nil => exact .refl disk.tree
  | cons call rest ih => exact (ih _).trans (call.extends_perform disk)

theorem node?_run {calls : List Call} (spared : Spares place calls disk) :
    (run calls disk).tree.node? place = disk.tree.node? place := by
  induction calls generalizing disk with
  | nil => rfl
  | cons call rest ih => rw [run, ih spared.2, Call.node?_perform spared.1]

/-- The path that a file was saved by leads to it as long as it is there. -/
theorem place_of_writable {after : Disk} (writable : disk.writable path = .ok place)
    (more : after.tree.Extends disk.tree) (workplace : after.workplace = disk.workplace)
    (filled : (after.tree.node? place).isSome) : after.place path = .ok place := by
  obtain ⟨spellable, named, target, -⟩ := Disk.of_writable path disk writable
  have start : after.start path = disk.start path := by rw [Disk.start, Disk.start, workplace]
  have leads := FileTree.follow_of_target (more.target target) filled
  simp only [Disk.place, spellable, named, start, leads, Bool.not_true, Bool.false_eq_true,
    if_false]

theorem load_of_node? {container : Bytes} (inverts : cipher.Inverts)
    (sealed : cipher.encrypt key text = .ok container)
    (stands : disk.tree.node? place = some (.file container)) (leads : disk.place path = .ok place)
    {credential : String} (derived : cipher.deriveKey credential = .ok key) :
    load cipher path credential disk = .ok text := by
  have read : disk.read path = .ok container := by simp only [Disk.read, leads, stands]
  simp only [load, read, derived, bind, Except.bind]
  exact inverts key text container sealed

/-- Where a path leads to nothing, no key is asked for. -/
theorem load_of_absent (absent : disk.place path = .error .notFound) (cipher : KeyCipher)
    (credential : String) : load cipher path credential disk = .error (.missing path.text) := by
  simp only [load, Disk.read, absent, bind, Except.bind]

/-- A path leads to nothing if one of its names is not there. -/
theorem place_of_absent {front rest directory : List String} {name : String}
    (spellable : path.isSpellable) (segments : path.segments = front ++ name :: rest)
    (leads : disk.tree.follow (disk.start path) front = .ok directory)
    (inside : disk.tree.isDirectory directory) (named : FilePath.isName name)
    (short : name.utf8ByteSize ≤ FilePath.nameLimit)
    (absent : disk.tree.node? (directory ++ [name]) = none) :
    disk.place path = .error .notFound := by
  have gone : disk.tree.follow directory (name :: rest) = .error .notFound := by
    by_cases attached : directory = FileTree.detached
    · simp only [FilePath.isName, Bool.and_eq_true, Bool.not_eq_true', decide_eq_true_eq] at named
      simp only [FileTree.follow, FileTree.step, inside, named, if_pos attached, Bool.not_true,
        Bool.false_eq_true, if_false]
    · rw [← List.singleton_append, FileTree.follow_append,
        FileTree.follow_name inside attached named short, absent]
      rfl
  unfold Disk.place
  rw [if_neg (by simp [spellable]), segments, FileTree.follow_append, leads, Except.bind, gone]
  split <;> rfl

/-! ## What a run keeps -/

theorem run_append (before rest : List Call) (disk : Disk) :
    run (before ++ rest) disk = run rest (run before disk) := by
  induction before generalizing disk with
  | nil => rfl
  | cons call before ih => rw [List.cons_append, run, run, ih]

/-- A call that fails changes no file. -/
theorem Call.tree_perform_of_error {cause : VaultError}
    (failed : (call.perform disk).1 = .error cause) : (call.perform disk).2.tree = disk.tree := by
  rcases call.perform_cases disk with same | ⟨_, _, _, _, _, _, -, -, -, succeeded, -⟩
  · exact same
  · rw [failed] at succeeded
    cases succeeded

theorem Call.exists_writable (saves : call.Saves cipher path key text)
    (succeeded : (call.perform disk).1 = .ok none) : ∃ place, disk.writable path = .ok place := by
  rw [perform_of_saves saves] at succeeded
  rcases saveWithKey_cases cipher path key text disk with
    ⟨cause, failed, -⟩ | ⟨-, place, -, writable, -, -⟩
  · rw [failed] at succeeded
    cases succeeded
  · exact ⟨place, writable⟩

/-- What was saved at a place is loaded from there until there is another save. -/
theorem load_run {after : List Call} (inverts : cipher.Inverts)
    (saves : call.Saves cipher path key text) (succeeded : (call.perform disk).1 = .ok none)
    (writable : disk.writable path = .ok place) (spared : Spares place after (call.perform disk).2) :
    (run (call :: after) disk).place path = .ok place ∧
      ∀ other credential, (run (call :: after) disk).place other = .ok place →
        cipher.deriveKey credential = .ok key →
          load cipher other credential (run (call :: after) disk) = .ok text := by
  obtain ⟨container, sealed, stands⟩ := Call.exists_container saves succeeded writable
  have kept : (run (call :: after) disk).tree.node? place = some (.file container) := by
    rw [run, node?_run spared, stands]
  have leads : (run (call :: after) disk).place path = .ok place :=
    place_of_writable writable (extends_run _ disk) (workplace_run _ disk) (by simp [kept])
  exact ⟨leads, fun other credential leads derived =>
    load_of_node? inverts sealed kept leads derived⟩

/-- A write replaces the file or leaves the tree as it is, and so do its steps by way of a draft,
whatever goes wrong; there is no replacing a directory, or a file in no directory. What a save that
succeeded has sealed is loaded from its place after any further calls that spare the place, by any
path that leads there. Where there is no file a load says so, whatever the cipher. -/
theorem replaced_or_kept :
    (∀ (path : FilePath) (content : Bytes) (disk : Disk),
      Disk.Replaces path content disk (disk.write path content).1 (disk.write path content).2.tree ∧
      (∀ draft, Disk.IsFreeBeside draft path disk →
        (∀ mishap, Disk.Replaces path content disk (disk.writeByDraft mishap draft path content).1
          (disk.writeByDraft mishap draft path content).2) ∧
        (disk.refusals.head? ≠ some true →
          (disk.writeByDraft none draft path content).2 = (disk.write path content).2.tree ∧
          ((disk.writeByDraft none draft path content).1 = .ok () ↔
            (disk.write path content).1 = .ok ()))) ∧
      (∀ fault, disk.tree.follow (disk.start path) path.segments.dropLast = .error fault →
        ∃ cause, (disk.write path content).1 = .error cause) ∧
      ∀ place, disk.place path = .ok place → disk.tree.isDirectory place →
        ∃ cause, (disk.write path content).1 = .error cause) ∧
    (∀ (call : Call) (disk : Disk) (cause : VaultError), (call.perform disk).1 = .error cause →
      (call.perform disk).2.tree = disk.tree) ∧
    (∀ (calls : List Call) (disk : Disk) (place : List String), Spares place calls disk →
      (run calls disk).tree.node? place = disk.tree.node? place) ∧
    (∀ (before after : List Call) (call : Call) (disk : Disk) (cipher : KeyCipher) (path : FilePath)
      (key : WalletKey) (text : Bytes), cipher.Inverts → call.Saves cipher path key text →
      (call.perform (run before disk)).1 = .ok none →
      ∃ place, (run before disk).writable path = .ok place ∧
        (Spares place after (run (before ++ [call]) disk) →
          (run (before ++ call :: after) disk).place path = .ok place ∧
          ∀ other credential, (run (before ++ call :: after) disk).place other = .ok place →
            cipher.deriveKey credential = .ok key →
              load cipher other credential (run (before ++ call :: after) disk) = .ok text)) ∧
    ∀ (disk : Disk) (path : FilePath) (front rest directory : List String) (name : String),
      path.isSpellable → path.segments = front ++ name :: rest →
      disk.tree.follow (disk.start path) front = .ok directory →
      disk.tree.isDirectory directory → disk.tree.node? (directory ++ [name]) = none →
      FilePath.isName name → name.utf8ByteSize ≤ FilePath.nameLimit →
        ∀ (cipher : KeyCipher) (credential : String),
          load cipher path credential disk = .error (.missing path.text) := by
  refine ⟨fun path content disk => ⟨?_, fun draft free => ⟨?_, ?_⟩, ?_, ?_⟩, ?_, ?_, ?_, ?_⟩
  · exact Disk.replaces_write path content disk
  · exact fun mishap => Disk.replaces_writeByDraft free mishap content
  · exact Disk.writeByDraft_eq_write free content
  · exact fun fault lost => Disk.exists_write_eq_error (Disk.writable_ne_of_lost lost)
  · exact fun place leads occupied =>
      Disk.exists_write_eq_error (Disk.writable_ne_of_isDirectory leads occupied)
  · exact fun call disk cause => Call.tree_perform_of_error
  · exact fun calls disk place => node?_run
  · intro before after call disk cipher path key text inverts saves succeeded
    obtain ⟨place, writable⟩ := Call.exists_writable saves succeeded
    refine ⟨place, writable, fun spared => ?_⟩
    rw [run_append] at spared ⊢
    exact load_run inverts saves succeeded writable spared
  · intro disk path front rest directory name spellable segments leads inside absent named short
    exact load_of_absent (place_of_absent spellable segments leads inside named short absent)

/-! ## A run -/

theorem labelCipher_inverts : labelCipher.Inverts :=
  fun _ _ _ => labelCipher_faithful.opens

/-- An empty directory, on a disk that refuses the second write. -/
def hesitantDisk : Disk := { Disk.rooted (.root "wallet" 0) with refusals := [false, true] }

def filePath (name : String) : FilePath := (FilePath.root "wallet" 0).child name

def firstCall : Call := .save labelCipher (filePath "a") "pw" [1]

/-- A save of the same file that is refused, and calls on another. -/
def laterCalls : List Call :=
  [.save labelCipher (filePath "a") "other" [2],
    .saveWithKey labelCipher (filePath "b") (spelledKey "pw") [3],
    .load labelCipher (filePath "b") "pw"]

theorem spares_laterCalls :
    Spares ["wallet", "a"] laterCalls (firstCall.perform hesitantDisk).2 := by
  refine ⟨?_, ?_, ?_, trivial⟩
  · rintro ⟨_, _, _, _, -, succeeded, -⟩
    exact absurd succeeded (by decide)
  · rintro ⟨_, _, _, _, saves, -, writable⟩
    cases saves
    exact absurd writable (by decide)
  · rintro ⟨_, _, _, _, saves, -, -⟩
    cases saves

/-- Two paths of a directory with room for files. The second write is refused. -/
theorem replaced_or_kept_refused :
    load labelCipher (filePath "a") "pw" hesitantDisk = .error (.missing "wallet/a") ∧
      load labelCipher (filePath "a") "pw" (run (firstCall :: laterCalls) hesitantDisk) =
        .ok [1] := by
  obtain ⟨-, -, -, kept, missing⟩ := replaced_or_kept
  constructor
  · exact missing hesitantDisk (filePath "a") ["wallet"] [] ["wallet"] "a" (by decide) rfl
      (by decide) (by decide) (by decide) (by decide) (by decide) labelCipher "pw"
  · have succeeded : (firstCall.perform hesitantDisk).1 = .ok none := by decide
    obtain ⟨place, writable, spared⟩ := kept [] laterCalls firstCall hesitantDisk labelCipher
      (filePath "a") (spelledKey "pw") [1] labelCipher_inverts (.save rfl) succeeded
    have there : hesitantDisk.writable (filePath "a") = .ok ["wallet", "a"] := by decide
    obtain rfl : place = ["wallet", "a"] := Except.ok.inj (writable.symm.trans there)
    obtain ⟨leads, loaded⟩ := spared spares_laterCalls
    exact loaded (filePath "a") "pw" leads rfl

/-- A name that is too long is not said to be missing, though nothing goes by it. -/
theorem load_overlong :
    let path := filePath (String.ofList (List.replicate 256 'a'))
    let disk := Disk.rooted (.root "wallet" 0)
    disk.tree.follow (disk.start path) path.segments.dropLast = .ok ["wallet"] ∧
      disk.tree.isDirectory ["wallet"] ∧ disk.tree.node? path.segments = none ∧
      load labelCipher path "pw" disk = .error (.io "File name too long") := by
  decide +kernel

end SealedFile
end PaymentVault
