import PaymentVault.Vault.Error
import PaymentVault.Vault.FileTree

/-!
# Disks

A disk is a tree of files, a working directory that relative paths start from, and its will to
refuse writes: it may turn down any of the writes to come, and then nothing changes.

A file is replaced as a whole or not at all, and what was written is what is read
(`read_write_of_ok`). To that end a draft is written first. The place of a file must be in an
existing directory, and the path of the draft, which is spelled out from the top, must not be
too long.
-/
namespace PaymentVault

/-- A tree of files, the working directory with the size of its path, and for each write to come
whether it is refused; what is not listed is not. -/
structure Disk where
  tree : FileTree := .empty
  workplace : List String := []
  workplaceSize : Nat := 0
  refusals : List Bool := []

namespace Disk

def empty : Disk := {}

instance : Inhabited Disk := ⟨empty⟩

/-- A disk with an empty root directory, which is also the working directory. -/
def rooted (root : FilePath) : Disk where
  tree := FileTree.put root.segments .directory .empty
  workplace := root.segments
  workplaceSize := root.size

/-- Why a file could not be read or written. -/
def fault (detail : String) : VaultError := .io detail

def faultAt : PathFault → VaultError
  | .notFound => fault "No such file or directory"
  | .notDirectory => fault "Not a directory"
  | .nameTooLong => fault "File name too long"
  | .occupied => fault "Is a directory"
  | .unspellable => fault "Invalid path"

/-- The place that a path starts from. -/
def start (path : FilePath) (disk : Disk) : List String :=
  if path.isRelative then disk.workplace else []

/-- The place that a path leads to. -/
def place (path : FilePath) (disk : Disk) : Except PathFault (List String) :=
  if !path.isSpellable then .error .unspellable
  else if path.text = "" then .error .notFound
  else disk.tree.follow (disk.start path) path.segments

/-- The content of a file. -/
def read (path : FilePath) (disk : Disk) : Except VaultError Bytes :=
  match disk.place path with
  | .error .notFound => .error (.missing path.text)
  | .error fault => .error (faultAt fault)
  | .ok place =>
    match disk.tree.node? place with
    | some (.file content) => .ok content
    | _ => .error (faultAt .occupied)

/-- Whether a draft can be written next to a path. A relative path needs the path of the working
directory for that, which it has no longer once it was removed. -/
def takesDraft (path : FilePath) (disk : Disk) : Bool :=
  if path.isRelative then
    disk.workplace ≠ FileTree.detached && disk.workplaceSize + 1 + path.draftSize <
      FilePath.sizeLimit
  else path.draftSize < FilePath.sizeLimit

/-- The place where a file can stand at a path. -/
def writable (path : FilePath) (disk : Disk) : Except PathFault (List String) :=
  if !path.isSpellable || !disk.takesDraft path then .error .unspellable
  else if path.text = "" then .error .notFound
  else
    match disk.tree.target (disk.start path) path.segments with
    | .error fault => .error fault
    | .ok place => if disk.tree.isDirectory place then .error .occupied else .ok place

/-- Replaces the file at a path, or leaves the tree as it is. -/
def write (path : FilePath) (content : Bytes) (disk : Disk) : Except VaultError Unit × Disk :=
  let later := disk.refusals.tail
  if disk.refusals.head? = some true then
    (.error (fault "refused"), { disk with refusals := later })
  else
    match disk.writable path with
    | .error fault => (.error (faultAt fault), { disk with refusals := later })
    | .ok place =>
      (.ok (), { disk with tree := disk.tree.put place (.file content), refusals := later })

/-- Makes sure that there is a directory at a path, and one at each place on the way to it.
Those made before a failure stay. -/
def ensureDirectory (path : FilePath) (disk : Disk) : Except VaultError Unit × Disk :=
  if !path.isSpellable then (.error (faultAt .unspellable), disk)
  else
    let (done, tree) :=
      disk.tree.makeDirectories (disk.start path) (path.ancestors ++ [path.trimmedSegments])
    (done.mapError faultAt, { disk with tree })

/-- The disk with things taken out of its tree. The working directory may be among them. -/
def withReduced (tree : FileTree) (disk : Disk) : Disk :=
  { disk with
    tree
    workplace := if tree.isDirectory disk.workplace then disk.workplace else FileTree.detached }

/-- Removes what is at a path, and says whether that went well. A directory is emptied first. If
the path leads through something that was in it, the path is then taken for gone and the
directory stays; if it ends in dots, that is a failure. -/
def remove (path : FilePath) (disk : Disk) : Bool × Disk :=
  match disk.place path with
  | .error _ => (false, disk)
  | .ok place =>
    if disk.tree.isDirectory place then
      let emptied := disk.withReduced (disk.tree.clear place)
      match emptied.tree.follow (emptied.start path) path.trimmedSegments.dropLast with
      | .error _ => (true, emptied)
      | .ok _ =>
        if (path.trimmedSegments.getLast?.map FilePath.isName).getD false then
          (true, disk.withReduced (disk.tree.remove place))
        else (false, emptied)
    else (true, disk.withReduced (disk.tree.remove place))

section views

variable (path : FilePath) (content : Bytes) (disk : Disk)

/-- A write that fails changes no file. -/
theorem tree_write_of_error {fault : VaultError} (h : (disk.write path content).1 = .error fault) :
    (disk.write path content).2.tree = disk.tree := by
  simp only [write] at h ⊢
  split
  · rfl
  · next accepted =>
    rw [if_neg accepted] at h
    split
    · rfl
    · next writable => simp [writable] at h

/-- A write that succeeds has a place to write to. -/
theorem writable_of_write_ok (h : (disk.write path content).1 = .ok ()) :
    ∃ place, disk.writable path = .ok place := by
  simp only [write] at h
  split at h
  · simp at h
  · split at h
    · simp at h
    · next place writable => exact ⟨place, writable⟩

/-- What makes a place writable. -/
theorem of_writable {place : List String} (h : disk.writable path = .ok place) :
    path.isSpellable ∧ path.text ≠ "" ∧
    disk.tree.target (disk.start path) path.segments = .ok place ∧
      disk.tree.isDirectory place = false := by
  unfold writable at h
  grind

/-- A write that succeeds puts the file at its place. -/
theorem tree_write_of_ok (h : (disk.write path content).1 = .ok ()) {place : List String}
    (writable : disk.writable path = .ok place) :
    (disk.write path content).2.tree = disk.tree.put place (.file content) := by
  simp only [write] at h ⊢
  split
  · next refused => simp [refused] at h
  · simp only [writable]

/-- A write that succeeds changes the file and nothing else. -/
theorem node?_write_of_ok (h : (disk.write path content).1 = .ok ()) {place : List String}
    (writable : disk.writable path = .ok place) (other : List String) :
    (disk.write path content).2.tree.node? other =
      if place = other then some (.file content) else disk.tree.node? other := by
  obtain ⟨-, -, target, free⟩ := of_writable path disk writable
  rw [tree_write_of_ok path content disk h writable]
  exact FileTree.node?_put (FileTree.takes_of_target target) (by simp [free]) other

/-- What was written is what is read. -/
theorem read_write_of_ok (h : (disk.write path content).1 = .ok ()) :
    (disk.write path content).2.read path = .ok content := by
  obtain ⟨place, writable⟩ := writable_of_write_ok path content disk h
  obtain ⟨spellable, named, target, free⟩ := of_writable path disk writable
  have stands : (disk.write path content).2.tree.node? place = some (.file content) := by
    rw [node?_write_of_ok path content disk h writable, if_pos rfl]
  have same : (disk.write path content).2.start path = disk.start path := by
    simp only [write]
    split
    · rfl
    · split <;> rfl
  have leads : (disk.write path content).2.tree.follow (disk.start path) path.segments =
      .ok place := by
    refine FileTree.follow_of_target ?_ (by simp [stands])
    rw [tree_write_of_ok path content disk h writable]
    exact (FileTree.extends_put (FileTree.takes_of_target target) (by simp [free])).target target
  simp [read, Disk.place, spellable, named, same, leads, stands]

end views

end Disk
end PaymentVault
