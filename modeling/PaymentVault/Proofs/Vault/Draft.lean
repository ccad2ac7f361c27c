import Mathlib.Data.List.Induction
import PaymentVault.Proofs.Register
import PaymentVault.Proofs.Vault.Disk

/-!
# Replacing a file by way of a draft

A file is replaced in steps. An empty draft is opened beside it under a name that is free, the
content goes into the draft, and then the draft is moved to the place of the file. After any
failure the draft is removed. So the file has its new content, or the tree is just as it was
(`replaces_writeByDraft`), and the steps come to the same as a write (`writeByDraft_eq_write`).
-/
namespace PaymentVault

namespace FileTree

/-- Moves a file to another place. -/
def move (old new : List String) (tree : FileTree) : FileTree :=
  match tree.node? old with
  | some node => (tree.remove old).put new node
  | none => tree

theorem ext_held {a b : FileTree} (same : a.held = b.held) : a = b := by
  cases a
  cases b
  simp_all

variable {tree : FileTree} {place other : List String}

theorem held_put {node : Node} (takes : tree.Takes place)
    (stays : tree.isDirectory place → node = .directory) :
    (tree.put place node).held = tree.held.insert (place, node) := by
  rw [put, dif_pos ⟨takes.named, takes.inside, stays⟩]

theorem held_remove :
    (tree.remove place).held = tree.held.retain fun other => !place.isPrefixOf other := rfl

theorem isBase_dropLast (base : isBase place) : isBase place.dropLast := by
  simp only [isBase, Bool.or_eq_true, decide_eq_true_eq] at base ⊢
  rcases base with (all | rfl) | rfl
  · refine .inl (.inl (List.all_eq_true.2 fun name member => ?_))
    exact List.all_eq_true.1 all name ((List.dropLast_sublist place).mem member)
  · exact .inl (.inl rfl)
  · exact .inl (.inl rfl)

/-- Whatever is somewhere, there is something at each place on the way. -/
theorem isSome_of_prefix (before : place <+: other) (filled : (tree.node? other).isSome) :
    (tree.node? place).isSome := by
  obtain ⟨rest, rfl⟩ := before
  induction rest using List.reverseRecOn with
  | nil => rwa [List.append_nil] at filled
  | append_singleton rest name ih =>
    refine ih ?_
    rw [← List.append_assoc] at filled
    have inside : tree.node? (place ++ rest ++ [name]).dropLast = some .directory := by
      by_cases base : isBase (place ++ rest ++ [name])
      · rw [node?, nodeAmong, if_pos (isBase_dropLast base)]
      · exact isDirectory_iff.1 (isDirectory_dropLast (Bool.eq_false_iff.2 base) filled)
    rw [List.dropLast_concat] at inside
    rw [inside]
    rfl

/-- Where there is nothing, there is nothing to remove. -/
theorem remove_of_absent (absent : tree.node? place = none) : tree.remove place = tree := by
  apply ext_held
  rw [held_remove]
  refine Register.retain_eq_self fun entry member => ?_
  have filled : (tree.node? entry.1).isSome := by
    rw [node?, nodeAmong]
    split
    · rfl
    · rw [Register.mem_entries_iff.1 member]
      rfl
  cases below : place.isPrefixOf entry.1 with
  | false => rfl
  | true =>
    have there := isSome_of_prefix (List.isPrefixOf_iff_prefix.1 below) filled
    rw [absent] at there
    cases there

/-- A file that is written twice has the content it got last. -/
theorem put_put {first second : Bytes} (takes : tree.Takes place)
    (free : tree.isDirectory place = false) :
    (tree.put place (.file first)).put place (.file second) = tree.put place (.file second) := by
  have stays (content : Bytes) : tree.isDirectory place → Node.file content = .directory := by
    simp [free]
  have more := extends_put takes (stays first)
  have takes' : (tree.put place (.file first)).Takes place :=
    ⟨takes.named, more.isDirectory _ takes.inside⟩
  have free' : (tree.put place (.file first)).isDirectory place → Node.file second = .directory := by
    simp [isDirectory, node?_put takes (stays first)]
  apply ext_held
  rw [held_put takes' free', held_put takes (stays first), held_put takes (stays second)]
  exact Register.insert_insert (a := (place, Node.file first)) (b := (place, Node.file second)) rfl _

/-- A new file leaves no trace once it is removed. -/
theorem remove_put {content : Bytes} (takes : tree.Takes place)
    (absent : tree.node? place = none) : (tree.put place (.file content)).remove place = tree := by
  have stays : tree.isDirectory place → Node.file content = .directory := by
    simp [isDirectory, absent]
  have removed : (tree.put place (.file content)).remove place = tree.remove place := by
    apply ext_held
    rw [held_remove, held_remove, held_put takes stays]
    exact Register.retain_insert (by simp) tree.held
  rw [removed, remove_of_absent absent]

end FileTree

namespace Disk

/-- What may go wrong with a draft other than by its place or that of the file: it cannot be
opened, a part of the content or all of it gets in but no more can be done, or it cannot be moved. -/
inductive Mishap where
  | opening
  | filling (written : Bytes)
  | moving

/-- The place of a draft that was opened, and the tree with the draft in it. -/
def openDraft (draft : String) (path : FilePath) (disk : Disk) :
    Except PathFault (List String × FileTree) :=
  if !path.isSpellable || !disk.takesDraft path then .error .unspellable
  else
    match disk.tree.follow (disk.start path) path.segments.dropLast with
    | .error fault => .error fault
    | .ok directory =>
      if !disk.tree.isDirectory directory then .error .notDirectory
      else if directory = FileTree.detached then .error .notFound
      else .ok (directory ++ [draft], disk.tree.put (directory ++ [draft]) (.file []))

/-- Moves a draft to the place at a path, where there must be no directory. -/
def moveDraft (draft : List String) (path : FilePath) (disk : Disk) (tree : FileTree) :
    Except PathFault FileTree :=
  if path.text = "" then .error .notFound
  else
    match tree.target (disk.start path) path.segments with
    | .error fault => .error fault
    | .ok place =>
      if tree.isDirectory place then .error .occupied else .ok (tree.move draft place)

/-- Replaces the file at a path by way of a draft of the given name. -/
def writeByDraft (mishap : Option Mishap) (draft : String) (path : FilePath) (content : Bytes)
    (disk : Disk) : Except VaultError Unit × FileTree :=
  match mishap with
  | some .opening => (.error (fault "refused"), disk.tree)
  | _ =>
    match disk.openDraft draft path with
    | .error cause => (.error (faultAt cause), disk.tree)
    | .ok (place, opened) =>
      match mishap with
      | some (.filling written) =>
        (.error (fault "refused"), (opened.put place (.file written)).remove place)
      | some _ => (.error (fault "refused"), (opened.put place (.file content)).remove place)
      | none =>
        match disk.moveDraft place path (opened.put place (.file content)) with
        | .error cause => (.error (faultAt cause), (opened.put place (.file content)).remove place)
        | .ok tree => (.ok (), tree)

/-- The file at a path has a new content and nothing else has changed; or there was a failure, and
the tree is as it was. -/
inductive Replaces (path : FilePath) (content : Bytes) (disk : Disk) :
    Except VaultError Unit → FileTree → Prop
  | done {place : List String} {tree : FileTree} (writable : disk.writable path = .ok place)
    (there : tree.node? place = some (.file content))
    (elsewhere : ∀ other, other ≠ place → tree.node? other = disk.tree.node? other) :
    Replaces path content disk (.ok ()) tree
  | failed (cause : VaultError) : Replaces path content disk (.error cause) disk.tree

/-- No file or directory goes by this name beside the file at a path. -/
structure IsFreeBeside (draft : String) (path : FilePath) (disk : Disk) : Prop where
  named : FilePath.isName draft
  absent : ∀ directory,
    disk.tree.follow (disk.start path) path.segments.dropLast = .ok directory →
      disk.tree.node? (directory ++ [draft]) = none

variable {path : FilePath} {content : Bytes} {disk : Disk} {draft : String}

/-- A tree with the file put at its place is what a write is to leave. -/
theorem replaces_put {place : List String} (writable : disk.writable path = .ok place) :
    Replaces path content disk (.ok ()) (disk.tree.put place (.file content)) := by
  obtain ⟨-, -, target, free⟩ := of_writable path disk writable
  have stays : disk.tree.isDirectory place → Node.file content = .directory := by simp [free]
  have put := FileTree.node?_put (FileTree.takes_of_target target) stays
  refine .done writable ?_ fun other differ => ?_
  · rw [put, if_pos rfl]
  · rw [put, if_neg (Ne.symm differ)]

/-- A write replaces the file or leaves the tree as it is. -/
theorem replaces_write (path : FilePath) (content : Bytes) (disk : Disk) :
    Replaces path content disk (disk.write path content).1 (disk.write path content).2.tree := by
  cases result : (disk.write path content).1 with
  | error cause =>
    rw [tree_write_of_error path content disk result]
    exact .failed cause
  | ok =>
    obtain ⟨place, writable⟩ := writable_of_write_ok path content disk result
    rw [tree_write_of_ok path content disk result writable]
    exact replaces_put writable

/-! ## The steps -/

/-- What there is once a draft was opened. -/
structure IsOpened (draft : String) (path : FilePath) (disk : Disk) (directory : List String) :
    Prop where
  spellable : path.isSpellable
  takesDraft : disk.takesDraft path
  follow : disk.tree.follow (disk.start path) path.segments.dropLast = .ok directory
  inside : disk.tree.isDirectory directory
  attached : directory ≠ FileTree.detached

theorem of_openDraft {place : List String} {opened : FileTree}
    (found : disk.openDraft draft path = .ok (place, opened)) :
    ∃ directory, IsOpened draft path disk directory ∧ place = directory ++ [draft] ∧
      opened = disk.tree.put place (.file []) := by
  unfold openDraft at found
  split at found
  · cases found
  · next allowed =>
    simp only [Bool.or_eq_true, Bool.not_eq_true', not_or, Bool.not_eq_false] at allowed
    split at found
    · cases found
    · next directory leads =>
      split at found
      · cases found
      · next inside =>
        split at found
        · cases found
        · next attached =>
          cases found
          exact ⟨directory, ⟨allowed.1, allowed.2, leads, by simpa using inside, attached⟩, rfl, rfl⟩

namespace IsOpened

variable {directory : List String}

theorem takes (opened : IsOpened draft path disk directory) (free : IsFreeBeside draft path disk) :
    disk.tree.Takes (directory ++ [draft]) where
  named := FileTree.isBase_append_name free.named directory
  inside := by
    rw [List.dropLast_concat]
    exact opened.inside

theorem put_put (opened : IsOpened draft path disk directory) (free : IsFreeBeside draft path disk)
    (written : Bytes) :
    (disk.tree.put (directory ++ [draft]) (.file [])).put (directory ++ [draft]) (.file written) =
      disk.tree.put (directory ++ [draft]) (.file written) :=
  FileTree.put_put (opened.takes free) (by
    simp [FileTree.isDirectory, free.absent directory opened.follow])

/-- A draft that is removed leaves nothing behind. -/
theorem remove_put (opened : IsOpened draft path disk directory)
    (free : IsFreeBeside draft path disk) (written : Bytes) :
    (disk.tree.put (directory ++ [draft]) (.file written)).remove (directory ++ [draft]) =
      disk.tree :=
  FileTree.remove_put (opened.takes free) (free.absent directory opened.follow)

/-- With the draft beside it, a file has the same place as before. -/
theorem target_eq (opened : IsOpened draft path disk directory)
    (free : IsFreeBeside draft path disk) :
    (disk.tree.put (directory ++ [draft]) (.file content)).target (disk.start path) path.segments =
      disk.tree.target (disk.start path) path.segments := by
  have absent := free.absent directory opened.follow
  have stays : disk.tree.isDirectory (directory ++ [draft]) → Node.file content = .directory := by
    simp [FileTree.isDirectory, absent]
  have more := FileTree.extends_put (opened.takes free) stays
  simp only [FileTree.target, opened.follow, more.follow _ opened.follow, opened.inside,
    more.isDirectory _ opened.inside]

/-- The draft is no directory, and all others are as before. -/
theorem isDirectory_eq (opened : IsOpened draft path disk directory)
    (free : IsFreeBeside draft path disk) (place : List String) :
    (disk.tree.put (directory ++ [draft]) (.file content)).isDirectory place =
      disk.tree.isDirectory place := by
  have absent := free.absent directory opened.follow
  have stays : disk.tree.isDirectory (directory ++ [draft]) → Node.file content = .directory := by
    simp [FileTree.isDirectory, absent]
  simp only [FileTree.isDirectory, FileTree.node?_put (opened.takes free) stays]
  split
  · next same =>
    subst same
    simp [absent]
  · rfl

/-- To move the draft is to put the file at its place. -/
theorem moveDraft_eq (opened : IsOpened draft path disk directory)
    (free : IsFreeBeside draft path disk) (content : Bytes) :
    disk.moveDraft (directory ++ [draft]) path
        (disk.tree.put (directory ++ [draft]) (.file content)) =
      (disk.writable path).map fun place => disk.tree.put place (.file content) := by
  have absent := free.absent directory opened.follow
  have stays : disk.tree.isDirectory (directory ++ [draft]) → Node.file content = .directory := by
    simp [FileTree.isDirectory, absent]
  have there : (disk.tree.put (directory ++ [draft]) (.file content)).node? (directory ++ [draft]) =
      some (.file content) := by
    rw [FileTree.node?_put (opened.takes free) stays, if_pos rfl]
  have moved (place : List String) :
      (disk.tree.put (directory ++ [draft]) (.file content)).move (directory ++ [draft]) place =
        disk.tree.put place (.file content) := by
    simp only [FileTree.move, there, FileTree.remove_put (opened.takes free) absent]
  simp only [moveDraft, writable, opened.target_eq free, opened.isDirectory_eq free, moved,
    opened.spellable, opened.takesDraft, Bool.not_true, Bool.or_self, Bool.false_eq_true, if_false]
  split
  · rfl
  · cases disk.tree.target (disk.start path) path.segments with
    | error fault => rfl
    | ok place =>
      dsimp only
      split <;> rfl

end IsOpened

/-- If a file can be written, a draft can be opened. -/
theorem exists_openDraft (draft : String) {place : List String}
    (writable : disk.writable path = .ok place) :
    ∃ found, disk.openDraft draft path = .ok found := by
  obtain ⟨spellable, -, target, -⟩ := of_writable path disk writable
  obtain ⟨front, name, directory, same, leads, inside, attached, -⟩ := FileTree.of_target target
  have takesDraft : disk.takesDraft path := by
    unfold Disk.writable at writable
    grind
  refine ⟨(directory ++ [draft], disk.tree.put (directory ++ [draft]) (.file [])), ?_⟩
  simp only [openDraft, spellable, takesDraft, same, List.dropLast_concat, leads, inside, attached,
    Bool.not_true, Bool.or_self, Bool.false_eq_true, if_false]

/-- A file that cannot be written or a mishap leaves the tree as it was; else the file is put at its
place. -/
theorem writeByDraft_cases (free : IsFreeBeside draft path disk) (mishap : Option Mishap)
    (content : Bytes) :
    (∃ cause, (mishap = none → ∃ fault, disk.writable path = .error fault) ∧
      disk.writeByDraft mishap draft path content = (.error cause, disk.tree)) ∨
      ∃ place, mishap = none ∧ disk.writable path = .ok place ∧
        disk.writeByDraft mishap draft path content =
          (.ok (), disk.tree.put place (.file content)) := by
  cases found : disk.openDraft draft path with
  | error fault =>
    left
    rcases mishap with _ | mishap
    · refine ⟨faultAt fault, fun _ => ?_, by simp only [writeByDraft, found]⟩
      cases writable : disk.writable path with
      | error cause => exact ⟨cause, rfl⟩
      | ok place =>
        obtain ⟨pair, opened⟩ := exists_openDraft draft writable
        rw [found] at opened
        cases opened
    · cases mishap <;> exact ⟨_, by simp, by simp only [writeByDraft, found]; rfl⟩
  | ok pair =>
    obtain ⟨place, tree⟩ := pair
    obtain ⟨directory, opened, rfl, rfl⟩ := of_openDraft found
    have fill := opened.put_put free
    have remove := opened.remove_put free
    cases mishap with
    | some mishap =>
      left
      cases mishap with
      | opening => exact ⟨_, by simp, rfl⟩
      | filling written =>
        refine ⟨fault "refused", by simp, ?_⟩
        simp only [writeByDraft, found, fill, remove]
      | moving =>
        refine ⟨fault "refused", by simp, ?_⟩
        simp only [writeByDraft, found, fill, remove]
    | none =>
      have moved := opened.moveDraft_eq free content
      cases writable : disk.writable path with
      | error cause =>
        rw [writable] at moved
        refine .inl ⟨faultAt cause, fun _ => ⟨cause, rfl⟩, ?_⟩
        simp only [writeByDraft, found, fill, remove, moved, Except.map]
      | ok place =>
        rw [writable] at moved
        refine .inr ⟨place, rfl, rfl, ?_⟩
        simp only [writeByDraft, found, fill, moved, Except.map]

/-- The steps replace the file or leave the tree as it is, whatever goes wrong. -/
theorem replaces_writeByDraft (free : IsFreeBeside draft path disk) (mishap : Option Mishap)
    (content : Bytes) :
    Replaces path content disk (disk.writeByDraft mishap draft path content).1
      (disk.writeByDraft mishap draft path content).2 := by
  rcases writeByDraft_cases free mishap content with ⟨cause, -, failed⟩ | ⟨place, -, writable, done⟩
  · rw [failed]
    exact .failed cause
  · rw [done]
    exact replaces_put writable

/-- A write that is not refused goes well if there is a place for the file, and only then. -/
theorem write_eq_ok_iff (content : Bytes) (willing : disk.refusals.head? ≠ some true) :
    (disk.write path content).1 = .ok () ↔ ∃ place, disk.writable path = .ok place := by
  constructor
  · exact writable_of_write_ok path content disk
  · rintro ⟨place, writable⟩
    simp only [write, if_neg willing, writable]

theorem exists_write_eq_error (closed : ∀ place, disk.writable path ≠ .ok place) :
    ∃ cause, (disk.write path content).1 = .error cause := by
  cases result : (disk.write path content).1 with
  | error cause => exact ⟨cause, rfl⟩
  | ok =>
    obtain ⟨place, writable⟩ := writable_of_write_ok path content disk result
    exact absurd writable (closed place)

/-- There is no place for a file whose directory is missing. -/
theorem writable_ne_of_lost {lost : PathFault}
    (missing : disk.tree.follow (disk.start path) path.segments.dropLast = .error lost)
    (place : List String) : disk.writable path ≠ .ok place := by
  intro writable
  obtain ⟨-, -, target, -⟩ := of_writable path disk writable
  obtain ⟨front, name, directory, same, leads, -⟩ := FileTree.of_target target
  rw [same, List.dropLast_concat, leads] at missing
  cases missing

/-- There is no place for a file where there is a directory. -/
theorem writable_ne_of_isDirectory {there : List String} (leads : disk.place path = .ok there)
    (occupied : disk.tree.isDirectory there) (place : List String) :
    disk.writable path ≠ .ok place := by
  intro writable
  obtain ⟨spellable, named, target, free⟩ := of_writable path disk writable
  obtain ⟨front, name, directory, same, passed, inside, attached, proper, short, rfl⟩ :=
    FileTree.of_target target
  simp only [Disk.place, spellable, named, same, FileTree.follow_append, passed, Except.bind,
    FileTree.follow_name inside attached proper short, Bool.not_true, Bool.false_eq_true,
    if_false] at leads
  split at leads
  · cases leads
    exact absurd occupied (by simp [free])
  · cases leads

/-- A write that is not refused comes to the steps without a mishap. -/
theorem writeByDraft_eq_write (free : IsFreeBeside draft path disk) (content : Bytes)
    (willing : disk.refusals.head? ≠ some true) :
    (disk.writeByDraft none draft path content).2 = (disk.write path content).2.tree ∧
      ((disk.writeByDraft none draft path content).1 = .ok () ↔
        (disk.write path content).1 = .ok ()) := by
  rw [write_eq_ok_iff content willing]
  rcases writeByDraft_cases free none content with ⟨cause, closed, failed⟩ | ⟨place, -, writable, done⟩
  · obtain ⟨fault, unwritable⟩ := closed rfl
    have refused : (disk.write path content).1 = .error (faultAt fault) := by
      simp only [write, if_neg willing, unwritable]
    rw [failed, tree_write_of_error path content disk refused]
    exact ⟨rfl, by simp [unwritable]⟩
  · have written := (write_eq_ok_iff content willing).2 ⟨place, writable⟩
    rw [done, tree_write_of_ok path content disk written writable]
    exact ⟨rfl, by simp [writable]⟩

end Disk
end PaymentVault
