import PaymentVault.Proofs.Vault.FileTree
import PaymentVault.Vault.Disk

/-!
# What a change of a disk leaves alone

Below a directory that a path leads to, a file is read as before unless something was put on the
way to it. Neither a write nor the making of a directory takes anything away (`extends_write`,
`extends_ensureDirectory`).
-/
namespace PaymentVault

namespace Disk

section writing

variable {disk disk' : Disk}

/-- What is read depends on the tree and on where relative paths start. -/
theorem read_congr (tree : disk'.tree = disk.tree) (workplace : disk'.workplace = disk.workplace)
    (path : FilePath) :
    disk'.read path = disk.read path := by
  simp only [read, place, start, tree, workplace]

variable (path : FilePath) (content : Bytes) (disk : Disk)

@[simp] theorem workplace_write : (disk.write path content).2.workplace = disk.workplace := by
  simp only [write]
  split
  · rfl
  · split <;> rfl

/-- A write that fails changes nothing that is read. -/
theorem read_write_of_error {fault : VaultError}
    (failed : (disk.write path content).1 = .error fault) (other : FilePath) :
    (disk.write path content).2.read other = disk.read other :=
  read_congr (tree_write_of_error path content disk failed)
    (workplace_write path content disk) other

@[simp] theorem workplace_ensureDirectory :
    (disk.ensureDirectory path).2.workplace = disk.workplace := by
  simp only [ensureDirectory]
  split <;> rfl

/-! ### What there is stays there -/

theorem extends_write : (disk.write path content).2.tree.Extends disk.tree := by
  cases written : (disk.write path content).1 with
  | error fault =>
    rw [tree_write_of_error path content disk written]
    exact .refl disk.tree
  | ok =>
    obtain ⟨place, writable⟩ := writable_of_write_ok path content disk written
    obtain ⟨-, -, target, free⟩ := of_writable path disk writable
    rw [tree_write_of_ok path content disk written writable]
    exact FileTree.extends_put (FileTree.takes_of_target target) (by simp [free])

theorem extends_ensureDirectory : (disk.ensureDirectory path).2.tree.Extends disk.tree := by
  unfold ensureDirectory
  split
  · exact .refl disk.tree
  · exact FileTree.extends_makeDirectories _ disk.tree _

/-- A directory that was ensured once need not be made again. -/
theorem ensureDirectory_again (ensured : (disk.ensureDirectory path).1 = .ok ())
    (more : disk'.tree.Extends (disk.ensureDirectory path).2.tree)
    (workplace : disk'.workplace = disk.workplace) :
    disk'.ensureDirectory path = (.ok (), disk') := by
  have start : disk'.start path = disk.start path := by rw [Disk.start, Disk.start, workplace]
  unfold ensureDirectory at ensured more ⊢
  split at ensured
  · cases ensured
  · next spellable =>
    rw [if_neg spellable] at more ⊢
    rcases made : disk.tree.makeDirectories (disk.start path)
      (path.ancestors ++ [path.trimmedSegments]) with ⟨fault | ⟨⟩, tree⟩
    · simp [made, mapError_error] at ensured
    · rw [made] at more
      simp only [start, FileTree.makeDirectories_again made more, mapError_ok]

end writing

/-- A path leads to a directory that there are places in. -/
structure LeadsTo (disk : Disk) (path : FilePath) (directory : List String) : Prop where
  follow : disk.tree.follow (disk.start path) path.segments = .ok directory
  isDirectory : disk.tree.isDirectory directory
  attached : directory ≠ FileTree.detached

variable {disk disk' : Disk} {path file : FilePath} {directory names : List String} {name : String}

theorem LeadsTo.extends (leads : disk.LeadsTo path directory) (more : disk'.tree.Extends disk.tree)
    (workplace : disk'.workplace = disk.workplace) : disk'.LeadsTo path directory where
  follow := by
    have same : disk'.start path = disk.start path := by rw [start, start, workplace]
    rw [same]
    exact more.follow _ leads.follow
  isDirectory := more.isDirectory _ leads.isDirectory
  attached := leads.attached

/-- A path that has a place for a file leads to the directory of the place. -/
theorem leadsTo_of_target {place : List String}
    (found : disk.tree.target (disk.start path) (path.segments ++ [name]) = .ok place) :
    ∃ directory, disk.LeadsTo path directory ∧ place = directory ++ [name] := by
  obtain ⟨front, last, directory, same, leads, inside, attached, -, -, rfl⟩ :=
    FileTree.of_target found
  obtain ⟨rfl, ⟨⟩⟩ := List.append_inj' same rfl
  exact ⟨directory, ⟨leads, inside, attached⟩, rfl⟩

/-- A path that a file is read at leads to the directory of the file. -/
theorem leadsTo_of_read {content : Bytes} (named : FilePath.isName name)
    (stands : disk.read (path.child name) = .ok content) :
    ∃ directory, disk.LeadsTo path directory := by
  unfold read at stands
  cases placed : disk.place (path.child name) with
  | error fault => cases fault <;> simp [placed] at stands
  | ok place =>
    have leads : disk.tree.follow (disk.start path) (path.segments ++ [name]) = .ok place := by
      unfold Disk.place at placed
      grind [FilePath.child, start]
    rw [FileTree.follow_append] at leads
    cases first : disk.tree.follow (disk.start path) path.segments with
    | error fault => simp [first, Except.bind] at leads
    | ok directory =>
      simp only [first, Except.bind, FileTree.follow] at leads
      simp only [FilePath.isName, Bool.and_eq_true, Bool.not_eq_true', decide_eq_true_eq] at named
      refine ⟨directory, first, ?_, ?_⟩
      · cases inside : disk.tree.isDirectory directory with
        | true => rfl
        | false => simp [FileTree.step, inside, named] at leads
      · rintro rfl
        unfold FileTree.step at leads
        grind

/-- A file below a directory is read the same if nothing on the way has changed. -/
theorem LeadsTo.read_eq (leads : disk.LeadsTo path directory)
    (leads' : disk'.LeadsTo path directory) (relative : file.isRelative = path.isRelative)
    (segments : file.segments = path.segments ++ names)
    (same : disk'.tree.follow directory names = disk.tree.follow directory names)
    (there : disk'.tree.node? (directory ++ names) = disk.tree.node? (directory ++ names))
    (named : ∀ name ∈ names, FilePath.isName name) : disk'.read file = disk.read file := by
  have start : disk.start file = disk.start path := by rw [start, start, relative]
  have start' : disk'.start file = disk'.start path := by rw [Disk.start, Disk.start, relative]
  have place : disk'.place file = disk.place file := by
    simp only [Disk.place, start, start', segments, FileTree.follow_append, leads.follow,
      leads'.follow, Except.bind, same]
  unfold read
  rw [place]
  cases placed : disk.place file with
  | error fault => cases fault <;> rfl
  | ok found =>
    have found : disk.tree.follow directory names = .ok found := by
      simp only [Disk.place, start, segments, FileTree.follow_append, leads.follow,
        Except.bind] at placed
      grind
    obtain rfl := FileTree.follow_eq_ok named found
    simp only [there]

/-- So it is if something was put elsewhere. -/
theorem LeadsTo.read_put (leads : disk.LeadsTo path directory) {place : List String} {node : Node}
    (takes : disk.tree.Takes place) (stays : disk.tree.isDirectory place → node = .directory)
    (tree : disk'.tree = disk.tree.put place node) (workplace : disk'.workplace = disk.workplace)
    (relative : file.isRelative = path.isRelative)
    (segments : file.segments = path.segments ++ names)
    (named : ∀ name ∈ names, FilePath.isName name)
    (elsewhere : ∀ passed, passed <+: names → place ≠ directory ++ passed) :
    disk'.read file = disk.read file := by
  have same (passed : List String) (front : passed <+: names) :
      disk'.tree.node? (directory ++ passed) = disk.tree.node? (directory ++ passed) := by
    rw [tree, FileTree.node?_put takes stays, if_neg (elsewhere passed front)]
  have more : disk'.tree.Extends disk.tree := tree ▸ FileTree.extends_put takes stays
  exact leads.read_eq (leads.extends more workplace) relative segments
    (FileTree.follow_congr named same) (same names (List.prefix_refl names)) named

/-- A file below a directory has its place there. -/
theorem LeadsTo.target_eq (leads : disk.LeadsTo path directory) {place : List String}
    (named : ∀ name ∈ names, FilePath.isName name)
    (found : disk.tree.target (disk.start path) (path.segments ++ (names ++ [name])) = .ok place) :
    place = directory ++ (names ++ [name]) := by
  obtain ⟨front, last, inner, same, further, -, -, -, -, rfl⟩ := FileTree.of_target found
  rw [← List.append_assoc] at same
  obtain ⟨rfl, ⟨⟩⟩ := List.append_inj' same rfl
  rw [FileTree.follow_append, leads.follow, Except.bind] at further
  rw [FileTree.follow_eq_ok named further, List.append_assoc]

/-- Writing one file leaves another alone that it is not on the way to. -/
theorem LeadsTo.read_write (leads : disk.LeadsTo path directory) {written : FilePath}
    {before : List String} (content : Bytes) (start : written.isRelative = path.isRelative)
    (there : written.segments = path.segments ++ (before ++ [name]))
    (beforeNamed : ∀ name ∈ before, FilePath.isName name)
    (relative : file.isRelative = path.isRelative)
    (segments : file.segments = path.segments ++ names)
    (named : ∀ name ∈ names, FilePath.isName name)
    (apart : ∀ passed, passed <+: names → before ++ [name] ≠ passed) :
    (disk.write written content).2.read file = disk.read file := by
  cases result : (disk.write written content).1 with
  | error fault => exact read_write_of_error written content disk result file
  | ok =>
    obtain ⟨place, writable⟩ := writable_of_write_ok written content disk result
    obtain ⟨-, -, target, free⟩ := of_writable written disk writable
    have same : disk.start written = disk.start path := by rw [Disk.start, Disk.start, start]
    have takes := FileTree.takes_of_target target
    rw [same, there] at target
    obtain rfl := leads.target_eq beforeNamed target
    refine leads.read_put takes (by simp [free])
      (tree_write_of_ok written content disk result writable)
      (workplace_write written content disk) relative segments named fun passed front clash => ?_
    exact apart passed front (List.append_cancel_left clash)

/-! ## Making a directory -/

theorem trimmedSegments_child (path : FilePath) (filled : name ≠ "") :
    (path.child name).trimmedSegments = path.segments ++ [name] := by
  simp [FilePath.trimmedSegments, FilePath.child, filled]

theorem ancestors_child (path : FilePath) (stays : FilePath.isStay name = false) {way : List String}
    (member : way ∈ (path.child name).ancestors) :
    way <+: path.segments.filter fun segment => !FilePath.isStay segment := by
  simp only [FilePath.ancestors, FilePath.child, List.filter_append, List.filter_cons_of_pos,
    stays, Bool.not_false, List.filter_nil, List.length_append, List.length_singleton,
    Nat.add_sub_cancel, List.mem_map, List.mem_range] at member
  obtain ⟨n, within, rfl⟩ := member
  rw [List.take_append_of_le_length within]
  exact List.take_prefix _ _

/-- A directory below one that a path leads to is all that has to be made. -/
theorem LeadsTo.ensureDirectory_cases (leads : disk.LeadsTo path directory)
    (named : FilePath.isName name) :
    (∃ fault, disk.ensureDirectory (path.child name) = (.error fault, disk)) ∨
      ∃ later, disk.tree.makeDirectory (disk.start path) (path.segments ++ [name]) = .ok later ∧
        disk.ensureDirectory (path.child name) = (.ok (), { disk with tree := later }) := by
  have proper : FilePath.isStay name = false ∧ name ≠ "" := by
    simp only [FilePath.isName, FilePath.isStay, Bool.and_eq_true, Bool.not_eq_true',
      Bool.or_eq_false_iff, decide_eq_true_eq, decide_eq_false_iff_not] at named ⊢
    exact ⟨named.1.1, named.1.1.1⟩
  have followed (way : List String) (member : way ∈ (path.child name).ancestors) :
      ∃ place, disk.tree.follow (disk.start path) way = .ok place :=
    FileTree.follow_prefix (FileTree.follow_filter_stay leads.follow)
      (ancestors_child path proper.1 member)
  have start : disk.start (path.child name) = disk.start path := rfl
  unfold ensureDirectory
  split
  · exact .inl ⟨_, rfl⟩
  rw [trimmedSegments_child path proper.2, start]
  rcases FileTree.makeDirectories_concat (path.segments ++ [name]) followed with
    ⟨fault, stopped⟩ | ⟨later, made, all⟩
  · rw [stopped]
    exact .inl ⟨_, rfl⟩
  · rw [all]
    exact .inr ⟨later, made, rfl⟩

/-- A directory below one that a path leads to is made there, or nothing is. -/
theorem LeadsTo.tree_ensureDirectory (leads : disk.LeadsTo path directory)
    (named : FilePath.isName name) :
    (disk.ensureDirectory (path.child name)).2.tree = disk.tree ∨
      disk.tree.Takes (directory ++ [name]) ∧ disk.tree.node? (directory ++ [name]) = none ∧
        (disk.ensureDirectory (path.child name)).2.tree =
          disk.tree.put (directory ++ [name]) .directory := by
  rcases leads.ensureDirectory_cases named with ⟨fault, stopped⟩ | ⟨later, made, ensured⟩
  · rw [stopped]
    exact .inl rfl
  · rw [ensured]
    exact FileTree.makeDirectory_concat leads.follow made

theorem LeadsTo.ensureDirectory (leads : disk.LeadsTo path directory) (other : FilePath) :
    (disk.ensureDirectory other).2.LeadsTo path directory :=
  leads.extends (extends_ensureDirectory other disk) (workplace_ensureDirectory other disk)

/-- Making a directory leaves a file alone that it is not on the way to. -/
theorem LeadsTo.read_ensureDirectory (leads : disk.LeadsTo path directory)
    (made : FilePath.isName name) (relative : file.isRelative = path.isRelative)
    (segments : file.segments = path.segments ++ names)
    (named : ∀ name ∈ names, FilePath.isName name)
    (apart : ∀ passed, passed <+: names → [name] ≠ passed) :
    (disk.ensureDirectory (path.child name)).2.read file = disk.read file := by
  have workplace := workplace_ensureDirectory (path.child name) disk
  rcases leads.tree_ensureDirectory made with same | ⟨takes, -, put⟩
  · exact read_congr same workplace file
  · refine leads.read_put takes (fun _ => rfl) put workplace relative segments named
      fun passed front clash => ?_
    exact apart passed front (List.append_cancel_left clash)

/-- Making the directory that a file is to be in makes no file. -/
theorem LeadsTo.read_ensureDirectory_of_inside (leads : disk.LeadsTo path directory)
    {inner : String} (made : FilePath.isName name) (short : name.utf8ByteSize ≤ FilePath.nameLimit)
    (named : FilePath.isName inner) (shortInner : inner.utf8ByteSize ≤ FilePath.nameLimit)
    (relative : file.isRelative = path.isRelative)
    (segments : file.segments = path.segments ++ [name, inner]) :
    (disk.ensureDirectory (path.child name)).2.read file = disk.read file := by
  rcases leads.tree_ensureDirectory made with same | ⟨takes, absent, put⟩
  · exact read_congr same (workplace_ensureDirectory _ disk) file
  · have follow := FileTree.follow_put_directory leads.isDirectory leads.attached made short named
      shortInner takes absent
    rw [← put] at follow
    refine leads.read_eq (leads.ensureDirectory _) relative segments follow ?_ ?_
    · have other : directory ++ [name] ≠ directory ++ [name, inner] := fun same => by
        simpa using List.append_cancel_left same
      rw [put, FileTree.node?_put takes fun _ => rfl, if_neg other]
    · simp [made, named]

end Disk
end PaymentVault
