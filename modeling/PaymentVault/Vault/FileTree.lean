import PaymentVault.Bytes.Basic
import PaymentVault.Register
import PaymentVault.Vault.FilePath

/-!
# File trees

A tree of files and directories, kept as a register of places, none of which hangs in the air. A
place is given by the names that lead to it from a directory outside the tree; the names of
other directories outside have two dots in front, as many as there are directories to leave, or
start at the top of the disk. Directories outside are always there.

Segments are followed one by one, so that leaving a directory by two dots takes that it exists.
-/
namespace PaymentVault

inductive Node where
  | directory
  | file (content : Bytes)
  deriving DecidableEq

namespace Node

def content? : Node → Option Bytes
  | directory => none
  | file content => some content

end Node

/-- Why a path leads nowhere. -/
inductive PathFault where
  | notFound
  | notDirectory
  | nameTooLong
  | occupied
  | unspellable
  deriving DecidableEq

/-- What is held, and where. -/
abbrev Holdings := Register (Prod.fst : List String × Node → List String)

namespace FileTree

/-- The place of a directory that was removed while paths started from it. It is empty and stays
so, but it can still be left. -/
def detached : List String := ["."]

/-- The directories outside the tree. -/
def isBase (place : List String) : Bool :=
  place.all (· = "..") || place = [FilePath.top] || place = detached

/-- What is at a place; outside the tree that is always a directory. -/
def nodeAmong (held : Holdings) (place : List String) : Option Node :=
  if isBase place then some .directory else (held.get? place).map (·.2)

end FileTree

/-- The places that hold something, each with what it holds. -/
structure FileTree where
  held : Holdings
  /-- Whatever there is is in a directory. -/
  grounded : ∀ entry ∈ held.entries, FileTree.nodeAmong held entry.1.dropLast = some .directory

namespace FileTree

def empty : FileTree := ⟨.empty, by simp [Register.empty]⟩

/-- What is at a place; outside the tree that is always a directory. -/
def node? (tree : FileTree) (place : List String) : Option Node := nodeAmong tree.held place

def isDirectory (tree : FileTree) (place : List String) : Bool := tree.node? place = some .directory

/-- The directory that a directory is in; the top of the disk is in itself. -/
def outOf (place : List String) : List String :=
  if place = [FilePath.top] then place
  else if place.all (· = "..") then place ++ [".."]
  else place.dropLast

theorem isDirectory_iff {tree : FileTree} {place : List String} :
    tree.isDirectory place ↔ tree.node? place = some .directory := by
  simp [isDirectory]

/-- Whatever is at a place of the tree is in a directory. -/
theorem isDirectory_dropLast {tree : FileTree} {place : List String} (named : isBase place = false)
    (filled : (tree.node? place).isSome) : tree.isDirectory place.dropLast := by
  rw [node?, nodeAmong, if_neg (by simp [named]), Option.isSome_map] at filled
  obtain ⟨⟨found, node⟩, there⟩ := Option.isSome_iff_exists.1 filled
  obtain rfl : found = place := Register.key_of_get? there
  exact isDirectory_iff.2 (tree.grounded _ (Register.mem_of_get? there))

/-! ## Changing trees -/

theorem nodeAmong_insert (held : Holdings) {place : List String} (node : Node)
    (named : isBase place = false) (other : List String) :
    nodeAmong (held.insert (place, node)) other = if place = other then some node
      else nodeAmong held other := by
  unfold nodeAmong
  by_cases base : isBase other
  · have differ : place ≠ other := fun same => by simp [same, base] at named
    simp [base, differ]
  · rw [if_neg base, if_neg base, Register.get?_insert]
    by_cases same : place = other <;> simp [same]

/-- The tree with something at a place of its own. There must be a directory to put it in, and
what is a directory stays one. -/
def put (place : List String) (node : Node) (tree : FileTree) : FileTree :=
  if h : isBase place = false ∧ tree.isDirectory place.dropLast ∧
    (tree.isDirectory place → node = .directory) then
    { held := tree.held.insert (place, node)
      grounded := by
        intro entry member
        obtain ⟨named, inside, stays⟩ := h
        have there := Register.mem_entries_iff.1 member
        rw [Register.get?_insert] at there
        have parent : tree.isDirectory entry.1.dropLast := by
          split at there
          · cases there
            exact inside
          · exact isDirectory_iff.2 (tree.grounded _ (Register.mem_of_get? there))
        rw [nodeAmong_insert _ _ named]
        split
        · next same => rw [stays (same ▸ parent)]
        · exact isDirectory_iff.1 parent }
  else tree

/-- The tree without what is not wanted. What is in something unwanted must be unwanted as well. -/
def retain (isWanted : List String → Bool)
    (closed : ∀ place, isWanted place → isWanted place.dropLast) (tree : FileTree) : FileTree where
  held := tree.held.retain isWanted
  grounded := by
    intro entry member
    obtain ⟨kept, wanted⟩ := List.mem_filter.1 member
    have parent := tree.grounded entry kept
    unfold nodeAmong at parent ⊢
    rwa [Register.get?_retain, if_pos (closed _ wanted)]

theorem isPrefixOf_of_dropLast {place other : List String} (h : place.isPrefixOf other.dropLast) :
    place.isPrefixOf other := by
  rw [List.isPrefixOf_iff_prefix] at h ⊢
  exact h.trans (List.dropLast_prefix other)

/-- The tree without a place and all below it. -/
def remove (place : List String) (tree : FileTree) : FileTree :=
  tree.retain (fun other => !place.isPrefixOf other) fun other wanted => by
    rw [Bool.not_eq_true'] at wanted ⊢
    exact Bool.eq_false_iff.2 fun below => Bool.eq_false_iff.1 wanted (isPrefixOf_of_dropLast below)

/-- The tree without what is below a place. -/
def clear (place : List String) (tree : FileTree) : FileTree :=
  tree.retain (fun other => !(place.isPrefixOf other && place ≠ other)) fun other wanted => by
    simp only [Bool.not_eq_true', Bool.and_eq_false_iff, decide_eq_false_iff_not, ne_eq,
      Decidable.not_not] at wanted ⊢
    rcases wanted with outside | same
    · exact .inl (Bool.eq_false_iff.2 fun below =>
        Bool.eq_false_iff.1 outside (isPrefixOf_of_dropLast below))
    · subst same
      cases place with
      | nil => exact .inr rfl
      | cons name rest =>
        refine .inl (Bool.eq_false_iff.2 fun below => ?_)
        have shorter := (List.isPrefixOf_iff_prefix.1 below).length_le
        rw [List.length_dropLast, List.length_cons] at shorter
        omega

/-- A place of the tree that is in a directory. -/
structure Takes (tree : FileTree) (place : List String) : Prop where
  named : isBase place = false
  inside : tree.isDirectory place.dropLast

theorem node?_put {tree : FileTree} {place : List String} {node : Node} (takes : tree.Takes place)
    (stays : tree.isDirectory place → node = .directory) (other : List String) :
    (tree.put place node).node? other = if place = other then some node else tree.node? other := by
  rw [put, dif_pos ⟨takes.named, takes.inside, stays⟩]
  exact nodeAmong_insert tree.held node takes.named other

/-! ## Following paths -/

/-- Follows one segment from a place. -/
def step (tree : FileTree) (place : List String) (segment : String) :
    Except PathFault (List String) :=
  if segment = FilePath.top then .ok [FilePath.top]
  else if !tree.isDirectory place then .error .notDirectory
  else if FilePath.isStay segment then .ok place
  else if segment = ".." then .ok (outOf place)
  else if place = detached then .error .notFound
  else if FilePath.nameLimit < segment.utf8ByteSize then .error .nameTooLong
  else if (tree.node? (place ++ [segment])).isSome then .ok (place ++ [segment])
  else .error .notFound

/-- Follows segments from a place. -/
def follow (tree : FileTree) (place : List String) : List String → Except PathFault (List String)
  | [] => .ok place
  | segment :: rest =>
    match tree.step place segment with
    | .error fault => .error fault
    | .ok place => tree.follow place rest

/-- The place for something new or old: a name in a directory. -/
def target (tree : FileTree) (start segments : List String) : Except PathFault (List String) :=
  match segments.getLast? with
  | none => .error .occupied
  | some name =>
    match tree.follow start segments.dropLast with
    | .error fault => .error fault
    | .ok directory =>
      if !tree.isDirectory directory then .error .notDirectory
      else if directory = detached then .error .notFound
      else if !FilePath.isName name then .error .occupied
      else if FilePath.nameLimit < name.utf8ByteSize then .error .nameTooLong
      else .ok (directory ++ [name])

/-- A name in a directory leads to no place outside the tree. -/
theorem isBase_append_name {name : String} (h : FilePath.isName name) (directory : List String) :
    isBase (directory ++ [name]) = false := by
  have proper : name ≠ "." ∧ name ≠ ".." ∧ name ≠ FilePath.top := by
    simp [FilePath.isName, FilePath.isStay] at h
    exact ⟨h.1.1.2, h.1.2, h.2⟩
  rw [isBase, List.all_append]
  cases directory with
  | nil => simp [detached, proper]
  | cons first rest => simp [detached, proper]

/-- What a target is made of. -/
theorem of_target {tree : FileTree} {start segments place : List String}
    (h : tree.target start segments = .ok place) :
    ∃ front name directory, segments = front ++ [name] ∧ tree.follow start front = .ok directory ∧
      tree.isDirectory directory ∧ directory ≠ detached ∧ FilePath.isName name ∧
      name.utf8ByteSize ≤ FilePath.nameLimit ∧ place = directory ++ [name] := by
  unfold target at h
  split at h
  · cases h
  · next name last =>
    obtain ⟨front, rfl⟩ := List.getLast?_eq_some_iff.1 last
    rw [List.dropLast_concat] at h
    split at h
    · cases h
    · next directory leads =>
      refine ⟨front, name, directory, rfl, leads, ?_⟩
      grind

/-- There is a directory to put a target in. -/
theorem takes_of_target {tree : FileTree} {start segments place : List String}
    (h : tree.target start segments = .ok place) : tree.Takes place := by
  obtain ⟨_, name, directory, _, _, inside, _, named, _, rfl⟩ := of_target h
  refine ⟨isBase_append_name named directory, ?_⟩
  rwa [List.dropLast_concat]

theorem follow_append (tree : FileTree) (start segments rest : List String) :
    tree.follow start (segments ++ rest) = (tree.follow start segments).bind fun place =>
      tree.follow place rest := by
  induction segments generalizing start with
  | nil => rfl
  | cons segment segments ih =>
    simp only [List.cons_append, follow]
    split
    · rfl
    · exact ih _

/-- A name in a directory leads to what is there. -/
theorem follow_name {tree : FileTree} {directory : List String} {name : String}
    (inside : tree.isDirectory directory) (attached : directory ≠ detached)
    (named : FilePath.isName name) (short : name.utf8ByteSize ≤ FilePath.nameLimit) :
    tree.follow directory [name] =
      if (tree.node? (directory ++ [name])).isSome then .ok (directory ++ [name])
      else .error .notFound := by
  have proper : name ≠ FilePath.top ∧ FilePath.isStay name = false ∧ name ≠ ".." := by
    simp [FilePath.isName] at named
    exact ⟨named.2, named.1.1, named.1.2⟩
  obtain ⟨notTop, notStay, notOut⟩ := proper
  have fits : ¬FilePath.nameLimit < name.utf8ByteSize := Nat.not_lt.2 short
  simp only [follow, step, notTop, inside, notStay, notOut, attached, fits, if_false, Bool.not_true,
    Bool.false_eq_true]
  split <;> simp_all

/-- A target that holds something is what its path leads to. -/
theorem follow_of_target {tree : FileTree} {start segments place : List String}
    (h : tree.target start segments = .ok place) (filled : (tree.node? place).isSome) :
    tree.follow start segments = .ok place := by
  obtain ⟨front, name, directory, rfl, leads, inside, attached, named, short, rfl⟩ := of_target h
  rw [follow_append, leads, Except.bind, follow_name inside attached named short, if_pos filled]

/-! ## Trees that hold more -/

/-- What is a directory stays one, and what there is stays there. -/
structure Extends (later tree : FileTree) : Prop where
  isDirectory : ∀ place, tree.isDirectory place → later.isDirectory place
  isSome : ∀ place, (tree.node? place).isSome → (later.node? place).isSome

theorem extends_put {tree : FileTree} {place : List String} {node : Node} (takes : tree.Takes place)
    (stays : tree.isDirectory place → node = .directory) : (tree.put place node).Extends tree := by
  constructor
  · intro other directory
    rw [isDirectory_iff, node?_put takes stays]
    split
    · next same => rw [stays (same ▸ directory)]
    · exact isDirectory_iff.1 directory
  · intro other filled
    rw [node?_put takes stays]
    split
    · rfl
    · exact filled

/-- A path still leads to its place when there is more. -/
theorem Extends.follow {later tree : FileTree} (more : later.Extends tree) (segments : List String)
    {start found : List String} (leads : tree.follow start segments = .ok found) :
    later.follow start segments = .ok found := by
  induction segments generalizing start with
  | nil => exact leads
  | cons segment rest ih =>
    unfold FileTree.follow at leads ⊢
    split at leads
    · cases leads
    · next next stepped =>
      have same : later.step start segment = .ok next := by
        have directory := more.isDirectory start
        have filled := more.isSome (start ++ [segment])
        unfold step at stepped ⊢
        grind
      rw [same]
      exact ih leads

/-- The place for a file stays the same when there is more. -/
theorem Extends.target {later tree : FileTree} (more : later.Extends tree)
    {start segments place : List String} (h : tree.target start segments = .ok place) :
    later.target start segments = .ok place := by
  obtain ⟨front, name, directory, rfl, leads, inside, attached, named, short, rfl⟩ := of_target h
  have fits : ¬FilePath.nameLimit < name.utf8ByteSize := Nat.not_lt.2 short
  simp only [FileTree.target, List.getLast?_concat, List.dropLast_concat, more.follow _ leads,
    more.isDirectory _ inside, attached, named, fits, if_false, Bool.not_true, Bool.false_eq_true]

/-! ## Directories -/

/-- Makes sure that segments lead to a directory, of which only the last may be missing. -/
def makeDirectory (start segments : List String) (tree : FileTree) : Except PathFault FileTree :=
  if (segments.getLast?.map FilePath.isName).getD false then
    match tree.target start segments with
    | .error fault => .error fault
    | .ok place =>
      match tree.node? place with
      | some .directory => .ok tree
      | some (.file _) => .error .occupied
      | none => .ok (tree.put place .directory)
  else
    match tree.follow start segments with
    | .error fault => .error fault
    | .ok place => if tree.isDirectory place then .ok tree else .error .notDirectory

/-- Makes sure of several directories in turn, up to the first that cannot be. -/
def makeDirectories (start : List String) (tree : FileTree) :
    List (List String) → Except PathFault Unit × FileTree
  | [] => (.ok (), tree)
  | segments :: rest =>
    match tree.makeDirectory start segments with
    | .error fault => (.error fault, tree)
    | .ok tree => tree.makeDirectories start rest

/-- The places in a directory of the given name as texts in order, a slash after each directory. -/
def listing (name : String) (tree : FileTree) : List String :=
  let inside := tree.held.entries.filterMap fun (place, node) =>
    if place.head? = some name ∧ place.length ≠ 1 then some (place.tail, node) else none
  (inside.map fun (place, node) =>
    "/".intercalate place ++ if node = .directory then "/" else "").mergeSort fun a b =>
      decide (a ≤ b)

end FileTree
end PaymentVault
