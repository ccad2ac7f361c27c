import PaymentVault.Vault.FileTree

/-!
# Paths below a directory

What names lead to from a directory takes no more than what is on the way. Making a directory
below one that is there adds nothing else to a tree, and what was made need not be made again
(`makeDirectories_again`).
-/
namespace PaymentVault.FileTree

variable {tree tree' later : FileTree} {start directory place : List String}

theorem node?_eq_none {name : String} (named : FilePath.isName name)
    (absent : tree.isDirectory place = false) :
    tree.node? (place ++ [name]) = none := by
  cases there : tree.node? (place ++ [name]) with
  | none => rfl
  | some node =>
    have parent :=
      isDirectory_dropLast (isBase_append_name named place) (Option.isSome_of_eq_some there)
    rw [List.dropLast_concat, absent] at parent
    cases parent

/-- One name leads to the same in trees that agree on the way. -/
theorem step_congr {name : String} (here : tree'.node? directory = tree.node? directory)
    (there : tree'.node? (directory ++ [name]) = tree.node? (directory ++ [name])) :
    tree'.step directory name = tree.step directory name := by
  simp only [step, isDirectory, here, there]
  rfl

theorem step_eq_ok {name : String} (named : FilePath.isName name)
    (stepped : tree.step directory name = .ok place) :
    place = directory ++ [name] := by
  simp only [FilePath.isName, Bool.and_eq_true, Bool.not_eq_true', decide_eq_true_eq] at named
  unfold step at stepped
  grind

theorem follow_eq_ok {names : List String} (named : ∀ name ∈ names, FilePath.isName name)
    (leads : tree.follow directory names = .ok place) : place = directory ++ names := by
  induction names generalizing directory with
  | nil =>
    rw [List.append_nil]
    exact (Except.ok.inj leads).symm
  | cons name names ih =>
    obtain ⟨first, rest⟩ := List.forall_mem_cons.1 named
    rw [follow] at leads
    cases stepped : tree.step directory name with
    | error fault =>
      rw [stepped] at leads
      cases leads
    | ok next =>
      rw [stepped] at leads
      obtain rfl := step_eq_ok first stepped
      rw [ih rest leads, List.append_assoc, List.singleton_append]

/-- Names lead to the same in trees that agree on the way. -/
theorem follow_congr {names : List String} (named : ∀ name ∈ names, FilePath.isName name)
    (same : ∀ passed, passed <+: names →
      tree'.node? (directory ++ passed) = tree.node? (directory ++ passed)) :
    tree'.follow directory names = tree.follow directory names := by
  induction names generalizing directory with
  | nil => rfl
  | cons name names ih =>
    obtain ⟨first, rest⟩ := List.forall_mem_cons.1 named
    have here := same [] (List.nil_prefix ..)
    rw [List.append_nil] at here
    have there := same [name] ⟨names, rfl⟩
    rw [follow, follow, step_congr here there]
    cases stepped : tree.step directory name with
    | error fault => rfl
    | ok place =>
      obtain rfl := step_eq_ok first stepped
      refine ih rest fun passed front => ?_
      have further := same (name :: passed) (List.cons_prefix_cons.2 ⟨rfl, front⟩)
      rwa [← List.singleton_append, ← List.append_assoc] at further

/-! ## Making directories -/

theorem follow_filter_stay {segments : List String}
    (leads : tree.follow start segments = .ok place) :
    tree.follow start (segments.filter fun segment => !FilePath.isStay segment) = .ok place := by
  induction segments generalizing start with
  | nil => exact leads
  | cons segment segments ih =>
    rw [follow] at leads
    cases stepped : tree.step start segment with
    | error fault =>
      rw [stepped] at leads
      cases leads
    | ok next =>
      rw [stepped] at leads
      cases stay : FilePath.isStay segment with
      | false =>
        rw [List.filter_cons_of_pos (by simp [stay]), follow, stepped]
        exact ih leads
      | true =>
        have same : next = start := by
          have notTop : segment ≠ FilePath.top := by
            rintro rfl
            exact absurd stay (by decide)
          unfold step at stepped
          grind
        rw [List.filter_cons_of_neg (by simp [stay]), ← same]
        exact ih leads

theorem follow_prefix {front segments : List String}
    (leads : tree.follow start segments = .ok place) (before : front <+: segments) :
    ∃ passed, tree.follow start front = .ok passed := by
  obtain ⟨rest, rfl⟩ := before
  rw [follow_append] at leads
  cases first : tree.follow start front with
  | error fault =>
    rw [first] at leads
    cases leads
  | ok passed => exact ⟨passed, rfl⟩

/-- A new directory has nothing in it. -/
theorem follow_put_directory {name inner : String} (inside : tree.isDirectory directory)
    (attached : directory ≠ detached) (named : FilePath.isName name)
    (short : name.utf8ByteSize ≤ FilePath.nameLimit) (namedInner : FilePath.isName inner)
    (shortInner : inner.utf8ByteSize ≤ FilePath.nameLimit)
    (takes : tree.Takes (directory ++ [name])) (absent : tree.node? (directory ++ [name]) = none) :
    (tree.put (directory ++ [name]) .directory).follow directory [name, inner] =
      tree.follow directory [name, inner] := by
  have stays : tree.isDirectory (directory ++ [name]) → Node.directory = .directory := fun _ => rfl
  have now (place : List String) := node?_put takes stays place
  have made : (tree.put (directory ++ [name]) .directory).isDirectory (directory ++ [name]) :=
    isDirectory_iff.2 (by rw [now, if_pos rfl])
  have own : directory ++ [name] ≠ detached := fun same => by
    have outside := takes.named
    rw [same] at outside
    exact absurd outside (by decide)
  have further : directory ++ [name] ≠ directory ++ [name] ++ [inner] := by simp
  have empty : tree.node? (directory ++ [name] ++ [inner]) = none :=
    node?_eq_none namedInner (by simp [isDirectory, absent])
  have before : tree.follow directory [name] = .error .notFound := by
    rw [follow_name inside attached named short, absent]
    rfl
  have after : (tree.put (directory ++ [name]) .directory).follow directory [name] =
      .ok (directory ++ [name]) := by
    rw [follow_name ((extends_put takes stays).isDirectory _ inside) attached named short,
      now, if_pos rfl]
    rfl
  have inner_absent : (tree.put (directory ++ [name]) .directory).follow
      (directory ++ [name]) [inner] =
      .error .notFound := by
    rw [follow_name made own namedInner shortInner, now, if_neg further, empty]
    rfl
  rw [show [name, inner] = [name] ++ [inner] from rfl, follow_append, follow_append, before, after]
  exact inner_absent

/-- Nothing is made, or a directory at the free target of a path. -/
theorem makeDirectory_cases {segments : List String}
    (made : tree.makeDirectory start segments = .ok tree') :
    tree' = tree ∨ ∃ place, tree.target start segments = .ok place ∧ tree.node? place = none ∧
      tree' = tree.put place .directory := by
  unfold makeDirectory at made
  split at made
  · cases found : tree.target start segments with
    | error fault => simp [found] at made
    | ok place =>
      rw [found] at made
      dsimp only at made
      split at made
      · exact .inl (Except.ok.inj made).symm
      · cases made
      · next absent => exact .inr ⟨place, rfl, absent, (Except.ok.inj made).symm⟩
  · cases found : tree.follow start segments with
    | error fault => simp [found] at made
    | ok place =>
      rw [found] at made
      dsimp only at made
      split at made
      · exact .inl (Except.ok.inj made).symm
      · cases made

/-- Nothing is made where a path leads already. -/
theorem makeDirectory_of_follow {segments : List String}
    (leads : tree.follow start segments = .ok place)
    (made : tree.makeDirectory start segments = .ok tree') : tree' = tree := by
  rcases makeDirectory_cases made with same | ⟨target, found, absent, -⟩
  · exact same
  · obtain ⟨front, name, directory, rfl, first, inside, attached, named, short, rfl⟩ :=
      of_target found
    rw [follow_append, first, Except.bind, follow_name inside attached named short, absent] at leads
    cases leads

/-- At the end of ways that lead somewhere already, at most the last directory is made. -/
theorem makeDirectories_concat {ways : List (List String)} (last : List String)
    (followed : ∀ way ∈ ways, ∃ place, tree.follow start way = .ok place) :
    (∃ fault, tree.makeDirectories start (ways ++ [last]) = (.error fault, tree)) ∨
      ∃ later, tree.makeDirectory start last = .ok later ∧
        tree.makeDirectories start (ways ++ [last]) = (.ok (), later) := by
  induction ways with
  | nil =>
    rw [List.nil_append, makeDirectories]
    cases made : tree.makeDirectory start last with
    | error fault => exact .inl ⟨fault, rfl⟩
    | ok later => exact .inr ⟨later, rfl, rfl⟩
  | cons way ways ih =>
    obtain ⟨⟨place, leads⟩, rest⟩ := List.forall_mem_cons.1 followed
    rw [List.cons_append, makeDirectories]
    cases made : tree.makeDirectory start way with
    | error fault => exact .inl ⟨fault, rfl⟩
    | ok later =>
      obtain rfl := makeDirectory_of_follow leads made
      exact ih rest

/-- A name in a directory is made a directory if nothing goes by it. -/
theorem makeDirectory_concat {front : List String} {name : String}
    (leads : tree.follow start front = .ok directory)
    (made : tree.makeDirectory start (front ++ [name]) = .ok tree') :
    tree' = tree ∨ tree.Takes (directory ++ [name]) ∧ tree.node? (directory ++ [name]) = none ∧
      tree' = tree.put (directory ++ [name]) .directory := by
  rcases makeDirectory_cases made with same | ⟨target, found, absent, put⟩
  · exact .inl same
  · have takes := takes_of_target found
    obtain ⟨other, name', directory', same, leads', -, -, -, -, rfl⟩ := of_target found
    obtain ⟨rfl, ⟨⟩⟩ := List.append_inj' same rfl
    obtain rfl : directory = directory' := Except.ok.inj (leads.symm.trans leads')
    exact .inr ⟨takes, absent, put⟩

/-! ## Making directories again -/

theorem Extends.refl (tree : FileTree) : tree.Extends tree := ⟨fun _ => id, fun _ => id⟩

theorem Extends.trans (more : later.Extends tree') (before : tree'.Extends tree) :
    later.Extends tree where
  isDirectory place inside := more.isDirectory place (before.isDirectory place inside)
  isSome place filled := more.isSome place (before.isSome place filled)

theorem extends_makeDirectory {segments : List String}
    (made : tree.makeDirectory start segments = .ok tree') : tree'.Extends tree := by
  rcases makeDirectory_cases made with rfl | ⟨place, found, -, rfl⟩
  · exact .refl tree'
  · exact extends_put (takes_of_target found) fun _ => rfl

theorem extends_makeDirectories (start : List String) (tree : FileTree)
    (ways : List (List String)) :
    (tree.makeDirectories start ways).2.Extends tree := by
  induction ways generalizing tree with
  | nil => exact .refl tree
  | cons way ways ih =>
    rw [makeDirectories]
    cases made : tree.makeDirectory start way with
    | error fault => exact .refl tree
    | ok next => exact (ih next).trans (extends_makeDirectory made)

/-- A directory that was made is there, also when there is more. -/
theorem makeDirectory_again {segments : List String}
    (made : tree.makeDirectory start segments = .ok tree') (more : later.Extends tree') :
    later.makeDirectory start segments = .ok later := by
  have first := extends_makeDirectory made
  unfold makeDirectory at made ⊢
  split at made
  · next named =>
    rw [if_pos named]
    cases found : tree.target start segments with
    | error fault => simp [found] at made
    | ok place =>
      rw [found] at made
      dsimp only at made
      have inside : tree'.isDirectory place := by
        split at made
        · next there =>
          cases made
          exact isDirectory_iff.2 there
        · cases made
        · cases made
          rw [isDirectory_iff, node?_put (takes_of_target found) fun _ => rfl, if_pos rfl]
      simp only [(more.trans first).target found, isDirectory_iff.1 (more.isDirectory place inside)]
  · next dotted =>
    rw [if_neg dotted]
    cases found : tree.follow start segments with
    | error fault => simp [found] at made
    | ok place =>
      rw [found] at made
      dsimp only at made
      split at made
      · next inside =>
        cases made
        simp only [more.follow segments found, more.isDirectory place inside, if_true]
      · cases made

theorem makeDirectories_again {ways : List (List String)}
    (made : tree.makeDirectories start ways = (.ok (), tree')) (more : later.Extends tree') :
    later.makeDirectories start ways = (.ok (), later) := by
  induction ways generalizing tree with
  | nil => rfl
  | cons way ways ih =>
    rw [makeDirectories] at made ⊢
    cases first : tree.makeDirectory start way with
    | error fault =>
      rw [first] at made
      cases made
    | ok next =>
      rw [first] at made
      dsimp only at made
      have rest := extends_makeDirectories start next ways
      rw [made] at rest
      rw [makeDirectory_again first (more.trans rest)]
      exact ih made

end PaymentVault.FileTree
