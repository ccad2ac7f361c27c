import PaymentVault.Proofs.Json.RoundTrip

/-!
# Reading records

An object with members of a record, in any order, is read as the record if the members that it
has not are given values that stand in for them (`reads_object`). So a record is read as its
members are (`format_yields`), provided that no two of them share a name.
-/
namespace PaymentVault.Json.Members

variable {τ : Type}

/-- The names of the members. -/
def names : {τ : Type} → Members τ → List String
  | _, .done => []
  | _, .field name _ _ _ rest => name :: rest.names

/-- What is made of each member of a record that was written. -/
def Yields : {τ : Type} → Members τ → τ → τ → Prop
  | _, .done, _, _ => True
  | _, .field _ format _ _ rest, (a, b), (a', b') => format.Yields a a' ∧ rest.Yields b b'

/-- The draft of a record in which some of its members were found. -/
def drafted : {τ : Type} → (members : Members τ) → τ → (String → Bool) → members.Draft
  | _, .done, _, _ => ()
  | _, .field name _ _ _ rest, (a, b), isFound =>
    (if isFound name then some a else none, rest.drafted b isFound)

theorem drafted_none (members : Members τ) (record : τ) :
    members.drafted record (fun _ => false) = members.blank := by
  induction members with
  | done => rfl
  | field name format absent beyond rest ih =>
    obtain ⟨a, b⟩ := record
    simp [drafted, blank, ih]

theorem drafted_congr (members : Members τ) (record : τ) {isFound isFound' : String → Bool}
    (same : ∀ name ∈ members.names, isFound name = isFound' name) :
    members.drafted record isFound = members.drafted record isFound' := by
  induction members with
  | done => rfl
  | field name format absent beyond rest ih =>
    obtain ⟨a, b⟩ := record
    obtain ⟨first, others⟩ := List.forall_mem_cons.1 same
    simp only [drafted, first, ih b others]

theorem complete?_drafted (members : Members τ) (record : τ) {isFound : String → Bool}
    (all : ∀ name ∈ members.names, isFound name) :
    members.complete? (members.drafted record isFound) = some record := by
  induction members with
  | done => rfl
  | field name format absent beyond rest ih =>
    obtain ⟨a, b⟩ := record
    obtain ⟨first, others⟩ := List.forall_mem_cons.1 all
    simp [drafted, complete?, first, ih b others]

theorem map_fst_write (members : Members τ) (record : τ) :
    (members.write record).map (·.1) = members.names := by
  induction members with
  | done => rfl
  | field name format absent beyond rest ih =>
    obtain ⟨a, b⟩ := record
    rw [write, names, List.map_cons, ih]

/-- What follows the name of a member is read for that member. -/
theorem exists_reader {members : Members τ} (nodup : members.names.Nodup) {record record' : τ}
    (yields : members.Yields record record') {name : String} {json : Json}
    (member : (name, json) ∈ members.write record) {isFound : String → Bool}
    (fresh : isFound name = false) :
    ∃ read, members.reader? name (members.drafted record' isFound) = some read ∧
      ∀ layout text, Closes text →
        read ((layout.colon ++ render layout json).map some ++ text) =
          .ok (members.drafted record' (fun other => isFound other || other = name), text) := by
  induction members with
  | done => cases member
  | field first format absent beyond rest ih =>
    obtain ⟨a, b⟩ := record
    obtain ⟨a', b'⟩ := record'
    obtain ⟨unused, nodup⟩ := List.nodup_cons.1 nodup
    rw [write, List.mem_cons] at member
    rcases member with same | member
    · cases same
      refine ⟨_, by rw [reader?, if_pos rfl], fun layout text closes => ?_⟩
      obtain ⟨gap, isGap, colon⟩ := colon_eq layout
      have passed : passMark ':' ((layout.colon ++ render layout (format.write a)).map some ++ text) =
          .ok (gap ++ (render layout (format.write a)).map some ++ text) := by
        rw [List.map_append, colon, List.cons_append, List.cons_append, List.append_assoc]
        exact passMark_token isGap_nil (by decide) _
      have others : rest.drafted b' (fun other => isFound other || other = name) =
          rest.drafted b' isFound := by
        refine drafted_congr rest b' fun other known => ?_
        have differ : other ≠ name := fun same => unused (same ▸ known)
        simp [differ]
      simp only [drafted, fresh, others, Bool.false_eq_true, if_false, Option.isSome_none,
        decide_true, Bool.or_true, if_true, passed, bind, Except.bind,
        yields.1 gap layout text isGap closes]
      rfl
    · have known : name ∈ rest.names := by
        rw [← map_fst_write rest b]
        exact List.mem_map_of_mem member
      have differ : name ≠ first := fun same => unused (same ▸ known)
      obtain ⟨read, found, reads⟩ := ih nodup yields.2 member
      refine ⟨_, by rw [reader?, if_neg differ, drafted, found, Option.map_some],
        fun layout text closes => ?_⟩
      simp only [reads layout text closes, drafted, Except.map, Ne.symm differ, decide_false,
        Bool.or_false]

/-! ## Members in turn -/

section members

variable {record : Members τ} {name : String} {draft draft' : record.Draft}
  {read : Reader record.Draft} {gap after text : List Glyph}

/-- A member is read up to what follows it. -/
theorem readMember_eq (fuel : Nat) (isGap : IsGap gap)
    (found : record.reader? name draft = some read) (answer : read after = .ok (draft', text)) :
    record.readMember (fuel + 1) draft (gap ++ (quoted name).map some ++ after) =
      match skipSpace text with
      | [] => .error .endsEarly
      | c :: text =>
        if c = some '}' then .ok (draft', text)
        else if c = some ',' then record.readMember fuel draft' text
        else .error .notJson := by
  have passed : passMark '"' (gap ++ (quoted name).map some ++ after) =
      .ok ((name.toList.flatMap escaped).map some ++ some '"' :: after) := by
    rw [quoted, List.map_append, List.map_cons, List.append_assoc, List.cons_append,
      List.cons_append, List.append_assoc]
    exact passMark_token isGap (by decide) _
  simp only [readMember, passed, bind, Except.bind, openString_escaped, found, answer]
  rfl

theorem readMember_last (fuel : Nat) (isGap : IsGap gap)
    (found : record.reader? name draft = some read) {closing : List Glyph}
    (isClosing : IsGap closing) (answer : read after = .ok (draft', closing ++ some '}' :: text)) :
    record.readMember (fuel + 1) draft (gap ++ (quoted name).map some ++ after) =
      .ok (draft', text) := by
  rw [readMember_eq fuel isGap found answer, skipSpace_token isClosing (by decide)]
  rfl

theorem readMember_next (fuel : Nat) (isGap : IsGap gap)
    (found : record.reader? name draft = some read)
    (answer : read after = .ok (draft', some ',' :: text)) :
    record.readMember (fuel + 1) draft (gap ++ (quoted name).map some ++ after) =
      record.readMember fuel draft' text := by
  rw [readMember_eq fuel isGap found answer]
  rfl

end members

/-- Members of a record are read in the order they are given in, whichever it is. -/
theorem readMember_given {members : Members τ} (nodup : members.names.Nodup) {record record' : τ}
    (yields : members.Yields record record') (layout outer : Layout) (text : List Glyph)
    {given : List (String × Json)} {name : String} {json : Json}
    (each : ∀ entry ∈ (name, json) :: given, entry ∈ members.write record)
    (distinct : (((name, json) :: given).map (·.1)).Nodup) (isFound : String → Bool)
    (fresh : ∀ entry ∈ (name, json) :: given, isFound entry.1 = false)
    {gap : List Glyph} (isGap : IsGap gap) {fuel : Nat} (enough : given.length < fuel) :
    members.readMember fuel (members.drafted record' isFound)
        (gap ++ (quoted name).map some ++
          ((layout.colon ++ render layout json).map some ++
          ((renderMembers layout given).map some ++
            (outer.lineBreak.map some ++ some '}' :: text)))) =
      .ok (members.drafted record' fun other =>
        isFound other || other ∈ ((name, json) :: given).map (·.1), text) := by
  induction given generalizing name json isFound gap fuel with
  | nil =>
    obtain ⟨fuel, rfl⟩ : ∃ n, fuel = n + 1 :=
      Nat.exists_eq_succ_of_ne_zero (Nat.ne_zero_of_lt enough)
    obtain ⟨read, found, reads⟩ :=
      exists_reader nodup yields (each _ List.mem_cons_self) (fresh _ List.mem_cons_self)
    have answer := reads layout _ (closes_token (lineBreak_start outer) (.inr (.inl rfl)) text)
    rw [renderMembers, List.map_nil, List.nil_append,
      readMember_last fuel isGap found (isGap_lineBreak outer) answer]
    simp
  | cons next given ih =>
    obtain ⟨nextName, nextJson⟩ := next
    obtain ⟨fuel, rfl⟩ : ∃ n, fuel = n + 1 :=
      Nat.exists_eq_succ_of_ne_zero (Nat.ne_zero_of_lt enough)
    obtain ⟨member, others⟩ := List.forall_mem_cons.1 each
    obtain ⟨new, news⟩ := List.forall_mem_cons.1 fresh
    obtain ⟨unused, distinct⟩ := List.nodup_cons.1 distinct
    obtain ⟨read, found, reads⟩ := exists_reader nodup yields member new
    have left : given.length < fuel := Nat.lt_of_succ_lt_succ enough
    have further (entry : String × Json) (later : entry ∈ (nextName, nextJson) :: given) :
        (isFound entry.1 || decide (entry.1 = name)) = false := by
      obtain ⟨other, otherJson⟩ := entry
      have differ : other ≠ name := by
        rintro rfl
        exact unused (List.mem_map.2 ⟨_, later, rfl⟩)
      simp [news _ later, differ]
    have rest := ih others distinct (fun other => isFound other || other = name) further
      (isGap_lineBreak layout) left
    have answer (after : List Glyph) :=
      reads layout (some ',' :: after) (closes_token (.inl rfl) (.inl rfl) after)
    refine (readMember_next fuel isGap found ?_).trans (rest.trans ?_)
    · simpa [renderMembers] using answer _
    · simp only [List.map_cons, List.mem_cons, Bool.decide_or, Bool.or_assoc]

theorem length_le_length_renderMembers (layout : Layout) (members : List (String × Json)) :
    members.length ≤ (renderMembers layout members).length := by
  induction members with
  | nil => exact Nat.le_refl _
  | cons member members ih =>
    simp only [renderMembers, List.length_cons, List.length_append]
    omega

/-! ## Records -/

/-- An object that starts with a member is read as what its members are completed to. -/
theorem readObject_of_members {members : Members τ} {draft : members.Draft} {value : τ}
    {text inside rest : List Glyph} (first : skipSpace text = some '"' :: inside)
    (read : members.readMember ((some '"' :: inside).length + 1) members.blank
      (some '"' :: inside) = .ok (draft, rest))
    (complete : members.complete? draft = some value) :
    members.readObject text = .ok (value, rest) := by
  rw [readObject, first]
  change (members.readMember _ _ _).bind _ = _
  rw [read]
  simp only [Except.bind, complete]
  rfl

/-- An object is read as a record that the members it has are completed to. -/
theorem reads_object {members : Members τ} (nodup : members.names.Nodup) (record record' : τ)
    (yields : members.Yields record record') {given : List (String × Json)}
    (each : ∀ entry ∈ given, entry ∈ members.write record) (distinct : (given.map (·.1)).Nodup)
    {value : τ}
    (complete : members.complete? (members.drafted record' fun name => name ∈ given.map (·.1)) =
      some value) : Reads members.format.read (.object given) value := by
  intro gap layout rest isGap _
  cases given with
  | nil =>
    have written : (render layout (.object [])).map some ++ rest = some '{' :: some '}' :: rest :=
      rfl
    simp only [List.map_nil, List.not_mem_nil, decide_false, drafted_none] at complete
    have closing := skipSpace_token isGap_nil (show IsToken '}' by decide) rest
    rw [List.nil_append] at closing
    rw [List.append_assoc, written]
    simp only [format, skipSpace_token isGap (show IsToken '{' by decide), readObject, closing,
      bind, Except.bind, pure, Except.pure, complete]
  | cons entry given =>
    obtain ⟨name, json⟩ := entry
    have written : (render layout (.object ((name, json) :: given))).map some ++ rest =
        some '{' :: (layout.inner.lineBreak.map some ++ (quoted name).map some ++
          ((layout.inner.colon ++ render layout.inner json).map some ++
            ((renderMembers layout.inner given).map some ++
              (layout.lineBreak.map some ++ some '}' :: rest)))) := by
      have same : layout.inner.colon = layout.colon := by cases layout <;> rfl
      simp [render, same]
    rw [List.append_assoc, written]
    simp only [format, skipSpace_token isGap (show IsToken '{' by decide)]
    generalize after : (layout.inner.colon ++ render layout.inner json).map some ++
      ((renderMembers layout.inner given).map some ++
        (layout.lineBreak.map some ++ some '}' :: rest)) = tail
    have first : skipSpace (layout.inner.lineBreak.map some ++ (quoted name).map some ++ tail) =
        some '"' :: ((name.toList.flatMap escaped ++ ['"']).map some ++ tail) := by
      rw [List.append_assoc]
      exact skipSpace_token (isGap_lineBreak _) (by decide) _
    have enough : given.length <
        (some '"' :: ((name.toList.flatMap escaped ++ ['"']).map some ++ tail)).length + 1 := by
      have few := length_le_length_renderMembers layout.inner given
      have part : (renderMembers layout.inner given).length ≤ tail.length := by
        rw [← after]
        simp only [List.length_append, List.length_map]
        omega
      simp only [List.length_cons, List.length_append]
      omega
    have read := readMember_given nodup yields layout.inner layout rest each distinct
      (fun _ => false) (fun _ _ => rfl) isGap_nil enough
    rw [after, drafted_none] at read
    simp only [Bool.false_or] at read
    exact readObject_of_members first read complete

/-- A record is read as its members are. -/
theorem format_yields {members : Members τ} (nodup : members.names.Nodup) {record record' : τ}
    (yields : members.Yields record record') : members.format.Yields record record' := by
  refine reads_object nodup record record' yields (fun entry member => member) ?_ ?_
  · rwa [map_fst_write]
  · refine complete?_drafted members record' fun name known => ?_
    simpa [map_fst_write] using known

end PaymentVault.Json.Members
