import PaymentVault.Proofs.Json.Scalars

/-!
# Reading lists and alternatives

A value that may be absent is read back if it is never written as `null`; a list is read item by
item; one of several names, and one of two forms under its name, are read as what they stand for.
-/
namespace PaymentVault.Json

/-- What a text starts with tells `null`, an item and the end of a list apart. -/
theorem exists_render (layout : Layout) (json : Json) :
    ∃ c rest, render layout json = c :: rest ∧ IsToken c ∧ c ≠ ']' ∧ (json ≠ .null → c ≠ 'n') := by
  cases json with
  | null => exact ⟨'n', _, rfl, by decide, by decide, fun absent => absurd rfl absent⟩
  | bool value =>
    cases value with
    | true => exact ⟨'t', _, by rw [render], by decide, by decide, fun _ => by decide⟩
    | false => exact ⟨'f', _, by rw [render], by decide, by decide, fun _ => by decide⟩
  | number n =>
    by_cases negative : n < 0
    · exact ⟨'-', _, by rw [render, integerDigits, if_pos negative]; rfl, by decide, by decide,
        fun _ => by decide⟩
    · obtain ⟨c, others, digits, digit⟩ := exists_toDigits n.natAbs
      refine ⟨c, others, ?_, isToken_of_isDigit digit, ?_, fun _ => ?_⟩
      · rw [render, integerDigits, if_neg negative, List.nil_append, digits]
      · rintro rfl
        exact absurd digit (by decide)
      · rintro rfl
        exact absurd digit (by decide)
  | string text => exact ⟨'"', _, by rw [render]; rfl, by decide, by decide, fun _ => by decide⟩
  | array items =>
    cases items with
    | nil => exact ⟨'[', _, by rw [render], by decide, by decide, fun _ => by decide⟩
    | cons => exact ⟨'[', _, by rw [render]; rfl, by decide, by decide, fun _ => by decide⟩
  | object members =>
    cases members with
    | nil => exact ⟨'{', _, by rw [render], by decide, by decide, fun _ => by decide⟩
    | cons => exact ⟨'{', _, by rw [render]; rfl, by decide, by decide, fun _ => by decide⟩

variable {α β : Type}

namespace Format

/-! ## Values that may be absent -/

theorem optional_yields {format : Format α} {settle : α → α}
    (yields : ∀ a, format.Yields a (settle a)) (present : ∀ a, format.write a ≠ .null)
    (entry : Option α) : format.optional.Yields entry (entry.map settle) := by
  intro gap layout rest isGap closes
  rw [List.append_assoc]
  cases entry with
  | none =>
    have written : (render layout (format.optional.write none)).map some ++ rest =
        some 'n' :: (['u', 'l', 'l'].map some ++ rest) := by simp [optional, render]
    rw [written]
    simp only [optional, skipSpace_token isGap (show IsToken 'n' by decide), passWord_append]
    rfl
  | some a =>
    obtain ⟨c, others, starts, isToken, -, other⟩ := exists_render layout (format.write a)
    have read := yields a [] layout rest isGap_nil closes
    have notNull : c ≠ 'n' := other (present a)
    rw [List.nil_append, starts, List.map_cons, List.cons_append] at read
    have written : (render layout (format.optional.write (some a))).map some ++ rest =
        some c :: (others.map some ++ rest) := by
      simp only [optional, starts, List.map_cons, List.cons_append]
    rw [written]
    simp only [optional, skipSpace_token isGap isToken]
    split
    · next same =>
      cases same
      exact absurd rfl notNull
    · rw [read]
      rfl

theorem ReadsBack.optional {format : Format α} (back : format.ReadsBack)
    (present : ∀ a, format.write a ≠ .null) : format.optional.ReadsBack := by
  intro entry
  have yields := optional_yields back present entry
  rwa [Option.map_id'] at yields

/-! ## Lists -/

theorem closes_renderItems (layout outer : Layout) (items : List Json) (rest : List Glyph) :
    Closes ((renderItems layout items).map some ++
      (outer.lineBreak.map some ++ some ']' :: rest)) := by
  cases items with
  | nil => exact closes_token (lineBreak_start outer) (.inr (.inr rfl)) rest
  | cons item items =>
    rw [renderItems]
    exact closes_token (.inl rfl) (.inl rfl) _

/-- An item is read up to what follows it, space in front passed. -/
theorem ReadsBack.read_item {format : Format α} (back : format.ReadsBack) (layout : Layout) (a : α)
    {gap rest : List Glyph} (isGap : IsGap gap) (closes : Closes rest) :
    ∃ c others, skipSpace (gap ++ ((render layout (format.write a)).map some ++ rest)) =
      some c :: others ∧ c ≠ ']' ∧ format.read (some c :: others) = .ok (a, rest) := by
  obtain ⟨c, others, starts, isToken, notEnd, -⟩ := exists_render layout (format.write a)
  have read := back a [] layout rest isGap_nil closes
  rw [List.nil_append, starts, List.map_cons, List.cons_append] at read
  rw [starts, List.map_cons, List.cons_append, skipSpace_token isGap isToken]
  exact ⟨c, _, rfl, notEnd, read⟩

/-- Items after the first are read up to the end of the list. -/
theorem ReadsBack.readItems {format : Format α} (back : format.ReadsBack)
    (layout outer : Layout) (rest : List Glyph) (items : List α) {fuel : Nat}
    (enough : items.length < fuel) :
    readItems format.read fuel ((renderItems layout (items.map format.write)).map some ++
      (outer.lineBreak.map some ++ some ']' :: rest)) = .ok (items, rest) := by
  induction items generalizing fuel with
  | nil =>
    obtain ⟨fuel, rfl⟩ : ∃ n, fuel = n + 1 :=
      Nat.exists_eq_succ_of_ne_zero (Nat.ne_zero_of_lt enough)
    simp only [List.map_nil, renderItems, List.nil_append, Format.readItems,
      skipSpace_token (isGap_lineBreak outer) (show IsToken ']' by decide), if_true]
  | cons item items ih =>
    obtain ⟨fuel, rfl⟩ : ∃ n, fuel = n + 1 :=
      Nat.exists_eq_succ_of_ne_zero (Nat.ne_zero_of_lt enough)
    have further := ih (Nat.lt_of_succ_lt_succ enough)
    obtain ⟨c, others, passed, notEnd, read⟩ := back.read_item layout item (isGap_lineBreak layout)
      (closes_renderItems layout outer (items.map format.write) rest)
    have comma := skipSpace_token isGap_nil (show IsToken ',' by decide)
    simp only [List.nil_append] at comma
    have differ : (some ',' : Glyph) ≠ some ']' := by decide
    simp only [List.map_cons, renderItems, List.map_append, List.cons_append, List.append_assoc,
      Format.readItems, comma, if_neg differ, if_true, passed]
    split
    · next same => cases same
    · next same =>
      cases same
      exact absurd rfl notEnd
    · rw [read]
      simp only [bind, Except.bind, further]
      rfl

theorem length_le_length_renderItems (layout : Layout) (items : List Json) :
    items.length ≤ (renderItems layout items).length := by
  induction items with
  | nil => exact Nat.le_refl _
  | cons item items ih =>
    simp only [renderItems, List.length_cons, List.length_append]
    omega

theorem ReadsBack.list {format : Format α} (back : format.ReadsBack) : format.list.ReadsBack := by
  intro items gap layout rest isGap _
  rw [List.append_assoc]
  cases items with
  | nil =>
    have written : (render layout (format.list.write [])).map some ++ rest =
        some '[' :: some ']' :: rest := by simp [Format.list, render]
    have closing := skipSpace_token isGap_nil (show IsToken ']' by decide) rest
    rw [List.nil_append] at closing
    rw [written]
    simp only [Format.list, skipSpace_token isGap (show IsToken '[' by decide), closing]
  | cons item items =>
    have written : (render layout (format.list.write (item :: items))).map some ++ rest =
        some '[' :: (layout.inner.lineBreak.map some ++
          ((render layout.inner (format.write item)).map some ++
            ((renderItems layout.inner (items.map format.write)).map some ++
              (layout.lineBreak.map some ++ some ']' :: rest)))) := by
      simp [Format.list, render]
    obtain ⟨c, others, passed, notEnd, read⟩ := back.read_item layout.inner item
      (isGap_lineBreak layout.inner)
      (closes_renderItems layout.inner layout (items.map format.write) rest)
    have enough : items.length <
        ((renderItems layout.inner (items.map format.write)).map some ++
          (layout.lineBreak.map some ++ some ']' :: rest)).length + 1 := by
      have few := length_le_length_renderItems layout.inner (items.map format.write)
      rw [List.length_map] at few
      rw [List.length_append, List.length_map]
      omega
    have further := back.readItems layout.inner layout rest items enough
    rw [written]
    simp only [Format.list, skipSpace_token isGap (show IsToken '[' by decide), passed]
    split
    · next same => cases same
    · next same =>
      cases same
      exact absurd rfl notEnd
    · rw [read]
      simp only [bind, Except.bind, further]
      rfl

/-! ## Alternatives -/

theorem named_readsBack [DecidableEq α] {names : List (α × String)}
    (told : ∀ a, (names.find? fun entry => entry.2 =
      ((names.find? fun entry => entry.1 = a).map (·.2)).getD "").map (·.1) = some a) :
    (named names).ReadsBack := by
  intro a gap layout rest isGap _
  simp only [named, readNamed, skipSpace_string isGap, openString_escaped, bind, Except.bind,
    told a]
  rfl

section either

variable {leftName rightName : String} {left : Format α} {right : Format β}

/-- What stands under its name is read as the only member of an object. -/
theorem reads_named_object {γ : Type} {bare : String → Option γ}
    {content : String → Option (Reader γ)} {name : String} {read : Reader γ} {json : Json} {c : γ}
    (found : content name = some read) (reads : Reads read json c) :
    Reads (readNamed bare content) (.object [(name, json)]) c := by
  intro gap layout rest isGap _
  obtain ⟨space, isSpace, colon⟩ := colon_eq layout
  have written : (render layout (.object [(name, json)])).map some ++ rest =
      some '{' :: (layout.inner.lineBreak.map some ++
        some '"' :: ((name.toList.flatMap escaped).map some ++
          some '"' :: (layout.colon.map some ++ ((render layout.inner json).map some ++
            (layout.lineBreak.map some ++ some '}' :: rest))))) := by
    simp [render, renderMembers, quoted]
  have inside := reads space layout.inner (layout.lineBreak.map some ++ some '}' :: rest) isSpace
    (closes_token (lineBreak_start layout) (.inr (.inl rfl)) rest)
  rw [List.append_assoc] at inside
  have marked (text : List Glyph) : passMark ':' (layout.colon.map some ++ text) =
      .ok (space ++ text) := by
    rw [colon, List.cons_append]
    exact passMark_token isGap_nil (by decide) _
  rw [List.append_assoc, written]
  simp only [readNamed, skipSpace_token isGap (show IsToken '{' by decide),
    passMark_token (isGap_lineBreak layout.inner) (show IsToken '"' by decide), openString_escaped,
    found, marked, inside, passMark_token (isGap_lineBreak layout) (show IsToken '}' by decide),
    bind, Except.bind]
  rfl

theorem either_yields_inl {a a' : α} (yields : left.Yields a a') :
    (either leftName left rightName right).Yields (.inl a) (.inl a') := by
  simp only [Yields, either]
  refine reads_named_object (if_pos rfl) fun gap layout rest isGap closes => ?_
  simp only [yields gap layout rest isGap closes, Except.map]

theorem either_yields_inr (differ : rightName ≠ leftName) {b b' : β} (yields : right.Yields b b') :
    (either leftName left rightName right).Yields (.inr b) (.inr b') := by
  simp only [Yields, either]
  refine reads_named_object ((if_neg differ).trans (if_pos rfl))
    fun gap layout rest isGap closes => ?_
  simp only [yields gap layout rest isGap closes, Except.map]

end either

end Format
end PaymentVault.Json
