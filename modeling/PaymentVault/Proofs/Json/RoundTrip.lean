import PaymentVault.Json.Format

/-!
# Reading back what was written

A value that is written is read wherever it stands, in either layout, with space before it, and
the reader stops where it ends (`Reads`). A format that gets every value back has the law
`Format.ReadsBack`; some formats settle values, and yield those (`Format.Yields`). The law holds
of strings and passes to conversions, and whole texts are parsed by it.
-/
namespace PaymentVault.Json

/-! ## Space -/

/-- Glyphs that are passed over before a token. -/
def IsGap (gap : List Glyph) : Prop := ∀ text, skipSpace (gap ++ text) = skipSpace text

theorem isGap_nil : IsGap [] := fun _ => rfl

theorem isGap_blanks (count : Nat) : IsGap (List.replicate count (some ' ')) := by
  intro text
  induction count with
  | zero => rfl
  | succ count ih =>
    rw [List.replicate_succ, List.cons_append]
    exact ih

theorem isGap_lineBreak (layout : Layout) : IsGap (layout.lineBreak.map some) := by
  cases layout with
  | compact => exact isGap_nil
  | indented depth =>
    intro text
    rw [Layout.lineBreak, List.map_cons, List.map_replicate, List.cons_append]
    exact isGap_blanks (2 * depth) text

theorem colon_eq (layout : Layout) :
    ∃ gap, IsGap gap ∧ layout.colon.map some = some ':' :: gap := by
  cases layout with
  | compact => exact ⟨[], isGap_nil, rfl⟩
  | indented depth => exact ⟨[some ' '], isGap_blanks 1, rfl⟩

/-- A mark that is passed over as a token. -/
def IsToken (mark : Char) : Bool := mark ∉ [' ', '\n', '\t', '\r']

theorem skipSpace_token {gap : List Glyph} (isGap : IsGap gap) {mark : Char}
    (isToken : IsToken mark) (text : List Glyph) :
    skipSpace (gap ++ some mark :: text) = some mark :: text := by
  rw [isGap, skipSpace, List.dropWhile_cons_of_neg]
  simpa [IsToken, and_assoc] using isToken

theorem passMark_token {gap : List Glyph} (isGap : IsGap gap) {mark : Char} (isToken : IsToken mark)
    (text : List Glyph) : passMark mark (gap ++ some mark :: text) = .ok text := by
  simp only [passMark, skipSpace_token isGap isToken, if_true]

/-! ## Strings -/

theorem hex?_hexDigit {n : Nat} (h : n < 16) : Glyph.hex? (some (hexDigit n)) = some n :=
  hexValue?_hexDigit h

/-- The characters with an escape of their own. -/
def namedEscapes : List Char := ['"', '\\', '\x08', '\x0c', '\n', '\r', '\t']

theorem escape_named {c : Char} (named : c ∈ namedEscapes) :
    ∃ code, escaped c = '\\' :: code ∧
      ∀ rest, escape numberedEscape (code.map some ++ rest) = .ok (c, rest) := by
  simp only [namedEscapes, List.mem_cons, List.not_mem_nil, or_false] at named
  rcases named with rfl | rfl | rfl | rfl | rfl | rfl | rfl <;> exact ⟨_, rfl, fun _ => rfl⟩

/-- Other control characters are escaped by their number. -/
theorem escape_numbered {c : Char} (control : c.toNat < 0x20) (rest : List Glyph) :
    escape numberedEscape
      (['u', '0', '0', hexDigit (c.toNat / 16), hexDigit (c.toNat % 16)].map some ++ rest) =
      .ok (c, rest) := by
  have high := hex?_hexDigit (show c.toNat / 16 < 16 by omega)
  have low := hex?_hexDigit (show c.toNat % 16 < 16 by omega)
  have zero : Glyph.hex? (some '0') = some 0 := by decide
  have whole : ((0 * 16 + 0) * 16 + c.toNat / 16) * 16 + c.toNat % 16 = c.toNat := by omega
  have plain : ¬ (0xDC00 ≤ c.toNat ∧ c.toNat ≤ 0xDFFF) := by omega
  have narrow : c.toNat < 0xD800 ∨ 0xDBFF < c.toNat := by omega
  simp only [List.map_cons, List.map_nil, List.cons_append, List.nil_append, escape, if_true,
    numberedEscape, hexQuad, high, low, zero, whole, bind, Except.bind, if_neg plain, if_pos narrow,
    Char.ofNat_toNat]
  rfl

/-- A character is written as it is, unless it would end the string, or else as an escape. -/
theorem escaped_cases (c : Char) :
    (c ≠ '"' ∧ c ≠ '\\' ∧ isControl c = false ∧ escaped c = [c]) ∨
      ∃ code, escaped c = '\\' :: code ∧
        ∀ rest, escape numberedEscape (code.map some ++ rest) = .ok (c, rest) := by
  by_cases named : c ∈ namedEscapes
  · exact .inr (escape_named named)
  simp only [namedEscapes, List.mem_cons, List.not_mem_nil, or_false, not_or] at named
  by_cases control : c.toNat < 0x20
  · refine .inr ⟨_, ?_, escape_numbered control⟩
    simp only [escaped, named, if_false, if_pos control]
  · refine .inl ⟨named.1, named.2.1, ?_, ?_⟩
    · simpa [isControl] using control
    · simp only [escaped, named, if_false, if_neg control]

theorem stringBody_escaped (chars : List Char) (rest : List Glyph) {fuel : Nat}
    (enough : chars.length < fuel) :
    stringBody numberedEscape fuel ((chars.flatMap escaped).map some ++ some '"' :: rest) =
      .ok (chars.map some, rest) := by
  induction chars generalizing fuel with
  | nil =>
    obtain ⟨fuel, rfl⟩ : ∃ n, fuel = n + 1 :=
      Nat.exists_eq_succ_of_ne_zero (by simp at enough; omega)
    simp [stringBody]
  | cons c chars ih =>
    obtain ⟨fuel, rfl⟩ : ∃ n, fuel = n + 1 :=
      Nat.exists_eq_succ_of_ne_zero (by simp at enough; omega)
    have left : chars.length < fuel := by simpa using enough
    have further := ih left
    rw [List.flatMap_cons, List.map_append, List.append_assoc]
    rcases escaped_cases c with ⟨quote, backslash, plain, same⟩ | ⟨code, same, escapes⟩
    · rw [same]
      simp only [List.map_cons, List.map_nil, List.cons_append, List.nil_append, stringBody,
        Option.some.injEq, quote, backslash, if_false, Option.any_some, plain,
        Bool.false_eq_true, further]
      rfl
    · rw [same]
      have other : (some '\\' : Glyph) ≠ some '"' := by decide
      simp only [List.map_cons, List.cons_append, stringBody, other, if_false, if_true, escapes,
        bind, Except.bind, further]
      rfl

theorem length_le_length_escaped (chars : List Char) :
    chars.length ≤ (chars.flatMap escaped).length := by
  induction chars with
  | nil => exact Nat.le_refl _
  | cons c chars ih =>
    have one : 1 ≤ (escaped c).length := by
      rcases escaped_cases c with ⟨_, _, _, same⟩ | ⟨code, same, _⟩
      · exact Nat.le_of_eq (by rw [same, List.length_singleton])
      · rw [same, List.length_cons]
        omega
    rw [List.flatMap_cons, List.length_append, List.length_cons]
    omega

/-- What is quoted is read as it was. -/
theorem openString_escaped (text : String) (rest : List Glyph) :
    openString ((text.toList.flatMap escaped).map some ++ some '"' :: rest) = .ok (text, rest) := by
  have enough : text.toList.length <
      ((text.toList.flatMap escaped).map some ++ some '"' :: rest).length + 1 := by
    have shorter := length_le_length_escaped text.toList
    rw [List.length_append, List.length_map]
    omega
  have all : (text.toList.map some).mapM id = some text.toList := by
    induction text.toList with
    | nil => rfl
    | cons c chars ih => simp [ih]
  simp only [openString, stringBody_escaped text.toList rest enough, bind, Except.bind, all,
    String.ofList_toList]
  rfl

theorem skipSpace_string {gap : List Glyph} (isGap : IsGap gap) (layout : Layout) (text : String)
    (rest : List Glyph) :
    skipSpace (gap ++ (render layout (.string text)).map some ++ rest) =
      some '"' :: ((text.toList.flatMap escaped).map some ++ some '"' :: rest) := by
  have written : (render layout (.string text)).map some ++ rest =
      some '"' :: ((text.toList.flatMap escaped).map some ++ some '"' :: rest) := by
    simp [render, quoted]
  rw [List.append_assoc, written, skipSpace_token isGap (by decide)]

/-! ## Formats -/

/-- A text that a number before it does not go on with. -/
def Closes (text : List Glyph) : Prop :=
  ∀ c ∈ text.head?, Glyph.digit? c = none ∧ c ≠ some '.' ∧ c ≠ some 'e' ∧ c ≠ some 'E'

theorem closes_token {gap : List Glyph}
    (isGap : gap = [] ∨ gap.head? = some (some '\n')) {mark : Char}
    (isMark : mark = ',' ∨ mark = '}' ∨ mark = ']') (text : List Glyph) :
    Closes (gap ++ some mark :: text) := by
  intro c first
  rcases isGap with rfl | broken
  · obtain rfl : some mark = c := by simpa using first
    rcases isMark with rfl | rfl | rfl <;> decide
  · obtain ⟨further, rfl⟩ := List.head?_eq_some_iff.1 broken
    obtain rfl : some '\n' = c := by simpa using first
    decide

theorem lineBreak_start (layout : Layout) :
    layout.lineBreak.map some = [] ∨ (layout.lineBreak.map some).head? = some (some '\n') := by
  cases layout with
  | compact => exact .inl rfl
  | indented depth => exact .inr rfl

variable {α β : Type}

/-- A reader makes a value of the text for some JSON, wherever that stands. -/
def Reads (read : Reader α) (json : Json) (a : α) : Prop :=
  ∀ gap layout rest, IsGap gap → Closes rest →
    read (gap ++ (render layout json).map some ++ rest) = .ok (a, rest)

namespace Format

/-- What the reader of a format makes of a value that was written. -/
def Yields (format : Format α) (a a' : α) : Prop := Reads format.read (format.write a) a'

/-- The reader of a format gets back what was written. -/
def ReadsBack (format : Format α) : Prop := ∀ a, format.Yields a a

end Format

namespace Reads

variable {format : Format α} {json : Json} {a : α}

theorem imap {into : α → β} {of : β → α} {b : β} (reads : Reads format.read json (of b))
    (inverse : into (of b) = b) : Reads (format.imap into of).read json b := by
  intro gap layout rest isGap closes
  have found := reads gap layout rest isGap closes
  simp only [Format.imap, found, bind, Except.bind, inverse]
  rfl

theorem refine (reads : Reads format.read json a) {into? : α → Option β} {b : β}
    (converted : into? a = some b) (of : β → α) :
    Reads (format.refine into? of).read json b := by
  intro gap layout rest isGap closes
  have found := reads gap layout rest isGap closes
  simp only [Format.refine, found, bind, Except.bind, converted]
  rfl

/-! ### Whole texts -/

theorem parseGlyphs (reads : Reads format.read json a) (layout : Layout) :
    format.parseGlyphs ((render layout json).map some) = .ok a := by
  have found := reads [] layout [] isGap_nil (by simp [Closes])
  rw [List.nil_append, List.append_nil] at found
  simp only [Format.parseGlyphs, found, bind, Except.bind]
  rfl

theorem parse_compactText (reads : Reads format.read json a) :
    format.parse json.compactText = .ok a := by
  rw [Format.parse, glyphs, compactText, String.toList_ofList]
  exact reads.parseGlyphs .compact

theorem parse_indentedText (reads : Reads format.read json a) :
    format.parse json.indentedText = .ok a := by
  rw [Format.parse, glyphs, indentedText, String.toList_ofList]
  exact reads.parseGlyphs (.indented 0)

end Reads

namespace Format

/-- The bytes of a text are parsed as the text. -/
theorem parseBytes_ofText (format : Format α) (text : String) :
    format.parseBytes (.ofText text) = format.parse text := by
  rw [parseBytes, Bytes.toText?_ofText]

theorem string_readsBack : string.ReadsBack := by
  intro text gap layout rest isGap _
  simp only [string, skipSpace_string isGap]
  exact openString_escaped text rest

theorem Yields.imap {format : Format α} {into : α → β} {of : β → α} {b b' : β}
    (yields : format.Yields (of b) (of b')) (inverse : into (of b') = b') :
    (format.imap into of).Yields b b' :=
  Reads.imap yields inverse

theorem ReadsBack.refine {format : Format α} (back : format.ReadsBack) {into? : α → Option β}
    {of : β → α} (inverse : ∀ b, into? (of b) = some b) : (format.refine into? of).ReadsBack :=
  fun b => (back (of b)).refine (inverse b) of

theorem hexBytes_readsBack : hexBytes.ReadsBack := string_readsBack.refine Bytes.ofHex?_hex

end Format
end PaymentVault.Json
