import PaymentVault.Proofs.Payment.Selection
import PaymentVault.Proofs.Text.Lowercase

/-!
# Texts that hold the query

A search compares lowercase forms. Where a text holds the query character by character, its
lowercase form holds that of the query, unless a capital sigma takes its final form in the query
alone and not in the text, or in the text and not in the query (`search_finds_held`). Then the
payment can be missed, as it is for a moment when a word with a capital sigma inside is typed
(`missed_while_typed`).
-/
namespace PaymentVault.Payment

open Lowercase

/-- The query is found where the text holds it, if no capital sigma turns there. -/
theorem infix_of_not_turns {query text before after : List Char}
    (held : text = before ++ query ++ after) (same : ¬Turns before.reverse query after) :
    lowercase query <:+: lowercase text := by
  rw [held, lowercase_append, mapBetween_eq_iff.2 same]
  exact List.infix_append _ _ _

/-- A payment with a text that holds the query is found if the query has the form there that it has
alone, and it has that form just if no capital sigma turns. So queries without a capital sigma
miss no such payment. If the text starts with the query, then the payment is found unless the query
breaks off after a capital sigma within a word. -/
theorem search_finds_held {payments : List Payment} {payment : Payment} {text : String}
    (listed : payment ∈ payments) (has : payment.HasText text) (query : String) :
    (∀ before after, text.toList = before ++ query.toList ++ after →
      (mapBetween before.reverse query.toList after = lowercase query.toList ↔
        ¬Turns before.reverse query.toList after) ∧
      (¬Turns before.reverse query.toList after → payment ∈ search query payments)) ∧
    ('Σ' ∉ query.toList → query.toList <:+: text.toList → payment ∈ search query payments) ∧
    ∀ after, text.toList = query.toList ++ after →
      payment ∈ search query payments ∨
        ∃ left right, query.toList = left ++ 'Σ' :: right ∧ startsCased left.reverse ∧
          (∀ c ∈ right, isIgnorable c) ∧ startsCased after := by
  have found (before after : List Char) (held : text.toList = before ++ query.toList ++ after)
      (same : ¬Turns before.reverse query.toList after) : payment ∈ search query payments :=
    mem_search_iff.2 ⟨listed, .inl ⟨text, has, infix_of_not_turns held same⟩⟩
  refine ⟨fun before after held => ⟨mapBetween_eq_iff, found before after held⟩, ?_, ?_⟩
  · rintro plain ⟨before, after, held⟩
    exact found before after held.symm fun turns => plain turns.sigma_mem
  · intro after held
    by_cases turns : Turns [] query.toList after
    · cases turns with
      | goesOn place word last letter => exact .inr ⟨_, _, place, word, last, letter⟩
      | ends place first word ended => cases word
    · exact .inl (found [] after held turns)

/-- A request for a gift at Easter. -/
def easterGift : PaymentRequest :=
  { address := "address", amount := 5, label := some "ΔΩΡΟ ΠΑΣΧΑ", date := .epoch }

/-- A word that ends in a sigma is found, and so is one that holds it inside. -/
theorem search_finds_held_easter :
    (Payment.request easterGift).HasText "ΔΩΡΟ ΠΑΣΧΑ" ∧
      ¬Turns "ΔΩΡΟ ".toList.reverse "ΠΑΣΧ".toList "Α".toList ∧
      Payment.request easterGift ∈ search "ΠΑΣΧ" [.request easterGift] := by
  have has : (Payment.request easterGift).HasText "ΔΩΡΟ ΠΑΣΧΑ" := .label rfl
  have listed : Payment.request easterGift ∈ [Payment.request easterGift] := by simp
  have same : ¬Turns "ΔΩΡΟ ".toList.reverse "ΠΑΣΧ".toList "Α".toList := by decide +kernel
  exact ⟨has, same, ((search_finds_held listed has "ΠΑΣΧ").1 _ _ (by decide)).2 same⟩

/-- While the last word of its label is typed, the request is found, lost and found again. -/
theorem missed_while_typed :
    (Payment.request easterGift).HasText "ΔΩΡΟ ΠΑΣΧΑ" ∧ "ΠΑΣ".toList <:+: "ΔΩΡΟ ΠΑΣΧΑ".toList ∧
      Payment.request easterGift ∈ search "ΠΑ" [.request easterGift] ∧
      Payment.request easterGift ∉ search "ΠΑΣ" [.request easterGift] ∧
      Payment.request easterGift ∈ search "ΠΑΣΧ" [.request easterGift] := by
  simp only [mem_search_iff, List.mem_singleton, true_and, ← isFoundBy_iff]
  refine ⟨.label rfl, ⟨"ΔΩΡΟ ".toList, "ΧΑ".toList, by decide⟩, ?_⟩
  decide +kernel

end PaymentVault.Payment
