import PaymentVault.Payment.Memo
import PaymentVault.Register

/-!
# The book of memos

Memos are kept under transaction hashes. What a transaction was worth is pinned by whoever adds its
memo first.
-/
namespace PaymentVault

abbrev MemoBook := Register Memo.hash

namespace MemoBook

/-- Memos in the order of their hashes. -/
def byHash (memos : List Memo) : List Memo :=
  memos.mergeSort fun a b => decide (a.hash ≤ b.hash)

/-- Adds a memo unless its hash has one. Gives the memo kept and whether it is the new one. -/
def insertIfAbsent (memo : Memo) (book : MemoBook) : (Memo × Bool) × MemoBook :=
  match book.get? memo.hash with
  | some existing => ((existing, false), book)
  | none => ((memo, true), book.insert memo)

/-- The memo that pins the value of a transaction at the latest rate, unless there is one
already. -/
def pin (hash : String) (amount : Int64) (rate : Option ExchangeRate) (book : MemoBook) :
    (Memo × Bool) × MemoBook :=
  insertIfAbsent { hash, fiat := FiatValue.ofAmount amount rate } book

theorem get?_insertIfAbsent (memo : Memo) (book : MemoBook) (hash : String) :
    (insertIfAbsent memo book).2.get? hash =
      (book.get? hash).or (if memo.hash = hash then some memo else none) := by
  unfold insertIfAbsent
  split
  · next existing found =>
    by_cases h : memo.hash = hash
    · subst h
      simp [found]
    · simp [h]
  · next absent =>
    by_cases h : memo.hash = hash
    · subst h
      simp [absent]
    · simp [h]

end MemoBook
end PaymentVault
