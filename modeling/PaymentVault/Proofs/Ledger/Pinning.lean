import Mathlib.Data.Finset.Card
import PaymentVault.Proofs.Ledger.Adaptation
import PaymentVault.Proofs.Register

/-!
# What a transaction was worth when it was first observed

A transaction is observed when it is adapted and when it is seen on the network. Either way it
gets a memo if it has none, so after a run of observations a memo that was there is unchanged, and
any other is that of the first observation of its hash, at the rate of that time
(`get?_memos_run`). A payment shows the value in the memo, and a transaction is said to be new to
its first sight only.
-/
namespace PaymentVault

/-- A transaction is adapted or seen on the network, at the rate of the time. -/
inductive Observation where
  | adapt (view : WalletView) (resolve : AddressResolver) (rate : Option ExchangeRate)
      (tx : LedgerTransaction)
  | seen (rate : Option ExchangeRate) (hash : String) (amount : Int64)

namespace Observation

def hash : Observation → String
  | adapt _ _ _ tx => tx.hash
  | seen _ hash _ => hash

/-- The net value of the transaction. -/
def amount : Observation → Int64
  | adapt view _ _ tx => view.valueOf tx
  | seen _ _ amount => amount

def rate : Observation → Option ExchangeRate
  | adapt _ _ rate _ => rate
  | seen rate _ _ => rate

/-- The memo that keeps the value at the time, without a note or fees. -/
def memo (o : Observation) : Memo where
  hash := o.hash
  note := none
  fiat := FiatValue.ofAmount o.amount o.rate
  minerFee := none
  clientFee := none

/-- The books after an observation, whether or not adapting succeeds. -/
def perform : Observation → Books → Books
  | adapt view resolve rate tx, books => (books.adapt view resolve rate tx).2
  | seen rate hash amount, books => (books.noteSeen rate hash amount).2

/-- The books after observations one after another. -/
def run (observations : List Observation) (books : Books) : Books :=
  observations.foldl (fun books o => o.perform books) books

@[simp] theorem run_nil (books : Books) : run [] books = books := rfl

theorem run_cons (o : Observation) (observations : List Observation) (books : Books) :
    run (o :: observations) books = run observations (o.perform books) := rfl

theorem run_append (earlier later : List Observation) (books : Books) :
    run (earlier ++ later) books = run later (run earlier books) := List.foldl_append

/-! ## Memos -/

section memos

variable (o : Observation) (observations : List Observation) (books : Books) (hash : String)

theorem memos_perform :
    (o.perform books).memos = (MemoBook.insertIfAbsent o.memo books.memos).2 := by
  cases o with
  | adapt view resolve rate tx => rfl
  | seen rate hash amount => rfl

theorem get?_memos_perform :
    (o.perform books).memos.get? hash =
      (books.memos.get? hash).or (if o.hash = hash then some o.memo else none) := by
  rw [memos_perform]
  exact MemoBook.get?_insertIfAbsent o.memo books.memos hash

/-- The memo of a hash is the one there was, or else that of its first observation. -/
theorem get?_memos_run :
    (run observations books).memos.get? hash =
      (books.memos.get? hash).or ((observations.find? fun o => o.hash == hash).map memo) := by
  induction observations generalizing books with
  | nil => simp
  | cons o rest ih =>
    rw [run_cons, ih, get?_memos_perform]
    by_cases here : o.hash = hash
    · simp [here]
    · simp [here]

/-- A memo that is there stays as it is. -/
theorem get?_memos_run_of_eq_some {books : Books} {hash : String} {memo : Memo}
    (there : books.memos.get? hash = some memo) :
    (run observations books).memos.get? hash = some memo := by
  rw [get?_memos_run, there, Option.some_or]

theorem get?_memos_run_eq_none_iff :
    (run observations books).memos.get? hash = none ↔
      books.memos.get? hash = none ∧ ∀ o ∈ observations, o.hash ≠ hash := by
  simp [get?_memos_run, Option.or_eq_none_iff]

theorem entries_memos_perform :
    ∃ added, (o.perform books).memos.entries = books.memos.entries ++ added := by
  rw [memos_perform, MemoBook.insertIfAbsent]
  cases found : books.memos.get? o.memo.hash with
  | some memo => exact ⟨[], (List.append_nil _).symm⟩
  | none => exact ⟨[o.memo], Register.entries_insert_of_get?_eq_none found⟩

theorem entries_memos_run :
    ∃ added, (run observations books).memos.entries = books.memos.entries ++ added := by
  induction observations generalizing books with
  | nil => exact ⟨[], (List.append_nil _).symm⟩
  | cons o rest ih =>
    obtain ⟨first, one⟩ := entries_memos_perform o books
    obtain ⟨others, all⟩ := ih (o.perform books)
    refine ⟨first ++ others, ?_⟩
    rw [run_cons, all, one, List.append_assoc]

/-- There is one more memo for each hash that had none and was observed. -/
theorem size_memos_run :
    (run observations books).memos.size =
      books.memos.size +
        {hash ∈ (observations.map Observation.hash).toFinset |
          books.memos.get? hash = none}.card := by
  obtain ⟨added, entries⟩ := entries_memos_run observations books
  have hashes : (run observations books).memos.entries.map Memo.hash =
      books.memos.entries.map Memo.hash ++ added.map Memo.hash := by
    rw [entries, List.map_append]
  have nodup := (run observations books).memos.nodup
  rw [hashes, List.nodup_append'] at nodup
  obtain ⟨-, fresh, apart⟩ := nodup
  have added_iff (hash : String) : hash ∈ added.map Memo.hash ↔
      (∃ o ∈ observations, o.hash = hash) ∧ books.memos.get? hash = none := by
    have old := Register.mem_map_key_iff (r := books.memos) (k := hash)
    have all := Register.mem_map_key_iff (r := (run observations books).memos) (k := hash)
    rw [hashes, List.mem_append, ne_eq, get?_memos_run_eq_none_iff] at all
    have disjoint := @apart hash
    grind
  have new : (added.map Memo.hash).toFinset =
      {hash ∈ (observations.map Observation.hash).toFinset | books.memos.get? hash = none} := by
    ext hash
    rw [List.mem_toFinset, added_iff, Finset.mem_filter, List.mem_toFinset, List.mem_map]
  rw [← new, List.toFinset_card_of_nodup fresh, List.length_map, Register.size, entries,
    List.length_append]
  rfl

end memos

/-! ## Answers -/

/-- A transaction is new to its first sight, if it has no memo. -/
theorem noteSeen_run_fst (observations : List Observation) (books : Books)
    (rate : Option ExchangeRate) (hash : String) (amount : Int64) :
    ((run observations books).noteSeen rate hash amount).1 = true ↔
      books.memos.get? hash = none ∧ ∀ o ∈ observations, o.hash ≠ hash := by
  rw [← get?_memos_run_eq_none_iff]
  simp only [Books.noteSeen, MemoBook.pin, MemoBook.insertIfAbsent]
  cases (run observations books).memos.get? hash with
  | some memo => simp
  | none => simp

/-- A transaction that was observed is not new any more. -/
theorem noteSeen_run_fst_of_mem {observations : List Observation} {o : Observation}
    (member : o ∈ observations) (books : Books) (rate : Option ExchangeRate) (amount : Int64) :
    ((run observations books).noteSeen rate o.hash amount).1 = false := by
  rw [Bool.eq_false_iff, ne_eq, noteSeen_run_fst]
  rintro ⟨-, fresh⟩
  exact fresh o member rfl

/-- The payment shows the value in the memo that the transaction has from then on. -/
theorem fiat_of_adapt {books : Books} {view : WalletView} {resolve : AddressResolver}
    {rate : Option ExchangeRate} {tx : LedgerTransaction} {payment : TransactionPayment}
    (adapted : (books.adapt view resolve rate tx).1 = .ok payment) :
    ((books.adapt view resolve rate tx).2.memos.get? tx.hash).map Memo.fiat =
      some payment.fiat := by
  obtain ⟨description, addresses, -, -, rfl⟩ :=
    (Books.adapt_fst_eq_ok_iff view resolve rate).1 adapted
  rw [Books.get?_memos_adapt, if_pos rfl]
  cases books.memos.get? tx.hash with
  | none => rfl
  | some memo => rfl

end Observation
end PaymentVault
