import Mathlib.Data.List.Forall2
import PaymentVault.Proofs.Ledger.Confluence

/-!
# Adapting a list of transactions again

Once some transactions have been adapted one after another, each of them gives the same again,
whatever the rate is by then, and the books do not change any more (`adaptEach_again`). It does not
take that equal hashes mean equal transactions. If all of them succeeded, then each incoming one is
listed by every request that one of the wallet's own outputs pays (`hash_mem_of_adaptAll`).
-/
namespace PaymentVault.Books

variable {view : WalletView} {resolve : AddressResolver} {rate rate' : Option ExchangeRate}
  {tx : LedgerTransaction} {txs : List LedgerTransaction} {books after : Books}

/-! ## The same again -/

theorem sameTexts_adaptEach (txs : List LedgerTransaction) (books : Books) :
    SameTexts (adaptEach view resolve rate txs books).2.requests books.requests := by
  intro address
  rw [get?_adaptEach, Option.map_map]
  simp [Function.comp_def, requestTexts_creditedWith]

/-- A transaction that was adapted before some others gives what it gave then, at any rate. -/
theorem adapt_after_adaptEach (later : List LedgerTransaction) :
    (adapt view resolve rate' tx
        (adaptEach view resolve rate later (adapt view resolve rate tx books).2).2).1 =
      (adapt view resolve rate tx books).1 := by
  apply adapt_fst_congr
  · rw [get?_memos_adaptEach, get?_memos_adapt, if_pos rfl]
    cases books.memos.get? tx.hash with
    | none => rfl
    | some memo => rfl
  · exact sameTexts_adaptEach (tx :: later) books

variable (view resolve rate) in
theorem adaptEach_again (txs : List LedgerTransaction) (books : Books) :
    List.Forall₂ (fun tx result => ∀ rate',
        adapt view resolve rate' tx (adaptEach view resolve rate txs books).2 =
          (result, (adaptEach view resolve rate txs books).2))
      txs (adaptEach view resolve rate txs books).1 := by
  induction txs generalizing books with
  | nil => exact .nil
  | cons tx rest ih =>
    refine .cons ?_ (ih _)
    intro rate'
    have booked : HasBooked view resolve tx (adaptEach view resolve rate (tx :: rest) books).2 :=
      hasBooked_adaptEach view resolve rate List.mem_cons_self books
    apply Prod.ext
    · exact adapt_after_adaptEach rest
    · exact booked.adapt_eq view resolve rate'

variable (view resolve rate) in
/-- Adapting all of them again gives the same results and leaves the books as they are. -/
theorem adaptEach_adaptEach (rate' : Option ExchangeRate) (txs : List LedgerTransaction)
    (books : Books) :
    adaptEach view resolve rate' txs (adaptEach view resolve rate txs books).2 =
      adaptEach view resolve rate txs books := by
  have again := adaptEach_again view resolve rate txs books
  generalize adaptEach view resolve rate txs books = ended at again ⊢
  obtain ⟨results, after⟩ := ended
  dsimp only at again ⊢
  induction again with
  | nil => rfl
  | cons first _ ih =>
    simp only [adaptEach, first rate', ih]

/-! ## Up to the first failure -/

theorem adaptAll_cons_eq_ok_iff {payments : List TransactionPayment} :
    adaptAll view resolve rate (tx :: txs) books = (.ok payments, after) ↔
      ∃ payment next others, adapt view resolve rate tx books = (.ok payment, next) ∧
        adaptAll view resolve rate txs next = (.ok others, after) ∧
          payments = payment :: others := by
  rcases adapted : adapt view resolve rate tx books with ⟨fault | payment, next⟩
  · simp [adaptAll, adapted]
  · rcases rest : adaptAll view resolve rate txs next with ⟨fault | found, final⟩
    · simp [adaptAll, adapted, rest, Except.map]
    · simp only [adaptAll, adapted, rest, Except.map, Prod.mk.injEq, Except.ok.injEq]
      constructor
      · rintro ⟨rfl, rfl⟩
        exact ⟨payment, next, found, ⟨rfl, rfl⟩, rest, rfl⟩
      · rintro ⟨_, _, others, ⟨rfl, rfl⟩, remaining, rfl⟩
        rw [rest] at remaining
        cases remaining
        exact ⟨rfl, rfl⟩

/-- Adapting all transactions succeeds just if adapting each of them does. -/
theorem adaptAll_eq_ok_iff {payments : List TransactionPayment} :
    adaptAll view resolve rate txs books = (.ok payments, after) ↔
      adaptEach view resolve rate txs books = (payments.map .ok, after) := by
  induction txs generalizing payments books with
  | nil => cases payments <;> simp [adaptAll, adaptEach]
  | cons tx rest ih =>
    rw [adaptAll_cons_eq_ok_iff]
    constructor
    · rintro ⟨payment, next, others, adapted, remaining, rfl⟩
      simp only [adaptEach, adapted, ih.1 remaining, List.map_cons]
    · intro each
      rcases adapted : adapt view resolve rate tx books with ⟨result, next⟩
      rcases remaining : adaptEach view resolve rate rest next with ⟨results, final⟩
      cases payments with
      | nil => simp [adaptEach] at each
      | cons payment others =>
        simp only [adaptEach, adapted, remaining, List.map_cons, Prod.mk.injEq,
          List.cons.injEq] at each
        obtain ⟨⟨rfl, rfl⟩, rfl⟩ := each
        exact ⟨payment, next, others, rfl, ih.2 remaining, rfl⟩

/-- If adapting all transactions succeeds, then doing so again gives the same and changes
nothing. -/
theorem adaptAll_again {payments : List TransactionPayment}
    (all : adaptAll view resolve rate txs books = (.ok payments, after))
    (rate' : Option ExchangeRate) :
    adaptAll view resolve rate' txs after = (.ok payments, after) := by
  have again := adaptEach_adaptEach view resolve rate rate' txs books
  rw [adaptAll_eq_ok_iff.1 all] at again
  exact adaptAll_eq_ok_iff.2 again

/-! ## What the wallet's own outputs pay -/

/-- If the addresses of some outputs are found, then every one of the scripts can be resolved. -/
theorem exists_resolve_eq {outputs : List TxOutput} {addresses : List String}
    (found : addressesOf resolve outputs = .ok addresses) :
    ∀ output ∈ outputs, ∃ address, resolve output.script = .ok address := by
  intro output member
  have resolved := List.mem_map_of_mem (f := fun output => resolve output.script) member
  rw [addressesOf_eq_ok_iff.1 found] at resolved
  obtain ⟨address, -, same⟩ := List.mem_map.1 resolved
  exact ⟨address, same.symm⟩

/-- Outputs that can all be resolved pay every address that one of them resolves to. -/
theorem mem_paidAddresses {outputs : List TxOutput} {output : TxOutput} {address : String}
    (resolvable : ∀ output ∈ outputs, ∃ address, resolve output.script = .ok address)
    (member : output ∈ outputs) (resolved : resolve output.script = .ok address) :
    address ∈ paidAddresses resolve outputs := by
  induction outputs with
  | nil => exact absurd member List.not_mem_nil
  | cons first rest ih =>
    rw [List.forall_mem_cons] at resolvable
    obtain ⟨⟨paid, resolvedFirst⟩, resolvableRest⟩ := resolvable
    rw [paidAddresses, resolvedFirst]
    rcases List.mem_cons.1 member with rfl | later
    · rw [resolvedFirst] at resolved
      cases resolved
      exact List.mem_cons_self
    · exact List.mem_cons_of_mem paid (ih resolvableRest later)

/-- If adapting all transactions succeeds, then each of them gives its payment again. -/
theorem adapt_of_adaptAll {payments : List TransactionPayment}
    (all : adaptAll view resolve rate txs books = (.ok payments, after)) :
    List.Forall₂ (fun tx payment => ∀ rate',
      adapt view resolve rate' tx after = (.ok payment, after)) txs payments := by
  have again := adaptEach_again view resolve rate txs books
  rw [adaptAll_eq_ok_iff.1 all] at again
  exact List.forall₂_map_right_iff.1 again

/-- If adapting all transactions succeeds, then a request that an own output of an incoming one
pays lists that transaction. -/
theorem hash_mem_of_adaptAll {payments : List TransactionPayment}
    (all : adaptAll view resolve rate txs books = (.ok payments, after)) (member : tx ∈ txs)
    (incoming : (kindOf view tx).isIncoming) {output : TxOutput} (paying : output ∈ tx.outputs)
    (own : view.isMine output) {address : String} (resolved : resolve output.script = .ok address)
    {r : PaymentRequest} (stored : after.requests.get? address = some r) :
    tx.hash ∈ r.fundingHashes := by
  have each := adaptAll_eq_ok_iff.1 all
  have booked : HasBooked view resolve tx after := by
    have booked := hasBooked_adaptEach view resolve rate member books
    rwa [each] at booked
  obtain ⟨payment, adapted⟩ :
      ∃ payment, adapt view resolve rate tx after = (.ok payment, after) := by
    obtain ⟨i, bound, rfl⟩ := List.getElem_of_mem member
    have again := adapt_of_adaptAll all
    exact ⟨_, again.get bound (again.length_eq ▸ bound) rate⟩
  obtain ⟨-, addresses, -, found, -⟩ :=
    (adapt_fst_eq_ok_iff view resolve rate).1 (congrArg Prod.fst adapted)
  have resolvable (output : TxOutput) (member : output ∈ tx.outputs.filter view.isMine) :
      ∃ address, resolve output.script = .ok address :=
    exists_resolve_eq found output (List.mem_of_mem_filter member)
  have paid : address ∈ paidAddresses resolve (tx.outputs.filter view.isMine) :=
    mem_paidAddresses resolvable (List.mem_filter.2 ⟨paying, own⟩) resolved
  have credited : ⟨tx.hash, creditOf (view.valueOf tx)⟩ ∈ creditsOf view resolve tx address := by
    rw [isIncoming_kindOf] at incoming
    simpa [creditsOf, paid] using incoming
  exact booked.listed address _ credited r stored

end PaymentVault.Books
