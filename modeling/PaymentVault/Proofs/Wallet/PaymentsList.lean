import PaymentVault.Proofs.Ledger.Funding
import PaymentVault.Proofs.Ledger.Repetition
import PaymentVault.Proofs.Payment.Order
import PaymentVault.Wallet.Payments

/-!
# The list of payments

A list that is given shows every transaction of the wallet once and every request that is then
outstanding, and what those requests were paid takes in all the transactions beside them. To make
it again gives the same list and changes no book. If no list is given, searches go on in the one
before (`list_lists`).
-/
namespace PaymentVault

namespace Books

variable (view : WalletView) (resolve : AddressResolver) (rate : Option ExchangeRate)
  (books : Books) (payments : List Payment) (after : Books)

/-- What a list of payments shows of a wallet whose books were brought up to date. -/
structure Lists : Prop where
  sorted : payments.Pairwise Payment.ListedBefore
  /-- Any other sorted list of these payments differs in the order of entries that tie. -/
  determined : ∀ others : List Payment, others.Perm payments →
    others.Pairwise Payment.ListedBefore → others.map Payment.rank = payments.map Payment.rank
  /-- There is one payment for each transaction, the one that adapting it gives. -/
  transactions : ∃ adapted : List TransactionPayment,
    (payments.filterMap Payment.transaction?).Perm adapted ∧
      adaptEach view resolve rate view.transactions books = (adapted.map .ok, after)
  requests : ∀ r, .request r ∈ payments ↔
    after.requests.get? r.address = some r ∧ r.paidAmount < r.amount
  once : ((payments.filterMap Payment.request?).map PaymentRequest.address).Nodup
  /-- Requests are credited with the transactions. -/
  credited : ∀ address, after.requests.get? address = (books.requests.get? address).map
    (·.creditedWith (view.transactions.flatMap fun tx => creditsOf view resolve tx address))
  /-- Every request that an own output of an incoming transaction pays lists the transaction. -/
  funded : ∀ tx ∈ view.transactions, (kindOf view tx).isIncoming →
    ∀ output ∈ tx.outputs, view.isMine output →
      ∀ address, resolve output.script = .ok address →
        ∀ r, after.requests.get? address = some r → tx.hash ∈ r.fundingHashes

/-- The list of adapted transactions and of the requests that are outstanding in some books. -/
def listing (adapted : List TransactionPayment) (books : Books) : List Payment :=
  Payment.sorted (adapted.map .transaction ++
    (RequestBook.byAddress books.requests.outstanding).map .request)

variable {view resolve rate books payments after} {adapted : List TransactionPayment}

theorem listing_perm (adapted : List TransactionPayment) (books : Books) :
    (listing adapted books).Perm
      (adapted.map .transaction ++ books.requests.outstanding.map .request) := by
  have requests : (RequestBook.byAddress books.requests.outstanding).Perm
      books.requests.outstanding := List.mergeSort_perm _ _
  exact (Payment.sorted_perm _).trans ((requests.map Payment.request).append_left _)

theorem lists_listing
    (all : adaptAll view resolve rate view.transactions books = (.ok adapted, after)) :
    Lists view resolve rate books (listing adapted after) after := by
  have each := adaptAll_eq_ok_iff.1 all
  have entries := listing_perm adapted after
  have sorted : (listing adapted after).Pairwise Payment.ListedBefore := Payment.pairwise_sorted _
  constructor
  · exact sorted
  · intro others same sortedOthers
    exact Payment.map_rank_eq_of_perm same sortedOthers sorted
  · refine ⟨adapted, ?_, each⟩
    simpa [Function.comp_def, Payment.transaction?] using entries.filterMap Payment.transaction?
  · intro r
    rw [entries.mem_iff, ← RequestBook.mem_outstanding]
    simp
  · have shown : ((listing adapted after).filterMap Payment.request?).Perm
        after.requests.outstanding := by
      simpa [Function.comp_def, Payment.request?] using entries.filterMap Payment.request?
    rw [(shown.map PaymentRequest.address).nodup_iff]
    exact after.requests.nodup_outstanding
  · intro address
    have credited := get?_adaptEach view resolve rate view.transactions books address
    rwa [each] at credited
  · intro tx member incoming output paying own address resolved r stored
    exact hash_mem_of_adaptAll all member incoming paying own resolved stored

end Books

namespace OpenWallet

variable {ω : Type} (facilities : Facilities ω)

theorem list_eq_of_ok {wallet : OpenWallet ω} {adapted : List TransactionPayment} {books : Books}
    (all : wallet.books.adaptAll (facilities.view wallet.around.rest) facilities.resolve
      (facilities.rate wallet.around.rest) (facilities.view wallet.around.rest).transactions =
        (.ok adapted, books)) :
    wallet.list facilities = (.ok (Books.listing adapted books),
      { wallet with
        desk := { wallet.desk with books, lastListed := Books.listing adapted books } }) := by
  simp only [list, all, Books.listing]

/-- If a list is given, it shows what it should, it is the one that is remembered for searches,
and to list the payments again, at whatever rate, gives it again and leaves the books alone. If
none is given, the one before is still remembered. -/
theorem list_lists (wallet : OpenWallet ω) :
    match wallet.list facilities with
    | (.ok payments, after) =>
      Books.Lists (facilities.view wallet.around.rest) facilities.resolve
          (facilities.rate wallet.around.rest) wallet.books payments after.books ∧
        after.desk.lastListed = payments ∧
        ∀ later : OpenWallet ω, later.books = after.books →
          facilities.view later.around.rest = facilities.view wallet.around.rest →
            later.list facilities =
              (.ok payments, { later with desk := { later.desk with lastListed := payments } })
    | (.error _, after) => after.desk.lastListed = wallet.desk.lastListed := by
  rcases all : wallet.books.adaptAll (facilities.view wallet.around.rest) facilities.resolve
    (facilities.rate wallet.around.rest) (facilities.view wallet.around.rest).transactions with
    ⟨cause | adapted, books⟩
  · simp only [list, all]
    rfl
  · rw [list_eq_of_ok facilities all]
    refine ⟨Books.lists_listing all, rfl, ?_⟩
    rintro later rfl sameView
    apply list_eq_of_ok
    rw [sameView]
    exact Books.adaptAll_again all _

end OpenWallet
end PaymentVault
