import PaymentVault.Wallet.Storage

/-!
# What all requests have in common

A property that funding a request does not take away holds of every request of the books once it
holds of those that are added.
-/
namespace PaymentVault

/-- A property of the stored requests, and of the one that can be put back. -/
structure RequestBook.Forall (P : PaymentRequest → Prop) (book : RequestBook) : Prop where
  stored : ∀ address r, book.get? address = some r → P r
  deleted : ∀ r, book.lastDeleted = some r → P r

namespace RequestBook.Forall

variable {P : PaymentRequest → Prop} {book : RequestBook}

theorem of_mem_entries (all : book.Forall P) {r : PaymentRequest} (member : r ∈ book.entries) :
    P r :=
  all.stored r.address r (Register.mem_entries_iff.1 member)

theorem empty : RequestBook.empty.Forall P := by
  constructor
  · intro address r there
    cases there
  · intro r there
    cases there

theorem insert (all : book.Forall P) {request : PaymentRequest} (holds : P request) :
    (book.insert request).Forall P := by
  constructor
  · intro address r there
    rw [get?_insert] at there
    split at there
    · cases there
      exact holds
    · exact all.stored address r there
  · exact all.deleted

theorem delete (all : book.Forall P) (address : String) : (book.delete address).2.Forall P := by
  unfold RequestBook.delete
  cases found : book.get? address with
  | none => exact all
  | some request =>
    constructor
    · intro other r there
      have kept := book.get?_erase other address
      rw [show (book.erase address).get? other = some r from there] at kept
      split at kept
      · cases kept
      · exact all.stored other r kept.symm
    · intro r there
      cases there
      exact all.stored address request found

theorem undoDelete (all : book.Forall P) : book.undoDelete.2.Forall P := by
  unfold RequestBook.undoDelete
  cases last : book.lastDeleted with
  | none => exact all
  | some request =>
    constructor
    · exact (all.insert (all.deleted request last)).stored
    · intro r there
      cases there

theorem replaceAll (all : book.Forall P) {requests : List PaymentRequest}
    (each : ∀ r ∈ requests, P r) :
    (book.replaceAll requests).Forall P := by
  constructor
  · intro address r there
    have found : (Register.ofList requests : Register PaymentRequest.address).get? address =
      some r := there
    rw [Register.get?_ofList] at found
    exact each r (List.mem_reverse.1 (List.mem_of_find?_eq_some found))
  · exact all.deleted

variable (kept : ∀ hash value r, P r → P (r.fundedBy hash value))
include kept

theorem recordFunding (all : book.Forall P) (address hash : String) (value : UInt64) :
    (book.recordFunding address hash value).2.Forall P := by
  constructor
  · intro other r there
    rw [get?_recordFunding] at there
    split at there
    · obtain ⟨unfunded, found, rfl⟩ := Option.map_eq_some_iff.1 there
      exact kept hash value unfunded (all.stored other unfunded found)
    · exact all.stored other r there
  · intro r there
    rw [lastDeleted_recordFunding] at there
    exact all.deleted r there

theorem fund (resolve : AddressResolver) (hash : String) (value : UInt64) (outputs : List TxOutput)
    (all : book.Forall P) : (Books.fund resolve hash value outputs book).2.Forall P := by
  induction outputs generalizing book with
  | nil => exact all
  | cons output rest ih =>
    rw [Books.fund]
    cases resolve output.script with
    | error fault => exact all
    | ok address => exact ih (all.recordFunding kept address hash value)

theorem describe (view : WalletView) (resolve : AddressResolver) (tx : LedgerTransaction)
    (kind : PaymentKind) (amount : Int64) (all : book.Forall P) :
    (Books.describe view resolve tx kind amount book).2.Forall P := by
  unfold Books.describe
  split
  · exact all.fund kept resolve tx.hash _ _
  · exact all

end RequestBook.Forall

namespace Books

variable {P : PaymentRequest → Prop} (kept : ∀ hash value r, P r → P (r.fundedBy hash value))
  (view : WalletView) (resolve : AddressResolver) (rate : Option ExchangeRate)
include kept

theorem forall_adapt (tx : LedgerTransaction) {books : Books} (all : books.requests.Forall P) :
    (adapt view resolve rate tx books).2.requests.Forall P :=
  all.describe kept view resolve tx _ _

theorem forall_adaptAll (txs : List LedgerTransaction) {books : Books}
    (all : books.requests.Forall P) :
    (adaptAll view resolve rate txs books).2.requests.Forall P := by
  induction txs generalizing books with
  | nil => exact all
  | cons tx rest ih =>
    have adapted := forall_adapt kept view resolve rate tx all
    rw [adaptAll]
    rcases step : adapt view resolve rate tx books with ⟨fault | payment, later⟩
    · rw [step] at adapted
      exact adapted
    · rw [step] at adapted
      exact ih adapted

end Books
end PaymentVault
