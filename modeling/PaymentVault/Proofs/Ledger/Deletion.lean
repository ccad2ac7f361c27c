import PaymentVault.Proofs.Ledger.Funding
import PaymentVault.Proofs.Register

/-!
# Requests that are deleted and put back

A book keeps the request that was deleted last, as it was then, until it is put back. Putting it
back changes nothing at other addresses, but a request that was stored at its address since is
replaced, with all that was counted towards it (`undone_of_run`). When that can happen is told by
the run of the book: some event stored a request at the address, and none took it away again.
-/
namespace PaymentVault

namespace RequestBook

variable (book : RequestBook)

/-! ## Deleting -/

theorem delete_fst (address : String) : (book.delete address).1 = book.get? address := by
  unfold delete
  split <;> simp_all

theorem get?_delete (address place : String) :
    (book.delete address).2.get? place = if address = place then none else book.get? place := by
  unfold delete
  split
  · next absent =>
    by_cases here : address = place
    · simp [← here, absent]
    · simp [here]
  · exact Register.get?_erase address book.requests place

theorem lastDeleted_delete (address : String) :
    (book.delete address).2.lastDeleted = (book.get? address).or book.lastDeleted := by
  unfold delete
  split <;> simp_all

/-- Deleting an address without a request changes nothing. -/
theorem delete_of_get?_eq_none {address : String} (absent : book.get? address = none) :
    book.delete address = (none, book) := by
  rw [delete, absent]

/-! ## Putting back -/

theorem undoDelete_fst : book.undoDelete.1 = book.lastDeleted := by
  unfold undoDelete
  split <;> simp_all

@[simp] theorem lastDeleted_undoDelete : book.undoDelete.2.lastDeleted = none := by
  unfold undoDelete
  split <;> simp_all

theorem undoDelete_of_lastDeleted_eq_none (empty : book.lastDeleted = none) :
    book.undoDelete = (none, book) := by
  rw [undoDelete, empty]

theorem get?_undoDelete {r : PaymentRequest} (slot : book.lastDeleted = some r) (place : String) :
    book.undoDelete.2.get? place = if r.address = place then some r else book.get? place := by
  rw [undoDelete, slot]
  exact Register.get?_insert r book.requests place

/-! ## Other contents -/

@[simp] theorem lastDeleted_insert (request : PaymentRequest) :
    (book.insert request).lastDeleted = book.lastDeleted := rfl

@[simp] theorem lastDeleted_erase (address : String) :
    (book.erase address).lastDeleted = book.lastDeleted := rfl

theorem get?_replaceAll_eq_none_iff {requests : List PaymentRequest} {address : String} :
    (book.replaceAll requests).get? address = none ↔
      address ∉ requests.map PaymentRequest.address := by
  rw [get?, replaceAll, Register.get?_ofList, List.find?_eq_none]
  simp

@[simp] theorem lastDeleted_replaceAll (requests : List PaymentRequest) :
    (book.replaceAll requests).lastDeleted = book.lastDeleted := rfl

/-! ## Addresses that are taken again -/

/-- A request is stored where the one deleted last would be put back. -/
def IsRetaken : Prop :=
  ∃ r, book.lastDeleted = some r ∧ book.get? r.address ≠ none

variable {book}

theorem isRetaken_insert {request : PaymentRequest} :
    (book.insert request).IsRetaken ↔
      (∃ r, book.lastDeleted = some r ∧ request.address = r.address) ∨ book.IsRetaken := by
  simp only [IsRetaken, get?_insert, lastDeleted_insert]
  rw [← exists_or]
  apply exists_congr
  intro r
  by_cases here : request.address = r.address
  · simp +contextual [here]
  · simp [here]

theorem isRetaken_erase {address : String} :
    (book.erase address).IsRetaken ↔
      book.IsRetaken ∧ ¬∃ r, book.lastDeleted = some r ∧ address = r.address := by
  simp only [IsRetaken, get?_erase, lastDeleted_erase]
  cases book.lastDeleted with
  | none => simp
  | some r =>
    by_cases here : address = r.address
    · simp [here]
    · simp [here]

theorem isRetaken_delete {address : String} :
    (book.delete address).2.IsRetaken ↔ book.IsRetaken ∧ book.get? address = none := by
  cases found : book.get? address with
  | none => simp [delete_of_get?_eq_none book found]
  | some r =>
    have place : r.address = address := Register.key_of_get? found
    simp [IsRetaken, lastDeleted_delete, get?_delete, found, place]

theorem not_isRetaken_undoDelete : ¬book.undoDelete.2.IsRetaken := by
  simp [IsRetaken]

theorem isRetaken_replaceAll {requests : List PaymentRequest} :
    (book.replaceAll requests).IsRetaken ↔
      ∃ r, book.lastDeleted = some r ∧ r.address ∈ requests.map PaymentRequest.address := by
  simp only [IsRetaken, lastDeleted_replaceAll, ne_eq, get?_replaceAll_eq_none_iff, not_not]

/-- Putting back keeps every stored request just if the one at the address is the same. -/
theorem undoDelete_keeps_iff :
    (∀ address live, book.get? address = some live →
        book.undoDelete.2.get? address = some live) ↔
      ∀ r live, book.lastDeleted = some r → book.get? r.address = some live → live = r := by
  cases slot : book.lastDeleted with
  | none => simp [undoDelete_of_lastDeleted_eq_none book slot]
  | some r =>
    simp only [get?_undoDelete book slot]
    constructor
    · rintro keeps _ live ⟨⟩ there
      have kept := keeps r.address live there
      rw [if_pos rfl] at kept
      exact (Option.some.inj kept).symm
    · intro same address live there
      split
      · next here =>
        subst here
        rw [same r live rfl there]
      · exact there

end RequestBook

/-! ## Events -/

/-- What can happen to a book: a call, a load of other contents, and a load that empties it. -/
inductive BookEvent where
  | call (action : BookAction)
  | load (requests : List PaymentRequest)
  | clear

namespace BookEvent

def perform : BookEvent → Books → Books
  | call action, books => action.perform books
  | load requests, books => { books with requests := books.requests.replaceAll requests }
  | clear, books => { books with requests := .empty }

/-- The books after events one after another. -/
def run (events : List BookEvent) (books : Books) : Books :=
  events.foldl (fun books event => event.perform books) books

/-- The event stores a request where the one deleted last would be put back. -/
def Retakes (book : RequestBook) : BookEvent → Prop
  | call (.insert request) => ∃ r, book.lastDeleted = some r ∧ request.address = r.address
  | load requests =>
    ∃ r, book.lastDeleted = some r ∧ r.address ∈ requests.map PaymentRequest.address
  | _ => False

/-- After the event there is no such request: it is taken away, or another one is the one deleted
last, or none is. -/
def Frees (book : RequestBook) : BookEvent → Prop
  | call (.fund _) | call (.insert _) => False
  | call (.erase address) => ∃ r, book.lastDeleted = some r ∧ address = r.address
  | call (.delete address) => book.get? address ≠ none
  | call .undoDelete => True
  | load requests =>
    ∃ r, book.lastDeleted = some r ∧ r.address ∉ requests.map PaymentRequest.address
  | clear => True

/-- None of the events frees the address in its turn. -/
def Spare : List BookEvent → Books → Prop
  | [], _ => True
  | event :: rest, books => ¬Frees books.requests event ∧ Spare rest (event.perform books)

variable {books : Books}

theorem isRetaken_fund (funding : Funding) :
    (funding.perform books).requests.IsRetaken ↔ books.requests.IsRetaken := by
  simp [RequestBook.IsRetaken, Funding.get?_perform]

/-- What one event does to the address of the request deleted last. -/
theorem isRetaken_perform (event : BookEvent) :
    (event.perform books).requests.IsRetaken ↔
      Retakes books.requests event ∨
        (books.requests.IsRetaken ∧ ¬Frees books.requests event) := by
  cases event with
  | call action =>
    cases action with
    | fund funding =>
      simpa [perform, BookAction.perform, Retakes, Frees] using isRetaken_fund funding
    | insert request =>
      simpa [perform, BookAction.perform, Retakes, Frees] using RequestBook.isRetaken_insert
    | erase address =>
      simpa [perform, BookAction.perform, Retakes, Frees] using RequestBook.isRetaken_erase
    | delete address =>
      simpa [perform, BookAction.perform, Retakes, Frees] using RequestBook.isRetaken_delete
    | undoDelete =>
      simpa [perform, BookAction.perform, Retakes, Frees] using RequestBook.not_isRetaken_undoDelete
  | load requests =>
    change (books.requests.replaceAll requests).IsRetaken ↔ _
    rw [RequestBook.isRetaken_replaceAll]
    constructor
    · exact .inl
    · rintro (listed | ⟨⟨r, slot, -⟩, spared⟩)
      · exact listed
      · have listed : r.address ∈ requests.map PaymentRequest.address :=
          Classical.byContradiction fun unlisted => spared ⟨r, slot, unlisted⟩
        exact ⟨r, slot, listed⟩
  | clear =>
    have empty : ¬RequestBook.empty.IsRetaken := by simp [RequestBook.IsRetaken, RequestBook.empty]
    simpa [perform, BookAction.perform, Retakes, Frees] using empty

/-- The address is taken after a run if it was taken before and stayed so, or if some event took
it and no later one freed it. -/
theorem isRetaken_run (events : List BookEvent) (books : Books) :
    (run events books).requests.IsRetaken ↔
      (books.requests.IsRetaken ∧ Spare events books) ∨
        ∃ before event since, events = before ++ event :: since ∧
          Retakes (run before books).requests event ∧
          Spare since (run (before ++ [event]) books) := by
  induction events generalizing books with
  | nil => simp [run, Spare]
  | cons first rest ih =>
    change (run rest (first.perform books)).requests.IsRetaken ↔ _
    rw [ih, isRetaken_perform]
    constructor
    · rintro (⟨taken | ⟨taken, spared⟩, spare⟩ | ⟨before, event, since, rfl, takes, spare⟩)
      · exact .inr ⟨[], first, rest, rfl, taken, spare⟩
      · exact .inl ⟨taken, spared, spare⟩
      · exact .inr ⟨first :: before, event, since, rfl, takes, spare⟩
    · rintro (⟨taken, spared, spare⟩ | ⟨before, event, since, split, takes, spare⟩)
      · exact .inl ⟨.inr ⟨taken, spared⟩, spare⟩
      · cases before with
        | nil =>
          obtain ⟨rfl, rfl⟩ := List.cons.inj split
          exact .inl ⟨.inl takes, spare⟩
        | cons head before =>
          obtain ⟨rfl, rfl⟩ := List.cons.inj split
          exact .inr ⟨before, event, since, rfl, takes, spare⟩

end BookEvent

namespace Books

/-- After any run of events from an empty book, putting back sets the address of the request
deleted last to that request and leaves all others as they are. It keeps every stored request just
if the one stored there is the same; one is stored there just if some event of the run stored it
after that deletion and none took it away since. -/
theorem undone_of_run (events : List BookEvent) :
    let book := (BookEvent.run events .empty).requests
    (book.lastDeleted = none → book.undoDelete = (none, book)) ∧
      (∀ r, book.lastDeleted = some r → ∀ address, book.undoDelete.2.get? address =
        if r.address = address then some r else book.get? address) ∧
      ((∀ address live, book.get? address = some live →
          book.undoDelete.2.get? address = some live) ↔
        ∀ r live, book.lastDeleted = some r → book.get? r.address = some live → live = r) ∧
      (book.IsRetaken ↔
        ∃ before event since, events = before ++ event :: since ∧
          BookEvent.Retakes (BookEvent.run before .empty).requests event ∧
          BookEvent.Spare since (BookEvent.run (before ++ [event]) .empty)) := by
  intro book
  refine ⟨book.undoDelete_of_lastDeleted_eq_none, ?_, RequestBook.undoDelete_keeps_iff, ?_⟩
  · intro r slot address
    exact book.get?_undoDelete slot address
  · have empty : ¬Books.empty.requests.IsRetaken := by
      rintro ⟨r, slot, -⟩
      cases slot
    simp [book, BookEvent.isRetaken_run, empty]

/-- A request that was added for the address of a deleted one, and was paid since, is lost with
what it was paid when the deleted one is put back. -/
theorem paid_request_is_replaced :
    let bill : PaymentRequest := { address := "m", amount := 9, date := .epoch }
    let renewed : PaymentRequest := { bill with amount := 7 }
    let events : List BookEvent :=
      [.call (.insert bill), .call (.delete "m"), .call (.insert renewed),
        .call (.fund (.record "m" "a" 5))]
    let book := (BookEvent.run events .empty).requests
    book.get? "m" = some { renewed with paidAmount := 5, fundingHashes := ["a"] } ∧
      book.undoDelete.2.get? "m" = some bill := by
  decide

end Books
end PaymentVault
