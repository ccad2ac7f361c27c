import PaymentVault.Proofs.Ledger.Adaptation

/-!
# What requests are paid

The history of a request is the request as it entered the book, with all that was counted
towards it since. Histories are kept beside a book through every call: a request that is added
starts a new one, and a request that is deleted takes its own with it until it is put back. After
any run of calls each request is what its history makes of it (`Describes.run`), so one that came
unfunded is paid the sum of its transactions, each counted once (`paid_of_run`).
-/
namespace PaymentVault

namespace PaymentRequest

/-- Nothing was counted towards the request. -/
structure IsUnfunded (r : PaymentRequest) : Prop where
  paidAmount : r.paidAmount = 0
  fundingHashes : r.fundingHashes = []

/-- The request lists the transactions of some credits, each once and in the order they first
came, and is paid what each was worth when it first came, up to the largest word. -/
structure IsFundedBy (r : PaymentRequest) (credits : List Credit) : Prop where
  nodup : r.fundingHashes.Nodup
  fundingHashes : r.fundingHashes = (credits.map Credit.hash).eraseDups
  paidAmount : r.paidAmount.toNat =
    min (2 ^ 64 - 1) (r.fundingHashes.map (Credit.firstValue credits)).sum

theorem IsUnfunded.creditedWith {r : PaymentRequest} (unfunded : r.IsUnfunded)
    (credits : List Credit) : (r.creditedWith credits).IsFundedBy credits := by
  have hashes : (r.creditedWith credits).fundingHashes = Credit.newHashes [] credits := by
    rw [fundingHashes_creditedWith, unfunded.fundingHashes, List.nil_append]
  constructor
  · rw [hashes]
    exact Credit.nodup_newHashes [] credits
  · rw [hashes, Credit.newHashes, List.filter_eq_self.2 (by simp)]
  · rw [toNat_paidAmount_creditedWith, hashes, unfunded.fundingHashes, unfunded.paidAmount]
    simp

/-- A request that only gained in what it is paid. -/
structure HasGained (before after : PaymentRequest) : Prop where
  unfunded : after.unfunded = before.unfunded
  paidAmount : before.paidAmount ≤ after.paidAmount

end PaymentRequest

namespace RequestBook

variable (book : RequestBook)

/-- A request is outstanding just if it is stored and paid less than it asks for. -/
theorem mem_outstanding {r : PaymentRequest} :
    r ∈ book.outstanding ↔ book.get? r.address = some r ∧ r.paidAmount < r.amount := by
  rw [outstanding, List.mem_filter, entries, Register.mem_entries_iff]
  simp [PaymentRequest.isFullyFunded, get?]

theorem nodup_outstanding : (book.outstanding.map PaymentRequest.address).Nodup :=
  (List.filter_sublist.map PaymentRequest.address).nodup book.requests.nodup

end RequestBook

/-! ## Calls -/

/-- A call that counts transactions towards requests. -/
inductive Funding where
  | adapt (view : WalletView) (resolve : AddressResolver) (rate : Option ExchangeRate)
      (tx : LedgerTransaction)
  | record (address hash : String) (value : UInt64)

namespace Funding

/-- The books after a call, whether or not it succeeds. -/
def perform : Funding → Books → Books
  | adapt view resolve rate tx, books => (books.adapt view resolve rate tx).2
  | record address hash value, books =>
    { books with requests := (books.requests.recordFunding address hash value).2 }

/-- What a call credits to the request at an address. -/
def credits : Funding → String → List Credit
  | adapt view resolve _ tx, place => Books.creditsOf view resolve tx place
  | record address hash value, place => if address = place then [⟨hash, value⟩] else []

theorem get?_perform (funding : Funding) (books : Books) (address : String) :
    (funding.perform books).requests.get? address =
      (books.requests.get? address).map (·.creditedWith (funding.credits address)) := by
  cases funding with
  | adapt view resolve rate tx => exact Books.get?_adapt view resolve rate tx books address
  | record paid hash value =>
    simp only [perform, credits, RequestBook.get?_recordFunding]
    by_cases here : paid = address
    · simp [here, PaymentRequest.creditedWith_cons]
    · simp [here]

@[simp] theorem lastDeleted_perform (funding : Funding) (books : Books) :
    (funding.perform books).requests.lastDeleted = books.requests.lastDeleted := by
  cases funding with
  | adapt view resolve rate tx => exact Books.lastDeleted_adapt view resolve rate tx books
  | record address hash value => rfl

theorem hasGained_perform (funding : Funding) (books : Books) (address : String) :
    Option.Rel PaymentRequest.HasGained (books.requests.get? address)
      ((funding.perform books).requests.get? address) := by
  rw [get?_perform]
  cases books.requests.get? address with
  | none => exact .none
  | some r =>
    apply Option.Rel.some
    exact ⟨r.unfunded_creditedWith _, r.le_paidAmount_creditedWith _⟩

/-- A transaction counts with its net value, which is not negative. -/
theorem of_mem_credits_adapt {view : WalletView} {resolve : AddressResolver}
    {rate : Option ExchangeRate} {tx : LedgerTransaction} {address : String} {credit : Credit}
    (member : credit ∈ (adapt view resolve rate tx).credits address) :
    credit.hash = tx.hash ∧ (credit.value.toNat : Int) = (view.valueOf tx).toInt := by
  have shape := Books.eq_of_mem_creditsOf view resolve member
  have incoming : ¬ view.valueOf tx < 0 := by
    intro outgoing
    simp [credits, Books.creditsOf, outgoing] at member
  have nonneg : 0 ≤ (view.valueOf tx).toInt := by
    simpa [Int64.lt_iff_toInt_lt] using incoming
  constructor
  · rw [shape]
  · rw [shape, Books.toNat_creditOf]
    omega

end Funding

/-- A call that changes the books. -/
inductive BookAction where
  | fund (funding : Funding)
  | insert (request : PaymentRequest)
  | erase (address : String)
  | delete (address : String)
  | undoDelete

namespace BookAction

def perform : BookAction → Books → Books
  | fund funding, books => funding.perform books
  | insert request, books => { books with requests := books.requests.insert request }
  | erase address, books => { books with requests := books.requests.erase address }
  | delete address, books => { books with requests := (books.requests.delete address).2 }
  | undoDelete, books => { books with requests := books.requests.undoDelete.2 }

/-- The books after calls one after another. -/
def run (actions : List BookAction) (books : Books) : Books :=
  actions.foldl (fun books action => action.perform books) books

end BookAction

/-! ## Histories -/

/-- A request as it entered the book, and what was counted towards it since. -/
structure History where
  entered : PaymentRequest
  credits : List Credit := []

namespace History

def now (history : History) : PaymentRequest := history.entered.creditedWith history.credits

def credit (credits : List Credit) (history : History) : History :=
  { history with credits := history.credits ++ credits }

@[simp] theorem now_mk_nil (r : PaymentRequest) : (History.mk r []).now = r := rfl

@[simp] theorem now_credit (credits : List Credit) (history : History) :
    (history.credit credits).now = history.now.creditedWith credits :=
  PaymentRequest.creditedWith_append _ _ _

@[simp] theorem address_now (history : History) :
    history.now.address = history.entered.address := by
  have kept := PaymentRequest.unfunded_creditedWith history.credits history.entered
  have address := congrArg PaymentRequest.address kept
  exact address

end History

/-- The histories of the stored requests and of the one that can be put back. -/
structure Histories where
  stored : String → Option History
  restorable : Option History

namespace Histories

/-- The histories of the requests that a book holds at the start. -/
def start (book : RequestBook) : Histories where
  stored address := (book.get? address).map fun r => ⟨r, []⟩
  restorable := book.lastDeleted.map fun r => ⟨r, []⟩

/-- The histories with that of one address put in place or taken out. -/
def put (address : String) (history : Option History) (histories : Histories) : Histories :=
  { histories with
    stored := fun place => if address = place then history else histories.stored place }

/-- What a call adds to the histories. -/
def perform : BookAction → Histories → Histories
  | .fund funding, histories =>
    { histories with
      stored := fun address => (histories.stored address).map (·.credit (funding.credits address)) }
  | .insert request, histories => histories.put request.address (some ⟨request, []⟩)
  | .erase address, histories => histories.put address none
  | .delete address, histories =>
    match histories.stored address with
    | none => histories
    | some history => { histories.put address none with restorable := some history }
  | .undoDelete, histories =>
    match histories.restorable with
    | none => histories
    | some history =>
      { histories.put history.entered.address (some history) with restorable := none }

def run (actions : List BookAction) (histories : Histories) : Histories :=
  actions.foldl (fun histories action => histories.perform action) histories

end Histories

/-- Every request of a book is what its history makes of it. -/
structure Describes (histories : Histories) (book : RequestBook) : Prop where
  stored : ∀ address, book.get? address = (histories.stored address).map History.now
  restorable : book.lastDeleted = histories.restorable.map History.now

namespace Describes

theorem start (book : RequestBook) : Describes (.start book) book := by
  constructor
  · intro address
    simp [Histories.start, Function.comp_def]
  · simp [Histories.start, Function.comp_def]

variable {histories : Histories} {books : Books} (describes : Describes histories books.requests)
include describes

theorem fund (funding : Funding) :
    Describes (histories.perform (.fund funding)) (funding.perform books).requests := by
  constructor
  · intro address
    rw [Funding.get?_perform, describes.stored]
    simp [Histories.perform, Function.comp_def]
  · rw [Funding.lastDeleted_perform, describes.restorable]
    rfl

/-- A request that is put in brings its history along. -/
theorem get?_insert_now (history : History) (place : String) :
    (books.requests.insert history.now).get? place =
      ((histories.put history.entered.address (some history)).stored place).map History.now := by
  rw [RequestBook.get?_insert, History.address_now, describes.stored, Histories.put]
  by_cases here : history.entered.address = place
  · simp [here]
  · simp [here]

theorem insert (request : PaymentRequest) :
    Describes (histories.perform (.insert request)) (books.requests.insert request) := by
  constructor
  · exact describes.get?_insert_now ⟨request, []⟩
  · exact describes.restorable

theorem erase (address : String) :
    Describes (histories.perform (.erase address)) (books.requests.erase address) := by
  constructor
  · intro place
    rw [RequestBook.get?_erase, describes.stored, Histories.perform, Histories.put]
    by_cases here : address = place
    · simp [here]
    · simp [here]
  · exact describes.restorable

theorem delete (address : String) :
    Describes (histories.perform (.delete address)) (books.requests.delete address).2 := by
  have there := describes.stored address
  cases found : histories.stored address with
  | none =>
    have absent : books.requests.get? address = none := by simpa [found] using there
    simpa [RequestBook.delete, Histories.perform, absent, found] using describes
  | some history =>
    have present : books.requests.get? address = some history.now := by simpa [found] using there
    have erased := describes.erase address
    simp only [RequestBook.delete, Histories.perform, present, found]
    exact ⟨erased.stored, rfl⟩

theorem undoDelete :
    Describes (histories.perform .undoDelete) books.requests.undoDelete.2 := by
  have slot := describes.restorable
  cases found : histories.restorable with
  | none =>
    have absent : books.requests.lastDeleted = none := by simpa [found] using slot
    simpa [RequestBook.undoDelete, Histories.perform, absent, found] using describes
  | some history =>
    have present : books.requests.lastDeleted = some history.now := by simpa [found] using slot
    simp only [RequestBook.undoDelete, Histories.perform, present, found]
    constructor
    · exact describes.get?_insert_now history
    · rfl

theorem perform (action : BookAction) :
    Describes (histories.perform action) (action.perform books).requests := by
  cases action with
  | fund funding => exact describes.fund funding
  | insert request => exact describes.insert request
  | erase address => exact describes.erase address
  | delete address => exact describes.delete address
  | undoDelete => exact describes.undoDelete

theorem run (actions : List BookAction) :
    Describes (histories.run actions) (BookAction.run actions books).requests := by
  induction actions generalizing histories books with
  | nil => exact describes
  | cons action rest ih => exact ih (describes.perform action)

end Describes

/-- What is known of a request with a history. -/
structure PaymentRequest.Follows (r : PaymentRequest) (history : History) : Prop where
  unfunded : r.unfunded = history.entered.unfunded
  funded : history.entered.IsUnfunded → r.IsFundedBy history.credits

theorem History.follows_now (history : History) : history.now.Follows history := by
  constructor
  · exact PaymentRequest.unfunded_creditedWith history.credits history.entered
  · intro unfunded
    exact unfunded.creditedWith history.credits

namespace Books

/-- After any run of calls, every request that is stored or can be put back follows its history:
one that came unfunded is paid the sum of its transactions, each counted once with what it was
worth when it first came. No call that funds requests takes anything from them, and the
outstanding requests are those stored that are paid less than they ask for. -/
theorem paid_of_run (actions : List BookAction) (books : Books) :
    (∀ address, Option.Rel PaymentRequest.Follows
        ((BookAction.run actions books).requests.get? address)
        (((Histories.start books.requests).run actions).stored address)) ∧
      Option.Rel PaymentRequest.Follows (BookAction.run actions books).requests.lastDeleted
        ((Histories.start books.requests).run actions).restorable ∧
      (∀ view resolve rate tx address,
        ∀ credit ∈ (Funding.adapt view resolve rate tx).credits address,
          credit.hash = tx.hash ∧ (credit.value.toNat : Int) = (view.valueOf tx).toInt) ∧
      (∀ funding : Funding,
        (funding.perform (BookAction.run actions books)).requests.lastDeleted =
            (BookAction.run actions books).requests.lastDeleted ∧
          ∀ address, Option.Rel PaymentRequest.HasGained
            ((BookAction.run actions books).requests.get? address)
            ((funding.perform (BookAction.run actions books)).requests.get? address)) ∧
      ((BookAction.run actions books).requests.outstanding.map PaymentRequest.address).Nodup ∧
      ∀ r, r ∈ (BookAction.run actions books).requests.outstanding ↔
        (BookAction.run actions books).requests.get? r.address = some r ∧
          r.paidAmount < r.amount := by
  have describes := (Describes.start books.requests).run actions
  have follows (history : Option History) :
      Option.Rel PaymentRequest.Follows (history.map History.now) history := by
    cases history with
    | none => exact .none
    | some history => exact .some history.follows_now
  refine ⟨?_, ?_, ?_, ?_, ?_, ?_⟩
  · intro address
    rw [describes.stored]
    exact follows _
  · rw [describes.restorable]
    exact follows _
  · intro view resolve rate tx address credit member
    exact Funding.of_mem_credits_adapt member
  · intro funding
    constructor
    · exact funding.lastDeleted_perform _
    · intro address
      exact funding.hasGained_perform _ address
  · exact RequestBook.nodup_outstanding _
  · intro r
    exact RequestBook.mem_outstanding _

/-- A request that is put back goes on from what it was paid. -/
example :
    let bill : PaymentRequest := { address := "m", amount := 9, date := .epoch }
    let actions : List BookAction :=
      [.insert bill, .fund (.record "m" "a" 5), .delete "m", .fund (.record "m" "b" 2), .undoDelete,
        .fund (.record "m" "a" 7), .fund (.record "m" "c" 1)]
    (((Histories.start .empty).run actions).stored "m").map History.credits =
        some [⟨"a", 5⟩, ⟨"a", 7⟩, ⟨"c", 1⟩] ∧
      (BookAction.run actions .empty).requests.outstanding =
        [{ bill with paidAmount := 6, fundingHashes := ["a", "c"] }] := by
  decide

end Books
end PaymentVault
