import PaymentVault.Wallet.Storage

/-!
# The payments of an open wallet

Requests and memos are added after a check that they can be identified. Deleting a request and
putting it back are stored at once, and hold in memory even if that fails. The list of payments
shows every transaction of the wallet and every request that is not fully funded; it is
remembered for searches.
-/
namespace PaymentVault.OpenWallet

variable {ω : Type} (facilities : Facilities ω)

/-! ## Requests and memos -/

/-- Adds or replaces a request. -/
def addRequest (request : PaymentRequest) (wallet : OpenWallet ω) :
    Except WalletFault Unit × OpenWallet ω :=
  match request.validate with
  | .error cause => (.error (.ofLedger cause), wallet)
  | .ok () =>
    (.ok (),
      wallet.withBooks { wallet.books with requests := wallet.books.requests.insert request })

/-- Adds or replaces a memo. -/
def addMemo (memo : Memo) (wallet : OpenWallet ω) :
    Except WalletFault Unit × OpenWallet ω :=
  match memo.validate with
  | .error cause => (.error (.ofLedger cause), wallet)
  | .ok () =>
    (.ok (), wallet.withBooks { wallet.books with memos := wallet.books.memos.insert memo })

/-- Stores the books after a change that touched a request, and gives that request. -/
def saveAfter (changed : Option PaymentRequest) (wallet : OpenWallet ω) :
    Except WalletFault (Option PaymentRequest) × OpenWallet ω :=
  match changed with
  | none => (.ok none, wallet)
  | some request =>
    let (result, wallet) := wallet.save facilities
    (result.map fun () => some request, wallet)

/-- Deletes a request and stores the books. -/
def deleteRequest (address : String) (wallet : OpenWallet ω) :
    Except WalletFault (Option PaymentRequest) × OpenWallet ω :=
  let (deleted, requests) := wallet.books.requests.delete address
  saveAfter facilities deleted (wallet.withBooks { wallet.books with requests })

/-- Puts back the request deleted last and stores the books. -/
def undoDelete (wallet : OpenWallet ω) :
    Except WalletFault (Option PaymentRequest) × OpenWallet ω :=
  let (restored, requests) := wallet.books.requests.undoDelete
  saveAfter facilities restored (wallet.withBooks { wallet.books with requests })

/-- The requests that a transaction pays. -/
def requestsFundedBy (payment : TransactionPayment) (wallet : OpenWallet ω) : List PaymentRequest :=
  wallet.books.requests.fundedBy payment.outputAddresses

/-! ## Transactions -/

/-- Adapts a transaction. -/
def adapt (tx : LedgerTransaction) (wallet : OpenWallet ω) :
    Except WalletFault TransactionPayment × OpenWallet ω :=
  let rest := wallet.around.rest
  let (payment, books) :=
    wallet.books.adapt (facilities.view rest) facilities.resolve (facilities.rate rest) tx
  (payment.mapError .ofLedger, wallet.withBooks books)

/-- Pins the value of a transaction seen on the network. -/
def noteSeen (hash : String) (amount : Int64) (wallet : OpenWallet ω) : Bool × OpenWallet ω :=
  let (isNew, books) := wallet.books.noteSeen (facilities.rate wallet.around.rest) hash amount
  (isNew, wallet.withBooks books)

/-- Every transaction and every request that is not fully funded, in order. Of entries that tie,
transactions come first and then requests by address. -/
def list (wallet : OpenWallet ω) : Except WalletFault (List Payment) × OpenWallet ω :=
  let rest := wallet.around.rest
  let view := facilities.view rest
  match wallet.books.adaptAll view facilities.resolve (facilities.rate rest) view.transactions with
  | (.error cause, books) => (.error (.ofLedger cause), wallet.withBooks books)
  | (.ok transactions, books) =>
    let payments := Payment.sorted
      (transactions.map Payment.transaction ++
        (RequestBook.byAddress books.requests.outstanding).map Payment.request)
    (.ok payments, { wallet with desk := { wallet.desk with books, lastListed := payments } })

/-- Searches the list that was shown last. -/
def search (query : String) (wallet : OpenWallet ω) : List Payment :=
  Payment.search query wallet.desk.lastListed

/-! ## Transactions that are seen -/

/-- A transaction appeared on the network or in a block. -/
structure Sighting where
  hash : String
  amount : Int64

/-- Pins the values of the transactions in a buffer. -/
def noteAll (sightings : List Sighting) (wallet : OpenWallet ω) : OpenWallet ω :=
  sightings.foldl (fun wallet seen => (wallet.noteSeen facilities seen.hash seen.amount).2) wallet

/-- Takes in sightings by way of a buffer of some capacity, one at least, which is emptied
whenever it is full and at the end; `fuel` bounds how often that happens. -/
def listenFor (capacity : Nat) : Nat → List Sighting → OpenWallet ω → OpenWallet ω
  | 0, _, wallet => wallet
  | _ + 1, [], wallet => wallet
  | fuel + 1, sightings, wallet =>
    let size := max capacity 1
    listenFor capacity fuel (sightings.drop size) (wallet.noteAll facilities (sightings.take size))

/-- Takes in sightings to the end. -/
def listen (capacity : Nat) (sightings : List Sighting) (wallet : OpenWallet ω) : OpenWallet ω :=
  listenFor facilities capacity sightings.length sightings wallet

theorem listenFor_eq_noteAll (capacity fuel : Nat) (sightings : List Sighting)
    (wallet : OpenWallet ω) (enough : sightings.length ≤ fuel) :
    listenFor facilities capacity fuel sightings wallet = wallet.noteAll facilities sightings := by
  induction fuel generalizing sightings wallet with
  | zero =>
    obtain rfl := List.length_eq_zero_iff.1 (Nat.le_zero.1 enough)
    rfl
  | succ fuel ih =>
    cases sightings with
    | nil => rfl
    | cons seen rest =>
      have shorter : ((seen :: rest).drop (max capacity 1)).length ≤ fuel := by
        rw [List.length_drop]
        simp only [List.length_cons] at enough ⊢
        omega
      rw [listenFor, ih _ _ shorter]
      · simp only [noteAll, ← List.foldl_append, List.take_append_drop]
      · simp

/-- The capacity of the buffer makes no difference. -/
theorem listen_eq_noteAll (capacity : Nat) (sightings : List Sighting) (wallet : OpenWallet ω) :
    wallet.listen facilities capacity sightings = wallet.noteAll facilities sightings :=
  listenFor_eq_noteAll facilities capacity _ sightings wallet (Nat.le_refl _)

end PaymentVault.OpenWallet
