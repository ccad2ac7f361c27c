import PaymentVault.Bytes.Hex
import PaymentVault.Ledger.MemoBook
import PaymentVault.Ledger.RequestBook
import PaymentVault.Ledger.Transaction
import PaymentVault.Payment.Basic

/-!
# From ledger transactions to payments

Adapting a transaction describes it from the wallet's side and keeps the books: it pins the
value of the transaction in its memo, and an incoming transaction counts towards the requests at
the addresses of the wallet's own outputs. A script that cannot be resolved is a failure, but
what was booked by then stays booked.
-/
namespace PaymentVault

/-- The two books of a wallet. -/
structure Books where
  requests : RequestBook := .empty
  memos : MemoBook := .empty

namespace Books

def empty : Books := {}

instance : Inhabited Books := ⟨empty⟩

/-- The addresses that the outputs pay. -/
def addressesOf (resolve : AddressResolver) : List TxOutput → Except LedgerError (List String)
  | [] => .ok []
  | output :: rest => do
    let address ← resolve output.script
    let addresses ← addressesOf resolve rest
    return address :: addresses

/-- What a funded request says about itself. -/
def requestTexts (request : PaymentRequest) : List String :=
  (request.label.toList ++ request.note.toList).filter (· ≠ "")

/-- Counts a transaction towards the requests that the outputs pay, output by output up to the
first that cannot be resolved. Gives the addresses and the texts of the requests. -/
def fund (resolve : AddressResolver) (hash : String) (value : UInt64) :
    List TxOutput → RequestBook → Except LedgerError (List String × List String) × RequestBook
  | [], book => (.ok ([], []), book)
  | output :: rest, book =>
    match resolve output.script with
    | .error fault => (.error fault, book)
    | .ok address =>
      let (funded, book) := book.recordFunding address hash value
      let (result, book) := fund resolve hash value rest book
      (result.map fun (addresses, texts) =>
        (address :: addresses, (funded.toList.flatMap requestTexts) ++ texts), book)

/-- The value that an incoming transaction counts with. -/
def creditOf (amount : Int64) : UInt64 := UInt64.ofNat amount.toInt.toNat

/-- The description of an incoming transaction: the texts of the requests it pays, or else the
wallet's own addresses. -/
def incomingDescription (addresses texts : List String) : String :=
  if texts = [] then "By: " ++ " ".intercalate addresses else " ".intercalate texts

def outgoingDescription (addresses : List String) : String := "To: " ++ " ".intercalate addresses

/-- Describes a transaction; an incoming one is counted towards requests. -/
def describe (view : WalletView) (resolve : AddressResolver) (tx : LedgerTransaction)
    (kind : PaymentKind) (amount : Int64) (book : RequestBook) :
    Except LedgerError String × RequestBook :=
  if kind.isIncoming then
    let (result, book) :=
      fund resolve tx.hash (creditOf amount) (tx.outputs.filter view.isMine) book
    (result.map fun (addresses, texts) => incomingDescription addresses texts, book)
  else ((addressesOf resolve tx.outputs).map outgoingDescription, book)

/-- The payment that shows a transaction. A note in the memo takes the place of the description, and
only outgoing payments show fees. -/
def paymentOf (tx : LedgerTransaction) (amount : Int64) (kind : PaymentKind) (description : String)
    (addresses : List String) (memo : Memo) : TransactionPayment :=
  let depth := Confidence.confirmedDepth tx.confidence
  let classification := tx.confidence.map (·.classification)
  let note := memo.note.getD ""
  { hash := tx.hash
    date := tx.updateTime
    status := Status.ofLedger classification depth (Confidence.relayingPeers tx.confidence)
    amount
    fiat := memo.fiat
    miningFee := if kind.isOutgoing then memo.minerFee else none
    clientFee := if kind.isOutgoing then memo.clientFee else none
    classification
    kind
    description := if note = "" then description else note
    note
    isCoinbase := tx.isCoinbase
    outputAddresses := addresses
    rawTransaction := tx.raw.hex
    size := UInt64.ofNat tx.raw.length }

/-- Adapts a transaction. -/
def adapt (view : WalletView) (resolve : AddressResolver) (rate : Option ExchangeRate)
    (tx : LedgerTransaction) (books : Books) : Except LedgerError TransactionPayment × Books :=
  let amount := view.valueOf tx
  let kind := PaymentKind.ofLedger amount (Confidence.confirmedDepth tx.confidence)
  let ((memo, _), memos) := MemoBook.pin tx.hash amount rate books.memos
  let (described, requests) := describe view resolve tx kind amount books.requests
  let payment := do
    let description ← described
    let addresses ← addressesOf resolve tx.outputs
    return paymentOf tx amount kind description addresses memo
  (payment, { requests, memos })

/-- Adapts transactions one after another up to the first failure. -/
def adaptAll (view : WalletView) (resolve : AddressResolver) (rate : Option ExchangeRate) :
    List LedgerTransaction → Books → Except LedgerError (List TransactionPayment) × Books
  | [], books => (.ok [], books)
  | tx :: rest, books =>
    match adapt view resolve rate tx books with
    | (.error fault, books) => (.error fault, books)
    | (.ok payment, books) =>
      let (payments, books) := adaptAll view resolve rate rest books
      (payments.map (payment :: ·), books)

/-- Pins the value of a transaction seen on the network. Says whether this was its first sight. -/
def noteSeen (rate : Option ExchangeRate) (hash : String) (amount : Int64)
    (books : Books) : Bool × Books :=
  let ((_, isNew), memos) := MemoBook.pin hash amount rate books.memos
  (isNew, { books with memos })

end Books
end PaymentVault
