import PaymentVault.Number.Decimal.Form
import PaymentVault.Payment.Basic
import PaymentVault.Time.Form

/-!
# Payments in JSON

The members of each record and the names of each alternative. Members that may be absent are
`null` when they are, and may be left out of a text that is read.
-/
namespace PaymentVault

open Json Json.Format

/-! ## Names -/

namespace Classification

def form : Format Classification :=
  named [(confirmed, "Confirmed"), (pending, "Pending"), (dead, "Dead"), (unknown, "Unknown")]

end Classification

namespace Severity

def form : Format Severity := named [(red, "Red"), (amber, "Amber"), (green, "Green")]

end Severity

namespace StatusReason

def form : Format StatusReason :=
  named
    [(oneBlock, "ConfirmedByOneBlock"), (severalBlocks, "ConfirmedBySeveralBlocks"),
      (broadcast, "Broadcast"), (notBroadcast, "NotBroadcast"), (dead, "Dead"),
      (unknown, "Unknown"), (requested, "PaymentRequested"), (partPaid, "PaymentPartPaid")]

end StatusReason

namespace PaymentKind

def form : Format PaymentKind :=
  named
    [(sending, "Sending"), (sent, "Sent"), (receiving, "Receiving"), (received, "Received"),
      (requested, "Requested"), (partPaid, "PartPaid")]

end PaymentKind

/-! ## Records -/

namespace Status

def form : Format Status :=
  (Members.required "rag" Severity.form <|
    .required "key" StatusReason.form <|
    .nullable "context" uint32 <|
    .required "depth" uint32 .done).format.imap
    (fun (severity, reason, context, depth, _) => { severity, reason, context, depth })
    (fun s => (s.severity, s.reason, s.context, s.depth, ()))

end Status

namespace FiatValue

def form : Format FiatValue :=
  (Members.nullable "exchange_name" string <|
    .nullable "rate" decimal <|
    .nullable "currency" string <|
    .nullable "amount" decimal .done).format.imap
    (fun (exchangeName, rate, currency, amount, _) => { exchangeName, rate, currency, amount })
    (fun v => (v.exchangeName, v.rate, v.currency, v.amount, ()))

end FiatValue

namespace PaymentRequest

def form : Format PaymentRequest :=
  (Members.required "address" string <|
    .required "amount" uint64 <|
    .required "paid_amount" uint64 <|
    .nullable "label" string <|
    .nullable "note" string <|
    .required "date" instant <|
    .required "amount_fiat" FiatValue.form <|
    .required "paying_transaction_hashes" string.list .done).format.imap
    (fun (address, amount, paidAmount, label, note, date, fiat, fundingHashes, _) =>
      { address, amount, paidAmount, label, note, date, fiat, fundingHashes })
    (fun r =>
      (r.address, r.amount, r.paidAmount, r.label, r.note, r.date, r.fiat, r.fundingHashes, ()))

end PaymentRequest

namespace Memo

def form : Format Memo :=
  (Members.required "hash" string <|
    .nullable "note" string <|
    .required "amount_fiat" FiatValue.form <|
    .nullable "miner_fee" uint64 <|
    .nullable "client_fee" uint64 .done).format.imap
    (fun (hash, note, fiat, minerFee, clientFee, _) => { hash, note, fiat, minerFee, clientFee })
    (fun a => (a.hash, a.note, a.fiat, a.minerFee, a.clientFee, ()))

end Memo

namespace TransactionPayment

def form : Format TransactionPayment :=
  (Members.required "hash" string <|
    .required "date" instant <|
    .required "status" Status.form <|
    .required "amount" int64 <|
    .required "amount_fiat" FiatValue.form <|
    .nullable "mining_fee" uint64 <|
    .nullable "client_fee" uint64 <|
    .nullable "classification" Classification.form <|
    .required "payment_type" PaymentKind.form <|
    .required "description" string <|
    .required "note" string <|
    .required "is_coinbase" bool <|
    .required "output_addresses" string.list <|
    .required "raw_transaction" string <|
    .required "size" uint64 .done).format.imap
    (fun (hash, date, status, amount, fiat, miningFee, clientFee, classification, kind,
        description, note, isCoinbase, outputAddresses, rawTransaction, size, _) =>
      { hash, date, status, amount, fiat, miningFee, clientFee, classification, kind,
        description, note, isCoinbase, outputAddresses, rawTransaction, size })
    (fun t =>
      (t.hash, t.date, t.status, t.amount, t.fiat, t.miningFee, t.clientFee,
        t.classification, t.kind, t.description, t.note, t.isCoinbase, t.outputAddresses,
        t.rawTransaction, t.size, ()))

end TransactionPayment

namespace Payment

def form : Format Payment :=
  (either "Request" PaymentRequest.form "Transaction" TransactionPayment.form).imap
    (fun entry => entry.elim .request .transaction)
    (fun
      | request r => .inl r
      | transaction t => .inr t)

end Payment
end PaymentVault
