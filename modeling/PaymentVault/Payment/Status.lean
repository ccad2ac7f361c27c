/-!
# Status and kind of a payment

Both follow from what the ledger believes about a transaction: whether it is in a block, how
deep, and how many peers passed it on. A depth counts only for confirmed transactions.
-/
namespace PaymentVault

/-- What the ledger believes about a transaction. -/
inductive Classification where
  | confirmed
  | pending
  | dead
  | unknown
  deriving DecidableEq

/-- A transaction's standing at one moment. -/
structure Confidence where
  classification : Classification
  depth : UInt32
  peers : UInt32
  deriving DecidableEq

namespace Confidence

/-- The depth in blocks, zero unless confirmed. -/
def confirmedDepth : Option Confidence → UInt32
  | some ⟨.confirmed, depth, _⟩ => depth
  | _ => 0

/-- The number of peers that passed the transaction on. -/
def relayingPeers : Option Confidence → UInt32
  | some confidence => confidence.peers
  | none => 0

end Confidence

/-- How much a payment is to be worried about. -/
inductive Severity where
  | red
  | amber
  | green
  deriving DecidableEq

/-- The reason for a severity. -/
inductive StatusReason where
  | oneBlock
  | severalBlocks
  | broadcast
  | notBroadcast
  | dead
  | unknown
  | requested
  | partPaid
  deriving DecidableEq

/-- A severity, its reason, a number that belongs to the reason, and the depth in blocks. -/
structure Status where
  severity : Severity
  reason : StatusReason
  context : Option UInt32 := none
  depth : UInt32 := 0
  deriving DecidableEq

namespace Status

/-- The status of a transaction. -/
def ofLedger (classification : Option Classification) (depth peers : UInt32) : Status :=
  match classification with
  | some .confirmed =>
    if depth = 1 then { severity := .green, reason := .oneBlock, depth }
    else { severity := .green, reason := .severalBlocks, context := some depth, depth }
  | some .pending =>
    if peers = 0 then { severity := .red, reason := .notBroadcast }
    else { severity := .amber, reason := .broadcast, context := some peers }
  | some .dead => { severity := .red, reason := .dead }
  | some .unknown | none => { severity := .amber, reason := .unknown }

end Status

/-- Direction and progress of a payment. -/
inductive PaymentKind where
  | sending
  | sent
  | receiving
  | received
  | requested
  | partPaid
  deriving DecidableEq

namespace PaymentKind

def isOutgoing : PaymentKind → Bool
  | sending | sent => true
  | _ => false

def isIncoming : PaymentKind → Bool
  | receiving | received => true
  | _ => false

/-- The kind of a transaction of this net value and depth. -/
def ofLedger (value : Int64) (depth : UInt32) : PaymentKind :=
  if value < 0 then (if depth = 0 then sending else sent)
  else if depth = 0 then receiving
  else received

theorem isIncoming_ofLedger (value : Int64) (depth : UInt32) :
    (ofLedger value depth).isIncoming = !(ofLedger value depth).isOutgoing := by
  unfold ofLedger
  split <;> split <;> rfl

theorem isOutgoing_ofLedger (value : Int64) (depth : UInt32) :
    (ofLedger value depth).isOutgoing = decide (value < 0) := by
  unfold ofLedger
  by_cases h : value < 0 <;> by_cases d : depth = 0 <;> simp [h, d, isOutgoing]

end PaymentKind
end PaymentVault
