import PaymentVault.Ledger.Adaptation
import PaymentVault.Proofs.Ledger.Credits
import PaymentVault.Proofs.Register

/-!
# What adapting a transaction does

Adapting a transaction credits the requests at the addresses of the wallet's own outputs, up to
the first output that cannot be resolved, and adds a memo if there is none (`get?_adapt`,
`get?_memos_adapt`). The payment that is given depends on the memo and on texts of requests, and
adapting other transactions changes neither (`adapt_adapt_fst`). Once that is done, adapting the
transaction again changes nothing (`HasBooked.adapt_eq`).
-/
namespace PaymentVault

namespace MemoBook

/-- The memo that pins a value: the one there is, or else a new one. -/
theorem pin_fst (hash : String) (amount : Int64) (rate : Option ExchangeRate) (book : MemoBook) :
    (pin hash amount rate book).1.1 =
      (book.get? hash).getD { hash, fiat := FiatValue.ofAmount amount rate } := by
  unfold pin insertIfAbsent
  cases found : book.get? hash <;> simp

theorem pin_of_isSome {hash : String} (amount : Int64) (rate : Option ExchangeRate)
    {book : MemoBook} (there : (book.get? hash).isSome) : (pin hash amount rate book).2 = book := by
  obtain ⟨memo, found⟩ := Option.isSome_iff_exists.1 there
  simp [pin, insertIfAbsent, found]

end MemoBook

namespace RequestBook

theorem ext_of_entries {a b : RequestBook} (entries : a.entries = b.entries)
    (lastDeleted : a.lastDeleted = b.lastDeleted) : a = b := by
  obtain ⟨requests, slot⟩ := a
  obtain ⟨others, otherSlot⟩ := b
  obtain rfl : requests = others := Register.ext_entries entries
  obtain rfl : slot = otherSlot := lastDeleted
  rfl

/-- A transaction that is listed already is not counted again. -/
theorem recordFunding_eq_self {address hash : String} (value : UInt64) {book : RequestBook}
    (listed : ∀ r, book.get? address = some r → hash ∈ r.fundingHashes) :
    (book.recordFunding address hash value).2 = book := by
  have requests : book.requests.modify address (PaymentRequest.fundedBy hash value)
      (PaymentRequest.address_fundedBy hash value) = book.requests := by
    apply Register.modify_eq_self
    intro r found
    exact PaymentRequest.fundedBy_of_mem value (listed r found)
  simp only [recordFunding, requests]

end RequestBook

namespace Books

theorem ext_of_parts {a b : Books} (requests : a.requests = b.requests) (memos : a.memos = b.memos) :
    a = b := by
  cases a
  cases b
  simp_all

variable (view : WalletView) (resolve : AddressResolver) (rate : Option ExchangeRate)

/-- The addresses that outputs pay, up to the first output that cannot be resolved. -/
def paidAddresses : List TxOutput → List String
  | [] => []
  | output :: rest =>
    match resolve output.script with
    | .error _ => []
    | .ok address => address :: paidAddresses rest

/-- What adapting a transaction credits to the request at an address: its net value for each own
output that pays it, and nothing if the net value is negative. -/
def creditsOf (tx : LedgerTransaction) (address : String) : List Credit :=
  if view.valueOf tx < 0 then []
  else
    ((paidAddresses resolve (tx.outputs.filter view.isMine)).filter fun paid =>
      paid == address).map fun _ => ⟨tx.hash, creditOf (view.valueOf tx)⟩

/-- The value that counts is the net value, and none if that is negative. -/
theorem toNat_creditOf (amount : Int64) : (creditOf amount).toNat = amount.toInt.toNat := by
  have bound := Int64.toInt_lt amount
  rw [creditOf, UInt64.toNat_ofNat']
  omega

theorem eq_of_mem_creditsOf {tx : LedgerTransaction} {address : String} {credit : Credit}
    (member : credit ∈ creditsOf view resolve tx address) :
    credit = ⟨tx.hash, creditOf (view.valueOf tx)⟩ := by
  unfold creditsOf at member
  split at member
  · exact absurd member List.not_mem_nil
  · obtain ⟨_, -, rfl⟩ := List.mem_map.1 member
    rfl

/-! ## Requests -/

section fund

variable (hash : String) (value : UInt64) (outputs : List TxOutput) (book : RequestBook)

theorem get?_fund (address : String) :
    (fund resolve hash value outputs book).2.get? address =
      (book.get? address).map (·.creditedWith
        (((paidAddresses resolve outputs).filter fun paid => paid == address).map
          fun _ => ⟨hash, value⟩)) := by
  induction outputs generalizing book with
  | nil => simp [fund, paidAddresses]
  | cons output rest ih =>
    cases resolved : resolve output.script with
    | error cause => simp [fund, paidAddresses, resolved]
    | ok paid =>
      simp only [fund, paidAddresses, resolved, ih, RequestBook.get?_recordFunding]
      by_cases here : paid = address
      · simp [here, PaymentRequest.creditedWith_cons, Function.comp_def]
      · simp [here]

@[simp] theorem lastDeleted_fund :
    (fund resolve hash value outputs book).2.lastDeleted = book.lastDeleted := by
  induction outputs generalizing book with
  | nil => rfl
  | cons output rest ih =>
    cases resolved : resolve output.script with
    | error cause => simp [fund, resolved]
    | ok paid => simp [fund, resolved, ih]

/-- Outputs whose requests list the transaction already change nothing. -/
theorem fund_eq_self {hash : String} (value : UInt64) {outputs : List TxOutput} {book : RequestBook}
    (listed : ∀ address ∈ paidAddresses resolve outputs, ∀ r, book.get? address = some r →
      hash ∈ r.fundingHashes) :
    (fund resolve hash value outputs book).2 = book := by
  induction outputs with
  | nil => rfl
  | cons output rest ih =>
    cases resolved : resolve output.script with
    | error cause => simp [fund, resolved]
    | ok paid =>
      simp only [paidAddresses, resolved, List.mem_cons, forall_eq_or_imp] at listed
      simp only [fund, resolved, RequestBook.recordFunding_eq_self value listed.1]
      exact ih listed.2

theorem requestTexts_fundedBy (r : PaymentRequest) :
    requestTexts (r.fundedBy hash value) = requestTexts r := by
  simp [requestTexts]

theorem requestTexts_creditedWith (credits : List Credit) (r : PaymentRequest) :
    requestTexts (r.creditedWith credits) = requestTexts r := by
  induction credits generalizing r with
  | nil => rfl
  | cons credit credits ih => rw [PaymentRequest.creditedWith_cons, ih, requestTexts_fundedBy]

/-- The requests at every address have the same texts in both books. -/
def SameTexts (a b : RequestBook) : Prop :=
  ∀ address, (a.get? address).map requestTexts = (b.get? address).map requestTexts

variable {book} {other : RequestBook}

theorem SameTexts.recordFunding (same : SameTexts book other) (address : String) :
    SameTexts (book.recordFunding address hash value).2
      (other.recordFunding address hash value).2 := by
  intro place
  rw [RequestBook.get?_recordFunding, RequestBook.get?_recordFunding]
  by_cases here : address = place
  · simpa [here, Option.map_map, Function.comp_def, requestTexts_fundedBy] using same place
  · simpa [here] using same place

/-- What funding gives depends on the texts of requests. -/
theorem fund_fst_congr (same : SameTexts book other) :
    (fund resolve hash value outputs book).1 = (fund resolve hash value outputs other).1 := by
  induction outputs generalizing book other with
  | nil => rfl
  | cons output rest ih =>
    cases resolved : resolve output.script with
    | error cause => simp [fund, resolved]
    | ok paid =>
      have texts (b : RequestBook) :
          (b.recordFunding paid hash value).1.toList.flatMap requestTexts =
            ((b.get? paid).map requestTexts).getD [] := by
        rw [RequestBook.recordFunding_fst]
        cases b.get? paid <;> simp [requestTexts_fundedBy]
      simp only [fund, resolved, texts, same paid, ih (same.recordFunding hash value paid)]

end fund

variable (tx : LedgerTransaction) (books : Books)

/-- The kind that a transaction has for the wallet. -/
def kindOf : PaymentKind :=
  .ofLedger (view.valueOf tx) (Confidence.confirmedDepth tx.confidence)

theorem isIncoming_kindOf : (kindOf view tx).isIncoming = !decide (view.valueOf tx < 0) := by
  rw [kindOf, PaymentKind.isIncoming_ofLedger, PaymentKind.isOutgoing_ofLedger]

theorem requests_adapt : (adapt view resolve rate tx books).2.requests =
    (describe view resolve tx (kindOf view tx) (view.valueOf tx) books.requests).2 := rfl

/-- Adapting a transaction credits the requests that it pays. -/
theorem get?_adapt (address : String) :
    (adapt view resolve rate tx books).2.requests.get? address =
      (books.requests.get? address).map (·.creditedWith (creditsOf view resolve tx address)) := by
  rw [requests_adapt, describe, isIncoming_kindOf, creditsOf]
  by_cases outgoing : view.valueOf tx < 0
  · simp [outgoing]
  · simp [outgoing, get?_fund]

@[simp] theorem lastDeleted_adapt :
    (adapt view resolve rate tx books).2.requests.lastDeleted = books.requests.lastDeleted := by
  rw [requests_adapt, describe]
  split
  · exact lastDeleted_fund resolve _ _ _ _
  · rfl

/-! ## Memos -/

/-- The memo that a transaction gets if it has none. -/
def newMemo : Memo := { hash := tx.hash, fiat := FiatValue.ofAmount (view.valueOf tx) rate }

theorem memos_adapt : (adapt view resolve rate tx books).2.memos =
    (MemoBook.pin tx.hash (view.valueOf tx) rate books.memos).2 := rfl

/-- Adapting a transaction adds its memo if there is none. -/
theorem get?_memos_adapt (hash : String) :
    (adapt view resolve rate tx books).2.memos.get? hash =
      (books.memos.get? hash).or
        (if tx.hash = hash then some (newMemo view rate tx) else none) := by
  rw [memos_adapt]
  exact MemoBook.get?_insertIfAbsent (newMemo view rate tx) books.memos hash

/-! ## The payment that is given -/

variable {resolve} in
theorem addressesOf_cons_eq_ok_iff {output : TxOutput} {rest : List TxOutput}
    {addresses : List String} :
    addressesOf resolve (output :: rest) = .ok addresses ↔ ∃ address others,
      resolve output.script = .ok address ∧ addressesOf resolve rest = .ok others ∧
        address :: others = addresses := by
  cases resolved : resolve output.script with
  | error cause => simp [addressesOf, resolved, bind, Except.bind]
  | ok address =>
    cases found : addressesOf resolve rest with
    | error cause => simp [addressesOf, resolved, found, bind, Except.bind]
    | ok others => simp [addressesOf, resolved, found, bind, Except.bind, pure, Except.pure]

variable {resolve} in
/-- There is an address for each output, the one that its script resolves to. -/
theorem addressesOf_eq_ok_iff {outputs : List TxOutput} {addresses : List String} :
    addressesOf resolve outputs = .ok addresses ↔
      outputs.map (fun output => resolve output.script) = addresses.map .ok := by
  induction outputs generalizing addresses with
  | nil => cases addresses <;> simp [addressesOf]
  | cons output rest ih =>
    rw [addressesOf_cons_eq_ok_iff]
    cases addresses <;> simp [ih]

theorem adapt_fst : (adapt view resolve rate tx books).1 = (do
    let description ←
      (describe view resolve tx (kindOf view tx) (view.valueOf tx) books.requests).1
    let addresses ← addressesOf resolve tx.outputs
    return paymentOf tx (view.valueOf tx) (kindOf view tx) description addresses
      ((books.memos.get? tx.hash).getD (newMemo view rate tx))) := by
  have memo := MemoBook.pin_fst tx.hash (view.valueOf tx) rate books.memos
  simp only [newMemo, ← memo]
  rfl

/-- Adapting a transaction succeeds if it can be described and all its addresses are found. -/
theorem adapt_fst_eq_ok_iff {tx : LedgerTransaction} {books : Books}
    {payment : TransactionPayment} :
    (adapt view resolve rate tx books).1 = .ok payment ↔ ∃ description addresses,
      (describe view resolve tx (kindOf view tx) (view.valueOf tx) books.requests).1 =
          .ok description ∧
        addressesOf resolve tx.outputs = .ok addresses ∧
        paymentOf tx (view.valueOf tx) (kindOf view tx) description addresses
          ((books.memos.get? tx.hash).getD (newMemo view rate tx)) = payment := by
  rw [adapt_fst]
  cases (describe view resolve tx (kindOf view tx) (view.valueOf tx) books.requests).1 with
  | error cause => simp [bind, Except.bind]
  | ok description =>
    cases addressesOf resolve tx.outputs with
    | error cause => simp [bind, Except.bind]
    | ok addresses => simp [bind, Except.bind, pure, Except.pure]

variable {rate} in
/-- The payment depends on the memo and on the texts of requests, and on the rate only if there is
no memo. -/
theorem adapt_fst_congr {rate' : Option ExchangeRate} {tx : LedgerTransaction} {books other : Books}
    (memo : (books.memos.get? tx.hash).getD (newMemo view rate tx) =
      (other.memos.get? tx.hash).getD (newMemo view rate' tx))
    (texts : SameTexts books.requests other.requests) :
    (adapt view resolve rate tx books).1 = (adapt view resolve rate' tx other).1 := by
  have described : (describe view resolve tx (kindOf view tx) (view.valueOf tx) books.requests).1 =
      (describe view resolve tx (kindOf view tx) (view.valueOf tx) other.requests).1 := by
    unfold describe
    split
    · simp only [fund_fst_congr resolve tx.hash _ _ texts]
    · rfl
  rw [adapt_fst, adapt_fst, memo, described]

/-- Adapting a transaction gives what it would have given before another one, and before itself. -/
theorem adapt_adapt_fst {earlier tx : LedgerTransaction}
    (same : earlier.hash = tx.hash → earlier = tx) (books : Books) :
    (adapt view resolve rate tx (adapt view resolve rate earlier books).2).1 =
      (adapt view resolve rate tx books).1 := by
  apply adapt_fst_congr
  · rw [get?_memos_adapt]
    by_cases again : earlier.hash = tx.hash
    · rw [if_pos again, same again]
      cases books.memos.get? tx.hash <;> simp
    · simp [again]
  · intro address
    rw [get?_adapt, Option.map_map]
    simp [Function.comp_def, requestTexts_creditedWith]

/-! ## Adapting again -/

/-- A transaction has its memo and is listed by the requests that it pays. -/
structure HasBooked : Prop where
  memo : (books.memos.get? tx.hash).isSome
  listed : ∀ address, ∀ credit ∈ creditsOf view resolve tx address, ∀ r,
    books.requests.get? address = some r → credit.hash ∈ r.fundingHashes

variable {tx books}

theorem hasBooked_adapt (tx : LedgerTransaction) (books : Books) :
    HasBooked view resolve tx (adapt view resolve rate tx books).2 := by
  constructor
  · rw [get?_memos_adapt]
    simp
  · intro address credit member r found
    rw [get?_adapt] at found
    obtain ⟨before, -, rfl⟩ := Option.map_eq_some_iff.1 found
    rw [PaymentRequest.fundingHashes_creditedWith, List.mem_append, Credit.mem_newHashes]
    by_cases listed : credit.hash ∈ before.fundingHashes
    · exact .inl listed
    · exact .inr ⟨listed, credit, member, rfl⟩

/-- What was booked stays booked. -/
theorem HasBooked.adapt (booked : HasBooked view resolve tx books) (later : LedgerTransaction) :
    HasBooked view resolve tx (Books.adapt view resolve rate later books).2 := by
  constructor
  · rw [get?_memos_adapt]
    simp [booked.memo]
  · intro address credit member r found
    rw [get?_adapt] at found
    obtain ⟨before, there, rfl⟩ := Option.map_eq_some_iff.1 found
    rw [PaymentRequest.fundingHashes_creditedWith, List.mem_append]
    exact .inl (booked.listed address credit member before there)

/-- Adapting a transaction that was booked changes nothing. -/
theorem HasBooked.adapt_eq (booked : HasBooked view resolve tx books) :
    (Books.adapt view resolve rate tx books).2 = books := by
  have requests : (Books.adapt view resolve rate tx books).2.requests = books.requests := by
    rw [requests_adapt, describe, isIncoming_kindOf]
    by_cases outgoing : view.valueOf tx < 0
    · simp [outgoing]
    · have listed : ∀ address ∈ paidAddresses resolve (tx.outputs.filter view.isMine),
          ∀ r, books.requests.get? address = some r → tx.hash ∈ r.fundingHashes := by
        intro address paid r found
        refine booked.listed address ⟨tx.hash, creditOf (view.valueOf tx)⟩ ?_ r found
        simp [creditsOf, outgoing, paid]
      simp [outgoing, fund_eq_self resolve _ listed]
  have memos : (Books.adapt view resolve rate tx books).2.memos = books.memos := by
    rw [memos_adapt]
    exact MemoBook.pin_of_isSome _ rate booked.memo
  exact ext_of_parts requests memos

end Books
end PaymentVault
