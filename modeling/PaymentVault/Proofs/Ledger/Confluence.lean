import PaymentVault.Proofs.Ledger.Adaptation

/-!
# Adapting transactions in any order

However often and in whatever order some transactions are adapted, each gives one payment or
one failure every time, and the books end up the same but for the order in which requests list
the transactions that fund them (`adaptEach_confluent`). It takes that equal hashes mean equal
transactions.
-/
namespace PaymentVault

namespace Books

variable (view : WalletView) (resolve : AddressResolver) (rate : Option ExchangeRate)

/-- Adapts transactions one after another, whether or not that succeeds. -/
def adaptEach : List LedgerTransaction → Books →
    List (Except LedgerError TransactionPayment) × Books
  | [], books => ([], books)
  | tx :: rest, books =>
    let (result, books) := adapt view resolve rate tx books
    let (results, books) := adaptEach rest books
    (result :: results, books)

/-- Equal hashes mean equal transactions. -/
def OnePerHash (txs : List LedgerTransaction) : Prop :=
  ∀ a ∈ txs, ∀ b ∈ txs, a.hash = b.hash → a = b

variable (txs : List LedgerTransaction) (books : Books)

theorem adaptEach_cons_fst (tx : LedgerTransaction) :
    (adaptEach view resolve rate (tx :: txs) books).1 =
      (adapt view resolve rate tx books).1 ::
        (adaptEach view resolve rate txs (adapt view resolve rate tx books).2).1 := rfl

theorem adaptEach_cons_snd (tx : LedgerTransaction) :
    (adaptEach view resolve rate (tx :: txs) books).2 =
      (adaptEach view resolve rate txs (adapt view resolve rate tx books).2).2 := rfl

/-- Each transaction gives what it would have given at the start. -/
theorem adaptEach_fst {txs : List LedgerTransaction} (onePerHash : OnePerHash txs) :
    (adaptEach view resolve rate txs books).1 =
      txs.map fun tx => (adapt view resolve rate tx books).1 := by
  induction txs generalizing books with
  | nil => rfl
  | cons tx rest ih =>
    have fewer : OnePerHash rest := by
      intro a memberA b memberB
      exact onePerHash a (List.mem_cons_of_mem tx memberA) b (List.mem_cons_of_mem tx memberB)
    rw [adaptEach_cons_fst, ih _ fewer, List.map_cons]
    congr 1
    apply List.map_congr_left
    intro later member
    apply adapt_adapt_fst
    exact onePerHash tx List.mem_cons_self later (List.mem_cons_of_mem tx member)

/-- Requests are credited with what each transaction pays. -/
theorem get?_adaptEach (address : String) :
    (adaptEach view resolve rate txs books).2.requests.get? address =
      (books.requests.get? address).map
        (·.creditedWith (txs.flatMap fun tx => creditsOf view resolve tx address)) := by
  induction txs generalizing books with
  | nil => simp [adaptEach]
  | cons tx rest ih =>
    rw [adaptEach_cons_snd, ih, get?_adapt, Option.map_map]
    simp [Function.comp_def, PaymentRequest.creditedWith_append]

theorem lastDeleted_adaptEach :
    (adaptEach view resolve rate txs books).2.requests.lastDeleted =
      books.requests.lastDeleted := by
  induction txs generalizing books with
  | nil => rfl
  | cons tx rest ih => rw [adaptEach_cons_snd, ih, lastDeleted_adapt]

/-- A memo is added for the first transaction of each hash that has none. -/
theorem get?_memos_adaptEach (hash : String) :
    (adaptEach view resolve rate txs books).2.memos.get? hash =
      (books.memos.get? hash).or
        ((txs.find? fun tx => tx.hash == hash).map (newMemo view rate)) := by
  induction txs generalizing books with
  | nil => simp [adaptEach]
  | cons tx rest ih =>
    rw [adaptEach_cons_snd, ih, get?_memos_adapt]
    by_cases here : tx.hash = hash
    · simp [here]
    · simp [here]

/-- Every transaction that was adapted is booked. -/
theorem hasBooked_adaptEach {txs : List LedgerTransaction} {tx : LedgerTransaction}
    (member : tx ∈ txs) (books : Books) :
    HasBooked view resolve tx (adaptEach view resolve rate txs books).2 := by
  have kept (later : List LedgerTransaction) {books : Books}
      (booked : HasBooked view resolve tx books) :
      HasBooked view resolve tx (adaptEach view resolve rate later books).2 := by
    induction later generalizing books with
    | nil => exact booked
    | cons next later ih =>
      rw [adaptEach_cons_snd]
      exact ih (booked.adapt view resolve rate next)
  induction txs generalizing books with
  | nil => exact absurd member List.not_mem_nil
  | cons next rest ih =>
    rw [adaptEach_cons_snd]
    rcases List.mem_cons.1 member with rfl | later
    · exact kept rest (hasBooked_adapt view resolve rate tx books)
    · exact ih later _

/-! ## Two orders -/

variable {txs others : List LedgerTransaction}

theorem OnePerHash.congr (onePerHash : OnePerHash txs) (same : ∀ tx, tx ∈ txs ↔ tx ∈ others) :
    OnePerHash others := by
  intro a memberA b memberB
  exact onePerHash a ((same a).2 memberA) b ((same b).2 memberB)

theorem OnePerHash.find?_eq_some_iff (onePerHash : OnePerHash txs) {hash : String}
    {tx : LedgerTransaction} :
    (txs.find? fun tx => tx.hash == hash) = some tx ↔ tx ∈ txs ∧ tx.hash = hash := by
  constructor
  · intro found
    have hashed := List.find?_some found
    exact ⟨List.mem_of_find?_eq_some found, by simpa using hashed⟩
  · rintro ⟨member, rfl⟩
    cases found : txs.find? fun other => other.hash == tx.hash with
    | none =>
      have unlike := List.find?_eq_none.1 found tx member
      simp at unlike
    | some other =>
      have hashed := List.find?_some found
      rw [onePerHash other (List.mem_of_find?_eq_some found) tx member (by simpa using hashed)]

/-- The transaction of a hash is the same in whichever order it is looked for. -/
theorem OnePerHash.find?_eq (onePerHash : OnePerHash txs)
    (same : ∀ tx, tx ∈ txs ↔ tx ∈ others) (hash : String) :
    (txs.find? fun tx => tx.hash == hash) = others.find? fun tx => tx.hash == hash := by
  ext tx
  rw [onePerHash.find?_eq_some_iff, (onePerHash.congr same).find?_eq_some_iff, same]

/-- The credits of one transaction per hash are one per hash. -/
theorem OnePerHash.consistent (onePerHash : OnePerHash txs) (address : String) :
    Credit.Consistent (txs.flatMap fun tx => creditsOf view resolve tx address) := by
  intro a memberA b memberB equal
  obtain ⟨txA, thereA, inA⟩ := List.mem_flatMap.1 memberA
  obtain ⟨txB, thereB, inB⟩ := List.mem_flatMap.1 memberB
  have shapeA := eq_of_mem_creditsOf view resolve inA
  have shapeB := eq_of_mem_creditsOf view resolve inB
  subst shapeA
  subst shapeB
  rw [onePerHash txA thereA txB thereB equal]

/-- Of two runs over the same transactions, in any orders and with any repetitions: each
transaction gives every time what it gives at the start, the memos agree, the requests agree but
for the order of the transactions they list, and to adapt any of the transactions again changes
nothing. -/
theorem adaptEach_confluent (onePerHash : OnePerHash txs)
    (same : ∀ tx, tx ∈ txs ↔ tx ∈ others) :
    (adaptEach view resolve rate txs books).1 =
        txs.map (fun tx => (adapt view resolve rate tx books).1) ∧
      (adaptEach view resolve rate others books).1 =
        others.map (fun tx => (adapt view resolve rate tx books).1) ∧
      (∀ hash, (adaptEach view resolve rate txs books).2.memos.get? hash =
        (adaptEach view resolve rate others books).2.memos.get? hash) ∧
      (∀ address, Option.Rel PaymentRequest.Agrees
        ((adaptEach view resolve rate txs books).2.requests.get? address)
        ((adaptEach view resolve rate others books).2.requests.get? address)) ∧
      (adaptEach view resolve rate txs books).2.requests.lastDeleted =
        (adaptEach view resolve rate others books).2.requests.lastDeleted ∧
      ∀ tx ∈ txs, (adapt view resolve rate tx (adaptEach view resolve rate txs books).2).2 =
        (adaptEach view resolve rate txs books).2 := by
  refine ⟨?_, ?_, ?_, ?_, ?_, ?_⟩
  · exact adaptEach_fst view resolve rate books onePerHash
  · exact adaptEach_fst view resolve rate books (onePerHash.congr same)
  · intro hash
    rw [get?_memos_adaptEach, get?_memos_adaptEach, onePerHash.find?_eq same]
  · intro address
    have credits (credit : Credit) :
        (credit ∈ txs.flatMap fun tx => creditsOf view resolve tx address) ↔
          credit ∈ others.flatMap fun tx => creditsOf view resolve tx address := by
      simp only [List.mem_flatMap, same]
    rw [get?_adaptEach, get?_adaptEach]
    cases books.requests.get? address with
    | none => exact .none
    | some r =>
      apply Option.Rel.some
      exact r.creditedWith_agrees credits (onePerHash.consistent view resolve address)
  · rw [lastDeleted_adaptEach, lastDeleted_adaptEach]
  · intro tx member
    exact (hasBooked_adaptEach view resolve rate member books).adapt_eq view resolve rate

/-! ## An instance -/

/-- A payment with two outputs to one address. -/
def coffee : LedgerTransaction where
  hash := "coffee"
  updateTime := .epoch
  confidence := none
  outputs := [⟨4, [109]⟩, ⟨3, [109]⟩]
  isCoinbase := false
  raw := []

/-- A payment to the same address, with a further output that cannot be resolved. -/
def rent : LedgerTransaction where
  hash := "rent"
  updateTime := .epoch
  confidence := none
  outputs := [⟨9, [109]⟩, ⟨1, []⟩]
  isCoinbase := false
  raw := []

def sampleView : WalletView where
  transactions := [coffee, rent]
  valueOf tx := if tx.hash = "coffee" then 7 else 10
  isMine _ := true

/-- Books with a request that asks for more than is left to the largest word. -/
def sampleBooks : Books :=
  { requests := RequestBook.empty.insert
      { address := "m"
        amount := 18446744073709551615
        paidAmount := 18446744073709551603
        label := some "Bill"
        date := .epoch } }

theorem adaptEach_confluent_sample :
    OnePerHash [coffee, rent, coffee] ∧
      (∀ tx, tx ∈ [coffee, rent, coffee] ↔ tx ∈ [rent, coffee]) ∧
      Option.Rel PaymentRequest.Agrees
        ((adaptEach sampleView .spelled none [coffee, rent, coffee] sampleBooks).2.requests.get? "m")
        ((adaptEach sampleView .spelled none [rent, coffee] sampleBooks).2.requests.get? "m") ∧
      ((adaptEach sampleView .spelled none [rent, coffee] sampleBooks).2.requests.get? "m").map
        (fun r => (r.fundingHashes, r.paidAmount)) =
          some (["rent", "coffee"], 18446744073709551615) := by
  have onePerHash : OnePerHash [coffee, rent, coffee] := by
    unfold OnePerHash
    decide
  have same (tx : LedgerTransaction) : tx ∈ [coffee, rent, coffee] ↔ tx ∈ [rent, coffee] := by
    simp only [List.mem_cons, List.not_mem_nil, or_false]
    constructor
    · rintro (first | second | third)
      · exact .inr first
      · exact .inl second
      · exact .inr third
    · rintro (first | second)
      · exact .inr (.inl first)
      · exact .inl second
  obtain ⟨-, -, -, requests, -⟩ :=
    adaptEach_confluent sampleView .spelled none sampleBooks onePerHash same
  exact ⟨onePerHash, same, requests "m", by rfl⟩

end Books
end PaymentVault
