import PaymentVault.Proofs.Ledger.Repetition

/-!
# All that adapting a transaction changes

Adapting a transaction may fail half-way, and what was counted by then stays counted. What it
changes is told here entry by entry, whether or not it fails (`adapt_effect`). At most the memo of
the transaction is added. Of the requests only those change that an own output pays before the
first one that cannot be resolved. So a failure does no harm: once every script can be resolved,
adapting gives what it would have given without the attempt that failed.
-/
namespace PaymentVault.Books

variable {view : WalletView} {resolve later : AddressResolver} {rate : Option ExchangeRate}
  {tx : LedgerTransaction} {books : Books}

variable (view resolve tx) in
/-- An own output pays the address; it and all own outputs before it can be resolved. -/
def Reaches (address : String) : Prop :=
  ∃ before output after, tx.outputs.filter view.isMine = before ++ output :: after ∧
    (∀ earlier ∈ before, ∃ paid, resolve earlier.script = .ok paid) ∧
    resolve output.script = .ok address

variable (view resolve tx) in
/-- A request before and after a transaction is adapted. The transaction is counted if its net
value is not negative, it reaches the address and it is not listed yet. -/
inductive Counts : PaymentRequest → PaymentRequest → Prop
  | counted {r : PaymentRequest} {paid : UInt64} (incoming : 0 ≤ view.valueOf tx)
    (reached : Reaches view resolve tx r.address) (unlisted : tx.hash ∉ r.fundingHashes)
    (sum : paid.toNat =
      min (2 ^ 64 - 1) (r.paidAmount.toNat + (view.valueOf tx).toInt.toNat)) :
    Counts r { r with fundingHashes := r.fundingHashes ++ [tx.hash], paidAmount := paid }
  | passed {r : PaymentRequest}
    (apart : view.valueOf tx < 0 ∨ ¬Reaches view resolve tx r.address ∨
      tx.hash ∈ r.fundingHashes) : Counts r r

/-! ## Which requests change -/

theorem mem_paidAddresses_iff {outputs : List TxOutput} {address : String} :
    address ∈ paidAddresses resolve outputs ↔
      ∃ before output after, outputs = before ++ output :: after ∧
        (∀ earlier ∈ before, ∃ paid, resolve earlier.script = .ok paid) ∧
        resolve output.script = .ok address := by
  constructor
  · intro member
    induction outputs with
    | nil => exact absurd member List.not_mem_nil
    | cons output rest ih =>
      cases resolved : resolve output.script with
      | error cause => simp [paidAddresses, resolved] at member
      | ok paid =>
        rw [paidAddresses, resolved] at member
        rcases List.mem_cons.1 member with rfl | there
        · exact ⟨[], output, rest, rfl, by simp, resolved⟩
        · obtain ⟨before, last, after, rfl, resolvable, pays⟩ := ih there
          refine ⟨output :: before, last, after, rfl, ?_, pays⟩
          exact List.forall_mem_cons.2 ⟨⟨paid, resolved⟩, resolvable⟩
  · rintro ⟨before, output, after, rfl, resolvable, pays⟩
    induction before with
    | nil => simp [paidAddresses, pays]
    | cons first before ih =>
      obtain ⟨⟨paid, resolved⟩, others⟩ := List.forall_mem_cons.1 resolvable
      rw [List.cons_append, paidAddresses, resolved]
      exact List.mem_cons_of_mem paid (ih others)

variable (view resolve tx) in
/-- A request with the transaction counted towards it, if it is paid by it. -/
def funded (r : PaymentRequest) : PaymentRequest :=
  if ¬view.valueOf tx < 0 ∧ r.address ∈ paidAddresses resolve (tx.outputs.filter view.isMine) then
    r.fundedBy tx.hash (creditOf (view.valueOf tx))
  else r

theorem entries_fund (hash : String) (value : UInt64) (outputs : List TxOutput)
    (book : RequestBook) :
    (fund resolve hash value outputs book).2.entries =
      book.entries.map fun r =>
        if r.address ∈ paidAddresses resolve outputs then r.fundedBy hash value else r := by
  induction outputs generalizing book with
  | nil => simp [fund, paidAddresses]
  | cons output rest ih =>
    cases resolved : resolve output.script with
    | error cause => simp [fund, paidAddresses, resolved]
    | ok paid =>
      have first : (book.recordFunding paid hash value).2.entries =
          book.entries.map fun r => if r.address = paid then r.fundedBy hash value else r := rfl
      simp only [fund, paidAddresses, resolved, ih, first, List.map_map, List.mem_cons]
      -- A request that several outputs pay gets the hash with the first of them, and no more later.
      apply List.map_congr_left
      intro r _
      by_cases here : r.address = paid
      · simp [here]
      · simp [here]

/-- Every request stays in its place, and it changes only if the transaction pays it. -/
theorem entries_adapt : (adapt view resolve rate tx books).2.requests.entries =
    books.requests.entries.map (funded view resolve tx) := by
  rw [requests_adapt, describe, isIncoming_kindOf]
  by_cases outgoing : view.valueOf tx < 0
  · have same : funded view resolve tx = id := by
      funext r
      simp [funded, outgoing]
    simp [outgoing, same]
  · simp [outgoing, funded, entries_fund]

theorem counts_funded (r : PaymentRequest) :
    Counts view resolve tx r (funded view resolve tx r) := by
  unfold funded
  split
  · next paid =>
    obtain ⟨incoming, member⟩ := paid
    by_cases listed : tx.hash ∈ r.fundingHashes
    · rw [PaymentRequest.fundedBy_of_mem _ listed]
      exact .passed (.inr (.inr listed))
    · rw [PaymentRequest.fundedBy, if_neg listed]
      refine .counted ?_ (mem_paidAddresses_iff.1 member) listed ?_
      · rwa [Int64.not_lt] at incoming
      · rw [toNat_saturatingAdd, toNat_creditOf]
  · next unpaid =>
    rw [not_and_or, not_not] at unpaid
    refine .passed (unpaid.imp_right fun missed => .inl ?_)
    exact fun reached => missed (mem_paidAddresses_iff.2 reached)

/-! ## Whether it succeeds -/

theorem exists_addressesOf_iff {outputs : List TxOutput} :
    (∃ addresses, addressesOf resolve outputs = .ok addresses) ↔
      ∀ output ∈ outputs, ∃ address, resolve output.script = .ok address := by
  constructor
  · rintro ⟨addresses, found⟩
    exact exists_resolve_eq found
  · intro resolvable
    induction outputs with
    | nil => exact ⟨[], rfl⟩
    | cons output rest ih =>
      obtain ⟨⟨address, resolved⟩, others⟩ := List.forall_mem_cons.1 resolvable
      obtain ⟨addresses, found⟩ := ih others
      exact ⟨_, addressesOf_cons_eq_ok_iff.2 ⟨address, addresses, resolved, found, rfl⟩⟩

theorem exists_fund_eq_ok {outputs : List TxOutput}
    (resolvable : ∀ output ∈ outputs, ∃ address, resolve output.script = .ok address)
    (hash : String) (value : UInt64) (book : RequestBook) :
    ∃ found, (fund resolve hash value outputs book).1 = .ok found := by
  induction outputs generalizing book with
  | nil => exact ⟨([], []), rfl⟩
  | cons output rest ih =>
    obtain ⟨⟨address, resolved⟩, others⟩ := List.forall_mem_cons.1 resolvable
    obtain ⟨found, ok⟩ := ih others (book.recordFunding address hash value).2
    simp only [fund, resolved, ok]
    exact ⟨_, rfl⟩

/-- Adapting succeeds just if every script can be resolved, be the output own or not. -/
theorem exists_adapt_eq_ok_iff :
    (∃ payment, (adapt view resolve rate tx books).1 = .ok payment) ↔
      ∀ output ∈ tx.outputs, ∃ address, resolve output.script = .ok address := by
  constructor
  · rintro ⟨payment, adapted⟩
    obtain ⟨-, addresses, -, found, -⟩ := (adapt_fst_eq_ok_iff view resolve rate).1 adapted
    exact exists_resolve_eq found
  · intro resolvable
    obtain ⟨addresses, found⟩ := exists_addressesOf_iff.2 resolvable
    obtain ⟨description, described⟩ : ∃ description,
        (describe view resolve tx (kindOf view tx) (view.valueOf tx) books.requests).1 =
          .ok description := by
      unfold describe
      split
      · have own : ∀ output ∈ tx.outputs.filter view.isMine,
            ∃ address, resolve output.script = .ok address :=
          fun output member => resolvable output (List.mem_of_mem_filter member)
        obtain ⟨paid, ok⟩ :=
          exists_fund_eq_ok own tx.hash (creditOf (view.valueOf tx)) books.requests
        dsimp only
        rw [ok]
        exact ⟨_, rfl⟩
      · rw [found]
        exact ⟨_, rfl⟩
    exact ⟨_, (adapt_fst_eq_ok_iff view resolve rate).2
      ⟨description, addresses, described, found, rfl⟩⟩

/-! ## Another attempt -/

/-- A request that was counted in an attempt is not counted again. -/
theorem funded_funded (resolvable : ∀ output ∈ tx.outputs, ∃ a, later output.script = .ok a)
    (agrees : ∀ output ∈ tx.outputs, ∀ address, resolve output.script = .ok address →
      later output.script = .ok address) (r : PaymentRequest) :
    funded view later tx (funded view resolve tx r) = funded view later tx r := by
  have reached (address : String)
      (paid : address ∈ paidAddresses resolve (tx.outputs.filter view.isMine)) :
      address ∈ paidAddresses later (tx.outputs.filter view.isMine) := by
    obtain ⟨before, output, after, outputs, -, pays⟩ := mem_paidAddresses_iff.1 paid
    have own : output ∈ tx.outputs.filter view.isMine := by simp [outputs]
    have there : output ∈ tx.outputs := List.mem_of_mem_filter own
    exact mem_paidAddresses (fun o member => resolvable o (List.mem_of_mem_filter member)) own
      (agrees output there address pays)
  unfold funded
  by_cases paid :
      ¬view.valueOf tx < 0 ∧ r.address ∈ paidAddresses resolve (tx.outputs.filter view.isMine)
  · simp [paid, reached r.address paid.2]
  · rw [if_neg paid]

/-- An attempt that went before makes no difference to one that resolves every script. -/
theorem adapt_of_agrees (resolvable : ∀ output ∈ tx.outputs, ∃ a, later output.script = .ok a)
    (agrees : ∀ output ∈ tx.outputs, ∀ address, resolve output.script = .ok address →
      later output.script = .ok address) :
    adapt view later rate tx (adapt view resolve rate tx books).2 =
      adapt view later rate tx books := by
  have payment : (adapt view later rate tx (adapt view resolve rate tx books).2).1 =
      (adapt view later rate tx books).1 := by
    apply adapt_fst_congr
    · rw [get?_memos_adapt, if_pos rfl]
      cases books.memos.get? tx.hash with
      | none => rfl
      | some memo => rfl
    · intro address
      rw [get?_adapt, Option.map_map]
      simp [Function.comp_def, requestTexts_creditedWith]
  have memos : (adapt view later rate tx (adapt view resolve rate tx books).2).2.memos =
      (adapt view later rate tx books).2.memos := by
    have there : ((adapt view resolve rate tx books).2.memos.get? tx.hash).isSome :=
      (hasBooked_adapt view resolve rate tx books).memo
    exact MemoBook.pin_of_isSome _ rate there
  have requests : (adapt view later rate tx (adapt view resolve rate tx books).2).2.requests =
      (adapt view later rate tx books).2.requests := by
    apply RequestBook.ext_of_entries
    · rw [entries_adapt, entries_adapt, entries_adapt, List.map_map]
      exact List.map_congr_left fun r _ => funded_funded resolvable agrees r
    · rw [lastDeleted_adapt, lastDeleted_adapt, lastDeleted_adapt]
  exact Prod.ext payment (ext_of_parts requests memos)

/-! ## The whole effect -/

theorem entries_memos_adapt : (adapt view resolve rate tx books).2.memos.entries =
    books.memos.entries ++
      if (books.memos.get? tx.hash).isSome then [] else [newMemo view rate tx] := by
  have memos : (adapt view resolve rate tx books).2.memos =
      (MemoBook.insertIfAbsent (newMemo view rate tx) books.memos).2 := rfl
  rw [memos, MemoBook.insertIfAbsent]
  cases found : books.memos.get? (newMemo view rate tx).hash with
  | some memo =>
    have there : books.memos.get? tx.hash = some memo := found
    simp [there]
  | none =>
    have absent : books.memos.get? tx.hash = none := found
    simp [absent, Register.entries_insert_of_get?_eq_none found]

variable (view resolve rate) in
/-- What one call changes and whether it succeeds. The memo of the transaction is added at the end
if there is none, with its value at the rate of the time and nothing else, and no other memo
changes. Every request stays in its place, with the transaction counted if it is reached; what
can be put back stays too. The call succeeds just if every script can be resolved. To call again
with a resolver that resolves all of them, and those of before as before, gives the payment and
the books that this call alone would have given. -/
theorem adapt_effect (tx : LedgerTransaction) (books : Books) :
    (adapt view resolve rate tx books).2.memos.entries =
        books.memos.entries ++
          (if (books.memos.get? tx.hash).isSome then []
          else
            [{ hash := tx.hash
               note := none
               fiat := FiatValue.ofAmount (view.valueOf tx) rate
               minerFee := none
               clientFee := none }]) ∧
      List.Forall₂ (Counts view resolve tx) books.requests.entries
        (adapt view resolve rate tx books).2.requests.entries ∧
      (adapt view resolve rate tx books).2.requests.lastDeleted = books.requests.lastDeleted ∧
      ((∃ payment, (adapt view resolve rate tx books).1 = .ok payment) ↔
        ∀ output ∈ tx.outputs, ∃ address, resolve output.script = .ok address) ∧
      ∀ later : AddressResolver,
        (∀ output ∈ tx.outputs, ∃ address, later output.script = .ok address) →
        (∀ output ∈ tx.outputs, ∀ address, resolve output.script = .ok address →
          later output.script = .ok address) →
        (∃ payment, (adapt view later rate tx books).1 = .ok payment) ∧
          adapt view later rate tx (adapt view resolve rate tx books).2 =
            adapt view later rate tx books := by
  refine ⟨entries_memos_adapt, ?_, ?_, ?_, ?_⟩
  · rw [entries_adapt, List.forall₂_map_right_iff]
    exact List.forall₂_same.2 fun r _ => counts_funded r
  · exact lastDeleted_adapt view resolve rate tx books
  · exact exists_adapt_eq_ok_iff
  · intro later resolvable agrees
    exact ⟨exists_adapt_eq_ok_iff.2 resolvable, adapt_of_agrees resolvable agrees⟩

/-- The rent is counted although its second output cannot be resolved at first. -/
theorem adapt_effect_rent :
    let later : AddressResolver := fun script =>
      if script = [] then .ok "n" else AddressResolver.spelled script
    let failed := adapt sampleView .spelled none rent sampleBooks
    failed.1 = .error (.unresolvedAddress "empty script") ∧
      (failed.2.requests.get? "m").map PaymentRequest.fundingHashes = some ["rent"] ∧
      (∃ payment, (adapt sampleView later none rent sampleBooks).1 = .ok payment) ∧
      adapt sampleView later none rent failed.2 = adapt sampleView later none rent sampleBooks := by
  intro later failed
  obtain ⟨-, -, -, -, again⟩ := adapt_effect sampleView .spelled none rent sampleBooks
  refine ⟨by rfl, by rfl, again later ?_ ?_⟩
  · intro output member
    simp only [rent, List.mem_cons, List.not_mem_nil, or_false] at member
    rcases member with rfl | rfl
    · exact ⟨"m", by rfl⟩
    · exact ⟨"n", by rfl⟩
  · intro output _ address resolved
    have spells : output.script ≠ [] := by
      intro empty
      simp [AddressResolver.spelled, empty] at resolved
    simp only [later, if_neg spells, resolved]

end PaymentVault.Books
