import PaymentVault.Proofs.Ledger.Effect
import PaymentVault.Proofs.Ledger.Requests
import PaymentVault.Proofs.Wallet.Loading

/-!
# Entries that cannot be identified

A request without an address and a memo without a hash are refused when they are added. They get
into the books in other ways: a payments file may list them, and a transaction without a hash gets
a memo when it is adapted or seen (`unidentified_memo_of_noteSeen`). These are the only ways, and
each of them is always open: in a run all entries can be identified just if no step admits one that
cannot (`identified_of_run`).
-/
namespace PaymentVault

theorem PaymentRequest.validate_eq_ok_iff {r : PaymentRequest} :
    r.validate = .ok () ↔ r.address ≠ "" := by
  unfold validate
  split <;> simp [*]

theorem Memo.validate_eq_ok_iff {m : Memo} : m.validate = .ok () ↔ m.hash ≠ "" := by
  unfold validate
  split <;> simp [*]

/-- Every request in the snapshot has an address and every memo has a hash. -/
structure Snapshot.IsIdentified (s : Snapshot) : Prop where
  requests : ∀ r ∈ s.requests, r.validate = .ok ()
  memos : ∀ m ∈ s.memos, m.validate = .ok ()

namespace Books

/-- Every request in the books has an address and every memo has a hash. -/
structure IsIdentified (books : Books) : Prop where
  requests : ∀ r ∈ books.requests.entries, r.validate = .ok ()
  memos : ∀ m ∈ books.memos.entries, m.validate = .ok ()

instance (books : Books) : Decidable books.IsIdentified :=
  decidable_of_iff ((∀ r ∈ books.requests.entries, r.validate = .ok ()) ∧
    ∀ m ∈ books.memos.entries, m.validate = .ok ()) ⟨fun ⟨r, m⟩ => ⟨r, m⟩, fun ⟨r, m⟩ => ⟨r, m⟩⟩

/-- Books that are identified, and so is the request that can be put back. -/
structure IsWhollyIdentified (books : Books) : Prop where
  requests : books.requests.Forall fun r => r.validate = .ok ()
  memos : books.memos.get? "" = none

variable {books : Books}

theorem IsIdentified.congr {other : Books} (identified : books.IsIdentified)
    (requests : other.requests.requests = books.requests.requests)
    (memos : other.memos = books.memos) : other.IsIdentified := by
  constructor
  · rw [RequestBook.entries, requests]
    exact identified.requests
  · rw [memos]
    exact identified.memos

theorem IsIdentified.requests_get? (identified : books.IsIdentified) :
    books.requests.get? "" = none := by
  rw [Option.eq_none_iff_forall_ne_some]
  intro r there
  have valid := identified.requests r (Register.mem_of_get? there)
  exact PaymentRequest.validate_eq_ok_iff.1 valid (Register.key_of_get? there)

theorem IsIdentified.memos_get? (identified : books.IsIdentified) :
    books.memos.get? "" = none := by
  rw [Option.eq_none_iff_forall_ne_some]
  intro m there
  have valid := identified.memos m (Register.mem_of_get? there)
  exact Memo.validate_eq_ok_iff.1 valid (Register.key_of_get? there)

theorem IsWhollyIdentified.isIdentified (wholly : books.IsWhollyIdentified) :
    books.IsIdentified := by
  constructor
  · intro r member
    exact wholly.requests.of_mem_entries member
  · intro m member
    rw [Memo.validate_eq_ok_iff]
    intro nameless
    have there := Register.mem_entries_iff.1 member
    rw [nameless, wholly.memos] at there
    cases there

theorem isWhollyIdentified_empty : Books.empty.IsWhollyIdentified := ⟨.empty, rfl⟩

/-! ## Adapting transactions -/

/-- A transaction that is adapted when some are adapted one after another up to the first
failure. -/
inductive IsAdapted (resolve : AddressResolver) (tx : LedgerTransaction) :
    List LedgerTransaction → Prop
  | here {rest} : IsAdapted resolve tx (tx :: rest)
  | later {first rest}
    (resolvable : ∀ output ∈ first.outputs, ∃ address, resolve output.script = .ok address)
    (there : IsAdapted resolve tx rest) : IsAdapted resolve tx (first :: rest)

variable {view : WalletView} {resolve : AddressResolver} {rate : Option ExchangeRate}
  {tx : LedgerTransaction}

theorem get?_memos_adapt_eq_none_iff {hash : String} :
    (adapt view resolve rate tx books).2.memos.get? hash = none ↔
      books.memos.get? hash = none ∧ tx.hash ≠ hash := by
  rw [get?_memos_adapt, Option.or_eq_none_iff]
  simp

theorem get?_memos_noteSeen_eq_none_iff {seen hash : String} {amount : Int64} :
    (noteSeen rate seen amount books).2.memos.get? hash = none ↔
      books.memos.get? hash = none ∧ seen ≠ hash := by
  have memos : (noteSeen rate seen amount books).2.memos =
      (MemoBook.pin seen amount rate books.memos).2 := rfl
  rw [memos, MemoBook.pin, MemoBook.get?_insertIfAbsent, Option.or_eq_none_iff]
  simp

theorem get?_memos_adaptAll_eq_none_iff {txs : List LedgerTransaction} {hash : String} :
    (adaptAll view resolve rate txs books).2.memos.get? hash = none ↔
      books.memos.get? hash = none ∧ ∀ tx, IsAdapted resolve tx txs → tx.hash ≠ hash := by
  induction txs generalizing books with
  | nil =>
    constructor
    · exact fun absent => ⟨absent, fun tx adapted => nomatch adapted⟩
    · exact And.left
  | cons first rest ih =>
    have pinned := @get?_memos_adapt_eq_none_iff books view resolve rate first hash
    have ok := @exists_adapt_eq_ok_iff view resolve rate first books
    rcases adapted : adapt view resolve rate first books with ⟨fault | payment, next⟩
    · rw [adapted] at pinned ok
      have stuck : ¬∀ output ∈ first.outputs, ∃ address, resolve output.script = .ok address := by
        rw [← ok]
        rintro ⟨_, impossible⟩
        cases impossible
      simp only [adaptAll, adapted, pinned]
      refine and_congr_right fun _ => ⟨fun fresh tx => ?_, fun all => all first .here⟩
      rintro (_ | ⟨resolvable, -⟩)
      · exact fresh
      · exact absurd resolvable stuck
    · rw [adapted] at pinned ok
      have resolvable := ok.1 ⟨payment, rfl⟩
      simp only [adaptAll, adapted, ih, pinned, and_assoc]
      refine and_congr_right fun _ => ⟨?_, fun all => ?_⟩
      · rintro ⟨fresh, others⟩ tx (_ | ⟨-, there⟩)
        · exact fresh
        · exact others tx there
      · exact ⟨all first .here, fun tx there => all tx (.later resolvable there)⟩

/-- A snapshot that is loaded brings in whatever it lists. -/
theorem HoldsFound.isIdentified_iff {after : Books} {snapshot : Snapshot}
    (holds : books.HoldsFound (.ok (some snapshot)) after) :
    after.IsIdentified ↔ snapshot.IsIdentified := by
  have request (address : String) : after.requests.get? address =
      snapshot.requests.reverse.find? fun r => r.address == address := by
    rw [RequestBook.get?, holds.requests]
    exact Register.get?_ofList snapshot.requests address
  have memo (hash : String) : after.memos.get? hash =
      snapshot.memos.reverse.find? fun m => m.hash == hash := by
    rw [holds.memos]
    exact Register.get?_ofList snapshot.memos hash
  constructor
  · intro identified
    constructor
    · intro r member
      rw [PaymentRequest.validate_eq_ok_iff]
      intro nameless
      have absent := identified.requests_get?
      rw [request, List.find?_eq_none] at absent
      exact absent r (List.mem_reverse.2 member) (by simp [nameless])
    · intro m member
      rw [Memo.validate_eq_ok_iff]
      intro nameless
      have absent := identified.memos_get?
      rw [memo, List.find?_eq_none] at absent
      exact absent m (List.mem_reverse.2 member) (by simp [nameless])
  · intro identified
    constructor
    · intro r member
      have there : after.requests.get? r.address = some r := Register.mem_entries_iff.1 member
      rw [request] at there
      exact identified.requests r (List.mem_reverse.1 (List.mem_of_find?_eq_some there))
    · intro m member
      have there := Register.mem_entries_iff.1 member
      rw [memo] at there
      exact identified.memos m (List.mem_reverse.1 (List.mem_of_find?_eq_some there))

theorem HoldsFound.isWhollyIdentified {after : Books}
    {outcome : Except VaultError (Option Snapshot)} (holds : books.HoldsFound outcome after)
    (wholly : books.IsWhollyIdentified)
    (sound : ∀ snapshot, outcome = .ok (some snapshot) → snapshot.IsIdentified) :
    after.IsWhollyIdentified := by
  have identified : after.IsIdentified := by
    rcases outcome with cause | _ | snapshot
    · exact isWhollyIdentified_empty.isIdentified.congr holds.requests holds.memos
    · exact isWhollyIdentified_empty.isIdentified.congr holds.requests holds.memos
    · exact holds.isIdentified_iff.2 (sound snapshot rfl)
  refine ⟨⟨?_, ?_⟩, identified.memos_get?⟩
  · intro address r there
    exact identified.requests r (Register.mem_of_get? there)
  · intro r there
    rw [holds.lastDeleted] at there
    rcases outcome with cause | _ | snapshot
    · cases there
    · cases there
    · exact wholly.requests.deleted r there

end Books

namespace OpenWallet

variable {ω : Type} {facilities : Facilities ω} {wallet next : OpenWallet ω}

variable (facilities) in
/-- The steps by which an entry that cannot be identified gets into the books: loading a snapshot
that lists one, be it found by an open wallet or, once the directory was made, on opening, and
adapting or seeing a transaction without a hash. -/
inductive Admits : OpenWallet ω → OpenWallet ω → Prop
  | load {wallet : OpenWallet ω} {snapshot : Snapshot}
    (found : wallet.finds facilities = .ok (some snapshot)) (lists : ¬snapshot.IsIdentified) :
    Admits wallet (wallet.load facilities).2
  | initialise {wallet : OpenWallet ω} {disk : Disk} {snapshot : Snapshot}
    (ensured : wallet.around.disk.ensureDirectory wallet.paymentsFile.directory = (.ok (), disk))
    (found : (wallet.withDisk disk).finds facilities = .ok (some snapshot))
    (lists : ¬snapshot.IsIdentified) : Admits wallet (wallet.initialise facilities).2
  | adapt {wallet : OpenWallet ω} {tx : LedgerTransaction} (nameless : tx.hash = "") :
    Admits wallet (wallet.adapt facilities tx).2
  | list {wallet : OpenWallet ω} {tx : LedgerTransaction}
    (adapted : Books.IsAdapted facilities.resolve tx
      (facilities.view wallet.around.rest).transactions) (nameless : tx.hash = "") :
    Admits wallet (wallet.list facilities).2
  | noteSeen {wallet : OpenWallet ω} (amount : Int64) :
    Admits wallet (wallet.noteSeen facilities "" amount).2

theorem books_list : (wallet.list facilities).2.books =
    (wallet.books.adaptAll (facilities.view wallet.around.rest) facilities.resolve
      (facilities.rate wallet.around.rest)
      (facilities.view wallet.around.rest).transactions).2 := by
  unfold OpenWallet.list
  dsimp only
  split <;> next all => rw [all]; rfl

/-- A step that admits one leaves one in the books, whatever was there before. -/
theorem Admits.not_isIdentified (admits : Admits facilities wallet next) :
    ¬next.books.IsIdentified := by
  intro identified
  have absent := identified.memos_get?
  cases admits with
  | @load snapshot found lists =>
    rw [load_eq_of_ok found] at identified
    have holds := wallet.books.holdsFound_loaded (some snapshot)
    exact lists (holds.isIdentified_iff.1 identified)
  | initialise ensured found lists =>
    have holds := holdsFound_initialise facilities ensured
    rw [found] at holds
    exact lists (holds.isIdentified_iff.1 identified)
  | adapt nameless => exact (Books.get?_memos_adapt_eq_none_iff.1 absent).2 nameless
  | list adapted nameless =>
    rw [books_list, Books.get?_memos_adaptAll_eq_none_iff] at absent
    exact absent.2 _ adapted nameless
  | noteSeen amount => exact (Books.get?_memos_noteSeen_eq_none_iff.1 absent).2 rfl

theorem books_saveAfter (changed : Option PaymentRequest) (wallet : OpenWallet ω) :
    (wallet.saveAfter facilities changed).2.books = wallet.books :=
  congrArg PaymentsDesk.books (desk_saveAfter changed wallet)

/-- Opening that cannot make the directory leaves the books alone. -/
theorem books_initialise_of_error {cause : VaultError} {disk : Disk}
    (failed : wallet.around.disk.ensureDirectory wallet.paymentsFile.directory =
      (.error cause, disk)) : (wallet.initialise facilities).2.books = wallet.books := by
  rw [initialise, failed]
  rfl

/-- All other steps admit none. -/
theorem Step.isWhollyIdentified (step : Step facilities wallet next)
    (wholly : wallet.books.IsWhollyIdentified) (none : ¬Admits facilities wallet next) :
    next.books.IsWhollyIdentified := by
  have kept (hash : String) (value : UInt64) (r : PaymentRequest) (valid : r.validate = .ok ()) :
      (r.fundedBy hash value).validate = .ok () := by
    rwa [PaymentRequest.validate_eq_ok_iff, PaymentRequest.address_fundedBy,
      ← PaymentRequest.validate_eq_ok_iff]
  cases step with
  | initialise =>
    rcases ensured : wallet.around.disk.ensureDirectory wallet.paymentsFile.directory with
      ⟨cause | ⟨⟩, disk⟩
    · rw [books_initialise_of_error ensured]
      exact wholly
    · have holds := holdsFound_initialise facilities ensured
      refine holds.isWhollyIdentified wholly fun snapshot found => ?_
      by_contra lists
      exact none (.initialise ensured found lists)
  | load =>
    rcases outcome : wallet.finds facilities with cause | found
    · rw [load_eq_of_error outcome]
      exact wholly
    · rw [load_eq_of_ok outcome]
      have holds := wallet.books.holdsFound_loaded found
      refine holds.isWhollyIdentified wholly fun snapshot same => ?_
      by_contra lists
      exact none (.load (outcome.trans same) lists)
  | takeLoadFailure => exact wholly
  | save => exact wholly
  | shutdown => exact wholly
  | elsewhere => exact wholly
  | addRequest request =>
    unfold OpenWallet.addRequest
    split
    · exact wholly
    · next valid => exact ⟨wholly.requests.insert valid, wholly.memos⟩
  | addMemo memo =>
    unfold OpenWallet.addMemo
    split
    · exact wholly
    · next valid =>
      refine ⟨wholly.requests, ?_⟩
      have named := Memo.validate_eq_ok_iff.1 valid
      have inserted := Register.get?_insert memo wallet.books.memos ""
      rw [if_neg named, wholly.memos] at inserted
      exact inserted
  | deleteRequest address =>
    rw [OpenWallet.deleteRequest, books_saveAfter]
    exact ⟨wholly.requests.delete address, wholly.memos⟩
  | undoDelete =>
    rw [OpenWallet.undoDelete, books_saveAfter]
    exact ⟨wholly.requests.undoDelete, wholly.memos⟩
  | adapt tx =>
    have named : tx.hash ≠ "" := fun nameless => none (.adapt nameless)
    exact ⟨Books.forall_adapt kept _ _ _ tx wholly.requests,
      Books.get?_memos_adapt_eq_none_iff.2 ⟨wholly.memos, named⟩⟩
  | noteSeen hash amount =>
    have named : hash ≠ "" := by
      rintro rfl
      exact none (.noteSeen amount)
    exact ⟨wholly.requests, Books.get?_memos_noteSeen_eq_none_iff.2 ⟨wholly.memos, named⟩⟩
  | list =>
    rw [books_list]
    refine ⟨Books.forall_adaptAll kept _ _ _ _ wholly.requests, ?_⟩
    exact Books.get?_memos_adaptAll_eq_none_iff.2
      ⟨wholly.memos, fun tx adapted nameless => none (.list adapted nameless)⟩

theorem identified_iff_of_steps {states : List (OpenWallet ω)}
    (wholly : wallet.books.IsWhollyIdentified)
    (run : (wallet :: states).IsChain (Step facilities)) :
    (∀ state ∈ wallet :: states, state.books.IsIdentified) ↔
      (wallet :: states).IsChain fun before after => ¬Admits facilities before after := by
  induction states generalizing wallet with
  | nil => simpa using wholly.isIdentified
  | cons next states ih =>
    rw [List.isChain_cons_cons] at run
    rw [List.isChain_cons_cons, List.forall_mem_cons]
    -- An entry without identity shows right after the step that admits it, whatever comes later.
    by_cases admits : Admits facilities wallet next
    · have broken := admits.not_isIdentified
      simp [admits, broken]
    · have later := run.1.isWhollyIdentified wholly admits
      rw [ih later run.2]
      simp [admits, wholly.isIdentified]

/-- In a run that starts with opening a wallet, whatever the steps are and whatever happens around
the wallet meanwhile: all stored entries can be identified at all times just if no step admits one
that cannot. -/
theorem identified_of_run {opened : OpenWallet ω} {states : List (OpenWallet ω)}
    (fresh : opened.desk = {}) (run : (opened :: states).IsChain (Step facilities)) :
    (∀ state ∈ opened :: states, state.books.IsIdentified) ↔
      (opened :: states).IsChain fun before after => ¬Admits facilities before after := by
  have empty : opened.books = .empty := congrArg PaymentsDesk.books fresh
  exact identified_iff_of_steps (empty ▸ Books.isWhollyIdentified_empty) run

theorem identified_of_run_busy :
    let facilities := RehearsalWallet.facilities labelCipher false
    let run := [rehearsedWallet, (rehearsedWallet.addRequest nearbyRequest).2, busyWallet]
    run.IsChain (Step facilities) ∧
      run.IsChain (fun before after => ¬Admits facilities before after) ∧
      busyWallet.books.requests.entries = [nearbyRequest] ∧
      busyWallet.books.memos.entries = [{ hash := "hash", minerFee := some 0 }] := by
  intro facilities run
  have steps : run.IsChain (Step facilities) :=
    .cons_cons (.addRequest _ nearbyRequest) (.cons_cons (.addMemo _ _) (.singleton _))
  have identified : ∀ state ∈ run, state.books.IsIdentified := by decide
  exact ⟨steps, (identified_of_run rfl steps).1 identified, rfl, rfl⟩

/-- A transaction without a hash that was seen in the network has a memo without a hash. -/
theorem unidentified_memo_of_noteSeen :
    let facilities := RehearsalWallet.facilities labelCipher false
    let seen := (rehearsedWallet.noteSeen facilities "" 5).2
    seen.Reached facilities ∧
      ∃ memo ∈ seen.books.memos.entries, memo.validate ≠ .ok () := by
  intro facilities seen
  have reached : seen.Reached facilities :=
    .step (.opened rfl isHoused_rehearsedWallet) (.noteSeen _ "" 5) isHoused_rehearsedWallet
  refine ⟨reached, _, List.mem_singleton.2 rfl, ?_⟩
  decide

end OpenWallet
end PaymentVault
