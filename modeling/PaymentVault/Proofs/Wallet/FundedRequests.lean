import Mathlib.Algebra.BigOperators.Group.Finset.Basic
import Mathlib.Data.List.Count
import PaymentVault.Proofs.Ledger.Confluence
import PaymentVault.Rehearsal.Cipher
import PaymentVault.Wallet.Payments

/-!
# Requests that a transaction pays

The requests that a transaction pays are looked up address by address, and there is an address for
each output. So every stored request that is paid is among them and no other one is, but a request
is listed as many times as there are outputs that pay it (`requestsFundedBy_of_adapt`), although
the transaction is counted towards it once (`request_listed_twice`).
-/
namespace PaymentVault

namespace RequestBook

variable {book : RequestBook} {addresses : List String} {r : PaymentRequest}

theorem get?_eq_some_iff {address : String} :
    book.get? address = some r ↔ r ∈ book.entries ∧ r.address = address := by
  constructor
  · intro found
    exact ⟨Register.mem_of_get? found, Register.key_of_get? found⟩
  · rintro ⟨member, rfl⟩
    exact Register.mem_entries_iff.1 member

theorem nodup_entries : book.entries.Nodup := .of_map PaymentRequest.address book.requests.nodup

theorem mem_fundedBy_iff :
    r ∈ book.fundedBy addresses ↔ r ∈ book.entries ∧ r.address ∈ addresses := by
  simp only [fundedBy, List.mem_filterMap, get?_eq_some_iff]
  constructor
  · rintro ⟨_, listed, stored, rfl⟩
    exact ⟨stored, listed⟩
  · rintro ⟨stored, listed⟩
    exact ⟨r.address, listed, stored, rfl⟩

/-- A stored request is given once for each time that its address is in the list. -/
theorem count_fundedBy (stored : r ∈ book.entries) :
    (book.fundedBy addresses).count r = addresses.count r.address := by
  rw [fundedBy, List.count_filterMap]
  apply List.countP_congr
  intro address _
  rw [beq_iff_eq, get?_eq_some_iff, beq_iff_eq]
  exact ⟨fun found => found.2.symm, fun here => ⟨stored, here.symm⟩⟩

/-- The requests are in the order of the list. -/
theorem map_address_fundedBy :
    (book.fundedBy addresses).map PaymentRequest.address =
      addresses.filter fun address => (book.get? address).isSome := by
  induction addresses with
  | nil => rfl
  | cons address rest ih =>
    cases found : book.get? address with
    | none => simpa [fundedBy, found] using ih
    | some r =>
      have place : r.address = address := (get?_eq_some_iff.1 found).2
      simpa [fundedBy, found, place] using ih

theorem nodup_fundedBy_iff :
    (book.fundedBy addresses).Nodup ↔ ∀ r ∈ book.entries, addresses.count r.address ≤ 1 := by
  rw [List.nodup_iff_count_le_one]
  constructor
  · intro once r stored
    rw [← count_fundedBy stored]
    exact once r
  · intro once r
    by_cases stored : r ∈ book.entries
    · rw [count_fundedBy stored]
      exact once r stored
    · have absent : r ∉ book.fundedBy addresses := fun member => stored (mem_fundedBy_iff.1 member).1
      rw [List.count_eq_zero_of_not_mem absent]
      exact Nat.zero_le 1

theorem sum_fundedBy (f : PaymentRequest → ℕ) :
    ((book.fundedBy addresses).map f).sum =
      (book.entries.map fun r => addresses.count r.address * f r).sum := by
  have inside : (book.fundedBy addresses).toFinset ⊆ book.entries.toFinset := by
    intro r member
    rw [List.mem_toFinset] at member ⊢
    exact (mem_fundedBy_iff.1 member).1
  calc ((book.fundedBy addresses).map f).sum
    _ = ∑ r ∈ (book.fundedBy addresses).toFinset, (book.fundedBy addresses).count r • f r :=
      Finset.sum_list_map_count _ f
    _ = ∑ r ∈ book.entries.toFinset, (book.fundedBy addresses).count r • f r := by
      refine Finset.sum_subset inside fun r _ absent => ?_
      rw [List.mem_toFinset] at absent
      rw [List.count_eq_zero_of_not_mem absent, zero_nsmul]
    _ = (book.entries.map fun r => (book.fundedBy addresses).count r • f r).sum :=
      List.sum_toFinset _ nodup_entries
    _ = (book.entries.map fun r => addresses.count r.address * f r).sum := by
      congr 1
      apply List.map_congr_left
      intro r stored
      rw [count_fundedBy stored, Nat.nsmul_eq_mul]

end RequestBook

namespace Books

variable {view : WalletView} {resolve : AddressResolver} {rate : Option ExchangeRate}
  {tx : LedgerTransaction} {books : Books} {payment : TransactionPayment}

theorem map_resolve_of_adapt (adapted : (adapt view resolve rate tx books).1 = .ok payment) :
    tx.outputs.map (fun output => resolve output.script) = payment.outputAddresses.map .ok := by
  obtain ⟨description, addresses, -, found, rfl⟩ :=
    (adapt_fst_eq_ok_iff view resolve rate).1 adapted
  exact addressesOf_eq_ok_iff.1 found

/-- The number of outputs that pay an address. -/
def outputsTo (resolve : AddressResolver) (outputs : List TxOutput) (address : String) : ℕ :=
  outputs.countP fun output => resolve output.script = .ok address

theorem count_outputAddresses (adapted : (adapt view resolve rate tx books).1 = .ok payment)
    (address : String) :
    payment.outputAddresses.count address = outputsTo resolve tx.outputs address := by
  have injective : Function.Injective (Except.ok : String → Except LedgerError String) :=
    fun _ _ same => Except.ok.inj same
  rw [← List.count_map_of_injective _ _ injective, ← map_resolve_of_adapt adapted, List.count,
    List.countP_map]
  apply List.countP_congr
  simp

end Books

namespace OpenWallet

variable {ω : Type}

/-- For a payment that was adapted, whatever its outputs are, and the requests that a wallet has
stored by then: just those are given whose address an output pays, in the order of the outputs, and
each as many times as there are outputs that pay it. So each is given once just if no two outputs
pay the address of one request, and a sum takes in a request once for each output. -/
theorem requestsFundedBy_of_adapt {view : WalletView} {resolve : AddressResolver}
    {rate : Option ExchangeRate} {tx : LedgerTransaction} {books : Books}
    {payment : TransactionPayment}
    (adapted : (books.adapt view resolve rate tx).1 = .ok payment) (wallet : OpenWallet ω) :
    let stored := wallet.books.requests
    let paid := Books.outputsTo resolve tx.outputs
    (∀ r, r ∈ wallet.requestsFundedBy payment ↔ r ∈ stored.entries ∧ 0 < paid r.address) ∧
      tx.outputs.map (fun output => resolve output.script) =
        payment.outputAddresses.map .ok ∧
      (wallet.requestsFundedBy payment).map PaymentRequest.address =
        (payment.outputAddresses.filter fun address => (stored.get? address).isSome) ∧
      (∀ r ∈ stored.entries, (wallet.requestsFundedBy payment).count r = paid r.address) ∧
      ((wallet.requestsFundedBy payment).Nodup ↔ ∀ r ∈ stored.entries, paid r.address ≤ 1) ∧
      ∀ f : PaymentRequest → ℕ, ((wallet.requestsFundedBy payment).map f).sum =
        (stored.entries.map fun r => paid r.address * f r).sum := by
  intro stored paid
  have counted (address : String) : paid address = payment.outputAddresses.count address :=
    (Books.count_outputAddresses adapted address).symm
  simp only [counted, List.count_pos_iff]
  refine ⟨fun r => RequestBook.mem_fundedBy_iff, Books.map_resolve_of_adapt adapted,
    RequestBook.map_address_fundedBy, fun r stored => RequestBook.count_fundedBy stored,
    RequestBook.nodup_fundedBy_iff, RequestBook.sum_fundedBy⟩

/-- A wallet with a request that the coffee pays. -/
def thirstyWallet : OpenWallet RehearsalWallet :=
  (rehearsedWallet.addRequest { address := "m", amount := 5, date := .epoch }).2

theorem requestsFundedBy_of_adapt_coffee :
    ∃ payment, (Books.sampleBooks.adapt Books.sampleView .spelled none Books.coffee).1 =
        .ok payment ∧
      ((thirstyWallet.requestsFundedBy payment).map fun r => r.amount.toNat).sum = 10 := by
  have adapted : (Books.sampleBooks.adapt Books.sampleView .spelled none Books.coffee).1 =
    .ok _ := rfl
  obtain ⟨-, -, -, -, -, total⟩ := requestsFundedBy_of_adapt adapted thirstyWallet
  exact ⟨_, adapted, (total _).trans (by rfl)⟩

/-- The coffee has two outputs at the address of one request. When it was adapted it is counted
towards the request once, and the request is listed twice. -/
theorem request_listed_twice :
    let facilities := RehearsalWallet.facilities labelCipher false
    let wallet := (thirstyWallet.adapt facilities Books.coffee).2
    ∃ payment r, (thirstyWallet.adapt facilities Books.coffee).1 = .ok payment ∧
      wallet.books.requests.entries = [r] ∧ r.fundingHashes = ["coffee"] ∧
      wallet.requestsFundedBy payment = [r, r] := by
  refine ⟨_, _, rfl, rfl, rfl, rfl⟩

end OpenWallet
end PaymentVault
