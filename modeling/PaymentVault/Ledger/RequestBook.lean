import PaymentVault.Payment.Request
import PaymentVault.Register

/-!
# The book of payment requests

Requests are kept under their addresses. The request deleted last can be put back once.
-/
namespace PaymentVault

structure RequestBook where
  requests : Register PaymentRequest.address := .empty
  lastDeleted : Option PaymentRequest := none

namespace RequestBook

def empty : RequestBook := {}

instance : Inhabited RequestBook := ⟨empty⟩

def get? (book : RequestBook) (address : String) : Option PaymentRequest :=
  book.requests.get? address

def entries (book : RequestBook) : List PaymentRequest := book.requests.entries

/-- Adds a request, in the place of any request at its address. -/
def insert (request : PaymentRequest) (book : RequestBook) : RequestBook :=
  { book with requests := book.requests.insert request }

/-- Takes a request out for good. -/
def erase (address : String) (book : RequestBook) : RequestBook :=
  { book with requests := book.requests.erase address }

/-- The book with other contents; what can be put back stays. -/
def replaceAll (requests : List PaymentRequest) (book : RequestBook) : RequestBook :=
  { book with requests := .ofList requests }

/-- Deletes a request and keeps it to be put back. -/
def delete (address : String) (book : RequestBook) : Option PaymentRequest × RequestBook :=
  match book.get? address with
  | none => (none, book)
  | some request => (some request, ⟨book.requests.erase address, some request⟩)

/-- Puts back the request deleted last. -/
def undoDelete (book : RequestBook) : Option PaymentRequest × RequestBook :=
  match book.lastDeleted with
  | none => (none, book)
  | some request => (some request, ⟨book.requests.insert request, none⟩)

def canUndo (book : RequestBook) : Bool := book.lastDeleted.isSome

/-- The requests that are not fully funded. -/
def outstanding (book : RequestBook) : List PaymentRequest :=
  book.entries.filter fun request => !request.isFullyFunded

/-- Requests in the order of their addresses. -/
def byAddress (requests : List PaymentRequest) : List PaymentRequest :=
  requests.mergeSort fun a b => decide (a.address ≤ b.address)

/-- The requests at any of the addresses, address by address. -/
def fundedBy (addresses : List String) (book : RequestBook) : List PaymentRequest :=
  addresses.filterMap book.get?

/-- Counts a transaction towards the request at an address, and gives that request. -/
def recordFunding (address hash : String) (value : UInt64) (book : RequestBook) :
    Option PaymentRequest × RequestBook :=
  let requests := book.requests.modify address (PaymentRequest.fundedBy hash value)
    (PaymentRequest.address_fundedBy hash value)
  (requests.get? address, { book with requests })

section views

variable (book : RequestBook) (address : String)

@[simp] theorem get?_insert (request : PaymentRequest) :
    (book.insert request).get? address = if request.address = address then some request
      else book.get? address :=
  Register.get?_insert request book.requests address

@[simp] theorem get?_erase (other : String) :
    (book.erase other).get? address = if other = address then none else book.get? address :=
  Register.get?_erase other book.requests address

@[simp] theorem get?_recordFunding (other hash : String) (value : UInt64) :
    (book.recordFunding other hash value).2.get? address =
      if other = address then (book.get? address).map (PaymentRequest.fundedBy hash value)
      else book.get? address :=
  Register.get?_modify other _ (PaymentRequest.address_fundedBy hash value) book.requests address

@[simp] theorem recordFunding_fst (hash : String) (value : UInt64) :
    (book.recordFunding address hash value).1 =
      (book.get? address).map (PaymentRequest.fundedBy hash value) := by
  simp [recordFunding, get?]

@[simp] theorem lastDeleted_recordFunding (hash : String) (value : UInt64) :
    (book.recordFunding address hash value).2.lastDeleted = book.lastDeleted := rfl

end views

end RequestBook
end PaymentVault
