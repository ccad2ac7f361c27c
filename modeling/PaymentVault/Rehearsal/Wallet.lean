import PaymentVault.Wallet.Basic

/-!
# A wallet for rehearsals

A wallet that lives in memory and notes every call to its lock. Its lock can be told to refuse.
An output is its own if its script starts with certain bytes, and the net value of a transaction
is whatever was told for its hash.
-/
namespace PaymentVault

structure RehearsalWallet where
  password : String := ""
  isEncrypted : Bool := true
  /-- The calls to the lock, in order. -/
  calls : List String := []
  refusesDecrypt : Bool := false
  /-- How many of the calls to encrypt that come next are refused. -/
  refusedEncrypts : Nat := 0
  /-- The credentials under which stores outside the wallet were resealed, each after the kind
  of store. -/
  resealings : List String := []
  /-- What scripts of the wallet's own outputs start with. -/
  ownScript : Bytes := []
  transactions : List LedgerTransaction := []
  /-- Net values by hash; of several for one hash the last counts. -/
  values : List (String × Int64) := []
  rate : Option ExchangeRate := none

namespace RehearsalWallet

/-- The net value that was told for a hash, zero if none was. -/
def valueAt (hash : String) (wallet : RehearsalWallet) : Int64 :=
  ((wallet.values.reverse.find? fun entry => entry.1 = hash).map (·.2)).getD 0

/-- Tells the net value of a transaction. -/
def withValue (hash : String) (value : Int64) (wallet : RehearsalWallet) : RehearsalWallet :=
  { wallet with values := wallet.values ++ [(hash, value)] }

/-- Adds a transaction and its net value. -/
def withTransaction (tx : LedgerTransaction) (value : Int64) (wallet : RehearsalWallet) :
    RehearsalWallet :=
  { wallet.withValue tx.hash value with transactions := wallet.transactions ++ [tx] }

def view (wallet : RehearsalWallet) : WalletView where
  transactions := wallet.transactions
  valueOf tx := wallet.valueAt tx.hash
  isMine output := wallet.ownScript.isPrefixOf output.script

def decrypt (password : String) (wallet : RehearsalWallet) :
    Except LedgerError Unit × RehearsalWallet :=
  let wallet := { wallet with calls := wallet.calls ++ ["decrypt:" ++ password] }
  if wallet.refusesDecrypt then (.error (.wallet "decrypt refused"), wallet)
  else if wallet.password ≠ password then (.error (.wallet "wrong password"), wallet)
  else (.ok (), { wallet with isEncrypted := false })

def encrypt (password : String) (wallet : RehearsalWallet) :
    Except LedgerError Unit × RehearsalWallet :=
  let wallet := { wallet with calls := wallet.calls ++ ["encrypt:" ++ password] }
  match wallet.refusedEncrypts with
  | left + 1 => (.error (.wallet "encrypt refused"), { wallet with refusedEncrypts := left })
  | 0 => (.ok (), { wallet with password, isEncrypted := true })

def lock : Lock RehearsalWallet where
  accepts password wallet := wallet.password = password
  decrypt := decrypt
  encrypt := encrypt

/-- The wallet with what it noted wiped out. -/
def forgotten (wallet : RehearsalWallet) : RehearsalWallet :=
  { wallet with calls := [], resealings := [] }

/-- All that an open wallet needs; `hasRates` says whether it has a source of rates. -/
def facilities (cipher : KeyCipher) (hasRates : Bool) : Facilities RehearsalWallet where
  cipher
  resolve := AddressResolver.spelled
  view
  rate wallet := if hasRates then wallet.rate else none
  lock

end RehearsalWallet
end PaymentVault
