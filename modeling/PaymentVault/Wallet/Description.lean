import PaymentVault.Text.Debug
import PaymentVault.Wallet.Basic

/-!
# Descriptions for diagnostics

One line of text for a file layout and an open wallet, without any secret.
-/
namespace PaymentVault

/-- A name with its members between braces; dots stand for members that are left out. -/
def describeRecord (name : String) (members : List (String × String)) (isOpen : Bool) : String :=
  let parts := (members.map fun member => member.1 ++ ": " ++ member.2) ++ if isOpen then [".."]
    else []
  name ++ " \x7b " ++ ", ".intercalate parts ++ " \x7d"

def WalletKey.description (_ : WalletKey) : String := "WalletKey(..)"

def SealedFile.description : String := describeRecord "EncryptedFileStore" [] true

def PaymentsFile.description (file : PaymentsFile) : String :=
  describeRecord "PaymentsFile"
    [("directory", debugQuoted file.directory.text), ("path", debugQuoted file.path.text)] false

namespace OpenWallet

variable {ω : Type}

/-- The wallet itself. -/
def contextDescription (wallet : OpenWallet ω) : String :=
  describeRecord "WalletContext"
    [("wallet_id", "WalletId(" ++ debugQuoted wallet.summary.walletId ++ ")"),
      ("wallet_directory", debugQuoted wallet.directory.text)] true

/-- The payments of the wallet. -/
def paymentsDescription (wallet : OpenWallet ω) : String :=
  describeRecord "PaymentsService"
    [("file", wallet.paymentsFile.description),
      ("requests", toString wallet.books.requests.entries.length),
      ("annotations", toString wallet.books.memos.entries.length)] true

end OpenWallet
end PaymentVault
