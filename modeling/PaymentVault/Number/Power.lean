/-!
# Powers

Natural numbers and integers are raised to powers by their own operation, also where those of
other structures are at hand.
-/
namespace PaymentVault

@[default_instance 100000]
instance (priority := 100000) ownPower {α : Type} [NatPow α] : Pow α Nat := instPowNat

end PaymentVault
