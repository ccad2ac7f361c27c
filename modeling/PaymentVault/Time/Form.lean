import PaymentVault.Json.Format
import PaymentVault.Time.Rfc3339

/-!
# Instants in JSON

Instants are strings that hold their RFC 3339 text.
-/
namespace PaymentVault.Json.Format

def instant : Format Instant := string.refine Instant.ofText? Instant.toText

end PaymentVault.Json.Format
