import Mathlib.Data.Int.Notation
import Mathlib.Data.Nat.Notation

namespace TrustTunnel.Upstream.Types

def httpOkStatus : ℕ := 200

def econnrefused : ℤ := 111

structure ServerError where
  code : ℤ := 0
  text : String := ""
deriving DecidableEq, Repr

end TrustTunnel.Upstream.Types
