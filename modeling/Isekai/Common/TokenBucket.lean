import Isekai.Falcon.Types

/-!
# Token bucket

`common/token_bucket.cc`. Token counts are natural numbers; the number of tokens added per refill
interval is an exact integer. The quotient of two durations is exact, as the floor of the source's
`double` quotient is for durations below `2 ^ 53` ticks.
-/

namespace Isekai.Common

open Falcon (Time)

/-- A bucket of tokens that refills at an interval. -/
structure TokenBucket where
  tokensPerRefillInterval : Nat
  bucketRefillInterval : Time
  bucketSize : Nat
  availableTokens : Nat
  lastRefillTimestamp : Time := 0

namespace TokenBucket

/-- `AreTokensAvailable`: refills the bucket for the whole intervals that have passed. -/
def areTokensAvailable (b : TokenBucket) (requestedTokens : Nat) (currentTime : Time) :
    TokenBucket × Bool :=
  let elapsed := (currentTime - b.lastRefillTimestamp) / b.bucketRefillInterval
  let b := if 0 < elapsed then
    { b with
      availableTokens :=
        min (b.availableTokens + elapsed.toNat * b.tokensPerRefillInterval) b.bucketSize
      lastRefillTimestamp := b.lastRefillTimestamp + elapsed * b.bucketRefillInterval }
    else b
  (b, requestedTokens ≤ b.availableTokens)

/-- `RequestTokens`, with `none` for its failed `CHECK`. -/
def requestTokens (b : TokenBucket) (requiredTokens : Nat) : Option TokenBucket :=
  if requiredTokens ≤ b.availableTokens then
    some { b with availableTokens := b.availableTokens - requiredTokens }
  else none

def nextRefillTime (b : TokenBucket) : Time := b.lastRefillTimestamp + b.bucketRefillInterval

end TokenBucket

end Isekai.Common
