import Gatekeeper.Crypto.Sha2
import Gatekeeper.Identity.Token

/-!
# Claims cache

Claims of verified tokens, remembered under the digests of the tokens until the
token expires or the time to live runs out. A full cache first drops what has
expired, and then the entry closest to its expiry.
-/

namespace Gatekeeper

/-- How long claims are remembered in seconds, and how many of them. Both are
below `2 ^ 63` where a configuration gives them, so that no sum with a time
below that needs more than sixty-four bits. -/
structure CacheLimits where
  ttl : Nat
  capacity : Nat
deriving DecidableEq, Repr

/-- Without a time to live or a capacity there is no cache. -/
def CacheLimits.isEnabled (limits : CacheLimits) : Bool :=
  0 < limits.ttl && 0 < limits.capacity

abbrev TokenDigest := List UInt8

def tokenDigest (token : String) : TokenDigest :=
  Sha2.Hash.sha256.digest (Text.Utf8.encode token)

structure CachedClaims where
  claims : Claims
  expiresAt : Nat
deriving Repr

/-- Entries by digest, each digest at most once. -/
abbrev ClaimsCache := List (TokenDigest × CachedClaims)

namespace ClaimsCache

def remove (cache : ClaimsCache) (digest : TokenDigest) : ClaimsCache :=
  cache.filter fun entry => entry.1 ≠ digest

/-- The claims of an entry that has not expired. An expired one is dropped. -/
def get (cache : ClaimsCache) (digest : TokenDigest) (now : Nat) :
    Option Claims × ClaimsCache :=
  match cache.lookup digest with
  | none => (none, cache)
  | some entry =>
      if now < entry.expiresAt then (some entry.claims, cache)
      else (none, cache.remove digest)

def soonest? : ClaimsCache → Option (TokenDigest × CachedClaims)
  | [] => none
  | entry :: rest =>
      match soonest? rest with
      | none => some entry
      | some other =>
          if other.2.expiresAt < entry.2.expiresAt then some other
          else some entry

/-- Drop the expired entries when the cache is full. -/
def purge (cache : ClaimsCache) (capacity now : Nat) : ClaimsCache :=
  if cache.length < capacity then cache
  else cache.filter fun entry => decide (now < entry.2.expiresAt)

/-- Drop the entry closest to its expiry when the cache is full. -/
def evict (cache : ClaimsCache) (capacity : Nat) : ClaimsCache :=
  if cache.length < capacity then cache
  else
    match cache.soonest? with
    | none => cache
    | some entry => cache.remove entry.1

/-- Remember claims under a digest, in place of what is there. -/
def put (cache : ClaimsCache) (limits : CacheLimits) (digest : TokenDigest)
    (claims : Claims) (now : Nat) : ClaimsCache :=
  let expiresAt := min claims.expiresAt (now + limits.ttl)
  if expiresAt ≤ now then
    cache
  else
    let roomy := (cache.purge limits.capacity now).evict limits.capacity
    (digest, ⟨claims, expiresAt⟩) :: roomy.remove digest

/-- Authenticate a token from the cache, or else by the provider behind it. -/
def authenticate {State : Type} (limits : CacheLimits)
    (inner : Authenticator State) :
    Authenticator (ClaimsCache × State) :=
  fun now token (cache, state) =>
    if !limits.isEnabled then
      let (answer, state) := inner now token state
      (answer, cache, state)
    else
      let digest := tokenDigest token
      match cache.get digest now with
      | (some claims, cache) => (.ok claims, cache, state)
      | (none, cache) =>
          match inner now token state with
          | (.ok claims, state) =>
              (.ok claims, cache.put limits digest claims now, state)
          | (.error failure, state) => (.error failure, cache, state)

end ClaimsCache

end Gatekeeper
