import Gatekeeper.Http.Exchange
import Gatekeeper.Identity.Token

/-!
# Key sets

The set of keys that an identity provider publishes, and the set that is kept of
it. The kept set is fetched again when it has grown old or lacks the key of a
token, but attempts keep a distance from each other. A token is looked up in one
step, and when that asks for a fetch, its answer is taken in a second step.
-/

namespace Gatekeeper

open Gatekeeper.Json
open Gatekeeper.Text

structure KeySet where
  keys : List PublishedKey
deriving DecidableEq, Repr

namespace KeySet

/-- The set that a document writes: an object with its keys, or an array with
nothing else. -/
def ofDocument? (document : Document) : Option KeySet := do
  let members ← document.record? ["keys"]
  match members.lookup "keys" with
  | some (.array items) =>
      (items.mapM (PublishedKey.ofDocument? (Document.maxDepth - 2))).map
        KeySet.mk
  | _ => none

def ofBytes? (bytes : List UInt8) : Option KeySet :=
  (Document.read? (Utf8.decode bytes)).bind ofDocument?

/-- The key with an id. A token that names no key selects the only one there
is. -/
def select? (set : KeySet) (keyId : Option String) : Option PublishedKey :=
  match keyId, set.keys with
  | some id, keys => keys.find? fun key => key.id = some id
  | none, [key] => some key
  | none, _ => none

/-- The verification key that a token selects, if any; a selected key may be
unusable. -/
def find (set : KeySet) (keyId : Option String) :
    Except TokenFault (Option VerificationKey) :=
  match set.select? keyId with
  | none => .ok none
  | some key =>
      match key.verificationKey? with
      | none => .error (.unusableKey keyId)
      | some usable => .ok (some usable)

end KeySet

/-! ### Fetching -/

inductive FetchFault where
  | unanswered
  | status (code : Nat)
  | undecodable
deriving DecidableEq, Repr

def FetchFault.message : FetchFault → String
  | unanswered => "fetch jwks"
  | status code => "fetch jwks: unexpected status " ++ Http.statusText code
  | undecodable => "decode jwks"

def KeySet.ofExchange : Http.Exchange → Except FetchFault KeySet
  | .unanswered => .error .unanswered
  | .cutShort status =>
      if Http.isSuccess status then .error .undecodable
      else .error (.status status)
  | .answered status body =>
      if Http.isSuccess status then
        match KeySet.ofBytes? body.bytes with
        | none => .error .undecodable
        | some set => .ok set
      else
        .error (.status status)

/-! ### Keeping -/

/-- A kept key set, with the times of its fetch and of the last attempt to fetch
another. -/
structure KeptKeySet where
  set : KeySet
  fetchedAt : Nat
  lastAttempt : Nat
deriving DecidableEq, Repr

/-- What is kept of the published set; nothing before the first fetch that
brought one. -/
abbrev KeyCache := Option KeptKeySet

/-- The least number of seconds between attempts. -/
def minRefreshInterval : Nat := 10

inductive KeyLookup where
  | found (key : VerificationKey)
  | refused (fault : TokenFault)
  /-- A fetch has to be made. The kept key serves if that brings nothing. -/
  | fetch (kept : Option VerificationKey)
deriving DecidableEq, Repr

namespace KeyCache

/-- Look up the key that a token selects. -/
def lookUp (cache : KeyCache) (refreshInterval now : Nat)
    (keyId : Option String) :
    KeyLookup :=
  match cache with
  | none => .fetch none
  | some kept =>
      let mayRefresh := decide (minRefreshInterval ≤ now - kept.lastAttempt)
      match kept.set.find keyId with
      | .error fault => .refused fault
      | .ok none =>
          if mayRefresh then .fetch none else .refused (.unknownKey keyId)
      | .ok (some key) =>
          if refreshInterval ≤ now - kept.fetchedAt ∧ mayRefresh then
            .fetch (some key)
          else .found key

def markAttempt (cache : KeyCache) (now : Nat) : KeyCache :=
  cache.map fun kept => { kept with lastAttempt := now }

/-- Take the answer to a fetch: the key of the token, and what is kept from then
on, stamped with the time at which the answer is there. -/
def take (cache : KeyCache) (now : Nat) (keyId : Option String)
    (kept : Option VerificationKey) (answer : Except FetchFault KeySet) :
    Except IdentityFailure VerificationKey × KeyCache :=
  match answer with
  | .ok set =>
      match set.find keyId with
      | .error fault => (.error fault.failure, cache)
      | .ok none =>
          (.error (TokenFault.unknownKey keyId).failure, some ⟨set, now, now⟩)
      | .ok (some key) => (.ok key, some ⟨set, now, now⟩)
  | .error fault =>
      (match kept with
        | some key => .ok key
        | none => .error (.unavailable fault.message),
        cache.markAttempt now)

end KeyCache

/-! ### Authenticating -/

/-- The rules for tokens and how long a key set serves before it is fetched
again. -/
structure PublishedKeys where
  rules : TokenRules
  refreshInterval : Nat
deriving DecidableEq, Repr

namespace PublishedKeys

variable {State : Type}

/-- The key of an examined token, fetching the set where that is due. A call has
one time: if it makes a fetch, that is the time of the answer. -/
def keyFor (provider : PublishedKeys) (fetch : State → Http.Exchange × State)
    (now : Nat) (keyId : Option String) (state : KeyCache × State) :
    Except IdentityFailure VerificationKey × KeyCache × State :=
  let (cache, network) := state
  match cache.lookUp provider.refreshInterval now keyId with
  | .found key => (.ok key, cache, network)
  | .refused fault => (.error fault.failure, cache, network)
  | .fetch kept =>
      let (exchange, network) := fetch network
      let (key, cache) := cache.take now keyId kept (KeySet.ofExchange exchange)
      (key, cache, network)

/-- Authenticate a token under the key of the published set that it selects. The
time of a call that makes a fetch is that of the answer. -/
def authenticate (provider : PublishedKeys)
    (fetch : State → Http.Exchange × State) :
    Authenticator (KeyCache × State) :=
  fun now token state =>
    match ExaminedToken.ofText token with
    | .error fault => (.error fault.failure, state)
    | .ok examined =>
        match provider.keyFor fetch now examined.keyId state with
        | (.error failure, state) => (.error failure, state)
        | (.ok key, state) =>
            ((examined.judge provider.rules now key).mapError
              TokenFault.failure, state)

end PublishedKeys

end Gatekeeper
