import Gatekeeper.Proofs.Identity.CacheHistory
import Gatekeeper.Proofs.Token.Acceptance

/-!
# Visibility of the claims cache

Whether a caller can tell that there is a cache. Before a provider whose claims
last until they expire it cannot be seen: an entry never outlives its claims, so
that a hit answers what the provider would answer at that time. The provider of
a configured key is of this kind, because of all that it checks only the times
of a token depend on the clock.
-/

namespace Gatekeeper

open Gatekeeper.Json
open Gatekeeper.Number

/-! ### Tokens under one key last -/

theorem truncated_le_nearestUp (magnitude : Magnitude) :
    magnitude.truncated ≤ magnitude.nearestUp := by
  unfold Magnitude.truncated Magnitude.nearestUp
  rcases magnitude.toQuotient with ⟨above, below⟩
  rcases Nat.eq_zero_or_pos below with rfl | positive
  · simp
  · refine (Nat.le_div_iff_mul_le (by omega)).mpr ?_
    calc above / below * (2 * below)
        = 2 * (above / below * below) := Nat.mul_left_comm _ _ _
      _ ≤ 2 * above := Nat.mul_le_mul_left 2 (Nat.div_mul_le_self above below)
      _ ≤ 2 * above + below := Nat.le_add_right _ _

/-- Claims never expire after the moment that validation reads for them: they
are cut to whole seconds where the moment is rounded. -/
theorem wholeSeconds_le_moment {number : JsonNumber} {moment : Nat}
    (isMoment : momentOf? (some (.number number)) = some moment) :
    wholeSeconds number ≤ moment := by
  cases number with
  | natural seconds =>
      obtain rfl := Option.some.inj isMoment
      exact Nat.le_refl _
  | negative magnitude => cases isMoment
  | double value =>
      simp only [momentOf?, Option.ite_none_left_eq_some,
        Option.some.injEq] at isMoment
      obtain ⟨-, rfl⟩ := isMoment
      simp only [wholeSeconds]
      split
      · exact Nat.zero_le _
      · exact Nat.le_trans (Nat.min_le_left _ _) (truncated_le_nearestUp _)

/-- A payload within its times stays so while its claims have not expired. -/
theorem TokenRules.IsTimely.of_le {rules : TokenRules} {now later : Nat}
    {payload : Members} {claims : Claims}
    (timely : rules.IsTimely now payload)
    (derived : rules.claims payload = .ok claims) (ordered : now ≤ later)
    (unexpired : later < claims.expiresAt) :
    rules.IsTimely later payload := by
  obtain ⟨number, expiry, expiresAt⟩ := TokenRules.expiresAt_of_claims derived
  obtain ⟨moment, isMoment, -⟩ := timely.unexpired
  rw [expiry] at isMoment
  have bound := wholeSeconds_le_moment isMoment
  refine ⟨⟨moment, by rw [expiry, isMoment], by omega⟩, ?_⟩
  intro start isStart
  have begun := timely.begun start isStart
  omega

theorem ExaminedToken.judge_of_le {token : ExaminedToken} {rules : TokenRules}
    {now later : Nat} {key : VerificationKey} {claims : Claims}
    (judged : token.judge rules now key = .ok claims) (ordered : now ≤ later)
    (unexpired : later < claims.expiresAt) :
    token.judge rules later key = .ok claims := by
  obtain ⟨payload, valid, derived⟩ := judge_eq_ok_iff.mp judged
  obtain ⟨signed, carried, checked⟩ := TokenRules.validate_eq_ok_iff.mp valid
  obtain ⟨timely, issuer, audience⟩ :=
    TokenRules.checkPayload_eq_ok_iff.mp checked
  have stillTimely := timely.of_le derived ordered unexpired
  exact judge_eq_ok_iff.mpr ⟨payload,
    TokenRules.validate_eq_ok_iff.mpr ⟨signed, carried,
      TokenRules.checkPayload_eq_ok_iff.mpr ⟨stillTimely, issuer, audience⟩⟩,
    derived⟩

/-! ### Providers without a state -/

/-- Claims that are given for a token are given for it until they expire. -/
def Lasting (answer : Nat → String → Authentication) : Prop :=
  ∀ now later token claims, answer now token = .ok claims → now ≤ later →
    later < claims.expiresAt → answer later token = .ok claims

theorem lasting_authenticateUnderKey (rules : TokenRules)
    (key : VerificationKey) : Lasting (authenticateUnderKey rules key) := by
  intro now later token claims accepted ordered unexpired
  obtain ⟨examined, isExamined, judged⟩ :=
    authenticateUnderKey_eq_ok_iff.mp accepted
  exact authenticateUnderKey_eq_ok_iff.mpr
    ⟨examined, isExamined, ExaminedToken.judge_of_le judged ordered unexpired⟩

/-- The provider of a configured key. It keeps nothing between its answers. -/
def underKey (rules : TokenRules) (key : VerificationKey) :
    Authenticator Unit :=
  fun now token state => (authenticateUnderKey rules key now token, state)

/-- A service with a configured key has this provider. -/
example {Outside : Type} (service : Service) (network : Network Outside)
    (rules : TokenRules) (key : VerificationKey) (now : Nat) (token : String)
    (state : KeyCache × Outside) :
    Service.provider { service with identity := .configured rules key } network
        now token state =
      ((underKey rules key now token ()).1, state) := rfl

/-- The answers of a provider to tokens one after the other, each at its
time. -/
def Authenticator.answers {State : Type} (provider : Authenticator State) :
    List (Nat × String) → State → List Authentication
  | [], _ => []
  | (now, token) :: rest, state =>
      let (answer, state) := provider now token state
      answer :: answers provider rest state

theorem Authenticator.answers_cons {State : Type}
    (provider : Authenticator State) (now : Nat) (token : String)
    (rest : List (Nat × String)) (state : State) :
    answers provider ((now, token) :: rest) state =
      (provider now token state).1 ::
        answers provider rest (provider now token state).2 := rfl

/-! ### What the cache holds -/

namespace ClaimsCache

/-- From a time on the entries of a cache agree with a provider about some
tokens: until an entry expires, its claims are the answer to the token. -/
def IsFaithful (cache : ClaimsCache)
    (answer : Nat → String → Authentication) (tokens : List String)
    (since : Nat) : Prop :=
  ∀ entry ∈ cache, ∀ token ∈ tokens, tokenDigest token = entry.1 →
    ∀ later, since ≤ later → later < entry.2.expiresAt →
      answer later token = .ok entry.2.claims

variable {State : Type} {limits : CacheLimits} {inner : Authenticator State}
  {answer : Nat → String → Authentication} {tokens : List String}
  {since now : Nat} {token : String} {cache : ClaimsCache} {state : State}

theorem IsFaithful.of_le (faithful : cache.IsFaithful answer tokens since)
    (ordered : since ≤ now) : cache.IsFaithful answer tokens now :=
  fun entry member token isToken same later reached unexpired =>
    faithful entry member token isToken same later
      (Nat.le_trans ordered reached) unexpired

/-- A call through a faithful cache is answered as without the cache. -/
theorem answer_of_isFaithful (limits : CacheLimits)
    (faithful : cache.IsFaithful answer tokens now) (isToken : token ∈ tokens)
    (stateless : (inner now token state).1 = answer now token) :
    (authenticate limits inner now token (cache, state)).1 =
      answer now token := by
  cases enabled : limits.isEnabled with
  | false => rw [authenticate_of_misses (.inl enabled), stateless]
  | true =>
      rcases found : (cache.get (tokenDigest token) now).1 with _ | claims
      · rw [authenticate_of_misses (.inr found), stateless]
      · obtain ⟨expiresAt, member, unexpired⟩ := exists_entry_of_get found
        rw [authenticate_of_found enabled found]
        exact (faithful _ member token isToken rfl now (Nat.le_refl now)
          unexpired).symm

/-- A call keeps the cache faithful: what it puts in lasts no longer than the
claims, and no other token has the digest. -/
theorem IsFaithful.authenticate (limits : CacheLimits)
    (lasting : Lasting answer)
    (distinct : ∀ first ∈ tokens, ∀ second ∈ tokens,
      tokenDigest first = tokenDigest second → first = second)
    (faithful : cache.IsFaithful answer tokens now) (isToken : token ∈ tokens)
    (stateless : (inner now token state).1 = answer now token) :
    IsFaithful (ClaimsCache.authenticate limits inner now token
      (cache, state)).2.1 answer tokens now := by
  intro entry member other isOther same later reached unexpired
  rcases mem_of_authenticate member with old | ⟨claims, -, accepted, rfl⟩
  · exact faithful entry old other isOther same later reached unexpired
  · obtain rfl := distinct other isOther token isToken same
    rw [stateless] at accepted
    have alive : later < claims.expiresAt :=
      Nat.lt_of_lt_of_le unexpired (Nat.min_le_left _ _)
    exact lasting now later other claims accepted reached alive

/-- A run through a faithful cache is answered as without the cache. -/
theorem answers_of_isFaithful (lasting : Lasting answer)
    (distinct : ∀ first ∈ tokens, ∀ second ∈ tokens,
      tokenDigest first = tokenDigest second → first = second)
    (stateless : ∀ now token state,
      (inner now token state).1 = answer now token)
    {requests : List (Nat × String)}
    (requested : ∀ request ∈ requests, request.2 ∈ tokens)
    (ordered : (requests.map Prod.fst).Pairwise (· ≤ ·))
    (started : ∀ request ∈ requests, since ≤ request.1)
    (faithful : cache.IsFaithful answer tokens since) :
    Authenticator.answers (ClaimsCache.authenticate limits inner) requests
        (cache, state) =
      requests.map fun request => answer request.1 request.2 := by
  induction requests generalizing since cache state with
  | nil => rfl
  | cons request rest ih =>
      obtain ⟨now, token⟩ := request
      rw [List.map_cons, List.pairwise_cons] at ordered
      obtain ⟨earliest, ordered⟩ := ordered
      have isToken : token ∈ tokens := requested (now, token) List.mem_cons_self
      have faithfulNow : cache.IsFaithful answer tokens now :=
        faithful.of_le (started (now, token) List.mem_cons_self)
      have answered := answer_of_isFaithful limits faithfulNow isToken
        (stateless now token state)
      have faithfulAfter := faithfulNow.authenticate limits lasting distinct
        isToken (stateless now token state)
      rw [Authenticator.answers_cons, answered, List.map_cons]
      refine congrArg (List.cons (answer now token))
        (ih ?_ ordered ?_ faithfulAfter)
      · intro request member
        exact requested request (List.mem_cons_of_mem _ member)
      · intro request member
        exact earliest request.1 (List.mem_map_of_mem member)

theorem isFaithful_nil :
    IsFaithful [] answer tokens since := by
  intro entry member
  cases member

end ClaimsCache

/-- Before the provider of a configured key the claims cache cannot be seen.
Over any run with a clock that does not go back, in which no two tokens share a
digest, each answer is the one that the key alone gives to that token at that
time, whatever was asked before. -/
theorem answers_cached_underKey (rules : TokenRules) (key : VerificationKey)
    (limits : CacheLimits) (requests : List (Nat × String))
    (ordered : (requests.map Prod.fst).Pairwise (· ≤ ·))
    (distinct : ∀ first ∈ requests, ∀ second ∈ requests,
      tokenDigest first.2 = tokenDigest second.2 → first.2 = second.2) :
    Authenticator.answers (ClaimsCache.authenticate limits (underKey rules key))
        requests ([], ()) =
      Authenticator.answers (underKey rules key) requests () ∧
    Authenticator.answers (ClaimsCache.authenticate limits (underKey rules key))
        requests ([], ()) =
      requests.map fun request =>
        authenticateUnderKey rules key request.1 request.2 := by
  have bare (requests : List (Nat × String)) :
      Authenticator.answers (underKey rules key) requests () =
        requests.map fun request =>
          authenticateUnderKey rules key request.1 request.2 := by
    induction requests with
    | nil => rfl
    | cons request rest ih =>
        rw [Authenticator.answers_cons, List.map_cons]
        exact congrArg (List.cons _) ih
  have distinctTokens : ∀ first ∈ requests.map Prod.snd,
      ∀ second ∈ requests.map Prod.snd,
        tokenDigest first = tokenDigest second → first = second := by
    intro first isFirst second isSecond same
    obtain ⟨firstRequest, firstMember, rfl⟩ := List.mem_map.mp isFirst
    obtain ⟨secondRequest, secondMember, rfl⟩ := List.mem_map.mp isSecond
    exact distinct firstRequest firstMember secondRequest secondMember same
  have cached :
      Authenticator.answers
          (ClaimsCache.authenticate limits (underKey rules key)) requests
          ([], ()) =
        requests.map fun request =>
          authenticateUnderKey rules key request.1 request.2 := by
    refine ClaimsCache.answers_of_isFaithful
      (lasting_authenticateUnderKey rules key) distinctTokens ?_ ?_ ordered
      (fun request _ => Nat.zero_le request.1) ClaimsCache.isFaithful_nil
    · intro now token state
      rfl
    · intro request member
      exact List.mem_map_of_mem member
  exact ⟨cached.trans (bare requests).symm, cached⟩

namespace Sample

/-- A token without any dots. -/
def bareToken : String :=
  String.ofList ['x']

/-- The sample token comes twice, and another one between. -/
def mixedRequests : List (Nat × String) :=
  [(1700000000, token), (1700000030, bareToken), (1700000030, token)]

theorem digest_bareToken_ne : tokenDigest bareToken ≠ tokenDigest token := by
  simp only [tokenDigest, Text.Utf8.encode, bareToken, token,
    String.toList_ofList]
  decide +kernel

theorem authenticate_token_underKey {now : Nat} (early : now ≤ 1800000000) :
    authenticateUnderKey ⟨none, none, "sub", 0⟩ key now token = .ok claims :=
  authenticateUnderKey_eq_ok_iff.mpr
    ⟨_, examined_token, judge_token _ early⟩

theorem authenticate_bareToken (now : Nat) :
    authenticateUnderKey ⟨none, none, "sub", 0⟩ key now bareToken =
      .error (TokenFault.header .parts).failure := by
  have undotted : TokenParts.ofText? bareToken = none := by
    simp [TokenParts.ofText?, bareToken, Text.splitLast?, Text.splitFirst?]
  simp [authenticateUnderKey, ExaminedToken.ofText, TokenHeader.ofToken,
    undotted]

end Sample

/-- The sample token is served from the cache the second time, and the other
token is refused as without it. -/
theorem answers_cached_of_sample :
    (Sample.mixedRequests.map Prod.fst).Pairwise (· ≤ ·) ∧
      Authenticator.answers
          (ClaimsCache.authenticate ⟨60, 16⟩
            (underKey ⟨none, none, "sub", 0⟩ Sample.key))
          Sample.mixedRequests ([], ()) =
        [.ok Sample.claims, .error (TokenFault.header .parts).failure,
          .ok Sample.claims] := by
  have ordered : (Sample.mixedRequests.map Prod.fst).Pairwise (· ≤ ·) := by
    decide
  have distinct : ∀ first ∈ Sample.mixedRequests,
      ∀ second ∈ Sample.mixedRequests,
        tokenDigest first.2 = tokenDigest second.2 → first.2 = second.2 := by
    simp [Sample.mixedRequests, Sample.digest_bareToken_ne,
      Sample.digest_bareToken_ne.symm]
  obtain ⟨-, answered⟩ := answers_cached_underKey ⟨none, none, "sub", 0⟩
    Sample.key ⟨60, 16⟩ Sample.mixedRequests ordered distinct
  refine ⟨ordered, answered.trans ?_⟩
  simp only [Sample.mixedRequests, List.map_cons, List.map_nil,
    Sample.authenticate_bareToken,
    Sample.authenticate_token_underKey (by decide : 1700000000 ≤ 1800000000),
    Sample.authenticate_token_underKey (by decide : 1700000030 ≤ 1800000000)]

end Gatekeeper
