import Gatekeeper.Proofs.Identity.CacheHistory
import Gatekeeper.Proofs.Relation.Checks
import Gatekeeper.Proofs.Service.Passage
import Gatekeeper.Proofs.Service.Traffic

/-!
# Admission to protected handlers

What has happened whenever a request is passed to a protected handler. A run
takes requests one after the other through the whole boundary of a service,
with any sink for its records, and keeps for each of them the exchanges that
the network carried. The entries of the claims cache are traced back to the
visits that put them in.
-/

namespace Gatekeeper

open Gatekeeper.Http

/-! ### Visits -/

/-- One request of a run, from the state before it to the state after. -/
structure Visit (Outside : Type) where
  occasion : Occasion
  request : Request
  before : Running Outside
  admitted : Option Principal
  response : Response
  traffic : List Traffic
  after : Running Outside

namespace Service

variable {Outside Store : Type}

/-- The boundary of a service at a time, with any sink. -/
def boundaryOver (service : Service) (network : Network Outside) (now : Nat)
    (sink : AuditSink Store) : Boundary (Running Outside) Store where
  collaborators := service.collaborators network now
  sink := sink
  policy := service.policy
  target := service.target
  scope := network.scope

/-- Answer one request over a network that notes its traffic. -/
def visit (service : Service) (network : Network Outside)
    (sink : AuditSink Store) (occasion : Occasion) (request : Request)
    (state : Running Outside) (store : Store) : Visit Outside × Store :=
  let boundary := service.boundaryOver network.noting occasion.now sink
  let answered := boundary.answer occasion request (state.noted []) store
  (⟨occasion, request, state,
      boundary.admitted occasion request (state.noted []) store, answered.1,
      answered.2.1.outside.1, answered.2.1.plain⟩,
    answered.2.2)

/-- Answer requests one after the other. -/
def visits (service : Service) (network : Network Outside)
    (sink : AuditSink Store) :
    List (Occasion × Request) → Running Outside → Store → List (Visit Outside)
  | [], _, _ => []
  | (occasion, request) :: rest, state, store =>
      let (made, store) :=
        service.visit network sink occasion request state store
      made :: visits service network sink rest made.after store

def inquiryOf (service : Service) (network : Network Outside)
    (visit : Visit Outside) (passage : Passage) : Inquiry × Running Outside :=
  (service.collaborators network visit.occasion.now).inquire
    (service.target.accessRequest visit.occasion visit.request passage)
    visit.before

/-- How a visit goes: it asks nobody, or it makes the inquiry of its passage,
with fetches of keys before the check of the query. -/
inductive Goes (service : Service) (network : Network Outside)
    (visit : Visit Outside) : Prop where
  | unguarded
      (isOpen : service.target.passage? network.scope visit.request = none)
      (admitted : visit.admitted = none) (after : visit.after = visit.before)
  | guarded (passage : Passage) (fetched checks : List Traffic)
      (isPassage : service.target.passage? network.scope visit.request =
        some passage)
      (onlyKeys : ∀ noted ∈ fetched, noted.isCheck = false)
      (traffic : visit.traffic = fetched ++ checks)
      (after : visit.after = (service.inquiryOf network visit passage).2)
      (admitted : ∀ principal, visit.admitted = some principal ↔
        ∃ answer, (service.inquiryOf network visit passage).1 =
          .ok (principal, answer) ∧ answer.Admits service.policy)
      (asked : ∀ principal answer,
        (service.inquiryOf network visit passage).1 =
            .ok (principal, answer) →
          ∃ token query,
            Credential.ofRequest visit.request = .bearer token ∧
            formQuery principal (service.target.accessRequest visit.occasion
              visit.request passage) = .ok query ∧
            checks = service.checked network query
              ((service.collaborators network visit.occasion.now).authenticate
                token visit.before).2.outside)
      (response : ∀ principal, visit.admitted = some principal →
        visit.response = passage.handler principal)

section

variable {service : Service} {network : Network Outside}
  {sink : AuditSink Store} {occasion : Occasion} {request : Request}
  {state : Running Outside} {store : Store}

theorem visit_of_unguarded
    (isOpen : service.target.passage? network.scope request = none) :
    (service.visit network sink occasion request state
        store).1.admitted = none ∧
      (service.visit network sink occasion request state
        store).1.after = state := by
  -- The boundary of the visit has the rules and the scope of the service.
  have unguarded :
      (service.boundaryOver network.noting occasion.now sink).target.passage?
        (service.boundaryOver network.noting occasion.now sink).scope request =
          none := isOpen
  refine ⟨?_, ?_⟩
  · simp only [visit, Boundary.admitted_of_unguarded unguarded]
  · simp only [visit, Boundary.answer_of_unguarded unguarded]
    rfl

/-- A visit leaves what its inquiry leaves, and the traffic of the inquiry. -/
theorem visit_of_passage {passage : Passage} {traffic : List Traffic}
    (isPassage : service.target.passage? network.scope request = some passage)
    (noted : (service.collaborators network.noting occasion.now).inquire
        (service.target.accessRequest occasion request passage)
          (state.noted []) =
      (((service.collaborators network occasion.now).inquire
          (service.target.accessRequest occasion request passage) state).1,
        ((service.collaborators network occasion.now).inquire
          (service.target.accessRequest occasion request passage)
            state).2.noted traffic)) :
    let visit := (service.visit network sink occasion request state store).1
    visit.traffic = traffic ∧
      visit.after = (service.inquiryOf network visit passage).2 ∧
      ∀ principal, visit.admitted = some principal ↔
        ∃ answer, (service.inquiryOf network visit passage).1 =
          .ok (principal, answer) ∧ answer.Admits service.policy := by
  have guarded :
      (service.boundaryOver network.noting occasion.now sink).target.passage?
        (service.boundaryOver network.noting occasion.now sink).scope request =
          some passage := isPassage
  have left : ((service.boundaryOver network.noting occasion.now sink).answer
      occasion request (state.noted []) store).2.1 =
        ((service.collaborators network occasion.now).inquire
          (service.target.accessRequest occasion request passage)
            state).2.noted traffic := by
    rw [Boundary.answer_state_of_passage guarded]
    exact congrArg Prod.snd noted
  have inquiry : service.inquiryOf network
      (service.visit network sink occasion request state store).1 passage =
        (service.collaborators network occasion.now).inquire
          (service.target.accessRequest occasion request passage) state := rfl
  refine ⟨?_, ?_, fun principal => ?_⟩
  · simp only [visit, left, Running.outside_noted]
  · rw [inquiry]
    simp only [visit, left, Running.plain_noted]
  · rw [inquiry]
    simp only [visit]
    rw [Boundary.admitted_eq_some_iff guarded]
    simp only [boundaryOver, noted]

end

theorem goes_visit (service : Service) (network : Network Outside)
    (sink : AuditSink Store) (occasion : Occasion) (request : Request)
    (state : Running Outside) (store : Store) :
    service.Goes network
      (service.visit network sink occasion request state store).1 := by
  cases isPassage : service.target.passage? network.scope request with
  | none =>
      obtain ⟨admitted, after⟩ := visit_of_unguarded isPassage
      exact .unguarded isPassage admitted after
  | some passage =>
      obtain ⟨fetched, checks, onlyKeys, noted, asked⟩ :=
        service.inquire_noting network occasion.now
          (service.target.accessRequest occasion request passage) state
      obtain ⟨traffic, after, admitted⟩ := visit_of_passage isPassage noted
      refine .guarded passage fetched checks isPassage onlyKeys traffic after
        admitted asked ?_
      intro principal isAdmitted
      simp only [visit] at isAdmitted ⊢
      exact Boundary.answer_of_admitted isPassage isAdmitted

/-! ### Where claims come from -/

/-- The identity provider was asked for the bearer token of a visit, and it
returned claims. -/
structure Verified (service : Service) (network : Network Outside)
    (visit : Visit Outside) (token : String) (claims : Claims) : Prop where
  guarded : (service.target.passage? network.scope visit.request).isSome
  bearer : Credential.ofRequest visit.request = .bearer token
  uncached : ClaimsCache.Misses service.limits visit.before.claims
    visit.occasion.now token
  accepted : (service.provider network visit.occasion.now token
    (visit.before.keys, visit.before.outside)).1 = .ok claims

/-- An entry of the cache was put in by a visit among the earlier ones. -/
def Remembers (service : Service) (network : Network Outside)
    (earlier : List (Visit Outside)) (entry : TokenDigest × CachedClaims) :
    Prop :=
  ∃ visit ∈ earlier, ∃ token claims,
    service.Verified network visit token claims ∧
      entry =
        ClaimsCache.entryFor service.limits visit.occasion.now token claims

/-- Claims come from a verification of the token in a visit, or in one of the
visits before it that is less than the time to live ago, and then they have not
expired. -/
def Vouches (service : Service) (network : Network Outside)
    (past : List (Visit Outside)) (visit : Visit Outside) (token : String)
    (claims : Claims) : Prop :=
  service.Verified network visit token claims ∨
    ∃ earlier ∈ past, service.Verified network earlier token claims ∧
      visit.occasion.now < earlier.occasion.now + service.limits.ttl ∧
      visit.occasion.now < claims.expiresAt

variable {service : Service} {network : Network Outside}
  {visit : Visit Outside}

theorem Remembers.weaken {earlier later : List (Visit Outside)}
    {entry : TokenDigest × CachedClaims}
    (remembered : service.Remembers network earlier entry)
    (included : earlier ⊆ later) : service.Remembers network later entry := by
  obtain ⟨visit, member, source⟩ := remembered
  exact ⟨visit, included member, source⟩

theorem claims_check {now : Nat} {query : RelationQuery}
    {state : Running Outside} :
    ((service.collaborators network now).check query state).2.claims =
      state.claims := by
  simp only [collaborators]

theorem check_answer {now : Nat} {query : RelationQuery}
    {state : Running Outside} :
    ((service.collaborators network now).check query state).1 =
      (service.client.check network.sendCheck query state.outside).1 := by
  simp only [collaborators]

theorem authenticate_answer {now : Nat} {token : String}
    {state : Running Outside} :
    ((service.collaborators network now).authenticate token state).1 =
      (ClaimsCache.authenticate service.limits (service.provider network) now
        token (state.claims, state.keys, state.outside)).1 := by
  simp only [collaborators]

/-- What an inquiry leaves in the cache was there before, or comes from the
verification of the bearer token. -/
theorem mem_claims_inquiryOf {passage : Passage}
    (isPassage : service.target.passage? network.scope visit.request =
      some passage)
    {entry : TokenDigest × CachedClaims}
    (member : entry ∈ (service.inquiryOf network visit passage).2.claims) :
    entry ∈ visit.before.claims ∨ service.Remembers network [visit] entry := by
  have sources : ∀ token,
      Credential.ofRequest visit.request = .bearer token →
      entry ∈ ((service.collaborators network visit.occasion.now).authenticate
        token visit.before).2.claims →
      entry ∈ visit.before.claims ∨
        service.Remembers network [visit] entry := by
    intro token bearer present
    rcases ClaimsCache.mem_of_authenticate present with
      old | ⟨claims, misses, accepted, new⟩
    · exact .inl old
    · exact .inr ⟨visit, List.mem_singleton_self visit, token, claims,
        ⟨by simp [isPassage], bearer, misses, accepted⟩, new⟩
  rcases Collaborators.inquire_state with
    ⟨-, unmoved⟩ | ⟨token, bearer, moved | ⟨query, moved⟩⟩
  · rw [inquiryOf, unmoved] at member
    exact .inl member
  · rw [inquiryOf, moved] at member
    exact sources token bearer member
  · rw [inquiryOf, moved, claims_check] at member
    exact sources token bearer member

/-- A visit keeps the entries of the cache traced back. -/
theorem Goes.remembers (goes : service.Goes network visit)
    {earlier : List (Visit Outside)}
    (remembered : ∀ entry ∈ visit.before.claims,
      service.Remembers network earlier entry) :
    ∀ entry ∈ visit.after.claims,
      service.Remembers network (earlier ++ [visit]) entry := by
  intro entry member
  have old (present : entry ∈ visit.before.claims) :
      service.Remembers network (earlier ++ [visit]) entry :=
    (remembered entry present).weaken (List.subset_append_left _ _)
  cases goes with
  | unguarded isPassage admitted after =>
      rw [after] at member
      exact old member
  | guarded passage fetched checks isPassage onlyKeys traffic after admitted
      asked response =>
      rw [after] at member
      rcases mem_claims_inquiryOf isPassage member with present | new
      · exact old present
      · exact new.weaken (List.subset_append_right _ _)

/-! ### Runs -/

variable {Store : Type} {sink : AuditSink Store}

theorem goes_of_mem_visits {requests : List (Occasion × Request)}
    {state : Running Outside} {store : Store}
    (member : visit ∈ service.visits network sink requests state store) :
    service.Goes network visit ∧
      (visit.occasion, visit.request) ∈ requests := by
  induction requests generalizing state store with
  | nil => cases member
  | cons first rest ih =>
      obtain ⟨occasion, request⟩ := first
      rcases List.mem_cons.mp member with rfl | later
      · exact ⟨service.goes_visit network sink occasion request state store,
          List.mem_cons_self⟩
      · obtain ⟨goes, requested⟩ := ih later
        exact ⟨goes, List.mem_cons_of_mem _ requested⟩

theorem visits_singleton (service : Service) (network : Network Outside)
    (sink : AuditSink Store) (occasion : Occasion) (request : Request)
    (state : Running Outside) (store : Store) :
    service.visits network sink [(occasion, request)] state store =
      [(service.visit network sink occasion request state store).1] := rfl

/-- In a run every entry that a visit finds in the cache was put in by a visit
before it. -/
theorem remembers_of_visits {requests : List (Occasion × Request)}
    {state : Running Outside} {store : Store}
    {earlier past rest : List (Visit Outside)}
    (remembered : ∀ entry ∈ state.claims,
      service.Remembers network earlier entry)
    (run : service.visits network sink requests state store =
      past ++ visit :: rest) :
    ∀ entry ∈ visit.before.claims,
      service.Remembers network (earlier ++ past) entry := by
  -- By induction on the requests: each visit that is made joins the earlier
  -- ones that the rest of the run starts from.
  induction requests generalizing state store earlier past with
  | nil => simp [visits] at run
  | cons first others ih =>
      obtain ⟨occasion, request⟩ := first
      rw [visits] at run
      have goes := service.goes_visit network sink occasion request state store
      cases past with
      | nil =>
          obtain ⟨rfl, -⟩ := List.cons.inj run
          simpa only [visit, List.append_nil] using remembered
      | cons made past =>
          obtain ⟨rfl, others⟩ := List.cons.inj run
          have after := goes.remembers remembered
          have later := ih after others
          rw [List.append_assoc] at later
          exact later

def bearerTokens (requests : List (Occasion × Request)) : List String :=
  requests.filterMap fun (_, request) =>
    match Credential.ofRequest request with
    | .bearer token => some token
    | _ => none

theorem mem_bearerTokens {requests : List (Occasion × Request)}
    {occasion : Occasion} {request : Request} {token : String}
    (requested : (occasion, request) ∈ requests)
    (bearer : Credential.ofRequest request = .bearer token) :
    token ∈ bearerTokens requests := by
  refine List.mem_filterMap.mpr ⟨(occasion, request), requested, ?_⟩
  simp [bearer]

/-- No two tokens of a run share a digest. -/
def DigestsDiffer (requests : List (Occasion × Request)) : Prop :=
  ∀ first ∈ bearerTokens requests, ∀ second ∈ bearerTokens requests,
    tokenDigest first = tokenDigest second → first = second

theorem digestsDiffer_singleton (occasion : Occasion) (request : Request) :
    DigestsDiffer [(occasion, request)] := by
  intro first isFirst second isSecond _
  obtain ⟨_, member, bearer⟩ := List.mem_filterMap.mp isFirst
  obtain ⟨_, alsoMember, alsoBearer⟩ := List.mem_filterMap.mp isSecond
  rw [List.mem_singleton] at member alsoMember
  subst member alsoMember
  exact Option.some.inj (bearer.symm.trans alsoBearer)

/-- Accepted claims are vouched for, when the entries of the cache are traced
back and no other token of the run has the digest of this one. -/
theorem vouches_of_accepted {requests : List (Occasion × Request)}
    {past : List (Visit Outside)} {token : String} {claims : Claims}
    (differ : DigestsDiffer requests)
    (guarded : (service.target.passage? network.scope visit.request).isSome)
    (bearer : Credential.ofRequest visit.request = .bearer token)
    (requested : (visit.occasion, visit.request) ∈ requests)
    (pastRequested : ∀ earlier ∈ past,
      (earlier.occasion, earlier.request) ∈ requests)
    (remembered : ∀ entry ∈ visit.before.claims,
      service.Remembers network past entry)
    (accepted : ((service.collaborators network visit.occasion.now).authenticate
      token visit.before).1 = .ok claims) :
    service.Vouches network past visit token claims := by
  rw [authenticate_answer] at accepted
  rcases ClaimsCache.accepted_of_authenticate accepted with
    ⟨expiresAt, cached, unexpired⟩ | ⟨misses, answered⟩
  · -- The entry was put in for a token with this digest, so for this one.
    obtain ⟨earlier, member, other, others, verified, same⟩ :=
      remembered _ cached
    simp only [ClaimsCache.entryFor, Prod.mk.injEq,
      CachedClaims.mk.injEq] at same
    obtain ⟨sameDigest, rfl, rfl⟩ := same
    have sameToken : token = other :=
      differ token (mem_bearerTokens requested bearer) other
        (mem_bearerTokens (pastRequested earlier member) verified.bearer)
        sameDigest
    subst sameToken
    exact .inr ⟨earlier, member, verified, by omega, by omega⟩
  · exact .inl ⟨guarded, bearer, misses, answered⟩

/-- In production a request is passed to its handler only when, during that
visit, the backend answered with a success and yes to the one check that was
sent; that check asks for the tuple of the canonical id, the relation of the
method and the object of the path; and the user name comes from claims that the
identity provider returned for the bearer token of the request, in that visit
or in a recent one before it. -/
theorem admission (service : Service) (network : Network Outside)
    (sink : AuditSink Store) (requests : List (Occasion × Request))
    (outside : Outside) (store : Store)
    (production : service.policy.environment = .production)
    (differ : DigestsDiffer requests) {past rest : List (Visit Outside)}
    {visit : Visit Outside} {principal : Principal}
    (run : service.visits network sink requests ⟨[], none, outside⟩ store =
      past ++ visit :: rest)
    (admitted : visit.admitted = some principal) :
    ∃ passage token claims request status body,
      service.target.passage? network.scope visit.request = some passage ∧
      visit.response = passage.handler principal ∧
      Credential.ofRequest visit.request = .bearer token ∧
      Identifier.canonical claims.username = .ok principal.canonicalId ∧
      service.Vouches network past visit token claims ∧
      visit.traffic.filter Traffic.isCheck =
        [.check request (.answered status body)] ∧
      isSuccess status = true ∧
      CheckClient.allowed? (bodyText body) = some true ∧
      service.client.request? ⟨principal.canonicalId,
        service.target.relation passage.method,
        service.target.object passage.path⟩ = some request ∧
      request.body = service.client.body ⟨principal.canonicalId,
        service.target.relation passage.method,
        service.target.object passage.path⟩ := by
  have member : visit ∈ service.visits network sink requests
      ⟨[], none, outside⟩ store := by
    simp [run]
  obtain ⟨goes, requested⟩ := goes_of_mem_visits member
  have pastRequested : ∀ earlier ∈ past,
      (earlier.occasion, earlier.request) ∈ requests := by
    intro earlier before
    have earlierMember : earlier ∈ service.visits network sink requests
        ⟨[], none, outside⟩ store := by
      simp [run, before]
    exact (goes_of_mem_visits earlierMember).2
  have remembered : ∀ entry ∈ visit.before.claims,
      service.Remembers network ([] ++ past) entry :=
    remembers_of_visits (by simp) run
  cases goes with
  | unguarded isPassage notAdmitted after =>
      rw [notAdmitted] at admitted
      cases admitted
  | guarded passage fetched checks isPassage onlyKeys traffic after isAdmitted
      asked response =>
      obtain ⟨answer, outcome, admits⟩ := (isAdmitted principal).mp admitted
      -- In production the answer that admits is yes: there is no fallback.
      obtain rfl := (CheckAnswer.admits_production_iff production).mp admits
      obtain
        ⟨token, claims, query, bearer, accepted, named, formed, answered⟩ :=
        Collaborators.inquire_eq_ok_iff.mp outcome
      obtain ⟨_, _, alsoBearer, alsoFormed, isCheck⟩ := asked _ _ outcome
      rw [show Credential.ofRequest visit.request = .bearer token from bearer]
        at alsoBearer
      cases alsoBearer
      rw [formed] at alsoFormed
      cases alsoFormed
      obtain ⟨canonicalId, canonical, rfl⟩ :=
        Principal.ofClaims_eq_ok_iff.mp named
      obtain ⟨-, -, -, rfl⟩ := formQuery_eq_ok_iff.mp formed
      rw [check_answer] at answered
      obtain ⟨request, status, body, sent, exchanged, success, allowed⟩ :=
        CheckClient.check_eq_ok_iff.mp answered.symm
      refine ⟨passage, token, claims, request, status, body, isPassage,
        response _ admitted, bearer, canonical, ?_, ?_, success, allowed, sent,
        CheckClient.request?_body sent⟩
      · exact vouches_of_accepted differ (by simp [isPassage]) bearer requested
          pastRequested remembered accepted
      · have noFetch : fetched.filter Traffic.isCheck = [] := by
          rw [List.filter_eq_nil_iff]
          intro noted present
          simp [onlyKeys noted present]
        have oneCheck : checks = [.check request (.answered status body)] := by
          rw [isCheck, checked, sent, ← exchanged]
          rfl
        rw [traffic, List.filter_append, noFetch, oneCheck]
        rfl

end Service

/-! ### An admitted request -/

namespace Sample

def service : Service where
  identity := .configured ⟨none, none, "sub", 0⟩ key
  limits := ⟨60, 16⟩
  client := ⟨"http://backend", "main", none, none⟩
  audit := .log
  policy := ⟨.production, true⟩
  target := .standard

def allowing : List UInt8 :=
  Text.Utf8.encode "\x7b\"allowed\":true\x7d"

/-- A network whose backend says yes to every check. -/
def network : Network Unit where
  fetchKeys _ _ := (.unanswered, ())
  sendCheck _ _ := (.answered 200 allowing, ())
  scope := literalScope

def authorization : HeaderValue :=
  ("Bearer ".toList ++ tokenText).map fun character =>
    UInt8.ofNat character.toNat

def request : Request :=
  ⟨"GET", ⟨"/api/orders/7", some "/api/orders/7"⟩,
    [("authorization", authorization)]⟩

def principal : Principal :=
  ⟨"mallory", "user:mallory", claims⟩

/-- What the texts of the request and of the answer are read as. -/
theorem request_readings :
    (authorization.all HeaderValue.isReadableByte = true ∧
      (authorization.map fun byte => Char.ofNat byte.toNat) =
        "Bearer ".toList ++ tokenText ∧
      Text.words Credential.isSpace ("Bearer ".toList ++ tokenText) =
        ["Bearer".toList, tokenText]) ∧
      Route.ofPath literalScope "/api" "/api/orders/7" = .guarded ∧
      TargetRules.standard.object "/api/orders/7" = "orders:7" ∧
      (Identifier.canonical "mallory").toOption = some "user:mallory" ∧
      relationFault? "viewer".toList = none ∧
      objectFault? "orders:7".toList = none ∧
      (service.client.request?
        ⟨"user:mallory", "viewer", "orders:7"⟩).isSome = true ∧
      CheckClient.allowed? (bodyText allowing) = some true := by
  decide +kernel

theorem ofRequest_request :
    Credential.ofRequest request = .bearer token := by
  obtain ⟨⟨readable, letters, split⟩, -⟩ := request_readings
  have text : authorization.text? =
      some (String.ofList ("Bearer ".toList ++ tokenText)) := by
    rw [HeaderValue.text?, if_pos readable, letters]
  have whole : token.toList = tokenText := String.toList_ofList
  refine Credential.ofRequest_eq_bearer_iff.mpr
    ⟨authorization, _, "Bearer".toList, ?_, text, ?_, by decide⟩
  · simp [Request.values, request]
  · rw [String.toList_ofList, split, whole]

theorem passage?_request :
    service.target.passage? network.scope request =
      some ⟨"GET", "/api/orders/7", protectedAnswer "/api" request⟩ := by
  have route : Route.ofPath literalScope "/api" "/api/orders/7" = .guarded :=
    request_readings.2.1
  unfold TargetRules.passage?
  simp only [service, TargetRules.standard, request, network, route]
  rfl

theorem provider_token {Outside : Type} (network : Network Outside)
    (state : KeyCache × Outside) :
    (service.provider network 1700000000 token state).1 = .ok claims :=
  Service.provider_eq_ok_iff.mpr ⟨_, key, examined_token, rfl,
    judge_token _ (by decide)⟩

theorem check_allowing (outside : List Traffic × Unit) :
    (service.client.check network.noting.sendCheck
      ⟨"user:mallory", "viewer", "orders:7"⟩ outside).1 = .ok true := by
  obtain ⟨-, -, -, -, -, -, sent, allowed⟩ := request_readings
  obtain ⟨check, isCheck⟩ := Option.isSome_iff_exists.mp sent
  exact CheckClient.check_eq_ok_iff.mpr
    ⟨check, 200, allowing, isCheck, rfl, by decide, allowed⟩

def firstVisit : Visit Unit :=
  (service.visit network AuditSink.memory ⟨"1", 1700000000⟩ request
    ⟨[], none, ()⟩ []).1

theorem authenticate_token :
    ((service.collaborators network.noting 1700000000).authenticate token
      ⟨[], none, [], ()⟩).1 = .ok claims := by
  rw [Service.authenticate_answer,
    ClaimsCache.authenticate_of_misses (.inr rfl)]
  exact provider_token network.noting (none, [], ())

theorem canonical_mallory :
    Identifier.canonical claims.username = .ok "user:mallory" :=
  eq_ok_of_toOption request_readings.2.2.2.1

def accessRequest : AccessRequest :=
  ⟨"1", .bearer token, "viewer", "orders:7"⟩

theorem accessRequest_request :
    service.target.accessRequest ⟨"1", 1700000000⟩ request
        ⟨"GET", "/api/orders/7", protectedAnswer "/api" request⟩ =
      accessRequest := by
  have object : service.target.object "/api/orders/7" = "orders:7" :=
    request_readings.2.2.1
  rw [TargetRules.accessRequest, ofRequest_request, object]
  rfl

theorem formQuery_principal :
    formQuery principal accessRequest =
      .ok ⟨"user:mallory", "viewer", "orders:7"⟩ := by
  obtain ⟨-, -, -, -, relation, object, -⟩ := request_readings
  exact formQuery_eq_ok_iff.mpr ⟨isUser_of_canonical canonical_mallory,
    relationFault?_eq_none_iff.mp relation, objectFault?_eq_none_iff.mp object,
    rfl⟩

theorem inquire_accessRequest :
    ((service.collaborators network.noting 1700000000).inquire accessRequest
      ⟨[], none, [], ()⟩).1 = .ok (principal, .ok true) := by
  have named : Principal.ofClaims claims = .ok principal :=
    Principal.ofClaims_eq_ok_iff.mpr ⟨"user:mallory", canonical_mallory, rfl⟩
  refine Collaborators.inquire_eq_ok_iff.mpr
    ⟨token, claims, _, rfl, authenticate_token, named, formQuery_principal, ?_⟩
  rw [Service.check_answer, check_allowing]

theorem admitted_firstVisit : firstVisit.admitted = some principal := by
  have guarded : (service.boundaryOver network.noting 1700000000
      (AuditSink.memory)).target.passage? network.scope request =
        some ⟨"GET", "/api/orders/7", protectedAnswer "/api" request⟩ :=
    passage?_request
  simp only [firstVisit, Service.visit, Running.noted]
  rw [Boundary.admitted_eq_some_iff guarded]
  simp only [Service.boundaryOver, accessRequest_request]
  exact ⟨.ok true, inquire_accessRequest, .inl rfl⟩

end Sample

/-- The sample request is admitted, for claims that the visit itself
verified. -/
theorem admission_of_sample :
    ∃ token claims, Sample.service.policy.environment = .production ∧
      Sample.firstVisit.admitted = some Sample.principal ∧
      Credential.ofRequest Sample.request = .bearer token ∧
      Identifier.canonical claims.username =
        .ok Sample.principal.canonicalId ∧
      Sample.service.Vouches Sample.network [] Sample.firstVisit token
        claims := by
  have run : Sample.service.visits Sample.network AuditSink.memory
      [(⟨"1", 1700000000⟩, Sample.request)] ⟨[], none, ()⟩ [] =
        [] ++ Sample.firstVisit :: [] :=
    Service.visits_singleton Sample.service Sample.network AuditSink.memory
      ⟨"1", 1700000000⟩ Sample.request ⟨[], none, ()⟩ []
  obtain ⟨passage, token, claims, request, status, body, -, -, bearer,
    canonical, vouched, -⟩ := Service.admission Sample.service Sample.network
      AuditSink.memory _ () [] rfl (Service.digestsDiffer_singleton _ _) run
      Sample.admitted_firstVisit
  exact ⟨token, claims, rfl, Sample.admitted_firstVisit, bearer, canonical,
    vouched⟩

end Gatekeeper
