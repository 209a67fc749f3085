import Gatekeeper.Proofs.Decision.Law
import Gatekeeper.Proofs.Identity.KeyHistory

/-!
# Traffic of a service

A network can note the exchanges that it carries. Noting changes no answer and
no state of a running service, and tells apart the fetches of keys from the
checks: authenticating a token makes fetches only, and a query makes at most
one check.
-/

namespace Gatekeeper

/-- An exchange that the network carried. -/
inductive Traffic where
  | keys (url : String) (exchange : Http.Exchange)
  | check (request : CheckRequest) (exchange : Http.Exchange)

def Traffic.isCheck : Traffic → Bool
  | keys _ _ => false
  | check _ _ => true

/-- A network that notes what it carries. -/
def Network.noting {Outside : Type} (network : Network Outside) :
    Network (List Traffic × Outside) where
  scope := network.scope
  fetchKeys url := fun (traffic, outside) =>
    let (exchange, outside) := network.fetchKeys url outside
    (exchange, traffic ++ [.keys url exchange], outside)
  sendCheck request := fun (traffic, outside) =>
    let (exchange, outside) := network.sendCheck request outside
    (exchange, traffic ++ [.check request exchange], outside)

namespace Running

variable {Outside : Type}

/-- A running service before a network that has noted some traffic. -/
def noted (state : Running Outside) (traffic : List Traffic) :
    Running (List Traffic × Outside) :=
  ⟨state.claims, state.keys, traffic, state.outside⟩

/-- A running service without the notes of its network. -/
def plain (state : Running (List Traffic × Outside)) : Running Outside :=
  ⟨state.claims, state.keys, state.outside.2⟩

@[simp] theorem plain_noted (state : Running Outside)
    (traffic : List Traffic) : (state.noted traffic).plain = state := rfl

@[simp] theorem outside_noted (state : Running Outside)
    (traffic : List Traffic) :
    (state.noted traffic).outside = (traffic, state.outside) := rfl

end Running

namespace Service

variable {Outside : Type} (service : Service) (network : Network Outside)

/-- The identity provider answers as it does without notes, and it only fetches
keys. -/
theorem provider_noting (now : Nat) (token : String) (keys : KeyCache)
    (traffic : List Traffic) (outside : Outside) :
    ∃ fetched, (∀ noted ∈ fetched, noted.isCheck = false) ∧
      service.provider network.noting now token (keys, traffic, outside) =
        ((service.provider network now token (keys, outside)).1,
          (service.provider network now token (keys, outside)).2.1,
          traffic ++ fetched,
          (service.provider network now token (keys, outside)).2.2) := by
  unfold provider
  cases service.identity with
  | configured rules key => exact ⟨[], by simp, by simp⟩
  | published url provider =>
      obtain ⟨brought, noted⟩ := provider.authenticate_noting (.keys url)
        (network.fetchKeys url) now token keys traffic outside
      refine ⟨brought.map (.keys url), ?_, noted⟩
      intro note member
      obtain ⟨exchange, -, rfl⟩ := List.mem_map.mp member
      rfl

/-- Authenticating by the cache and the provider behind it likewise. -/
theorem authenticate_noting (now : Nat) (token : String)
    (state : Running Outside) (traffic : List Traffic) :
    ∃ fetched, (∀ noted ∈ fetched, noted.isCheck = false) ∧
      (service.collaborators network.noting now).authenticate token
          (state.noted traffic) =
        (((service.collaborators network now).authenticate token state).1,
          ((service.collaborators network now).authenticate token state).2.noted
            (traffic ++ fetched)) := by
  obtain ⟨fetched, onlyKeys, asked⟩ := service.provider_noting network now token
    state.keys traffic state.outside
  simp only [collaborators, ClaimsCache.authenticate, Running.noted]
  cases enabled : service.limits.isEnabled with
  | false =>
      exact ⟨fetched, onlyKeys, by simp [asked]⟩
  | true =>
      simp only [Bool.not_true, Bool.false_eq_true, if_false]
      rcases found : state.claims.get (tokenDigest token) now with
        ⟨_ | claims, rest⟩
      · refine ⟨fetched, onlyKeys, ?_⟩
        simp only [asked]
        rcases answered : service.provider network now token
          (state.keys, state.outside) with ⟨failure | claims, keys, outside⟩
        · simp
        · simp
      · exact ⟨[], by simp, by simp⟩

/-- The check that a query makes, if it can be sent. -/
def checked (query : RelationQuery) (outside : Outside) : List Traffic :=
  (service.client.request? query).toList.map fun request =>
    .check request (network.sendCheck request outside).1

theorem check_noting (now : Nat) (query : RelationQuery)
    (state : Running Outside) (traffic : List Traffic) :
    (service.collaborators network.noting now).check query
        (state.noted traffic) =
      (((service.collaborators network now).check query state).1,
        ((service.collaborators network now).check query state).2.noted
          (traffic ++ service.checked network query state.outside)) := by
  simp only [collaborators, CheckClient.check, checked, Running.noted]
  cases service.client.request? query with
  | none => simp
  | some request => simp [Network.noting]

/-- An inquiry makes fetches, and after them the check of its query. -/
theorem inquire_noting (now : Nat) (request : AccessRequest)
    (state : Running Outside) :
    let inquiry := (service.collaborators network now).inquire request state
    ∃ fetched checks, (∀ noted ∈ fetched, noted.isCheck = false) ∧
      (service.collaborators network.noting now).inquire request
          (state.noted []) =
        (inquiry.1, inquiry.2.noted (fetched ++ checks)) ∧
      ∀ principal answer, inquiry.1 = .ok (principal, answer) →
        ∃ token query, request.credential = .bearer token ∧
          formQuery principal request = .ok query ∧
          checks = service.checked network query
            ((service.collaborators network now).authenticate token
              state).2.outside := by
  unfold Collaborators.inquire
  cases request.credential with
  | missing => exact ⟨[], [], by simp, rfl, by simp⟩
  | malformed => exact ⟨[], [], by simp, rfl, by simp⟩
  | bearer token =>
      obtain ⟨fetched, onlyKeys, authenticated⟩ :=
        service.authenticate_noting network now token state []
      simp only [authenticated, List.nil_append]
      cases resolved : resolveCaller
          ((service.collaborators network now).authenticate token state).1 with
      | error ending => exact ⟨fetched, [], onlyKeys, by simp, by simp⟩
      | ok principal =>
          cases formed : formQuery principal request with
          | error ending =>
              exact ⟨fetched, [], onlyKeys, by simp [formed], by simp [formed]⟩
          | ok query =>
              refine ⟨fetched, service.checked network query
                ((service.collaborators network now).authenticate token
                  state).2.outside, onlyKeys, ?_, ?_⟩
              · simp only [formed, check_noting]
              · simp only [formed, Except.ok.injEq, Prod.mk.injEq]
                rintro _ _ ⟨rfl, rfl⟩
                exact ⟨token, query, rfl, formed, rfl⟩

end Service

end Gatekeeper
