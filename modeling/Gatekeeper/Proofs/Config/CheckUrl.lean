import Gatekeeper.Proofs.Config.Completion
import Gatekeeper.Proofs.Decision.Law
import Gatekeeper.Proofs.Url.Below
import Gatekeeper.Service.Assembly

/-!
# Check URLs of completed configurations

Where the checks of a completed configuration go. The URL of the backend is read
before the completion ends, and the path of the checks is written behind its
text. What is read then is at the same host and port, and the path of the checks
ends the last part that the URL has: the path itself where the URL has neither a
query nor a fragment. The one text that cannot be sent to is that of a host with
a blank behind it.
-/

namespace Gatekeeper

open Gatekeeper.Text

/-- The path that checks of a store are sent to. -/
def checkPath (store : String) : String :=
  "/stores/" ++ store ++ "/check"

def checkNames (store : String) : List (List Char) :=
  ["stores".toList, store.toList, "check".toList]

/-- A URL that the checks of a store can be sent to below a base. -/
structure Url.ServesChecks (store : String) (url base : Url) : Prop where
  scheme : IsWebScheme url.scheme
  host : url.host = base.host
  port : url.port = base.port
  path : (checkPath store).toList <:+ url.path.toList
  unspilled : ∀ text, url.query = some text ∨ url.fragment = some text →
    ∀ part, part ≠ [] → part <:+: (checkPath store).toList →
      ¬ part <:+: text.toList

variable {store : String}

theorem slashed_checkNames (store : String) :
    Url.slashed (checkNames store) = (checkPath store).toList := by
  simp [Url.slashed, checkNames, checkPath]

theorem checkUrl_eq_below (client : CheckClient) :
    client.checkUrl = Url.below client.url (checkNames client.store) := by
  rw [Url.below, slashed_checkNames, CheckClient.checkUrl, String.ofList_append,
    String.ofList_toList, checkPath]
  simp only [String.append_assoc]

/-- The names of a check path hold only letters and digits when the store
does. -/
theorem plain_checkNames
    (plain : ∀ character ∈ store.toList, isAlphanumericAscii character = true) :
    ∀ name ∈ checkNames store, ∀ character ∈ name,
      isAlphanumericAscii character = true := by
  have stores : "stores".toList.all isAlphanumericAscii = true := by decide
  have check : "check".toList.all isAlphanumericAscii = true := by decide
  intro name member
  simp only [checkNames, List.mem_cons, List.not_mem_nil, or_false] at member
  rcases member with rfl | rfl | rfl
  · exact List.all_eq_true.mp stores
  · exact plain
  · exact List.all_eq_true.mp check

/-- The path of the checks is a path exactly when nothing stands behind the path
of the base. -/
theorem Url.Extends.servesChecks_iff {url base : Url}
    (extended : url.Extends (checkNames store) base)
    (web : IsWebScheme base.scheme) :
    url.ServesChecks store base ↔ base.query = none ∧ base.fragment = none := by
  have ends := extended.ends
  have query := Option.isSome_eq_isSome.mp extended.query
  have fragment := Option.isSome_eq_isSome.mp extended.fragment
  rw [slashed_checkNames] at ends
  rw [← query, ← fragment]
  constructor
  · intro serves
    have unspilled (text : String)
        (isPart : url.query = some text ∨ url.fragment = some text) :
        ¬ (checkPath store).toList <:+ text.toList := fun suffix =>
      serves.unspilled text isPart _ (by simp [checkPath]) (List.infix_refl _)
        suffix.isInfix
    cases isFragment : url.fragment with
    | some text =>
        rw [lastPart, isFragment, Option.some_or, Option.getD_some] at ends
        exact absurd ends (unspilled text (.inr isFragment))
    | none =>
        cases isQuery : url.query with
        | some text =>
            rw [lastPart, isFragment, isQuery, Option.none_or,
              Option.getD_some] at ends
            exact absurd ends (unspilled text (.inl isQuery))
        | none => exact ⟨rfl, rfl⟩
  · rintro ⟨unqueried, unmarked⟩
    rw [lastPart, unqueried, unmarked] at ends
    refine ⟨extended.scheme ▸ web, extended.host, extended.port, ends, ?_⟩
    simp [unqueried, unmarked]

/-! ### Requests -/

variable {client : CheckClient}

theorem CheckClient.check_of_unread (unread : Url.read? client.checkUrl = none)
    {State : Type} (send : CheckRequest → State → Http.Exchange × State)
    (query : RelationQuery) (state : State) :
    client.check send query state =
      (.error (.unavailable "send check request"), state) := by
  unfold check request?
  rw [unread]
  rfl

/-- A service whose checks cannot be sent asks nobody where the fallback is
granted: it lets in every caller that its identity provider knows. -/
theorem Service.evaluate_allows_iff_of_unread {Outside Store : Type}
    (service : Service)
    (unread : Url.read? service.client.checkUrl = none)
    (granted : service.policy.isEffective = true) (network : Network Outside)
    (sink : AuditSink Store) (now : Nat) (request : AccessRequest)
    (state : Running Outside) (store : Store) :
    ((service.collaborators network now).evaluate sink service.policy now
        request state store).1.isAllowed = true ↔
      ∃ token claims canonicalId, request.credential = .bearer token ∧
        ((service.collaborators network now).authenticate token state).1 =
          .ok claims ∧
        Identifier.canonical claims.username = .ok canonicalId ∧
        IsName isRelationCharacter request.relation.toList ∧
        IsObject request.object.toList := by
  have admits (query : RelationQuery) (state : Running Outside) :
      CheckAnswer.Admits service.policy
        ((service.collaborators network now).check query state).1 := by
    have effective : service.policy.environment ≠ .production ∧
        service.policy.allowFallback = true := by
      simpa [FallbackPolicy.isEffective] using granted
    have environment : service.policy.environment = .nonProduction := by
      cases isEnvironment : service.policy.environment with
      | production => exact absurd isEnvironment effective.1
      | nonProduction => rfl
    refine .inr ⟨"send check request", ?_, environment, effective.2⟩
    simp only [collaborators, CheckClient.check_of_unread unread]
  rw [Collaborators.evaluate_allows_iff]
  simp only [admits, and_true]

/-- Where the URL of the checks is one of the web, nothing but the token stands
against sending. -/
theorem CheckClient.request?_eq_none_iff {url : Url}
    (read : Url.read? client.checkUrl = some url)
    (web : Url.IsWebScheme url.scheme) (query : RelationQuery) :
    client.request? query = none ↔
      client.token.any (!isSendable ·) = true := by
  have noRefusal : ¬ (url.scheme ≠ "http" ∧ url.scheme ≠ "https") := by
    rcases web with isHttp | isHttps
    · exact fun refused => refused.1 isHttp
    · exact fun refused => refused.2 isHttps
  simp only [request?, read, if_neg noRefusal, ite_eq_left_iff, reduceCtorEq,
    imp_false, Decidable.not_not]

namespace Config.BackendConfig

/-- Where the checks of a completed configuration go. The path of the checks is
a path at the host and port of the URL of the backend exactly when that URL has
neither a query nor a fragment, and no blank at the end of a text that goes no
further than the host. Such a blank, or a token that no header can carry, is all
that keeps a check from being sent. With such a blank every check is
unavailable, and where the fallback is granted every caller that the identity
provider knows is let in. -/
theorem checkUrl_of_complete {context : Context}
    {written completed : BackendConfig}
    (isCompleted : complete context written = .ok completed) :
    ∃ base, Url.read? completed.url = some base ∧
      Url.IsWebScheme base.scheme ∧
      ((∃ url, Url.read? (clientOf completed).checkUrl = some url ∧
          url.ServesChecks completed.store base) ↔
        base.query = none ∧ base.fragment = none ∧
          ¬ Url.EndsInBlankHost completed.url.toList) ∧
      (∀ url, Url.read? (clientOf completed).checkUrl = some url →
        url.Extends (checkNames completed.store) base) ∧
      (∀ query, (clientOf completed).request? query = none ↔
        Url.EndsInBlankHost completed.url.toList ∨
          (clientOf completed).token.any (!CheckClient.isSendable ·) = true) ∧
      (Url.EndsInBlankHost completed.url.toList →
        ∀ {State : Type}
          (send : CheckRequest → State → Http.Exchange × State) query state,
          (clientOf completed).check send query state =
            (.error (.unavailable "send check request"), state)) ∧
      (Url.EndsInBlankHost completed.url.toList →
        ∀ {Outside Store : Type} (service : Service),
          service.client = clientOf completed →
          service.policy.isEffective = true →
          ∀ (network : Network Outside) (sink : AuditSink Store) now request
            state store,
          ((service.collaborators network now).evaluate sink service.policy now
              request state store).1.isAllowed = true ↔
            ∃ token claims canonicalId, request.credential = .bearer token ∧
              ((service.collaborators network now).authenticate token state).1 =
                .ok claims ∧
              Identifier.canonical claims.username = .ok canonicalId ∧
              IsName isRelationCharacter request.relation.toList ∧
              IsObject request.object.toList) := by
  have completes := complete_eq_ok_iff.mp isCompleted
  obtain ⟨base, read, web⟩ := completes.webUrl
  refine ⟨base, read, web, ?_⟩
  have below : (clientOf completed).checkUrl =
      Url.below completed.url (checkNames completed.store) :=
    checkUrl_eq_below _
  rcases Url.read?_below (plain_checkNames completes.plain)
    (by simp [checkNames])
    read web with ⟨blank, unread⟩ | ⟨noBlank, url, isUrl, extended⟩
  · rw [← below] at unread
    refine ⟨?_, ?_, fun query => ?_, fun _ State send query state => ?_, ?_⟩
    · simp [unread, blank]
    · simp [unread]
    · simp [CheckClient.request?, unread, blank]
    · exact CheckClient.check_of_unread unread send query state
    · intro _ Outside Store service isClient granted network
      exact service.evaluate_allows_iff_of_unread (isClient ▸ unread) granted
        network
  · rw [← below] at isUrl
    have webUrl : Url.IsWebScheme url.scheme := extended.scheme ▸ web
    refine ⟨?_, ?_, fun query => ?_, fun blank => absurd blank noBlank,
      fun blank => absurd blank noBlank⟩
    · simp [isUrl, noBlank, extended.servesChecks_iff web]
    · rintro _ isOther
      rw [isUrl] at isOther
      exact Option.some.inj isOther ▸ extended
    · rw [CheckClient.request?_eq_none_iff isUrl webUrl]
      simp [noBlank]

end Config.BackendConfig

namespace Sample

open Gatekeeper.Config

/-- A URL that is read and whose checks cannot be sent. -/
def blankBackend : BackendConfig :=
  { completedOptions.backend with url := "http://own " }

/-- A URL whose checks are sent to the path in front of a query. -/
def queriedBackend : BackendConfig :=
  { completedOptions.backend with url := "http://own?x" }

def ownUrl : Url :=
  ⟨"http", some (.domain "own"), none, "/", none, none⟩

theorem backend_readings :
    BackendConfig.complete ⟨optionVariables, optionPaths⟩
        writtenOptions.backend = .ok completedOptions.backend ∧
      Url.read? completedOptions.backend.url = some ownUrl ∧
      BackendConfig.complete ⟨optionVariables, optionPaths⟩ blankBackend =
        .ok blankBackend ∧
      Url.read? (clientOf blankBackend).checkUrl = none ∧
      BackendConfig.complete ⟨optionVariables, optionPaths⟩ queriedBackend =
        .ok queriedBackend ∧
      Url.read? (clientOf queriedBackend).checkUrl =
        some { ownUrl with query := some "x/stores/main/check" } := by
  decide +kernel

end Sample

/-- The small installation sends its checks below its URL. -/
theorem checkUrl_of_complete_of_sample :
    Config.BackendConfig.complete
        ⟨Sample.optionVariables, Sample.optionPaths⟩
        Sample.writtenOptions.backend = .ok Sample.completedOptions.backend ∧
      ∃ url,
        Url.read? (clientOf Sample.completedOptions.backend).checkUrl =
          some url ∧ url.ServesChecks "main" Sample.ownUrl := by
  obtain ⟨completes, isOwn, -⟩ := Sample.backend_readings
  obtain ⟨base, isBase, -, serves, -⟩ :=
    Config.BackendConfig.checkUrl_of_complete completes
  obtain rfl : base = Sample.ownUrl :=
    Option.some.inj (isBase.symm.trans isOwn)
  refine ⟨completes, serves.mpr ⟨rfl, rfl, fun ends => ?_⟩⟩
  obtain ⟨blank, isLast, isBlank⟩ := ends.blank
  have isLetter : (Url.counted "http://own".toList).getLast? = some 'n' := by
    decide
  obtain rfl : 'n' = blank := Option.some.inj (isLetter.symm.trans isLast)
  cases isBlank

/-- A URL with a blank behind its host is accepted, and no check is sent, as if
the backend could not be reached. A URL with a query is accepted too, and the
path of the checks belongs to the query. -/
theorem accepted_url_unserved :
    Config.BackendConfig.complete
        ⟨Sample.optionVariables, Sample.optionPaths⟩ Sample.blankBackend =
          .ok Sample.blankBackend ∧
      Url.read? (clientOf Sample.blankBackend).checkUrl = none ∧
      (∀ {State : Type}
        (send : CheckRequest → State → Http.Exchange × State) query state,
        (clientOf Sample.blankBackend).check send query state =
          (.error (.unavailable "send check request"), state)) ∧
      Config.BackendConfig.complete
        ⟨Sample.optionVariables, Sample.optionPaths⟩ Sample.queriedBackend =
          .ok Sample.queriedBackend ∧
      Url.read? (clientOf Sample.queriedBackend).checkUrl =
        some { Sample.ownUrl with query := some "x/stores/main/check" } := by
  obtain ⟨-, -, isBlank, unread, isQueried, isRead⟩ := Sample.backend_readings
  exact ⟨isBlank, unread, CheckClient.check_of_unread unread, isQueried, isRead⟩

end Gatekeeper
