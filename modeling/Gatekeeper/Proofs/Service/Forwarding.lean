import Gatekeeper.Config.Target
import Gatekeeper.Proofs.Service.Account

/-!
# Forwarded requests

What the question of a proxy is decided on. A forwarded request that can be read
is decided as the request itself would be. A method that cannot be read is an
unknown method, which no query accepts; a path that cannot be read is an empty
path, which stands for the default object, so that the backend may be asked
about that.
-/

namespace Gatekeeper

open Gatekeeper.Http
open Gatekeeper.Text

/-! ### Bare paths of targets -/

/-- What follows the path in a text adds nothing to the path. -/
theorem takeWhile_append_following (inPath inQuery : Char → Bool)
    (text : List Char) :
    (text.takeWhile inPath ++
        (text.drop (text.takeWhile inPath).length).takeWhile
          inQuery).takeWhile inPath =
      text.takeWhile inPath := by
  induction text with
  | nil => rfl
  | cons character rest ih =>
      cases within : inPath character with
      | true =>
          simp only [List.takeWhile_cons_of_pos within, List.length_cons,
            List.drop_succ_cons, List.cons_append, ih]
      | false =>
          have outside : ¬ inPath character = true := by simp [within]
          rw [List.takeWhile_cons_of_neg outside, List.length_nil,
            List.drop_zero, List.nil_append]
          cases following : inQuery character with
          | true =>
              rw [List.takeWhile_cons_of_pos following,
                List.takeWhile_cons_of_neg outside]
          | false => simp [following]

namespace TargetRules

theorem object_congr (rules : TargetRules) {first second : String}
    (same : barePath first.toList = barePath second.toList) :
    rules.object first = rules.object second := by
  unfold object
  rw [same]

/-- A path that is not left out stands in the target as it is written. -/
theorem barePath_full_of_ofPath? {text : List Char} {target : RequestTarget}
    (written : barePath text ≠ [])
    (read : RequestTarget.ofPath? text = some target) :
    target.path = String.ofList (barePath text) ∧
      barePath target.full.toList = barePath text := by
  unfold barePath at written ⊢
  simp only [RequestTarget.ofPath?, Option.ite_none_right_eq_some,
    Option.some.injEq] at read
  obtain ⟨-, rfl⟩ := read
  have kept := takeWhile_append_following
    (fun character => character ≠ '?' && character ≠ '#') (· ≠ '#') text
  refine ⟨?_, ?_⟩
  · rw [if_neg]
    rwa [List.isEmpty_iff]
  · simp only [RequestTarget.full, Option.getD_some]
    rw [if_neg, String.toList_ofList]
    · exact kept
    · rw [List.isEmpty_iff]
      exact List.append_ne_nil_of_left_ne_nil written _

/-- A target that is written as a path keeps the path and drops a fragment. -/
theorem barePath_full {uri : String} {rest : List Char} {target : RequestTarget}
    (rooted : uri.toList = '/' :: rest)
    (read : RequestTarget.ofText? uri = some target) :
    barePath target.full.toList = barePath uri.toList := by
  have isPath : RequestTarget.ofPath? ('/' :: rest) = some target := by
    simp only [RequestTarget.ofText?, rooted,
      Option.ite_none_left_eq_some] at read
    exact read.2
  have written : barePath ('/' :: rest) ≠ [] := by simp [barePath]
  rw [rooted]
  exact (barePath_full_of_ofPath? written isPath).2

end TargetRules

/-! ### Reading forwarded requests -/

/-- A request of a proxy forwards another one that has the same authorization:
the method and the path in its headers can be read, and are the method and the
target of the other. -/
structure Forwards (request direct : Request) : Prop where
  method : ∃ value,
    (request.values "x-forwarded-method").head? = some value ∧
      value.text? = some direct.method
  target : ∃ value uri rest,
    (request.values "x-forwarded-uri").head? = some value ∧
      value.text? = some uri ∧ uri.toList = '/' :: rest ∧
      RequestTarget.ofText? uri = some direct.target
  authorization :
    request.values "authorization" = direct.values "authorization"

/-- A header is there and cannot be read: its value holds a byte that is neither
a tab nor between the space and the tilde. -/
def IsUnreadable (request : Request) (name : String) : Prop :=
  ∃ value byte, (request.values name).head? = some value ∧ byte ∈ value ∧
    byte ≠ 0x09 ∧ (byte < 0x20 ∨ 0x7E < byte)

theorem forwardedText?_of_text {request : Request} {name text : String}
    {value : HeaderValue} (first : (request.values name).head? = some value)
    (read : value.text? = some text) :
    forwardedText? request name = some text := by
  simp [forwardedText?, first, read]

theorem forwardedText?_of_unreadable {request : Request} {name : String}
    (unreadable : IsUnreadable request name) :
    forwardedText? request name = some "" := by
  obtain ⟨value, byte, first, member, untab, outside⟩ := unreadable
  have unread : HeaderValue.isReadableByte byte = false := by
    simp only [HeaderValue.isReadableByte, Bool.or_eq_false_iff,
      Bool.and_eq_false_iff, decide_eq_false_iff_not]
    refine ⟨untab, ?_⟩
    rcases outside with below | above
    · exact .inl (UInt8.not_le.mpr below)
    · exact .inr (UInt8.not_lt.mpr above)
  have untext : value.text? = none := by
    rw [HeaderValue.text?, if_neg]
    intro all
    rw [List.all_eq_true.mp all byte member] at unread
    cases unread
  simp [forwardedText?, first, untext]

namespace TargetRules

theorem relation_empty (rules : TargetRules) : rules.relation "" = "" := rfl

/-- The empty path stands for the default object. -/
theorem object_empty (rules : TargetRules) :
    rules.object "" = rules.defaultObject := by
  have unnamed : rules.below? (barePath []) = some [] ∨
      rules.below? (barePath []) = none := by
    unfold below?
    split
    · exact .inl rfl
    · cases rules.pathPrefix.toList with
      | nil => exact .inl rfl
      | cons first rest => exact .inr rfl
  unfold object
  rcases unnamed with isRoot | isElsewhere
  · simp [isRoot, words, splitAll]
  · simp [isElsewhere]

end TargetRules

/-! ### Checks of a request -/

def Question.query? : Question → Option RelationQuery
  | .authenticate _ _ => none
  | .check query _ => some query

/-- The queries that the backend was asked for a request. -/
def Account.checks {State Store : Type} (account : Account State Store) :
    List RelationQuery :=
  account.questions.filterMap Question.query?

namespace Boundary

variable {State Store : Type} {boundary : Boundary State Store}
  {occasion : Occasion} {request : Request} {passage : Passage} {state : State}
  {store : Store}

theorem mem_checks_iff
    (guarded : boundary.target.passage? boundary.scope request = some passage)
    {query : RelationQuery} :
    query ∈ (boundary.account occasion request state store).checks ↔
      ∃ principal answer,
        (boundary.collaborators.inquire
          (boundary.target.accessRequest occasion request passage) state).1 =
            .ok (principal, answer) ∧
          formQuery principal
            (boundary.target.accessRequest occasion request passage) =
              .ok query := by
  have asked : query ∈ (boundary.account occasion request state store).checks ↔
      ∃ answer, .check query answer ∈ boundary.collaborators.questions
        (boundary.target.accessRequest occasion request passage) state := by
    rw [Account.checks, account_of_passage guarded, List.mem_filterMap]
    constructor
    · rintro ⟨question, member, isCheck⟩
      cases question with
      | authenticate token answer => cases isCheck
      | check other answer =>
          obtain rfl := Option.some.inj isCheck
          exact ⟨answer, member⟩
    · rintro ⟨answer, member⟩
      exact ⟨.check query answer, member, rfl⟩
  simp only [asked, Collaborators.check_mem_questions_iff]
  exact exists_comm

/-- A check names the object of the passage, and a relation that follows the
grammar. -/
theorem parts_of_mem_checks
    (guarded : boundary.target.passage? boundary.scope request = some passage)
    {query : RelationQuery}
    (asked : query ∈ (boundary.account occasion request state store).checks) :
    query.object = boundary.target.object passage.path ∧
      IsName isRelationCharacter
        (boundary.target.relation passage.method).toList := by
  obtain ⟨principal, answer, -, formed⟩ := (mem_checks_iff guarded).mp asked
  obtain ⟨-, relation, -, rfl⟩ := formQuery_eq_ok_iff.mp formed
  exact ⟨rfl, relation⟩

/-- A request is turned away when it is denied without a question to the
backend. -/
structure TurnsAway (boundary : Boundary State Store) (occasion : Occasion)
    (request : Request) (state : State) (store : Store) : Prop where
  unasked : (boundary.account occasion request state store).checks = []
  denied : (boundary.answer occasion request state store).1 = .accessDenied

/-- The backend has a say in every request that is allowed. -/
theorem turnsAway_iff_checks
    (guarded : boundary.target.passage? boundary.scope request = some passage) :
    boundary.TurnsAway occasion request state store ↔
      (boundary.account occasion request state store).checks = [] := by
  refine ⟨TurnsAway.unasked, ?_⟩
  intro unasked
  have unallowed : (boundary.evaluation occasion request passage
      state).verdict.record.decision ≠ .allow := by
    intro allowed
    obtain ⟨principal, answer, outcome, -⟩ :=
      Collaborators.ending_allows_iff.mp allowed
    obtain ⟨token, claims, query, -, -, -, formed, -⟩ :=
      Collaborators.inquire_eq_ok_iff.mp outcome
    -- what the backend admitted it was asked about
    have asked : query ∈
        (boundary.account occasion request state store).checks :=
      (mem_checks_iff guarded).mpr ⟨principal, answer, outcome, formed⟩
    rw [unasked] at asked
    cases asked
  have agrees := account_agrees_of_passage occasion state store guarded
  refine ⟨unasked, ?_⟩
  rw [answer_response]
  exact (agrees.denied unallowed).1

/-- The backend is asked about a guarded request when its token names a caller
and its target follows the grammar. -/
theorem turnsAway_iff
    (guarded : boundary.target.passage? boundary.scope request = some passage) :
    boundary.TurnsAway occasion request state store ↔
      ¬ ∃ token claims canonicalId,
        Credential.ofRequest request = .bearer token ∧
          (boundary.collaborators.authenticate token state).1 = .ok claims ∧
          Identifier.canonical claims.username = .ok canonicalId ∧
          IsName isRelationCharacter
            (boundary.target.relation passage.method).toList ∧
          IsObject (boundary.target.object passage.path).toList := by
  rw [turnsAway_iff_checks guarded, List.eq_nil_iff_forall_not_mem,
    ← not_exists, not_iff_not]
  constructor
  · rintro ⟨query, asked⟩
    obtain ⟨principal, answer, outcome, -⟩ := (mem_checks_iff guarded).mp asked
    obtain ⟨token, claims, _, bearer, authenticated, named, formed, -⟩ :=
      Collaborators.inquire_eq_ok_iff.mp outcome
    obtain ⟨canonicalId, isCanonical, -⟩ :=
      Principal.ofClaims_eq_ok_iff.mp named
    obtain ⟨-, relation, object, -⟩ := formQuery_eq_ok_iff.mp formed
    exact ⟨token, claims, canonicalId, bearer, authenticated, isCanonical,
      relation, object⟩
  · rintro ⟨token, claims, canonicalId, bearer, authenticated, isCanonical,
      relation, object⟩
    have named : Principal.ofClaims claims =
        .ok ⟨claims.username, canonicalId, claims⟩ :=
      Principal.ofClaims_eq_ok_iff.mpr ⟨canonicalId, isCanonical, rfl⟩
    have formed : formQuery ⟨claims.username, canonicalId, claims⟩
        (boundary.target.accessRequest occasion request passage) =
          .ok ⟨canonicalId, boundary.target.relation passage.method,
            boundary.target.object passage.path⟩ :=
      formQuery_eq_ok_iff.mpr
        ⟨isUser_of_canonical isCanonical, relation, object, rfl⟩
    have outcome := Collaborators.inquire_eq_ok_iff.mpr
      ⟨token, claims, _, bearer, authenticated, named, formed, rfl⟩
    exact ⟨_, (mem_checks_iff guarded).mpr ⟨_, _, outcome, formed⟩⟩

/-! ### Decisions on forwarded requests -/

theorem answer_of_verify
    (route : boundary.route request = .verify) :
    boundary.answer occasion request state store =
      boundary.guard occasion request (forwardedTarget request).1
        (forwardedTarget request).2 verifyAnswer state store := by
  simp only [answer, route]

theorem guard_congr {other : Request} {method path otherMethod
      otherPath : String}
    (credential : Credential.ofRequest request = Credential.ofRequest other)
    (target : boundary.target.resolve method path =
      boundary.target.resolve otherMethod otherPath)
    (handler : Principal → Response) :
    boundary.guard occasion request method path handler state store =
      boundary.guard occasion other otherMethod otherPath handler state
        store := by
  unfold guard authorize
  rw [credential, target]

/-- What can be read of a forwarded request is decided as the request itself is
where it comes to the boundary directly. -/
theorem resolve_of_forwards {direct : Request}
    (forwards : Forwards request direct) (rules : TargetRules) :
    Credential.ofRequest request = Credential.ofRequest direct ∧
      rules.resolve (forwardedTarget request).1 (forwardedTarget request).2 =
        rules.resolve direct.method direct.target.full := by
  obtain ⟨⟨method, isMethod, readMethod⟩,
    ⟨path, uri, rest, isPath, readPath, rooted, isTarget⟩, authorization⟩ :=
      forwards
  have forwarded : forwardedTarget request = (direct.method, uri) := by
    rw [forwardedTarget, forwardedText?_of_text isMethod readMethod,
      forwardedText?_of_text isPath readPath]
    rfl
  have sameObject : rules.object direct.target.full = rules.object uri :=
    rules.object_congr (TargetRules.barePath_full rooted isTarget)
  refine ⟨?_, ?_⟩
  · rw [Credential.ofRequest, Credential.ofRequest, authorization]
  · rw [forwarded, TargetRules.resolve, TargetRules.resolve, sameObject]

/-- The question of a proxy is decided as the forwarded request would be when
its headers can be read, and denied without a question to the backend when its
method cannot be read. When its path cannot be read, it is decided on the
default object: the backend is asked, and the proxy may be told to let the
request pass, unless there is no caller, no such method, or no such object. -/
theorem forwarded_decision (boundary : Boundary State Store)
    (occasion : Occasion) (request : Request) (state : State) (store : Store)
    (route : boundary.route request = .verify) :
    (∀ direct, Forwards request direct →
      Credential.ofRequest request = Credential.ofRequest direct ∧
        boundary.target.resolve (forwardedTarget request).1
            (forwardedTarget request).2 =
          boundary.target.resolve direct.method direct.target.full ∧
        boundary.answer occasion request state store =
          boundary.guard occasion direct direct.method direct.target.full
            verifyAnswer state store) ∧
      (IsUnreadable request "x-forwarded-method" →
        boundary.TurnsAway occasion request state store) ∧
      (IsUnreadable request "x-forwarded-uri" →
        (∀ query ∈ (boundary.account occasion request state store).checks,
          query.object = boundary.target.defaultObject) ∧
        (boundary.TurnsAway occasion request state store ↔
          ¬ ∃ token claims canonicalId,
            Credential.ofRequest request = .bearer token ∧
              (boundary.collaborators.authenticate token state).1 =
                .ok claims ∧
              Identifier.canonical claims.username = .ok canonicalId ∧
              IsName isRelationCharacter (boundary.target.relation
                (forwardedTarget request).1).toList ∧
              IsObject boundary.target.defaultObject.toList)) := by
  have guarded := TargetRules.passage?_of_verify route
  refine ⟨?_, ?_, ?_⟩
  · intro direct forwards
    obtain ⟨credential, target⟩ := resolve_of_forwards forwards boundary.target
    refine ⟨credential, target, ?_⟩
    rw [answer_of_verify route]
    exact guard_congr credential target verifyAnswer
  · intro unreadable
    have unknown : (forwardedTarget request).1 = "" := by
      rw [forwardedTarget, forwardedText?_of_unreadable unreadable]
      rfl
    rw [turnsAway_iff guarded]
    -- the empty method has the empty relation, which is no name
    rintro ⟨token, claims, canonicalId, -, -, -, relation, -⟩
    obtain ⟨first, rest, isCons, -⟩ := relation.start
    rw [unknown, TargetRules.relation_empty] at isCons
    cases isCons
  · intro unreadable
    have object : boundary.target.object (forwardedTarget request).2 =
        boundary.target.defaultObject := by
      rw [forwardedTarget, forwardedText?_of_unreadable unreadable]
      exact boundary.target.object_empty
    refine ⟨?_, ?_⟩
    · intro query asked
      rw [← object]
      exact (parts_of_mem_checks guarded asked).1
    · rw [turnsAway_iff guarded, object]

end Boundary

namespace Sample

/-- A boundary that lets every caller pass under the name that its token is. -/
def openBoundary : Boundary Unit (List DecisionRecord) where
  collaborators :=
    { authenticate token state :=
        (.ok ⟨token, "sub-1", 1700000060, []⟩, state)
      check _ state := (.ok true, state) }
  sink := AuditSink.memory
  policy := ⟨.production, false⟩
  target := .standard
  scope := literalScope

def aliceHeader : String × HeaderValue :=
  ("authorization", Utf8.encode "Bearer alice")

/-- The question of a proxy about reading a path. -/
def readingOf (uri : String) : Request :=
  ⟨"POST", ⟨"/verify", some "/verify"⟩,
    [aliceHeader, ("x-forwarded-method", Utf8.encode "GET"),
      ("x-forwarded-uri", Utf8.encode uri)]⟩

def direct : Request :=
  ⟨"GET", ⟨"/api/orders/7", some "/api/orders/7?full=1"⟩, [aliceHeader]⟩

/-- What the headers and paths of the questions are read as, and what the
boundary makes of the one whose path cannot be read. -/
theorem forwarding_readings :
    Route.ofPath literalScope "/api" "/verify" = .verify ∧
      HeaderValue.text? (Utf8.encode "GET") = some "GET" ∧
      HeaderValue.text? (Utf8.encode "/api/orders/7?full=1") =
        some "/api/orders/7?full=1" ∧
      RequestTarget.ofText? "/api/orders/7?full=1" = some direct.target ∧
      TargetRules.standard.resolve "GET" direct.target.full =
        ⟨"viewer", "orders:7"⟩ ∧
      (0xC3 ∈ Utf8.encode "/api/document/\u00e9" ∧
        (openBoundary.account ⟨"1", 1700000000⟩
            (readingOf "/api/document/\u00e9") () []).checks =
          [⟨"user:alice", "viewer", "service:authgate"⟩] ∧
        (openBoundary.answer ⟨"1", 1700000000⟩
          (readingOf "/api/document/\u00e9") () []).1.status = 200) := by
  decide +kernel

theorem forwards_direct :
    Forwards (readingOf "/api/orders/7?full=1") direct := by
  obtain ⟨-, method, path, target, -⟩ := forwarding_readings
  exact ⟨⟨_, rfl, method⟩, ⟨_, _, _, rfl, path, rfl, target⟩, rfl⟩

end Sample

theorem forwarded_decision_of_sample :
    Route.ofPath literalScope "/api" "/verify" = .verify ∧
      Sample.openBoundary.target.resolve "GET" Sample.direct.target.full =
        ⟨"viewer", "orders:7"⟩ ∧
      Sample.openBoundary.answer ⟨"1", 1700000000⟩
          (Sample.readingOf "/api/orders/7?full=1") () [] =
        Sample.openBoundary.guard ⟨"1", 1700000000⟩ Sample.direct "GET"
          Sample.direct.target.full verifyAnswer () [] := by
  obtain ⟨route, -, -, -, resolved, -⟩ := Sample.forwarding_readings
  obtain ⟨decided, -⟩ := Boundary.forwarded_decision Sample.openBoundary
    ⟨"1", 1700000000⟩ (Sample.readingOf "/api/orders/7?full=1") () [] route
  exact ⟨route, resolved,
    (decided Sample.direct Sample.forwards_direct).2.2⟩

/-- A path that cannot be read is let pass on the default object. -/
theorem unreadable_path_passed :
    IsUnreadable (Sample.readingOf "/api/document/\u00e9") "x-forwarded-uri" ∧
      Sample.openBoundary.route (Sample.readingOf "/api/document/\u00e9") =
        .verify ∧
      (Sample.openBoundary.account ⟨"1", 1700000000⟩
          (Sample.readingOf "/api/document/\u00e9") () []).checks =
        [⟨"user:alice", "viewer", "service:authgate"⟩] ∧
      (Sample.openBoundary.answer ⟨"1", 1700000000⟩
        (Sample.readingOf "/api/document/\u00e9") () []).1.status = 200 := by
  obtain ⟨route, -, -, -, -, member, asked, passed⟩ :=
    Sample.forwarding_readings
  exact ⟨⟨_, 0xC3, rfl, member, by decide, by decide⟩, route, asked, passed⟩

end Gatekeeper
