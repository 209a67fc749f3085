import Gatekeeper.Proofs.Decision.Fallback
import Gatekeeper.Proofs.Service.Passage
import Gatekeeper.Proofs.Text.Utf8

/-!
# Account of a request

What comes of one request at the boundary: its response, the questions to the
collaborators, and the records that the sink is offered. The three agree: a
guarded request is offered to the sink once, its response tells no more than
whether the record allows it, and its handler sees the caller that the record
names.
-/

namespace Gatekeeper

open Gatekeeper.Http
open Gatekeeper.Text

/-! ### Callers in headers -/

namespace Http.HeaderValue

/-- The bytes of a character can stand in a header unless it is a control: the
bytes of a character beyond ASCII are all above those of ASCII. -/
theorem isLegal_encodeChar {character : Char}
    (plain : isControl character = false) :
    isLegal (Utf8.encodeChar character) = true := by
  have printable : 0x20 ≤ character.toNat ∧ character.toNat ≠ 0x7F := by
    simp only [isControl, Bool.or_eq_false_iff, Bool.and_eq_false_iff,
      decide_eq_false_iff_not] at plain
    omega
  unfold isLegal
  rw [List.all_eq_true]
  intro byte member
  have legal : 0x20 ≤ byte.toNat ∧ byte.toNat ≠ 0x7F := by
    rcases Utf8.mem_encodeChar member with same | above
    · rw [same]
      exact printable
    · omega
  have high : 0x20 ≤ byte := UInt8.le_iff_toNat_le.mpr legal.1
  have apart : byte ≠ 0x7F := by
    rintro rfl
    exact legal.2 rfl
  simp [high, apart]

theorem isLegal_encode {text : String}
    (plain : ∀ character ∈ text.toList, isControl character = false) :
    isLegal (Utf8.encode text) = true := by
  unfold Utf8.encode isLegal
  rw [List.all_flatMap, List.all_eq_true]
  intro character member
  exact isLegal_encodeChar (plain character member)

end Http.HeaderValue

theorem Identifier.isControl_of_mem_userType {character : Char}
    (member : character ∈ Identifier.userType) :
    isControl character = false := by
  simp only [Identifier.userType, List.mem_cons, List.not_mem_nil,
    or_false] at member
  rcases member with rfl | rfl | rfl | rfl | rfl <;> rfl

/-- Every canonical id can stand in a header. -/
theorem IsUser.isLegal_encode {subject : String}
    (user : IsUser subject.toList) :
    HeaderValue.isLegal (Utf8.encode subject) = true := by
  obtain ⟨id, typed, identifier⟩ := user
  apply HeaderValue.isLegal_encode
  intro character member
  rw [typed, List.mem_append] at member
  rcases member with inType | inId
  · exact Identifier.isControl_of_mem_userType inType
  · exact (identifier.plain character inId).2.1

/-- The response to a denied request, as it goes out. -/
theorem Http.Response.accessDenied_eq :
    Response.accessDenied.status = 403 ∧
      Response.accessDenied.principal = none ∧
      Response.accessDenied.body.map Json.compact =
        some "\x7b\"code\":403,\"message\":\"Access denied\"\x7d" := by
  refine ⟨rfl, rfl, ?_⟩
  decide

theorem Verdict.allowedPrincipal_eq_none {verdict : Verdict}
    (denied : verdict.record.decision ≠ .allow) :
    verdict.allowedPrincipal = none := by
  simp [Verdict.allowedPrincipal, Verdict.isAllowed, denied]

/-! ### Accounts -/

/-- A sink that notes every record that it is offered. -/
def AuditSink.noting {Store : Type} (sink : AuditSink Store) :
    AuditSink (List DecisionRecord × Store) where
  append record := fun (offered, store) =>
    some (offered ++ [record], sink.offer record store)

/-- What comes of one request. -/
structure Account (State Store : Type) where
  response : Response
  questions : List Question
  offered : List DecisionRecord
  state : State
  store : Store

namespace Boundary

variable {State Store : Type}

/-- A boundary with every question and every offered record noted. -/
def noting (boundary : Boundary State Store) :
    Boundary (List Question × State) (List DecisionRecord × Store) where
  collaborators := boundary.collaborators.noting
  sink := boundary.sink.noting
  policy := boundary.policy
  target := boundary.target
  scope := boundary.scope

def account (boundary : Boundary State Store) (occasion : Occasion)
    (request : Request) (state : State) (store : Store) :
    Account State Store :=
  let (response, (questions, state), offered, store) :=
    boundary.noting.answer occasion request ([], state) ([], store)
  ⟨response, questions, offered, state, store⟩

/-- The evaluation of a request for its passage. -/
def evaluation (boundary : Boundary State Store) (occasion : Occasion)
    (request : Request) (passage : Passage) (state : State) : Evaluation :=
  boundary.collaborators.evaluation boundary.policy occasion.now
    (boundary.target.accessRequest occasion request passage) state

variable {boundary : Boundary State Store} {occasion : Occasion}
  {request : Request} {passage : Passage} {state : State} {store : Store}

theorem authorize_eq_evaluation :
    boundary.authorize occasion request passage.method passage.path state
        store =
      let evaluation := boundary.evaluation occasion request passage state
      (evaluation.verdict,
        (boundary.collaborators.inquire
          (boundary.target.accessRequest occasion request passage) state).2,
        boundary.sink.offer evaluation.verdict.record store) :=
  Collaborators.evaluate_eq_inquire _ _ _ _ _ _ _

/-- Notes change no verdict: they hold the questions of the evaluation and its
record. -/
theorem authorize_noting :
    boundary.noting.authorize occasion request passage.method passage.path
        ([], state) ([], store) =
      let evaluation := boundary.evaluation occasion request passage state
      (evaluation.verdict,
        (evaluation.questions,
          (boundary.collaborators.inquire
            (boundary.target.accessRequest occasion request passage) state).2),
        [evaluation.verdict.record],
        boundary.sink.offer evaluation.verdict.record store) := by
  unfold authorize
  rw [Collaborators.evaluate_eq_inquire]
  have noted := boundary.collaborators.inquire_noting
    (boundary.target.accessRequest occasion request passage) state
  unfold TargetRules.accessRequest at noted
  simp only [noting, TargetRules.resolve, noted]
  rfl

theorem account_of_unguarded
    (unguarded : boundary.target.passage? boundary.scope request = none) :
    boundary.account occasion request state store =
      ⟨(boundary.route request).openAnswer occasion request, [], [], state,
        store⟩ := by
  -- noting leaves the rules and the scope as they are
  have alsoUnguarded : boundary.noting.target.passage? boundary.noting.scope
      request = none := unguarded
  simp only [account, answer_of_unguarded alsoUnguarded]
  rfl

theorem account_of_passage
    (guarded : boundary.target.passage? boundary.scope request = some passage) :
    boundary.account occasion request state store =
      let evaluation := boundary.evaluation occasion request passage state
      ⟨handledBy passage.handler evaluation.verdict.allowedPrincipal,
        evaluation.questions, [evaluation.verdict.record],
        (boundary.collaborators.inquire
          (boundary.target.accessRequest occasion request passage) state).2,
        boundary.sink.offer evaluation.verdict.record store⟩ := by
  have alsoGuarded : boundary.noting.target.passage? boundary.noting.scope
      request = some passage := guarded
  simp only [account, answer_of_passage alsoGuarded, admitted, alsoGuarded,
    Option.bind_some, authorize_noting]

/-- An account tells what the boundary answers and leaves behind. -/
theorem answer_eq_account :
    boundary.answer occasion request state store =
      ((boundary.account occasion request state store).response,
        (boundary.account occasion request state store).state,
        (boundary.account occasion request state store).store) := by
  cases isPassage : boundary.target.passage? boundary.scope request with
  | none => rw [answer_of_unguarded isPassage, account_of_unguarded isPassage]
  | some passage =>
      simp only [answer_of_passage isPassage, account_of_passage isPassage,
        admitted, isPassage, Option.bind_some, authorize_eq_evaluation]

theorem answer_response :
    (boundary.answer occasion request state store).1 =
      (boundary.account occasion request state store).response := by
  rw [answer_eq_account]

/-! ### Records and responses -/

/-- The record of an allowed request names the caller that is handed on, by a
canonical id. -/
theorem evaluation_of_allowed
    (allowed : (boundary.evaluation occasion request passage
      state).verdict.record.decision = .allow) :
    ∃ principal,
      (boundary.evaluation occasion request passage
        state).verdict.allowedPrincipal = some principal ∧
      (boundary.evaluation occasion request passage
        state).verdict.record.principal = some principal.canonicalId ∧
      IsUser principal.canonicalId.toList := by
  obtain ⟨principal, answer, outcome, admits⟩ :=
    Collaborators.ending_allows_iff.mp allowed
  have resolved : (boundary.evaluation occasion request passage
      state).verdict.principal = some principal := by
    unfold evaluation Collaborators.evaluation
    rw [outcome]
    exact Ending.ofAnswer_principal _ principal answer
  refine ⟨principal, ?_, ?_, ?_⟩
  · rw [Verdict.allowedPrincipal, if_pos (Verdict.isAllowed_iff.mpr allowed)]
    exact resolved
  · exact congrArg (Option.map Principal.canonicalId) resolved
  · obtain ⟨token, claims, query, -, -, named, -⟩ :=
      Collaborators.inquire_eq_ok_iff.mp outcome
    obtain ⟨canonicalId, isCanonical, rfl⟩ :=
      Principal.ofClaims_eq_ok_iff.mp named
    exact isUser_of_canonical isCanonical

end Boundary

/-! ### Handlers -/

/-- The handler of a proxy's question never denies a caller with a canonical
id. -/
theorem verifyAnswer_of_isUser {principal : Principal}
    (user : IsUser principal.canonicalId.toList) :
    verifyAnswer principal =
      { Response.ok with
        principal := some (Utf8.encode principal.canonicalId) } := by
  simp only [verifyAnswer, user.isLegal_encode, if_true]

theorem protectedAnswer_status (pathPrefix : String) (request : Request)
    (principal : Principal) :
    (protectedAnswer pathPrefix request principal).status = 200 ∨
      (protectedAnswer pathPrefix request principal).status = 404 := by
  unfold protectedAnswer
  split
  · exact .inl rfl
  · exact .inr rfl

namespace TargetRules

variable {rules : TargetRules} {scope : ScopeMatch} {request : Request}
  {passage : Passage}

theorem passage_handler_of_verify
    (guarded : rules.passage? scope request = some passage)
    (route :
      Route.ofPath scope rules.pathPrefix request.target.path = .verify) :
    passage.handler = verifyAnswer := by
  rw [passage?_of_verify route] at guarded
  rw [← Option.some.inj guarded]

theorem passage_handler_of_guarded
    (guarded : rules.passage? scope request = some passage)
    (route :
      Route.ofPath scope rules.pathPrefix request.target.path = .guarded) :
    passage.handler = protectedAnswer rules.pathPrefix request := by
  rw [passage?_of_guarded route] at guarded
  rw [← Option.some.inj guarded]

/-- The handler behind a passage answers every caller with a canonical id. -/
theorem passage_handler_status
    (guarded : rules.passage? scope request = some passage)
    {principal : Principal} (user : IsUser principal.canonicalId.toList) :
    (passage.handler principal).status = 200 ∨
      (passage.handler principal).status = 404 := by
  cases route : Route.ofPath scope rules.pathPrefix request.target.path with
  | verify =>
      rw [passage_handler_of_verify guarded route, verifyAnswer_of_isUser user]
      exact .inl rfl
  | guarded =>
      rw [passage_handler_of_guarded guarded route]
      exact protectedAnswer_status _ _ _
  | health => simp [passage?, route] at guarded
  | unknown => simp [passage?, route] at guarded

end TargetRules

/-! ### Agreement -/

/-- What the one record of a request says of its response, with `handler` behind
the boundary, and of what any other handler would answer there, which `guarded`
tells. -/
structure Account.Agrees {State Store : Type} (account : Account State Store)
    (record : DecisionRecord) (handler : Principal → Response)
    (guarded : (Principal → Response) → Response) : Prop where
  offered : account.offered = [record]
  /-- One response for every reason, and no handler has a part in it. -/
  denied : record.decision ≠ .allow →
    account.response = .accessDenied ∧ ∀ other, guarded other = .accessDenied
  /-- The handler sees the caller that the record names. -/
  allowed : record.decision = .allow →
    account.response.status ≠ 403 ∧
      ∃ principal, record.principal = some principal.canonicalId ∧
        account.response = handler principal ∧
        ∀ other, guarded other = other principal

namespace Boundary

variable {State Store : Type} {boundary : Boundary State Store}
  {occasion : Occasion} {request : Request} {passage : Passage} {state : State}
  {store : Store}

theorem guard_response (handler : Principal → Response) :
    (boundary.guard occasion request passage.method passage.path handler state
        store).1 =
      handledBy handler (boundary.evaluation occasion request passage
        state).verdict.allowedPrincipal := by
  simp only [guard_eq, authorize_eq_evaluation]

/-- The response to an allowed request comes from the handler of its route. -/
theorem response_of_allowed (store : Store)
    (guarded : boundary.target.passage? boundary.scope request = some passage)
    (allowed : (boundary.evaluation occasion request passage
      state).verdict.record.decision = .allow) :
    ∃ principal,
      (boundary.evaluation occasion request passage
        state).verdict.allowedPrincipal = some principal ∧
      (boundary.evaluation occasion request passage
        state).verdict.record.principal = some principal.canonicalId ∧
      IsUser principal.canonicalId.toList ∧
      (boundary.account occasion request state store).response =
        passage.handler principal := by
  obtain ⟨principal, handed, named, user⟩ := evaluation_of_allowed allowed
  refine ⟨principal, handed, named, user, ?_⟩
  rw [account_of_passage guarded]
  simp only [handed, handledBy]

theorem account_agrees_of_passage (occasion : Occasion) (state : State)
    (store : Store)
    (guarded : boundary.target.passage? boundary.scope request = some passage) :
    (boundary.account occasion request state store).Agrees
      (boundary.evaluation occasion request passage state).verdict.record
      passage.handler
      fun handler =>
        (boundary.guard occasion request passage.method passage.path handler
          state store).1 := by
  refine ⟨?_, ?_, ?_⟩
  · rw [account_of_passage guarded]
  · intro denied
    have unhanded := Verdict.allowedPrincipal_eq_none denied
    refine ⟨?_, ?_⟩
    · rw [account_of_passage guarded]
      simp only [unhanded, handledBy]
    · intro handler
      rw [guard_response, unhanded, handledBy]
  · intro allowed
    obtain ⟨principal, handed, named, user, response⟩ :=
      response_of_allowed store guarded allowed
    refine ⟨?_, principal, named, response, ?_⟩
    · rw [response]
      rcases TargetRules.passage_handler_status guarded user with
        found | missing
      · simp [found]
      · simp [missing]
    · intro handler
      rw [guard_response, handed, handledBy]

/-- The response, the audit trail and the caller downstream agree, whatever the
router takes under the prefix. A request on an open route asks nobody and leaves
no record. A guarded one is offered to the sink once: unless its record allows
it, the response is the one denial and no handler runs, and otherwise the
handler answers the caller of the record, which the proxy is told in a
header. -/
theorem account_agrees (boundary : Boundary State Store) (occasion : Occasion)
    (request : Request) (state : State) (store : Store) :
    let route := boundary.route request
    let account := boundary.account occasion request state store
    boundary.answer occasion request state store =
        (account.response, account.state, account.store) ∧
      (route = .health ∨ route = .unknown →
        account.questions = [] ∧ account.offered = [] ∧
          account.state = state ∧ account.store = store) ∧
      (route = .verify ∨ route = .guarded →
        ∃ passage record,
          boundary.target.passage? boundary.scope request = some passage ∧
          account.Agrees record passage.handler (fun handler =>
            (boundary.guard occasion request passage.method passage.path handler
              state store).1) ∧
          account.store = boundary.sink.offer record store ∧
          (record.decision = .allow → route = .verify →
            account.response.status = 200 ∧
              account.response.principal = record.principal.map Utf8.encode) ∧
          (record.decision = .allow → route = .guarded →
            account.response.status = 200 ∨ account.response.status = 404)) ∧
      (∀ name canonicalId, Identifier.canonical name = .ok canonicalId →
        HeaderValue.isLegal (Utf8.encode canonicalId) = true) ∧
      Response.accessDenied.status = 403 ∧
      Response.accessDenied.principal = none ∧
      Response.accessDenied.body.map Json.compact =
        some "\x7b\"code\":403,\"message\":\"Access denied\"\x7d" := by
  intro route account
  refine ⟨answer_eq_account, ?_, ?_, ?_, Response.accessDenied_eq⟩
  · intro isOpen
    have unguarded := TargetRules.passage?_eq_none_iff.mpr isOpen
    simp only [account, account_of_unguarded unguarded, and_self]
  · intro isGuarded
    obtain ⟨passage, guarded⟩ :
        ∃ passage,
          boundary.target.passage? boundary.scope request = some passage := by
      rcases isGuarded with verify | guarded
      · exact ⟨_, TargetRules.passage?_of_verify verify⟩
      · exact ⟨_, TargetRules.passage?_of_guarded guarded⟩
    have agrees := account_agrees_of_passage occasion state store guarded
    refine ⟨passage, _, guarded, agrees, ?_, ?_, ?_⟩
    · simp only [account, account_of_passage guarded]
    · intro allowed verify
      obtain ⟨principal, -, named, user, response⟩ :=
        response_of_allowed store guarded allowed
      rw [TargetRules.passage_handler_of_verify guarded verify,
        verifyAnswer_of_isUser user] at response
      simp only [account, response, named]
      exact ⟨rfl, rfl⟩
    · intro allowed isApi
      obtain ⟨principal, -, -, -, response⟩ :=
        response_of_allowed store guarded allowed
      rw [TargetRules.passage_handler_of_guarded guarded isApi] at response
      simp only [account, response]
      exact protectedAnswer_status _ _ _
  · intro name canonicalId isCanonical
    exact (isUser_of_canonical isCanonical).isLegal_encode

end Boundary

end Gatekeeper
