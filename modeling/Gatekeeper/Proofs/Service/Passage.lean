import Gatekeeper.Proofs.Decision.Law
import Gatekeeper.Service.Answer

/-!
# Passing the boundary

What a request asks to pass the boundary with, and what the boundary answers. A
guarded request is passed to the handler of its route with the caller that the
engine admits, and denied where it admits none. The other requests pass without
a question.
-/

namespace Gatekeeper

open Gatekeeper.Http

/-- The answer on a route that needs no passage. -/
def Route.openAnswer (occasion : Occasion) (request : Request) :
    Route → Response
  | health =>
      if request.method = "GET" then healthAnswer occasion.now else .empty 405
  | _ => unknownAnswer request

/-- What a guarded request asks to pass the boundary with, and the handler
behind it. -/
structure Passage where
  method : String
  path : String
  handler : Principal → Response

/-- The response by the caller that is admitted: a handler sees that caller, and
no handler runs without one. -/
def handledBy (handler : Principal → Response) : Option Principal → Response
  | none => .accessDenied
  | some principal => handler principal

namespace TargetRules

/-- The passage of a request, when its route is guarded. -/
def passage? (rules : TargetRules) (scope : ScopeMatch) (request : Request) :
    Option Passage :=
  match Route.ofPath scope rules.pathPrefix request.target.path with
  | .verify =>
      some ⟨(forwardedTarget request).1, (forwardedTarget request).2,
        verifyAnswer⟩
  | .guarded =>
      some ⟨request.method, request.target.full,
        protectedAnswer rules.pathPrefix request⟩
  | .health | .unknown => none

variable {rules : TargetRules} {scope : ScopeMatch} {request : Request}

theorem passage?_of_verify
    (route :
      Route.ofPath scope rules.pathPrefix request.target.path = .verify) :
    rules.passage? scope request =
      some ⟨(forwardedTarget request).1, (forwardedTarget request).2,
        verifyAnswer⟩ := by
  simp only [passage?, route]

theorem passage?_of_guarded
    (route :
      Route.ofPath scope rules.pathPrefix request.target.path = .guarded) :
    rules.passage? scope request =
      some ⟨request.method, request.target.full,
        protectedAnswer rules.pathPrefix request⟩ := by
  simp only [passage?, route]

theorem passage?_eq_none_iff :
    rules.passage? scope request = none ↔
      Route.ofPath scope rules.pathPrefix request.target.path = .health ∨
        Route.ofPath scope rules.pathPrefix request.target.path = .unknown := by
  unfold passage?
  cases Route.ofPath scope rules.pathPrefix request.target.path <;> simp

/-- What the engine is asked for a passage. -/
def accessRequest (rules : TargetRules) (occasion : Occasion)
    (request : Request) (passage : Passage) : AccessRequest where
  requestId := occasion.requestId
  credential := Credential.ofRequest request
  relation := rules.relation passage.method
  object := rules.object passage.path

end TargetRules

namespace Boundary

variable {State Store : Type} {boundary : Boundary State Store}
  {occasion : Occasion} {request : Request} {state : State} {store : Store}

/-- The caller that a request is passed to its handler with. -/
def admitted (boundary : Boundary State Store) (occasion : Occasion)
    (request : Request) (state : State) (store : Store) : Option Principal :=
  (boundary.target.passage? boundary.scope request).bind fun passage =>
    (boundary.authorize occasion request passage.method passage.path state
      store).1.allowedPrincipal

theorem admitted_of_unguarded
    (unguarded : boundary.target.passage? boundary.scope request = none) :
    boundary.admitted occasion request state store = none := by
  rw [admitted, unguarded, Option.bind_none]

theorem answer_of_unguarded
    (unguarded : boundary.target.passage? boundary.scope request = none) :
    boundary.answer occasion request state store =
      ((boundary.route request).openAnswer occasion request, state, store) := by
  rcases TargetRules.passage?_eq_none_iff.mp unguarded with health | unknown
  · simp only [answer, health, Route.openAnswer]
  · simp only [answer, unknown, Route.openAnswer]

theorem guard_eq (method path : String) (handler : Principal → Response) :
    boundary.guard occasion request method path handler state store =
      (handledBy handler (boundary.authorize occasion request method path state
          store).1.allowedPrincipal,
        (boundary.authorize occasion request method path state store).2) := by
  cases allowed : (boundary.authorize occasion request method path state
      store).1.allowedPrincipal with
  | none => simp only [guard, allowed, handledBy]
  | some principal => simp only [guard, allowed, handledBy]

/-- A guarded request is answered by its handler when a caller is admitted, and
otherwise denied. -/
theorem answer_of_passage {passage : Passage}
    (guarded : boundary.target.passage? boundary.scope request = some passage) :
    boundary.answer occasion request state store =
      (handledBy passage.handler
          (boundary.admitted occasion request state store),
        (boundary.authorize occasion request passage.method passage.path state
          store).2) := by
  unfold admitted
  rw [guarded, Option.bind_some]
  unfold TargetRules.passage? at guarded
  cases route : boundary.route request with
  | verify =>
      simp only [route, Option.some.injEq] at guarded
      subst guarded
      simp only [answer, route]
      exact guard_eq _ _ _
  | guarded =>
      simp only [route, Option.some.injEq] at guarded
      subst guarded
      simp only [answer, route]
      exact guard_eq _ _ _
  | health => simp [route] at guarded
  | unknown => simp [route] at guarded

variable {passage : Passage} {principal : Principal}

theorem answer_state_of_passage
    (guarded : boundary.target.passage? boundary.scope request = some passage) :
    (boundary.answer occasion request state store).2.1 =
      (boundary.collaborators.inquire
        (boundary.target.accessRequest occasion request passage) state).2 := by
  rw [answer_of_passage guarded]
  unfold authorize
  rw [Collaborators.evaluate_eq_inquire]
  rfl

theorem answer_of_admitted
    (guarded : boundary.target.passage? boundary.scope request = some passage)
    (admitted : boundary.admitted occasion request state store =
      some principal) :
    (boundary.answer occasion request state store).1 =
      passage.handler principal := by
  rw [answer_of_passage guarded, admitted, handledBy]

theorem admitted_eq_some_iff
    (guarded : boundary.target.passage? boundary.scope request = some passage) :
    boundary.admitted occasion request state store = some principal ↔
      ∃ answer,
        (boundary.collaborators.inquire
          (boundary.target.accessRequest occasion request passage) state).1 =
            .ok (principal, answer) ∧
          answer.Admits boundary.policy := by
  unfold admitted
  rw [guarded, Option.bind_some]
  exact Collaborators.evaluate_allowedPrincipal_iff

end Boundary

end Gatekeeper
