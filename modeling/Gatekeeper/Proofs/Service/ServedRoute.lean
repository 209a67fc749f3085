import Gatekeeper.Proofs.Decision.Coherence
import Gatekeeper.Proofs.Service.Forwarding
import Gatekeeper.Proofs.Target.Segments

/-!
# The served route

The protected handler serves one route, the data of the caller. It finds the
route in the path in its own way: it takes off the prefix if that is there, and
the slashes around the rest. The rules find the target in the path in theirs.
What the handler takes for one segment the rules take for one or for none, which
names nothing, so the route is served to callers only that may read the default
object.
-/

namespace Gatekeeper

open Gatekeeper.Http
open Gatekeeper.Text

/-! ### Two readings of a path -/

namespace TargetRules

variable {rules : TargetRules} {target : RequestTarget}

/-- The rules are given the path of a target, except that a slash can stand in
for a path that is left out. -/
def KeepsPath (target : RequestTarget) : Prop :=
  barePath target.full.toList = target.path.toList ∨ target.path = "/"

theorem keepsPath_of_ofPath? {text : List Char}
    (read : RequestTarget.ofPath? text = some target) : KeepsPath target := by
  by_cases written : barePath text = []
  · simp only [RequestTarget.ofPath?, Option.ite_none_right_eq_some,
      Option.some.injEq] at read
    obtain ⟨-, rfl⟩ := read
    exact .inr (if_pos (List.isEmpty_iff.mpr written))
  · obtain ⟨isWritten, kept⟩ := barePath_full_of_ofPath? written read
    left
    rw [kept, isWritten, String.toList_ofList]

/-- This is so for each form of a target: a star, a path, a host and a URL. -/
theorem keepsPath_of_ofText? {uri : String}
    (read : RequestTarget.ofText? uri = some target) : KeepsPath target := by
  unfold RequestTarget.ofText? at read
  simp only [Option.ite_none_left_eq_some] at read
  obtain ⟨-, read⟩ := read
  split at read
  next => cases read
  next isStar =>
    obtain rfl := Option.some.inj read
    exact .inl rfl
  next isPath => exact keepsPath_of_ofPath? read
  next =>
    split at read
    next longScheme => cases read
    next isHost =>
      obtain ⟨-, isHost⟩ := Option.ite_none_right_eq_some.mp read
      obtain rfl := Option.some.inj isHost
      exact .inl rfl
    next isUrl =>
      split at read
      next => cases read
      next => cases read
      next => exact keepsPath_of_ofPath? read

/-- In a path below the prefix, the handler and the rules find the same
segments. -/
theorem words_servedPath {path : String} {rest : List Char}
    (below : rules.below? path.toList = some rest) :
    words (· = '/') (servedPath rules.pathPrefix path) =
      words (· = '/') rest := by
  rw [servedPath, words_trimBoth]
  rcases below?_eq_some_iff.mp below with ⟨root, rfl⟩ | ⟨-, written, -⟩
  · rw [root]
    cases stripped : stripLead? "/".toList path.toList with
    | none => rw [Option.getD_none]
    | some behind =>
        rw [stripLead?_eq_some_iff.mp stripped, Option.getD_some]
        exact (words_cons_separator (by decide) behind).symm
  · rw [stripLead?_eq_some_iff.mpr written, Option.getD_some]

theorem words_servedPath_slash (pathPrefix : String) :
    words (· = '/') (servedPath pathPrefix "/") = [] := by
  have slashes : ∀ character ∈
      (stripLead? pathPrefix.toList "/".toList).getD "/".toList,
        decide (character = '/') = true := by
    intro character member
    cases stripped : stripLead? pathPrefix.toList "/".toList with
    | none =>
        rw [stripped] at member
        simpa using member
    | some behind =>
        have slash : "/".toList = pathPrefix.toList ++ behind :=
          stripLead?_eq_some_iff.mp stripped
        rw [stripped] at member
        have isSlash : character ∈ "/".toList := by
          rw [slash]
          exact List.mem_append_right _ member
        simpa using isSlash
  rw [servedPath, words_trimBoth]
  simpa using words_append_of_separators slashes []

/-- A path in which the handler finds one segment names nothing. -/
theorem object_of_servedPath (keeps : KeepsPath target)
    (nonempty : servedPath rules.pathPrefix target.path ≠ [])
    (plain : '/' ∉ servedPath rules.pathPrefix target.path) :
    rules.object target.full = rules.defaultObject := by
  have single := words_of_unslashed nonempty plain
  rcases keeps with kept | leftOut
  · rw [object_eq_segments?, segments?, kept]
    cases below : rules.below? target.path.toList with
    | none => rfl
    | some rest => rw [Option.map_some, ← words_servedPath below, single]
  · rw [leftOut, words_servedPath_slash] at single
    cases single

end TargetRules

/-! ### Data of callers -/

theorem protectedAnswer_eq_data_iff {pathPrefix : String} {request : Request}
    {principal caller : Principal} :
    protectedAnswer pathPrefix request caller =
        .data (describe principal) ↔
      servedPath pathPrefix request.target.path = "whoami".toList ∧
        request.method = "GET" ∧ describe caller = describe principal := by
  unfold protectedAnswer
  split
  next served => simp [served, Response.data]
  next unserved =>
    have unfound : Response.notFound ≠ .data (describe principal) := by
      simp [Response.notFound, Response.error, Response.data]
    refine ⟨fun isData => absurd isData unfound, ?_⟩
    rintro ⟨isRoute, isGet, -⟩
    exact absurd ⟨isRoute, isGet⟩ unserved

theorem verifyAnswer_ne_data (caller : Principal) (value : Json) :
    verifyAnswer caller ≠ .data value := by
  simp only [verifyAnswer]
  split
  · simp [Response.data]
  · simp [Response.accessDenied, Response.error, Response.data]

theorem Route.openAnswer_ne_data (route : Route) (occasion : Occasion)
    (request : Request) (principal : Principal) :
    route.openAnswer occasion request ≠ .data (describe principal) := by
  unfold openAnswer
  split
  · split <;> simp [healthAnswer, describe, Response.data, Response.empty]
  · simp [unknownAnswer, Response.error, Response.data]

/-! ### Allowed callers -/

/-- An evaluation that allows a caller has asked the backend about that caller
once. -/
theorem AccessRequest.Ends.queries_of_allowed {request : AccessRequest}
    {policy : FallbackPolicy} {ending : Ending} {questions : List Question}
    {now : Nat} {caller : Principal}
    (ends : request.Ends policy ending questions)
    (allowed :
      (ending.verdict request now).allowedPrincipal = some caller) :
    questions.filterMap Question.query? =
      [⟨caller.canonicalId, request.relation, request.object⟩] := by
  obtain ⟨isAllowed, named⟩ := Option.ite_none_right_eq_some.mp allowed
  replace isAllowed : ending.decision = .allow :=
    Verdict.isAllowed_iff.mp isAllowed
  replace named : ending.principal = some caller := named
  cases ends with
  | missing => cases isAllowed
  | malformed => cases isAllowed
  | unresolved => cases isAllowed
  | unasked => cases isAllowed
  | asked token authentication principal answer =>
      rw [Ending.ofAnswer_principal] at named
      obtain rfl := Option.some.inj named
      rfl

namespace Boundary

variable {State Store : Type} {boundary : Boundary State Store}
  {occasion : Occasion} {request : Request} {passage : Passage} {state : State}
  {store : Store} {principal caller : Principal}

/-- What the engine is asked for the default object. -/
def readingDefault (boundary : Boundary State Store) (occasion : Occasion)
    (request : Request) : AccessRequest where
  requestId := occasion.requestId
  credential := Credential.ofRequest request
  relation := boundary.target.readRelation
  object := boundary.target.defaultObject

/-- The one check for an allowed request is about its caller, its relation and
its object. -/
theorem checks_of_allowed
    (guarded : boundary.target.passage? boundary.scope request = some passage)
    (allowed : (boundary.evaluation occasion request passage
      state).verdict.allowedPrincipal = some caller) :
    (boundary.account occasion request state store).checks =
      [⟨caller.canonicalId, boundary.target.relation passage.method,
        boundary.target.object passage.path⟩] := by
  rw [Account.checks, account_of_passage guarded]
  exact (boundary.collaborators.ends_inquire boundary.policy
    (boundary.target.accessRequest occasion request passage)
    state).queries_of_allowed allowed

/-- The protected handler tells the data of a caller that the engine hands on,
whichever route leads to it. -/
theorem guard_eq_data_iff :
    (boundary.guard occasion request request.method request.target.full
        (protectedAnswer boundary.target.pathPrefix request) state store).1 =
        .data (describe principal) ↔
      servedPath boundary.target.pathPrefix request.target.path =
          "whoami".toList ∧
        request.method = "GET" ∧
        ∃ caller,
          (boundary.authorize occasion request request.method
            request.target.full state store).1.allowedPrincipal =
              some caller ∧
          describe caller = describe principal := by
  rw [guard_eq]
  cases (boundary.authorize occasion request request.method
      request.target.full state store).1.allowedPrincipal with
  | none =>
      simp [handledBy, Response.accessDenied, Response.error, Response.data]
  | some caller =>
      simp [handledBy, protectedAnswer_eq_data_iff]

/-- No other handler tells the data of a caller. -/
theorem answer_eq_data_iff :
    (boundary.answer occasion request state store).1 =
        .data (describe principal) ↔
      boundary.route request = .guarded ∧
        (boundary.guard occasion request request.method request.target.full
            (protectedAnswer boundary.target.pathPrefix request) state
            store).1 =
          .data (describe principal) := by
  cases route : boundary.route request with
  | guarded => simp only [answer, route, true_and]
  | verify =>
      rw [answer_of_verify route, guard_eq]
      cases (boundary.authorize occasion request (forwardedTarget request).1
          (forwardedTarget request).2 state store).1.allowedPrincipal with
      | none =>
          simp [handledBy, Response.accessDenied, Response.error, Response.data]
      | some caller => simp [handledBy, verifyAnswer_ne_data]
  | health =>
      rw [answer_of_unguarded (TargetRules.passage?_eq_none_iff.mpr
        (.inl route))]
      simp [Route.openAnswer_ne_data]
  | unknown =>
      rw [answer_of_unguarded (TargetRules.passage?_eq_none_iff.mpr
        (.inr route))]
      simp [Route.openAnswer_ne_data]

/-- Where the handler finds its route, the engine is asked for the default
object. -/
theorem authorize_of_served {uri : String}
    (read : RequestTarget.ofText? uri = some request.target)
    (served : servedPath boundary.target.pathPrefix request.target.path =
      "whoami".toList)
    (isGet : request.method = "GET") :
    boundary.target.resolve request.method request.target.full =
        ⟨boundary.target.readRelation, boundary.target.defaultObject⟩ ∧
      boundary.authorize occasion request request.method request.target.full
          state store =
        boundary.collaborators.evaluate boundary.sink boundary.policy
          occasion.now (boundary.readingDefault occasion request) state
          store := by
  have object : boundary.target.object request.target.full =
      boundary.target.defaultObject := by
    apply TargetRules.object_of_servedPath
      (TargetRules.keepsPath_of_ofText? read)
    · rw [served]
      decide
    · rw [served]
      decide
  have target : boundary.target.resolve request.method request.target.full =
      ⟨boundary.target.readRelation, boundary.target.defaultObject⟩ := by
    rw [TargetRules.resolve, object, isGet]
    rfl
  refine ⟨target, ?_⟩
  rw [authorize, target]
  rfl

/-- The verdict on a request as one for the default object. -/
def defaultVerdict (boundary : Boundary State Store) (occasion : Occasion)
    (request : Request) (state : State) (store : Store) : Verdict :=
  (boundary.collaborators.evaluate boundary.sink boundary.policy occasion.now
    (boundary.readingDefault occasion request) state store).1

/-- A request is answered with the data of a caller that may read the default
object: this is what its target is, what the engine has allowed and recorded,
and what the backend was asked about that caller. -/
structure ServesReader (boundary : Boundary State Store) (occasion : Occasion)
    (request : Request) (state : State) (store : Store) (caller : Principal) :
    Prop where
  response : (boundary.answer occasion request state store).1 =
    .data (describe caller)
  route :
    boundary.route request = .guarded
  target : boundary.target.resolve request.method request.target.full =
    ⟨boundary.target.readRelation, boundary.target.defaultObject⟩
  handed : (boundary.defaultVerdict occasion request state
    store).allowedPrincipal = some caller
  offered : (boundary.account occasion request state store).offered =
    [(boundary.defaultVerdict occasion request state store).record]
  decision : (boundary.defaultVerdict occasion request state
    store).record.decision = .allow
  checks : (boundary.account occasion request state store).checks =
    [⟨caller.canonicalId, boundary.target.readRelation,
      boundary.target.defaultObject⟩]

theorem servesReader_of_handed {uri : String}
    (read : RequestTarget.ofText? uri = some request.target)
    (route :
      boundary.route request = .guarded)
    (served : servedPath boundary.target.pathPrefix request.target.path =
      "whoami".toList)
    (isGet : request.method = "GET")
    (handed : (boundary.defaultVerdict occasion request state
      store).allowedPrincipal = some caller) :
    boundary.ServesReader occasion request state store caller := by
  obtain ⟨target, asked⟩ := authorize_of_served read served isGet
  have guarded := TargetRules.passage?_of_guarded route
  have authorized : boundary.defaultVerdict occasion request state store =
      (boundary.authorize occasion request request.method request.target.full
        state store).1 := by
    rw [defaultVerdict, ← asked]
  -- the evaluation for the passage is the one for the default object
  have evaluated : (boundary.evaluation occasion request
      ⟨request.method, request.target.full,
        protectedAnswer boundary.target.pathPrefix request⟩ state).verdict =
      boundary.defaultVerdict occasion request state store := by
    rw [authorized]
    exact (congrArg Prod.fst authorize_eq_evaluation).symm
  refine ⟨?_, route, target, handed, ?_, ?_, ?_⟩
  · rw [answer_eq_data_iff, guard_eq_data_iff, ← authorized]
    exact ⟨route, served, isGet, caller, handed, rfl⟩
  · rw [account_of_passage guarded, ← evaluated]
  · exact Verdict.isAllowed_iff.mp (Option.ite_none_right_eq_some.mp handed).1
  · rw [← evaluated] at handed
    rw [checks_of_allowed guarded handed]
    obtain ⟨relation, object⟩ := Target.mk.inj target
    simp only [relation, object]

/-- The route that is served is the one that was authorized. Whoever is told the
data of a caller has asked for the default object, and is the caller that the
engine has allowed to read it; and such a caller is told. This holds behind the
boundary whichever route leads there: a path in which the handler finds one
segment is about the default object. -/
theorem served_route_authorized {uri : String}
    (boundary : Boundary State Store) (occasion : Occasion) {request : Request}
    (state : State) (store : Store)
    (read : RequestTarget.ofText? uri = some request.target) :
    (∀ principal,
      (boundary.answer occasion request state store).1 =
          .data (describe principal) →
        ∃ caller,
          boundary.ServesReader occasion request state store caller) ∧
    (∀ caller,
      boundary.route request = .guarded →
      request.method = "GET" →
      servedPath boundary.target.pathPrefix request.target.path =
        "whoami".toList →
      (boundary.defaultVerdict occasion request state
        store).allowedPrincipal = some caller →
      boundary.ServesReader occasion request state store caller) ∧
    (∀ principal,
      (boundary.guard occasion request request.method request.target.full
          (protectedAnswer boundary.target.pathPrefix request) state
          store).1 = .data (describe principal) →
        ∃ caller, describe caller = describe principal ∧
          (boundary.defaultVerdict occasion request state
            store).allowedPrincipal = some caller) ∧
    (servedPath boundary.target.pathPrefix request.target.path ≠ [] →
      '/' ∉ servedPath boundary.target.pathPrefix request.target.path →
      boundary.target.object request.target.full =
        boundary.target.defaultObject) := by
  refine ⟨?_, ?_, ?_, ?_⟩
  · intro principal answered
    obtain ⟨route, isData⟩ := answer_eq_data_iff.mp answered
    obtain ⟨served, isGet, caller, handed, -⟩ := guard_eq_data_iff.mp isData
    rw [(authorize_of_served read served isGet).2] at handed
    exact ⟨caller, servesReader_of_handed read route served isGet handed⟩
  · intro caller route isGet served handed
    exact servesReader_of_handed read route served isGet handed
  · intro principal answered
    obtain ⟨served, isGet, caller, handed, same⟩ :=
      guard_eq_data_iff.mp answered
    rw [(authorize_of_served read served isGet).2] at handed
    exact ⟨caller, same, handed⟩
  · exact TargetRules.object_of_servedPath
      (TargetRules.keepsPath_of_ofText? read)

end Boundary

namespace Sample

/-- Alice asks who she is, with slashes and a query that do not count. -/
def whoami : Request :=
  ⟨"GET", ⟨"/api//whoami/", some "/api//whoami/?full=1"⟩, [aliceHeader]⟩

theorem whoami_readings :
    RequestTarget.ofText? "/api//whoami/?full=1" = some whoami.target ∧
      Route.ofPath literalScope "/api" whoami.target.path = .guarded ∧
      servedPath "/api" whoami.target.path = "whoami".toList ∧
      (openBoundary.defaultVerdict ⟨"1", 1700000000⟩ whoami ()
        []).allowedPrincipal.isSome = true := by
  decide +kernel

end Sample

theorem served_route_authorized_of_sample :
    RequestTarget.ofText? "/api//whoami/?full=1" =
        some Sample.whoami.target ∧
      ∃ caller, Sample.openBoundary.ServesReader ⟨"1", 1700000000⟩
        Sample.whoami () [] caller := by
  obtain ⟨read, route, served, isAllowed⟩ := Sample.whoami_readings
  obtain ⟨caller, handed⟩ := Option.isSome_iff_exists.mp isAllowed
  obtain ⟨-, serves, -⟩ := Boundary.served_route_authorized
    Sample.openBoundary ⟨"1", 1700000000⟩ () [] read
  exact ⟨read, caller, serves caller route rfl served handed⟩

/-- An escaped prefix leads to the protected handler, which finds no route. -/
example :
    Route.ofPath literalScope "/api" "/%61pi/whoami" = .guarded ∧
      servedPath "/api" "/%61pi/whoami" = "%61pi/whoami".toList := by
  decide +kernel

end Gatekeeper
