import Gatekeeper.Relation.CheckClient

/-!
# Answers to checks

What an answer of the backend says about the exchange that brought it.
-/

namespace Gatekeeper

namespace CheckClient

section

variable {status : Nat} (body : Http.Body)

theorem interpret_of_overloaded
    (overloaded : 500 ≤ status ∧ status < 600 ∨ status = 429) :
    ∃ detail, interpret (.answered status body) =
      .error (.unavailable detail) := by
  have failed :
      (Http.isServerError status || decide (status = 429)) = true := by
    simpa [Http.isServerError] using overloaded
  simp [interpret, failed]

theorem interpret_of_refused (failed : ¬ (200 ≤ status ∧ status < 300))
    (running : ¬ (500 ≤ status ∧ status < 600)) (unhurried : status ≠ 429) :
    ∃ detail, interpret (.answered status body) =
      .error (.rejected status detail) := by
  have answering : (Http.isServerError status || decide (status = 429)) =
      false := by
    simpa [Http.isServerError, unhurried] using running
  have unsuccessful : Http.isSuccess status = false := by
    simpa [Http.isSuccess] using failed
  simp [interpret, answering, unsuccessful]

theorem interpret_of_unsuccessful (failed : ¬ (200 ≤ status ∧ status < 300)) :
    ∃ failure, interpret (.answered status body) = .error failure := by
  by_cases overloaded : 500 ≤ status ∧ status < 600 ∨ status = 429
  · obtain ⟨detail, isRead⟩ := interpret_of_overloaded body overloaded
    exact ⟨_, isRead⟩
  · obtain ⟨running, unhurried⟩ := not_or.mp overloaded
    obtain ⟨detail, isRead⟩ :=
      interpret_of_refused body failed running unhurried
    exact ⟨_, isRead⟩

theorem interpret_of_success (least : 200 ≤ status) (most : status < 300) :
    interpret (.answered status body) =
      match allowed? (Http.bodyText body) with
      | some answer => .ok answer
      | none => .error (.malformed "parse check response") := by
  have answering : (Http.isServerError status || decide (status = 429)) =
      false := by
    simp only [Http.isServerError, Bool.or_eq_false_iff, Bool.and_eq_false_iff,
      decide_eq_false_iff_not]
    omega
  have successful : Http.isSuccess status = true := by
    simp [Http.isSuccess, least, most]
  simp only [interpret, answering, successful]
  rfl

end

/-- Only a success with a boolean under `allowed` is an answer. -/
theorem interpret_eq_ok_iff {exchange : Http.Exchange} {answer : Bool} :
    interpret exchange = .ok answer ↔
      ∃ status body, exchange = .answered status body ∧
        Http.isSuccess status = true ∧
        allowed? (Http.bodyText body) = some answer := by
  cases exchange with
  | unanswered => simp [interpret]
  | cutShort status => simp [interpret]
  | answered status body =>
      constructor
      · intro isOk
        refine ⟨status, body, rfl, ?_⟩
        by_cases success : 200 ≤ status ∧ status < 300
        · rw [interpret_of_success body success.1 success.2] at isOk
          cases read : allowed? (Http.bodyText body) with
          | none =>
              rw [read] at isOk
              cases isOk
          | some other =>
              rw [read] at isOk
              cases isOk
              simp [Http.isSuccess, success]
        · obtain ⟨failure, failed⟩ := interpret_of_unsuccessful body success
          rw [failed] at isOk
          cases isOk
      · rintro ⟨_, _, ⟨⟩, success, allowed⟩
        simp only [Http.isSuccess, Bool.and_eq_true,
          decide_eq_true_eq] at success
        rw [interpret_of_success body success.1 success.2, allowed]

theorem request?_body {client : CheckClient} {query : RelationQuery}
    {request : CheckRequest} (sent : client.request? query = some request) :
    request.body = client.body query := by
  unfold request? at sent
  split at sent
  · cases sent
  · split at sent
    · cases sent
    · split at sent
      · cases sent
      · obtain rfl := Option.some.inj sent
        rfl

/-- An answer comes from a request that was sent, and from an exchange that
brought it. -/
theorem check_eq_ok_iff {State : Type} {client : CheckClient}
    {send : CheckRequest → State → Http.Exchange × State}
    {query : RelationQuery} {state : State} {answer : Bool} :
    (client.check send query state).1 = .ok answer ↔
      ∃ request status body, client.request? query = some request ∧
        (send request state).1 = .answered status body ∧
        Http.isSuccess status = true ∧
        allowed? (Http.bodyText body) = some answer := by
  unfold check
  cases sent : client.request? query with
  | none => simp [interpret]
  | some request => simp [interpret_eq_ok_iff]

end CheckClient

end Gatekeeper
