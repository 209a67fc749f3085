import Gatekeeper.Proofs.Json.Reading
import Gatekeeper.Proofs.Relation.Checks

/-!
# Classes of answers

What a check ends in, by the exchange that it led to. Which bodies are an answer
is said by the grammar of JSON texts: the object with one boolean under
`allowed`, but also a boolean alone in an array.
-/

namespace Gatekeeper

open Gatekeeper.Json
open Gatekeeper.Text

namespace Json

variable {members : List (List StringUnit × Document)}
  {named : List (String × Document)} {name : String} {value : Document}

/-! ### Members by their names -/

/-- What a member is once the escapes of its name are resolved. -/
def Named (member : List StringUnit × Document) (named : String × Document) :
    Prop :=
  unitsText? member.1 = some named.1 ∧ member.2 = named.2

/-- A value stands under a name, and no other member has that name. -/
def HoldsOnce (name : String) (value : Document)
    (named : List (String × Document)) : Prop :=
  ∃ before after, named = before ++ (name, value) :: after ∧
    ∀ member ∈ before ++ after, member.1 ≠ name

theorem namedMembers?_cons_eq_some_iff {units : List StringUnit} :
    Document.namedMembers? ((units, value) :: members) = some named ↔
      ∃ name others, unitsText? units = some name ∧
        Document.namedMembers? members = some others ∧
        named = (name, value) :: others := by
  rw [Document.namedMembers?]
  cases unitsText? units with
  | none => simp
  | some name =>
      cases Document.namedMembers? members with
      | none => simp
      | some others =>
          constructor
          · intro same
            exact ⟨name, others, rfl, rfl, (Option.some.inj same).symm⟩
          · rintro ⟨_, _, ⟨⟩, ⟨⟩, rfl⟩
            rfl

theorem namedMembers?_eq_some_iff :
    Document.namedMembers? members = some named ↔
      List.Forall₂ Named members named := by
  induction members generalizing named with
  | nil =>
      rw [Document.namedMembers?, List.forall₂_nil_left_iff, Option.some.injEq]
      exact eq_comm
  | cons member members ih =>
      obtain ⟨units, value⟩ := member
      rw [namedMembers?_cons_eq_some_iff, List.forall₂_cons_left_iff]
      constructor
      · rintro ⟨name, others, isName, read, rfl⟩
        exact ⟨(name, value), others, ⟨isName, rfl⟩, ih.mp read, rfl⟩
      · rintro ⟨⟨name, _⟩, others, ⟨isName, rfl⟩, rest, rfl⟩
        exact ⟨name, others, isName, ih.mpr rest, rfl⟩

theorem holdsOnce_iff :
    HoldsOnce name value named ↔
      Document.isRepeated named name = false ∧
        named.lookup name = some value := by
  have unnamed_iff (others : List (String × Document)) :
      (others.filter fun member => member.1 = name) = [] ↔
        ∀ member ∈ others, member.1 ≠ name := by
    simp only [List.filter_eq_nil_iff, decide_eq_true_eq, ne_eq]
  constructor
  · rintro ⟨before, after, rfl, others⟩
    constructor
    · have others := (unnamed_iff _).mpr others
      rw [List.filter_append, List.append_eq_nil_iff] at others
      simp [Document.isRepeated, others.1, others.2]
    · refine List.lookup_eq_some_iff.mpr ⟨before, after, rfl, ?_⟩
      intro member inside
      exact bne_iff_ne.mpr
        (others member (List.mem_append_left after inside)).symm
  · rintro ⟨once, found⟩
    obtain ⟨before, after, rfl, -⟩ := List.lookup_eq_some_iff.mp found
    refine ⟨before, after, rfl, (unnamed_iff _).mp ?_⟩
    -- The member that was found is counted already.
    simp only [Document.isRepeated, List.filter_append, List.length_append,
      List.filter_cons_of_pos, decide_true, List.length_cons,
      decide_eq_false_iff_not] at once
    rw [List.filter_append, List.append_eq_nil_iff]
    constructor
    · exact List.eq_nil_of_length_eq_zero (by omega)
    · exact List.eq_nil_of_length_eq_zero (by omega)

theorem record?_object_eq_some_iff {known : List String} :
    (Document.object members).record? known = some named ↔
      List.Forall₂ Named members named ∧
        ∀ name ∈ known, Document.isRepeated named name = false := by
  rw [← namedMembers?_eq_some_iff, Document.record?]
  cases Document.namedMembers? members with
  | none => simp
  | some read =>
      cases repeated : known.any (Document.isRepeated read) with
      | true =>
          obtain ⟨name, isKnown, twice⟩ := List.any_eq_true.mp repeated
          simp only [Option.bind_some, repeated, if_true, reduceCtorEq,
            Option.some.injEq, false_iff, not_and]
          rintro rfl once
          rw [once name isKnown] at twice
          cases twice
      | false =>
          simp only [Option.bind_some, repeated, Bool.false_eq_true, if_false,
            Option.some.injEq, iff_self_and]
          rintro rfl name isKnown
          exact Bool.eq_false_iff.mpr
            (List.any_eq_false.mp repeated name isKnown)

end Json

/-! ### Answers in a body -/

namespace CheckClient

variable {answer : Bool} {body : String}

/-- The body is a JSON object with exactly one member named `allowed`, the
answer. -/
def AnswersInObject (answer : Bool) (body : String) : Prop :=
  ∃ members named, WritesPadded (.object members) (symbols body) ∧
    List.Forall₂ Named members named ∧
    HoldsOnce "allowed" (.boolean answer) named

/-- The body is a JSON array with the answer as its only item. -/
def AnswersBare (answer : Bool) (body : String) : Prop :=
  WritesPadded (.array [.boolean answer]) (symbols body)

theorem allowed?_eq_some_iff_record :
    allowed? body = some answer ↔
      ∃ document named, Document.read? (symbols body) = some document ∧
        document.record? ["allowed"] = some named ∧
        named.lookup "allowed" = some (.boolean answer) := by
  simp only [allowed?, Option.bind_eq_bind, Option.bind_eq_some_iff]
  constructor
  · rintro ⟨document, read, named, record, isAnswer⟩
    split at isAnswer
    · rename_i found
      obtain rfl := Option.some.inj isAnswer
      exact ⟨document, named, read, record, found⟩
    · cases isAnswer
  · rintro ⟨document, named, read, record, found⟩
    exact ⟨document, read, named, record, by rw [found]⟩

/-- The bodies that are taken as an answer. -/
theorem allowed?_eq_some_iff :
    allowed? body = some answer ↔
      AnswersInObject answer body ∨ AnswersBare answer body := by
  simp only [allowed?_eq_some_iff_record, Document.read?_eq_some_iff]
  constructor
  · rintro ⟨document, named, written, record, found⟩
    cases document with
    | object members =>
        obtain ⟨sameMembers, once⟩ := record?_object_eq_some_iff.mp record
        exact .inl ⟨members, named, written, sameMembers,
          holdsOnce_iff.mpr ⟨once "allowed" List.mem_cons_self, found⟩⟩
    | array items =>
        rcases items with _ | ⟨item, _ | ⟨second, others⟩⟩
        · obtain rfl := Option.some.inj record
          cases found
        · obtain rfl := Option.some.inj record
          obtain rfl := Option.some.inj found
          exact .inr written
        · cases record
    | _ => cases record
  · rintro (⟨members, named, written, sameMembers, once⟩ | written)
    · obtain ⟨once, found⟩ := holdsOnce_iff.mp once
      refine ⟨.object members, named, written, ?_, found⟩
      refine record?_object_eq_some_iff.mpr ⟨sameMembers, ?_⟩
      simpa using once
    · exact ⟨_, _, written, rfl, rfl⟩

/-- A text that is an object is no array. -/
theorem not_answersInObject_of_bare {other : Bool}
    (bare : AnswersBare answer body) : ¬ AnswersInObject other body := by
  rintro ⟨members, named, written, -, -⟩
  have sameText := Document.read?_eq_some_iff.mpr bare
  rw [Document.read?_eq_some_iff.mpr written] at sameText
  cases sameText

/-! ### The four classes -/

variable {exchange : Http.Exchange} {result : CheckAnswer}
  {means other : Bool → String → Prop}

/-- No answer came, or it broke off. -/
def IsLost (exchange : Http.Exchange) : Prop :=
  ∀ status body, exchange ≠ .answered status body

/-- The result is in the class of the exchange. Which bodies are which answer is
said by `means`. -/
structure ClassedBy (means : Bool → String → Prop) (exchange : Http.Exchange)
    (result : CheckAnswer) : Prop where
  ok : ∀ answer, result = .ok answer ↔
    ∃ status body, exchange = .answered status body ∧
      200 ≤ status ∧ status < 300 ∧ means answer (Http.bodyText body)
  unavailable : (∃ detail, result = .error (.unavailable detail)) ↔
    IsLost exchange ∨
      ∃ status body, exchange = .answered status body ∧
        (500 ≤ status ∧ status < 600 ∨ status = 429)
  rejected : ∀ status,
    (∃ detail, result = .error (.rejected status detail)) ↔
      ∃ body, exchange = .answered status body ∧
        ¬ (200 ≤ status ∧ status < 300) ∧
        ¬ (500 ≤ status ∧ status < 600) ∧ status ≠ 429
  malformed : (∃ detail, result = .error (.malformed detail)) ↔
    ∃ status body, exchange = .answered status body ∧
      200 ≤ status ∧ status < 300 ∧
      ∀ answer, ¬ means answer (Http.bodyText body)

/-- Only the bodies of successes matter to the classes. -/
theorem ClassedBy.of_iff (classed : ClassedBy means exchange result)
    (same : ∀ status body, exchange = .answered status body →
      200 ≤ status → status < 300 → ∀ answer,
        means answer (Http.bodyText body) ↔ other answer (Http.bodyText body)) :
    ClassedBy other exchange result := by
  refine ⟨?_, classed.unavailable, classed.rejected, ?_⟩
  · intro answer
    rw [classed.ok]
    refine exists_congr fun status => exists_congr fun body => ?_
    refine and_congr_right fun brought => and_congr_right fun least => ?_
    exact and_congr_right fun most => same status body brought least most answer
  · rw [classed.malformed]
    refine exists_congr fun status => exists_congr fun body => ?_
    refine and_congr_right fun brought => and_congr_right fun least => ?_
    refine and_congr_right fun most => forall_congr' fun answer => ?_
    exact not_congr (same status body brought least most answer)

section

variable {status : Nat} {body : Http.Body}

/-- The classes of an answer that came whole. -/
theorem classedBy_answered
    (ok : ∀ answer, result = .ok answer ↔
      (200 ≤ status ∧ status < 300) ∧ means answer (Http.bodyText body))
    (unavailable : (∃ detail, result = .error (.unavailable detail)) ↔
      (500 ≤ status ∧ status < 600 ∨ status = 429))
    (rejected : ∀ refused,
      (∃ detail, result = .error (.rejected refused detail)) ↔
        status = refused ∧ ¬ (200 ≤ status ∧ status < 300) ∧
          ¬ (500 ≤ status ∧ status < 600) ∧ status ≠ 429)
    (malformed : (∃ detail, result = .error (.malformed detail)) ↔
      (200 ≤ status ∧ status < 300) ∧
        ∀ answer, ¬ means answer (Http.bodyText body)) :
    ClassedBy means (.answered status body) result := by
  constructor
  · intro answer
    simp [ok, and_assoc]
  · simp [unavailable, IsLost]
  · intro refused
    rw [rejected]
    constructor
    · rintro ⟨rfl, others⟩
      exact ⟨body, rfl, others⟩
    · rintro ⟨_, ⟨⟩, others⟩
      exact ⟨rfl, others⟩
  · simp [malformed, and_assoc]

end

theorem classedBy_interpret (exchange : Http.Exchange) :
    ClassedBy
      (fun answer body => AnswersInObject answer body ∨ AnswersBare answer body)
      exchange (interpret exchange) := by
  simp only [← allowed?_eq_some_iff]
  cases exchange with
  | unanswered => constructor <;> simp [interpret, IsLost]
  | cutShort status => constructor <;> simp [interpret, IsLost]
  | answered status body =>
      by_cases success : 200 ≤ status ∧ status < 300
      · rw [interpret_of_success body success.1 success.2]
        cases read : allowed? (Http.bodyText body) with
        | none =>
            apply classedBy_answered
            · simp [read]
            · simp
              omega
            · simp [success]
            · simp [success, read]
        | some answer =>
            apply classedBy_answered
            · simp [success, read]
            · simp
              omega
            · simp [success]
            · simp [read]
      · by_cases overloaded : 500 ≤ status ∧ status < 600 ∨ status = 429
        · obtain ⟨detail, is⟩ := interpret_of_overloaded body overloaded
          rw [is]
          apply classedBy_answered <;> simp <;> omega
        · obtain ⟨running, unhurried⟩ := not_or.mp overloaded
          obtain ⟨detail, is⟩ :=
            interpret_of_refused body success running unhurried
          rw [is]
          apply classedBy_answered <;> simp <;> omega

/-- With the object as the only form of an answer the classes are right just
when no success brings a boolean alone in an array. -/
theorem classedBy_object_iff
    (classed : ClassedBy
      (fun answer body => AnswersInObject answer body ∨ AnswersBare answer body)
      exchange result) :
    ClassedBy AnswersInObject exchange result ↔
      ∀ status body, exchange = .answered status body →
        200 ≤ status → status < 300 →
          ∀ answer, ¬ AnswersBare answer (Http.bodyText body) := by
  constructor
  · intro documented status body brought least most answer bare
    have accepted := (classed.ok answer).mpr
      ⟨status, body, brought, least, most, .inr bare⟩
    obtain ⟨_, _, brought', -, -, inObject⟩ :=
      (documented.ok answer).mp accepted
    rw [brought] at brought'
    cases brought'
    exact not_answersInObject_of_bare bare inObject
  · intro unbare
    refine classed.of_iff fun status body brought least most answer => ?_
    simp only [unbare status body brought least most answer, or_false]

/-! ### Checks -/

section

variable {State : Type} (client : CheckClient)
  (send : CheckRequest → State → Http.Exchange × State) (query : RelationQuery)
  (state : State)

/-- The exchange of a check. A request that cannot be sent is not answered. -/
def exchanged : Http.Exchange × State :=
  match client.request? query with
  | none => (.unanswered, state)
  | some request => send request state

theorem check_fst :
    (client.check send query state).1 =
      interpret (client.exchanged send query state).1 := by
  unfold check exchanged
  cases client.request? query with
  | none => rfl
  | some request => rfl

/-- A check ends in the class of its exchange, where an answer is an object with
one boolean under `allowed` or an array of one boolean alone. With the object as
the only form of an answer the classes are right just when no success brings
such an array. -/
theorem check_classes :
    ClassedBy
        (fun answer body =>
          AnswersInObject answer body ∨ AnswersBare answer body)
        (client.exchanged send query state).1
        (client.check send query state).1 ∧
      (ClassedBy AnswersInObject (client.exchanged send query state).1
          (client.check send query state).1 ↔
        ∀ status body,
          (client.exchanged send query state).1 = .answered status body →
            200 ≤ status → status < 300 →
              ∀ answer, ¬ AnswersBare answer (Http.bodyText body)) := by
  have classed := classedBy_interpret (client.exchanged send query state).1
  rw [← check_fst] at classed
  exact ⟨classed, classedBy_object_iff classed⟩

end

end CheckClient

namespace Sample

def checkClient : CheckClient :=
  ⟨"http://backend", "main", none, none⟩

def viewing : RelationQuery :=
  ⟨"user:alice", "viewer", "document:roadmap"⟩

/-- A backend that answers every check with a boolean alone in an array. -/
def bareAnswer (_ : CheckRequest) (_ : Unit) : Http.Exchange × Unit :=
  (.answered 200 (Utf8.encode "[true]"), ())

theorem bareAnswer_readings :
    (checkClient.request? viewing).isSome = true ∧
      Document.read? (symbols (Http.bodyText (Utf8.encode "[true]"))) =
        some (.array [.boolean true]) := by
  exact ⟨by decide +kernel, rfl⟩

end Sample

open CheckClient in
/-- The client takes an array of one boolean for an answer, where the response
is malformed if an answer is an object. -/
theorem bare_boolean_allowed :
    (Sample.checkClient.exchanged Sample.bareAnswer Sample.viewing ()).1 =
        .answered 200 (Utf8.encode "[true]") ∧
      (∀ answer, ¬ AnswersInObject answer
        (Http.bodyText (Utf8.encode "[true]"))) ∧
      (Sample.checkClient.check Sample.bareAnswer Sample.viewing ()).1 =
        .ok true ∧
      ¬ ClassedBy AnswersInObject
        (Sample.checkClient.exchanged Sample.bareAnswer Sample.viewing ()).1
        (Sample.checkClient.check Sample.bareAnswer Sample.viewing ()).1 := by
  obtain ⟨sent, read⟩ := Sample.bareAnswer_readings
  obtain ⟨request, isRequest⟩ := Option.isSome_iff_exists.mp sent
  have bare : AnswersBare true (Http.bodyText (Utf8.encode "[true]")) :=
    Document.read?_eq_some_iff.mp read
  have brought : (Sample.checkClient.exchanged Sample.bareAnswer
      Sample.viewing ()).1 = .answered 200 (Utf8.encode "[true]") := by
    rw [exchanged, isRequest]
    rfl
  have classed := classedBy_interpret (.answered 200 (Utf8.encode "[true]"))
  rw [check_fst, brought]
  refine ⟨rfl, fun answer => not_answersInObject_of_bare bare, ?_, ?_⟩
  · exact (classed.ok true).mpr
      ⟨200, _, rfl, by decide, by decide, .inr bare⟩
  · intro documented
    exact (classedBy_object_iff classed).mp documented 200 _ rfl (by decide)
      (by decide) true bare

end Gatekeeper
