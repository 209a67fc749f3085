import Gatekeeper.Proofs.Lookup
import Gatekeeper.Proofs.Token.Acceptance

/-!
# Whom a payload names

The claims that a payload becomes. The user is named by the configured claim
where it holds a text that is not empty, and by the subject everywhere else.
The subject is taken out before the configured claim is looked up, which makes
no difference, also where the subject is the configured claim itself.
-/

namespace Gatekeeper

open Gatekeeper.Json

/-! ### Members -/

namespace Json.Members

variable {members : Members} {name other : String}

theorem get?_erase_same : (members.erase name).get? name = none :=
  lookup_filter_same

theorem get?_erase_of_ne (different : other ≠ name) :
    (members.erase name).get? other = members.get? other :=
  lookup_filter_of_ne different

end Json.Members

/-- A payload has a text that is not empty under a name. -/
def Holds (payload : Members) (name text : String) : Prop :=
  payload.get? name = some (.string text) ∧ text ≠ ""

theorem nonEmpty?_get?_eq_some_iff {payload : Members} {name text : String} :
    nonEmpty? (payload.get? name) = some text ↔ Holds payload name text := by
  unfold Holds
  cases payload.get? name with
  | none => simp [nonEmpty?]
  | some value =>
      cases value with
      | string held =>
          by_cases empty : held = ""
          · simp only [nonEmpty?, String.isEmpty_iff, empty, if_true,
              reduceCtorEq, false_iff, Option.some.injEq, Json.string.injEq]
            rintro ⟨rfl, filled⟩
            exact filled rfl
          · simp only [nonEmpty?, String.isEmpty_iff, empty, if_false,
              Option.some.injEq, Json.string.injEq]
            constructor
            · rintro rfl
              exact ⟨rfl, empty⟩
            · exact And.left
      | null | boolean | number | array | object => simp [nonEmpty?]

theorem nonEmpty?_get?_eq_none_iff {payload : Members} {name : String} :
    nonEmpty? (payload.get? name) = none ↔
      ∀ text, ¬ Holds payload name text := by
  simp only [← nonEmpty?_get?_eq_some_iff, Option.eq_none_iff_forall_ne_some]

/-! ### Users and subjects -/

/-- The subject of a payload: the text under its name, or no text. -/
inductive IsSubject (payload : Members) : String → Prop
  | named (subject : String)
      (held : payload.get? "sub" = some (.string subject)) :
      IsSubject payload subject
  | unnamed (noText : ∀ text, payload.get? "sub" ≠ some (.string text)) :
      IsSubject payload ""

theorem isSubject_iff {payload : Members} {subject : String} :
    IsSubject payload subject ↔
      ((payload.get? "sub").bind Json.text?).getD "" = subject := by
  constructor
  · intro isSubject
    cases isSubject with
    | named _ held => rw [held, Option.bind_some, Json.text?, Option.getD_some]
    | unnamed noText =>
        cases held : payload.get? "sub" with
        | none => rfl
        | some value =>
            cases value with
            | string text => exact absurd held (noText text)
            | null | boolean | number | array | object => rfl
  · rintro rfl
    cases held : payload.get? "sub" with
    | none => exact .unnamed fun text => by simp [held]
    | some value =>
        cases value with
        | string text => exact .named text held
        | null | boolean | number | array | object =>
            exact .unnamed fun text => by simp [held]

namespace TokenRules

variable {rules : TokenRules} {payload : Members} {claims : Claims}

/-- The text that names the user of a payload. -/
inductive NamesUser (rules : TokenRules) (payload : Members) : String → Prop
  | byClaim (user : String) (claimed : Holds payload rules.usernameClaim user) :
      NamesUser rules payload user
  | bySubject (user : String)
      (unclaimed : ∀ text, ¬ Holds payload rules.usernameClaim text)
      (subject : Holds payload "sub" user) :
      NamesUser rules payload user

theorem NamesUser.ne_empty {user : String}
    (named : rules.NamesUser payload user) : user ≠ "" := by
  cases named with
  | byClaim claimed => exact claimed.2
  | bySubject _ subject => exact subject.2

/-- Of two members the first that is held names the user. -/
theorem namesUser_iff {user : String} :
    rules.NamesUser payload user ↔
      (nonEmpty? (payload.get? rules.usernameClaim)).or
        (nonEmpty? (payload.get? "sub")) = some user := by
  rw [Option.or_eq_some_iff, nonEmpty?_get?_eq_some_iff,
    nonEmpty?_get?_eq_none_iff, nonEmpty?_get?_eq_some_iff]
  constructor
  · intro named
    cases named with
    | byClaim claimed => exact .inl claimed
    | bySubject unclaimed subject => exact .inr ⟨unclaimed, subject⟩
  · rintro (claimed | ⟨unclaimed, subject⟩)
    · exact .byClaim user claimed
    · exact .bySubject user unclaimed subject

theorem exists_namesUser_iff :
    (∃ user, rules.NamesUser payload user) ↔
      (∃ user, Holds payload rules.usernameClaim user) ∨
        ∃ user, Holds payload "sub" user := by
  simp only [namesUser_iff, ← Option.isSome_iff_exists, Option.isSome_or,
    Bool.or_eq_true, ← nonEmpty?_get?_eq_some_iff]

/-- Only the configured claim and the subject have a say in who the user is. -/
theorem namesUser_congr {other : Members} {user : String}
    (sameClaim : other.get? rules.usernameClaim =
      payload.get? rules.usernameClaim)
    (sameSubject : other.get? "sub" = payload.get? "sub") :
    rules.NamesUser other user ↔ rules.NamesUser payload user := by
  rw [namesUser_iff, namesUser_iff, sameClaim, sameSubject]

theorem NamesUser.unique {first second : String}
    (named : rules.NamesUser payload first)
    (alsoNamed : rules.NamesUser payload second) : first = second :=
  Option.some.inj
    ((namesUser_iff.mp named).symm.trans (namesUser_iff.mp alsoNamed))

/-- Without the subject the configured claim reads as before, unless it is the
subject, which then stands in for itself. -/
theorem named_withoutSubject :
    (nonEmpty? ((payload.erase "sub").get? rules.usernameClaim)).or
        (nonEmpty? (payload.get? "sub")) =
      (nonEmpty? (payload.get? rules.usernameClaim)).or
        (nonEmpty? (payload.get? "sub")) := by
  by_cases same : rules.usernameClaim = "sub"
  · rw [same, Members.get?_erase_same, Option.or_self]
    rfl
  · rw [Members.get?_erase_of_ne same]

/-! ### Claims -/

/-- The claims that a payload becomes. -/
structure Derives (rules : TokenRules) (payload : Members) (claims : Claims) :
    Prop where
  expiry : ∃ number, payload.get? "exp" = some (.number number) ∧
    claims.expiresAt = wholeSeconds number
  user : rules.NamesUser payload claims.username
  subject : IsSubject payload claims.subject
  rest : claims.extra = payload.filter fun member => member.1 ≠ "sub"

theorem claims_of_unnamed {number : JsonNumber}
    (numbered : payload.get? "exp" = some (.number number))
    (unnamed : ∀ user, ¬ rules.NamesUser payload user) :
    rules.claims payload = .error (.nameless rules.usernameClaim) := by
  simp only [namesUser_iff, ← Option.eq_none_iff_forall_ne_some] at unnamed
  simp only [TokenRules.claims, numbered, named_withoutSubject, unnamed]

theorem claims_of_named {number : JsonNumber} {user : String}
    (numbered : payload.get? "exp" = some (.number number))
    (named : rules.NamesUser payload user) :
    rules.claims payload =
      .ok ⟨user, ((payload.get? "sub").bind Json.text?).getD "",
        wholeSeconds number, payload.erase "sub"⟩ := by
  simp only [TokenRules.claims, numbered, named_withoutSubject,
    namesUser_iff.mp named]

theorem claims_eq_ok_iff :
    rules.claims payload = .ok claims ↔ rules.Derives payload claims := by
  constructor
  · intro derived
    obtain ⟨number, numbered, -⟩ := expiresAt_of_claims derived
    by_cases hasUser : ∃ user, rules.NamesUser payload user
    · obtain ⟨user, named⟩ := hasUser
      rw [claims_of_named numbered named, Except.ok.injEq] at derived
      subst derived
      exact ⟨⟨number, numbered, rfl⟩, named, isSubject_iff.mpr rfl, rfl⟩
    · rw [claims_of_unnamed numbered (not_exists.mp hasUser)] at derived
      cases derived
  · rintro ⟨⟨number, numbered, expiresAt⟩, named, subject, rest⟩
    rw [claims_of_named numbered named, isSubject_iff.mp subject, ← expiresAt,
      Members.erase, ← rest]

theorem exists_claims_iff :
    (∃ claims, rules.claims payload = .ok claims) ↔
      (∃ number, payload.get? "exp" = some (.number number)) ∧
        ∃ user, rules.NamesUser payload user := by
  constructor
  · rintro ⟨claims, derived⟩
    obtain ⟨⟨number, numbered, -⟩, named, -, -⟩ := claims_eq_ok_iff.mp derived
    exact ⟨⟨number, numbered⟩, claims.username, named⟩
  · rintro ⟨⟨number, numbered⟩, user, named⟩
    exact ⟨_, claims_of_named numbered named⟩

theorem Derives.get?_extra (derived : rules.Derives payload claims)
    (name : String) :
    claims.extra.get? name =
      if name = "sub" then none else payload.get? name := by
  have rest : claims.extra = payload.erase "sub" := derived.rest
  rw [rest]
  by_cases same : name = "sub"
  · rw [if_pos same, same, Members.get?_erase_same]
  · rw [if_neg same, Members.get?_erase_of_ne same]

end TokenRules

/-! ### Accepted tokens -/

/-- The claims of an accepted token are derived from the payload it carries. -/
theorem Service.derives_of_accepted {Outside : Type} {service : Service}
    {network : Network Outside} {now : Nat} {token : String}
    {state : KeyCache × Outside} {claims : Claims}
    (accepted : (service.provider network now token state).1 = .ok claims) :
    ∃ payload, carriedPayload? token = some payload ∧
      service.identity.rules.Derives payload claims := by
  obtain ⟨examined, key, isExamined, -, judged⟩ :=
    provider_eq_ok_iff.mp accepted
  obtain ⟨payload, valid, derived⟩ := ExaminedToken.judge_eq_ok_iff.mp judged
  obtain ⟨-, carried, -⟩ := TokenRules.validate_eq_ok_iff.mp valid
  refine ⟨payload, ?_, TokenRules.claims_eq_ok_iff.mp derived⟩
  rw [carriedPayload?, (ExaminedToken.ofText_eq_ok_iff.mp isExamined).1,
    Option.bind_some, carried]

/-- A payload becomes claims when its expiry is a number and the configured
claim or the subject is a text that is not empty. The claims are then settled
by the payload as it was signed, and the user by these two members alone. So an
accepted token names a user, and names it so. -/
theorem TokenRules.claims_of_payload (rules : TokenRules) (payload : Members) :
    ((∃ claims, rules.claims payload = .ok claims) ↔
      (∃ number, payload.get? "exp" = some (.number number)) ∧
        ((∃ user, Holds payload rules.usernameClaim user) ∨
          ∃ user, Holds payload "sub" user)) ∧
    (∀ claims, rules.claims payload = .ok claims ↔
      rules.Derives payload claims) ∧
    (∀ claims, rules.claims payload = .ok claims →
      claims.username ≠ "" ∧
        (∀ name, claims.extra.get? name =
          if name = "sub" then none else payload.get? name) ∧
        ∀ other others,
          other.get? rules.usernameClaim = payload.get? rules.usernameClaim →
          other.get? "sub" = payload.get? "sub" →
          rules.claims other = .ok others →
          others.username = claims.username) ∧
    ∀ (Outside : Type) (service : Service) (network : Network Outside)
      (now : Nat) (token : String) (state : KeyCache × Outside)
      (claims : Claims), service.identity.rules = rules →
      (service.provider network now token state).1 = .ok claims →
      claims.username ≠ "" ∧
        ∃ carried, carriedPayload? token = some carried ∧
          rules.Derives carried claims := by
  refine ⟨?_, fun claims => claims_eq_ok_iff, ?_, ?_⟩
  · rw [exists_claims_iff, exists_namesUser_iff]
  · intro claims derived
    have derives := claims_eq_ok_iff.mp derived
    refine ⟨derives.user.ne_empty, derives.get?_extra, ?_⟩
    intro other others sameClaim sameSubject alsoDerived
    have alsoDerives := claims_eq_ok_iff.mp alsoDerived
    have named := (namesUser_congr sameClaim sameSubject).mp alsoDerives.user
    exact named.unique derives.user
  · rintro Outside service network now token state claims rfl accepted
    obtain ⟨carried, isCarried, derives⟩ := Service.derives_of_accepted accepted
    exact ⟨derives.user.ne_empty, carried, isCarried, derives⟩

namespace Sample

/-- The members that the token carries. -/
def members : Members :=
  [("exp", .nat 1800000000), ("sub", .string "mallory")]

/-- The members with a name besides, which nobody is asked for. -/
def namedMembers : Members :=
  [("exp", .nat 1900000000), ("name", .string "root"),
    ("sub", .string "mallory")]

/-- The configured claim is the subject. -/
def subjectRules : TokenRules :=
  ⟨none, none, "sub", 0⟩

def subjectService : Service where
  identity := .configured subjectRules key
  limits := ⟨0, 0⟩
  client := ⟨"http://backend", "main", none, none⟩
  audit := .log
  policy := ⟨.production, false⟩
  target := .standard

theorem subject_members : members.get? "sub" = some (.string "mallory") := by
  simp [members, Members.get?, List.lookup_cons]

theorem subject_namedMembers :
    namedMembers.get? "sub" = some (.string "mallory") := by
  simp [namedMembers, Members.get?, List.lookup_cons]

theorem claims_members : subjectRules.claims members = .ok claims := by
  refine TokenRules.claims_eq_ok_iff.mpr
    ⟨⟨.natural 1800000000, rfl, rfl⟩, .byClaim _ ⟨subject_members, by decide⟩,
      .named _ subject_members, ?_⟩
  simp [members, claims]

theorem claims_namedMembers :
    subjectRules.claims namedMembers =
      .ok ⟨"mallory", "mallory", 1900000000,
        [("exp", .nat 1900000000), ("name", .string "root")]⟩ := by
  refine TokenRules.claims_eq_ok_iff.mpr
    ⟨⟨.natural 1900000000, rfl, rfl⟩,
      .byClaim _ ⟨subject_namedMembers, by decide⟩,
      .named _ subject_namedMembers, ?_⟩
  simp [namedMembers]

theorem accepted_subjectService {Outside : Type} (network : Network Outside)
    (state : KeyCache × Outside) :
    (subjectService.provider network 1700000000 token state).1 = .ok claims :=
  Service.provider_eq_ok_iff.mpr
    ⟨_, key, examined_token, rfl, judge_token _ (by decide)⟩

end Sample

/-- Where the subject is the configured claim, it still names the user, whatever
else the payload says, and the user of the token of the sample is that one. -/
theorem claims_of_payload_of_sample :
    Sample.subjectRules.claims Sample.members = .ok Sample.claims ∧
      (∃ others, Sample.subjectRules.claims Sample.namedMembers = .ok others ∧
        others.username = Sample.claims.username) ∧
      ∀ (network : Network Unit) (state : KeyCache × Unit),
        (Sample.subjectService.provider network 1700000000 Sample.token
            state).1 = .ok Sample.claims ∧
          Sample.claims.username ≠ "" ∧
          ∃ carried, carriedPayload? Sample.token = some carried ∧
            Sample.subjectRules.Derives carried Sample.claims := by
  obtain ⟨-, -, settled, accepted⟩ :=
    TokenRules.claims_of_payload Sample.subjectRules Sample.members
  obtain ⟨-, -, sameUser⟩ := settled _ Sample.claims_members
  have sameSubject : Sample.namedMembers.get? "sub" =
      Sample.members.get? "sub" := by
    rw [Sample.subject_members, Sample.subject_namedMembers]
  refine ⟨Sample.claims_members, ⟨_, Sample.claims_namedMembers,
    sameUser _ _ sameSubject sameSubject Sample.claims_namedMembers⟩, ?_⟩
  intro network state
  have isAccepted := Sample.accepted_subjectService network state
  exact ⟨isAccepted,
    accepted Unit Sample.subjectService network 1700000000 Sample.token state
      Sample.claims rfl isAccepted⟩

end Gatekeeper
