import Gatekeeper.Proofs.Config.Completion

/-!
# Options that hold a text

What completion makes of each option that holds a text. All but two end as the
expansion of what is written, up to the paths that stand in for empty ones and
the slashes at the end of the prefix. The name of the user's claim and the
default object stay as they are written, so they end as their expansions only
where they expand to themselves. The relations of the methods are not expanded
either, but a relation that completion lets pass has nothing to expand.
-/

namespace Gatekeeper.Config

open Gatekeeper.Text

/-- The options that hold a text. -/
inductive TextOption where
  | bind
  | certificatePath
  | keyPath
  | keySetUrl
  | publicKeyPath
  | issuer
  | audience
  | usernameClaim
  | backendUrl
  | store
  | model
  | token
  | auditPath
  | pathPrefix
  | defaultObject
  | readRelation
  | writeRelation
  | deleteRelation
deriving DecidableEq, Repr

namespace TextOption

def text (config : ServerConfig) : TextOption → String
  | bind => config.bind
  | certificatePath => config.certificatePath
  | keyPath => config.keyPath
  | keySetUrl => config.identity.keySetUrl
  | publicKeyPath => config.identity.publicKeyPath
  | issuer => config.identity.issuer
  | audience => config.identity.audience
  | usernameClaim => config.identity.usernameClaim
  | backendUrl => config.backend.url
  | store => config.backend.store
  | model => config.backend.model
  | token => config.backend.token
  | auditPath => config.audit.path
  | pathPrefix => config.target.pathPrefix
  | defaultObject => config.target.defaultObject
  | readRelation => config.target.readRelation
  | writeRelation => config.target.writeRelation
  | deleteRelation => config.target.deleteRelation

/-- The path that is derived from the directories of the installation. The one
of the public key is derived only where keys come from a file. -/
def derivedPath? (paths : Paths) (source : KeySource) :
    TextOption → Option String
  | certificatePath => some (PathText.join paths.keys "server.crt")
  | keyPath => some (PathText.join paths.keys "server.key")
  | publicKeyPath =>
      match source with
      | .published => none
      | .localFile => some (PathText.join paths.keys "idp_public.pem")
  | auditPath => some (PathText.join paths.data "audit.log")
  | _ => none

/-- A text without the slashes at its end; a text of slashes alone keeps one. -/
def IsWithoutEndSlashes (whole trimmed : String) : Prop :=
  ∃ count, whole.toList = trimmed.toList ++ List.replicate count '/' ∧
    (trimmed = "/" ∨ trimmed ≠ "" ∧ trimmed.toList.getLast? ≠ some '/')

/-- What an option is to be after completion, by the expansion of what is
written. -/
def EndsAs (paths : Paths) (source : KeySource) (expanded last : String) :
    TextOption → Prop
  | pathPrefix => IsWithoutEndSlashes expanded last
  | option =>
      last = match option.derivedPath? paths source with
        | none => expanded
        | some derived => orFallback expanded derived

/-- An option of a completed configuration is what the expansion of the written
one makes it. -/
def IsExpanded (context : Context) (written completed : ServerConfig)
    (option : TextOption) : Prop :=
  ∃ expanded, expand context.assignments (option.text written) = .ok expanded ∧
    option.EndsAs context.paths written.identity.source expanded
      (option.text completed)

end TextOption

/-! ### Texts that expand to themselves -/

/-- A text without a dollar sign and without a tilde in front. -/
theorem expand_eq_self {assignments : Variables} {text : String}
    (undollared : '$' ∉ text.toList)
    (untilded : text.toList.head? ≠ some '~') :
    expand assignments text = .ok text := by
  have home : expandHome assignments text.toList = text.toList := by
    unfold expandHome
    split
    · rename_i isTilde _
      simp [isTilde] at untilded
    · rename_i isTilde _
      simp [isTilde] at untilded
    · rfl
  unfold expand
  simp only [List.contains_iff_mem, undollared, if_false, home,
    String.ofList_toList]

theorem expand_relation {assignments : Variables} {written relation : String}
    (kept : relation = written)
    (name : IsName isRelationCharacter relation.toList) :
    expand assignments written = .ok relation := by
  subst kept
  apply expand_eq_self
  · intro member
    exact absurd (name.allowed '$' member) (by decide)
  · obtain ⟨first, rest, isCons, lower⟩ := name.start
    rw [isCons, List.head?_cons, Ne, Option.some.injEq]
    rintro rfl
    exact absurd lower (by decide)

theorem isWithoutEndSlashes_trimPrefix {whole : String}
    (rooted : whole.toList.head? = some '/') :
    TextOption.IsWithoutEndSlashes whole (TargetRules.trimPrefix whole) := by
  have split := dropTrailing_append_reverse (· = '/') whole.toList
  have slashes : ∃ count,
      (whole.toList.reverse.takeWhile (· = '/')).reverse =
        List.replicate count '/' := by
    refine ⟨_, List.eq_replicate_iff.mpr ⟨rfl, ?_⟩⟩
    intro character member
    simpa using List.mem_takeWhile_imp (List.mem_reverse.mp member)
  obtain ⟨count, slashes⟩ := slashes
  rw [slashes] at split
  cases trimmed : dropTrailing (· = '/') whole.toList with
  | nil =>
      rw [trimmed, List.nil_append] at split
      cases count with
      | zero => simp [← split] at rooted
      | succ count =>
          have single : TargetRules.trimPrefix whole = "/" := by
            simp [TargetRules.trimPrefix, trimmed]
          refine ⟨count, ?_, .inl single⟩
          rw [← split, single, List.replicate_succ]
          rfl
  | cons first rest =>
      have shorter : TargetRules.trimPrefix whole =
          String.ofList (first :: rest) := by
        simp [TargetRules.trimPrefix, trimmed]
      refine ⟨count, ?_, ?_⟩
      · rw [shorter, String.toList_ofList, ← trimmed, split]
      · refine (TargetRules.trimPrefix_trimmed whole).imp_right ?_
        intro unslashed
        exact ⟨by simp [shorter], unslashed⟩

/-! ### Completion by option -/

variable {context : Context} {written completed : ServerConfig}

/-- The options that completion takes as they are written. -/
def TextOption.isTakenAsWritten : TextOption → Bool
  | usernameClaim | defaultObject => true
  | readRelation | writeRelation | deleteRelation => true
  | _ => false

namespace ServerConfig.Completes

theorem text_of_isTakenAsWritten
    (completes : Completes context written completed) {option : TextOption}
    (isTaken : option.isTakenAsWritten = true) :
    option.text completed = option.text written := by
  have identity := completes.identity.kept
  have target := completes.target.kept
  cases option with
  | usernameClaim =>
      have same := congrArg IdentityConfig.usernameClaim identity
      exact same
  | defaultObject =>
      have same := congrArg TargetRules.defaultObject target
      exact same
  | readRelation =>
      have same := congrArg TargetRules.readRelation target
      exact same
  | writeRelation =>
      have same := congrArg TargetRules.writeRelation target
      exact same
  | deleteRelation =>
      have same := congrArg TargetRules.deleteRelation target
      exact same
  | _ => cases isTaken

/-- Every option but the name of the user's claim and the default object ends as
the expansion of what is written. -/
theorem isExpanded (completes : Completes context written completed)
    {option : TextOption} (isOther : option ≠ .usernameClaim)
    (isOtherToo : option ≠ .defaultObject) :
    option.IsExpanded context written completed := by
  have identity := completes.identity
  have backend := completes.backend
  have target := completes.target
  have taken (option : TextOption) (isTaken : option.isTakenAsWritten = true) :
      option.text completed = option.text written :=
    completes.text_of_isTakenAsWritten isTaken
  cases option with
  | bind => exact ⟨_, completes.bind, rfl⟩
  | certificatePath => exact completes.certificatePath
  | keyPath => exact completes.keyPath
  | keySetUrl => exact ⟨_, identity.keySetUrl, rfl⟩
  | publicKeyPath =>
      obtain ⟨expanded, expansion, path⟩ := identity.publicKeyPath
      refine ⟨expanded, expansion, path.trans ?_⟩
      cases written.identity.source <;> rfl
  | issuer => exact ⟨_, identity.issuer, rfl⟩
  | audience => exact ⟨_, identity.audience, rfl⟩
  | usernameClaim => exact absurd rfl isOther
  | backendUrl => exact ⟨_, backend.url, rfl⟩
  | store => exact ⟨_, backend.store, rfl⟩
  | model => exact ⟨_, backend.model, rfl⟩
  | token => exact ⟨_, backend.token, rfl⟩
  | auditPath => exact completes.audit.path
  | pathPrefix =>
      obtain ⟨expanded, expansion, rooted, trimmed⟩ := target.pathPrefix
      have ends := isWithoutEndSlashes_trimPrefix rooted
      rw [← trimmed] at ends
      exact ⟨expanded, expansion, ends⟩
  | defaultObject => exact absurd rfl isOtherToo
  | readRelation =>
      exact ⟨_, expand_relation (taken .readRelation rfl) target.read, rfl⟩
  | writeRelation =>
      exact ⟨_, expand_relation (taken .writeRelation rfl) target.write, rfl⟩
  | deleteRelation =>
      exact ⟨_, expand_relation (taken .deleteRelation rfl) target.delete, rfl⟩

theorem isExpanded_of_not_taken
    (completes : Completes context written completed)
    {option : TextOption} (isNotTaken : option.isTakenAsWritten = false) :
    option.IsExpanded context written completed := by
  apply completes.isExpanded
  · rintro rfl
    cases isNotTaken
  · rintro rfl
    cases isNotTaken

/-- An option that is taken as it is written ends as its expansion exactly when
it expands to itself. -/
theorem isExpanded_iff_of_isTakenAsWritten
    (completes : Completes context written completed) {option : TextOption}
    (isTaken : option.isTakenAsWritten = true) :
    option.IsExpanded context written completed ↔
      expand context.assignments (option.text written) =
        .ok (option.text written) := by
  have ends (expanded : String) :
      option.EndsAs context.paths written.identity.source expanded
        (option.text written) ↔ option.text written = expanded := by
    cases option <;> cases isTaken <;> exact Iff.rfl
  unfold TextOption.IsExpanded
  rw [completes.text_of_isTakenAsWritten isTaken]
  simp only [ends]
  constructor
  · rintro ⟨expanded, expansion, rfl⟩
    exact expansion
  · intro expansion
    exact ⟨_, expansion, rfl⟩

end ServerConfig.Completes

/-- Completion takes the name of the user's claim, the default object and the
relations as they are written, and makes every other option that holds a text
the expansion of what is written. So all of them end as their expansions exactly
when the name of the claim and the default object expand to themselves. -/
theorem options_of_complete
    (completed_ok : Section.complete context written = .ok completed) :
    (∀ option : TextOption, option.isTakenAsWritten = false →
      option.IsExpanded context written completed) ∧
    (∀ option : TextOption, option.isTakenAsWritten = true →
      option.text completed = option.text written) ∧
    ((∀ option : TextOption, option.IsExpanded context written completed) ↔
      expand context.assignments written.identity.usernameClaim =
          .ok written.identity.usernameClaim ∧
        expand context.assignments written.target.defaultObject =
          .ok written.target.defaultObject) := by
  have completes := ServerConfig.complete_eq_ok_iff.mp completed_ok
  have claim : TextOption.usernameClaim.IsExpanded context written completed ↔
      expand context.assignments written.identity.usernameClaim =
        .ok written.identity.usernameClaim :=
    completes.isExpanded_iff_of_isTakenAsWritten rfl
  have object : TextOption.defaultObject.IsExpanded context written completed ↔
      expand context.assignments written.target.defaultObject =
        .ok written.target.defaultObject :=
    completes.isExpanded_iff_of_isTakenAsWritten rfl
  refine ⟨fun option => completes.isExpanded_of_not_taken,
    fun option => completes.text_of_isTakenAsWritten, ?_, ?_⟩
  · intro all
    exact ⟨claim.mp (all .usernameClaim), object.mp (all .defaultObject)⟩
  · rintro ⟨claimExpands, objectExpands⟩ option
    by_cases isClaim : option = .usernameClaim
    · subst isClaim
      exact claim.mpr claimExpands
    · by_cases isObject : option = .defaultObject
      · subst isObject
        exact object.mpr objectExpands
      · exact completes.isExpanded isClaim isObject

end Gatekeeper.Config

namespace Gatekeeper

open Gatekeeper.Config

/-- In the small installation every option ends as its expansion. -/
theorem options_of_complete_of_sample :
    Section.complete ⟨Sample.optionVariables, Sample.optionPaths⟩
        Sample.writtenOptions = .ok Sample.completedOptions ∧
      ∀ option : TextOption,
        option.IsExpanded ⟨Sample.optionVariables, Sample.optionPaths⟩
          Sample.writtenOptions Sample.completedOptions := by
  obtain ⟨-, -, all⟩ := options_of_complete Sample.complete_options
  refine ⟨Sample.complete_options, all.mpr ⟨?_, ?_⟩⟩
  · decide +kernel
  · decide +kernel

/-! ### A claim that a variable names

The configuration leaves the name of the user's claim to the environment. The
completed one looks for a claim with the name of the variable in its braces.
-/

namespace Sample

def claimText : String :=
  "[idp]\nkind = \"pem\"\nusername_claim = \"$\x7bCLAIM\x7d\"\n" ++
    "[rebac]\nurl = \"http://own\"\nstore_id = \"main\"\n"

def claimVariables : Variables := ⟨[("CLAIM", "email")], none⟩

def writtenClaim : ServerConfig :=
  { ServerConfig.standard with
    identity :=
      { IdentityConfig.standard with
        source := .localFile, usernameClaim := "$\x7bCLAIM\x7d" }
    backend :=
      { BackendConfig.standard with url := "http://own", store := "main" } }

def completedClaim : ServerConfig :=
  { writtenClaim with
    certificatePath := "etc/pki/server.crt"
    keyPath := "etc/pki/server.key"
    identity :=
      { writtenClaim.identity with publicKeyPath := "etc/pki/idp_public.pem" }
    audit := { writtenClaim.audit with path := "data/audit.log" } }

theorem claim_readings :
    parse? claimText = some writtenClaim ∧
      ServerConfig.complete ⟨claimVariables, optionPaths⟩ writtenClaim =
        .ok completedClaim ∧
      expand claimVariables writtenClaim.identity.usernameClaim =
        .ok "email" ∧
      completedClaim.identity.usernameClaim ≠ "email" := by
  decide +kernel

end Sample

/-- The claim is named by a variable, and the completed configuration keeps the
text that names the variable. -/
theorem claim_name_unexpanded :
    parse? Sample.claimText = some Sample.writtenClaim ∧
      Section.complete ⟨Sample.claimVariables, Sample.optionPaths⟩
        Sample.writtenClaim = .ok Sample.completedClaim ∧
      Sample.completedClaim.identity.usernameClaim = "$\x7bCLAIM\x7d" ∧
      expand Sample.claimVariables "$\x7bCLAIM\x7d" = .ok "email" ∧
      ¬ ∀ option : TextOption,
        option.IsExpanded ⟨Sample.claimVariables, Sample.optionPaths⟩
          Sample.writtenClaim Sample.completedClaim := by
  obtain ⟨parsed, completed, expansion, differs⟩ := Sample.claim_readings
  refine ⟨parsed, completed, rfl, expansion, ?_⟩
  intro all
  obtain ⟨expanded, isExpansion, ends⟩ := all .usernameClaim
  have same : expanded = "email" :=
    Except.ok.inj (isExpansion.symm.trans expansion)
  exact differs (ends.trans same)

end Gatekeeper
