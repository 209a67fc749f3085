import Gatekeeper.Proofs.Config.Numbers
import Gatekeeper.Proofs.Config.TextOptions

/-!
# Reliance on a completed configuration

What the parts of the service take for granted of the configuration they are
built from. It holds of every configuration that is loaded, whatever the file
and the environment say, because completion checks it of what it leaves, or
brings it about. The name of the user's claim and the default object are checked
as they are written: they are not expanded.
-/

namespace Gatekeeper.Config

open Gatekeeper.Text

/-! ### Character classes and schemes -/

theorem isAlphanum_of_isAlphanumericAscii {character : Char}
    (plain : isAlphanumericAscii character = true) :
    character.isAlphanum = true := by
  have upper : character.isUpper =
      (decide ('A' ≤ character) && decide (character ≤ 'Z')) :=
    Bool.decide_and _ _
  have same : isAlphanumericAscii character =
      (character.isLower || character.isUpper || character.isDigit) := by
    rw [upper]
    rfl
  change (character.isUpper || character.isLower || character.isDigit) = true
  rw [Bool.or_comm character.isUpper, ← same]
  exact plain

theorem hasWebScheme_iff {url : String} :
    IdentityConfig.hasWebScheme url = true ↔
      "http://".toList <+: url.toList ∨ "https://".toList <+: url.toList := by
  have starts (lead text : List Char) :
      (stripLead? lead text).isSome = true ↔ lead <+: text := by
    simp only [Option.isSome_iff_exists, stripLead?_eq_some_iff]
    constructor
    · rintro ⟨rest, whole⟩
      exact ⟨rest, whole.symm⟩
    · rintro ⟨rest, whole⟩
      exact ⟨rest, whole.symm⟩
  simp only [IdentityConfig.hasWebScheme, Bool.or_eq_true, starts]

/-! ### What is relied on -/

/-- What the service relies on of its configuration. -/
structure ServerConfig.IsReliable (config : ServerConfig) : Prop where
  bind : config.bind ≠ ""
  certificatePath : config.certificatePath ≠ ""
  keyPath : config.keyPath ≠ ""
  auditPath : config.audit.path ≠ ""
  usernameClaim : config.identity.usernameClaim ≠ ""
  keySetTimeout : 0 < config.identity.timeout
  checkTimeout : 0 < config.backend.timeout
  connectTimeout : 0 < config.backend.connectTimeout
  keySetUrl : config.identity.source = .published →
    "http://".toList <+: config.identity.keySetUrl.toList ∨
      "https://".toList <+: config.identity.keySetUrl.toList
  publicKeyPath : config.identity.source = .localFile →
    config.identity.publicKeyPath ≠ ""
  store : config.backend.store ≠ ""
  storeCharacters : ∀ character ∈ config.backend.store.toList,
    character.isAlphanum = true
  pathPrefix : config.target.pathPrefix = "/" ∨
    config.target.pathPrefix.toList.head? = some '/' ∧
      config.target.pathPrefix.toList.getLast? ≠ some '/'
  defaultObject : IsObject config.target.defaultObject.toList
  readRelation : IsName isRelationCharacter config.target.readRelation.toList
  writeRelation : IsName isRelationCharacter config.target.writeRelation.toList
  deleteRelation :
    IsName isRelationCharacter config.target.deleteRelation.toList

variable {context : Context} {written completed : ServerConfig}

/-- The path of a public key, where keys come from a file. -/
theorem IdentityConfig.Completes.publicKeyPath_ne_empty
    {written completed : IdentityConfig}
    (completes : Completes context written completed)
    (localFile : completed.source = .localFile) :
    completed.publicKeyPath ≠ "" := by
  obtain ⟨expanded, -, path⟩ := completes.publicKeyPath
  have sameSource := congrArg IdentityConfig.source completes.kept
  rw [path, ← sameSource, localFile]
  exact orFallback_join_ne_empty (by decide)

theorem ServerConfig.Completes.isReliable
    (completes : Completes context written completed) :
    completed.IsReliable where
  bind := completes.bound
  certificatePath := by
    obtain ⟨expanded, -, path⟩ := completes.certificatePath
    exact path ▸ orFallback_join_ne_empty (by decide)
  keyPath := by
    obtain ⟨expanded, -, path⟩ := completes.keyPath
    exact path ▸ orFallback_join_ne_empty (by decide)
  auditPath := by
    obtain ⟨expanded, -, path⟩ := completes.audit.path
    exact path ▸ orFallback_join_ne_empty (by decide)
  usernameClaim := completes.identity.usernameClaim
  keySetTimeout := completes.identity.timeout
  checkTimeout := completes.backend.timeout
  connectTimeout := completes.backend.connectTimeout
  keySetUrl := fun published =>
    hasWebScheme_iff.mp (completes.identity.webUrl published).2
  publicKeyPath := completes.identity.publicKeyPath_ne_empty
  store := completes.backend.named
  storeCharacters := fun character member =>
    isAlphanum_of_isAlphanumericAscii
      (completes.backend.plain character member)
  pathPrefix := by
    obtain ⟨expanded, -, rooted, trimmed⟩ := completes.target.pathPrefix
    rw [trimmed]
    refine (TargetRules.trimPrefix_trimmed expanded).imp_right ?_
    intro unslashed
    exact ⟨TargetRules.trimPrefix_rooted rooted, unslashed⟩
  defaultObject := completes.target.object
  readRelation := completes.target.read
  writeRelation := completes.target.write
  deleteRelation := completes.target.delete

theorem isSome_present?_iff {text : String} :
    (present? text).isSome = true ↔ text ≠ "" := by
  unfold present?
  by_cases empty : text = "" <;> simp [empty]

/-! ### Loading -/

variable {explain : String → String} {surroundings : Surroundings}
  {name : String} {tree : FileTree} {loaded : Loaded ServerConfig}

/-- Every configuration that is loaded is one that the service can rely on, and
its numbers have their places. The texts that completion expands are those that
the expansion under the same environment leaves of the written ones, and the
rules for tokens ask for an issuer and for an audience exactly when something is
left of them. -/
theorem reliable_of_load
    (succeeds : (load explain surroundings name tree).1 = .ok loaded) :
    loaded.config.IsReliable ∧
    AreSmall loaded.config.numbers ∧
    ∃ written : Loaded ServerConfig,
      draft explain surroundings name tree = .ok written ∧
      (∀ option : TextOption, option.isTakenAsWritten = false →
        option.IsExpanded ⟨surroundings.assignments, loaded.paths⟩
          written.config loaded.config) ∧
      (∃ issuer,
        expand surroundings.assignments written.config.identity.issuer =
            .ok issuer ∧
          (loaded.config.identity.tokenRules.issuer.isSome = true ↔
            issuer ≠ "")) ∧
      ∃ audience,
        expand surroundings.assignments written.config.identity.audience =
            .ok audience ∧
          (loaded.config.identity.tokenRules.audience.isSome = true ↔
            audience ≠ "") := by
  obtain ⟨written, drafted, completed, isLoaded⟩ := load_eq_ok_iff.mp succeeds
  have completes := ServerConfig.complete_eq_ok_iff.mp completed
  have samePaths : loaded.paths = written.paths := by rw [isLoaded]
  refine ⟨completes.isReliable, ?_, written, drafted, ?_, ?_, ?_⟩
  · rw [completes.numbers_eq]
    exact areSmall_of_draft drafted
  · intro option isNotTaken
    rw [samePaths]
    exact completes.isExpanded_of_not_taken isNotTaken
  · exact ⟨_, completes.identity.issuer, isSome_present?_iff⟩
  · exact ⟨_, completes.identity.audience, isSome_present?_iff⟩

end Gatekeeper.Config

namespace Gatekeeper

open Gatekeeper.Config

/-- The small installation, whose issuer is empty in the environment. -/
theorem reliable_of_load_of_sample :
    (load id (Sample.optionSurroundings Sample.optionVariables) "authgate"
        Sample.optionsTree).1 =
      .ok ⟨Sample.completedOptions, Sample.optionPaths, true⟩ ∧
      Sample.completedOptions.IsReliable ∧
      Sample.completedOptions.identity.tokenRules.issuer = none := by
  have loaded := Sample.load_options id
  obtain ⟨reliable, -⟩ := reliable_of_load loaded
  exact ⟨loaded, reliable, rfl⟩

end Gatekeeper
