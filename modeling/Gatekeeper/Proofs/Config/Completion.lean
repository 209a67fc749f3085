import Gatekeeper.Config.Load
import Gatekeeper.Proofs.Target.Completion

/-!
# Completed configurations

What the completion of each section does, as one equivalence for each: the texts
that are expanded, the paths that stand in where nothing is left of a text, and
the checks that have passed, which are all checks of what is completed. A
configuration that is loaded is the completion of one that is written, or of the
standard one.
-/

namespace Gatekeeper.Config

open Gatekeeper.Text

variable {context : Context} {option text expanded : String}

/-! ### Single options -/

/-- A check that throws lets the rest go on exactly when it does not apply. -/
theorem guard_bind_eq_ok_iff {Failure α β : Type} {refused : Prop}
    [Decidable refused] {failure : Failure} {next : α → Except Failure β}
    {rest : Except Failure β} {result : β} :
    (if refused then throw failure >>= next else rest) = .ok result ↔
      ¬ refused ∧ rest = .ok result := by
  by_cases applies : refused
  · simp [applies, bind_eq_ok_iff, throw_ne_ok]
  · simp [applies]

theorem Context.expand_eq_ok_iff :
    context.expand option text = .ok expanded ↔
      Config.expand context.assignments text = .ok expanded := by
  unfold Context.expand expandOption
  cases Config.expand context.assignments text <;> simp

/-- The text of a path, with another one where nothing is left of it. -/
def orFallback (expanded fallback : String) : String :=
  if expanded = "" then fallback else expanded

theorem Context.expandPath_eq_ok_iff {fallback path : String} :
    context.expandPath option text fallback = .ok path ↔
      ∃ expanded, Config.expand context.assignments text = .ok expanded ∧
        path = orFallback expanded fallback := by
  simp only [← @Context.expand_eq_ok_iff context option]
  unfold Context.expandPath
  cases context.expand option text with
  | error fault => simp [Except.map]
  | ok expanded =>
      simp only [Except.map, Except.ok.injEq, String.isEmpty_iff,
        exists_eq_left']
      exact eq_comm

theorem inSection_eq_ok_iff {α : Type} {name : String}
    {result : Except Fault α} {value : α} :
    inSection name result = .ok value ↔ result = .ok value := by
  cases result <;> simp [inSection, Except.mapError]

theorem requirePositive_eq_ok_iff {seconds : Nat} {done : Unit} :
    requirePositive option seconds = .ok done ↔ 0 < seconds := by
  unfold requirePositive
  split
  · simp only [reduceCtorEq, false_iff]
    omega
  · simp only [true_iff]
    omega

/-- A path below a directory has a name at its end. -/
theorem join_ne_empty {path name : String} (named : name ≠ "") :
    PathText.join path name ≠ "" := by
  unfold PathText.join
  split
  · exact named
  · split <;> simp [named]

theorem orFallback_join_ne_empty {path name : String} (named : name ≠ "") :
    orFallback expanded (PathText.join path name) ≠ "" := by
  unfold orFallback
  split
  · exact join_ne_empty named
  · assumption

/-! ### Sections -/

/-- The completion of the section of the audit trail. -/
structure AuditConfig.Completes (context : Context)
    (written completed : AuditConfig) : Prop where
  target : completed.target = written.target
  path : ∃ expanded, expand context.assignments written.path = .ok expanded ∧
    completed.path =
      orFallback expanded (PathText.join context.paths.data "audit.log")

theorem AuditConfig.complete_eq_ok_iff {written completed : AuditConfig} :
    complete context written = .ok completed ↔
      Completes context written completed := by
  simp only [complete, bind_eq_ok_iff, Context.expandPath_eq_ok_iff]
  constructor
  · rintro ⟨path, expansion, ⟨⟩⟩
    exact ⟨rfl, expansion⟩
  · rintro ⟨target, expansion⟩
    refine ⟨completed.path, expansion, ?_⟩
    rw [← target]

namespace BackendConfig

/-- The completion of the section of the relation backend. -/
structure Completes (context : Context) (written completed : BackendConfig) :
    Prop where
  url : expand context.assignments written.url = .ok completed.url
  store : expand context.assignments written.store = .ok completed.store
  model : expand context.assignments written.model = .ok completed.model
  token : expand context.assignments written.token = .ok completed.token
  webUrl : ∃ url, Url.read? completed.url = some url ∧
    (url.scheme = "http" ∨ url.scheme = "https")
  named : completed.store ≠ ""
  plain : ∀ character ∈ completed.store.toList,
    isAlphanumericAscii character = true
  timeout : 0 < completed.timeout
  connectTimeout : 0 < completed.connectTimeout
  kept : completed =
    { written with
      url := completed.url, store := completed.store, model := completed.model,
      token := completed.token }

theorem checkUrl_eq_ok_iff {done : Unit} :
    checkUrl text = .ok done ↔ ∃ url, Url.read? text = some url ∧
      (url.scheme = "http" ∨ url.scheme = "https") := by
  unfold checkUrl
  cases Url.read? text with
  | none => simp
  | some url => by_cases http : url.scheme = "http" <;>
      by_cases https : url.scheme = "https" <;> simp [http, https]

theorem checkStore_eq_ok_iff {done : Unit} :
    checkStore text = .ok done ↔ text ≠ "" ∧
      ∀ character ∈ text.toList, isAlphanumericAscii character = true := by
  unfold checkStore
  by_cases empty : text = ""
  · simp [empty]
  · rw [if_neg (by simpa using empty), ← List.all_eq_true]
    cases text.toList.all isAlphanumericAscii <;> simp [empty]

theorem complete_eq_ok_iff {written completed : BackendConfig} :
    complete context written = .ok completed ↔
      Completes context written completed := by
  simp only [complete, bind_eq_ok_iff, Context.expand_eq_ok_iff,
    checkUrl_eq_ok_iff, checkStore_eq_ok_iff, requirePositive_eq_ok_iff]
  constructor
  · rintro ⟨url, isUrl, store, isStore, model, isModel, token, isToken,
      -, webUrl, -, ⟨named, plain⟩, -, timeout, -, connectTimeout, ⟨⟩⟩
    exact ⟨isUrl, isStore, isModel, isToken, webUrl, named, plain, timeout,
      connectTimeout, rfl⟩
  · intro completes
    have sameTimeout := congrArg BackendConfig.timeout completes.kept
    have sameConnectTimeout :=
      congrArg BackendConfig.connectTimeout completes.kept
    refine ⟨_, completes.url, _, completes.store, _, completes.model, _,
      completes.token, (), completes.webUrl, (),
      ⟨completes.named, completes.plain⟩, (), ?_, (), ?_,
      congrArg Except.ok completes.kept.symm⟩
    · exact sameTimeout ▸ completes.timeout
    · exact sameConnectTimeout ▸ completes.connectTimeout

end BackendConfig

namespace IdentityConfig

/-- The path of the public key: the one below the directory of keys stands in
only where keys come from a file. -/
def publicKeyPathFor (context : Context) (source : KeySource)
    (expanded : String) : String :=
  match source with
  | .published => expanded
  | .localFile =>
      orFallback expanded (PathText.join context.paths.keys "idp_public.pem")

/-- The completion of the section of the identity provider. The claim that names
the user is taken as it is written. -/
structure Completes (context : Context) (written completed : IdentityConfig) :
    Prop where
  keySetUrl :
    expand context.assignments written.keySetUrl = .ok completed.keySetUrl
  publicKeyPath : ∃ expanded,
    expand context.assignments written.publicKeyPath = .ok expanded ∧
      completed.publicKeyPath =
        publicKeyPathFor context written.source expanded
  issuer : expand context.assignments written.issuer = .ok completed.issuer
  audience :
    expand context.assignments written.audience = .ok completed.audience
  webUrl : completed.source = .published →
    completed.keySetUrl ≠ "" ∧ hasWebScheme completed.keySetUrl = true
  usernameClaim : completed.usernameClaim ≠ ""
  timeout : 0 < completed.timeout
  kept : completed =
    { written with
      keySetUrl := completed.keySetUrl,
      publicKeyPath := completed.publicKeyPath,
      issuer := completed.issuer, audience := completed.audience }

theorem completeSource_eq_ok_iff {config completed : IdentityConfig} :
    completeSource context config = .ok completed ↔
      (config.source = .published →
        config.keySetUrl ≠ "" ∧ hasWebScheme config.keySetUrl = true) ∧
      completed =
        { config with
          publicKeyPath :=
            publicKeyPathFor context config.source config.publicKeyPath } := by
  obtain ⟨source, keySetUrl, publicKeyPath⟩ := config
  cases source with
  | published =>
      by_cases empty : keySetUrl = ""
      · simp [completeSource, empty]
      · cases web : hasWebScheme keySetUrl with
        | false => simp [completeSource, empty, web]
        | true =>
            simp only [completeSource, String.isEmpty_iff, empty, web]
            simpa [publicKeyPathFor, empty] using eq_comm
  | localFile =>
      by_cases empty : publicKeyPath = ""
      · simp only [completeSource, String.isEmpty_iff, empty]
        simpa [publicKeyPathFor, orFallback] using eq_comm
      · simp only [completeSource, String.isEmpty_iff, empty]
        simpa [publicKeyPathFor, orFallback, empty] using eq_comm

theorem complete_eq_ok_iff {written completed : IdentityConfig} :
    complete context written = .ok completed ↔
      Completes context written completed := by
  simp only [complete, bind_eq_ok_iff, Context.expand_eq_ok_iff,
    guard_bind_eq_ok_iff, requirePositive_eq_ok_iff, String.isEmpty_iff,
    completeSource_eq_ok_iff]
  constructor
  · rintro ⟨keySetUrl, isKeySetUrl, path, isPath, issuer, isIssuer, audience,
      isAudience, usernameClaim, -, timeout, webUrl, rfl⟩
    exact ⟨isKeySetUrl, ⟨path, isPath, rfl⟩, isIssuer, isAudience, webUrl,
      usernameClaim, timeout, rfl⟩
  · intro completes
    obtain ⟨path, isPath, completedPath⟩ := completes.publicKeyPath
    have sameSource := congrArg IdentityConfig.source completes.kept
    have sameClaim := congrArg IdentityConfig.usernameClaim completes.kept
    have sameTimeout := congrArg IdentityConfig.timeout completes.kept
    refine ⟨_, completes.keySetUrl, path, isPath, _, completes.issuer, _,
      completes.audience, sameClaim ▸ completes.usernameClaim, (),
      sameTimeout ▸ completes.timeout, sameSource ▸ completes.webUrl, ?_⟩
    rw [← completedPath]
    exact completes.kept

end IdentityConfig

end Gatekeeper.Config

namespace Gatekeeper.TargetRules

open Gatekeeper.Config

variable {context : Context} {written completed : TargetRules}

/-- The completion of the rules for targets. Only the prefix is expanded. -/
structure Completes (context : Context) (written completed : TargetRules) :
    Prop where
  pathPrefix : ∃ expanded,
    expand context.assignments written.pathPrefix = .ok expanded ∧
      expanded.toList.head? = some '/' ∧
      completed.pathPrefix = trimPrefix expanded
  object : IsObject completed.defaultObject.toList
  read : IsName isRelationCharacter completed.readRelation.toList
  write : IsName isRelationCharacter completed.writeRelation.toList
  delete : IsName isRelationCharacter completed.deleteRelation.toList
  kept : completed = { written with pathPrefix := completed.pathPrefix }

theorem checkRelation_eq_ok_iff {name relation : String} {done : Unit} :
    checkRelation name relation = .ok done ↔
      IsName isRelationCharacter relation.toList := by
  unfold checkRelation
  rw [← relationFault?_eq_none_iff]
  cases relationFault? relation.toList <;> simp

theorem complete_eq_ok_iff :
    complete context written = .ok completed ↔
      Completes context written completed := by
  simp only [complete, bind_eq_ok_iff, Context.expand_eq_ok_iff,
    guard_bind_eq_ok_iff, not_not]
  cases object : objectFault? written.defaultObject.toList with
  | some fault =>
      simp only [bind_eq_ok_iff, throw_ne_ok, false_and, exists_false,
        and_false, false_iff]
      intro completes
      have sameObject := congrArg TargetRules.defaultObject completes.kept
      have isObject := objectFault?_eq_none_iff.mpr completes.object
      rw [sameObject, object] at isObject
      cases isObject
  | none =>
      have isObject := objectFault?_eq_none_iff.mp object
      simp only [bind_eq_ok_iff, checkRelation_eq_ok_iff]
      constructor
      · rintro ⟨expanded, expansion, rooted, -, read, -, write, -, delete, ⟨⟩⟩
        exact ⟨⟨expanded, expansion, rooted, rfl⟩, isObject, read, write,
          delete, rfl⟩
      · intro completes
        obtain ⟨expanded, expansion, rooted, trimmed⟩ := completes.pathPrefix
        have sameRead := congrArg TargetRules.readRelation completes.kept
        have sameWrite := congrArg TargetRules.writeRelation completes.kept
        have sameDelete := congrArg TargetRules.deleteRelation completes.kept
        refine ⟨expanded, expansion, rooted, (), sameRead ▸ completes.read, (),
          sameWrite ▸ completes.write, (), sameDelete ▸ completes.delete, ?_⟩
        rw [← trimmed]
        exact congrArg Except.ok completes.kept.symm

end Gatekeeper.TargetRules

namespace Gatekeeper.Config

variable {context : Context}

/-! ### The whole configuration -/

namespace ServerConfig

/-- The completion of a configuration of the service. -/
structure Completes (context : Context) (written completed : ServerConfig) :
    Prop where
  bind : expand context.assignments written.bind = .ok completed.bind
  bound : completed.bind ≠ ""
  certificatePath : ∃ expanded,
    expand context.assignments written.certificatePath = .ok expanded ∧
      completed.certificatePath =
        orFallback expanded (PathText.join context.paths.keys "server.crt")
  keyPath : ∃ expanded,
    expand context.assignments written.keyPath = .ok expanded ∧
      completed.keyPath =
        orFallback expanded (PathText.join context.paths.keys "server.key")
  identity : IdentityConfig.Completes context written.identity
    completed.identity
  backend : BackendConfig.Completes context written.backend completed.backend
  audit : AuditConfig.Completes context written.audit completed.audit
  target : TargetRules.Completes context written.target completed.target
  kept : completed =
    { written with
      bind := completed.bind, certificatePath := completed.certificatePath,
      keyPath := completed.keyPath, identity := completed.identity,
      backend := completed.backend, audit := completed.audit,
      target := completed.target }

theorem complete_eq_ok_iff {written completed : ServerConfig} :
    complete context written = .ok completed ↔
      Completes context written completed := by
  simp only [complete, bind_eq_ok_iff, Context.expand_eq_ok_iff,
    guard_bind_eq_ok_iff, Context.expandPath_eq_ok_iff, inSection_eq_ok_iff,
    String.isEmpty_iff]
  constructor
  · rintro ⟨bind, isBind, bound, certificatePath, isCertificatePath, keyPath,
      isKeyPath, logs, ⟨⟩, identity, isIdentity, backend, isBackend, audit,
      isAudit, target, isTarget, ⟨⟩⟩
    exact ⟨isBind, bound, isCertificatePath, isKeyPath,
      IdentityConfig.complete_eq_ok_iff.mp isIdentity,
      BackendConfig.complete_eq_ok_iff.mp isBackend,
      AuditConfig.complete_eq_ok_iff.mp isAudit,
      TargetRules.complete_eq_ok_iff.mp isTarget, rfl⟩
  · intro completes
    exact ⟨_, completes.bind, completes.bound, _, completes.certificatePath, _,
      completes.keyPath, written.logs, rfl, _,
      IdentityConfig.complete_eq_ok_iff.mpr completes.identity, _,
      BackendConfig.complete_eq_ok_iff.mpr completes.backend, _,
      AuditConfig.complete_eq_ok_iff.mpr completes.audit, _,
      TargetRules.complete_eq_ok_iff.mpr completes.target,
      congrArg Except.ok completes.kept.symm⟩

end ServerConfig

/-! ### Loading -/

variable {α : Type} [Section α] {explain : String → String}
  {surroundings : Surroundings} {name : String} {tree : FileTree}

/-- What a run finds: its directories, and the text of the configuration file
where there is one. -/
def findText (surroundings : Surroundings) (name : String) (tree : FileTree) :
    Except LoadFault (Paths × Option String) :=
  match preparePaths surroundings tree with
  | (.error fault, _) => .error (.paths fault)
  | (.ok paths, prepared) =>
      let path := PathText.join paths.config (name ++ ".toml")
      match prepared.readText path with
      | .error .notFound => .ok (paths, none)
      | .error error => .error (.unreadable path error)
      | .ok text => .ok (paths, some text)

/-- The configuration that a text writes; the default one where there is no
text. -/
def draftOf (explain : String → String) (paths : Paths) :
    Option String → Except LoadFault (Loaded α)
  | none => .ok ⟨Section.absent, paths, false⟩
  | some text =>
      match parse? text with
      | none => .error (.unparsable (explain text))
      | some config => .ok ⟨config, paths, true⟩

/-- A configuration as it is written, before it is completed. -/
def draft (explain : String → String) (surroundings : Surroundings)
    (name : String) (tree : FileTree) : Except LoadFault (Loaded α) :=
  findText surroundings name tree >>= fun (paths, text) =>
    draftOf explain paths text

/-- A draft is the default configuration or one that a text writes. -/
theorem config_of_draft {written : Loaded α}
    (drafted : draft explain surroundings name tree = .ok written) :
    written.config = Section.absent ∨
      ∃ text, parse? text = some written.config := by
  obtain ⟨⟨paths, text⟩, -, drafted⟩ := bind_eq_ok_iff.mp drafted
  cases text with
  | none =>
      obtain rfl := Except.ok.inj drafted
      exact .inl rfl
  | some text =>
      simp only [draftOf] at drafted
      cases parsed : (parse? text : Option α) with
      | none => simp [parsed] at drafted
      | some config =>
          rw [parsed] at drafted
          obtain rfl := Except.ok.inj drafted
          exact .inr ⟨text, parsed⟩

/-- The completion of a configuration in place of what is written. -/
def Loaded.complete (surroundings : Surroundings) (written : Loaded α) :
    Except LoadFault (Loaded α) :=
  match Section.complete ⟨surroundings.assignments, written.paths⟩
      written.config with
  | .error fault => .error (.incomplete fault)
  | .ok config => .ok { written with config }

theorem load_eq_draft_bind :
    (load explain surroundings name tree :
      Except LoadFault (Loaded α) × FileTree).1 =
      draft explain surroundings name tree >>=
        Loaded.complete surroundings := by
  unfold load draft findText readFile
  rcases preparePaths surroundings tree with ⟨fault | paths, prepared⟩
  · rfl
  have completed (written : α) (wasFound : Bool) :
      (((Section.complete ⟨surroundings.assignments, paths⟩
        written).mapError .incomplete >>= fun config =>
          .ok ⟨config, paths, wasFound⟩) : Except LoadFault (Loaded α)) =
        Loaded.complete surroundings ⟨written, paths, wasFound⟩ := by
    unfold Loaded.complete
    cases Section.complete ⟨surroundings.assignments, paths⟩ written <;> rfl
  dsimp only
  cases prepared.readText (PathText.join paths.config (name ++ ".toml")) with
  | error error =>
      cases error with
      | notFound => exact completed Section.absent false
      | _ => rfl
  | ok text =>
      dsimp only
      cases parsed : (parse? text : Option α) with
      | none => simp only [draftOf, parsed, bind, Except.bind]
      | some config =>
          simp only [draftOf, parsed, bind, Except.bind]
          exact completed config true

/-- What is loaded is the completion of what is written. -/
theorem load_eq_ok_iff {loaded : Loaded α} :
    (load explain surroundings name tree).1 = .ok loaded ↔
      ∃ written : Loaded α,
        draft explain surroundings name tree = .ok written ∧
        Section.complete ⟨surroundings.assignments, written.paths⟩
          written.config = .ok loaded.config ∧
        loaded = { written with config := loaded.config } := by
  rw [load_eq_draft_bind, bind_eq_ok_iff]
  refine exists_congr fun written => and_congr_right fun _ => ?_
  unfold Loaded.complete
  cases Section.complete ⟨surroundings.assignments, written.paths⟩
      written.config with
  | error fault => simp
  | ok config =>
      simp only [Except.ok.injEq]
      constructor
      · rintro rfl
        exact ⟨rfl, rfl⟩
      · rintro ⟨rfl, same⟩
        exact same.symm

theorem paths?_of_given {config data : String}
    (givenConfig : surroundings.configDirectory = some config)
    (givenData : surroundings.dataDirectory = some data) :
    surroundings.paths? = some ⟨config, data⟩ := by
  simp [Surroundings.paths?, Surroundings.directory?, givenConfig, givenData]

end Gatekeeper.Config

/-! ### A small installation -/

namespace Gatekeeper.Sample

open Gatekeeper.Config

def optionsText : String :=
  "bind = \"$HOST:80\"\n" ++
    "[idp]\nkind = \"pem\"\nissuer = \"$ISSUER\"\n" ++
    "[rebac]\nurl = \"http://$HOST\"\nstore_id = \"main\"\n" ++
    "api_token = \"$KEY\"\n[target]\nprefix = \"/$ROOT//\"\n"

def optionsTree : FileTree :=
  ⟨["work"],
    [(["work"], .directory), (["work", "etc"], .directory),
      (["work", "data"], .directory),
      (["work", "etc", "authgate.toml"], .file optionsText)]⟩

def optionVariables : Variables :=
  ⟨[("HOST", "own"), ("ISSUER", ""), ("ROOT", "gate"), ("KEY", "secret")], none⟩

def optionPaths : Paths := ⟨"etc", "data"⟩

def optionSurroundings (assignments : Variables) : Surroundings :=
  ⟨assignments, false, some "etc", some "data"⟩

def writtenOptions : ServerConfig :=
  { ServerConfig.standard with
    bind := "$HOST:80"
    identity :=
      { IdentityConfig.standard with source := .localFile, issuer := "$ISSUER" }
    backend :=
      { BackendConfig.standard with
        url := "http://$HOST", store := "main", token := "$KEY" }
    target := { TargetRules.standard with pathPrefix := "/$ROOT//" } }

def completedOptions : ServerConfig :=
  { writtenOptions with
    bind := "own:80"
    certificatePath := "etc/pki/server.crt"
    keyPath := "etc/pki/server.key"
    identity :=
      { writtenOptions.identity with
        issuer := "", publicKeyPath := "etc/pki/idp_public.pem" }
    backend :=
      { writtenOptions.backend with url := "http://own", token := "secret" }
    audit := { writtenOptions.audit with path := "data/audit.log" }
    target := { writtenOptions.target with pathPrefix := "/gate" } }

theorem options_readings :
    optionsTree.pathExists "etc" = true ∧
      optionsTree.pathExists "data" = true ∧
      optionsTree.readText (PathText.join "etc" ("authgate" ++ ".toml")) =
        .ok optionsText ∧
      parse? optionsText = some writtenOptions ∧
      ServerConfig.complete ⟨optionVariables, optionPaths⟩ writtenOptions =
        .ok completedOptions := by
  decide +kernel

/-- What a run finds in the directories of the small installation. -/
theorem findText_of_given {tree : FileTree} {text : String}
    (configExists : tree.pathExists "etc" = true)
    (dataExists : tree.pathExists "data" = true)
    (holds : tree.readText (PathText.join "etc" ("authgate" ++ ".toml")) =
      .ok text) (assignments : Variables) :
    findText (optionSurroundings assignments) "authgate" tree =
      .ok (optionPaths, some text) := by
  have paths : (optionSurroundings assignments).paths? = some optionPaths :=
    paths?_of_given rfl rfl
  simp only [findText, preparePaths, paths, FileTree.ensureDirectory,
    optionPaths, configExists, dataExists, holds, if_true]

theorem findText_options (assignments : Variables) :
    findText (optionSurroundings assignments) "authgate" optionsTree =
      .ok (optionPaths, some optionsText) := by
  obtain ⟨configExists, dataExists, isText, -⟩ := options_readings
  exact findText_of_given configExists dataExists isText assignments

/-- The small installation is read alike under all variables. -/
theorem draft_options (explain : String → String) (assignments : Variables) :
    draft explain (optionSurroundings assignments) "authgate" optionsTree =
      .ok ⟨writtenOptions, optionPaths, true⟩ := by
  obtain ⟨-, -, -, parsed, -⟩ := options_readings
  rw [draft, findText_options]
  simp only [bind, Except.bind, draftOf, parsed]

theorem complete_options :
    Section.complete ⟨optionVariables, optionPaths⟩ writtenOptions =
      .ok completedOptions :=
  options_readings.2.2.2.2

theorem load_options (explain : String → String) :
    (load explain (optionSurroundings optionVariables) "authgate"
      optionsTree).1 = .ok ⟨completedOptions, optionPaths, true⟩ :=
  load_eq_ok_iff.mpr ⟨⟨writtenOptions, optionPaths, true⟩,
    draft_options explain optionVariables, complete_options, rfl⟩

end Gatekeeper.Sample
