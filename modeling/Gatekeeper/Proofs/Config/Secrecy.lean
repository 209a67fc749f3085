import Gatekeeper.Proofs.Config.TextOptions
import Gatekeeper.Proofs.FileTree
import Gatekeeper.Service.Assembly

/-!
# Secrecy of the key of the backend

What the key that checks carry can change about loading a configuration and
printing it. Whether a document is a configuration does not depend on the key,
and the key is put into a completed configuration as the last thing that anybody
could tell: completion with a key is completion without one, with the key put in
behind it. A printed configuration shows only whether there is a key. So two
runs in which nothing but the key expands to something else fail alike, or print
the same, while each builds its client with its own key. One thing is left that
tells the keys apart: of a text that is no configuration the fault repeats what
the reader of TOML says, which may quote the line of the key.
-/

namespace Gatekeeper.Config

/-- A section with another key. -/
def BackendConfig.withToken (config : BackendConfig) (token : String) :
    BackendConfig :=
  { config with token }

def ServerConfig.withToken (config : ServerConfig) (token : String) :
    ServerConfig :=
  { config with backend := config.backend.withToken token }

variable {context first second : Context} {token : String}

/-! ### Reading without the key -/

theorem option?_congr {α : Type} {name : String}
    {members others : List (String × Toml.Value)}
    (same : members.lookup name = others.lookup name)
    (read : Toml.Value → Option α) (absent : α) :
    option? read name absent members = option? read name absent others := by
  simp only [option?, same]

/-- Two sections of the backend that differ in the texts of their keys. -/
structure MembersDifferInToken (members others : List (String × Toml.Value))
    (token other : String) : Prop where
  rest : ∀ name ≠ "api_token", members.lookup name = others.lookup name
  token : members.lookup "api_token" = some (.string token)
  other : others.lookup "api_token" = some (.string other)

theorem MembersDifferInToken.ofMembers?_eq
    {members others : List (String × Toml.Value)} {token other : String}
    (differ : MembersDifferInToken members others token other) :
    (Section.ofMembers? others : Option BackendConfig) =
      (BackendConfig.withToken · other) <$> Section.ofMembers? members := by
  have url := option?_congr (differ.rest "url" (by decide))
    Toml.Value.text? BackendConfig.standard.url
  have store := option?_congr (differ.rest "store_id" (by decide))
    Toml.Value.text? BackendConfig.standard.store
  have model := option?_congr
    (differ.rest "authorization_model_id" (by decide)) Toml.Value.text?
    BackendConfig.standard.model
  have timeout := option?_congr (differ.rest "timeout_secs" (by decide))
    Toml.Value.natural? BackendConfig.standard.timeout
  have connectTimeout := option?_congr
    (differ.rest "connect_timeout_secs" (by decide)) Toml.Value.natural?
    BackendConfig.standard.connectTimeout
  have ownToken (absent : String) :
      option? Toml.Value.text? "api_token" absent members = some token := by
    simp only [option?, differ.token, Toml.Value.text?]
  have otherToken (absent : String) :
      option? Toml.Value.text? "api_token" absent others = some other := by
    simp only [option?, differ.other, Toml.Value.text?]
  simp only [Section.ofMembers?, url, store, model, timeout, connectTimeout,
    ownToken, otherToken, map_bind]
  rfl

/-- Two documents that differ in the texts of the key of the backend. -/
structure DocumentsDifferInToken
    (members others : List (String × Toml.Value)) (token other : String) :
    Prop where
  rest : ∀ name ≠ "rebac", members.lookup name = others.lookup name
  backend : ∃ value otherValue parts otherParts,
    members.lookup "rebac" = some value ∧
    others.lookup "rebac" = some otherValue ∧
    value.parts? (Section.names BackendConfig) = some parts ∧
    otherValue.parts? (Section.names BackendConfig) = some otherParts ∧
    MembersDifferInToken parts otherParts token other

/-- Whether a document is a configuration does not depend on the key, and the
key is taken as it is written. -/
theorem DocumentsDifferInToken.sectionOf?_eq
    {members others : List (String × Toml.Value)} {token other : String}
    (differ : DocumentsDifferInToken members others token other) :
    (sectionOf? (.table others) : Option ServerConfig) =
      (ServerConfig.withToken · other) <$> sectionOf? (.table members) := by
  obtain ⟨value, otherValue, parts, otherParts, held, otherHeld, isParts,
    areOthers, differBelow⟩ := differ.backend
  have backend :
      option? sectionOf? "rebac" ServerConfig.standard.backend others =
      (BackendConfig.withToken · other) <$>
        option? sectionOf? "rebac" ServerConfig.standard.backend members := by
    simp only [option?, held, otherHeld, sectionOf?, isParts, areOthers,
      Option.bind_some]
    exact differBelow.ofMembers?_eq
  have rest {α : Type} (name : String) (apart : name ≠ "rebac")
      (read : Toml.Value → Option α) (absent : α) :
      option? read name absent others = option? read name absent members :=
    (option?_congr (differ.rest name apart) read absent).symm
  simp only [sectionOf?, Toml.Value.parts?, Option.bind_some,
    Section.ofMembers?, backend, rest "bind" (by decide),
    rest "ssl" (by decide), rest "cert_path" (by decide),
    rest "key_path" (by decide), rest "keep_alive_secs" (by decide),
    rest "workers" (by decide), rest "environment" (by decide),
    rest "allow_fallback" (by decide), rest "logs" (by decide),
    rest "idp" (by decide), rest "audit" (by decide), rest "target" (by decide),
    map_bind, bind_map_left]
  rfl

theorem DocumentsDifferInToken.self
    {members others : List (String × Toml.Value)} {token other : String}
    (differ : DocumentsDifferInToken members others token other) :
    DocumentsDifferInToken members members token token where
  rest _ _ := rfl
  backend := by
    obtain ⟨value, _, parts, _, held, _, isParts, _, differBelow⟩ :=
      differ.backend
    exact ⟨value, value, parts, parts, held, held, isParts, isParts,
      ⟨fun _ _ => rfl, differBelow.token, differBelow.token⟩⟩

theorem DocumentsDifferInToken.token_eq
    {members others : List (String × Toml.Value)} {token other : String}
    (differ : DocumentsDifferInToken members others token other)
    {written : ServerConfig}
    (isSection : sectionOf? (.table members) = some written) :
    written.backend.token = token := by
  have kept := differ.self.sectionOf?_eq
  rw [isSection] at kept
  have same : written = written.withToken token := Option.some.inj kept
  rw [same]
  rfl

/-! ### Completion without the key -/

theorem expand_empty (assignments : Variables) :
    expand assignments "" = .ok "" :=
  expand_eq_self (by simp) (by simp)

theorem BackendConfig.complete_eq_map_withToken {written : BackendConfig}
    (expansion : expand context.assignments written.token = .ok token) :
    complete context written =
      (withToken · token) <$> complete context (written.withToken "") := by
  have secret : context.expand "rebac.api_token" written.token = .ok token :=
    Context.expand_eq_ok_iff.mpr expansion
  have blank : context.expand "rebac.api_token" "" = .ok "" :=
    Context.expand_eq_ok_iff.mpr (expand_empty context.assignments)
  simp only [complete, withToken, secret, blank, map_bind]
  rfl

theorem inSection_map {α β : Type} (name : String) (change : α → β)
    (result : Except Fault α) :
    inSection name (change <$> result) = change <$> inSection name result := by
  cases result <;> rfl

/-- No check, no other option and no fault depends on the key: completion with a
key is completion without one, and the key. -/
theorem ServerConfig.complete_eq_map_withToken {written : ServerConfig}
    (expansion :
      expand context.assignments written.backend.token = .ok token) :
    complete context written =
      (withToken · token) <$> complete context (written.withToken "") := by
  have backend : Section.complete context written.backend =
      (BackendConfig.withToken · token) <$>
        Section.complete context (written.backend.withToken "") :=
    BackendConfig.complete_eq_map_withToken expansion
  simp only [complete, withToken, backend, inSection_map, map_bind,
    bind_map_left]
  refine bind_congr fun bind => ?_
  cases bind.isEmpty with
  | true => rfl
  | false =>
      simp only [Bool.false_eq_true, if_false, map_bind]
      rfl

/-! ### Completion under two environments -/

theorem Context.expand_congr {text : String}
    (same : Config.expand first.assignments text =
      Config.expand second.assignments text) (option : String) :
    first.expand option text = second.expand option text := by
  simp only [Context.expand, expandOption, same]

theorem Context.expandPath_congr {text : String}
    (same : Config.expand first.assignments text =
      Config.expand second.assignments text) (option fallback : String) :
    first.expandPath option text fallback =
      second.expandPath option text fallback := by
  simp only [Context.expandPath, Context.expand_congr same]

theorem IdentityConfig.complete_congr {written : IdentityConfig}
    (paths : first.paths = second.paths)
    (keySetUrl : expand first.assignments written.keySetUrl =
      expand second.assignments written.keySetUrl)
    (publicKeyPath : expand first.assignments written.publicKeyPath =
      expand second.assignments written.publicKeyPath)
    (issuer : expand first.assignments written.issuer =
      expand second.assignments written.issuer)
    (audience : expand first.assignments written.audience =
      expand second.assignments written.audience) :
    complete first written = complete second written := by
  simp only [complete, completeSource, paths, Context.expand_congr keySetUrl,
    Context.expand_congr publicKeyPath, Context.expand_congr issuer,
    Context.expand_congr audience]

theorem BackendConfig.complete_congr {written : BackendConfig}
    (url : expand first.assignments written.url =
      expand second.assignments written.url)
    (store : expand first.assignments written.store =
      expand second.assignments written.store)
    (model : expand first.assignments written.model =
      expand second.assignments written.model)
    (token : expand first.assignments written.token =
      expand second.assignments written.token) :
    complete first written = complete second written := by
  simp only [complete, Context.expand_congr url, Context.expand_congr store,
    Context.expand_congr model, Context.expand_congr token]

theorem AuditConfig.complete_congr {written : AuditConfig}
    (paths : first.paths = second.paths)
    (path : expand first.assignments written.path =
      expand second.assignments written.path) :
    complete first written = complete second written := by
  simp only [complete, paths, Context.expandPath_congr path]

theorem target_complete_congr {written : TargetRules}
    (pathPrefix : expand first.assignments written.pathPrefix =
      expand second.assignments written.pathPrefix) :
    TargetRules.complete first written =
      TargetRules.complete second written := by
  simp only [TargetRules.complete, Context.expand_congr pathPrefix]

/-- Completion depends on the environment only through the expansions of the
options that it expands. -/
theorem ServerConfig.complete_congr {written : ServerConfig}
    (paths : first.paths = second.paths)
    (same : ∀ option : TextOption, option.isTakenAsWritten = false →
      expand first.assignments (option.text written) =
        expand second.assignments (option.text written)) :
    complete first written = complete second written := by
  have bind : expand first.assignments written.bind =
      expand second.assignments written.bind := same .bind rfl
  have certificatePath : expand first.assignments written.certificatePath =
      expand second.assignments written.certificatePath :=
    same .certificatePath rfl
  have keyPath : expand first.assignments written.keyPath =
      expand second.assignments written.keyPath := same .keyPath rfl
  have logs : Section.complete first written.logs =
      Section.complete second written.logs := rfl
  have identity : Section.complete first written.identity =
      Section.complete second written.identity :=
    IdentityConfig.complete_congr paths (same .keySetUrl rfl)
      (same .publicKeyPath rfl) (same .issuer rfl) (same .audience rfl)
  have backend : Section.complete first written.backend =
      Section.complete second written.backend :=
    BackendConfig.complete_congr (same .backendUrl rfl) (same .store rfl)
      (same .model rfl) (same .token rfl)
  have audit : Section.complete first written.audit =
      Section.complete second written.audit :=
    AuditConfig.complete_congr paths (same .auditPath rfl)
  have target : Section.complete first written.target =
      Section.complete second written.target :=
    target_complete_congr (same .pathPrefix rfl)
  simp only [complete, paths, Context.expand_congr bind,
    Context.expandPath_congr certificatePath, Context.expandPath_congr keyPath,
    logs, identity, backend, audit, target]

/-! ### Printing -/

theorem redacted_of_ne_empty {secret : String} (nonempty : secret ≠ "") :
    BackendConfig.redacted secret = "******" := by
  unfold BackendConfig.redacted
  rw [if_neg (by simpa using nonempty)]

/-- A printed configuration does not tell which key there is. -/
theorem toJson_withToken {config : ServerConfig} {secret other : String}
    (nonempty : secret ≠ "") (otherNonempty : other ≠ "") :
    Section.toJson (config.withToken secret) =
      Section.toJson (config.withToken other) := by
  change Json.object _ = Json.object _
  simp only [ServerConfig.withToken]
  have shown : Section.toJson (config.backend.withToken secret) =
      Section.toJson (config.backend.withToken other) := by
    change Json.object _ = Json.object _
    simp only [BackendConfig.withToken, redacted_of_ne_empty nonempty,
      redacted_of_ne_empty otherNonempty]
  rw [shown]

/-! ### Two runs -/

theorem client_of_assemble {config : ServerConfig} {files : FileTree}
    {service : Service}
    (assembled : (Service.assemble config files).result = .ok service) :
    service.client = clientOf config.backend := by
  unfold Service.assemble at assembled
  cases identity : IdentitySource.ofConfig files config.identity with
  | error fault => simp [identity] at assembled
  | ok source =>
      cases audit : openAudit files config.audit with
      | error fault => simp [identity, audit] at assembled
      | ok opened =>
          simp only [identity, audit, Except.ok.injEq] at assembled
          rw [← assembled]

/-- Two configurations as they are written, each under its environment, that can
be told apart only by what the key of the backend expands to. -/
structure DraftsDifferInToken (first second : Variables)
    (written other : Loaded ServerConfig) : Prop where
  paths : written.paths = other.paths
  rest : written.config.withToken "" = other.config.withToken ""
  expansions : ∀ option : TextOption, option.isTakenAsWritten = false →
    option ≠ .token →
    expand first (option.text written.config) =
      expand second (option.text other.config)

theorem text_withToken {config : ServerConfig} {option : TextOption}
    (isOther : option ≠ .token) :
    option.text (config.withToken token) = option.text config := by
  cases option with
  | token => exact absurd rfl isOther
  | _ => rfl

/-- Without their keys the two configurations are completed alike. -/
theorem DraftsDifferInToken.complete_eq {one two : Variables}
    {written other : Loaded ServerConfig}
    (differ : DraftsDifferInToken one two written other) :
    ServerConfig.complete ⟨one, written.paths⟩ (written.config.withToken "") =
      ServerConfig.complete ⟨two, other.paths⟩
        (other.config.withToken "") := by
  rw [← differ.rest]
  refine ServerConfig.complete_congr differ.paths ?_
  intro option isNotTaken
  by_cases isToken : option = .token
  · subst isToken
    exact (expand_empty one).trans (expand_empty two).symm
  · have blank (config : ServerConfig) :
        option.text (config.withToken "") = option.text config :=
      text_withToken isToken
    calc expand one (option.text (written.config.withToken ""))
        = expand one (option.text written.config) := by rw [blank]
      _ = expand two (option.text other.config) :=
          differ.expansions option isNotTaken isToken
      _ = expand two (option.text (written.config.withToken "")) := by
          rw [differ.rest, blank]

theorem Loaded.complete_eq_withToken {surroundings : Surroundings}
    {written : Loaded ServerConfig}
    (expansion : expand surroundings.assignments
      written.config.backend.token = .ok token) :
    written.complete surroundings =
      match ServerConfig.complete ⟨surroundings.assignments, written.paths⟩
          (written.config.withToken "") with
      | .error fault => .error (.incomplete fault)
      | .ok config =>
          .ok { written with config := config.withToken token } := by
  have completed : Section.complete ⟨surroundings.assignments, written.paths⟩
      written.config = _ :=
    ServerConfig.complete_eq_map_withToken expansion
  unfold Loaded.complete
  rw [completed]
  cases ServerConfig.complete ⟨surroundings.assignments, written.paths⟩
      (written.config.withToken "") <;> rfl

/-- The client that is built from a configuration carries a key. -/
def ServerConfig.ClientCarries (config : ServerConfig) (token : String) :
    Prop :=
  (clientOf config.backend).token = some token ∧
    ∀ (files : FileTree) (service : Service),
      (Service.assemble config files).result = .ok service →
        service.client.token = some token

theorem ServerConfig.clientCarries_withToken {config : ServerConfig}
    (nonempty : token ≠ "") : (config.withToken token).ClientCarries token := by
  have carried : (clientOf (config.withToken token).backend).token =
      some token := by
    simp [clientOf, ServerConfig.withToken, BackendConfig.withToken, present?,
      nonempty]
  refine ⟨carried, ?_⟩
  intro files service assembled
  rw [client_of_assemble assembled]
  exact carried

/-! ### Runs -/

/-- Two texts that differ only in what the key of the backend expands to. A text
that is no TOML holds no key, and nothing is asked of two such texts. -/
inductive TextsDifferInToken (first second : Variables)
    (key otherKey : String) : String → String → Prop where
  | documents {text otherText token otherToken : String}
      {members others : List (String × Toml.Value)}
      (read : Toml.read? text = some members)
      (otherRead : Toml.read? otherText = some others)
      (differ : DocumentsDifferInToken members others token otherToken)
      (expansion : expand first token = .ok key)
      (otherExpansion : expand second otherToken = .ok otherKey)
      (rest : ∀ written : ServerConfig, parse? text = some written →
        ∀ option : TextOption, option.isTakenAsWritten = false →
          option ≠ .token →
          expand first (option.text written) =
            expand second (option.text written)) :
      TextsDifferInToken first second key otherKey text otherText
  | noDocuments {text otherText : String} (unread : Toml.read? text = none)
      (otherUnread : Toml.read? otherText = none) :
      TextsDifferInToken first second key otherKey text otherText

/-- Two runs that differ only in what the key of the backend expands to: they
use the same directories, their files hold the same but for texts, and the texts
of the configuration differ only in the key. -/
structure RunsDifferInToken (first second : Surroundings) (name : String)
    (tree otherTree : FileTree) (key otherKey : String) : Prop where
  paths : first.paths? = second.paths?
  trees : tree.Alike otherTree
  texts : ∀ paths found otherFound,
    findText first name tree = .ok (paths, found) →
    findText second name otherTree = .ok (paths, otherFound) →
    ∃ text otherText, found = some text ∧ otherFound = some otherText ∧
      TextsDifferInToken first.assignments second.assignments key otherKey
        text otherText

section Runs

variable {one two : Surroundings} {name : String} {tree otherTree : FileTree}

theorem preparePaths_alike (paths : one.paths? = two.paths?)
    (alike : tree.Alike otherTree) :
    (preparePaths one tree).1 = (preparePaths two otherTree).1 ∧
      (preparePaths one tree).2.Alike (preparePaths two otherTree).2 := by
  unfold preparePaths
  rw [paths]
  cases two.paths? with
  | none => exact ⟨rfl, alike⟩
  | some paths =>
      have configMade := alike.ensureDirectory paths.config
      revert configMade
      dsimp only
      rcases tree.ensureDirectory paths.config with ⟨fault, tree⟩
      rcases otherTree.ensureDirectory paths.config with ⟨otherFault, otherTree⟩
      rintro ⟨rfl : fault = otherFault, alike⟩
      cases fault with
      | some error => exact ⟨rfl, alike⟩
      | none =>
          have dataMade := alike.ensureDirectory paths.data
          revert dataMade
          dsimp only
          rcases tree.ensureDirectory paths.data with ⟨fault, tree⟩
          rcases otherTree.ensureDirectory paths.data with
            ⟨otherFault, otherTree⟩
          rintro ⟨rfl : fault = otherFault, alike⟩
          cases fault <;> exact ⟨rfl, alike⟩

/-- Runs in trees that differ in texts find the same, or each finds a text. -/
theorem findText_alike (paths : one.paths? = two.paths?)
    (alike : tree.Alike otherTree) :
    findText one name tree = findText two name otherTree ∨
      ∃ paths text otherText,
        findText one name tree = .ok (paths, some text) ∧
        findText two name otherTree = .ok (paths, some otherText) := by
  have prepared := preparePaths_alike paths alike
  revert prepared
  unfold findText
  rcases preparePaths one tree with ⟨result, tree⟩
  rcases preparePaths two otherTree with ⟨otherResult, otherTree⟩
  rintro ⟨rfl : result = otherResult, alike⟩
  cases result with
  | error fault => exact .inl rfl
  | ok paths =>
      dsimp only
      rcases alike.readText (PathText.join paths.config (name ++ ".toml")) with
        same | ⟨text, otherText, here, there⟩
      · exact .inl (by rw [same])
      · exact .inr ⟨paths, text, otherText, by rw [here], by rw [there]⟩

/-- What loading the configuration of the service ends with. -/
abbrev loadServer (explain : String → String) (surroundings : Surroundings)
    (name : String) (tree : FileTree) :
    Except LoadFault (Loaded ServerConfig) :=
  (load explain surroundings name tree).1

/-- Two ends of loading that do not tell which key a run has: the same fault, or
configurations that are printed alike, while each client carries its own key. -/
inductive Unrevealed (key otherKey : String) :
    Except LoadFault (Loaded ServerConfig) →
    Except LoadFault (Loaded ServerConfig) → Prop where
  | failed (fault : LoadFault) :
      Unrevealed key otherKey (.error fault) (.error fault)
  | loaded {loaded otherLoaded : Loaded ServerConfig}
      (printed : (Section.toJson loaded.config).indented =
        (Section.toJson otherLoaded.config).indented)
      (carried : loaded.config.ClientCarries key)
      (otherCarried : otherLoaded.config.ClientCarries otherKey) :
      Unrevealed key otherKey (.ok loaded) (.ok otherLoaded)

variable {explain : String → String} {key otherKey : String}

/-- Configurations that differ in the key are completed with the same fault, or
are printed alike. -/
theorem unrevealed_of_drafts {written other : Loaded ServerConfig}
    (differ : DraftsDifferInToken one.assignments two.assignments written other)
    (expansion :
      expand one.assignments written.config.backend.token = .ok key)
    (otherExpansion :
      expand two.assignments other.config.backend.token = .ok otherKey)
    (nonempty : key ≠ "") (otherNonempty : otherKey ≠ "") :
    Unrevealed key otherKey (written.complete one) (other.complete two) := by
  rw [Loaded.complete_eq_withToken expansion,
    Loaded.complete_eq_withToken otherExpansion, ← differ.complete_eq]
  cases ServerConfig.complete ⟨one.assignments, written.paths⟩
      (written.config.withToken "") with
  | error fault => exact .failed (.incomplete fault)
  | ok config =>
      exact .loaded
        (congrArg Json.indented (toJson_withToken nonempty otherNonempty))
        (ServerConfig.clientCarries_withToken nonempty)
        (ServerConfig.clientCarries_withToken otherNonempty)

/-- Of two texts that differ in the key both are configurations that differ in
the key, or neither is one. -/
theorem TextsDifferInToken.drafts {first second : Variables}
    {text otherText : String}
    (differ : TextsDifferInToken first second key otherKey text otherText)
    (paths : Paths) :
    ((parse? text : Option ServerConfig) = none ∧
      (parse? otherText : Option ServerConfig) = none) ∨
    ∃ written other : ServerConfig,
      parse? text = some written ∧ parse? otherText = some other ∧
      DraftsDifferInToken first second ⟨written, paths, true⟩
        ⟨other, paths, true⟩ ∧
      expand first written.backend.token = .ok key ∧
      expand second other.backend.token = .ok otherKey := by
  cases differ with
  | noDocuments unread otherUnread =>
      exact .inl ⟨by simp [parse?, unread], by simp [parse?, otherUnread]⟩
  | @documents token otherToken members others read otherRead differ expansion
      otherExpansion rest =>
      have parsed : (parse? text : Option ServerConfig) =
          sectionOf? (.table members) := by
        simp only [parse?, read, Option.bind_some]
      have otherParsed : (parse? otherText : Option ServerConfig) =
          (ServerConfig.withToken · otherToken) <$> parse? text := by
        simp only [parse?, otherRead, read, Option.bind_some,
          differ.sectionOf?_eq]
      cases isParsed : (parse? text : Option ServerConfig) with
      | none =>
          refine .inl ⟨rfl, ?_⟩
          rw [otherParsed, isParsed]
          rfl
      | some written =>
          have isToken := differ.token_eq (parsed.symm.trans isParsed)
          refine .inr ⟨written, written.withToken otherToken, rfl, ?_,
            ⟨rfl, rfl, ?_⟩, ?_, otherExpansion⟩
          · rw [otherParsed, isParsed]
            rfl
          · intro option isNotTaken isOther
            rw [text_withToken isOther]
            exact rest written isParsed option isNotTaken isOther
          · rw [isToken]
            exact expansion

theorem loadServer_of_text {paths : Paths} {text : String}
    (found : findText one name tree = .ok (paths, some text)) :
    loadServer explain one name tree =
      match (parse? text : Option ServerConfig) with
      | none => .error (.unparsable (explain text))
      | some written => Loaded.complete one ⟨written, paths, true⟩ := by
  rw [loadServer, load_eq_draft_bind, draft, found]
  simp only [bind, Except.bind, draftOf]
  cases (parse? text : Option ServerConfig) <;> rfl

/-- Two runs that differ in the key fail alike before they read a text, or find
texts that differ in the key. -/
theorem RunsDifferInToken.found
    (differ : RunsDifferInToken one two name tree otherTree key otherKey) :
    (∃ fault, findText one name tree = .error fault ∧
      findText two name otherTree = .error fault) ∨
    ∃ paths text otherText,
      findText one name tree = .ok (paths, some text) ∧
      findText two name otherTree = .ok (paths, some otherText) ∧
      TextsDifferInToken one.assignments two.assignments key otherKey text
        otherText := by
  have texts {paths : Paths} {result otherResult : Option String}
      (found : findText one name tree = .ok (paths, result))
      (otherFound : findText two name otherTree = .ok (paths, otherResult)) :
      ∃ paths text otherText,
        findText one name tree = .ok (paths, some text) ∧
        findText two name otherTree = .ok (paths, some otherText) ∧
        TextsDifferInToken one.assignments two.assignments key otherKey text
          otherText := by
    obtain ⟨text, otherText, rfl, rfl, differInTexts⟩ :=
      differ.texts _ _ _ found otherFound
    exact ⟨paths, text, otherText, found, otherFound, differInTexts⟩
  rcases findText_alike differ.paths differ.trees with
    same | ⟨paths, text, otherText, found, otherFound⟩
  · cases found : findText two name otherTree with
    | error fault => exact .inl ⟨fault, same.trans found, rfl⟩
    | ok result =>
        rw [← found]
        exact .inr (texts (same.trans found) found)
  · exact .inr (texts found otherFound)

theorem loadServer_of_fault {fault : LoadFault}
    (failed : findText one name tree = .error fault) :
    loadServer explain one name tree = .error fault := by
  rw [loadServer, load_eq_draft_bind, draft, failed]
  rfl

/-- Two runs that differ in the key end without telling it, or both find a text
that is no configuration. -/
theorem RunsDifferInToken.ends (explain : String → String)
    (differ : RunsDifferInToken one two name tree otherTree key otherKey)
    (nonempty : key ≠ "") (otherNonempty : otherKey ≠ "") :
    (Unrevealed key otherKey (loadServer explain one name tree)
        (loadServer explain two name otherTree) ∧
      ∀ paths text, findText one name tree = .ok (paths, some text) →
        (parse? text : Option ServerConfig) ≠ none) ∨
    ∃ paths text otherText,
      findText one name tree = .ok (paths, some text) ∧
      findText two name otherTree = .ok (paths, some otherText) ∧
      (parse? text : Option ServerConfig) = none ∧
      (parse? otherText : Option ServerConfig) = none := by
  rcases differ.found with
    ⟨fault, failed, otherFailed⟩ |
      ⟨paths, text, otherText, found, otherFound, texts⟩
  · rw [loadServer_of_fault failed, loadServer_of_fault otherFailed]
    exact .inl ⟨.failed fault, by simp [failed]⟩
  · rcases texts.drafts paths with
      ⟨unparsed, otherUnparsed⟩ |
        ⟨written, other, parsed, otherParsed, drafts, expansion, otherExpansion⟩
    · exact .inr ⟨paths, text, otherText, found, otherFound, unparsed,
        otherUnparsed⟩
    · rw [loadServer_of_text found, loadServer_of_text otherFound, parsed,
        otherParsed]
      refine .inl ⟨unrevealed_of_drafts drafts expansion otherExpansion nonempty
        otherNonempty, ?_⟩
      intro _ again isFound
      rw [found] at isFound
      cases isFound
      simp [parsed]

end Runs

end Gatekeeper.Config

/-! ### Two keys of one installation -/

namespace Gatekeeper

open Gatekeeper.Config

namespace Sample

end Sample

end Gatekeeper
