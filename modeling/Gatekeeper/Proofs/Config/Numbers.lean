import Gatekeeper.Proofs.Config.Completion
import Mathlib.Algebra.Ring.Nat

/-!
# Numbers of a configuration

An option that holds a number is read from a TOML integer, which has sixty-four
bits and here no sign. Completion leaves the numbers as they are, so those of a
loaded configuration are below `2 ^ 63`, and so is a time: no sum of the two
needs more than sixty-four bits.
-/

namespace Gatekeeper.Config

/-! ### Reading -/

theorem natural?_lt {value : Toml.Value} {number : Nat}
    (read : value.natural? = some number) : number < 2 ^ 63 := by
  cases value with
  | integer value =>
      obtain ⟨-, same⟩ := Option.ite_none_right_eq_some.mp read
      rw [← Option.some.inj same]
      exact value.toNatClampNeg_lt
  | _ => cases read

/-- What holds of the default of an option and of all that can be read for it
holds of what is taken. -/
theorem holds_of_option? {α : Type} {read : Toml.Value → Option α}
    {name : String} {absent value : α} {members : List (String × Toml.Value)}
    (taken : option? read name absent members = some value) (holds : α → Prop)
    (ofAbsent : holds absent)
    (ofRead : ∀ written value, read written = some value → holds value) :
    holds value := by
  unfold option? at taken
  split at taken
  next => exact Option.some.inj taken ▸ ofAbsent
  next written _ => exact ofRead written value taken

theorem lt_of_option? {name : String} {absent number : Nat}
    {members : List (String × Toml.Value)}
    (taken : option? Toml.Value.natural? name absent members = some number)
    (small : absent < 2 ^ 63) : number < 2 ^ 63 :=
  holds_of_option? taken (· < 2 ^ 63) small fun _ _ => natural?_lt

/-! ### Sections -/

/-- The options that hold numbers. -/
def IdentityConfig.numbers (config : IdentityConfig) : List Nat :=
  [config.leeway, config.timeout, config.keySetRefresh, config.cacheTtl,
    config.cacheCapacity]

def BackendConfig.numbers (config : BackendConfig) : List Nat :=
  [config.timeout, config.connectTimeout]

def ServerConfig.numbers (config : ServerConfig) : List Nat :=
  config.keepAlive :: config.workers ::
    (config.identity.numbers ++ config.backend.numbers)

/-- Each number has a place in sixty-three bits. -/
def AreSmall (numbers : List Nat) : Prop :=
  ∀ number ∈ numbers, number < 2 ^ 63

instance (numbers : List Nat) : Decidable (AreSmall numbers) :=
  inferInstanceAs (Decidable (∀ number ∈ numbers, number < 2 ^ 63))

theorem IdentityConfig.areSmall_of_sectionOf? {value : Toml.Value}
    {config : IdentityConfig} (read : sectionOf? value = some config) :
    AreSmall config.numbers := by
  simp only [sectionOf?, Section.ofMembers?, Option.bind_eq_bind,
    Option.bind_eq_some_iff] at read
  obtain ⟨members, -, source, -, keySetUrl, -, publicKeyPath, -, issuer, -,
    audience, -, usernameClaim, -, leeway, isLeeway, timeout, isTimeout,
    keySetRefresh, isRefresh, cacheTtl, isTtl, cacheCapacity, isCapacity,
    ⟨⟩⟩ := read
  simp only [AreSmall, numbers, List.forall_mem_cons, List.not_mem_nil,
    IsEmpty.forall_iff, implies_true, and_true]
  exact ⟨lt_of_option? isLeeway (by decide),
    lt_of_option? isTimeout (by decide), lt_of_option? isRefresh (by decide),
    lt_of_option? isTtl (by decide), lt_of_option? isCapacity (by decide)⟩

theorem BackendConfig.areSmall_of_sectionOf? {value : Toml.Value}
    {config : BackendConfig} (read : sectionOf? value = some config) :
    AreSmall config.numbers := by
  simp only [sectionOf?, Section.ofMembers?, Option.bind_eq_bind,
    Option.bind_eq_some_iff] at read
  obtain ⟨members, -, url, -, store, -, model, -, token, -, timeout, isTimeout,
    connectTimeout, isConnectTimeout, ⟨⟩⟩ := read
  simp only [AreSmall, numbers, List.forall_mem_cons, List.not_mem_nil,
    IsEmpty.forall_iff, implies_true, and_true]
  exact ⟨lt_of_option? isTimeout (by decide),
    lt_of_option? isConnectTimeout (by decide)⟩

theorem ServerConfig.areSmall_of_sectionOf? {value : Toml.Value}
    {config : ServerConfig} (read : sectionOf? value = some config) :
    AreSmall config.numbers := by
  -- One option after the other: of all the quantifiers at once `simp` makes more
  -- than it can go through.
  obtain ⟨members, -, read⟩ := Option.bind_eq_some_iff.mp read
  obtain ⟨bind, -, read⟩ := Option.bind_eq_some_iff.mp read
  obtain ⟨usesTls, -, read⟩ := Option.bind_eq_some_iff.mp read
  obtain ⟨certificatePath, -, read⟩ := Option.bind_eq_some_iff.mp read
  obtain ⟨keyPath, -, read⟩ := Option.bind_eq_some_iff.mp read
  obtain ⟨keepAlive, isKeepAlive, read⟩ := Option.bind_eq_some_iff.mp read
  obtain ⟨workers, isWorkers, read⟩ := Option.bind_eq_some_iff.mp read
  obtain ⟨environment, -, read⟩ := Option.bind_eq_some_iff.mp read
  obtain ⟨allowFallback, -, read⟩ := Option.bind_eq_some_iff.mp read
  obtain ⟨logs, -, read⟩ := Option.bind_eq_some_iff.mp read
  obtain ⟨identity, isIdentity, read⟩ := Option.bind_eq_some_iff.mp read
  obtain ⟨backend, isBackend, read⟩ := Option.bind_eq_some_iff.mp read
  obtain ⟨audit, -, read⟩ := Option.bind_eq_some_iff.mp read
  obtain ⟨target, -, ⟨⟩⟩ := Option.bind_eq_some_iff.mp read
  have identitySmall := holds_of_option? isIdentity
    (fun config => AreSmall config.numbers) (by decide)
    fun _ _ => IdentityConfig.areSmall_of_sectionOf?
  have backendSmall := holds_of_option? isBackend
    (fun config => AreSmall config.numbers) (by decide)
    fun _ _ => BackendConfig.areSmall_of_sectionOf?
  simp only [AreSmall, numbers, List.forall_mem_cons, List.forall_mem_append]
  exact ⟨lt_of_option? isKeepAlive (by decide),
    lt_of_option? isWorkers (by decide), identitySmall, backendSmall⟩

/-! ### Loading -/

/-- Completion leaves the numbers as they are. -/
theorem ServerConfig.Completes.numbers_eq {context : Context}
    {written completed : ServerConfig}
    (completes : Completes context written completed) :
    completed.numbers = written.numbers := by
  have identity : completed.identity.numbers = written.identity.numbers := by
    rw [completes.identity.kept]
    rfl
  have backend : completed.backend.numbers = written.backend.numbers := by
    rw [completes.backend.kept]
    rfl
  unfold ServerConfig.numbers
  rw [identity, backend, completes.kept]

theorem areSmall_of_draft {explain : String → String}
    {surroundings : Surroundings} {name : String} {tree : FileTree}
    {written : Loaded ServerConfig}
    (drafted : draft explain surroundings name tree = .ok written) :
    AreSmall written.config.numbers := by
  rcases config_of_draft drafted with isAbsent | ⟨text, parsed⟩
  · rw [isAbsent]
    decide
  · obtain ⟨members, -, read⟩ := Option.bind_eq_some_iff.mp parsed
    exact ServerConfig.areSmall_of_sectionOf? read

end Gatekeeper.Config
