import Gatekeeper.Proofs.Identity.KeyHistory
import Gatekeeper.Proofs.Interleaving
import Mathlib.Data.List.Chain

/-!
# Interleaved calls for published keys

Calls that look keys up in one cache and fetch the published set, in any
interleaving. The look-up and the sending of the fetch are one step, and the
answer is taken in another, in whatever order the answers arrive. What is kept
is the set that arrived last. It goes back to an older answer exactly when one
fetch overtakes another, so that both were under way together, and never by more
than the time that a fetch may take. A call whose fetch fails ends with the key
that was kept when the fetch was sent, whatever has been stored since.
-/

namespace Gatekeeper

/-! ### Steps -/

/-- A fetch that has been sent: how many were sent before it, when and for which
token it was sent, and the kept key that serves if it fails. -/
structure OpenFetch where
  number : Nat
  sentAt : Nat
  token : ExaminedToken
  serving : Option VerificationKey
deriving DecidableEq, Repr

/-- The kept set with the number of fetches sent so far and those that wait for
their answers. -/
structure SharedKeys where
  cache : KeyCache
  sent : Nat
  waiting : List OpenFetch

/-- Nothing is kept and nothing was sent. -/
def SharedKeys.start : SharedKeys :=
  ⟨none, 0, []⟩

/-- What happens in one step of a call. -/
inductive KeyEvent where
  | refused (now : Nat) (token : ExaminedToken) (fault : TokenFault)
  | served (now : Nat) (token : ExaminedToken) (key : VerificationKey)
  | sent (fetch : OpenFetch)
  | arrived (now : Nat) (fetch : OpenFetch) (exchange : Http.Exchange)
      (key : Except IdentityFailure VerificationKey)

/-- The steps of calls. At any time a call may look its key up, and any fetch
that waits may be answered, in any way. -/
inductive KeyStep (refreshInterval : Nat) :
    SharedKeys → KeyEvent → SharedKeys → Prop
  | refused {state : SharedKeys} {fault : TokenFault} (now : Nat)
      (token : ExaminedToken)
      (lookedUp : state.cache.lookUp refreshInterval now token.keyId =
        .refused fault) :
      KeyStep refreshInterval state (.refused now token fault) state
  | served {state : SharedKeys} {key : VerificationKey} (now : Nat)
      (token : ExaminedToken)
      (lookedUp : state.cache.lookUp refreshInterval now token.keyId =
        .found key) :
      KeyStep refreshInterval state (.served now token key) state
  | sent {cache : KeyCache} {sent : Nat} {waiting : List OpenFetch}
      {kept : Option VerificationKey} (now : Nat) (token : ExaminedToken)
      (lookedUp : cache.lookUp refreshInterval now token.keyId =
        .fetch kept) :
      KeyStep refreshInterval ⟨cache, sent, waiting⟩
        (.sent ⟨sent, now, token, kept⟩)
        ⟨cache, sent + 1, ⟨sent, now, token, kept⟩ :: waiting⟩
  | arrived {cache after : KeyCache} {sent : Nat}
      {key : Except IdentityFailure VerificationKey} (now : Nat)
      (before rest : List OpenFetch) (fetch : OpenFetch)
      (exchange : Http.Exchange)
      (taken : cache.take now fetch.token.keyId fetch.serving
        (KeySet.ofExchange exchange) = (key, after)) :
      KeyStep refreshInterval ⟨cache, sent, before ++ fetch :: rest⟩
        (.arrived now fetch exchange key) ⟨after, sent, before ++ rest⟩

namespace KeyEvent

/-- The key that a call ends with, in the step that ends it. -/
def key? : KeyEvent → Option (Except IdentityFailure VerificationKey)
  | refused _ _ fault => some (.error fault.failure)
  | served _ _ key => some (.ok key)
  | sent _ => none
  | arrived _ _ _ key => some key

def time : KeyEvent → Nat
  | refused now _ _ => now
  | served now _ _ => now
  | sent fetch => fetch.sentAt
  | arrived now _ _ _ => now

/-- The fetch that is answered. -/
def answered? : KeyEvent → Option OpenFetch
  | arrived _ fetch _ _ => some fetch
  | _ => none

/-- The fetch whose answer is stored, with the set that it brings. -/
def stored? : KeyEvent → Option (OpenFetch × KeySet)
  | arrived _ fetch exchange _ =>
      match KeySet.ofExchange exchange with
      | .error _ => none
      | .ok set =>
          if (set.find fetch.token.keyId).isOk then some (fetch, set) else none
  | _ => none

/-- What is stored, in its order. -/
def stores (events : List KeyEvent) : List (OpenFetch × KeySet) :=
  events.filterMap stored?

/-- No stored set is replaced by the answer to a fetch that was sent before. -/
def NeverGoesBack (events : List KeyEvent) : Prop :=
  ((stores events).map fun stored => stored.1.number).IsChain (· ≤ ·)

/-- Two fetches were under way together, the later one was answered first, and
both answers were stored. -/
def Overtaken (events : List KeyEvent) : Prop :=
  ∃ older newer olderSet newerSet olderArrival newerArrival,
    olderArrival.stored? = some (older, olderSet) ∧
    newerArrival.stored? = some (newer, newerSet) ∧
    [.sent older, .sent newer, newerArrival, olderArrival].Sublist events

/-- A key is the one that a token selects in the set that was stored last, and
no set that was stored was fetched later, unless a fetch was overtaken. -/
def SelectedLast (events : List KeyEvent) (token : ExaminedToken)
    (key : VerificationKey) : Prop :=
  ∃ fetch set, (stores events).getLast? = some (fetch, set) ∧
    set.find token.keyId = .ok (some key) ∧
    (¬ Overtaken events →
      ∀ other ∈ stores events, other.1.number ≤ fetch.number)

theorem stored?_of_find {now : Nat} {fetch : OpenFetch}
    {exchange : Http.Exchange} {key : Except IdentityFailure VerificationKey}
    {set : KeySet} {selected : Option VerificationKey}
    (brought : KeySet.ofExchange exchange = .ok set)
    (found : set.find fetch.token.keyId = .ok selected) :
    (arrived now fetch exchange key).stored? = some (fetch, set) := by
  simp [stored?, brought, found, Except.isOk, Except.toBool]

theorem answered?_of_stored? {event : KeyEvent} {fetch : OpenFetch}
    {set : KeySet} (stored : event.stored? = some (fetch, set)) :
    event.answered? = some fetch := by
  cases event with
  | arrived now other exchange key =>
      unfold stored? at stored
      cases arrived : KeySet.ofExchange exchange with
      | error fault => simp [arrived] at stored
      | ok brought =>
          simp only [arrived, Option.ite_none_right_eq_some, Option.some.injEq,
            Prod.mk.injEq] at stored
          exact congrArg some stored.2.1
  | refused | served | sent => cases stored

theorem neverGoesBack_iff_pairwise {events : List KeyEvent} :
    NeverGoesBack events ↔ events.Pairwise fun first second =>
      ∀ earlier, first.stored? = some earlier →
      ∀ later, second.stored? = some later →
        earlier.1.number ≤ later.1.number := by
  rw [NeverGoesBack, List.isChain_iff_pairwise, List.pairwise_map, stores,
    List.pairwise_filterMap]

theorem stores_append_singleton (past : List KeyEvent) (event : KeyEvent) :
    stores (past ++ [event]) = stores past ++ event.stored?.toList := by
  rw [stores, List.filterMap_append]
  cases stored : event.stored? <;> simp [stored, stores]

end KeyEvent

/-- A call that nothing interrupts takes these steps. -/
theorem PublishedKeys.exists_run_of_keyFor {State : Type}
    (provider : PublishedKeys) (fetch : State → Http.Exchange × State)
    (now : Nat) (token : ExaminedToken) (cache : KeyCache) (network : State)
    (sent : Nat) (waiting : List OpenFetch) :
    ∃ events sentAfter, Run (KeyStep provider.refreshInterval)
        ⟨cache, sent, waiting⟩ events
        ⟨(provider.keyFor fetch now token.keyId (cache, network)).2.1,
          sentAfter, waiting⟩ ∧
      events.getLast?.bind KeyEvent.key? =
        some (provider.keyFor fetch now token.keyId (cache, network)).1 := by
  unfold keyFor
  cases lookedUp : cache.lookUp provider.refreshInterval now token.keyId with
  | refused fault =>
      simp only [lookedUp]
      exact ⟨_, sent, .single (.refused now token lookedUp), rfl⟩
  | found key =>
      simp only [lookedUp]
      exact ⟨_, sent, .single (.served now token lookedUp), rfl⟩
  | fetch kept =>
      rcases taken : cache.take now token.keyId kept
        (KeySet.ofExchange (fetch network).1) with ⟨key, after⟩
      simp only [lookedUp, taken]
      have asked : Run (KeyStep provider.refreshInterval)
          ⟨cache, sent, waiting⟩ [.sent ⟨sent, now, token, kept⟩]
          ⟨cache, sent + 1, ⟨sent, now, token, kept⟩ :: waiting⟩ :=
        .single (.sent now token lookedUp)
      exact ⟨_, sent + 1, asked.next
        (.arrived now [] waiting ⟨sent, now, token, kept⟩ _ taken), rfl⟩

/-! ### Runs -/

namespace KeyEvent

variable {refreshInterval : Nat} {events past rest : List KeyEvent}
  {state : SharedKeys}

/-! #### Sending -/

theorem sent_of_mem_waiting
    (run : Run (KeyStep refreshInterval) .start events state) :
    ∀ fetch ∈ state.waiting, .sent fetch ∈ events := by
  refine run.keeps (fun events state =>
    ∀ fetch ∈ state.waiting, .sent fetch ∈ events) ?_ ?_
  · intro fetch member
    cases member
  · intro past state event next known moved fetch member
    cases moved with
    | refused | served => exact List.mem_append_left _ (known fetch member)
    | sent now token lookedUp =>
        rcases List.mem_cons.mp member with rfl | waits
        · simp
        · exact List.mem_append_left _ (known fetch waits)
    | arrived now before rest other exchange taken =>
        apply List.mem_append_left
        apply known
        rcases List.mem_append.mp member with first | last
        · exact List.mem_append_left _ first
        · exact List.mem_append_right _ (List.mem_cons_of_mem other last)

theorem number_lt_of_sent
    (run : Run (KeyStep refreshInterval) .start events state) :
    ∀ fetch, .sent fetch ∈ events → fetch.number < state.sent := by
  refine run.keeps (fun events state =>
    ∀ fetch, .sent fetch ∈ events → fetch.number < state.sent) ?_ ?_
  · intro fetch member
    cases member
  · intro past state event next known moved fetch member
    rcases List.mem_append.mp member with old | new
    · have bound := known fetch old
      cases moved with
      | refused | served | arrived => exact bound
      | sent => exact Nat.lt_succ_of_lt bound
    · obtain rfl := List.mem_singleton.mp new
      cases moved with
      | sent => exact Nat.lt_succ_self _

/-- Fetches are numbered in the order in which they are sent. -/
theorem sent_in_order
    (run : Run (KeyStep refreshInterval) .start events state) :
    events.Pairwise fun first second => ∀ older newer,
      first = .sent older → second = .sent newer →
        older.number < newer.number := by
  induction run with
  | start => exact .nil
  | next run moved ih =>
      refine List.pairwise_append.mpr ⟨ih, List.pairwise_singleton _ _, ?_⟩
      rintro first member second isLast older newer rfl rfl
      obtain rfl := List.mem_singleton.mp isLast
      cases moved with
      | sent => exact number_lt_of_sent run older member

/-- A fetch is sent before it is answered. -/
theorem sent_of_answered {event : KeyEvent} {fetch : OpenFetch}
    (run : Run (KeyStep refreshInterval) .start (past ++ event :: rest) state)
    (answered : event.answered? = some fetch) : .sent fetch ∈ past := by
  obtain ⟨before, after, upTo, moved⟩ := run.exists_step
  cases moved with
  | refused | served | sent => cases answered
  | arrived now first last other exchange taken =>
      obtain rfl := Option.some.inj answered
      exact sent_of_mem_waiting upTo other (by simp)

/-- A fetch with a smaller number than one that was sent after some events was
sent in these events. -/
theorem sent_of_number_lt {older newer : OpenFetch}
    (run : Run (KeyStep refreshInterval) .start
      (past ++ .sent newer :: rest) state)
    (sent : .sent older ∈ past ++ .sent newer :: rest)
    (less : older.number < newer.number) : .sent older ∈ past := by
  obtain ⟨-, later, -⟩ := List.pairwise_append.mp (sent_in_order run)
  rcases List.mem_append.mp sent with first | last
  · exact first
  · rcases List.mem_cons.mp last with same | after
    · obtain rfl := KeyEvent.sent.inj same
      exact absurd less (Nat.lt_irrefl _)
    · have greater :=
        (List.pairwise_cons.mp later).1 _ after newer older rfl rfl
      exact absurd less (Nat.lt_asymm greater)

/-! #### Storing -/

/-- What is kept is the set that was stored last. -/
theorem set?_of_run
    (run : Run (KeyStep refreshInterval) .start events state) :
    state.cache.set? = (stores events).getLast?.map Prod.snd := by
  refine run.keeps (fun events state =>
    state.cache.set? = (stores events).getLast?.map Prod.snd) rfl ?_
  intro past state event next kept moved
  rw [stores_append_singleton]
  cases moved with
  | refused | served | sent => simpa [stored?] using kept
  | @arrived cache after _ key now before rest fetch exchange taken =>
      have stored : after.set? = _ :=
        (congrArg (fun outcome => KeyCache.set? outcome.2) taken).symm.trans
          KeyCache.set?_take
      cases brought : KeySet.ofExchange exchange with
      | error fault =>
          simp only [brought] at stored
          simpa [stored?, brought, stored] using kept
      | ok set =>
          cases usable : (set.find fetch.token.keyId).isOk with
          | false =>
              simp only [brought, usable] at stored
              simpa [stored?, brought, usable, stored] using kept
          | true =>
              simp only [brought, usable] at stored
              simp [stored?, brought, usable, stored]

/-- Where an older answer is stored after a newer one, both fetches had been
sent before the newer answer arrived. -/
theorem overtaken_of_stored {older newer : OpenFetch}
    {olderSet newerSet : KeySet} {olderArrival newerArrival : KeyEvent}
    (run : Run (KeyStep refreshInterval) .start events state)
    (inOrder : [newerArrival, olderArrival].Sublist events)
    (newerStored : newerArrival.stored? = some (newer, newerSet))
    (olderStored : olderArrival.stored? = some (older, olderSet))
    (less : older.number < newer.number) : Overtaken events := by
  obtain ⟨first, last, rfl, newerMember, olderLast⟩ :=
    List.cons_sublist_iff.mp inOrder
  obtain ⟨upToNewer, between, rfl⟩ := List.append_of_mem newerMember
  obtain ⟨afterNewer, _, rfl⟩ :=
    List.append_of_mem (List.singleton_sublist.mp olderLast)
  have newerSent : .sent newer ∈ upToNewer := by
    rw [List.append_assoc, List.cons_append] at run
    exact sent_of_answered run (answered?_of_stored? newerStored)
  rw [← List.append_assoc] at run
  have olderSent :
      .sent older ∈ upToNewer ++ newerArrival :: between ++ afterNewer :=
    sent_of_answered run (answered?_of_stored? olderStored)
  obtain ⟨_, -, upToOlder, -⟩ := run.exists_step
  obtain ⟨upToSent, waiting, rfl⟩ := List.append_of_mem newerSent
  have olderFirst : .sent older ∈ upToSent := by
    simp only [List.append_assoc, List.cons_append] at upToOlder olderSent
    exact sent_of_number_lt upToOlder olderSent less
  have bothSent : [.sent older, .sent newer].Sublist
      (upToSent ++ .sent newer :: waiting) :=
    (List.singleton_sublist.mpr olderFirst).append
      ((List.nil_sublist waiting).cons_cons _)
  have newerAnswered : [newerArrival].Sublist (newerArrival :: between) :=
    (List.nil_sublist between).cons_cons _
  have inFull := (bothSent.append newerAnswered).append olderLast
  exact ⟨older, newer, olderSet, newerSet, olderArrival, newerArrival,
    olderStored, newerStored, inFull⟩

/-- The kept set goes back exactly when a fetch is overtaken. -/
theorem neverGoesBack_iff
    (run : Run (KeyStep refreshInterval) .start events state) :
    NeverGoesBack events ↔ ¬ Overtaken events := by
  rw [neverGoesBack_iff_pairwise, List.pairwise_iff_forall_sublist]
  constructor
  · rintro ordered ⟨older, newer, olderSet, newerSet, olderArrival,
      newerArrival, olderStored, newerStored, inOrder⟩
    have bothSent : [.sent older, .sent newer].Sublist events :=
      (List.sublist_append_left [sent older, sent newer]
        [newerArrival, olderArrival]).trans inOrder
    have bothArrived : [newerArrival, olderArrival].Sublist events :=
      (List.sublist_append_right [sent older, sent newer]
        [newerArrival, olderArrival]).trans inOrder
    have less := List.pairwise_iff_forall_sublist.mp (sent_in_order run)
      bothSent older newer rfl rfl
    have greater := ordered bothArrived _ newerStored _ olderStored
    exact absurd less (Nat.not_lt.mpr greater)
  · intro undisturbed first second inOrder earlier firstStored later
      secondStored
    by_contra back
    exact undisturbed (overtaken_of_stored run inOrder firstStored
      secondStored (Nat.lt_of_not_le back))

/-! #### Serving -/

/-- A kept key that is found, whether it is served or waits for a fetch, is the
one that the token selects in the set that was stored last. -/
theorem selectedLast_of_lookUp {now : Nat} {token : ExaminedToken}
    {key : VerificationKey}
    (run : Run (KeyStep refreshInterval) .start past state)
    (lookedUp : state.cache.lookUp refreshInterval now token.keyId =
        .found key ∨
      state.cache.lookUp refreshInterval now token.keyId =
        .fetch (some key)) : SelectedLast past token key := by
  obtain ⟨set, kept, found⟩ := KeyCache.find_of_lookUp lookedUp
  rw [set?_of_run run] at kept
  obtain ⟨⟨fetch, stored⟩, isLast, rfl⟩ := Option.map_eq_some_iff.mp kept
  refine ⟨fetch, stored, isLast, found, ?_⟩
  intro undisturbed other member
  have ordered := (neverGoesBack_iff run).mpr undisturbed
  obtain ⟨others, split⟩ := List.getLast?_eq_some_iff.mp isLast
  rw [NeverGoesBack, List.isChain_iff_pairwise, List.pairwise_map,
    split] at ordered
  rw [split] at member
  rcases List.mem_append.mp member with former | last
  · exact (List.pairwise_append.mp ordered).2.2 other former
      (fetch, stored) List.mem_cons_self
  · obtain rfl := List.mem_singleton.mp last
    exact Nat.le_refl _

theorem selectedLast_of_served {now : Nat} {token : ExaminedToken}
    {key : VerificationKey}
    (run : Run (KeyStep refreshInterval) .start
      (past ++ .served now token key :: rest) state) :
    SelectedLast past token key := by
  obtain ⟨before, after, upTo, moved⟩ := run.exists_step
  cases moved with
  | served now token lookedUp =>
      exact selectedLast_of_lookUp upTo (.inl lookedUp)

/-- The key that serves if a fetch fails was selected when it was sent. -/
theorem selectedLast_of_serving {fetch : OpenFetch} {key : VerificationKey}
    (run : Run (KeyStep refreshInterval) .start
      (past ++ .sent fetch :: rest) state) (serves : fetch.serving = some key) :
    SelectedLast past fetch.token key := by
  obtain ⟨before, after, upTo, moved⟩ := run.exists_step
  cases moved with
  | @sent cache sent waiting kept now token lookedUp =>
      obtain rfl : kept = some key := serves
      exact selectedLast_of_lookUp upTo (.inr lookedUp)

/-- A fetch gives the key that its token selects in the set that it stores, or
it fails, and gives the key that was selected when it was sent. -/
theorem source_of_arrived {now : Nat} {fetch : OpenFetch}
    {exchange : Http.Exchange} {key : VerificationKey}
    (run : Run (KeyStep refreshInterval) .start
      (past ++ .arrived now fetch exchange (.ok key) :: rest) state) :
    (∃ set, (arrived now fetch exchange (.ok key)).stored? =
        some (fetch, set) ∧ set.find fetch.token.keyId = .ok (some key)) ∨
    ∃ fault before after, KeySet.ofExchange exchange = .error fault ∧
      past = before ++ .sent fetch :: after ∧
      SelectedLast before fetch.token key := by
  have sent : .sent fetch ∈ past := sent_of_answered run rfl
  obtain ⟨before, after, upTo, moved⟩ := run.exists_step
  cases moved with
  | @arrived cache _ _ _ now _ _ fetch exchange taken =>
      cases brought : KeySet.ofExchange exchange with
      | ok set =>
          rw [brought] at taken
          rcases found : set.find fetch.token.keyId with fault | (_ | selected)
          · simp [KeyCache.take, found] at taken
          · simp [KeyCache.take, found] at taken
          · obtain ⟨rfl, -⟩ : selected = key ∧ _ := by
              simpa [KeyCache.take, found] using taken
            exact .inl ⟨set, stored?_of_find brought found, found⟩
      | error fault =>
          obtain ⟨first, later, rfl⟩ := List.append_of_mem sent
          refine .inr ⟨fault, first, later, rfl, rfl, ?_⟩
          refine selectedLast_of_serving upTo ?_
          rw [brought] at taken
          cases serving : fetch.serving with
          | none => simp [KeyCache.take, serving] at taken
          | some kept =>
              obtain ⟨rfl, -⟩ : kept = key ∧ _ := by
                simpa [KeyCache.take, serving] using taken
              rfl

/-! #### Time -/

/-- While the clock does not go back and no answer is waited for longer than
the timeout, a stored set was fetched at most the timeout before each one that
it follows. -/
theorem sentAt_le_of_stored {timeout : Nat}
    (run : Run (KeyStep refreshInterval) .start events state)
    (ordered : (events.map time).Pairwise (· ≤ ·))
    (prompt : ∀ event ∈ events, ∀ fetch, event.answered? = some fetch →
      event.time ≤ fetch.sentAt + timeout) :
    (stores events).Pairwise fun earlier later =>
      earlier.1.sentAt ≤ later.1.sentAt + timeout := by
  rw [List.pairwise_map] at ordered
  have sentBefore : ∀ event ∈ events, ∀ fetch,
      event.answered? = some fetch → fetch.sentAt ≤ event.time := by
    intro event member fetch answered
    obtain ⟨past, rest, rfl⟩ := List.append_of_mem member
    have sent := sent_of_answered run answered
    exact (List.pairwise_append.mp ordered).2.2 _ sent event (by simp)
  rw [stores, List.pairwise_filterMap]
  refine ordered.imp_of_mem ?_
  rintro first second firstMember secondMember inTime ⟨earlier, _⟩ firstStored
    ⟨later, _⟩ secondStored
  calc earlier.sentAt
      ≤ first.time :=
        sentBefore first firstMember _ (answered?_of_stored? firstStored)
    _ ≤ second.time := inTime
    _ ≤ later.sentAt + timeout :=
        prompt second secondMember _ (answered?_of_stored? secondStored)

end KeyEvent

open KeyEvent in
/-- However calls interleave and answers arrive, the set that was stored last is
kept. It replaces the answer to a fetch that was sent later exactly when that
fetch overtook its own. So unless a fetch was overtaken, a key that is served is
in the set of the last fetch that brought one. A call that fetches ends with a
key of the set that it stores, or its fetch fails: then it ends with the key
that was kept when the fetch was sent, also where another set has been stored in
the meantime. And while no answer is waited for longer than the timeout, no set
replaces one that was fetched more than the timeout after it. Calls that nothing
interrupts are among the interleavings: after any run one more call may be made
as a whole. -/
theorem SharedKeys.kept_set_of_interleaving {refreshInterval : Nat}
    {events : List KeyEvent} {state : SharedKeys}
    (run : Run (KeyStep refreshInterval) .start events state) :
    state.cache.set? = (stores events).getLast?.map Prod.snd ∧
    (NeverGoesBack events ↔ ¬ Overtaken events) ∧
    (∀ past now token key rest,
      events = past ++ .served now token key :: rest →
        SelectedLast past token key) ∧
    (∀ past now fetch exchange key rest,
      events = past ++ .arrived now fetch exchange (.ok key) :: rest →
      (∃ set, (arrived now fetch exchange (.ok key)).stored? =
          some (fetch, set) ∧ set.find fetch.token.keyId = .ok (some key)) ∨
      ∃ fault before after, KeySet.ofExchange exchange = .error fault ∧
        past = before ++ .sent fetch :: after ∧
        SelectedLast before fetch.token key) ∧
    (∀ timeout, (events.map time).Pairwise (· ≤ ·) →
      (∀ event ∈ events, ∀ fetch, event.answered? = some fetch →
        event.time ≤ fetch.sentAt + timeout) →
      (stores events).Pairwise fun earlier later =>
        earlier.1.sentAt ≤ later.1.sentAt + timeout) ∧
    ∀ (Outside : Type) (rules : TokenRules)
      (fetch : Outside → Http.Exchange × Outside) (now : Nat)
      (token : ExaminedToken) (network : Outside), ∃ further sent,
      Run (KeyStep refreshInterval) .start (events ++ further)
        ⟨(PublishedKeys.keyFor ⟨rules, refreshInterval⟩ fetch now token.keyId
          (state.cache, network)).2.1, sent, state.waiting⟩ ∧
      further.getLast?.bind key? =
        some (PublishedKeys.keyFor ⟨rules, refreshInterval⟩ fetch now
          token.keyId (state.cache, network)).1 := by
  refine ⟨set?_of_run run, neverGoesBack_iff run, ?_, ?_, ?_, ?_⟩
  · intro past now token key rest split
    subst split
    exact selectedLast_of_served run
  · intro past now fetch exchange key rest split
    subst split
    exact source_of_arrived run
  · intro timeout ordered prompt
    exact sentAt_le_of_stored run ordered prompt
  · intro Outside rules fetch now token network
    obtain ⟨further, sent, call, ends⟩ :=
      PublishedKeys.exists_run_of_keyFor ⟨rules, refreshInterval⟩ fetch
        now token state.cache network state.sent state.waiting
    exact ⟨further, sent, run.append call, ends⟩

/-! ### Slow fetches

Two calls with the sample token fetch the set, ten seconds apart. The later
fetch brings a set without any key, and the token is refused under it. Then the
answer to the earlier fetch arrives with the old set, which replaces the new
one, and the token is accepted. Where the old set was kept all along, it is
enough that the earlier fetch fails: no set goes back, and the token is accepted
under the key that was kept when that fetch was sent.
-/

namespace Sample

def examined : ExaminedToken :=
  ⟨parts, ⟨.deterministic, .sha256⟩, none⟩

def olderFetch : OpenFetch :=
  ⟨0, 1700000000, examined, none⟩

def newerFetch : OpenFetch :=
  ⟨1, 1700000010, examined, none⟩

def emptySet : KeySet :=
  ⟨[]⟩

def emptyBody : List UInt8 :=
  Text.Utf8.encode "\x7b\"keys\":[]\x7d"

def newerArrival : KeyEvent :=
  .arrived 1700000011 newerFetch (.answered 200 emptyBody)
    (.error (TokenFault.unknownKey none).failure)

def olderArrival : KeyEvent :=
  .arrived 1700000013 olderFetch (.answered 200 publishedBody) (.ok key)

def overtaking : List KeyEvent :=
  [.sent olderFetch, .sent newerFetch, newerArrival,
    .refused 1700000012 examined (.unknownKey none), olderArrival,
    .served 1700000014 examined key]

def slowFetch : OpenFetch :=
  ⟨1, 1700000301, examined, some key⟩

def quickFetch : OpenFetch :=
  ⟨2, 1700000311, examined, some key⟩

def firstArrival : KeyEvent :=
  .arrived 1700000001 olderFetch (.answered 200 publishedBody) (.ok key)

def quickArrival : KeyEvent :=
  .arrived 1700000312 quickFetch (.answered 200 emptyBody)
    (.error (TokenFault.unknownKey none).failure)

def slowFailure : KeyEvent :=
  .arrived 1700000314 slowFetch .unanswered (.ok key)

def failing : List KeyEvent :=
  [.sent olderFetch, firstArrival, .sent slowFetch, .sent quickFetch,
    quickArrival, .refused 1700000313 examined (.unknownKey none), slowFailure]

theorem ofExchange_emptyBody :
    KeySet.ofExchange (.answered 200 emptyBody) = .ok emptySet := by
  have read : KeySet.ofBytes? emptyBody = some emptySet := by
    decide +kernel
  simp [KeySet.ofExchange, Http.isSuccess, read]

theorem run_overtaking :
    Run (KeyStep 300) .start overtaking
      ⟨some ⟨publishedSet, 1700000013, 1700000013⟩, 2, []⟩ := by
  have newerTaken : KeyCache.take none 1700000011 newerFetch.token.keyId
      newerFetch.serving (KeySet.ofExchange (.answered 200 emptyBody)) =
        (.error (TokenFault.unknownKey none).failure,
          some ⟨emptySet, 1700000011, 1700000011⟩) := by
    rw [ofExchange_emptyBody]
    rfl
  have olderTaken :
      KeyCache.take (some ⟨emptySet, 1700000011, 1700000011⟩) 1700000013
        olderFetch.token.keyId olderFetch.serving
        (KeySet.ofExchange (.answered 200 publishedBody)) =
        (.ok key, some ⟨publishedSet, 1700000013, 1700000013⟩) := by
    rw [ofExchange_bodies.1]
    exact KeyCache.take_of_selected find_publishedSet.1
  have unknown : KeyCache.lookUp (some ⟨emptySet, 1700000011, 1700000011⟩) 300
      1700000012 none = .refused (.unknownKey none) := rfl
  have bothSent : Run (KeyStep 300) .start
      [.sent olderFetch, .sent newerFetch]
      ⟨none, 2, [newerFetch, olderFetch]⟩ :=
    .next (.single (.sent 1700000000 examined rfl))
      (.sent 1700000010 examined rfl)
  have newerStored : Run (KeyStep 300) .start
      [.sent olderFetch, .sent newerFetch, newerArrival]
      ⟨some ⟨emptySet, 1700000011, 1700000011⟩, 2, [olderFetch]⟩ :=
    bothSent.next
      (.arrived 1700000011 [] [olderFetch] newerFetch _ newerTaken)
  have refused : Run (KeyStep 300) .start
      [.sent olderFetch, .sent newerFetch, newerArrival,
        .refused 1700000012 examined (.unknownKey none)]
      ⟨some ⟨emptySet, 1700000011, 1700000011⟩, 2, [olderFetch]⟩ :=
    newerStored.next (.refused 1700000012 examined unknown)
  have olderStored : Run (KeyStep 300) .start
      [.sent olderFetch, .sent newerFetch, newerArrival,
        .refused 1700000012 examined (.unknownKey none), olderArrival]
      ⟨some ⟨publishedSet, 1700000013, 1700000013⟩, 2, []⟩ :=
    refused.next (.arrived 1700000013 [] [] olderFetch _ olderTaken)
  exact olderStored.next (.served 1700000014 examined
    (KeyCache.lookUp_of_fresh find_publishedSet.1 (by decide)))

theorem stores_overtaking :
    KeyEvent.stores overtaking =
      [(newerFetch, emptySet), (olderFetch, publishedSet)] := by
  have newerStored : newerArrival.stored? = some (newerFetch, emptySet) :=
    KeyEvent.stored?_of_find ofExchange_emptyBody rfl
  have olderStored :
      olderArrival.stored? = some (olderFetch, publishedSet) :=
    KeyEvent.stored?_of_find ofExchange_bodies.1 find_publishedSet.1
  rw [KeyEvent.stores, overtaking, List.filterMap_cons_none rfl,
    List.filterMap_cons_none rfl, List.filterMap_cons_some newerStored,
    List.filterMap_cons_none rfl, List.filterMap_cons_some olderStored,
    List.filterMap_cons_none rfl, List.filterMap_nil]

theorem not_neverGoesBack_overtaking :
    ¬ KeyEvent.NeverGoesBack overtaking := by
  rw [KeyEvent.NeverGoesBack, stores_overtaking]
  decide

theorem run_failing :
    Run (KeyStep 300) .start failing
      ⟨some ⟨emptySet, 1700000312, 1700000314⟩, 3, []⟩ := by
  have stale (now : Nat) (late : 1700000301 ≤ now) :
      KeyCache.lookUp (some ⟨publishedSet, 1700000001, 1700000001⟩) 300 now
        none = .fetch (some key) :=
    KeyCache.lookUp_of_stale find_publishedSet.1 (Nat.le_sub_of_add_le late)
      (Nat.le_sub_of_add_le (Nat.le_trans (by decide) late))
  have firstTaken : KeyCache.take none 1700000001 olderFetch.token.keyId
      olderFetch.serving (KeySet.ofExchange (.answered 200 publishedBody)) =
        (.ok key, some ⟨publishedSet, 1700000001, 1700000001⟩) := by
    rw [ofExchange_bodies.1]
    exact KeyCache.take_of_selected find_publishedSet.1
  have quickTaken :
      KeyCache.take (some ⟨publishedSet, 1700000001, 1700000001⟩) 1700000312
        quickFetch.token.keyId quickFetch.serving
        (KeySet.ofExchange (.answered 200 emptyBody)) =
        (.error (TokenFault.unknownKey none).failure,
          some ⟨emptySet, 1700000312, 1700000312⟩) := by
    rw [ofExchange_emptyBody]
    rfl
  have first : Run (KeyStep 300) .start [.sent olderFetch, firstArrival]
      ⟨some ⟨publishedSet, 1700000001, 1700000001⟩, 1, []⟩ :=
    .next (.single (.sent 1700000000 examined rfl))
      (.arrived 1700000001 [] [] olderFetch _ firstTaken)
  have bothSent : Run (KeyStep 300) .start
      [.sent olderFetch, firstArrival, .sent slowFetch, .sent quickFetch]
      ⟨some ⟨publishedSet, 1700000001, 1700000001⟩, 3,
        [quickFetch, slowFetch]⟩ :=
    (first.next (.sent 1700000301 examined (stale _ (by decide)))).next
      (.sent 1700000311 examined (stale _ (by decide)))
  have refused : Run (KeyStep 300) .start
      [.sent olderFetch, firstArrival, .sent slowFetch, .sent quickFetch,
        quickArrival, .refused 1700000313 examined (.unknownKey none)]
      ⟨some ⟨emptySet, 1700000312, 1700000312⟩, 3, [slowFetch]⟩ :=
    (bothSent.next
      (.arrived 1700000312 [] [slowFetch] quickFetch _ quickTaken)).next
        (.refused 1700000313 examined rfl)
  exact refused.next (.arrived 1700000314 [] [] slowFetch .unanswered rfl)

theorem stores_failing :
    KeyEvent.stores failing =
      [(olderFetch, publishedSet), (quickFetch, emptySet)] := by
  have firstStored :
      firstArrival.stored? = some (olderFetch, publishedSet) :=
    KeyEvent.stored?_of_find ofExchange_bodies.1 find_publishedSet.1
  have quickStored : quickArrival.stored? = some (quickFetch, emptySet) :=
    KeyEvent.stored?_of_find ofExchange_emptyBody rfl
  rw [KeyEvent.stores, failing, List.filterMap_cons_none rfl,
    List.filterMap_cons_some firstStored, List.filterMap_cons_none rfl,
    List.filterMap_cons_none rfl, List.filterMap_cons_some quickStored,
    List.filterMap_cons_none rfl, List.filterMap_cons_none rfl,
    List.filterMap_nil]

theorem neverGoesBack_failing : KeyEvent.NeverGoesBack failing := by
  rw [KeyEvent.NeverGoesBack, stores_failing]
  decide

end Sample

/-- A set is replaced by the answer to a fetch that was sent before its own, and
a token whose key is missing from it is accepted again. Where no set goes back,
such a token is still accepted by a call whose own fetch fails. -/
theorem key_set_goes_back :
    ExaminedToken.ofText Sample.token = .ok Sample.examined ∧
    Sample.emptySet.find Sample.examined.keyId = .ok none ∧
    (∃ state, Run (KeyStep 300) .start Sample.overtaking state ∧
      KeyEvent.stores Sample.overtaking =
        [(Sample.newerFetch, Sample.emptySet),
          (Sample.olderFetch, Sample.publishedSet)] ∧
      ¬ KeyEvent.NeverGoesBack Sample.overtaking ∧
      .served 1700000014 Sample.examined Sample.key ∈ Sample.overtaking ∧
      Sample.examined.judge Sample.provider.rules 1700000014 Sample.key =
        .ok Sample.claims) ∧
    ∃ state, Run (KeyStep 300) .start Sample.failing state ∧
      KeyEvent.stores Sample.failing =
        [(Sample.olderFetch, Sample.publishedSet),
          (Sample.quickFetch, Sample.emptySet)] ∧
      KeyEvent.NeverGoesBack Sample.failing ∧
      [Sample.quickArrival, .arrived 1700000314 Sample.slowFetch .unanswered
        (.ok Sample.key)].Sublist Sample.failing ∧
      Sample.examined.judge Sample.provider.rules 1700000314 Sample.key =
        .ok Sample.claims := by
  refine ⟨Sample.examined_token, rfl, ?_, ?_⟩
  · exact ⟨_, Sample.run_overtaking, Sample.stores_overtaking,
      Sample.not_neverGoesBack_overtaking, by simp [Sample.overtaking],
      Sample.judge_token _ (by decide)⟩
  · refine ⟨_, Sample.run_failing, Sample.stores_failing,
      Sample.neverGoesBack_failing, ?_, Sample.judge_token _ (by decide)⟩
    exact .cons _ (.cons _ (.cons _ (.cons _
      (.cons_cons _ (.cons _ (.refl _))))))

/-- The older fetch was overtaken, and was sent within the thirty seconds that a
fetch may take before the newer one. -/
theorem kept_set_of_overtaking :
    Run (KeyStep 300) .start Sample.overtaking
        ⟨some ⟨Sample.publishedSet, 1700000013, 1700000013⟩, 2, []⟩ ∧
      KeyEvent.Overtaken Sample.overtaking ∧
      Sample.newerFetch.sentAt ≤ Sample.olderFetch.sentAt + 30 := by
  have run := Sample.run_overtaking
  obtain ⟨-, ordered, -, -, bounded, -⟩ :=
    SharedKeys.kept_set_of_interleaving run
  have clock : (Sample.overtaking.map KeyEvent.time).Pairwise (· ≤ ·) := by
    decide
  have prompt : ∀ event ∈ Sample.overtaking, ∀ fetch,
      event.answered? = some fetch → event.time ≤ fetch.sentAt + 30 := by
    simp [Sample.overtaking, Sample.newerArrival, Sample.olderArrival,
      Sample.newerFetch, Sample.olderFetch, KeyEvent.answered?, KeyEvent.time]
  have within := bounded 30 clock prompt
  rw [Sample.stores_overtaking] at within
  refine ⟨run, ?_, ?_⟩
  · by_contra undisturbed
    exact Sample.not_neverGoesBack_overtaking (ordered.mpr undisturbed)
  · exact (List.pairwise_cons.mp within).1 _ List.mem_cons_self

end Gatekeeper
