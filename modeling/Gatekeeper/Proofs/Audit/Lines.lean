import Gatekeeper.Proofs.Decision.Coherence
import Gatekeeper.Proofs.Json.Writing
import Gatekeeper.Proofs.Lookup
import Gatekeeper.Proofs.Text.Utf8

/-!
# Audit lines

What the lines of an audit trail tell. A line is read as JSON, and its members
give back the record that was written, absent ones staying absent. Escaping
keeps line feeds out of a line, so a text of lines has one line for each record
in their order, and the records can be told from the text.
-/

namespace Gatekeeper

open Gatekeeper.Json
open Gatekeeper.Text

/-! ### Names -/

/-- The value that a name stands for. -/
def valueNamed? {Value : Type} (name : Value → String) (values : List Value)
    (text : String) : Option Value :=
  values.find? fun value => name value = text

def Decision.ofName? : String → Option Decision :=
  valueNamed? name [allow, deny, denyFallbackUnavailable]

def Reason.ofName? : String → Option Reason :=
  valueNamed? name
    (invalidTarget :: unresolved ++ answered ++ unanswered)

def Severity.ofName? : String → Option Severity :=
  valueNamed? name [normal, elevated]

def Stage.ofName? : String → Option Stage :=
  valueNamed? name [start, identityResolved, queryIssued, fallbackEvaluated]

theorem Decision.ofName?_name (decision : Decision) :
    ofName? decision.name = some decision := by
  cases decision <;> decide

theorem Reason.ofName?_name (reason : Reason) :
    ofName? reason.name = some reason := by
  cases reason <;> decide

theorem Severity.ofName?_name (severity : Severity) :
    ofName? severity.name = some severity := by
  cases severity <;> decide

theorem Stage.ofName?_name (stage : Stage) :
    ofName? stage.name = some stage := by
  cases stage <;> decide

/-! ### Reading records -/

namespace Json.Document

def boolean? : Document → Option Bool
  | .boolean value => some value
  | _ => none

/-- A natural number, written without a fraction or an exponent. -/
def natural? : Document → Option Nat
  | .number ⟨false, whole, none, none⟩ => some (digitsValue 10 whole)
  | _ => none

/-- A member that has to be there. -/
def required? {Value : Type} (read : Document → Option Value)
    (members : List (String × Document)) (name : String) : Option Value :=
  (members.lookup name).bind read

/-- A member that may be left out. One that is there has to be readable. -/
def optional? {Value : Type} (read : Document → Option Value)
    (members : List (String × Document)) (name : String) :
    Option (Option Value) :=
  match members.lookup name with
  | none => some none
  | some document => (read document).map some

end Json.Document

namespace DecisionRecord

def ofMembers? (members : List (String × Document)) :
    Option DecisionRecord := do
  let text := Document.required? Document.text? members
  let requestId ← text "request_id"
  let decision ← (text "decision").bind Decision.ofName?
  let reason ← (text "reason").bind Reason.ofName?
  let severity ← (text "severity").bind Severity.ofName?
  let stage ← (text "stage").bind Stage.ofName?
  let timestamp ← Document.required? Document.natural? members "timestamp"
  let backendReachable ←
    Document.optional? Document.boolean? members "backend_reachable"
  let principal ← Document.optional? Document.text? members "principal"
  let relation ← text "relation"
  let object ← text "object"
  let detail ← Document.optional? Document.text? members "detail"
  return {
    requestId, decision, reason, severity, stage, timestamp, backendReachable,
    principal, relation, object, detail }

/-- The record of a line: an object that gives no member twice. -/
def ofLine? (line : List UInt8) : Option DecisionRecord :=
  match Document.read? (Utf8.decode line) with
  | some (.object members) =>
      (Document.namedMembers? members).bind fun named =>
        if (named.map Prod.fst).Nodup then ofMembers? named else none
  | _ => none

end DecisionRecord

/-! ### Reading back -/

namespace Json

variable {members : Members} {documents : List (String × Document)}
  {name : String}

theorem WrittenAs.text? {text : String} {document : Document}
    (written : WrittenAs (.string text) document) :
    document.text? = some text := by
  cases written with
  | string text => exact unitsText?_unitsOf text

theorem WrittenAs.boolean? {value : Bool} {document : Document}
    (written : WrittenAs (.boolean value) document) :
    document.boolean? = some value := by
  cases written with
  | boolean value => rfl

theorem WrittenAs.natural? {value : Nat} {document : Document}
    (written : WrittenAs (.nat value) document) :
    document.natural? = some value := by
  cases written with
  | natural value => exact congrArg some (digitsValue_decimalDigits value)

/-- A name is looked up in the written members as in the members. -/
theorem lookup_written
    (same : List.Forall₂ MemberWrittenAs members documents) (name : String) :
    Option.Rel WrittenAs (members.lookup name) (documents.lookup name) := by
  induction same with
  | nil => exact .none
  | @cons member written members documents first rest ih =>
      obtain ⟨key, value⟩ := member
      obtain ⟨writtenKey, document⟩ := written
      obtain ⟨named, valueWritten⟩ := first
      obtain rfl : writtenKey = key := named
      simp only [List.lookup_cons]
      cases name == writtenKey with
      | false => exact ih
      | true => exact .some valueWritten

theorem map_fst_written
    (same : List.Forall₂ MemberWrittenAs members documents) :
    documents.map Prod.fst = members.map Prod.fst := by
  induction same with
  | nil => rfl
  | cons first rest ih => simp only [List.map_cons, first.1, ih]

theorem exists_written
    (plain : ∀ member ∈ members, ∃ document, WrittenAs member.2 document) :
    ∃ documents, List.Forall₂ MemberWrittenAs members documents := by
  induction members with
  | nil => exact ⟨[], .nil⟩
  | cons member members ih =>
      rw [List.forall_mem_cons] at plain
      obtain ⟨document, written⟩ := plain.1
      obtain ⟨documents, others⟩ := ih plain.2
      exact ⟨(member.1, document) :: documents, .cons ⟨rfl, written⟩ others⟩

section Members

variable {Value : Type} {read : Document → Option Value}
  {render : Value → Json}

theorem Document.required?_written
    (same : List.Forall₂ MemberWrittenAs members documents)
    (reads : ∀ value document, WrittenAs (render value) document →
      read document = some value)
    {value : Value} (held : members.lookup name = some (render value)) :
    required? read documents name = some value := by
  have found := lookup_written same name
  rw [held] at found
  unfold required?
  generalize documents.lookup name = document at found ⊢
  cases found with
  | some written => exact reads value _ written

theorem Document.optional?_written
    (same : List.Forall₂ MemberWrittenAs members documents)
    (reads : ∀ value document, WrittenAs (render value) document →
      read document = some value)
    {value : Option Value} (held : members.lookup name = value.map render) :
    optional? read documents name = some value := by
  have found := lookup_written same name
  rw [held] at found
  unfold optional?
  generalize documents.lookup name = document at found ⊢
  cases value with
  | none =>
      cases found with
      | none => rfl
  | some value =>
      cases found with
      | some written => exact congrArg (Option.map some) (reads value _ written)

end Members

end Json

namespace DecisionRecord

theorem lookup_presentMember_append {name : String} {rest : Members}
    (absent : rest.lookup name = none) (other : String) (value : Option Json) :
    (presentMember name value ++ rest).lookup other =
      if other = name then value else rest.lookup other := by
  cases value with
  | none =>
      by_cases same : other = name
      · simp [presentMember, same, absent]
      · simp [presentMember, same]
  | some value => rw [presentMember, List.singleton_append, lookup_cons_eq_ite]

theorem exists_written_members (record : DecisionRecord) :
    ∃ documents, List.Forall₂ MemberWrittenAs record.members documents := by
  have present {Value : Type} (name : String) (value : Option Value)
      (render : Value → Json)
      (plain : ∀ value, ∃ document, WrittenAs (render value) document) :
      ∀ member ∈ presentMember name (value.map render),
        ∃ document, WrittenAs member.2 document := by
    cases value with
    | none => exact List.forall_mem_nil _
    | some value => exact List.forall_mem_singleton.mpr (plain value)
  have text (text : String) : ∃ document, WrittenAs (.string text) document :=
    ⟨_, .string text⟩
  apply exists_written
  simp only [members, List.forall_mem_append, List.forall_mem_cons]
  refine ⟨⟨⟨⟨?_, ?_⟩, ?_⟩, ?_⟩, ?_⟩
  · exact ⟨text _, text _, text _, text _, text _, ⟨_, .natural _⟩,
      List.forall_mem_nil _⟩
  · exact present _ _ _ fun value => ⟨_, .boolean value⟩
  · exact present _ _ _ text
  · exact ⟨text _, text _, List.forall_mem_nil _⟩
  · exact present _ _ _ text

theorem members_nodup (record : DecisionRecord) :
    (record.members.map Prod.fst).Nodup := by
  have present (name : String) (value : Option Json) :
      ((presentMember name value).map Prod.fst).Sublist [name] := by
    cases value <;> simp [presentMember]
  have listed : (record.members.map Prod.fst).Sublist
      (["request_id", "decision", "reason", "severity", "stage", "timestamp"] ++
        ["backend_reachable"] ++ ["principal"] ++ ["relation", "object"] ++
        ["detail"]) := by
    simp only [members, List.map_append, List.map_cons, List.map_nil]
    exact ((((List.Sublist.refl _).append (present _ _)).append
      (present _ _)).append (List.Sublist.refl _)).append (present _ _)
  exact listed.nodup (by decide)

/-- Every member is found under its name, and nothing is found under the name
of one that is left out. -/
theorem lookup_members (record : DecisionRecord) (name : String) :
    record.members.lookup name =
      if name = "request_id" then some (.string record.requestId)
      else if name = "decision" then some (.string record.decision.name)
      else if name = "reason" then some (.string record.reason.name)
      else if name = "severity" then some (.string record.severity.name)
      else if name = "stage" then some (.string record.stage.name)
      else if name = "timestamp" then some (.nat record.timestamp)
      else if name = "backend_reachable" then
        record.backendReachable.map .boolean
      else if name = "principal" then record.principal.map .string
      else if name = "relation" then some (.string record.relation)
      else if name = "object" then some (.string record.object)
      else if name = "detail" then record.detail.map .string
      else none := by
  have detail (other : String) :
      (presentMember "detail" (record.detail.map .string)).lookup other =
        if other = "detail" then record.detail.map .string else none := by
    simpa using lookup_presentMember_append List.lookup_nil other
      (record.detail.map .string)
  simp only [members, List.append_assoc, List.cons_append, List.nil_append,
    lookup_cons_eq_ite]
  rw [lookup_presentMember_append, lookup_presentMember_append]
  · simp only [lookup_cons_eq_ite, detail]
  · simp [lookup_cons_eq_ite, detail]
  · rw [lookup_presentMember_append] <;> simp [lookup_cons_eq_ite, detail]

theorem ofMembers?_written (record : DecisionRecord)
    {documents : List (String × Document)}
    (same : List.Forall₂ MemberWrittenAs record.members documents) :
    ofMembers? documents = some record := by
  have text {name value : String}
      (held : record.members.lookup name = some (.string value)) :
      Document.required? Document.text? documents name = some value :=
    Document.required?_written same (fun _ _ written => written.text?) held
  have optionalText {name : String} {value : Option String}
      (held : record.members.lookup name = value.map .string) :
      Document.optional? Document.text? documents name = some value :=
    Document.optional?_written same (fun _ _ written => written.text?) held
  have requestId := text (lookup_members record "request_id")
  have decision := text (lookup_members record "decision")
  have reason := text (lookup_members record "reason")
  have severity := text (lookup_members record "severity")
  have stage := text (lookup_members record "stage")
  have relation := text (lookup_members record "relation")
  have object := text (lookup_members record "object")
  have timestamp := Document.required?_written same
    (fun _ _ written => WrittenAs.natural? written)
    (lookup_members record "timestamp")
  have backendReachable := Document.optional?_written same
    (fun _ _ written => WrittenAs.boolean? written)
    (lookup_members record "backend_reachable")
  have principal := optionalText (lookup_members record "principal")
  have detail := optionalText (lookup_members record "detail")
  simp [ofMembers?, requestId, decision, reason, severity, stage, timestamp,
    backendReachable, principal, relation, object, detail,
    Decision.ofName?_name, Reason.ofName?_name, Severity.ofName?_name,
    Stage.ofName?_name]

theorem ofLine?_lineBytes (record : DecisionRecord) :
    ofLine? (AuditSink.lineBytes record) = some record := by
  obtain ⟨documents, same⟩ := record.exists_written_members
  have distinct : (documents.map Prod.fst).Nodup := by
    rw [map_fst_written same]
    exact record.members_nodup
  have read : Document.read? (Utf8.decode (AuditSink.lineBytes record)) =
      some (.object (documents.map quotedName)) := by
    rw [AuditSink.lineBytes, Utf8.decode_encode]
    exact read?_compact same
  simp only [ofLine?, read, namedMembers?_quotedName, Option.bind_some,
    if_pos distinct]
  exact ofMembers?_written record same

end DecisionRecord

/-! ### Texts of lines -/

/-- A text of lines that each end in a separator, split at the separators. What
follows the last one is a part of its own. -/
theorem splitOn_flatMap_append {Item Symbol : Type} [BEq Symbol]
    [LawfulBEq Symbol] {separator : Symbol} {written : Item → List Symbol}
    (unbroken : ∀ item, separator ∉ written item) (items : List Item)
    (rest : List Symbol) :
    (items.flatMap (fun item => written item ++ [separator]) ++ rest).splitOn
        separator =
      items.map written ++ rest.splitOn separator := by
  induction items with
  | nil => rfl
  | cons item items ih =>
      rw [List.flatMap_cons, List.append_assoc, List.append_assoc,
        List.singleton_append,
        List.splitOn_append_cons_self_of_not_mem (unbroken item), ih]
      rfl

namespace AuditSink

theorem lineFeed_not_mem_line (record : DecisionRecord) :
    '\n' ∉ (line record).toList := by
  obtain ⟨documents, same⟩ := record.exists_written_members
  exact lineFeed_not_mem_compact same

theorem lineFeed_not_mem_lineBytes (record : DecisionRecord) :
    lineFeed ∉ lineBytes record :=
  Utf8.lineFeed_not_mem_encode (lineFeed_not_mem_line record)

theorem map_ofLine?_lineBytes (records : List DecisionRecord) :
    (records.map lineBytes).map DecisionRecord.ofLine? = records.map some := by
  rw [List.map_map]
  apply List.map_congr_left
  intro record _
  rw [Function.comp_apply, record.ofLine?_lineBytes]

theorem lineBytes_injective : Function.Injective lineBytes := by
  intro first second same
  have read := first.ofLine?_lineBytes
  rw [same, second.ofLine?_lineBytes] at read
  exact (Option.some.inj read).symm

theorem line_injective : Function.Injective line :=
  fun _ _ same => lineBytes_injective (congrArg Utf8.encode same)

variable {Store Entry : Type} {sink : AuditSink Store}
  {entries : Store → List Entry} {written : DecisionRecord → List Entry}

/-- Offer records one after the other. -/
def offers (sink : AuditSink Store) (records : List DecisionRecord)
    (store : Store) : Store :=
  records.foldl (fun store record => sink.offer record store) store

theorem Keeps.entries_offers (keeps : sink.Keeps entries written)
    (records : List DecisionRecord) (store : Store) :
    entries (sink.offers records store) =
      entries store ++ records.flatMap written := by
  induction records generalizing store with
  | nil => simp [offers]
  | cons record records ih =>
      calc
        entries (sink.offers (record :: records) store) =
            entries (sink.offer record store) ++ records.flatMap written :=
          ih (sink.offer record store)
        _ = entries store ++ (record :: records).flatMap written := by
          rw [keeps.entries_offer, List.flatMap_cons, List.append_assoc]

/-- The text that records leave in a file. -/
def linesOf (records : List DecisionRecord) : List UInt8 :=
  records.flatMap fun record => lineBytes record ++ [lineFeed]

theorem file_offers (records : List DecisionRecord) (bytes : List UInt8) :
    file.offers records bytes = bytes ++ linesOf records :=
  keeps_file.entries_offers records bytes

theorem log_offers (records : List DecisionRecord)
    (lines : List (Severity × String)) :
    (log.offers records lines).map Prod.snd =
      lines.map Prod.snd ++ records.map line := by
  have kept := keeps_log.entries_offers records lines
  rw [← List.map_eq_flatMap, id_eq, id_eq] at kept
  rw [kept, List.map_append, List.map_map]
  rfl

theorem splitOn_linesOf (records : List DecisionRecord) :
    (linesOf records).splitOn lineFeed = records.map lineBytes ++ [[]] := by
  have split := splitOn_flatMap_append lineFeed_not_mem_lineBytes records []
  rwa [List.append_nil, List.splitOn_nil] at split

theorem linesOf_injective : Function.Injective linesOf := by
  intro first second same
  have lines : first.map lineBytes ++ [[]] = second.map lineBytes ++ [[]] := by
    rw [← splitOn_linesOf, same, splitOn_linesOf]
  exact lineBytes_injective.list_map (List.append_cancel_right lines)

end AuditSink

theorem Collaborators.evaluations_offers {State Store : Type}
    (collaborators : Collaborators State) (sink : AuditSink Store)
    (policy : FallbackPolicy) (requests : List (Nat × AccessRequest))
    (state : State) (store : Store) :
    let run := collaborators.evaluations sink policy requests state store
    run.2.2 = sink.offers
      (run.1.map fun evaluation => evaluation.verdict.record) store := by
  intro run
  rw [AuditSink.offers, List.foldl_map]
  exact evaluations_store policy requests state store

/-- A line holds no line feed and gives back its record, members that are absent
included. So the text that records leave in a file has one line for each of them
in their order, whatever their texts hold, and no other records leave the same
text behind the same bytes. The lines in a log tell the records apart as well.
Over a run of evaluations there is one line for each request. -/
theorem AuditSink.lines_tell_records :
    (∀ record : DecisionRecord,
      '\n' ∉ (line record).toList ∧ lineFeed ∉ lineBytes record ∧
        DecisionRecord.ofLine? (lineBytes record) = some record) ∧
      (∀ records : List DecisionRecord,
        let parts := (file.offers records []).splitOn lineFeed
        parts = records.map lineBytes ++ [[]] ∧
          parts.dropLast.map DecisionRecord.ofLine? = records.map some) ∧
      (∀ bytes : List UInt8,
        Function.Injective fun records => file.offers records bytes) ∧
      (∀ lines : List (Severity × String),
        Function.Injective fun records =>
          (log.offers records lines).map Prod.snd) ∧
      ∀ (State : Type) (collaborators : Collaborators State)
        (policy : FallbackPolicy) (requests : List (Nat × AccessRequest))
        (state : State),
        let run := collaborators.evaluations file policy requests state []
        let records := run.1.map fun evaluation => evaluation.verdict.record
        let parts := run.2.2.splitOn lineFeed
        records.length = requests.length ∧
          parts = records.map lineBytes ++ [[]] ∧
          parts.dropLast.map DecisionRecord.ofLine? = records.map some := by
  have readable (records : List DecisionRecord) :
      let parts := (file.offers records []).splitOn lineFeed
      parts = records.map lineBytes ++ [[]] ∧
        parts.dropLast.map DecisionRecord.ofLine? = records.map some := by
    intro parts
    have split : parts = records.map lineBytes ++ [[]] := by
      rw [← splitOn_linesOf, ← List.nil_append (linesOf records), ← file_offers]
    refine ⟨split, ?_⟩
    rw [split, List.dropLast_concat, map_ofLine?_lineBytes]
  refine ⟨?_, readable, ?_, ?_, ?_⟩
  · intro record
    exact ⟨lineFeed_not_mem_line record, lineFeed_not_mem_lineBytes record,
      record.ofLine?_lineBytes⟩
  · intro bytes first second same
    simp only [file_offers] at same
    exact linesOf_injective (List.append_cancel_left same)
  · intro lines first second same
    simp only [log_offers] at same
    exact line_injective.list_map (List.append_cancel_left same)
  · intro State collaborators policy requests state run records
    have stored : run.2.2 = file.offers records [] :=
      collaborators.evaluations_offers file policy requests state []
    rw [stored]
    refine ⟨?_, readable records⟩
    rw [List.length_map]
    exact Collaborators.length_evaluations policy requests state []

end Gatekeeper
