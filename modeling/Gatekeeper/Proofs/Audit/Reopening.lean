import Gatekeeper.Audit.Trail
import Gatekeeper.Proofs.Audit.Lines
import Gatekeeper.Proofs.FileTree

/-!
# Reopening an audit file

What appending leaves in a file over any number of openings. Opening changes
nothing that the file holds, and appending only adds lines behind it. How the
old content ends is never looked at: where its last line was cut off, the first
record is written behind what is left of that line.
-/

namespace Gatekeeper

open Gatekeeper.Text

namespace FileTree

variable {tree : FileTree} {location : List String}

theorem bytesAt_of_content {bytes : List UInt8}
    (holds : tree.entry? location = some (.content bytes)) :
    tree.bytesAt location = bytes := by
  rw [bytesAt, holds]

end FileTree

/-! ### A file that is appended to -/

open FileTree

/-- A path leads to a file of a tree that agrees with another tree outside of
that file. -/
structure FileTree.Extends (before : FileTree) (path : String)
    (location : List String) (after : FileTree) : Prop where
  located : after.locate path = .ok location
  holds : after.entry? location = some (.content (after.bytesAt location))
  elsewhere : ∀ other ≠ location, after.entry? other = before.entry? other

namespace FileTree.Extends

variable {before after : FileTree} {path : String} {location : List String}

theorem belowRoot (extended : before.Extends path location after) :
    location ≠ [] := by
  rintro rfl
  cases extended.holds

theorem reopens (extended : before.Extends path location after) :
    after.openToAppend path = .ok (location, after) := by
  simp only [openToAppend, extended.located]
  rw [extended.holds]

theorem put (extended : before.Extends path location after)
    (bytes : List UInt8) :
    before.Extends path location (after.put location (.content bytes)) := by
  have apart : after.entry? location ≠ some .directory := by
    simp [extended.holds]
  have holds := entry?_put_same extended.belowRoot after (.content bytes)
  constructor
  · exact locate_put apart extended.located
  · rw [holds, bytesAt_of_content holds]
  · intro other different
    rw [entry?_put_of_ne different]
    exact extended.elsewhere other different

end FileTree.Extends

/-- Opening a file finds it as it is, or makes an empty one. -/
theorem FileTree.extends_of_openToAppend {files opened : FileTree}
    {path : String} {location : List String}
    (opens : files.openToAppend path = .ok (location, opened)) :
    files.Extends path location opened ∧
      opened.bytesAt location = files.bytesAt location := by
  unfold openToAppend at opens
  cases located : files.locate path with
  | error error =>
      rw [located] at opens
      cases opens
  | ok found =>
      simp only [located] at opens
      cases here : files.entry? found with
      | some held =>
          rw [here] at opens
          cases held with
          | directory => cases opens
          | content bytes =>
              obtain ⟨rfl, rfl⟩ := Prod.mk.inj (Except.ok.inj opens)
              refine ⟨⟨located, ?_, fun _ _ => rfl⟩, rfl⟩
              rw [here, bytesAt_of_content here]
      | none =>
          have belowRoot : found ≠ [] := by
            rintro rfl
            cases here
          have apart : files.entry? found ≠ some .directory := by simp [here]
          have holds := entry?_put_same belowRoot files (.content [])
          rw [here] at opens
          cases above : files.entry? found.dropLast with
          | none =>
              rw [above] at opens
              cases opens
          | some held =>
              rw [above] at opens
              cases held with
              | content bytes => cases opens
              | directory =>
                  obtain ⟨rfl, rfl⟩ := Prod.mk.inj (Except.ok.inj opens)
                  refine ⟨⟨locate_put apart located, ?_, ?_⟩, ?_⟩
                  · rw [holds, bytesAt_of_content holds]
                  · intro other elsewhere
                    exact entry?_put_of_ne elsewhere
                  · rw [bytesAt_of_content holds, bytesAt, here]

/-! ### Sessions -/

namespace AuditDestination

/-- Open an audit file and append records to it. -/
def session (path : String) (records : List DecisionRecord) (files : FileTree) :
    Except AuditFileFault FileTree :=
  match openFile files path with
  | .error fault => .error fault
  | .ok (destination, files) =>
      .ok (destination.sink.offers records ⟨files, []⟩).files

/-- Open an audit file again and again, and append records each time. -/
def sessions (path : String) :
    List (List DecisionRecord) → FileTree → Except AuditFileFault FileTree
  | [], files => .ok files
  | records :: rest, files =>
      match session path records files with
      | .error fault => .error fault
      | .ok files => sessions path rest files

variable {before files : FileTree} {path : String} {location : List String}

theorem offers_file (extended : before.Extends path location files)
    (records : List DecisionRecord) (lines : List (Severity × String)) :
    let trail := (AuditDestination.file location).sink.offers records
      ⟨files, lines⟩
    before.Extends path location trail.files ∧
      trail.files.bytesAt location =
        files.bytesAt location ++ AuditSink.linesOf records := by
  induction records generalizing files with
  | nil =>
      refine ⟨extended, ?_⟩
      exact (List.append_nil _).symm
  | cons record records ih =>
      have holds := entry?_put_same extended.belowRoot files (.content
        (files.bytesAt location ++ AuditSink.lineBytes record ++
          [AuditSink.lineFeed]))
      obtain ⟨others, added⟩ := ih (extended.put _)
      refine ⟨others, added.trans ?_⟩
      rw [bytesAt_of_content holds, AuditSink.linesOf, AuditSink.linesOf,
        List.flatMap_cons, List.append_assoc, List.append_assoc,
        List.append_assoc]

theorem session_of_openToAppend {opened : FileTree}
    (opens : files.openToAppend path = .ok (location, opened))
    (records : List DecisionRecord) :
    ∃ after, session path records files = .ok after ∧
      files.Extends path location after ∧
      after.bytesAt location =
        files.bytesAt location ++ AuditSink.linesOf records := by
  obtain ⟨extended, same⟩ := extends_of_openToAppend opens
  obtain ⟨kept, added⟩ := offers_file extended records []
  refine ⟨_, ?_, kept, ?_⟩
  · rw [session, openFile, opens]
  · rw [added, same]

/-- However the records are split over sessions, the file holds its old content
with the lines of all of them behind it. -/
theorem sessions_of_openToAppend {opened : FileTree}
    (opens : files.openToAppend path = .ok (location, opened))
    (histories : List (List DecisionRecord)) :
    ∃ after, sessions path histories files = .ok after ∧
      after.bytesAt location =
        files.bytesAt location ++ AuditSink.linesOf histories.flatten ∧
      ∀ other ≠ location, after.entry? other = files.entry? other := by
  induction histories generalizing files opened with
  | nil => exact ⟨files, rfl, (List.append_nil _).symm, fun _ _ => rfl⟩
  | cons records histories ih =>
      obtain ⟨next, ran, extended, added⟩ :=
        session_of_openToAppend opens records
      obtain ⟨after, ranOn, addedOn, elsewhere⟩ := ih extended.reopens
      refine ⟨after, ?_, ?_, ?_⟩
      · rw [sessions, ran]
        exact ranOn
      · rw [addedOn, added, List.flatten_cons, AuditSink.linesOf,
          AuditSink.linesOf, AuditSink.linesOf, List.flatMap_append,
          List.append_assoc]
      · intro other different
        rw [elsewhere other different, extended.elsewhere other different]

end AuditDestination

/-! ### Lines of a file -/

namespace AuditSink

/-- The lines of a file that a line feed ends. -/
def endedLines (bytes : List UInt8) : List (List UInt8) :=
  (bytes.splitOn lineFeed).dropLast

/-- What stands behind the last line feed of a file. -/
def cutLine (bytes : List UInt8) : List UInt8 :=
  (bytes.splitOn lineFeed).getLast (List.splitOn_ne_nil _ _)

/-- The lines of records behind the start of a line. -/
def linesBehind (start : List UInt8) :
    List DecisionRecord → List (List UInt8)
  | [] => []
  | record :: records =>
      (start ++ lineBytes record) :: records.map lineBytes

theorem linesBehind_nil (records : List DecisionRecord) :
    linesBehind [] records = records.map lineBytes := by
  cases records with
  | nil => rfl
  | cons record records =>
      rw [linesBehind, List.nil_append, List.map_cons]

/-- What follows without a line feed goes on with the last line. -/
theorem splitOn_append (bytes rest : List UInt8) (unbroken : lineFeed ∉ rest) :
    (bytes ++ rest).splitOn lineFeed =
      endedLines bytes ++ [cutLine bytes ++ rest] := by
  have split : ∃ ended cut, bytes.splitOn lineFeed = ended ++ [cut] ∧
      (bytes ++ rest).splitOn lineFeed = ended ++ [cut ++ rest] := by
    induction bytes with
    | nil =>
        exact ⟨[], [], List.splitOn_nil _, List.splitOn_eq_singleton unbroken⟩
    | cons byte bytes ih =>
        obtain ⟨ended, cut, whole, longer⟩ := ih
        rw [List.cons_append, List.splitOn_cons_eq_if_modifyHead,
          List.splitOn_cons_eq_if_modifyHead, whole, longer]
        split
        · exact ⟨[] :: ended, cut, rfl, rfl⟩
        · cases ended with
          | nil => exact ⟨[], byte :: cut, rfl, rfl⟩
          | cons first ended => exact ⟨(byte :: first) :: ended, cut, rfl, rfl⟩
  obtain ⟨ended, cut, whole, longer⟩ := split
  simp [endedLines, cutLine, whole, longer]

theorem cutLine_eq_nil_iff (bytes : List UInt8) :
    cutLine bytes = [] ↔ bytes = [] ∨ bytes.getLast? = some lineFeed := by
  rcases List.eq_nil_or_concat bytes with rfl | ⟨front, last, rfl⟩
  · simp [cutLine]
  · by_cases ends : last = lineFeed
    · subst ends
      simp [cutLine, List.splitOn_append_cons_self]
    · have split := splitOn_append front [last]
        (by simpa using fun same => ends same.symm)
      simp [cutLine, split, ends]

theorem endedLines_append (bytes : List UInt8)
    (records : List DecisionRecord) :
    endedLines (bytes ++ linesOf records) =
      endedLines bytes ++ linesBehind (cutLine bytes) records := by
  cases records with
  | nil => simp [linesOf, linesBehind]
  | cons record records =>
      have whole : bytes ++ linesOf (record :: records) =
          (bytes ++ lineBytes record) ++ lineFeed :: linesOf records := by
        simp [linesOf]
      rw [endedLines, whole, List.splitOn_append_cons_self, splitOn_linesOf,
        splitOn_append _ _ (lineFeed_not_mem_lineBytes record),
        ← List.append_assoc, List.dropLast_concat, linesBehind]
      simp

/-- Records stand on lines of their own exactly when they begin a line. -/
theorem lines_suffix_iff (bytes : List UInt8) (records : List DecisionRecord) :
    records.map lineBytes <:+ endedLines (bytes ++ linesOf records) ↔
      records = [] ∨ bytes = [] ∨ bytes.getLast? = some lineFeed := by
  rw [endedLines_append, ← cutLine_eq_nil_iff]
  cases records with
  | nil => simp
  | cons record records =>
      simp only [reduceCtorEq, false_or]
      constructor
      · intro own
        have behind := List.suffix_append (endedLines bytes)
          ((cutLine bytes ++ lineBytes record) :: records.map lineBytes)
        have same := (List.suffix_of_suffix_length_le own behind
          (by simp)).eq_of_length (by simp)
        obtain ⟨first, -⟩ := List.cons.inj same
        exact List.self_eq_append_left.mp first
      · intro uncut
        rw [uncut, linesBehind_nil]
        exact List.suffix_append _ _

end AuditSink

namespace AuditDestination

open AuditSink

/-- An audit file that can be opened holds its old content with the lines of all
records behind it, however many sessions they are split over, and no other file
changes. The first record continues the last line of the old content. So the
records stand on lines of their own exactly when there are none or the old
content is empty or ends with a line feed. -/
theorem reopened_file {files opened : FileTree} {path : String}
    {location : List String}
    (opens : files.openToAppend path = .ok (location, opened))
    (histories : List (List DecisionRecord)) :
    ∃ after, sessions path histories files = .ok after ∧
      let records := histories.flatten
      let previous := files.bytesAt location
      let present := after.bytesAt location
      present = previous ++ linesOf records ∧
        (∀ other ≠ location, after.entry? other = files.entry? other) ∧
        endedLines present =
          endedLines previous ++ linesBehind (cutLine previous) records ∧
        (records.map lineBytes <:+ endedLines present ↔
          records = [] ∨ previous = [] ∨
            previous.getLast? = some lineFeed) := by
  obtain ⟨after, ran, added, elsewhere⟩ :=
    sessions_of_openToAppend opens histories
  refine ⟨after, ran, added, elsewhere, ?_, ?_⟩
  · rw [added]
    exact endedLines_append _ _
  · rw [added]
    exact lines_suffix_iff _ _

end AuditDestination

/-! ### A line that was cut off -/

namespace Sample

def location : List String := ["work", "audit.log"]

def denied (requestId : String) : DecisionRecord :=
  ⟨requestId, .deny, .credentialMissing, .normal, .start, 1700000000, none,
    none, "viewer", "document:roadmap", none⟩

/-- What a crash left of a line. -/
def cut : String := "\x7b\"request_id\":\"cut"

def cutFiles : FileTree :=
  FileTree.empty.put location (.content (Utf8.encode cut))

/-- Where the path leads, that what is left of the line has no line feed, and
that it makes no document with the line of the next record behind it. -/
theorem cut_readings :
    FileTree.empty.locate "audit.log" = .ok location ∧
      cutFiles.locate "audit.log" = .ok location ∧
      AuditSink.endedLines (Utf8.encode cut) = [] ∧
      AuditSink.cutLine (Utf8.encode cut) = Utf8.encode cut ∧
      Utf8.encode cut ≠ [] ∧
      (Json.Document.read? ((cut.toList ++
        (denied "first").toJson.render).map some)).isNone = true := by
  decide +kernel

theorem opens_new : FileTree.empty.openToAppend "audit.log" =
    .ok (location, FileTree.empty.put location (.content [])) := by
  simp only [FileTree.openToAppend, cut_readings.1]
  rfl

theorem opens_cut : cutFiles.openToAppend "audit.log" =
    .ok (location, cutFiles) := by
  simp only [FileTree.openToAppend, cut_readings.2.1]
  rfl

theorem ofLine?_joined :
    DecisionRecord.ofLine?
      (Utf8.encode cut ++ AuditSink.lineBytes (denied "first")) = none := by
  obtain ⟨-, -, -, -, -, unread⟩ := cut_readings
  have text : symbols (cut ++ AuditSink.line (denied "first")) =
      (cut.toList ++ (denied "first").toJson.render).map some := by
    rw [symbols, String.toList_append, AuditSink.line, Json.compact,
      String.toList_ofList]
  rw [AuditSink.lineBytes, ← Utf8.encode_append, DecisionRecord.ofLine?,
    Utf8.decode_encode, text, Option.isNone_iff_eq_none.mp unread]

end Sample

/-- Of a file whose last line was cut off, the next record makes one line with
what is left, and no record is read from that line. -/
theorem record_joins_cut_line :
    ∃ after,
      AuditDestination.sessions "audit.log" [[Sample.denied "first"]]
          Sample.cutFiles = .ok after ∧
        AuditSink.endedLines (after.bytesAt Sample.location) =
          [Utf8.encode Sample.cut ++
            AuditSink.lineBytes (Sample.denied "first")] ∧
        (AuditSink.endedLines (after.bytesAt Sample.location)).map
            DecisionRecord.ofLine? = [none] ∧
        ¬ [Sample.denied "first"].map AuditSink.lineBytes <:+
          AuditSink.endedLines (after.bytesAt Sample.location) := by
  obtain ⟨-, -, noLine, whole, nonempty, -⟩ := Sample.cut_readings
  obtain ⟨after, ran, added, -⟩ := AuditDestination.sessions_of_openToAppend
    Sample.opens_cut [[Sample.denied "first"]]
  have previous :
      Sample.cutFiles.bytesAt Sample.location = Utf8.encode Sample.cut := rfl
  have ended : AuditSink.endedLines (after.bytesAt Sample.location) =
      [Utf8.encode Sample.cut ++
        AuditSink.lineBytes (Sample.denied "first")] := by
    rw [added, previous, AuditSink.endedLines_append, noLine, whole,
      List.flatten_singleton, AuditSink.linesBehind, List.map_nil,
      List.nil_append]
  refine ⟨after, ran, ended, ?_, ?_⟩
  · rw [ended, List.map_singleton, Sample.ofLine?_joined]
  · rw [added, previous, List.flatten_singleton, AuditSink.lines_suffix_iff,
      ← AuditSink.cutLine_eq_nil_iff, whole]
    simp [nonempty]

/-- A file that is new, over two sessions. -/
theorem reopened_file_of_sample :
    ∃ after,
      FileTree.empty.openToAppend "audit.log" = .ok (Sample.location,
          FileTree.empty.put Sample.location (.content [])) ∧
        AuditDestination.sessions "audit.log"
          [[Sample.denied "first"], [Sample.denied "second"]]
          FileTree.empty = .ok after ∧
        AuditSink.endedLines (after.bytesAt Sample.location) =
          [AuditSink.lineBytes (Sample.denied "first"),
            AuditSink.lineBytes (Sample.denied "second")] := by
  obtain ⟨after, ran, -, -, ended, -⟩ := AuditDestination.reopened_file
    Sample.opens_new [[Sample.denied "first"], [Sample.denied "second"]]
  have previous : FileTree.empty.bytesAt Sample.location = [] := rfl
  have nothing : AuditSink.endedLines [] = [] ∧ AuditSink.cutLine [] = [] := by
    decide
  refine ⟨after, Sample.opens_new, ran, ?_⟩
  rw [ended, previous, nothing.1, nothing.2, AuditSink.linesBehind_nil]
  rfl

end Gatekeeper
