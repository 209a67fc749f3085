import Gatekeeper.Proofs.Target.Completion

/-!
# Variants of a path

What can be added to a path without a change of its object: a query or a
fragment, slashes behind the prefix, and segments behind the type and the id of
an object. What goes on from the prefix without a slash is not below it.
-/

namespace Gatekeeper

open Gatekeeper.Text

/-- A text starts a query or a fragment. -/
def StartsCut (text : String) : Prop :=
  text.toList.head? = some '?' ∨ text.toList.head? = some '#'

namespace TargetRules

variable {rules : TargetRules}

/-! ### Bare paths -/

/-- What is added to a bare path is added before the query only. -/
theorem barePath_append_of_bare {text : List Char}
    (bare : barePath text = text) (added : List Char) :
    barePath (text ++ added) = text ++ barePath added := by
  have whole : (text.takeWhile fun c => c ≠ '?' && c ≠ '#').length =
      text.length := congrArg List.length bare
  rw [barePath, List.takeWhile_append, if_pos whole]
  rfl

/-- What is added behind a query is cut off with it. -/
theorem barePath_append_of_cut {text : List Char}
    (cut : barePath text ≠ text) (added : List Char) :
    barePath (text ++ added) = barePath text := by
  have partly : (text.takeWhile fun c => c ≠ '?' && c ≠ '#').length ≠
      text.length := by
    intro whole
    exact cut ((List.takeWhile_prefix _).eq_of_length whole)
  rw [barePath, List.takeWhile_append, if_neg partly]
  rfl

theorem barePath_of_startsCut {cut : String} (starts : StartsCut cut) :
    barePath cut.toList = [] := by
  rcases starts with query | mark
  · obtain ⟨rest, isQuery⟩ := List.head?_eq_some_iff.mp query
    rw [isQuery]
    rfl
  · obtain ⟨rest, isMark⟩ := List.head?_eq_some_iff.mp mark
    rw [isMark]
    rfl

/-- A query and a fragment do not count. -/
theorem object_append_cut (rules : TargetRules) (path : String) {cut : String}
    (starts : StartsCut cut) :
    rules.object (path ++ cut) = rules.object path := by
  apply object_congr_segments?
  unfold segments?
  rw [String.toList_append]
  by_cases bare : barePath path.toList = path.toList
  · rw [barePath_append_of_bare bare, barePath_of_startsCut starts,
      List.append_nil, bare]
  · rw [barePath_append_of_cut bare]

/-! ### Slashes and segments -/

/-- The prefix without the slash that it ends in. -/
def lead (rules : TargetRules) : String :=
  if rules.pathPrefix = "/" then "" else rules.pathPrefix

theorem below?_lead_append (rules : TargetRules) (rest : List Char) :
    rules.below? (rules.lead.toList ++ rest) =
      if rules.pathPrefix = "/" ∨ rest = [] ∨ rest.head? = some '/' then
        some rest
      else
        none := by
  unfold below? lead
  by_cases root : rules.pathPrefix = "/"
  · simp [root]
  · have stripped : stripLead? rules.pathPrefix.toList
        (rules.pathPrefix.toList ++ rest) = some rest :=
      stripLead?_eq_some_iff.mpr rfl
    simp [root, stripped]

theorem segments_lead_congr {first second : List Char}
    (sameHead : first.head? = second.head?)
    (sameWords : words (· = '/') first = words (· = '/') second) :
    (rules.below? (rules.lead.toList ++ first)).map (words (· = '/')) =
      (rules.below? (rules.lead.toList ++ second)).map (words (· = '/')) := by
  rw [below?_lead_append, below?_lead_append]
  simp only [← List.head?_eq_none_iff, sameHead]
  split
  · rw [Option.map_some, Option.map_some, sameWords]
  · rfl

/-- A slash behind the prefix counts as much as two do. -/
theorem object_doubled_slash (rules : TargetRules) (before after : String) :
    rules.object (rules.lead ++ before ++ "//" ++ after) =
      rules.object (rules.lead ++ before ++ "/" ++ after) := by
  apply object_congr_segments?
  unfold segments?
  have doubled : (rules.lead ++ before ++ "//" ++ after).toList =
      (rules.lead.toList ++ before.toList) ++ '/' :: '/' :: after.toList := by
    simp
  have single : (rules.lead ++ before ++ "/" ++ after).toList =
      (rules.lead.toList ++ before.toList) ++ '/' :: after.toList := by
    simp
  rw [doubled, single]
  by_cases bare : barePath (rules.lead.toList ++ before.toList) =
      rules.lead.toList ++ before.toList
  · rw [barePath_append_of_bare bare, barePath_append_of_bare bare,
      List.append_assoc, List.append_assoc]
    have slash : decide ('/' = '/') = true := rfl
    show (rules.below? (rules.lead.toList ++
          (before.toList ++ '/' :: '/' :: barePath after.toList))).map
        (words (· = '/')) =
      (rules.below? (rules.lead.toList ++
          (before.toList ++ '/' :: barePath after.toList))).map
        (words (· = '/'))
    apply segments_lead_congr
    · simp [List.head?_append]
    · rw [words_append_separator slash, words_append_separator slash,
        words_cons_separator slash]
  · rw [barePath_append_of_cut bare, barePath_append_of_cut bare]

/-- What is added to a path below the prefix is added to what it has there,
unless it would lengthen the prefix. -/
theorem below?_append {bare rest added : List Char}
    (below : rules.below? bare = some rest)
    (starts : rest ≠ [] ∨ added.head? = some '/') :
    rules.below? (bare ++ added) = some (rest ++ added) := by
  rw [below?_eq_some_iff] at below ⊢
  rcases below with ⟨root, rfl⟩ | ⟨unrooted, rfl, ends⟩
  · exact .inl ⟨root, rfl⟩
  · refine .inr ⟨unrooted, List.append_assoc _ _ _, .inr ?_⟩
    rcases ends with rfl | slash
    · exact starts.resolve_left (not_not_intro rfl)
    · rw [List.head?_append, slash, Option.some_or]

/-- A path that lies below the prefix with a slash at its end lies there without
it, as the prefix itself does not end in one. -/
theorem IsCompleted.below?_of_append_slash (completed : rules.IsCompleted)
    {bare rest : List Char} (below : rules.below? (bare ++ ['/']) = some rest) :
    ∃ shorter, rules.below? bare = some shorter := by
  simp only [below?_eq_some_iff] at below ⊢
  rcases below with ⟨root, -⟩ | ⟨unrooted, written, ends⟩
  · exact ⟨bare, .inl ⟨root, rfl⟩⟩
  · rcases List.eq_nil_or_concat rest with rfl | ⟨shorter, last, rfl⟩
    · have slash := completed.trimmed.resolve_left unrooted
      rw [List.append_nil] at written
      rw [← written, List.getLast?_append] at slash
      exact absurd rfl slash
    · rw [List.concat_eq_append, ← List.append_assoc] at written
      refine ⟨shorter, .inr ⟨unrooted, (List.append_inj' written rfl).1, ?_⟩⟩
      cases shorter with
      | nil => exact .inl rfl
      | cons first others => exact ends.imp (by simp) id

/-- A slash at the end of a path does not count. -/
theorem IsCompleted.object_append_slash (completed : rules.IsCompleted)
    (path : String) : rules.object (path ++ "/") = rules.object path := by
  apply object_congr_segments?
  unfold segments?
  rw [String.toList_append]
  by_cases bare : barePath path.toList = path.toList
  · rw [barePath_append_of_bare bare, bare]
    cases below : rules.below? path.toList with
    | some rest =>
        have longer : rules.below? (path.toList ++ barePath "/".toList) =
            some (rest ++ ['/']) :=
          below?_append below (.inr rfl)
        rw [longer, Option.map_some, Option.map_some,
          words_append_separators (by simp)]
    | none =>
        have alsoElsewhere :
            rules.below? (path.toList ++ barePath "/".toList) = none := by
          cases longer : rules.below? (path.toList ++ ['/']) with
          | none => exact longer
          | some rest =>
              obtain ⟨shorter, alsoBelow⟩ :=
                completed.below?_of_append_slash longer
              rw [below] at alsoBelow
              cases alsoBelow
        rw [alsoElsewhere]
  · rw [barePath_append_of_cut bare]

/-- Segments behind those that name an object do not count. -/
theorem Names.append_segments {path : String} {kind id : List Char}
    (named : rules.Names path kind id) (more : String) :
    rules.Names (path ++ "/" ++ more) kind id := by
  obtain ⟨others, found⟩ := names_iff.mp named
  rw [names_iff]
  unfold segments? at found ⊢
  have split : (path ++ "/" ++ more).toList =
      path.toList ++ '/' :: more.toList := by
    simp
  rw [split]
  by_cases bare : barePath path.toList = path.toList
  · rw [bare] at found
    obtain ⟨rest, below, found⟩ := Option.map_eq_some_iff.mp found
    have nonempty : rest ≠ [] := by
      rintro rfl
      cases found
    rw [barePath_append_of_bare bare,
      below?_append below (.inl nonempty), Option.map_some]
    refine ⟨others ++ words (· = '/') (barePath more.toList), ?_⟩
    show some (words (· = '/') (rest ++ '/' :: barePath more.toList)) = _
    rw [words_append_separator rfl, found]
    rfl
  · rw [barePath_append_of_cut bare]
    exact ⟨others, found⟩

/-- A path that goes on from the prefix without a slash is not below it. -/
theorem object_of_longer_segment (unrooted : rules.pathPrefix ≠ "/")
    {character : Char} (unslashed : character ≠ '/')
    (uncut : character ≠ '?' ∧ character ≠ '#') (rest : List Char) :
    rules.object (rules.pathPrefix ++ String.ofList (character :: rest)) =
      rules.defaultObject := by
  apply object_of_nameless
  rintro ⟨kind, id, bare, below, following, others, isBare, isBelow, -⟩
  obtain ⟨cut, written, ends⟩ := isBare.cut
  rcases isBelow with ⟨root, -⟩ | ⟨-, rfl, belowEnds⟩
  · exact unrooted root
  · rw [String.toList_append, String.toList_ofList,
      List.append_assoc] at written
    have goesOn := List.append_cancel_left written
    rcases belowEnds with rfl | slash
    · rw [List.nil_append] at goesOn
      rw [← goesOn] at ends
      rcases ends with nothing | query | mark
      · cases nothing
      · exact uncut.1 (Option.some.inj query)
      · exact uncut.2 (Option.some.inj mark)
    · obtain ⟨tail, rfl⟩ := List.head?_eq_some_iff.mp slash
      exact unslashed (List.cons.inj goesOn).1

end TargetRules

end Gatekeeper
