import Gatekeeper.FileTree
import Gatekeeper.Proofs.Lookup
import Gatekeeper.Proofs.Text.Utf8

/-!
# File trees

What an entry of a tree can change. Where an entry is put, nothing else is
touched, and where no directory was, no path leads elsewhere than before. What
is in a file is seen by whoever reads it and by nobody else: two trees that
differ in the texts of their files have the same paths, and directories are made
alike in both.
-/

namespace Gatekeeper

open Gatekeeper.Text

namespace FileTree

/-! ### An entry that is put -/

variable {tree : FileTree} {location other : List String} {entry : FileEntry}

theorem entry?_put_same (belowRoot : location ≠ []) (tree : FileTree)
    (entry : FileEntry) :
    entry? (tree.put location entry) location = some entry := by
  simp [put, entry?, belowRoot]

theorem entry?_put_of_ne (elsewhere : other ≠ location) :
    entry? (tree.put location entry) other = tree.entry? other := by
  have apart : (other == location) = false := beq_eq_false_iff_ne.mpr elsewhere
  simp only [put, entry?, List.lookup_cons, apart,
    lookup_filter_of_ne elsewhere]

/-- Where a name leads from a directory. -/
def follow (location : List String) (name : String) : List String :=
  if name = "." then location
  else if name = ".." then location.dropLast
  else location ++ [name]

theorem walk_cons_eq_ok_iff {start found : List String} {name : String}
    {names : List String} :
    tree.walk start (name :: names) = .ok found ↔
      tree.entry? start = some .directory ∧
        utf8Length name.toList ≤ PathText.maxNameLength ∧
        tree.walk (follow start name) names = .ok found := by
  rw [walk]
  cases tree.entry? start with
  | none => simp
  | some held =>
      cases held with
      | content bytes => simp
      | directory =>
          by_cases long : PathText.maxNameLength < utf8Length name.toList
          · simp [long, Nat.not_le.mpr long]
          · simp only [long, Nat.not_lt.mp long, if_false, follow, true_and,
              apply_ite fun place => tree.walk place names]

/-- A walk goes through directories only, so it does not see what is put where
there is none. -/
theorem walk_put {start found : List String} {names : List String}
    (apart : tree.entry? location ≠ some .directory)
    (walked : tree.walk start names = .ok found) :
    (tree.put location entry).walk start names = .ok found := by
  induction names generalizing start with
  | nil => exact walked
  | cons name names ih =>
      rw [walk_cons_eq_ok_iff] at walked ⊢
      obtain ⟨isDirectory, fits, rest⟩ := walked
      have elsewhere : start ≠ location := by
        rintro rfl
        exact apart isDirectory
      rw [entry?_put_of_ne elsewhere]
      exact ⟨isDirectory, fits, ih rest⟩

theorem locate_put {path : String} {found : List String}
    (apart : tree.entry? location ≠ some .directory)
    (located : tree.locate path = .ok found) :
    (tree.put location entry).locate path = .ok found := by
  unfold locate at located ⊢
  cases fault : PathText.fault? path with
  | some error =>
      rw [fault] at located
      cases located
  | none =>
      rw [fault] at located
      by_cases empty : path.isEmpty
      · simp [empty] at located
      · simp only [empty] at located ⊢
        exact walk_put apart located

end FileTree

/-! ### Trees that differ in texts -/

/-- Two trees that differ at most in the texts of their files. -/
structure FileTree.Alike (tree other : FileTree) : Prop where
  working : tree.working = other.working
  entries : ∀ location, tree.entry? location = other.entry? location ∨
    ∃ text otherText, tree.entry? location = some (.file text) ∧
      other.entry? location = some (.file otherText)

namespace FileTree

theorem entry?_put (tree : FileTree) (location place : List String)
    (entry : FileEntry) :
    entry? (tree.put location entry) place =
      if place = [] then some .directory
      else if place = location then some entry
      else tree.entry? place := by
  by_cases isRoot : place = []
  · simp [isRoot, entry?]
  · by_cases same : place = location
    · subst same
      rw [entry?_put_same isRoot, if_neg isRoot, if_pos rfl]
    · rw [entry?_put_of_ne same, if_neg isRoot, if_neg same]

namespace Alike

variable {tree other : FileTree}

theorem refl (tree : FileTree) : tree.Alike tree :=
  ⟨rfl, fun _ => .inl rfl⟩

theorem put (alike : tree.Alike other) (location : List String)
    (entry : FileEntry) :
    (tree.put location entry).Alike (other.put location entry) where
  working := alike.working
  entries place := by
    rw [entry?_put, entry?_put]
    split
    · exact .inl rfl
    · split
      · exact .inl rfl
      · exact alike.entries place

/-- Paths lead through directories only, so they lead to the same places. -/
theorem walk_eq (alike : tree.Alike other) (start names : List String) :
    tree.walk start names = other.walk start names := by
  induction names generalizing start with
  | nil => rfl
  | cons name names ih =>
      rcases alike.entries start with same | ⟨text, otherText, here, there⟩
      · simp only [walk, ih, same]
      · simp only [walk, here, there, FileEntry.file]

theorem locate_eq (alike : tree.Alike other) (path : String) :
    tree.locate path = other.locate path := by
  simp only [locate, base, alike.working, alike.walk_eq]

theorem find (alike : tree.Alike other) (path : String) :
    tree.find path = other.find path ∨
      ∃ text otherText, tree.find path = .ok (.file text) ∧
        other.find path = .ok (.file otherText) := by
  simp only [FileTree.find, alike.locate_eq]
  cases other.locate path with
  | error error => exact .inl rfl
  | ok location =>
      rcases alike.entries location with same | ⟨text, otherText, here, there⟩
      · simp only [same, true_or]
      · exact .inr ⟨text, otherText, by simp only [here], by simp only [there]⟩

theorem pathExists_eq (alike : tree.Alike other) (path : String) :
    tree.pathExists path = other.pathExists path := by
  unfold pathExists
  rcases alike.find path with same | ⟨text, otherText, here, there⟩
  · rw [same]
  · rw [here, there]

theorem readText (alike : tree.Alike other) (path : String) :
    tree.readText path = other.readText path ∨
      ∃ text otherText, tree.readText path = .ok text ∧
        other.readText path = .ok otherText := by
  unfold FileTree.readText FileTree.read
  rcases alike.find path with same | ⟨text, otherText, here, there⟩
  · exact .inl (by rw [same])
  · refine .inr ⟨text, otherText, ?_, ?_⟩
    · simp only [here, FileEntry.file, Utf8.decode?_encode]
    · simp only [there, FileEntry.file, Utf8.decode?_encode]

/-! Directories are made alike. -/

theorem isDirectory_eq (alike : tree.Alike other) (isAbsolute : Bool)
    (names : List String) :
    tree.isDirectory isAbsolute names = other.isDirectory isAbsolute names := by
  unfold isDirectory
  simp only [base, alike.working, alike.walk_eq]
  cases other.walk (if isAbsolute = true then [] else other.working) names with
  | error error => rfl
  | ok location =>
      rcases alike.entries location with same | ⟨text, otherText, here, there⟩
      · simp only [same]
      · simp [here, there, FileEntry.file]

theorem makeDirectory (alike : tree.Alike other) (isAbsolute : Bool)
    (names : List String) :
    (∃ error, tree.makeDirectory isAbsolute names = .error error ∧
      other.makeDirectory isAbsolute names = .error error) ∨
    ∃ made otherMade, tree.makeDirectory isAbsolute names = .ok made ∧
      other.makeDirectory isAbsolute names = .ok otherMade ∧
      made.Alike otherMade := by
  unfold FileTree.makeDirectory
  simp only [base, alike.working, alike.walk_eq]
  cases other.walk (if isAbsolute = true then [] else other.working) names with
  | error error => exact .inl ⟨error, rfl, rfl⟩
  | ok location =>
      rcases alike.entries location with same | ⟨text, otherText, here, there⟩
      · simp only [same]
        cases other.entry? location with
        | some entry => exact .inl ⟨.alreadyExists, rfl, rfl⟩
        | none =>
            dsimp only
            rcases alike.entries location.dropLast with
              same | ⟨text, otherText, above, otherAbove⟩
            · rw [same]
              cases other.entry? location.dropLast with
              | none => exact .inl ⟨.notFound, rfl, rfl⟩
              | some entry =>
                  cases entry with
                  | directory =>
                      exact .inr ⟨_, _, rfl, rfl, alike.put location .directory⟩
                  | content bytes => exact .inl ⟨.notDirectory, rfl, rfl⟩
            · simp only [above, otherAbove, FileEntry.file]
              exact .inl ⟨.notDirectory, rfl, rfl⟩
      · simp only [here, there]
        exact .inl ⟨.alreadyExists, rfl, rfl⟩

theorem makeDirectories (isAbsolute : Bool) {written above : List String}
    {tree other : FileTree} (alike : tree.Alike other) :
    (FileTree.makeDirectories isAbsolute written above tree).1 =
        (FileTree.makeDirectories isAbsolute written above other).1 ∧
      (FileTree.makeDirectories isAbsolute written above tree).2.Alike
        (FileTree.makeDirectories isAbsolute written above other).2 := by
  induction above generalizing written tree other with
  | nil => exact ⟨rfl, alike⟩
  | cons name above ih =>
      simp only [FileTree.makeDirectories]
      rcases alike.makeDirectory isAbsolute written with
        ⟨error, here, there⟩ | ⟨made, otherMade, here, there, madeAlike⟩
      · rw [here, there]
        cases error with
        | notFound =>
            -- The directories above are made first, and then this one again.
            have aboveMade := @ih above.reverse _ _ alike
            revert aboveMade
            rcases FileTree.makeDirectories isAbsolute above.reverse above tree
              with ⟨fault, tree⟩
            rcases FileTree.makeDirectories isAbsolute above.reverse above other
              with ⟨otherFault, other⟩
            rintro ⟨rfl : fault = otherFault, aboveAlike⟩
            cases fault with
            | some error => exact ⟨rfl, aboveAlike⟩
            | none =>
                rcases aboveAlike.makeDirectory isAbsolute written with
                  ⟨error, here, there⟩ | ⟨made, otherMade, here, there, alike⟩
                · simp only [here, there, aboveAlike.isDirectory_eq, true_and]
                  exact aboveAlike
                · simp only [here, there, true_and]
                  exact alike
        | _ => exact ⟨by simp only [alike.isDirectory_eq], alike⟩
      · rw [here, there]
        exact ⟨rfl, madeAlike⟩

theorem ensureDirectory (alike : tree.Alike other) (path : String) :
    (tree.ensureDirectory path).1 = (other.ensureDirectory path).1 ∧
      (tree.ensureDirectory path).2.Alike (other.ensureDirectory path).2 := by
  unfold FileTree.ensureDirectory
  rw [alike.pathExists_eq]
  by_cases present : other.pathExists path
  · rw [if_pos present, if_pos present]
    exact ⟨rfl, alike⟩
  · rw [if_neg present, if_neg present]
    cases PathText.fault? path with
    | some error => exact ⟨rfl, alike⟩
    | none => exact makeDirectories _ alike

end Alike

end FileTree

end Gatekeeper
