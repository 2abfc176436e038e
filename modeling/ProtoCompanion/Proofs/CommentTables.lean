/-
Module: ProtoCompanion.Proofs.CommentTables
Purpose: What the table of a file's comments holds after its locations were recorded.
Main exports: SourceLocation.isCommented, SourceLocation.text, CommentTable.get?_ofLocations,
  CommentTable.ofLocations_filter, CommentTable.size_ofLocations, commentedPaths,
  comments_of_first_commented_locations
-/
import Mathlib.Data.Finset.Card
import Mathlib.Data.List.Induction
import ProtoCompanion.Schema.Comment

/-!
Locations are recorded one by one, and a comment stays once its path has it.  The table after any
number of locations is told by a search through them in order: a path has the comment of the first
location with this path that is commented at all.  A location without a comment leaves no trace, and
the size counts each path of a commented location once.
-/

namespace ProtoCompanion

/-! ## Comments of one location -/

/-- A comment stands before or after the element of the location. -/
def SourceLocation.isCommented (location : SourceLocation) : Bool :=
  location.leading?.isSome || location.trailing?.isSome

/-- What stands before the element, followed by what stands after it. -/
def SourceLocation.text (location : SourceLocation) : String :=
  location.leading?.getD "" ++ location.trailing?.getD ""

theorem SourceLocation.comment?_eq (location : SourceLocation) :
    location.comment? = if location.isCommented then some location.text else none := by
  obtain ⟨path, leading?, trailing?, detached⟩ := location
  cases leading? <;> cases trailing? <;> rfl

/-- The locations that were recorded for a file, in order. -/
def recordedLocations (info? : Option SourceInfo) : List SourceLocation :=
  (info?.map (·.locations)).getD []

/-- The paths at which there is a comment, each as often as there is one. -/
def commentedPaths (locations : List SourceLocation) : List LocationPath :=
  (locations.filter (·.isCommented)).map (·.path)

namespace CommentTable

/-! ## One more location -/

theorem get?_add (table : CommentTable) (location : SourceLocation) (path : LocationPath) :
    (table.add location).get? path =
      (table.get? path).or
        (if location.isCommented && location.path = path then some location.text else none) := by
  rw [add, location.comment?_eq]
  cases location.isCommented with
  | false => simp [get?]
  | true =>
      simp only [if_true, Bool.true_and, decide_eq_true_eq, get?, Std.TreeMap.getElem?_insertIfNew,
        Std.compare_eq_iff_eq]
      by_cases samePath : location.path = path
      · rw [samePath]
        by_cases known : path ∈ table.byPath
        · rw [Std.TreeMap.getElem?_eq_some_getElem known]
          simp [known]
        · rw [Std.TreeMap.getElem?_eq_none known]
          simp [known]
      · simp [samePath]

theorem add_of_not_commented (table : CommentTable) {location : SourceLocation}
    (silent : location.isCommented = false) : table.add location = table := by
  simp [add, location.comment?_eq, silent]

theorem size_add (table : CommentTable) {location : SourceLocation}
    (commented : location.isCommented = true) :
    (table.add location).size =
      if (table.get? location.path).isSome then table.size else table.size + 1 := by
  simp only [add, location.comment?_eq, commented, if_true, size, get?,
    Std.TreeMap.size_insertIfNew, Std.TreeMap.isSome_getElem?_eq_contains,
    Std.TreeMap.contains_iff_mem]

/-! ## All locations -/

/-- A comment that is in the table stays; a path without one gets the first that is recorded. -/
theorem get?_foldl_add (locations : List SourceLocation) (table : CommentTable)
    (path : LocationPath) :
    (locations.foldl add table).get? path =
      (table.get? path).or
        ((locations.find? fun location => location.isCommented && location.path = path).map
          SourceLocation.text) := by
  induction locations generalizing table with
  | nil => simp
  | cons location rest ih =>
      rw [List.foldl_cons, ih, get?_add, List.find?_cons, Option.or_assoc]
      cases location.isCommented && decide (location.path = path) <;> simp

theorem get?_ofLocations (locations : List SourceLocation) (path : LocationPath) :
    (ofLocations locations).get? path =
      (locations.find? fun location => location.isCommented && location.path = path).map
        SourceLocation.text := by
  have empty : get? {} path = none := Std.TreeMap.getElem?_emptyc
  simpa [empty, ofLocations] using get?_foldl_add locations {} path

theorem isSome_get?_ofLocations (locations : List SourceLocation) (path : LocationPath) :
    ((ofLocations locations).get? path).isSome ↔ path ∈ commentedPaths locations := by
  simp [get?_ofLocations, commentedPaths, and_assoc]

/-- A path that has a comment keeps it, whatever is recorded later. -/
theorem get?_ofLocations_append {locations : List SourceLocation} {path : LocationPath}
    {text : String} (found : (ofLocations locations).get? path = some text)
    (more : List SourceLocation) : (ofLocations (locations ++ more)).get? path = some text := by
  have later := get?_foldl_add more (ofLocations locations) path
  rw [found, Option.some_or, ofLocations, ← List.foldl_append] at later
  exact later

/-- The table is that of the commented locations alone. -/
theorem ofLocations_filter (locations : List SourceLocation) :
    ofLocations (locations.filter (·.isCommented)) = ofLocations locations := by
  rw [ofLocations, List.foldl_filter, ofLocations]
  congr 1
  funext table location
  split
  · rfl
  · rename_i silent
    exact (table.add_of_not_commented (by simpa using silent)).symm

/-- The induction is from the end of the list, so that the path of the last location is counted
against those before it. -/
theorem size_ofLocations (locations : List SourceLocation) :
    (ofLocations locations).size = (commentedPaths locations).toFinset.card := by
  induction locations using List.reverseRecOn with
  | nil => rfl
  | append_singleton init last ih =>
      have step : ofLocations (init ++ [last]) = (ofLocations init).add last :=
        List.foldl_append
      cases commented : last.isCommented with
      | false =>
          have paths : commentedPaths (init ++ [last]) = commentedPaths init := by
            simp [commentedPaths, commented]
          rw [step, add_of_not_commented _ commented, ih, paths]
      | true =>
          have paths : (commentedPaths (init ++ [last])).toFinset =
              insert last.path (commentedPaths init).toFinset := by
            ext path
            simp [commentedPaths, commented]
          simp only [step, size_add _ commented, isSome_get?_ofLocations, ih, paths,
            Finset.card_insert_eq_ite, List.mem_toFinset]

end CommentTable

/-- A path has the comment of the first location in order that has this path and a comment before or
after it, and none if there is no such location.  Locations without a comment do not count, so they
hide no later one.  As many comments are in the table as there are different paths of commented
locations, and further locations change no comment that a path already has. -/
theorem comments_of_first_commented_locations (info? : Option SourceInfo) :
    (∀ path, (CommentTable.ofSourceInfo info?).get? path =
      ((recordedLocations info?).find? fun location =>
        location.isCommented && location.path = path).map SourceLocation.text) ∧
    CommentTable.ofSourceInfo (some ⟨(recordedLocations info?).filter (·.isCommented)⟩) =
      CommentTable.ofSourceInfo info? ∧
    (CommentTable.ofSourceInfo info?).size =
      (commentedPaths (recordedLocations info?)).toFinset.card ∧
    ∀ more path text, (CommentTable.ofSourceInfo info?).get? path = some text →
      (CommentTable.ofSourceInfo (some ⟨recordedLocations info? ++ more⟩)).get? path =
        some text :=
  ⟨CommentTable.get?_ofLocations _, CommentTable.ofLocations_filter _,
    CommentTable.size_ofLocations _, fun more _ _ found =>
      CommentTable.get?_ofLocations_append found more⟩

/-- A location without a comment and a second comment for the same path: neither counts. -/
theorem first_comment_kept_when_recorded_again :
    let info : SourceInfo := ⟨[
      { path := [4, 0] },
      { path := [4, 0], leading? := some " before\n", trailing? := some " after\n" }]⟩
    let again : SourceLocation := { path := [4, 0], leading? := some " again\n" }
    (CommentTable.ofSourceInfo (some info)).get? [4, 0] = some " before\n after\n" ∧
      (CommentTable.ofSourceInfo (some ⟨info.locations ++ [again]⟩)).get? [4, 0] =
        some " before\n after\n" := by
  intro info again
  obtain ⟨byFirst, -, -, kept⟩ := comments_of_first_commented_locations (some info)
  have found : (CommentTable.ofSourceInfo (some info)).get? [4, 0] = some " before\n after\n" := by
    rw [byFirst]
    decide
  exact ⟨found, kept [again] [4, 0] _ found⟩

end ProtoCompanion
