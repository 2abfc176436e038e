/-
Module: ProtoCompanion.Schema.Comment
Purpose: The comments of a file by location path, and their form as Java string expressions.
Main exports: CommentTable, CommentTable.ofSourceInfo, commentExpression
-/
import Std.Data.TreeMap
import ProtoCompanion.Text.Split
import ProtoCompanion.Schema.Declaration

namespace ProtoCompanion

/-- The path from a file to one of its elements: field numbers and list indices by turns. -/
abbrev LocationPath : Type := List Int32

/-! ## Table by path -/

/-- The comment of a location: what stands before the element, then what stands after it.  Detached
comments do not belong to the element. -/
def SourceLocation.comment? (location : SourceLocation) : Option String :=
  match location.leading?, location.trailing? with
  | none, none => none
  | leading, trailing => some (leading.getD "" ++ trailing.getD "")

/-- The comments of a file. -/
structure CommentTable where
  byPath : Std.TreeMap LocationPath String := ∅

namespace CommentTable

/-- Add the comment of a location, unless the location has none or its path has one already. -/
def add (table : CommentTable) (location : SourceLocation) : CommentTable :=
  match location.comment? with
  | none => table
  | some comment => ⟨table.byPath.insertIfNew location.path comment⟩

/-- The comments of a list of locations.  The first comment recorded for a path is kept. -/
def ofLocations (locations : List SourceLocation) : CommentTable :=
  locations.foldl add {}

/-- The comments in a file's source information. -/
def ofSourceInfo (info? : Option SourceInfo) : CommentTable :=
  ofLocations ((info?.map (·.locations)).getD [])

/-- The comment of the element at a path. -/
def get? (table : CommentTable) (path : LocationPath) : Option String := table.byPath[path]?

/-- The number of paths that have a comment. -/
def size (table : CommentTable) : Nat := table.byPath.size

end CommentTable

/-! ## Form in Java

A comment becomes a sum of string literals, one for each line that is not blank; every literal
but the last ends with an escaped line feed.
-/

/-- What stands between two lines: the end of one literal and the start of the next. -/
def literalBreak : List Char := "\\n\" + \"".toList

/-- The Java expression of a comment: the trimmed text is quoted as a whole, and then cut into
lines, which are trimmed and joined again without the blank ones. -/
def commentExpressionChars (comment : List Char) : List Char :=
  let quoted := '"' :: escapeQuotes (strip isBlank comment) ++ ['"']
  List.intercalate literalBreak
    (((split '\n' quoted).map (strip isBlank)).filter (· ≠ []))

/-- The Java expression of a comment, or of the empty text if there is none. -/
def commentExpression : Option String → String
  | none => "\"\""
  | some comment => Text.onChars commentExpressionChars comment

end ProtoCompanion
