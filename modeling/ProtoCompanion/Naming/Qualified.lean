/-
Module: ProtoCompanion.Naming.Qualified
Purpose: Dotted names, and the styles in which a generator writes the names of types.
Main exports: Naming.dotted, Naming.directory, Naming.NameStyle
-/
import ProtoCompanion.Text.Blank

namespace ProtoCompanion.Naming

/-- The style in which a generator writes the names of types.  It is applied to single names as well
as to qualified ones. -/
abbrev NameStyle : Type := String → String

/-- A segment without dots at its ends. -/
def trimDots : String → String := Text.onChars (strip (· == '.'))

/-- Join segments by dots.  Dots at the ends of a segment are dropped first, and segments without
anything left are passed over, so that no empty part appears at a joint. -/
def dotted (segments : List String) : String :=
  ".".intercalate ((segments.map trimDots).filter (· ≠ ""))

/-- A package as a directory. -/
def directory : String → String :=
  Text.onChars (List.map fun c => if c = '.' then '/' else c)

end ProtoCompanion.Naming
