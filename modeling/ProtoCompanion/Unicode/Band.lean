/-
Module: ProtoCompanion.Unicode.Band
Purpose: Evenly spaced runs of code points, the form in which the character tables are kept.
Main exports: Band, Band.contains, ShiftBand, ShiftBand.image?
-/

namespace ProtoCompanion.Unicode

/-- The code points `first`, `first + stride`, and so on up to `last`.  Letters that alternate
between upper and lower case have stride two. -/
structure Band where
  first : Nat
  last : Nat
  stride : Nat
deriving Repr, DecidableEq

/-- Membership of a code point in a band. -/
def Band.contains (band : Band) (code : Nat) : Bool :=
  band.first ≤ code && code ≤ band.last && (code - band.first) % band.stride == 0

/-- A code point belongs to a table when one of the bands holds it. -/
def inTable (table : List Band) (code : Nat) : Bool :=
  table.any fun band => band.contains code

/-- A band whose members are mapped, in order, to the code points from `target` on, with the same
distances between them. -/
structure ShiftBand extends Band where
  target : Nat
deriving Repr, DecidableEq

/-- The image of a member of the band, and nothing for any other code point. -/
def ShiftBand.image? (shift : ShiftBand) (code : Nat) : Option Nat :=
  if shift.contains code then some (shift.target + (code - shift.first)) else none

end ProtoCompanion.Unicode
