/-
Module: ProtoCompanion.Registry.Position
Purpose: Places in the tree of a file's declarations.
Main exports: ElementList, Position, Place
-/
import ProtoCompanion.Schema.Comment

namespace ProtoCompanion

/-- The lists of declarations in a file.  The lists inside a message know the name of that message,
which becomes a part of the names of what is declared in them. -/
inductive ElementList where
  | messages
  | enums
  | services
  | fields
  | enumValues
  | methods
  | nestedMessages (enclosing : String)
  | nestedEnums (enclosing : String)
  | nestedOneofs (enclosing : String)
deriving Repr, DecidableEq, Inhabited

namespace ElementList

/-- The number of the list's field in the declaration that holds it. -/
def fieldNumber : ElementList → Int32
  | messages => 4
  | enums => 5
  | services => 6
  | fields => 2
  | enumValues => 2
  | methods => 2
  | nestedMessages _ => 3
  | nestedEnums _ => 4
  | nestedOneofs _ => 8

/-- The message that a nested list stands in. -/
def enclosing? : ElementList → Option String
  | nestedMessages name | nestedEnums name | nestedOneofs name => some name
  | _ => none

end ElementList

/-- A place in a file: the location path from the file, and the names of the messages around it,
outermost first. -/
structure Position where
  path : LocationPath := []
  outers : List String := []
deriving Repr, DecidableEq, Inhabited

namespace Position

/-- The list of a kind in the declaration at a position. -/
def inList (position : Position) (kind : ElementList) : Position where
  path := position.path ++ [kind.fieldNumber]
  outers := position.outers ++ kind.enclosing?.toList

/-- The element with an index in the list at a position. -/
def element (position : Position) (index : Nat) : Position :=
  { position with path := position.path ++ [Int32.ofNat index] }

end Position

/-- What can be entered from a position: a list of the declaration there, or an element of the list
there. -/
inductive Place where
  | list (kind : ElementList)
  | element (index : Nat)
deriving Repr, DecidableEq, Inhabited

/-- The position inside a place. -/
def Position.within (position : Position) : Place → Position
  | .list kind => position.inList kind
  | .element index => position.element index

end ProtoCompanion
