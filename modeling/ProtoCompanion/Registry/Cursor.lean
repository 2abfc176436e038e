/-
Module: ProtoCompanion.Registry.Cursor
Purpose: A position that is moved step by step, by entering and leaving lists and elements.
Main exports: Cursor, Cursor.enter, Cursor.leaveList, Cursor.leaveElement, Cursor.leave
-/
import ProtoCompanion.Error
import ProtoCompanion.Registry.Position

/-!
A cursor keeps a record for each list and element that was entered and not yet left.  Leaving one
takes the innermost record away, also when the record is of the other sort; in that case the path
and the names stay as they are, and a fault is reported.
-/

namespace ProtoCompanion

/-- The record of a list or element that was entered.  A nested list has added a name. -/
inductive Scope where
  | list (nested : Bool)
  | element
deriving Repr, DecidableEq, Inhabited

/-- The record that is kept of a place. -/
def Scope.ofPlace : Place → Scope
  | .list kind => .list kind.enclosing?.isSome
  | .element _ => .element

/-- A position with the records of what was entered, the innermost first. -/
structure Cursor extends Position where
  scopes : List Scope := []
deriving Repr, DecidableEq, Inhabited

namespace Cursor

/-- Enter a list or an element. -/
def enter (cursor : Cursor) (place : Place) : Cursor where
  toPosition := cursor.toPosition.within place
  scopes := .ofPlace place :: cursor.scopes

/-- Remove the last component of the path. -/
def popPath (cursor : Cursor) : Except Error Unit × Cursor :=
  if cursor.path = [] then (.error (.traversal .emptyPath), cursor)
  else (.ok (), { cursor with path := cursor.path.dropLast })

/-- Leave the current list. -/
def leaveList (cursor : Cursor) : Except Error Unit × Cursor :=
  match cursor.scopes with
  | [] => (.error (.traversal .listEndWithoutStart), cursor)
  | .element :: scopes => (.error (.traversal .listEndInElement), { cursor with scopes })
  | .list false :: scopes => { cursor with scopes }.popPath
  | .list true :: scopes =>
      if cursor.outers = [] then (.error (.traversal .emptyNames), { cursor with scopes })
      else { cursor with scopes, outers := cursor.outers.dropLast }.popPath

/-- Leave the current element. -/
def leaveElement (cursor : Cursor) : Except Error Unit × Cursor :=
  match cursor.scopes with
  | [] => (.error (.traversal .elementEndWithoutStart), cursor)
  | .list _ :: scopes => (.error (.traversal .elementEndInList), { cursor with scopes })
  | .element :: scopes => { cursor with scopes }.popPath

/-- Leave what is taken to be a place that was entered. -/
def leave (cursor : Cursor) : Place → Except Error Unit × Cursor
  | .list _ => cursor.leaveList
  | .element _ => cursor.leaveElement

end Cursor

end ProtoCompanion
