/-
Module: ProtoCompanion.Registry.Session
Purpose: Registration by hand: a registry, an open file and a cursor in it, moved by single steps.
Main exports: Session, Action, Step, Step.perform, Step.performAll, Entry
-/
import ProtoCompanion.Registry.Registration

/-!
A session is for callers that walk through a file themselves.  What they register is taken to stand
where the cursor is.  A scoped step enters a list or an element, runs a body and leaves it again,
also when the body fails; the body stops at its first failure.  Every step leaves an entry in the
transcript, with its result and with the session after it.
-/

namespace ProtoCompanion

/-- A walk through an open file, with the declarations of the file. -/
structure Session extends Walk where
  unit : FileUnit
  file : FileDecl

namespace Session

/-- Open a file, with the cursor at its root. -/
def openFile (registry : Registry) (file : FileDecl) (settings : UnitSettings) : Session :=
  let (unit, registry) := registry.openFile file settings
  { registry, unit, file }

/-- The comment of the element under the cursor, if it has one. -/
def comment? (session : Session) : Option String :=
  session.unit.comments.get? session.cursor.path

/-- The rule of the method under the cursor, if it has one. -/
def httpRule? (session : Session) : Option HttpRule :=
  session.unit.httpRules.get? session.cursor.path

/-- Run a registration at the cursor. -/
def register {α : Type} (session : Session) (registration : FileUnit → Registering α) :
    Except Error α × Session :=
  match registration session.unit session.toWalk with
  | .ok value walk => (.ok value, { session with toWalk := walk })
  | .error error walk => (.error error, { session with toWalk := walk })

/-- Enter a list or an element. -/
def enter (session : Session) (place : Place) : Session :=
  { session with cursor := session.cursor.enter place }

/-- Leave a list or an element after a body.  A failure of the body hides one of leaving. -/
def leave {α : Type} (session : Session) (place : Place) (result : Except Error α) :
    Except Error α × Session :=
  let (left, cursor) := session.cursor.leave place
  (result.bind fun value => left.map fun _ => value, { session with cursor })

end Session

/-! ## Actions -/

/-- A step without a body.  Questions look at the session and answer with a value of type `β`. -/
inductive Action (β : Type) where
  | openFile (file : FileDecl) (settings : UnitSettings)
  | enter (place : Place)
  | leaveList
  | leaveElement
  | addFile
  | addMessage (decl : MessageDecl)
  | addEnum (decl : EnumDecl)
  | addOneof (decl : OneofDecl) (index : Nat)
  | addService (decl : ServiceDecl)
  | declare (name : String)
  | ask (question : Session → Except Error β)

/-- What a step that succeeds comes to. -/
inductive Outcome (β : Type) where
  | done
  | opened
  | added (declarations : TopLevel)
  | registered (descriptor : Descriptor)
  | answer (value : β)

namespace Action

variable {β : Type}

/-- Move the cursor in a way that may fail. -/
def moving (move : Cursor → Except Error Unit × Cursor) (session : Session) :
    Except Error (Outcome β) × Session :=
  let (moved, cursor) := move session.cursor
  (moved.map fun _ => .done, { session with cursor })

/-- Run a registration and name its outcome. -/
def registering {α : Type} (outcome : α → Outcome β)
    (registration : FileUnit → Registering α) (session : Session) :
    Except Error (Outcome β) × Session :=
  let (result, session) := session.register registration
  (result.map outcome, session)

/-- The result of an action, and the session after it. -/
def run (action : Action β) (session : Session) : Except Error (Outcome β) × Session :=
  match action with
  | openFile file settings => (.ok .opened, .openFile session.registry file settings)
  | enter place => (.ok .done, session.enter place)
  | leaveList => moving Cursor.leaveList session
  | leaveElement => moving Cursor.leaveElement session
  | addFile => registering .added (fun unit => Registering.file unit session.file) session
  | addMessage decl => registering .registered (fun unit => Registering.message unit decl) session
  | addEnum decl => registering .registered (fun unit => Registering.enum unit decl) session
  | addOneof decl index =>
      registering .registered (fun unit => Registering.oneof unit index decl) session
  | addService decl => registering .registered (fun unit => Registering.service unit decl) session
  | declare name =>
      registering (fun _ => .done) (fun unit => Registering.declare unit name) session
  | ask question => ((question session).map .answer, session)

end Action

/-! ## Steps -/

/-- A step of a session: an action, or a body inside a list or an element. -/
inductive Step (β : Type) where
  | act (action : Action β)
  | within (place : Place) (body : List (Step β))

/-- The trace of a step: its result, the entries of its body, and the session after it. -/
inductive Entry (β : Type) where
  | mk (result : Except Error (Outcome β)) (body? : Option (List (Entry β))) (after : Session)

namespace Entry

variable {β : Type}

def result : Entry β → Except Error (Outcome β)
  | .mk result _ _ => result

def body? : Entry β → Option (List (Entry β))
  | .mk _ body? _ => body?

def after : Entry β → Session
  | .mk _ _ after => after

end Entry

namespace Step

variable {β : Type}

mutual

/-- Perform one step. -/
def perform (session : Session) : Step β → Entry β
  | .act action =>
      let (result, after) := action.run session
      .mk result none after
  | .within place body =>
      let (result, entries, inside) := performBody (session.enter place) body
      let (result, after) := inside.leave place result
      .mk result (some entries) after

/-- Perform the steps of a body up to the first that fails.  The answer is the first failure, if
there is one, with the entries and the session after the last step performed. -/
def performBody (session : Session) :
    List (Step β) → Except Error (Outcome β) × List (Entry β) × Session
  | [] => (.ok .done, [], session)
  | step :: rest =>
      let entry := perform session step
      match entry.result with
      | .error error => (.error error, [entry], entry.after)
      | .ok _ =>
          let (result, entries, after) := performBody entry.after rest
          (result, entry :: entries, after)

end

/-- Perform steps one after the other, also after failures. -/
def performAll (session : Session) : List (Step β) → List (Entry β)
  | [] => []
  | step :: rest =>
      let entry := step.perform session
      entry :: performAll entry.after rest

end Step

end ProtoCompanion
