/-
Module: ProtoCompanion.Registry.Registration
Purpose: Registration of the declarations of a file.
Main exports: Walk, Registering, Registering.within, Registering.file, Registering.message,
  Registering.enum, Registering.oneof, Registering.service, TopLevel, registerFile
-/
import ProtoCompanion.Registry.Cursor
import ProtoCompanion.Registry.Table

/-!
A file is registered in one walk: its enums, then its messages, then its services.  What is nested
in a message comes before the message itself: nested messages, nested enums, oneofs.  The walk
stops at the first declaration that cannot be registered, and what was registered before stays.

The walk moves one cursor through the file.  A declaration gets the names around it, its comment
and its HTTP rules from where the cursor is at that moment.
-/

namespace ProtoCompanion

open Naming (accessorName)

/-- A walk through a file: the registry that it extends, and where it is. -/
structure Walk where
  registry : Registry := {}
  cursor : Cursor := {}

/-- Steps of registration: they extend the registry, also when they fail later. -/
abbrev Registering : Type → Type := EStateM Error Walk

namespace Registering

/-! ## Moving the cursor -/

/-- Enter a list or an element, run a body there and leave it again, also when the body fails.  A
failure of the body hides one of leaving. -/
def within {α : Type} (place : Place) (body : Registering α) : Registering α := fun walk =>
  match body { walk with cursor := walk.cursor.enter place } with
  | .ok value inside =>
      match inside.cursor.leave place with
      | (.ok (), cursor) => .ok value { inside with cursor }
      | (.error error, cursor) => .error error { inside with cursor }
  | .error error inside => .error error { inside with cursor := (inside.cursor.leave place).2 }

/-- Visit each element of the current list, of which the first has a given index. -/
def each {α β : Type} (visit : Nat → α → Registering β) (index : Nat) :
    List α → Registering (List β)
  | [] => return []
  | x :: xs => do
      let first ← within (.element index) (visit index x)
      let others ← each visit (index + 1) xs
      return first :: others

/-- Visit the elements of a list in the declaration at the cursor. -/
def inList {α β : Type} (kind : ElementList) (visit : Nat → α → Registering β) (xs : List α) :
    Registering (List β) :=
  within (.list kind) (each visit 0 xs)

/-! ## What is found at the cursor -/

/-- The comment of the element at the cursor. -/
def comment (unit : FileUnit) : Registering String := do
  return unit.commentAt (← get).cursor.path

/-- The HTTP rule of the method at the cursor. -/
def httpRule? (unit : FileUnit) : Registering (Option HttpRule) := do
  return unit.httpRules.get? (← get).cursor.path

/-! ## Names and references -/

/-- A step on the outer classes of a file, whose state is kept in the registry. -/
def onOuterClass {α : Type} (unit : FileUnit) (step : EStateM Error Bool α) : Registering α :=
  fun walk =>
    match step (walk.registry.hasCollision unit) with
    | .ok value collided =>
        .ok value { walk with registry := walk.registry.setCollision unit collided }
    | .error error collided =>
        .error error { walk with registry := walk.registry.setCollision unit collided }

/-- Check the name of the declaration at the cursor against the outer classes of its file.  The
symbol that the declaration gets is numbered like the registration that comes next. -/
def declare (unit : FileUnit) (name : String) : Registering Symbol := do
  onOuterClass unit (unit.outerClass.accept name)
  let walk ← get
  return { serial := walk.registry.registrations, name, outers := walk.cursor.outers, unit }

/-- Enter a finished descriptor into the registry. -/
def enter (descriptor : Descriptor) : Registering Descriptor := do
  modify fun walk => { walk with registry := walk.registry.insert descriptor }
  return descriptor

/-- Introduce the declaration at the cursor: check its name, look up its comment, then read its
parts, and enter the descriptor that is built of these. -/
def introduce {α : Type} (unit : FileUnit) (name : String) (parts : Registering α)
    (descriptor : Symbol → String → α → Descriptor) : Registering Descriptor := do
  let symbol ← declare unit name
  let comment ← comment unit
  let found ← parts
  enter (descriptor symbol comment found)

/-- Resolve a reference to a message among what is registered. -/
def messageType (reference : String) : Registering MessageDescriptor := do
  match (← get).registry.resolveMessage reference with
  | .ok message => return message
  | .error error => throw error

end Registering

/-! ## Fields -/

/-- The oneof that a field belongs to.  An index without a oneof means that there is none. -/
def FieldDecl.oneof? (field : FieldDecl) (oneofs : List OneofDecl) : Option OneofDecl :=
  field.oneofIndex?.bind fun index =>
    if 0 ≤ index then oneofs[index.toNatClampNeg]? else none

/-- An accessor name is ambiguous in a message when more than one of its fields has it. -/
def isAmbiguous (fields : List FieldDecl) (accessor : String) : Bool :=
  1 < (fields.map fun field => accessorName field.name).count accessor

/-- A field of a message, with its comment. -/
def FieldDescriptor.ofDecl (unit : FileUnit) (head : MessageHead) (decl : FieldDecl)
    (comment : String) : FieldDescriptor where
  decl := decl
  comment := comment
  ambiguous := isAmbiguous head.fields (accessorName decl.name)
  oneofName? := (decl.oneof? head.oneofs).map fun oneof => accessorName oneof.name
  dialect := unit.dialect
  style := unit.style

/-- The top-level declarations of a file, in order. -/
structure TopLevel where
  messages : List Descriptor := []
  enums : List Descriptor := []
  services : List Descriptor := []

/-! ## Declarations -/

namespace Registering

/-- The enum value at the cursor. -/
def enumValue (unit : FileUnit) (decl : EnumValueDecl) : Registering EnumValueDescriptor := do
  return { name := decl.name, number := decl.number, comment := ← comment unit }

/-- Register the enum at the cursor. -/
def enum (unit : FileUnit) (decl : EnumDecl) : Registering Descriptor :=
  introduce unit decl.name (inList .enumValues (fun _ => enumValue unit) decl.values)
    fun symbol comment values => .enum { symbol, comment, values }

/-- Register the oneof at the cursor, which has an index among the oneofs of its message. -/
def oneof (unit : FileUnit) (index : Nat) (decl : OneofDecl) : Registering Descriptor :=
  introduce unit decl.name (return ()) fun symbol comment _ => .oneof { symbol, comment, index }

/-- The field at the cursor. -/
def field (unit : FileUnit) (head : MessageHead) (decl : FieldDecl) :
    Registering FieldDescriptor := do
  return .ofDecl unit head decl (← comment unit)

mutual

/-- Register the message at the cursor, after all that is nested in it. -/
def message (unit : FileUnit) : MessageDecl → Registering Descriptor
  | .mk head nested => do
      let inner ← within (.list (.nestedMessages head.name)) (messages unit 0 nested)
      let enums ← inList (.nestedEnums head.name) (fun _ => enum unit) head.enums
      let oneofs ← inList (.nestedOneofs head.name) (oneof unit) head.oneofs
      introduce unit head.name (inList .fields (fun _ => field unit head) head.fields)
        fun symbol comment fields =>
          .message { symbol, decl := head, comment, fields } (inner ++ enums ++ oneofs)

/-- Register the messages of the current list, of which the first has a given index. -/
def messages (unit : FileUnit) (index : Nat) : List MessageDecl → Registering (List Descriptor)
  | [] => return []
  | decl :: rest => do
      let first ← within (.element index) (message unit decl)
      let others ← messages unit (index + 1) rest
      return first :: others

end

/-- The method at the cursor, with its types resolved, the input first. -/
def method (unit : FileUnit) (decl : MethodDecl) : Registering MethodDescriptor := do
  let comment ← comment unit
  let input ← messageType decl.input
  let output ← messageType decl.output
  let httpRule? ← httpRule? unit
  return {
    name := decl.name
    comment
    streaming := .ofSides decl.clientStreaming decl.serverStreaming
    input
    output
    httpRule? }

/-- Register the service at the cursor.  Its name is checked before its methods are resolved. -/
def service (unit : FileUnit) (decl : ServiceDecl) : Registering Descriptor :=
  introduce unit decl.name (inList .methods (fun _ => method unit) decl.methods)
    fun symbol comment methods => .service { symbol, comment, methods }

/-- Register all declarations of a file, with the cursor at its root. -/
def file (unit : FileUnit) (decl : FileDecl) : Registering TopLevel := do
  let enums ← inList .enums (fun _ => enum unit) decl.enums
  let messages ← within (.list .messages) (messages unit 0 decl.messages)
  let services ← inList .services (fun _ => service unit) decl.services
  return { messages, enums, services }

end Registering

/-! ## Whole files -/

/-- Open a file and register all its declarations.  The answer has the unit of the file. -/
def registerFile (decl : FileDecl) (settings : UnitSettings) :
    EStateM Error Registry (FileUnit × TopLevel) := fun registry =>
  let (unit, opened) := registry.openFile decl settings
  match Registering.file unit decl { registry := opened } with
  | .ok declarations walk => .ok (unit, declarations) walk.registry
  | .error error walk => .error error walk.registry

end ProtoCompanion
