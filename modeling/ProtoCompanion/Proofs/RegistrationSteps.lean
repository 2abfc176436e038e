/-
Module: ProtoCompanion.Proofs.RegistrationSteps
Purpose: What the registration of one declaration does to a registry, and what a run of them does.
Main exports: Describes, Resolves, Enters, Refuses, EntersAll, Stops
-/
import Mathlib.Data.List.Forall2
import ProtoCompanion.Proofs.RegistrationOrder

/-!
One declaration is either entered, which changes the registry in a fixed way, or refused, for its
name or for a reference.  A run goes over a list of sites: it enters all of them, or it enters those
before the first that is refused.  Neither notion knows of the tree of declarations or of a cursor,
so what a run preserves is proved by induction on a list.
-/

namespace ProtoCompanion

/-! ## The descriptor of a declaration -/

/-- The values of the enum at a position. -/
def enumValuesAt (unit : FileUnit) (position : Position) :
    List EnumValueDecl → List EnumValueDescriptor :=
  (position.inList .enumValues).elements
    (fun _ position decl =>
      { name := decl.name, number := decl.number, comment := unit.commentAt position.path }) 0

/-- The fields of the message at a position. -/
def fieldsAt (unit : FileUnit) (position : Position) (head : MessageHead) : List FieldDescriptor :=
  (position.inList .fields).elements
    (fun _ position decl => .ofDecl unit head decl (unit.commentAt position.path)) 0 head.fields

/-- The methods of the service at a position, each with its own position. -/
def methodsAt (position : Position) : List MethodDecl → List (Position × MethodDecl) :=
  (position.inList .methods).elements (fun _ position decl => (position, decl)) 0

/-- The method at a position, with two messages as its types. -/
def methodAt (unit : FileUnit) (position : Position) (decl : MethodDecl)
    (input output : MessageDescriptor) : MethodDescriptor where
  name := decl.name
  comment := unit.commentAt position.path
  streaming := .ofSides decl.clientStreaming decl.serverStreaming
  input := input
  output := output
  httpRule? := unit.httpRules.get? position.path

/-- A descriptor is what registration in a file makes of the declaration at a site, apart from its
number and from the messages that the methods of a service refer to.  The names around it and its
comment come from the position of the site, and its children are made of what is nested directly
in it. -/
inductive Describes (unit : FileUnit) : Site → Descriptor → Prop where
  | enum (serial : Nat) (position : Position) (decl : EnumDecl) :
      Describes unit ⟨position, .enum decl⟩
        (.enum {
          symbol := ⟨serial, decl.name, position.outers, unit⟩
          comment := unit.commentAt position.path
          values := enumValuesAt unit position decl.values })
  | oneof (serial : Nat) (position : Position) (index : Nat) (decl : OneofDecl) :
      Describes unit ⟨position, .oneof index decl⟩
        (.oneof {
          symbol := ⟨serial, decl.name, position.outers, unit⟩
          comment := unit.commentAt position.path
          index })
  | message (serial : Nat) (position : Position) (head : MessageHead) (nested : List MessageDecl)
      (children : List Descriptor)
      (describe : List.Forall₂ (Describes unit)
        (Site.children ⟨position, .message (.mk head nested)⟩) children) :
      Describes unit ⟨position, .message (.mk head nested)⟩
        (.message {
          symbol := ⟨serial, head.name, position.outers, unit⟩
          decl := head
          comment := unit.commentAt position.path
          fields := fieldsAt unit position head } children)
  | service (serial : Nat) (position : Position) (decl : ServiceDecl)
      (methods : List MethodDescriptor)
      (describe : List.Forall₂
        (fun declared method =>
          method = methodAt unit declared.1 declared.2 method.input method.output)
        (methodsAt position decl.methods) methods) :
      Describes unit ⟨position, .service decl⟩
        (.service {
          symbol := ⟨serial, decl.name, position.outers, unit⟩
          comment := unit.commentAt position.path
          methods })

/-- The methods of a service have the messages that their references resolve to in a registry. -/
def Resolves (registry : Registry) : Declaration → Descriptor → Prop
  | .service decl, .service descriptor =>
      List.Forall₂
        (fun method found =>
          registry.resolveMessage method.input = .ok found.input ∧
            registry.resolveMessage method.output = .ok found.output)
        decl.methods descriptor.methods
  | _, _ => True

theorem Describes.symbol_eq {unit : FileUnit} {site : Site} {descriptor : Descriptor}
    (describes : Describes unit site descriptor) :
    descriptor.symbol =
      ⟨descriptor.symbol.serial, site.name, site.position.outers, unit⟩ := by
  cases describes <;> rfl

theorem Describes.kind_eq {unit : FileUnit} {site : Site} {descriptor : Descriptor}
    (describes : Describes unit site descriptor) : descriptor.kind = site.decl.kind := by
  cases describes <;> rfl

/-! ## One declaration -/

section

variable (unit : FileUnit)

/-- The registration of the declaration at a site: its name is accepted, and its descriptor, which
is numbered like the registration, is entered. -/
structure Enters (before : Registry) (site : Site) (descriptor : Descriptor)
    (after : Registry) : Prop where
  describes : Describes unit site descriptor
  serial : descriptor.symbol.serial = before.registrations
  resolves : Resolves before site.decl descriptor
  accepted : ∃ collided,
    unit.outerClass.accept site.name (before.hasCollision unit) = .ok () collided ∧
      after = (before.setCollision unit collided).insert descriptor

/-- The declaration at a site cannot be registered: its name is not accepted, or its name is, but a
reference of it does not resolve to a message. -/
inductive Refuses (before : Registry) (site : Site) (error : Error) : Registry → Prop where
  | name (collided : Bool)
      (rejected : unit.outerClass.accept site.name (before.hasCollision unit) =
        .error error collided) :
      Refuses before site error (before.setCollision unit collided)
  | reference (collided : Bool) (reference : String)
      (accepted : unit.outerClass.accept site.name (before.hasCollision unit) = .ok () collided)
      (member : reference ∈ site.decl.references)
      (unresolved : before.resolveMessage reference = .error error) :
      Refuses before site error (before.setCollision unit collided)

/-! ## Runs -/

/-- A run that registers the declarations of a list of sites, each with its own descriptor. -/
inductive EntersAll : Registry → List Site → List Descriptor → Registry → Prop where
  | nil (registry : Registry) : EntersAll registry [] [] registry
  | cons {before middle after : Registry} {site : Site} {rest : List Site}
      {descriptor : Descriptor} {others : List Descriptor}
      (first : Enters unit before site descriptor middle)
      (later : EntersAll middle rest others after) :
      EntersAll before (site :: rest) (descriptor :: others) after

/-- A run that stops at the first declaration that cannot be registered. -/
inductive Stops : Registry → List Site → Error → Registry → Prop where
  | here {before after : Registry} {site : Site} {error : Error} (rest : List Site)
      (refused : Refuses unit before site error after) :
      Stops before (site :: rest) error after
  | later {before middle after : Registry} {site : Site} {rest : List Site}
      {descriptor : Descriptor} {error : Error}
      (first : Enters unit before site descriptor middle)
      (stops : Stops middle rest error after) :
      Stops before (site :: rest) error after

end

variable {unit : FileUnit}

theorem EntersAll.append {before middle after : Registry} {sites more : List Site}
    {descriptors others : List Descriptor}
    (first : EntersAll unit before sites descriptors middle)
    (second : EntersAll unit middle more others after) :
    EntersAll unit before (sites ++ more) (descriptors ++ others) after := by
  induction first with
  | nil => exact second
  | cons enters _ ih => exact .cons enters (ih second)

theorem Stops.append_left {before after : Registry} {sites : List Site} {error : Error}
    (stops : Stops unit before sites error after) (more : List Site) :
    Stops unit before (sites ++ more) error after := by
  induction stops with
  | here rest refused => exact .here (rest ++ more) refused
  | later enters _ ih => exact .later enters ih

theorem EntersAll.stops {before middle after : Registry} {sites more : List Site}
    {descriptors : List Descriptor} {error : Error}
    (first : EntersAll unit before sites descriptors middle)
    (second : Stops unit middle more error after) :
    Stops unit before (sites ++ more) error after := by
  induction first with
  | nil => exact second
  | cons enters _ ih => exact .later enters (ih second)

/-- A run that stops has entered the declarations before the one that was refused. -/
theorem Stops.split {before after : Registry} {sites : List Site} {error : Error}
    (stops : Stops unit before sites error after) :
    ∃ done refused rest descriptors middle,
      sites = done ++ refused :: rest ∧
        EntersAll unit before done descriptors middle ∧
        Refuses unit middle refused error after := by
  induction stops with
  | here rest refused => exact ⟨[], _, rest, [], _, rfl, .nil _, refused⟩
  | later enters _ ih =>
      obtain ⟨done, refused, rest, descriptors, middle, split, entered, refuses⟩ := ih
      exact ⟨_ :: done, refused, rest, _ :: descriptors, middle,
        congrArg _ split, .cons enters entered, refuses⟩

/-! ## What a run leaves in the registry -/

/-- A refusal changes neither of the two maps. -/
theorem Refuses.maps_eq {before after : Registry} {site : Site} {error : Error}
    (refused : Refuses unit before site error after) :
    after.byName = before.byName ∧ after.byRelativeName = before.byRelativeName := by
  cases refused <;> exact ⟨rfl, rfl⟩

end ProtoCompanion
