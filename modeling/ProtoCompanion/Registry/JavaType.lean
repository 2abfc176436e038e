/-
Module: ProtoCompanion.Registry.JavaType
Purpose: The Java types of fields.
Main exports: JavaType, FieldDescriptor.Refers, FieldDescriptor.elementType,
  FieldDescriptor.javaType, MessageDescriptor.entryTypes
-/
import ProtoCompanion.Registry.Table

/-!
A field may refer to a declaration that is registered after the field's message.  Its type is
therefore found out on demand, in the registry of that moment.
-/

namespace ProtoCompanion

/-- The Java type of a field. -/
inductive JavaType where
  | single (name : String)
  | list (element : String)
  | map (key value : String)
deriving Repr, DecidableEq, Inhabited

/-- A Java type as it is written in code. -/
def JavaType.display : JavaType → String
  | single name => name
  | list element => "List<" ++ element ++ ">"
  | map key value => "Map<" ++ key ++ ", " ++ value ++ ">"

namespace FieldDescriptor

/-- The declaration that the field refers to; scalars refer to none. -/
def referent? (field : FieldDescriptor) (registry : Registry) :
    Except Error (Option Descriptor) :=
  match field.decl.type with
  | .message | .enum => (registry.resolve field.decl.typeName).map some
  | _ => .ok none

/-- The type of the field is another declaration. -/
def Refers (field : FieldDescriptor) : Prop :=
  field.decl.type = .message ∨ field.decl.type = .enum

theorem referent?_of_refers {field : FieldDescriptor} (refers : field.Refers)
    (registry : Registry) :
    field.referent? registry = (registry.resolve field.decl.typeName).map some := by
  rw [referent?]
  rcases refers with isMessage | isEnum
  · rw [isMessage]
  · rw [isEnum]

theorem referent?_of_not_refers {field : FieldDescriptor} (scalar : ¬ field.Refers)
    (registry : Registry) : field.referent? registry = .ok none := by
  obtain ⟨noMessage, noEnum⟩ := not_or.mp scalar
  rw [referent?]
  split
  · contradiction
  · contradiction
  · rfl

/-- The Java scalar of the field. -/
def scalar (field : FieldDescriptor) : Except Error JavaScalar :=
  match field.decl.type.scalar? with
  | some scalar => .ok scalar
  | none => .error (.notScalar field.decl.name field.decl.type)

/-- The type of the field, or of an element if the field is repeated: the companion class of what
it refers to, in the style of the field's file, or a Java scalar. -/
def elementType (field : FieldDescriptor) (registry : Registry) : Except Error String := do
  match ← field.referent? registry with
  | some descriptor => return field.style (descriptor.companionName field.style)
  | none => return (← field.scalar).name

/-- Like the element type, but with the class that protobuf-java has. -/
def protobufType (field : FieldDescriptor) (registry : Registry) : Except Error String := do
  match ← field.referent? registry with
  | some descriptor => return registry.javaName descriptor
  | none => return (← field.scalar).name

/-- A map is a repeated field of map entries. -/
def isMap (field : FieldDescriptor) (registry : Registry) : Except Error Bool := do
  if field.isRepeated then
    match ← field.referent? registry with
    | some (.message entry _) => return entry.isMapEntry
    | _ => return false
  else return false

end FieldDescriptor

namespace MessageDescriptor

/-- The field that holds a part of a map entry. -/
def entryField (message : MessageDescriptor) (part : MapEntryPart) :
    Except Error FieldDescriptor :=
  match message.field? part.fieldName with
  | some field => .ok field
  | none => .error (.incompleteMapEntry message.symbol.schemaName part)

/-- The types of the key and of the value of a map entry. -/
def entryTypes (message : MessageDescriptor) (registry : Registry) :
    Except Error (String × String) := do
  let key ← (← message.entryField .key).elementType registry
  let value ← (← message.entryField .value).elementType registry
  return (key, value)

/-- The Java type of the map whose entries are this message, as it is written in code. -/
def entryMapType (message : MessageDescriptor) (registry : Registry) : Except Error String := do
  let (key, value) ← message.entryTypes registry
  return (JavaType.map key value).display

end MessageDescriptor

/-- The Java type of a field: a repeated field is a map if it refers to a map entry, and a list
otherwise. -/
def FieldDescriptor.javaType (field : FieldDescriptor) (registry : Registry) :
    Except Error JavaType := do
  if field.isRepeated then
    match ← field.referent? registry with
    | some (.message entry _) =>
        if entry.isMapEntry then
          let (key, value) ← entry.entryTypes registry
          return .map key value
        else return .list (← field.elementType registry)
    | _ => return .list (← field.elementType registry)
  else return .single (← field.elementType registry)

end ProtoCompanion
