/-
Module: ProtoCompanion.Registry.Descriptor
Purpose: Registered declarations and the names that they have.
Main exports: Descriptor, Symbol, MessageDescriptor, FieldDescriptor, EnumDescriptor,
  OneofDescriptor, ServiceDescriptor, MethodDescriptor
-/
import ProtoCompanion.Registry.FileUnit
import ProtoCompanion.Schema.ElementType

namespace ProtoCompanion

open Naming (NameStyle dotted)

/-! ## Names -/

/-- What is common to registered declarations of every kind: the number of the registration, the
declared name, the names of the messages around it, and the file. -/
structure Symbol where
  serial : Nat
  name : String
  outers : List String
  unit : FileUnit

namespace Symbol

/-- The name inside the outer class, with each part in the given style: `Outer.Inner`. -/
def nameWithin (symbol : Symbol) (style : NameStyle) : String :=
  ".".intercalate ((symbol.outers ++ [symbol.name]).map style)

/-- The class of the companion code. -/
def companionName (symbol : Symbol) (style : NameStyle) : String :=
  dotted
    [symbol.unit.outputPackage, symbol.unit.outerClass.companionClass, symbol.nameWithin style]

/-- The name in the schema, without a leading dot. -/
def schemaName (symbol : Symbol) : String :=
  dotted [symbol.unit.schemaPackage, symbol.nameWithin id]

/-- The class that protobuf-java has for a name inside the outer class, given whether a declaration
collides with that class. -/
def javaNameOf (symbol : Symbol) (collided : Bool) (within : String) : String :=
  if symbol.unit.outerClass.multipleFiles then dotted [symbol.unit.outputPackage, within]
  else dotted
    [symbol.unit.outputPackage, symbol.unit.outerClass.effective collided, within]

/-- The class that protobuf-java has for the declaration. -/
def javaName (symbol : Symbol) (collided : Bool) : String :=
  symbol.javaNameOf collided (symbol.nameWithin id)

end Symbol

/-! ## Descriptors of each kind -/

/-- A field of a registered message. -/
structure FieldDescriptor where
  decl : FieldDecl
  comment : String
  /-- Another field of the message has the same accessor name. -/
  ambiguous : Bool
  /-- The accessor name of the oneof that the field belongs to. -/
  oneofName? : Option String
  dialect : Dialect
  style : NameStyle

namespace FieldDescriptor

/-- The accessor name of the field, followed by its number where the name alone is ambiguous. -/
def name (field : FieldDescriptor) : String :=
  if field.ambiguous then Naming.accessorName field.decl.name ++ toString field.decl.number
  else Naming.accessorName field.decl.name

/-- The name as a Java identifier, which an underscore keeps apart from the keywords. -/
def identifier (field : FieldDescriptor) : String := field.name ++ "_"

def isRequired (field : FieldDescriptor) : Bool := field.decl.label = .required

def isRepeated (field : FieldDescriptor) : Bool := field.decl.label = .repeated

def isEnum (field : FieldDescriptor) : Bool := field.decl.type = .enum

end FieldDescriptor

/-- A registered message apart from the declarations nested in it. -/
structure MessageDescriptor where
  symbol : Symbol
  decl : MessageHead
  comment : String
  fields : List FieldDescriptor

namespace MessageDescriptor

/-- The first field with a name in the schema. -/
def field? (message : MessageDescriptor) (name : String) : Option FieldDescriptor :=
  message.fields.find? fun field => field.decl.name = name

/-- The fields of the oneof with an index, in order. -/
def fieldsInOneof (message : MessageDescriptor) (index : Nat) : List FieldDescriptor :=
  message.fields.filter fun field => field.decl.oneofIndex? = some (Int32.ofNat index)

def isMapEntry (message : MessageDescriptor) : Bool := message.decl.isMapEntry

end MessageDescriptor

/-- A value of a registered enum. -/
structure EnumValueDescriptor where
  name : String
  number : Int32
  comment : String
deriving Repr, DecidableEq, Inhabited

/-- A registered enum. -/
structure EnumDescriptor where
  symbol : Symbol
  comment : String
  values : List EnumValueDescriptor

/-- A registered oneof, with its place among the oneofs of the message. -/
structure OneofDescriptor where
  symbol : Symbol
  comment : String
  index : Nat

/-- The prefix of the class that protobuf-java has for the cases of a oneof: its capitalized
accessor name, inside the message. -/
def OneofDescriptor.javaName (oneof : OneofDescriptor) (collided : Bool) : String :=
  let caseName := Naming.capitalize (Naming.accessorName oneof.symbol.name)
  oneof.symbol.javaNameOf collided (".".intercalate (oneof.symbol.outers ++ [caseName]))

/-- A method of a registered service, with its resolved message types. -/
structure MethodDescriptor where
  name : String
  comment : String
  streaming : Streaming
  input : MessageDescriptor
  output : MessageDescriptor
  httpRule? : Option HttpRule

/-- A registered service. -/
structure ServiceDescriptor where
  symbol : Symbol
  comment : String
  methods : List MethodDescriptor

/-- The first method with a name. -/
def ServiceDescriptor.method? (service : ServiceDescriptor) (name : String) :
    Option MethodDescriptor :=
  service.methods.find? fun method => method.name = name

/-- A registered declaration.  The children of a message are its nested messages, its nested enums
and its oneofs, in this order. -/
inductive Descriptor where
  | message (descriptor : MessageDescriptor) (children : List Descriptor)
  | enum (descriptor : EnumDescriptor)
  | oneof (descriptor : OneofDescriptor)
  | service (descriptor : ServiceDescriptor)

namespace Descriptor

def kind : Descriptor → DescriptorKind
  | message _ _ => .message
  | enum _ => .enum
  | oneof _ => .oneof
  | service _ => .service

def symbol : Descriptor → Symbol
  | .message descriptor _ => descriptor.symbol
  | .enum descriptor => descriptor.symbol
  | .oneof descriptor => descriptor.symbol
  | .service descriptor => descriptor.symbol

def comment : Descriptor → String
  | .message descriptor _ => descriptor.comment
  | .enum descriptor => descriptor.comment
  | .oneof descriptor => descriptor.comment
  | .service descriptor => descriptor.comment

def children : Descriptor → List Descriptor
  | message _ children => children
  | _ => []

def name (descriptor : Descriptor) : String := descriptor.symbol.name

def schemaName (descriptor : Descriptor) : String := descriptor.symbol.schemaName

def companionName (descriptor : Descriptor) (style : NameStyle) : String :=
  descriptor.symbol.companionName style

/-- The name under which the file of the declaration refers to it. -/
def relativeName (descriptor : Descriptor) : String :=
  descriptor.symbol.nameWithin descriptor.symbol.unit.style

/-- The class that protobuf-java has for the declaration. -/
def javaName (collided : Bool) : Descriptor → String
  | .oneof descriptor => descriptor.javaName collided
  | other => other.symbol.javaName collided

end Descriptor

end ProtoCompanion
