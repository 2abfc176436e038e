/-
Module: ProtoCompanion.Schema.ElementType
Purpose: The labels and types of fields, the streaming kinds of methods, and the Java types that
  scalars have.
Main exports: FieldLabel, ProtoType, JavaScalar, ProtoType.scalar?, Streaming
-/
import ProtoCompanion.Schema.Declaration

namespace ProtoCompanion

/-- How often a field occurs in a message. -/
inductive FieldLabel where
  | singular
  | required
  | repeated
deriving Repr, DecidableEq, Inhabited

/-- The label of a field; an absent or unknown number reads as a singular field. -/
def FieldDecl.label (field : FieldDecl) : FieldLabel :=
  match field.label? with
  | some 2 => .required
  | some 3 => .repeated
  | _ => .singular

/-- The types that a field can have in a schema. -/
inductive ProtoType where
  | double
  | float
  | int64
  | uint64
  | int32
  | fixed64
  | fixed32
  | bool
  | string
  | group
  | message
  | bytes
  | uint32
  | enum
  | sfixed32
  | sfixed64
  | sint32
  | sint64
deriving Repr, DecidableEq, Inhabited

namespace ProtoType

/-- The types in the order of their numbers, which start at one. -/
def all : List ProtoType :=
  [.double, .float, .int64, .uint64, .int32, .fixed64, .fixed32, .bool, .string, .group, .message,
    .bytes, .uint32, .enum, .sfixed32, .sfixed64, .sint32, .sint64]

/-- The type with a given number. -/
def ofNumber? (number : Int32) : Option ProtoType :=
  if 1 ≤ number then all[number.toNatClampNeg - 1]? else none

/-- The name of a type in messages to the user. -/
def name : ProtoType → String
  | double => "Double"
  | float => "Float"
  | int64 => "Int64"
  | uint64 => "Uint64"
  | int32 => "Int32"
  | fixed64 => "Fixed64"
  | fixed32 => "Fixed32"
  | bool => "Bool"
  | string => "String"
  | group => "Group"
  | message => "Message"
  | bytes => "Bytes"
  | uint32 => "Uint32"
  | enum => "Enum"
  | sfixed32 => "Sfixed32"
  | sfixed64 => "Sfixed64"
  | sint32 => "Sint32"
  | sint64 => "Sint64"

end ProtoType

/-- The type of a field; an absent or unknown number reads as a double. -/
def FieldDecl.type (field : FieldDecl) : ProtoType :=
  (field.type?.bind ProtoType.ofNumber?).getD .double

/-- The boxed Java types that hold scalars. -/
inductive JavaScalar where
  | double
  | float
  | long
  | integer
  | boolean
  | string
  | byteString
deriving Repr, DecidableEq, Inhabited

/-- The Java class of a boxed scalar. -/
def JavaScalar.name : JavaScalar → String
  | double => "Double"
  | float => "Float"
  | long => "Long"
  | integer => "Integer"
  | boolean => "Boolean"
  | string => "String"
  | byteString => "ByteString"

/-- The Java type of a scalar; groups, messages and enums are not scalars. -/
def ProtoType.scalar? : ProtoType → Option JavaScalar
  | double => some .double
  | float => some .float
  | int64 | uint64 | fixed64 | sfixed64 | sint64 => some .long
  | int32 | uint32 | fixed32 | sfixed32 | sint32 => some .integer
  | bool => some .boolean
  | string => some .string
  | bytes => some .byteString
  | group | message | enum => none

/-- How requests and responses flow through a method. -/
inductive Streaming where
  | simple
  | serverStream
  | clientStream
  | biStream
deriving Repr, DecidableEq, Inhabited

namespace Streaming

/-- Which of the two sides of a method stream. -/
def ofSides (client server : Bool) : Streaming :=
  match client, server with
  | false, false => .simple
  | false, true => .serverStream
  | true, false => .clientStream
  | true, true => .biStream

/-- The name of a streaming kind in generated comments. -/
def name : Streaming → String
  | simple => "Simple"
  | serverStream => "ServerStream"
  | clientStream => "ClientStream"
  | biStream => "BiStream"

end Streaming

end ProtoCompanion
