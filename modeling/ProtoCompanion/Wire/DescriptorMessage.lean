/-
Module: ProtoCompanion.Wire.DescriptorMessage
Purpose: The schema in which protoc serializes a request, and the declarations in such a request.
Main exports: DescriptorMessage, descriptorSchema, fileOfRecords
-/
import ProtoCompanion.Schema.Declaration
import ProtoCompanion.Wire.Record

namespace ProtoCompanion.Wire

/-! ## Schema -/

/-- The types of messages in a serialized request. -/
inductive DescriptorMessage where
  | request
  | version
  | file
  | message
  | extensionRange
  | numberRange
  | field
  | oneof
  | enum
  | enumValue
  | service
  | method
  | sourceInfo
  | location
  | fileOptions
  | messageOptions
  | fieldOptions
  | enumOptions
  | enumValueOptions
  | serviceOptions
  | methodOptions
  /-- Options of which none is known by name. -/
  | plainOptions
  | uninterpretedOption
  | namePart
deriving Repr, DecidableEq, Inhabited

/-- Options of every sort may hold some that protoc could not interpret. -/
def uninterpreted : Nat × Shape DescriptorMessage := (999, .message .uninterpretedOption)

/-- The fields of `plugin.proto` and `descriptor.proto`. -/
def descriptorSchema : Schema DescriptorMessage
  | .request => [(1, .text), (2, .text), (3, .message .version), (15, .message .file)]
  | .version => [(1, .number), (2, .number), (3, .number), (4, .text)]
  | .file =>
      [(1, .text), (2, .text), (3, .text), (4, .message .message), (5, .message .enum),
        (6, .message .service), (7, .message .field), (8, .message .fileOptions),
        (9, .message .sourceInfo), (10, .numbers), (11, .numbers), (12, .text)]
  | .message =>
      [(1, .text), (2, .message .field), (3, .message .message), (4, .message .enum),
        (5, .message .extensionRange), (6, .message .field), (7, .message .messageOptions),
        (8, .message .oneof), (9, .message .numberRange), (10, .text)]
  | .extensionRange => [(1, .number), (2, .number), (3, .message .plainOptions)]
  | .numberRange => [(1, .number), (2, .number)]
  | .field =>
      [(1, .text), (2, .text), (3, .number), (4, .number), (5, .number), (6, .text), (7, .text),
        (8, .message .fieldOptions), (9, .number), (10, .text), (17, .number)]
  | .oneof => [(1, .text), (2, .message .plainOptions)]
  | .enum =>
      [(1, .text), (2, .message .enumValue), (3, .message .enumOptions),
        (4, .message .numberRange), (5, .text)]
  | .enumValue => [(1, .text), (2, .number), (3, .message .enumValueOptions)]
  | .service => [(1, .text), (2, .message .method), (3, .message .serviceOptions)]
  | .method =>
      [(1, .text), (2, .text), (3, .text), (4, .message .methodOptions), (5, .number),
        (6, .number)]
  | .sourceInfo => [(1, .message .location)]
  | .location => [(1, .numbers), (2, .numbers), (3, .text), (4, .text), (6, .text)]
  | .fileOptions =>
      [(1, .text), (8, .text), (9, .number), (10, .number), (11, .text), (16, .number),
        (17, .number), (18, .number), (20, .number), (23, .number), (27, .number), (31, .number),
        (36, .text), (37, .text), (39, .text), (40, .text), (41, .text), (42, .number),
        (44, .text), (45, .text), uninterpreted]
  | .messageOptions => [(1, .number), (2, .number), (3, .number), (7, .number), uninterpreted]
  | .fieldOptions =>
      [(1, .number), (2, .number), (3, .number), (5, .number), (6, .number), (10, .number),
        uninterpreted]
  | .enumOptions => [(2, .number), (3, .number), uninterpreted]
  | .enumValueOptions => [(1, .number), uninterpreted]
  | .serviceOptions => [(33, .number), uninterpreted]
  | .methodOptions => [(33, .number), (34, .number), uninterpreted]
  | .plainOptions => [uninterpreted]
  | .uninterpretedOption =>
      [(2, .message .namePart), (3, .text), (4, .number), (5, .number), (6, .fixed64), (7, .blob),
        (8, .text)]
  | .namePart => [(1, .text), (2, .number)]

/-! ## Declarations -/

open Record

def fieldOfRecords (records : List Record) : FieldDecl where
  name? := textOf? 1 records
  number? := int32Of? 3 records
  label? := int32Of? 4 records
  type? := int32Of? 5 records
  typeName? := textOf? 6 records
  oneofIndex? := int32Of? 9 records

def oneofOfRecords (records : List Record) : OneofDecl where
  name? := textOf? 1 records

def enumValueOfRecords (records : List Record) : EnumValueDecl where
  name? := textOf? 1 records
  number? := int32Of? 2 records

def enumOfRecords (records : List Record) : EnumDecl where
  name? := textOf? 1 records
  values := (messagesOf 2 records).map enumValueOfRecords

def messageOptionsOfRecords (records : List Record) : MessageOptions where
  mapEntryFlag? := flagOf? 7 records

def messageHeadOfRecords (records : List Record) : MessageHead where
  name? := textOf? 1 records
  fields := (messagesOf 2 records).map fieldOfRecords
  enums := (messagesOf 4 records).map enumOfRecords
  oneofs := (messagesOf 8 records).map oneofOfRecords
  options? := (messageOf? 7 records).map messageOptionsOfRecords

mutual

/-- The messages nested in a message with the given records. -/
def nestedOfRecords : List Record → List MessageDecl
  | [] => []
  | record :: rest => (nestedOfRecord? record).toList ++ nestedOfRecords rest

/-- The nested message that a record of its outer message holds. -/
def nestedOfRecord? : Record → Option MessageDecl
  | .message 3 inner => some (.mk (messageHeadOfRecords inner) (nestedOfRecords inner))
  | _ => none

end

def messageOfRecords (records : List Record) : MessageDecl :=
  .mk (messageHeadOfRecords records) (nestedOfRecords records)

def methodOfRecords (records : List Record) : MethodDecl where
  name? := textOf? 1 records
  input? := textOf? 2 records
  output? := textOf? 3 records
  clientStreaming? := flagOf? 5 records
  serverStreaming? := flagOf? 6 records

def serviceOfRecords (records : List Record) : ServiceDecl where
  name? := textOf? 1 records
  methods := (messagesOf 2 records).map methodOfRecords

def fileOptionsOfRecords (records : List Record) : FileOptions where
  javaPackage? := textOf? 1 records
  javaOuterClass? := textOf? 8 records
  javaMultipleFiles? := flagOf? 10 records

def locationOfRecords (records : List Record) : SourceLocation where
  path := (numbersOf 1 records).map Int32.ofNat
  leading? := textOf? 3 records
  trailing? := textOf? 4 records
  detached := textsOf 6 records

def sourceInfoOfRecords (records : List Record) : SourceInfo where
  locations := (messagesOf 1 records).map locationOfRecords

/-- The declarations of a file. -/
def fileOfRecords (records : List Record) : FileDecl where
  name? := textOf? 1 records
  package? := textOf? 2 records
  dialect? := textOf? 12 records
  messages := (messagesOf 4 records).map messageOfRecords
  enums := (messagesOf 5 records).map enumOfRecords
  services := (messagesOf 6 records).map serviceOfRecords
  options? := (messageOf? 8 records).map fileOptionsOfRecords
  sourceInfo? := (messageOf? 9 records).map sourceInfoOfRecords

end ProtoCompanion.Wire
