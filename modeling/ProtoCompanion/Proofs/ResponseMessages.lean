/-
Module: ProtoCompanion.Proofs.ResponseMessages
Purpose: A response as protoc reads it, and that it reads what a plugin has written.
Main exports: CodeResponse, decodeResponse?, decodeResponse?_encodeResponse
-/
import ProtoCompanion.Proofs.WrittenFields

/-!
The reader knows every field of a response, also those that a plugin of this library never writes:
an error, the features of the plugin, and where in a file some code is to be inserted.
-/

namespace ProtoCompanion

open Wire
open Wire.Record (messageOf? messagesOf messagesOf_flatMap numbersOf numbersOf_flatMap_message
  int32Of? textOf? textsOf_flatMap_message)

/-! ## Schema -/

/-- The types of messages in a serialized response. -/
inductive ResponseMessage where
  | response
  | file
  | codeInfo
  | codeSpan
deriving Repr, DecidableEq, Inhabited

/-- The fields of a response in `plugin.proto`, and of its code spans in `descriptor.proto`, where
they are called annotations. -/
def responseSchema : Schema ResponseMessage
  | .response => [(1, .text), (2, .number), (15, .message .file)]
  | .file => [(1, .text), (2, .text), (15, .text), (16, .message .codeInfo)]
  | .codeInfo => [(1, .message .codeSpan)]
  | .codeSpan => [(1, .numbers), (2, .text), (3, .number), (4, .number), (5, .number)]

theorem responseSchema_numbered : responseSchema.Numbered := by
  intro type
  cases type <;> simp [responseSchema, IsFieldNumber]

/-! ## Responses -/

/-- Where the code for an element of a source file stands in a generated one. -/
structure CodeSpan where
  path : List Int32 := []
  sourceFile? : Option String := none
  first? : Option Int32 := none
  last? : Option Int32 := none
  semantic? : Option Int32 := none
deriving Repr, DecidableEq, Inhabited

/-- A file of a response. -/
structure ResponseFile where
  name? : Option String := none
  insertionPoint? : Option String := none
  content? : Option String := none
  codeInfo? : Option (List CodeSpan) := none
deriving Repr, DecidableEq, Inhabited

/-- What a plugin answers to protoc. -/
structure CodeResponse where
  error? : Option String := none
  features? : Option Nat := none
  files : List ResponseFile := []
deriving Repr, DecidableEq, Inhabited

/-- The response that has some files and nothing else. -/
def CodeResponse.ofFiles (files : List OutputFile) : CodeResponse where
  files := files.map fun file => { name? := file.name?, content? := file.content? }

def codeSpanOfRecords (records : List Record) : CodeSpan where
  path := (numbersOf 1 records).map Int32.ofNat
  sourceFile? := textOf? 2 records
  first? := int32Of? 3 records
  last? := int32Of? 4 records
  semantic? := int32Of? 5 records

def responseFileOfRecords (records : List Record) : ResponseFile where
  name? := textOf? 1 records
  insertionPoint? := textOf? 2 records
  content? := textOf? 15 records
  codeInfo? := (messageOf? 16 records).map fun inner => (messagesOf 1 inner).map codeSpanOfRecords

def responseOfRecords (records : List Record) : CodeResponse where
  error? := textOf? 1 records
  features? := (numbersOf 2 records).getLast?
  files := (messagesOf 15 records).map responseFileOfRecords

/-- Decode a response. -/
def decodeResponse? (bytes : Bytes) : Option CodeResponse :=
  (readMessage responseSchema nestingLimit .response bytes).map responseOfRecords

/-! ## Reading what was written -/

/-- The records of a file of a response. -/
def recordsOfOutput (file : OutputFile) : List Record :=
  file.name?.toList.map (.text 1) ++ file.content?.toList.map (.text 15)

/-- The records of a response with some files. -/
def recordsOfOutputs (files : List OutputFile) : List Record :=
  files.flatMap fun file => [.message 15 (recordsOfOutput file)]

theorem encodeResponse_reads (files : List OutputFile) :
    ReadsAs responseSchema nestingLimit .response (encodeResponse files)
      (recordsOfOutputs files) := by
  have numbered := responseSchema_numbered
  refine .messages numbered rfl files fun file _ => ?_
  exact (ReadsAs.text? numbered rfl file.name?).append (.text? numbered rfl file.content?)

theorem responseFileOfRecords_recordsOfOutput (file : OutputFile) :
    responseFileOfRecords (recordsOfOutput file) =
      { name? := file.name?, content? := file.content? } := by
  obtain ⟨name?, content?⟩ := file
  cases name? <;> cases content? <;> rfl

theorem responseOfRecords_recordsOfOutputs (files : List OutputFile) :
    responseOfRecords (recordsOfOutputs files) = .ofFiles files := by
  rw [responseOfRecords, textOf?, recordsOfOutputs, textsOf_flatMap_message,
    numbersOf_flatMap_message, messagesOf_flatMap, List.map_map]
  simp [CodeResponse.ofFiles, responseFileOfRecords_recordsOfOutput]

/-- What is written is read as the same files, and as nothing beside them. -/
theorem decodeResponse?_encodeResponse {files : List OutputFile}
    (short : (encodeResponse files).length < 2 ^ 64) :
    decodeResponse? (encodeResponse files) = some (.ofFiles files) := by
  rw [decodeResponse?, encodeResponse_reads files short, Option.map_some,
    responseOfRecords_recordsOfOutputs]

end ProtoCompanion
