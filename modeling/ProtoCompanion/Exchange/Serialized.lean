/-
Module: ProtoCompanion.Exchange.Serialized
Purpose: The request that protoc sends to a plugin, and the response that it expects.
Main exports: CodeRequest.decode, encodeResponse, respond
-/
import ProtoCompanion.Generation.Run
import ProtoCompanion.Wire.DescriptorMessage
import ProtoCompanion.Wire.HttpAnnotation

namespace ProtoCompanion

open Wire

/-! ## Request -/

/-- The request in the records of a message and the rules of its files. -/
def CodeRequest.ofRecords (records : List Record) (httpRules : List HttpRuleTable) :
    CodeRequest where
  filesToGenerate := Record.textsOf 1 records
  parameter? := Record.textOf? 2 records
  files := (Record.messagesOf 15 records).map fileOfRecords
  httpRules := httpRules

/-- Decode a request: its declarations, and apart from them its HTTP annotations. -/
def CodeRequest.decode (bytes : Bytes) : Except Error CodeRequest :=
  match readMessage descriptorSchema nestingLimit .request bytes, decodeHttpRules? bytes with
  | some records, some httpRules => .ok (.ofRecords records httpRules)
  | _, _ => .error .malformedRequest

/-! ## Response -/

/-- A text in UTF-8. -/
def encodeText (text : String) : Bytes := text.toUTF8.data.toList

/-- A field that is written if its text is there, also if the text is empty. -/
def writeText? (number : Nat) : Option String → Bytes
  | none => []
  | some text => writeDelimited number (encodeText text)

/-- A file of a response. -/
def encodeFile (file : OutputFile) : Bytes :=
  writeText? 1 file.name? ++ writeText? 15 file.content?

/-- A response with the given files. -/
def encodeResponse (files : List OutputFile) : Bytes :=
  files.flatMap fun file => writeDelimited 15 (encodeFile file)

/-- The response of a generator to a serialized request.  Either every file succeeds or there is no
response. -/
def respond {σ : Type} (generator : Generator σ) (initial : σ) (bytes : Bytes) :
    Except Error Bytes := do
  let request ← CodeRequest.decode bytes
  match generator.run request initial with
  | .ok files _ => return encodeResponse files
  | .error error _ => throw error

end ProtoCompanion
