/-
Module: ProtoCompanion.Wire.Record
Purpose: Messages read by a schema, as records of the fields that the schema knows.
Main exports: Shape, Schema, Record, readMessage, Record.textOf?, Record.messageOf?
-/
import ProtoCompanion.Wire.Field

/-!
A schema tells for each type of message which fields it has and what they hold.  Reading keeps the
fields that the schema knows, in the order in which they stand, and passes over the others.

How a field is to be understood that stands several times is left to the views: of a single value
the last one counts; the occurrences of a single message are read as if they were one, with the
records of all of them; and a repeated field has all its occurrences.
-/

namespace ProtoCompanion.Wire

/-- What a field holds.  Numbers of any integer type, and flags, have the shape `number`. -/
inductive Shape (τ : Type) where
  | number
  | numbers
  | text
  | blob
  | fixed64
  | message (type : τ)
deriving Repr, DecidableEq, Inhabited

/-- The fields of each type of message, by number. -/
abbrev Schema (τ : Type) : Type := τ → List (Nat × Shape τ)

/-- A field that was read.  Numbers are kept as they stand on the wire. -/
inductive Record where
  | number (field value : Nat)
  | numbers (field : Nat) (values : List Nat)
  | text (field : Nat) (value : String)
  | skipped (field : Nat)
  | message (field : Nat) (records : List Record)
deriving Repr, Inhabited

/-! ## Reading -/

/-- A text in UTF-8. -/
def decodeText? (bytes : Bytes) : Option String :=
  String.fromUTF8? ⟨bytes.toArray⟩

/-- Read the contents of a field that has a shape.  `inner` reads messages one level deeper. -/
def readShape {τ : Type} (inner : τ → Bytes → Option (List Record)) (number : Nat) :
    Shape τ → Content → Option Record
  | .number, .varint value => some (.number number value)
  | .numbers, .varint value => some (.numbers number [value])
  | .numbers, .delimited bytes => (varint.all bytes).map (.numbers number)
  | .text, .delimited bytes => (decodeText? bytes).map (.text number)
  | .blob, .delimited _ => some (.skipped number)
  | .fixed64, .fixed64 => some (.skipped number)
  | .message type, .delimited bytes => (inner type bytes).map (.message number)
  | _, _ => none

/-- Read fields, with `budget` levels of nesting left. -/
def readFields {τ : Type} (schema : Schema τ) (budget : Nat)
    (inner : τ → Bytes → Option (List Record)) (type : τ) : List Field → Option (List Record)
  | [] => some []
  | field :: rest =>
      match (schema type).lookup field.number with
      | some shape =>
          match readShape inner field.number shape field.content with
          | some record => (readFields schema budget inner type rest).map (record :: ·)
          | none => none
      | none =>
          if field.depth ≤ budget then readFields schema budget inner type rest else none

/-- Read a message of a type, with `budget` levels of nesting below it. -/
def readMessage {τ : Type} (schema : Schema τ) (budget : Nat) (type : τ) (bytes : Bytes) :
    Option (List Record) :=
  match budget with
  | 0 => (fields? bytes).bind (readFields schema 0 (fun _ _ => none) type)
  | more + 1 =>
      (fields? bytes).bind (readFields schema (more + 1) (readMessage schema more) type)

/-- The number of levels that messages may be nested below the outermost one. -/
def nestingLimit : Nat := 100

/-! ## Views -/

namespace Record

/-- All numbers of a field. -/
def numbersOf (field : Nat) (records : List Record) : List Nat :=
  records.flatMap fun
    | .number tag value => if tag = field then [value] else []
    | .numbers tag values => if tag = field then values else []
    | _ => []

/-- All texts of a field. -/
def textsOf (field : Nat) (records : List Record) : List String :=
  records.filterMap fun
    | .text tag value => if tag = field then some value else none
    | _ => none

/-- All messages of a field. -/
def messagesOf (field : Nat) (records : List Record) : List (List Record) :=
  records.filterMap fun
    | .message tag inner => if tag = field then some inner else none
    | _ => none

/-- The last number of a field, cut to 32 bits. -/
def int32Of? (field : Nat) (records : List Record) : Option Int32 :=
  (numbersOf field records).getLast?.map Int32.ofNat

/-- The last flag of a field. -/
def flagOf? (field : Nat) (records : List Record) : Option Bool :=
  (numbersOf field records).getLast?.map (· ≠ 0)

/-- The last text of a field. -/
def textOf? (field : Nat) (records : List Record) : Option String :=
  (textsOf field records).getLast?

/-- The single message of a field, with the records of all its occurrences. -/
def messageOf? (field : Nat) (records : List Record) : Option (List Record) :=
  match messagesOf field records with
  | [] => none
  | parts => some parts.flatten

end Record

end ProtoCompanion.Wire
