/-
Module: ProtoCompanion.Proofs.WrittenFields
Purpose: What is written as a field is read as that field, and what follows it is left alone.
Main exports: Wire.Schema.Numbered, Wire.readVarint_writeVarint, Wire.fields?_writeDelimited,
  Wire.readMessage_of_fields?, Wire.ReadsAs
-/
import Mathlib.Algebra.Ring.Nat
import ProtoCompanion.Exchange.Serialized
import ProtoCompanion.Proofs.SerializedParts

/-!
The lengths of delimited fields are written as numbers of 64 bits.  No list of bytes that a machine
can hold is longer, so `ReadsAs` asks this once of the whole message, and its rules pass it on to
the parts.
-/

namespace ProtoCompanion.Wire

/-! ## Numbers and texts -/

/-- With one byte more, a number may have seven bits more; the last of ten bytes has one. -/
theorem readVarint_writeVarint {more value : Nat} (rest : Bytes)
    (fits : value < 2 ^ (7 * more + 1)) :
    readVarint (more + 1) (writeVarint value ++ rest) = some (value, rest) := by
  induction more generalizing value with
  | zero =>
      have small : value < 128 := by omega
      have byte : (UInt8.ofNat value).toNat = value := by
        rw [UInt8.toNat_ofNat']
        omega
      rw [writeVarint, if_pos small, List.singleton_append, readVarint, byte, if_pos small,
        if_neg (by omega)]
  | succ more ih =>
      rw [writeVarint]
      split
      case isTrue small =>
        have byte : (UInt8.ofNat value).toNat = value := by
          rw [UInt8.toNat_ofNat']
          omega
        rw [List.singleton_append, readVarint, byte, if_pos small, if_neg (by omega)]
      case isFalse large =>
        have byte : (UInt8.ofNat (value % 128 + 128)).toNat = value % 128 + 128 := by
          rw [UInt8.toNat_ofNat']
          omega
        have later : value / 128 < 2 ^ (7 * more + 1) := by
          rw [Nat.div_lt_iff_lt_mul (by decide), ← Nat.pow_add 2 (7 * more + 1) 7]
          exact fits
        rw [List.cons_append, readVarint, byte, if_neg (by omega), ih later]
        simp only [Option.some.injEq, Prod.mk.injEq, and_true]
        omega

theorem varint_writeVarint {value : Nat} (rest : Bytes) (fits : value < 2 ^ 64) :
    varint.run (writeVarint value ++ rest) = some (value, rest) :=
  @readVarint_writeVarint 9 value rest fits

theorem takeBytes?_length (bytes rest : Bytes) :
    takeBytes? bytes.length (bytes ++ rest) = some (bytes, rest) := by
  simp [takeBytes?]

theorem decodeText?_encodeText (text : String) : decodeText? (encodeText text) = some text := by
  rw [decodeText?, encodeText, Array.toArray_toList]
  change String.fromUTF8? text.toByteArray = some text
  rw [String.fromUTF8?, dif_pos text.isValidUTF8]
  rfl

/-! ## Fields -/

/-- The numbers that a key of 32 bits has room for, beside the wire type. -/
def IsFieldNumber (number : Nat) : Prop := 0 < number ∧ number < 2 ^ 29

theorem readPiece_of_payload {number wireType : Nat} {bytes rest : Bytes} {payload : Payload}
    (isNumber : IsFieldNumber number) (isType : wireType < 8)
    (read : readPayload wireType bytes = some (payload, rest)) :
    readPiece (writeVarint (number * 8 + wireType) ++ bytes) = some (⟨number, payload⟩, rest) := by
  obtain ⟨positive, below⟩ := isNumber
  have key : (number * 8 + wireType) / 8 = number := by omega
  have type : (number * 8 + wireType) % 8 = wireType := by omega
  rw [readPiece, varint_writeVarint bytes (by omega)]
  dsimp only
  rw [if_neg (by rw [keyLimit]; omega), type, key, read]
  rfl

/-- What a payload that is a field of its own contains. -/
def Payload.content? : Payload → Option Content
  | varint value => some (.varint value)
  | fixed64 => some .fixed64
  | delimited bytes => some (.delimited bytes)
  | fixed32 => some .fixed32
  | groupStart | groupEnd => none

theorem fields?_of_readPiece {bytes rest : Bytes} {number : Nat} {payload : Payload}
    {content : Content} (read : readPiece bytes = some (⟨number, payload⟩, rest))
    (whole : payload.content? = some content) :
    fields? bytes = (fields? rest).map (⟨number, content⟩ :: ·) := by
  have pieces : piece.all bytes = (piece.all rest).map (⟨number, payload⟩ :: ·) :=
    Reader.all_of_run read
  rw [fields?, fields?, pieces, Option.bind_map]
  cases piece.all rest with
  | none => rfl
  | some pieces => cases payload <;> cases whole <;> rfl

theorem length_le_writeDelimited (number : Nat) (bytes : Bytes) :
    bytes.length ≤ (writeDelimited number bytes).length := by
  rw [writeDelimited, List.length_append]
  omega

theorem fields?_writeDelimited {number : Nat} {bytes : Bytes} (rest : Bytes)
    (isNumber : IsFieldNumber number) (short : bytes.length < 2 ^ 64) :
    fields? (writeDelimited number bytes ++ rest) =
      (fields? rest).map (⟨number, .delimited bytes⟩ :: ·) := by
  have payload : readPayload 2 (writeVarint bytes.length ++ (bytes ++ rest)) =
      some (.delimited bytes, rest) := by
    rw [readPayload, varint_writeVarint _ short]
    dsimp only
    rw [takeBytes?_length]
    rfl
  rw [writeDelimited, List.append_assoc, List.append_assoc]
  exact fields?_of_readPiece (readPiece_of_payload isNumber (by decide) payload) rfl

/-! ## Messages -/

/-- All fields of a schema have numbers that can be written. -/
def Schema.Numbered {τ : Type} (schema : Schema τ) : Prop :=
  ∀ type, ∀ entry ∈ schema type, IsFieldNumber entry.1

section

variable {τ : Type} {schema : Schema τ} {budget : Nat} {type contained : τ} {number : Nat}

theorem Schema.Numbered.isFieldNumber (numbered : schema.Numbered) {shape : Shape τ}
    (known : (schema type).lookup number = some shape) : IsFieldNumber number := by
  obtain ⟨before, after, entries, -⟩ := List.lookup_eq_some_iff.mp known
  exact numbered type (number, shape) (by simp [entries])

theorem readFields_cons (inner : τ → Bytes → Option (List Record)) (field : Field)
    (rest : List Field) :
    readFields schema budget inner type (field :: rest) =
      (readFields schema budget inner type [field]).bind fun first =>
        (readFields schema budget inner type rest).map (first ++ ·) := by
  rw [readFields.eq_def, readFields.eq_def _ _ _ _ [field]]
  dsimp only
  cases (schema type).lookup field.number with
  | none =>
      dsimp only
      split
      · simp [readFields]
      · rfl
  | some shape =>
      dsimp only
      cases readShape inner field.number shape field.content with
      | none => rfl
      | some record => simp [readFields]

/-- A message whose first field is known is read field by field. -/
theorem readMessage_of_fields? {bytes rest : Bytes} {field : Field}
    (first : fields? bytes = (fields? rest).map (field :: ·)) :
    readMessage schema budget type bytes =
      (readFields schema budget (readInner schema budget) type [field]).bind fun records =>
        (readMessage schema budget type rest).map (records ++ ·) := by
  rw [readMessage_eq, readMessage_eq, first, Option.bind_map]
  cases fields? rest with
  | none => cases readFields schema budget (readInner schema budget) type [field] <;> rfl
  | some fields =>
      simp only [Option.bind_some, Function.comp_apply]
      exact readFields_cons _ field fields

/-- A delimited field that the schema knows as a message is read one level deeper. -/
theorem readFields_message (known : (schema type).lookup number = some (.message contained))
    (bytes : Bytes) :
    readFields schema (budget + 1) (readInner schema (budget + 1)) type
        [⟨number, .delimited bytes⟩] =
      (readMessage schema budget contained bytes).map fun records => [.message number records] := by
  simp only [readFields, known, readShape, readInner]
  cases readMessage schema budget contained bytes <;> rfl

/-- A message that begins with a written field is read as the record of that field and the rest. -/
theorem readMessage_writeDelimited_append (numbered : schema.Numbered) {shape : Shape τ}
    (known : (schema type).lookup number = some shape) {bytes rest : Bytes}
    (short : (writeDelimited number bytes ++ rest).length < 2 ^ 64) :
    readMessage schema budget type (writeDelimited number bytes ++ rest) =
      (readFields schema budget (readInner schema budget) type [⟨number, .delimited bytes⟩]).bind
        fun records => (readMessage schema budget type rest).map (records ++ ·) := by
  have inside := length_le_writeDelimited number bytes
  rw [List.length_append] at short
  have first := fields?_writeDelimited rest (numbered.isFieldNumber known)
    (Nat.lt_of_le_of_lt inside (by omega))
  exact readMessage_of_fields? first

theorem readMessage_writeDelimited (numbered : schema.Numbered) {shape : Shape τ}
    (known : (schema type).lookup number = some shape) {bytes : Bytes}
    (short : (writeDelimited number bytes).length < 2 ^ 64) :
    readMessage schema budget type (writeDelimited number bytes) =
      readFields schema budget (readInner schema budget) type [⟨number, .delimited bytes⟩] := by
  rw [← List.append_nil (writeDelimited number bytes)] at short ⊢
  rw [readMessage_writeDelimited_append numbered known short, readMessage_nil]
  simp

/-! ## Written messages -/

/-- Bytes that are read as some records, if a machine can hold as many. -/
def ReadsAs (schema : Schema τ) (budget : Nat) (type : τ) (bytes : Bytes) (records : List Record) :
    Prop :=
  bytes.length < 2 ^ 64 → readMessage schema budget type bytes = some records

namespace ReadsAs

theorem nil : ReadsAs schema budget type [] [] := fun _ => readMessage_nil

theorem append {bytes more : Bytes} {records others : List Record}
    (first : ReadsAs schema budget type bytes records)
    (second : ReadsAs schema budget type more others) :
    ReadsAs schema budget type (bytes ++ more) (records ++ others) := by
  intro short
  rw [List.length_append] at short
  exact readMessage_append (first (by omega)) (second (by omega))

theorem flatMap {α : Type} {write : α → Bytes} {record : α → List Record} (xs : List α)
    (each : ∀ x ∈ xs, ReadsAs schema budget type (write x) (record x)) :
    ReadsAs schema budget type (xs.flatMap write) (xs.flatMap record) := by
  induction xs with
  | nil => exact nil
  | cons x xs ih =>
      rw [List.forall_mem_cons] at each
      exact each.1.append (ih each.2)

theorem text (numbered : schema.Numbered) (known : (schema type).lookup number = some .text)
    (value : String) :
    ReadsAs schema budget type (writeDelimited number (encodeText value))
      [.text number value] := by
  intro short
  rw [readMessage_writeDelimited numbered known short]
  simp [readFields, known, readShape, decodeText?_encodeText]

theorem text? (numbered : schema.Numbered) (known : (schema type).lookup number = some .text)
    (value? : Option String) :
    ReadsAs schema budget type (writeText? number value?) (value?.toList.map (.text number)) := by
  cases value? with
  | none => exact nil
  | some value => exact text numbered known value

theorem message (numbered : schema.Numbered)
    (known : (schema type).lookup number = some (.message contained)) {bytes : Bytes}
    {records : List Record} (inner : ReadsAs schema budget contained bytes records) :
    ReadsAs schema (budget + 1) type (writeDelimited number bytes)
      [.message number records] := by
  intro short
  have inside := Nat.lt_of_le_of_lt (length_le_writeDelimited number bytes) short
  rw [readMessage_writeDelimited numbered known short, readFields_message known, inner inside]
  rfl

/-- The messages of a repeated field. -/
theorem messages {α : Type} {write : α → Bytes} {record : α → List Record}
    (numbered : schema.Numbered)
    (known : (schema type).lookup number = some (.message contained)) (xs : List α)
    (each : ∀ x ∈ xs, ReadsAs schema budget contained (write x) (record x)) :
    ReadsAs schema (budget + 1) type (xs.flatMap fun x => writeDelimited number (write x))
      (xs.flatMap fun x => [.message number (record x)]) :=
  flatMap xs fun x member => message numbered known (each x member)

end ReadsAs

end

end ProtoCompanion.Wire
