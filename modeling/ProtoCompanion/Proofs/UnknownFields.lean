/-
Module: ProtoCompanion.Proofs.UnknownFields
Purpose: Unknown fields between the fields of a message, at any level of nesting, are passed over.
Main exports: Wire.StrayField, Wire.Padded, Wire.Padded.readMessage_eq
-/
import ProtoCompanion.Proofs.WrittenFields

/-!
To pass over a field takes one level of nesting, as if there were a message in it.  So nothing can
be passed over in the messages that stand at the limit.
-/

namespace ProtoCompanion.Wire

/-! ## Fields of any type -/

/-- The contents of a field, with a constructor for each wire type that is not a group. -/
inductive StrayContent where
  | varint (value : UInt64)
  | fixed64 (bytes : Vector UInt8 8)
  | delimited (bytes : Bytes)
  | fixed32 (bytes : Vector UInt8 4)

namespace StrayContent

def wireType : StrayContent → Nat
  | varint _ => 0
  | fixed64 _ => 1
  | delimited _ => 2
  | fixed32 _ => 5

/-- The bytes that stand behind the key. -/
def write : StrayContent → Bytes
  | varint value => writeVarint value.toNat
  | fixed64 bytes => bytes.toList
  | delimited bytes => writeVarint bytes.length ++ bytes
  | fixed32 bytes => bytes.toList

/-- What a reader of pieces makes of them. -/
def payload : StrayContent → Payload
  | varint value => .varint value.toNat
  | fixed64 _ => .fixed64
  | delimited bytes => .delimited bytes
  | fixed32 _ => .fixed32

end StrayContent

/-- A field as it may be written by someone with another schema. -/
structure StrayField where
  number : Nat
  content : StrayContent
  isFieldNumber : IsFieldNumber number

/-- The key of the field and its contents. -/
def StrayField.write (field : StrayField) : Bytes :=
  writeVarint (field.number * 8 + field.content.wireType) ++ field.content.write

theorem StrayContent.readPayload_write (content : StrayContent) (rest : Bytes)
    (short : content.write.length < 2 ^ 64) :
    readPayload content.wireType (content.write ++ rest) = some (content.payload, rest) := by
  cases content with
  | varint value =>
      simp only [wireType, write, payload, readPayload,
        varint_writeVarint rest value.toNat_lt, Option.map_some]
  | fixed64 bytes =>
      have eight : bytes.toList.length = 8 := bytes.length_toList
      have taken := takeBytes?_length bytes.toList rest
      rw [eight] at taken
      simp only [wireType, write, payload, readPayload, taken, Option.map_some]
  | fixed32 bytes =>
      have four : bytes.toList.length = 4 := bytes.length_toList
      have taken := takeBytes?_length bytes.toList rest
      rw [four] at taken
      simp only [wireType, write, payload, readPayload, taken, Option.map_some]
  | delimited bytes =>
      have fits : bytes.length < 2 ^ 64 := by
        rw [write, List.length_append] at short
        omega
      simp only [wireType, write, payload, readPayload, List.append_assoc,
        varint_writeVarint _ fits, takeBytes?_length, Option.map_some]

theorem StrayContent.wireType_lt (content : StrayContent) : content.wireType < 8 := by
  cases content <;> simp [wireType]

/-- The contents are a field of their own, of depth one. -/
theorem StrayContent.exists_content (content : StrayContent) :
    ∃ whole, content.payload.content? = some whole ∧
      ∀ number, (Field.mk number whole).depth = 1 := by
  cases content <;> exact ⟨_, rfl, fun _ => rfl⟩

theorem StrayField.fields?_write (field : StrayField) (rest : Bytes)
    (short : field.write.length < 2 ^ 64) :
    ∃ read : Field, read.number = field.number ∧ read.depth = 1 ∧
      fields? (field.write ++ rest) = (fields? rest).map (read :: ·) := by
  rw [write, List.length_append] at short
  obtain ⟨whole, isWhole, isDepth⟩ := field.content.exists_content
  have payload := field.content.readPayload_write rest (by omega)
  have piece := readPiece_of_payload field.isFieldNumber field.content.wireType_lt payload
  refine ⟨⟨field.number, whole⟩, rfl, isDepth _, ?_⟩
  rw [write, List.append_assoc]
  exact fields?_of_readPiece piece isWhole

/-! ## Padding -/

section

variable {τ : Type} {schema : Schema τ} {levels : Nat} {type : τ}

/-- The second message is the first one with unknown fields inserted between its fields, and the
same again in the messages that its fields contain.  Only messages that are fewer than `levels`
levels below the outermost one have fields inserted. -/
inductive Padded (schema : Schema τ) : Nat → τ → Bytes → Bytes → Prop where
  | nil {levels : Nat} {type : τ} : Padded schema levels type [] []
  /-- An unknown field is inserted. -/
  | insert {levels : Nat} {type : τ} {plain padded : Bytes} (field : StrayField)
      (unknown : (schema type).lookup field.number = none)
      (rest : Padded schema (levels + 1) type plain padded) :
      Padded schema (levels + 1) type plain (field.write ++ padded)
  /-- A field stays as it is. -/
  | keep {levels : Nat} {type : τ} {number : Nat} {shape : Shape τ} {plain padded : Bytes}
      (known : (schema type).lookup number = some shape) (content : Bytes)
      (rest : Padded schema levels type plain padded) :
      Padded schema levels type (writeDelimited number content ++ plain)
        (writeDelimited number content ++ padded)
  /-- Unknown fields are inserted in the message that a field contains. -/
  | enter {levels : Nat} {type contained : τ} {number : Nat}
      {content paddedContent plain padded : Bytes}
      (known : (schema type).lookup number = some (.message contained))
      (inner : Padded schema levels contained content paddedContent)
      (rest : Padded schema (levels + 1) type plain padded) :
      Padded schema (levels + 1) type (writeDelimited number content ++ plain)
        (writeDelimited number paddedContent ++ padded)

/-- An unknown field is passed over where there is a level of nesting left for it. -/
theorem readMessage_insert {field : StrayField} {rest : Bytes}
    (unknown : (schema type).lookup field.number = none)
    (short : (field.write ++ rest).length < 2 ^ 64) :
    readMessage schema levels type (field.write ++ rest) =
      if levels = 0 then none else readMessage schema levels type rest := by
  rw [List.length_append] at short
  obtain ⟨read, isNumber, isDepth, first⟩ := field.fields?_write rest (by omega)
  rw [readMessage_of_fields? first, readFields, isNumber, unknown]
  dsimp only
  rw [isDepth]
  cases levels with
  | zero => rfl
  | succ more =>
      rw [if_pos (by omega), if_neg (by omega), readFields, Option.bind_some]
      cases readMessage schema (more + 1) type rest <;> rfl

namespace Padded

variable {plain padded : Bytes}

theorem single {contained : τ} {number : Nat}
    (known : (schema type).lookup number = some (.message contained))
    (inner : Padded schema levels contained plain padded) :
    Padded schema (levels + 1) type (writeDelimited number plain)
      (writeDelimited number padded) := by
  rw [← List.append_nil (writeDelimited number plain),
    ← List.append_nil (writeDelimited number padded)]
  exact .enter known inner .nil

theorem length_writeVarint_mono {value other : Nat} (le : value ≤ other) :
    (writeVarint value).length ≤ (writeVarint other).length := by
  fun_induction writeVarint value generalizing other with
  | case1 value small =>
      rw [writeVarint]
      split <;> simp
  | case2 value large ih =>
      rw [writeVarint.eq_def other, if_neg (by omega), List.length_cons, List.length_cons]
      have later := ih (Nat.div_le_div_right (c := 128) le)
      omega

/-- Padding makes a message longer. -/
theorem length_le (isPadded : Padded schema levels type plain padded) :
    plain.length ≤ padded.length := by
  induction isPadded with
  | nil => exact Nat.le_refl 0
  | insert field unknown rest ih =>
      rw [List.length_append]
      omega
  | keep known content rest ih =>
      rw [List.length_append, List.length_append]
      omega
  | enter known inner rest innerLe restLe =>
      have lengths := length_writeVarint_mono innerLe
      simp only [writeDelimited, List.length_append]
      omega

/-- A message is read as if nothing had been inserted, where padding goes no deeper than reading. -/
theorem readMessage_eq (numbered : schema.Numbered)
    (isPadded : Padded schema levels type plain padded) (short : padded.length < 2 ^ 64) :
    readMessage schema levels type padded = readMessage schema levels type plain := by
  induction isPadded with
  | nil => rfl
  | insert field unknown rest ih =>
      have after := short
      rw [List.length_append] at after
      rw [readMessage_insert unknown short, if_neg (by omega), ih (by omega)]
  | keep known content rest ih =>
      -- The plain message is no longer than the padded one, so both can be read to their end.
      have plainShort := Nat.lt_of_le_of_lt (keep known content rest).length_le short
      have after := short
      rw [List.length_append] at after
      rw [readMessage_writeDelimited_append numbered known short,
        readMessage_writeDelimited_append numbered known plainShort, ih (by omega)]
  | @enter levels type contained number content paddedContent plain padded known inner rest
      innerIh restIh =>
      have plainShort := Nat.lt_of_le_of_lt (enter known inner rest).length_le short
      have inside := length_le_writeDelimited number paddedContent
      have after := short
      rw [List.length_append] at after
      rw [readMessage_writeDelimited_append numbered known short,
        readMessage_writeDelimited_append numbered known plainShort, readFields_message known,
        readFields_message known, innerIh (by omega), restIh (by omega)]

end Padded

end

end ProtoCompanion.Wire
