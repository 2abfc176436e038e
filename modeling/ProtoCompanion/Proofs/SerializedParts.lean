/-
Module: ProtoCompanion.Proofs.SerializedParts
Purpose: The parts of a serialized message by field number, how a schema reads them, and messages
  whose bytes are put one after the other.
Main exports: Wire.partsOf, Wire.readMessage_append, Wire.readMessage_parts,
  Wire.readMessage_flatten
-/
import Mathlib.Data.List.Forall2
import ProtoCompanion.Wire.Record

/-!
Where the bytes of a message end is not marked in them.  A reader that has accepted some bytes does
the same with them when more bytes follow, so two messages put one after the other are read as the
records of the first and then those of the second.

The parts of a message are found without a schema.  A schema that knows a field as a message reads
each part of that field, in order, one level deeper; two schemas that both know the field therefore
number its occurrences alike.
-/

namespace ProtoCompanion.Wire

/-! ## Bytes that are followed by others -/

theorem readVarint_append {limit : Nat} {bytes rest : Bytes} {value : Nat} (more : Bytes)
    (read : readVarint limit bytes = some (value, rest)) :
    readVarint limit (bytes ++ more) = some (value, rest ++ more) := by
  induction limit generalizing bytes rest value with
  | zero => simp [readVarint] at read
  | succ limit ih =>
      cases bytes with
      | nil => simp [readVarint] at read
      | cons byte tail =>
          simp only [readVarint, List.cons_append] at read ⊢
          by_cases last : byte.toNat < 128
          · simp only [last, if_true] at read ⊢
            by_cases tooLarge : limit = 0 ∧ 1 < byte.toNat
            · simp [tooLarge] at read
            · simp only [tooLarge, if_false, Option.some.injEq, Prod.mk.injEq] at read ⊢
              simp [read]
          · simp only [last, if_false] at read ⊢
            cases inner : readVarint limit tail with
            | none => simp [inner] at read
            | some found =>
                rw [inner] at read
                simp only [Option.some.injEq, Prod.mk.injEq] at read
                rw [ih inner]
                simp [read]

theorem takeBytes?_append {count : Nat} {bytes taken rest : Bytes} (more : Bytes)
    (took : takeBytes? count bytes = some (taken, rest)) :
    takeBytes? count (bytes ++ more) = some (taken, rest ++ more) := by
  unfold takeBytes? at took ⊢
  by_cases enough : count ≤ bytes.length
  · simp only [enough, if_true, Option.some.injEq, Prod.mk.injEq] at took
    obtain ⟨rfl, rfl⟩ := took
    have stillEnough : count ≤ (bytes ++ more).length := by
      rw [List.length_append]
      omega
    rw [if_pos stillEnough, List.take_append_of_le_length enough,
      List.drop_append_of_le_length enough]
  · simp [enough] at took

theorem varint_append {bytes rest : Bytes} {value : Nat} (more : Bytes)
    (read : varint.run bytes = some (value, rest)) :
    varint.run (bytes ++ more) = some (value, rest ++ more) :=
  readVarint_append more read

theorem readPayload_append {wireType : Nat} {bytes rest : Bytes} {payload : Payload}
    (more : Bytes) (read : readPayload wireType bytes = some (payload, rest)) :
    readPayload wireType (bytes ++ more) = some (payload, rest ++ more) := by
  unfold readPayload at read ⊢
  split at read
  · obtain ⟨⟨value, left⟩, found, same⟩ := Option.map_eq_some_iff.mp read
    simp only [Prod.mk.injEq] at same
    simp [varint_append more found, same]
  · obtain ⟨⟨taken, left⟩, found, same⟩ := Option.map_eq_some_iff.mp read
    simp only [Prod.mk.injEq] at same
    simp [takeBytes?_append more found, same]
  · cases found : varint.run bytes with
    | none => simp [found] at read
    | some prefixed =>
        rw [found] at read
        obtain ⟨⟨taken, left⟩, took, same⟩ := Option.map_eq_some_iff.mp read
        simp only [Prod.mk.injEq] at same
        simp [varint_append more found, takeBytes?_append more took, same]
  · simp only [Option.some.injEq, Prod.mk.injEq] at read
    simp [read]
  · simp only [Option.some.injEq, Prod.mk.injEq] at read
    simp [read]
  · obtain ⟨⟨taken, left⟩, found, same⟩ := Option.map_eq_some_iff.mp read
    simp only [Prod.mk.injEq] at same
    simp [takeBytes?_append more found, same]
  · simp at read

theorem readPiece_append {bytes rest : Bytes} {found : Piece} (more : Bytes)
    (read : readPiece bytes = some (found, rest)) :
    readPiece (bytes ++ more) = some (found, rest ++ more) := by
  unfold readPiece at read ⊢
  cases key : varint.run bytes with
  | none => simp [key] at read
  | some start =>
      rw [key] at read
      rw [varint_append more key]
      dsimp only at read ⊢
      by_cases malformed : keyLimit ≤ start.1 ∨ start.1 / 8 = 0
      · rw [if_pos malformed] at read
        simp at read
      · rw [if_neg malformed] at read ⊢
        obtain ⟨⟨payload, left⟩, held, same⟩ := Option.map_eq_some_iff.mp read
        simp only [Prod.mk.injEq] at same
        simp [readPayload_append more held, same]

/-! ## Messages that are followed by others -/

namespace Reader

variable {α : Type}

theorem all_nil (reader : Reader α) : reader.all [] = some [] := by
  rw [all]

theorem all_of_run {reader : Reader α} {bytes rest : Bytes} {item : α}
    (read : reader.run bytes = some (item, rest)) :
    reader.all bytes = (reader.all rest).map (item :: ·) := by
  cases bytes with
  | nil => exact absurd (reader.shortens read) (Nat.not_lt_zero _)
  | cons byte tail =>
      rw [all]
      split
      · next refused => simp [refused] at read
      · next found left taken =>
          rw [taken] at read
          simp only [Option.some.injEq, Prod.mk.injEq] at read
          obtain ⟨rfl, rfl⟩ := read
          rfl

theorem run_of_all {reader : Reader α} {bytes : Bytes} {items : List α} (nonempty : bytes ≠ [])
    (read : reader.all bytes = some items) :
    ∃ item rest others, reader.run bytes = some (item, rest) ∧ reader.all rest = some others ∧
      items = item :: others := by
  cases first : reader.run bytes with
  | none =>
      cases bytes with
      | nil => exact absurd rfl nonempty
      | cons byte tail =>
          rw [all] at read
          split at read
          · simp at read
          · next found => simp [first] at found
  | some found =>
      rw [all_of_run first] at read
      obtain ⟨others, readOthers, same⟩ := Option.map_eq_some_iff.mp read
      exact ⟨found.1, found.2, others, rfl, readOthers, same.symm⟩

/-- The induction is on the length of the first bytes, which every item shortens. -/
theorem all_append {reader : Reader α}
    (extend : ∀ {bytes rest : Bytes} {item : α} (more : Bytes),
      reader.run bytes = some (item, rest) → reader.run (bytes ++ more) = some (item, rest ++ more))
    {bytes more : Bytes} {items others : List α} (first : reader.all bytes = some items)
    (second : reader.all more = some others) :
    reader.all (bytes ++ more) = some (items ++ others) := by
  induction length : bytes.length using Nat.strongRecOn generalizing bytes items with
  | ind size ih =>
      by_cases empty : bytes = []
      · subst empty
        rw [all_nil, Option.some.injEq] at first
        rw [← first]
        exact second
      · obtain ⟨item, rest, later, read, readLater, same⟩ := run_of_all empty first
        have shorter := reader.shortens read
        rw [length] at shorter
        rw [all_of_run (extend more read), ih rest.length shorter readLater rfl, same]
        rfl

end Reader

theorem gather_nil (depth : Nat) (pieces : List Piece) :
    gather [] depth pieces = gather [] 0 pieces := by
  cases pieces <;> rfl

/-- The induction is on the first pieces; at their end no group is open. -/
theorem gather_append {opened : List Nat} {depth : Nat} {pieces more : List Piece}
    {fields others : List Field} (first : gather opened depth pieces = some fields)
    (second : gather [] 0 more = some others) :
    gather opened depth (pieces ++ more) = some (fields ++ others) := by
  induction pieces generalizing opened depth fields with
  | nil =>
      by_cases closed : opened = []
      · subst closed
        simp only [gather, if_true, Option.some.injEq] at first
        rw [List.nil_append, gather_nil, second, ← first]
        rfl
      · simp [gather, closed] at first
  | cons piece rest ih =>
      have grow : ∀ field : Field, (gather [] 0 rest).map (field :: ·) = some fields →
          (gather [] 0 (rest ++ more)).map (field :: ·) = some (fields ++ others) := by
        intro field gathered
        obtain ⟨later, gatheredLater, same⟩ := Option.map_eq_some_iff.mp gathered
        rw [ih gatheredLater, ← same]
        rfl
      obtain ⟨number, payload⟩ := piece
      cases opened with
      | nil =>
          cases payload with
          | varint value => exact grow _ first
          | fixed64 => exact grow _ first
          | delimited bytes => exact grow _ first
          | fixed32 => exact grow _ first
          | groupStart => exact ih first
          | groupEnd => simp [gather] at first
      | cons innermost outer =>
          cases payload with
          | varint value => exact ih first
          | fixed64 => exact ih first
          | delimited bytes => exact ih first
          | fixed32 => exact ih first
          | groupStart => exact ih first
          | groupEnd =>
              simp only [gather, List.cons_append] at first ⊢
              by_cases matching : number ≠ innermost
              · simp [matching] at first
              · rw [if_neg matching] at first ⊢
                by_cases outermost : outer = []
                · rw [if_pos outermost] at first ⊢
                  exact grow _ first
                · rw [if_neg outermost] at first ⊢
                  exact ih first

theorem fields?_append {bytes more : Bytes} {fields others : List Field}
    (first : fields? bytes = some fields) (second : fields? more = some others) :
    fields? (bytes ++ more) = some (fields ++ others) := by
  obtain ⟨pieces, readPieces, gathered⟩ := Option.bind_eq_some_iff.mp first
  obtain ⟨morePieces, readMore, gatheredMore⟩ := Option.bind_eq_some_iff.mp second
  rw [fields?, Reader.all_append readPiece_append readPieces readMore]
  exact gather_append gathered gatheredMore

/-! ## Parts by field number -/

/-- The contents of the delimited fields with a number, in order. -/
def delimitedOf (number : Nat) (fields : List Field) : List Bytes :=
  fields.filterMap fun field =>
    match field.content with
    | .delimited bytes => if field.number = number then some bytes else none
    | _ => none

/-- The parts of a serialized message that stand in a field, in order. -/
def partsOf (number : Nat) (bytes : Bytes) : List Bytes :=
  delimitedOf number ((fields? bytes).getD [])

/-- The single part of a serialized message that stands in a field: all its occurrences, put one
after the other. -/
def mergedPart? (number : Nat) (bytes : Bytes) : Option Bytes :=
  match partsOf number bytes with
  | [] => none
  | parts => some parts.flatten

section

variable {τ : Type} {schema : Schema τ} {budget : Nat} {type contained : τ} {number : Nat}
  {inner : τ → Bytes → Option (List Record)}

/-! ## Reading by a schema -/

theorem readFields_append {fields more : List Field} {records others : List Record}
    (first : readFields schema budget inner type fields = some records)
    (second : readFields schema budget inner type more = some others) :
    readFields schema budget inner type (fields ++ more) = some (records ++ others) := by
  induction fields generalizing records with
  | nil =>
      simp only [readFields, Option.some.injEq] at first
      rw [← first]
      exact second
  | cons field rest ih =>
      simp only [List.cons_append, readFields] at first ⊢
      cases known : (schema type).lookup field.number with
      | none =>
          simp only [known] at first ⊢
          by_cases within : field.depth ≤ budget
          · rw [if_pos within] at first ⊢
            exact ih first
          · simp [within] at first
      | some shape =>
          simp only [known] at first ⊢
          cases read : readShape inner field.number shape field.content with
          | none => simp [read] at first
          | some record =>
              simp only [read] at first ⊢
              obtain ⟨later, readLater, same⟩ := Option.map_eq_some_iff.mp first
              rw [ih readLater, ← same]
              rfl

/-- The reader of messages one level deeper; where no levels are left there is none. -/
def readInner (schema : Schema τ) : Nat → τ → Bytes → Option (List Record)
  | 0 => fun _ _ => none
  | more + 1 => readMessage schema more

theorem readMessage_eq (bytes : Bytes) :
    readMessage schema budget type bytes =
      (fields? bytes).bind (readFields schema budget (readInner schema budget) type) := by
  cases budget <;> rw [readMessage] <;> rfl

theorem readMessage_append {bytes more : Bytes} {records others : List Record}
    (first : readMessage schema budget type bytes = some records)
    (second : readMessage schema budget type more = some others) :
    readMessage schema budget type (bytes ++ more) = some (records ++ others) := by
  rw [readMessage_eq] at first second ⊢
  obtain ⟨fields, gathered, read⟩ := Option.bind_eq_some_iff.mp first
  obtain ⟨moreFields, gatheredMore, readMore⟩ := Option.bind_eq_some_iff.mp second
  rw [fields?_append gathered gatheredMore]
  exact readFields_append read readMore

theorem readMessage_nil : readMessage schema budget type [] = some [] := by
  rw [readMessage_eq, fields?, Reader.all_nil]
  rfl

theorem readMessage_flatten {parts : List Bytes} {records : List (List Record)}
    (read : List.Forall₂ (fun part records => readMessage schema budget type part = some records)
      parts records) :
    readMessage schema budget type parts.flatten = some records.flatten := by
  induction read with
  | nil => exact readMessage_nil
  | cons first _ ih => exact readMessage_append first ih

/-! ## Reading parts -/

theorem messagesOf_cons_of_ne {shape : Shape τ} {content : Content} {record : Record}
    {other : Nat} (read : readShape inner other shape content = some record)
    (different : other ≠ number) (rest : List Record) :
    Record.messagesOf number (record :: rest) = Record.messagesOf number rest := by
  cases shape <;> cases content <;> simp [readShape] at read <;>
    first
      | (subst read; rfl)
      | (obtain ⟨found, -, same⟩ := read
         subst same
         simp [Record.messagesOf, different])

/-- The records of a field that holds messages are those of its parts, and no field of that number
is anything but such a part. -/
theorem readFields_parts (known : (schema type).lookup number = some (.message contained))
    {fields : List Field} {records : List Record}
    (read : readFields schema budget inner type fields = some records) :
    List.Forall₂ (fun part records => inner contained part = some records)
        (delimitedOf number fields) (Record.messagesOf number records) ∧
      ∀ field ∈ fields, field.number = number → delimitedOf number fields ≠ [] := by
  induction fields generalizing records with
  | nil =>
      simp only [readFields, Option.some.injEq] at read
      subst read
      exact ⟨.nil, by simp⟩
  | cons field rest ih =>
      simp only [readFields] at read
      by_cases here : field.number = number
      · rw [here, known] at read
        dsimp only at read
        cases content : field.content with
        | delimited bytes =>
            simp only [content, readShape] at read
            cases held : inner contained bytes with
            | none => simp [held] at read
            | some found =>
                simp only [held, Option.map_some] at read
                obtain ⟨later, readLater, same⟩ := Option.map_eq_some_iff.mp read
                have isPart : delimitedOf number (field :: rest) =
                    bytes :: delimitedOf number rest := by
                  simp [delimitedOf, content, here]
                have isRecord : Record.messagesOf number records =
                    found :: Record.messagesOf number later := by
                  simp [← same, Record.messagesOf]
                rw [isPart, isRecord]
                exact ⟨.cons held (ih readLater).1, by simp⟩
        | varint value => simp [content, readShape] at read
        | fixed64 => simp [content, readShape] at read
        | fixed32 => simp [content, readShape] at read
        | group depth => simp [content, readShape] at read
      · have notPart : delimitedOf number (field :: rest) = delimitedOf number rest := by
          cases content : field.content <;> simp [delimitedOf, content, here]
        have fieldsAfter : ∀ other ∈ field :: rest, other.number = number → other ∈ rest := by
          intro other member isNumber
          rcases List.mem_cons.mp member with same | later
          · exact absurd (same ▸ isNumber) here
          · exact later
        cases shape? : (schema type).lookup field.number with
        | none =>
            simp only [shape?] at read
            by_cases within : field.depth ≤ budget
            · rw [if_pos within] at read
              rw [notPart]
              exact ⟨(ih read).1, fun other member isNumber =>
                (ih read).2 other (fieldsAfter other member isNumber) isNumber⟩
            · simp [within] at read
        | some shape =>
            simp only [shape?] at read
            cases held : readShape inner field.number shape field.content with
            | none => simp [held] at read
            | some record =>
                simp only [held] at read
                obtain ⟨later, readLater, same⟩ := Option.map_eq_some_iff.mp read
                rw [notPart, ← same, messagesOf_cons_of_ne held here]
                exact ⟨(ih readLater).1, fun other member isNumber =>
                  (ih readLater).2 other (fieldsAfter other member isNumber) isNumber⟩

/-- The messages of a repeated field are read from the parts of the field, in order. -/
theorem readMessage_parts (known : (schema type).lookup number = some (.message contained))
    {bytes : Bytes} {records : List Record}
    (read : readMessage schema (budget + 1) type bytes = some records) :
    List.Forall₂ (fun part records => readMessage schema budget contained part = some records)
      (partsOf number bytes) (Record.messagesOf number records) := by
  rw [readMessage_eq] at read
  obtain ⟨fields, gathered, readAll⟩ := Option.bind_eq_some_iff.mp read
  rw [partsOf, gathered]
  exact (readFields_parts known readAll).1

/-- The message of a single field is read from all its parts, put one after the other. -/
theorem readMessage_mergedPart (budget number : Nat)
    (known : (schema type).lookup number = some (.message contained))
    {bytes : Bytes} {records : List Record}
    (read : readMessage schema (budget + 1) type bytes = some records) :
    Option.Rel (fun part records => readMessage schema budget contained part = some records)
      (mergedPart? number bytes) (Record.messageOf? number records) := by
  have parts := readMessage_parts known read
  rw [mergedPart?, Record.messageOf?]
  generalize partsOf number bytes = found at parts
  generalize Record.messagesOf number records = read at parts
  cases parts with
  | nil => exact .none
  | cons first others => exact .some (readMessage_flatten (.cons first others))

/-- A message has a part in a field exactly when it has the field at all. -/
theorem mergedPart?_isSome_iff (budget number : Nat)
    (known : (schema type).lookup number = some (.message contained))
    {bytes : Bytes} {records : List Record}
    (read : readMessage schema (budget + 1) type bytes = some records) :
    (mergedPart? number bytes).isSome ↔
      ∃ field ∈ (fields? bytes).getD [], field.number = number := by
  rw [readMessage_eq] at read
  obtain ⟨fields, gathered, readAll⟩ := Option.bind_eq_some_iff.mp read
  rw [mergedPart?, partsOf, gathered, Option.getD_some]
  have noOther := (readFields_parts known readAll).2
  constructor
  · intro present
    cases parts : delimitedOf number fields with
    | nil => simp [parts] at present
    | cons part others =>
        have member : part ∈ delimitedOf number fields := by simp [parts]
        obtain ⟨field, isField, isPart⟩ := List.mem_filterMap.mp member
        refine ⟨field, isField, ?_⟩
        cases content : field.content <;> simp [content] at isPart
        exact isPart.1
  · intro ⟨field, isField, isNumber⟩
    have parts := noOther field isField isNumber
    cases found : delimitedOf number fields with
    | nil => exact absurd found parts
    | cons part others => rfl

end

/-! ## Views of records -/

namespace Record

theorem messagesOf_flatMap {α : Type} (number : Nat) (record : α → List Record) (xs : List α) :
    messagesOf number (xs.flatMap fun x => [.message number (record x)]) = xs.map record := by
  induction xs with
  | nil => rfl
  | cons x xs ih =>
      rw [List.flatMap_cons, List.map_cons, ← ih]
      simp [messagesOf]

theorem textsOf_flatMap_message {α : Type} (number other : Nat) (record : α → List Record)
    (xs : List α) : textsOf number (xs.flatMap fun x => [.message other (record x)]) = [] := by
  induction xs with
  | nil => rfl
  | cons x xs ih => exact ih

theorem numbersOf_flatMap_message {α : Type} (number other : Nat) (record : α → List Record)
    (xs : List α) : numbersOf number (xs.flatMap fun x => [.message other (record x)]) = [] := by
  induction xs with
  | nil => rfl
  | cons x xs ih => exact ih

theorem textsOf_append (number : Nat) (records more : List Record) :
    textsOf number (records ++ more) = textsOf number records ++ textsOf number more :=
  List.filterMap_append

theorem messagesOf_append (number : Nat) (records more : List Record) :
    messagesOf number (records ++ more) = messagesOf number records ++ messagesOf number more :=
  List.filterMap_append

/-- Of a single text, the last occurrence counts. -/
theorem textOf?_append (number : Nat) (records more : List Record) :
    textOf? number (records ++ more) = (textOf? number more).or (textOf? number records) := by
  rw [textOf?, textsOf_append, List.getLast?_append, textOf?, textOf?]

end Record

end ProtoCompanion.Wire
