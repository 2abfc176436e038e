/-
Module: ProtoCompanion.Wire.Field
Purpose: The fields of a serialized message, without regard to what they mean.
Main exports: Payload, Piece, piece, Field, fields?, writeDelimited
-/
import ProtoCompanion.Wire.Varint

/-!
A message is a sequence of pieces, each with a field number and a payload.  The pieces from the
start of a group to its end make one field; all other pieces are fields of their own.
-/

namespace ProtoCompanion.Wire

/-! ## Pieces -/

/-- What stands behind a field number.  Payloads of fixed width are passed over, since no field
that is read has one. -/
inductive Payload where
  | varint (value : Nat)
  | fixed64
  | delimited (bytes : Bytes)
  | groupStart
  | groupEnd
  | fixed32
deriving Repr, DecidableEq, Inhabited

/-- A field number with a payload. -/
structure Piece where
  number : Nat
  payload : Payload
deriving Repr, DecidableEq, Inhabited

/-- Read the payload for a wire type. -/
def readPayload (wireType : Nat) (bytes : Bytes) : Option (Payload × Bytes) :=
  match wireType with
  | 0 => (varint.run bytes).map fun (value, rest) => (.varint value, rest)
  | 1 => (takeBytes? 8 bytes).map fun (_, rest) => (.fixed64, rest)
  | 2 =>
      match varint.run bytes with
      | none => none
      | some (length, rest) =>
          (takeBytes? length rest).map fun (taken, rest) => (.delimited taken, rest)
  | 3 => some (.groupStart, bytes)
  | 4 => some (.groupEnd, bytes)
  | 5 => (takeBytes? 4 bytes).map fun (_, rest) => (.fixed32, rest)
  | _ => none

theorem length_le_of_readPayload {wireType : Nat} {bytes : Bytes} {payload : Payload}
    {rest : Bytes} (h : readPayload wireType bytes = some (payload, rest)) :
    rest.length ≤ bytes.length := by
  unfold readPayload at h
  split at h
  · simp only [Option.map_eq_some_iff, Prod.exists, Prod.mk.injEq] at h
    obtain ⟨value, left, read, -, rfl⟩ := h
    exact Nat.le_of_lt (varint.shortens read)
  · simp only [Option.map_eq_some_iff, Prod.exists, Prod.mk.injEq] at h
    obtain ⟨taken, left, read, -, rfl⟩ := h
    exact length_le_of_takeBytes? read
  · split at h
    · simp at h
    · rename_i length left read
      simp only [Option.map_eq_some_iff, Prod.exists, Prod.mk.injEq] at h
      obtain ⟨taken, last, took, -, rfl⟩ := h
      exact Nat.le_trans (length_le_of_takeBytes? took) (Nat.le_of_lt (varint.shortens read))
  · simp only [Option.some.injEq, Prod.mk.injEq] at h
    exact Nat.le_of_eq (congrArg List.length h.2.symm)
  · simp only [Option.some.injEq, Prod.mk.injEq] at h
    exact Nat.le_of_eq (congrArg List.length h.2.symm)
  · simp only [Option.map_eq_some_iff, Prod.exists, Prod.mk.injEq] at h
    obtain ⟨taken, left, read, -, rfl⟩ := h
    exact length_le_of_takeBytes? read
  · simp at h

/-- The first number that is too large for a key, which has 32 bits. -/
def keyLimit : Nat := 0x100000000

/-- Read one piece.  Its key holds the field number, which is not zero, and the wire type. -/
def readPiece (bytes : Bytes) : Option (Piece × Bytes) :=
  match varint.run bytes with
  | none => none
  | some (key, rest) =>
      if keyLimit ≤ key ∨ key / 8 = 0 then none
      else (readPayload (key % 8) rest).map fun (payload, rest) => (⟨key / 8, payload⟩, rest)

theorem length_lt_of_readPiece {bytes : Bytes} {piece : Piece} {rest : Bytes}
    (h : readPiece bytes = some (piece, rest)) : rest.length < bytes.length := by
  unfold readPiece at h
  split at h
  · simp at h
  · rename_i key left read
    split at h
    · simp at h
    · simp only [Option.map_eq_some_iff, Prod.exists, Prod.mk.injEq] at h
      obtain ⟨payload, last, took, -, rfl⟩ := h
      exact Nat.lt_of_le_of_lt (length_le_of_readPayload took) (varint.shortens read)

/-- The reader of pieces. -/
def piece : Reader Piece where
  run := readPiece
  shortens := length_lt_of_readPiece

/-! ## Fields -/

/-- The contents of a field.  Of a group only the depth is kept, counting the group itself. -/
inductive Content where
  | varint (value : Nat)
  | fixed64
  | delimited (bytes : Bytes)
  | fixed32
  | group (depth : Nat)
deriving Repr, DecidableEq, Inhabited

/-- A field number with the contents that follow it. -/
structure Field where
  number : Nat
  content : Content
deriving Repr, DecidableEq, Inhabited

/-- How many levels of nesting it takes to pass over a field. -/
def Field.depth (field : Field) : Nat :=
  match field.content with
  | .group depth => depth
  | _ => 1

/-- Gather pieces into fields.  `opened` holds the numbers of the groups that are still open, the
innermost first, and `depth` the depth of the outermost of them so far.  An end that does not match
the innermost start is refused, and so is a group that is never closed. -/
def gather (opened : List Nat) (depth : Nat) : List Piece → Option (List Field)
  | [] => if opened = [] then some [] else none
  | ⟨number, payload⟩ :: rest =>
      match opened with
      | [] =>
          match payload with
          | .varint value => (gather [] 0 rest).map (⟨number, .varint value⟩ :: ·)
          | .fixed64 => (gather [] 0 rest).map (⟨number, .fixed64⟩ :: ·)
          | .delimited bytes => (gather [] 0 rest).map (⟨number, .delimited bytes⟩ :: ·)
          | .fixed32 => (gather [] 0 rest).map (⟨number, .fixed32⟩ :: ·)
          | .groupStart => gather [number] 1 rest
          | .groupEnd => none
      | innermost :: outer =>
          match payload with
          | .groupEnd =>
              if number ≠ innermost then none
              else if outer = [] then (gather [] 0 rest).map (⟨number, .group depth⟩ :: ·)
              else gather outer depth rest
          | .groupStart => gather (number :: opened) (max depth (opened.length + 1)) rest
          | _ => gather opened (max depth (opened.length + 1)) rest

/-- The fields of a serialized message. -/
def fields? (bytes : Bytes) : Option (List Field) :=
  (piece.all bytes).bind (gather [] 0)

/-! ## Writing -/

/-- A field with delimited contents. -/
def writeDelimited (number : Nat) (bytes : Bytes) : Bytes :=
  writeVarint (number * 8 + 2) ++ writeVarint bytes.length ++ bytes

end ProtoCompanion.Wire
