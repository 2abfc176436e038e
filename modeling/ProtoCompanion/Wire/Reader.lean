/-
Module: ProtoCompanion.Wire.Reader
Purpose: Readers that take one item after the other off the front of a list of bytes.
Main exports: Bytes, Reader, Reader.all, takeBytes?
-/

namespace ProtoCompanion.Wire

/-- Serialized data. -/
abbrev Bytes : Type := List UInt8

/-- A reader takes an item off the front of the bytes, or refuses them.  It uses up at least one
byte, so that reading can be repeated up to the end of the bytes. -/
structure Reader (α : Type) where
  run : Bytes → Option (α × Bytes)
  shortens : ∀ {bytes : Bytes} {item : α} {rest : Bytes},
    run bytes = some (item, rest) → rest.length < bytes.length

/-- Read items up to the end of the bytes.  If one of them is refused, all are. -/
def Reader.all {α : Type} (reader : Reader α) (bytes : Bytes) : Option (List α) :=
  match bytes with
  | [] => some []
  | byte :: tail =>
      match h : reader.run (byte :: tail) with
      | none => none
      | some (item, rest) =>
          have : rest.length < (byte :: tail).length := reader.shortens h
          (reader.all rest).map (item :: ·)
termination_by bytes.length
decreasing_by exact this

/-- The first `count` bytes and those after them, if there are that many. -/
def takeBytes? (count : Nat) (bytes : Bytes) : Option (Bytes × Bytes) :=
  if count ≤ bytes.length then some (bytes.take count, bytes.drop count) else none

theorem length_le_of_takeBytes? {count : Nat} {bytes taken rest : Bytes}
    (h : takeBytes? count bytes = some (taken, rest)) : rest.length ≤ bytes.length := by
  unfold takeBytes? at h
  split at h
  · simp only [Option.some.injEq, Prod.mk.injEq] at h
    obtain ⟨-, rfl⟩ := h
    simp
  · simp at h

end ProtoCompanion.Wire
