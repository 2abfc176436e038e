/-
Module: ProtoCompanion.Wire.Varint
Purpose: Numbers in base 128, the least significant digit first.
Main exports: varint, writeVarint
-/
import ProtoCompanion.Wire.Reader

namespace ProtoCompanion.Wire

/-- Read a number of at most `limit` bytes.  All bytes but the last have their high bit set.  Where
only one more byte may follow, it has a single bit left to fill. -/
def readVarint (limit : Nat) (bytes : Bytes) : Option (Nat × Bytes) :=
  match limit, bytes with
  | 0, _ => none
  | _, [] => none
  | more + 1, byte :: rest =>
      if byte.toNat < 128 then
        if more = 0 ∧ 1 < byte.toNat then none else some (byte.toNat, rest)
      else
        match readVarint more rest with
        | none => none
        | some (value, rest) => some (byte.toNat - 128 + 128 * value, rest)

theorem length_lt_of_readVarint {limit : Nat} {bytes : Bytes} {value : Nat} {rest : Bytes}
    (h : readVarint limit bytes = some (value, rest)) : rest.length < bytes.length := by
  fun_induction readVarint limit bytes generalizing value rest with
  | case1 => simp at h
  | case2 => simp at h
  | case3 => simp at h
  | case4 more byte tail =>
      simp only [Option.some.injEq, Prod.mk.injEq] at h
      simp [← h.2]
  | case5 => simp at h
  | case6 more byte tail high inner left found ih =>
      simp only [Option.some.injEq, Prod.mk.injEq] at h
      have shorter := ih found
      rw [← h.2, List.length_cons]
      omega

/-- The reader of numbers below `2 ^ 64`, which take at most ten bytes. -/
def varint : Reader Nat where
  run := readVarint 10
  shortens := length_lt_of_readVarint

/-- The shortest form of a number. -/
def writeVarint (value : Nat) : Bytes :=
  if value < 128 then [UInt8.ofNat value]
  else UInt8.ofNat (value % 128 + 128) :: writeVarint (value / 128)
termination_by value
decreasing_by omega

end ProtoCompanion.Wire
