/-
Module: ProtoCompanion.Proofs.OneofMembership
Purpose: The oneof of a field, the fields of a oneof and the oneofs of a message agree.
Main exports: FieldDecl.oneof?_eq_some_iff, MessageDescriptor.mem_fieldsInOneof_iff,
  Describes.oneofName?_eq_some_iff, Describes.oneof_child, oneof_membership_agrees
-/
import ProtoCompanion.Proofs.ElementComments
import ProtoCompanion.Proofs.FieldNames
import ProtoCompanion.Proofs.RegistrationContents

/-!
The oneof of a field is given by a signed number in its declaration.  For the name of the oneof the
number is looked up in the list of oneofs.  For the fields of a oneof it is the other way round: the
place of the oneof is cut to a signed number and compared.  The oneofs themselves are registered
behind the nested messages and enums and counted on the way.  In a list that is not longer than
signed numbers reach, all three mean the same place, and a negative number means none.
-/

namespace ProtoCompanion

open Naming (accessorName)

/-! ## The number of a oneof -/

/-- As an unsigned word of 64 bits, a negative number is beyond every list. -/
theorem toNat_toUInt64_of_neg {index : Int32} (negative : ¬ 0 ≤ index) :
    2 ^ 63 ≤ index.toInt64.toUInt64.toNat := by
  have below : index.toInt64.toInt < 0 := by
    rw [Int32.toInt_toInt64]
    rw [Int32.le_iff_toInt_le] at negative
    exact Int.not_le.mp negative
  have high := BitVec.toInt_neg_iff.mp below
  change 2 ^ 63 ≤ index.toInt64.toBitVec.toNat
  omega

namespace FieldDecl

variable {field : FieldDecl} {oneofs : List OneofDecl}

/-- The number can also be cut to an unsigned word before it is looked up. -/
theorem oneof?_eq_getElem?_toUInt64 (short : oneofs.length ≤ 2 ^ 63) :
    field.oneof? oneofs =
      field.oneofIndex?.bind fun index => oneofs[index.toInt64.toUInt64.toNat]? := by
  rw [FieldDecl.oneof?]
  congr
  funext index
  split
  case isTrue positive =>
    have positiveToo : 0 ≤ index.toInt64 := by
      rw [Int64.le_iff_toInt_le, Int32.toInt_toInt64]
      exact Int32.le_iff_toInt_le.mp positive
    rw [Int64.toNat_toUInt64_of_le positiveToo, Int32.toNatClampNeg_toInt64]
  case isFalse negative =>
    rw [List.getElem?_eq_none (Nat.le_trans short (toNat_toUInt64_of_neg negative))]

theorem oneof?_eq_some_iff (few : oneofs.length < 2 ^ 31) {oneof : OneofDecl} :
    field.oneof? oneofs = some oneof ↔
      ∃ i, oneofs[i]? = some oneof ∧ field.oneofIndex? = some (Int32.ofNat i) := by
  rw [FieldDecl.oneof?, Option.bind_eq_some_iff]
  constructor
  case mp =>
    rintro ⟨index, isIndex, found⟩
    split at found
    case isTrue positive =>
      exact ⟨index.toNatClampNeg, found, by rw [isIndex, Int32.ofNat_toNatClampNeg index positive]⟩
    case isFalse => cases found
  case mpr =>
    rintro ⟨i, found, isIndex⟩
    obtain ⟨inside, -⟩ := List.getElem?_eq_some_iff.mp found
    have below : i < 2 ^ 31 := Nat.lt_trans inside few
    refine ⟨Int32.ofNat i, isIndex, ?_⟩
    rw [if_pos (Int32.zero_le_ofNat_of_lt below), Int32.toNatClampNeg_ofNat_of_lt below]
    exact found

end FieldDecl

/-! ## The fields of a oneof -/

namespace MessageDescriptor

variable {message : MessageDescriptor}

theorem mem_fieldsInOneof_iff {field : FieldDescriptor} {i : Nat} :
    field ∈ message.fieldsInOneof i ↔
      field ∈ message.fields ∧ field.decl.oneofIndex? = some (Int32.ofNat i) := by
  rw [fieldsInOneof, List.mem_filter, decide_eq_true_iff]

/-- No field is in two oneofs. -/
theorem eq_of_mem_fieldsInOneof {field : FieldDescriptor} {i j : Nat} (hi : i < 2 ^ 31)
    (hj : j < 2 ^ 31) (inFirst : field ∈ message.fieldsInOneof i)
    (inSecond : field ∈ message.fieldsInOneof j) : i = j := by
  have first := (mem_fieldsInOneof_iff.mp inFirst).2
  have second := (mem_fieldsInOneof_iff.mp inSecond).2
  exact (ofNat_eq_ofNat_iff hi hj).mp (Option.some.inj (first.symm.trans second))

theorem map_decl_fieldsInOneof (message : MessageDescriptor) (i : Nat) :
    (message.fieldsInOneof i).map FieldDescriptor.decl =
      (message.fields.map FieldDescriptor.decl).filter
        fun field => field.oneofIndex? = some (Int32.ofNat i) := by
  rw [fieldsInOneof, List.filter_map]
  rfl

end MessageDescriptor

/-! ## Registered messages -/

namespace Describes

variable {unit : FileUnit} {position : Position} {head : MessageHead} {nested : List MessageDecl}
  {message : MessageDescriptor} {children : List Descriptor}
  (describes : Describes unit ⟨position, .message (.mk head nested)⟩ (.message message children))

include describes

theorem map_decl_fieldsInOneof (i : Nat) :
    (message.fieldsInOneof i).map FieldDescriptor.decl =
      head.fields.filter fun field => field.oneofIndex? = some (Int32.ofNat i) := by
  rw [MessageDescriptor.map_decl_fieldsInOneof]
  cases describes with
  | message => rw [map_decl_fieldsAt]

theorem oneofName?_eq {field : FieldDescriptor} (member : field ∈ message.fields) :
    field.oneofName? =
      (field.decl.oneof? head.oneofs).map fun oneof => accessorName oneof.name := by
  cases describes with
  | message =>
      conv_lhs => rw [eq_ofDecl_of_mem_fieldsAt member]
      rfl

/-- The name is that of the oneof whose fields the field is one of. -/
theorem oneofName?_eq_some_iff (few : head.oneofs.length < 2 ^ 31) {field : FieldDescriptor}
    (member : field ∈ message.fields) {name : String} :
    field.oneofName? = some name ↔
      ∃ i oneof, head.oneofs[i]? = some oneof ∧ field ∈ message.fieldsInOneof i ∧
        name = accessorName oneof.name := by
  simp only [describes.oneofName?_eq member, Option.map_eq_some_iff,
    FieldDecl.oneof?_eq_some_iff few, MessageDescriptor.mem_fieldsInOneof_iff]
  constructor
  case mp =>
    rintro ⟨oneof, ⟨i, isOneof, isIndex⟩, rfl⟩
    exact ⟨i, oneof, isOneof, ⟨member, isIndex⟩, rfl⟩
  case mpr =>
    rintro ⟨i, oneof, isOneof, ⟨-, isIndex⟩, rfl⟩
    exact ⟨oneof, ⟨i, isOneof, isIndex⟩, rfl⟩

theorem isSome_oneofName?_iff (few : head.oneofs.length < 2 ^ 31) {field : FieldDescriptor}
    (member : field ∈ message.fields) :
    field.oneofName?.isSome ↔ ∃ i < head.oneofs.length, field ∈ message.fieldsInOneof i := by
  rw [Option.isSome_iff_exists]
  simp only [describes.oneofName?_eq_some_iff few member]
  constructor
  case mp =>
    rintro ⟨_, i, oneof, isOneof, inOneof, -⟩
    obtain ⟨inside, -⟩ := List.getElem?_eq_some_iff.mp isOneof
    exact ⟨i, inside, inOneof⟩
  case mpr =>
    rintro ⟨i, inside, inOneof⟩
    exact ⟨_, i, head.oneofs[i], List.getElem?_eq_getElem inside, inOneof, rfl⟩

/-- The oneofs among the children are those of the declaration, with their places in the list. -/
theorem oneof_child {i : Nat} {oneof : OneofDecl} (isOneof : head.oneofs[i]? = some oneof) :
    ∃ found : OneofDescriptor,
      (children.filter (·.kind = .oneof))[i]? = some (.oneof found) ∧ found.index = i ∧
        Describes unit
          ⟨(position.inList (.nestedOneofs head.name)).element i, .oneof i oneof⟩
          (.oneof found) := by
  have childrenDescribe : List.Forall₂ (Describes unit)
      (Site.children ⟨position, .message (.mk head nested)⟩) children := describes.children
  have described := describes_children childrenDescribe .oneof
  simp only [if_true, reduceCtorEq, if_false, List.nil_append] at described
  have related := rel_getElem? described i
  rw [Position.sites, Position.sitesFrom, Position.getElem?_elements, Nat.zero_add, isOneof]
    at related
  generalize (children.filter (·.kind = .oneof))[i]? = found? at related ⊢
  cases related with
  | some own =>
      cases own with
      | oneof serial => exact ⟨_, rfl, rfl, .oneof serial _ i oneof⟩

end Describes

/-- Whenever a message with fewer than 2^31 oneofs is registered: a field has the name of a oneof
exactly if it is one of the fields of a oneof of the message, which is then the only one; the name
is made from the name of that oneof, and among the children the oneof has the same place, which is
also its index.  Different oneofs have no field in common, and the fields of each one are in the
order of declaration. -/
theorem oneof_membership_agrees {unit : FileUnit} {decl : MessageDecl} {walk after : Walk}
    {message : MessageDescriptor} {children : List Descriptor}
    (registered : Registering.message unit decl walk = .ok (.message message children) after)
    (few : decl.head.oneofs.length < 2 ^ 31) :
    (∀ field ∈ message.fields,
      (field.oneofName?.isSome ↔
        ∃ i < decl.head.oneofs.length, field ∈ message.fieldsInOneof i) ∧
      ∀ i < decl.head.oneofs.length, field ∈ message.fieldsInOneof i →
        (∀ j < decl.head.oneofs.length, field ∈ message.fieldsInOneof j → j = i) ∧
        ∃ (oneof : OneofDecl) (found : OneofDescriptor),
          decl.head.oneofs[i]? = some oneof ∧
          field.oneofName? = some (accessorName oneof.name) ∧
          (children.filter (·.kind = .oneof))[i]? = some (.oneof found) ∧
          found.index = i ∧
          Describes unit
            ⟨(walk.cursor.toPosition.inList (.nestedOneofs decl.head.name)).element i,
              .oneof i oneof⟩
            (.oneof found)) ∧
    (∀ i < decl.head.oneofs.length, ∀ j < decl.head.oneofs.length, i ≠ j →
      (message.fieldsInOneof i).Disjoint (message.fieldsInOneof j)) ∧
    (∀ i < decl.head.oneofs.length,
      (message.fieldsInOneof i).map FieldDescriptor.decl =
        decl.head.fields.filter fun field => field.oneofIndex? = some (Int32.ofNat i)) := by
  obtain ⟨describes, -⟩ := Registering.describes_of_message registered
  obtain ⟨head, nested⟩ := decl
  refine ⟨?fields, ?disjoint, ?ordered⟩
  case fields =>
    intro field member
    refine ⟨describes.isSome_oneofName?_iff few member, ?_⟩
    intro i inside inOneof
    have isOneof : head.oneofs[i]? = some head.oneofs[i] := List.getElem?_eq_getElem inside
    have named : field.oneofName? = some (accessorName head.oneofs[i].name) :=
      (describes.oneofName?_eq_some_iff few member).mpr
        ⟨i, head.oneofs[i], isOneof, inOneof, rfl⟩
    obtain ⟨found, isFound, isIndex, describesFound⟩ := describes.oneof_child isOneof
    refine ⟨?_, head.oneofs[i], found, isOneof, named, isFound, isIndex, describesFound⟩
    intro j insideToo inOther
    exact MessageDescriptor.eq_of_mem_fieldsInOneof (Nat.lt_trans insideToo few)
      (Nat.lt_trans inside few) inOther inOneof
  case disjoint =>
    intro i inside j insideToo apart field inFirst inSecond
    exact apart (MessageDescriptor.eq_of_mem_fieldsInOneof (Nat.lt_trans inside few)
      (Nat.lt_trans insideToo few) inFirst inSecond)
  case ordered =>
    intro i _
    exact describes.map_decl_fieldsInOneof i

/-- Fields without a oneof, with a negative number, with one that is too large, and in either of two
oneofs, of which the first has a nested message before it among the children. -/
theorem oneof_membership_of_stray_numbers :
    let decl : MessageDecl := .mk {
      name? := some "Item"
      oneofs := [{ name? := some "price_tag" }, { name? := some "size" }]
      fields := [
        { name? := some "a" },
        { name? := some "b", oneofIndex? := some (-1) },
        { name? := some "c", oneofIndex? := some 2 },
        { name? := some "d", oneofIndex? := some 1 },
        { name? := some "e", oneofIndex? := some 0 }] } [.mk { name? := some "Part" } []]
    let unit : FileUnit := .ofFile 0 {} { companionClass := "Companion" }
    ∃ message children after,
      Registering.message unit decl {} = .ok (.message message children) after ∧
      decl.head.oneofs.length < 2 ^ 31 ∧
      message.fields.map FieldDescriptor.oneofName? =
        [none, none, none, some "size", some "priceTag"] ∧
      children.map (·.name) = ["Part", "price_tag", "size"] ∧
      (message.fieldsInOneof 0).Disjoint (message.fieldsInOneof 1) ∧
      (message.fieldsInOneof 1).map (·.decl.name) = ["d"] := by
  intro decl unit
  have read : (registeredMessage? (Registering.message unit decl {})).map
      (fun (message, children, _) =>
        (message.fields.map FieldDescriptor.oneofName? =
          [none, none, none, some "size", some "priceTag"] : Bool) &&
        (children.map (·.name) = ["Part", "price_tag", "size"] : Bool)) = some true := by
    decide +kernel
  obtain ⟨⟨message, children, after⟩, isMessage, holds⟩ := Option.map_eq_some_iff.mp read
  have registered := eq_ok_of_registeredMessage? isMessage
  have few : decl.head.oneofs.length < 2 ^ 31 := by decide
  simp only [Bool.and_eq_true, decide_eq_true_iff] at holds
  obtain ⟨names, childNames⟩ := holds
  obtain ⟨-, disjoint, ordered⟩ := oneof_membership_agrees registered few
  refine ⟨message, children, after, registered, few, names, childNames, ?_, ?_⟩
  · exact disjoint 0 (by decide) 1 (by decide) (by decide)
  · have second := congrArg (List.map FieldDecl.name) (ordered 1 (by decide))
    rw [List.map_map] at second
    exact second

end ProtoCompanion
