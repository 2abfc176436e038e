/-
Module: ProtoCompanion.Proofs.FieldNames
Purpose: When the generated names of the fields of a message are different.
Main exports: SharesAccessor, isAmbiguous_iff, MessageDescriptor.Marked, Registering.message_marked,
  MessageDescriptor.Marked.nodup_names_iff, field_names_apart_iff, field_names_can_meet
-/
import Mathlib.Data.List.Nodup
import Mathlib.Data.List.NodupEquivFin
import Std.Data.String.ToInt
import ProtoCompanion.Proofs.RegistrationWalk

/-!
A field whose accessor name is also that of another field gets its number appended.  This keeps the
fields with one accessor name apart, but the longer name is not looked at again: it may be the
accessor name of a third field, or the longer name that another ambiguous field gets.  There is no
other way for two names to meet, and this one needs an accessor name that ends like a number.
-/

namespace ProtoCompanion

open Naming (accessorName)

namespace FieldDescriptor

/-! ## Names with numbers -/

theorem name_of_ambiguous {field : FieldDescriptor} (ambiguous : field.ambiguous = true) :
    field.name = accessorName field.decl.name ++ toString field.decl.number := by
  rw [name, if_pos ambiguous]

theorem name_of_unambiguous {field : FieldDescriptor} (unambiguous : field.ambiguous = false) :
    field.name = accessorName field.decl.name := by
  rw [name, if_neg (by simp [unambiguous])]

end FieldDescriptor

theorem toString_int32_inj {m n : Int32} : toString m = toString n ↔ m = n := by
  change m.toInt.repr = n.toInt.repr ↔ m = n
  rw [Int.repr_inj, Int32.toInt_inj]

/-- The characters that numbers are written with. -/
def isNumeric (c : Char) : Bool := c.isDigit || c == '-'

theorem isNumeric_of_mem_toString {n : Int32} {c : Char} (member : c ∈ (toString n).toList) :
    isNumeric c = true := by
  have digit : ∀ {m : Nat}, c ∈ m.repr.toList → c.isDigit = true := by
    intro m isDigit
    rw [Nat.toList_repr] at isDigit
    exact Nat.isDigit_of_mem_toDigits (by decide) (by decide) isDigit
  change c ∈ n.toInt.repr.toList at member
  rw [Int.repr_eq_if] at member
  split at member
  · simp [isNumeric, digit member]
  · rw [String.toList_append] at member
    rcases List.mem_append.mp member with minus | magnitude
    · have isMinus : c = '-' := by simpa using minus
      simp [isNumeric, isMinus]
    · simp [isNumeric, digit magnitude]

/-- A name that does not end like a number can be read off from the generated name. -/
theorem FieldDescriptor.stripEnd_name {field : FieldDescriptor}
    (plain : ∀ c ∈ (accessorName field.decl.name).toList.getLast?, isNumeric c = false) :
    stripEnd isNumeric field.name.toList = (accessorName field.decl.name).toList := by
  cases marked : field.ambiguous with
  | true =>
      rw [name_of_ambiguous marked, String.toList_append,
        stripEnd_append_of_all fun _ => isNumeric_of_mem_toString, stripEnd_eq_self plain]
  | false => rw [name_of_unambiguous marked, stripEnd_eq_self plain]

/-! ## Ambiguous fields -/

/-- A field at another place has the accessor name of the field at a place. -/
def SharesAccessor (fields : List FieldDecl) (place : Nat) : Prop :=
  ∃ field other elsewhere, fields[place]? = some field ∧ elsewhere ≠ place ∧
    fields[elsewhere]? = some other ∧ accessorName other.name = accessorName field.name

/-- What stands at one place of a list occurs more than once exactly if it stands at another place
as well. -/
theorem one_lt_count_iff {α : Type} [DecidableEq α] {xs : List α} {i : Nat} {x : α}
    (isAt : xs[i]? = some x) : 1 < xs.count x ↔ ∃ j, j ≠ i ∧ xs[j]? = some x := by
  change 2 ≤ xs.count x ↔ _
  rw [← List.duplicate_iff_two_le_count, List.duplicate_iff_exists_distinct_get]
  constructor
  · rintro ⟨first, second, before, atFirst, atSecond⟩
    by_cases same : first.val = i
    · exact ⟨second, by omega, by simp [atSecond]⟩
    · exact ⟨first, same, by simp [atFirst]⟩
  · rintro ⟨j, other, isAtJ⟩
    obtain ⟨inside, here⟩ := List.getElem?_eq_some_iff.mp isAt
    obtain ⟨insideJ, there⟩ := List.getElem?_eq_some_iff.mp isAtJ
    rcases Nat.lt_or_gt_of_ne other with before | after
    · exact ⟨⟨j, insideJ⟩, ⟨i, inside⟩, before, there.symm, here.symm⟩
    · exact ⟨⟨i, inside⟩, ⟨j, insideJ⟩, after, here.symm, there.symm⟩

theorem isAmbiguous_iff {fields : List FieldDecl} {place : Nat} {field : FieldDecl}
    (isAt : fields[place]? = some field) :
    isAmbiguous fields (accessorName field.name) = true ↔ SharesAccessor fields place := by
  have accessorAt : (fields.map fun decl => accessorName decl.name)[place]? =
      some (accessorName field.name) := by
    simp [isAt]
  simp only [isAmbiguous, decide_eq_true_iff, one_lt_count_iff accessorAt, SharesAccessor, isAt,
    List.getElem?_map, Option.map_eq_some_iff, Option.some.injEq]
  constructor
  · rintro ⟨elsewhere, apart, other, isOther, same⟩
    exact ⟨field, other, elsewhere, rfl, apart, isOther, same⟩
  · rintro ⟨found, other, elsewhere, rfl, apart, isOther, same⟩
    exact ⟨elsewhere, apart, other, isOther, same⟩

/-- An accessor name that two fields have is ambiguous. -/
theorem isAmbiguous_of_ne {fields : List FieldDecl} {field other : FieldDecl}
    (isField : field ∈ fields) (isOther : other ∈ fields) (ne : field ≠ other)
    (same : accessorName other.name = accessorName field.name) :
    isAmbiguous fields (accessorName field.name) = true := by
  obtain ⟨place, isAt⟩ := List.getElem?_of_mem isField
  obtain ⟨elsewhere, isElsewhere⟩ := List.getElem?_of_mem isOther
  have apart : elsewhere ≠ place := by
    rintro rfl
    exact ne (Option.some.inj (isAt.symm.trans isElsewhere))
  exact (isAmbiguous_iff isAt).mpr ⟨field, other, elsewhere, isAt, apart, isElsewhere, same⟩

/-- A message as registration makes it: a field is marked as ambiguous if its accessor name occurs
more than once among the fields. -/
def MessageDescriptor.Marked (message : MessageDescriptor) : Prop :=
  ∀ field ∈ message.fields, field.ambiguous =
    isAmbiguous (message.fields.map FieldDescriptor.decl) (accessorName field.decl.name)

theorem Describes.marked {unit : FileUnit} {site : Site} {message : MessageDescriptor}
    {children : List Descriptor} (describes : Describes unit site (.message message children)) :
    message.Marked := by
  cases describes with
  | message serial position head nested children describe =>
      intro field member
      rw [map_decl_fieldsAt]
      conv_lhs => rw [eq_ofDecl_of_mem_fieldsAt member]
      rfl

theorem Registering.message_marked {unit : FileUnit} {decl : MessageDecl} {walk after : Walk}
    {message : MessageDescriptor} {children : List Descriptor}
    (registered : Registering.message unit decl walk = .ok (.message message children) after) :
    message.Marked := by
  obtain ⟨describes, -⟩ := describes_of_message registered
  exact describes.marked

/-! ## Different names -/

namespace MessageDescriptor.Marked

variable {message : MessageDescriptor}

/-- Two fields with one accessor name are told apart by their numbers. -/
theorem eq_of_name_eq (marked : message.Marked)
    (numbers : (message.fields.map fun field => field.decl.number).Nodup)
    {field other : FieldDescriptor} (isField : field ∈ message.fields)
    (isOther : other ∈ message.fields)
    (sameAccessor : accessorName other.decl.name = accessorName field.decl.name)
    (sameName : other.name = field.name) : other = field := by
  by_contra ne
  have declNe : field.decl ≠ other.decl := by
    intro sameDecl
    exact ne (List.inj_on_of_nodup_map numbers isOther isField (by rw [sameDecl]))
  have ambiguous : isAmbiguous (message.fields.map FieldDescriptor.decl)
      (accessorName field.decl.name) = true :=
    isAmbiguous_of_ne (List.mem_map_of_mem isField) (List.mem_map_of_mem isOther) declNe
      sameAccessor
  have fieldMarked : field.ambiguous = true := by rw [marked field isField, ambiguous]
  have otherMarked : other.ambiguous = true := by
    rw [marked other isOther, sameAccessor, ambiguous]
  rw [FieldDescriptor.name_of_ambiguous fieldMarked, FieldDescriptor.name_of_ambiguous otherMarked,
    sameAccessor, String.append_right_inj, toString_int32_inj] at sameName
  exact ne (List.inj_on_of_nodup_map numbers isOther isField sameName)

/-- Names can only meet at an ambiguous field. -/
theorem nodup_names_iff (marked : message.Marked)
    (numbers : (message.fields.map fun field => field.decl.number).Nodup) :
    (message.fields.map FieldDescriptor.name).Nodup ↔
      ∀ field ∈ message.fields, field.ambiguous = true → ∀ other ∈ message.fields,
        accessorName other.decl.name ≠ accessorName field.decl.name →
          other.name ≠ accessorName field.decl.name ++ toString field.decl.number := by
  rw [List.nodup_map_iff_inj_on (List.Nodup.of_map _ numbers)]
  constructor
  · intro injective field isField ambiguous other isOther otherAccessor met
    rw [← FieldDescriptor.name_of_ambiguous ambiguous] at met
    exact otherAccessor (by rw [injective other isOther field isField met])
  · intro apart other isOther field isField sameName
    by_cases sameAccessor : accessorName other.decl.name = accessorName field.decl.name
    · exact marked.eq_of_name_eq numbers isField isOther sameAccessor sameName
    · cases fieldMarked : field.ambiguous with
      | true =>
          rw [FieldDescriptor.name_of_ambiguous fieldMarked] at sameName
          exact absurd sameName (apart field isField fieldMarked other isOther sameAccessor)
      | false =>
          cases otherMarked : other.ambiguous with
          | true =>
              rw [FieldDescriptor.name_of_ambiguous otherMarked] at sameName
              exact absurd sameName.symm
                (apart other isOther otherMarked field isField (Ne.symm sameAccessor))
          | false =>
              rw [FieldDescriptor.name_of_unambiguous fieldMarked,
                FieldDescriptor.name_of_unambiguous otherMarked] at sameName
              exact absurd sameName sameAccessor

end MessageDescriptor.Marked

/-- Whenever a message is registered whose fields have different numbers: the generated names of its
fields are different exactly if no ambiguous field gets a name, by the number appended to it, that a
field with another accessor name has as well.  In particular they are different if no accessor name
ends like a number. -/
theorem field_names_apart_iff {unit : FileUnit} {decl : MessageDecl} {walk after : Walk}
    {message : MessageDescriptor} {children : List Descriptor}
    (registered : Registering.message unit decl walk = .ok (.message message children) after)
    (numbers : (message.fields.map fun field => field.decl.number).Nodup) :
    ((message.fields.map FieldDescriptor.name).Nodup ↔
      ∀ field ∈ message.fields, field.ambiguous = true → ∀ other ∈ message.fields,
        accessorName other.decl.name ≠ accessorName field.decl.name →
          other.name ≠ accessorName field.decl.name ++ toString field.decl.number) ∧
    ((∀ field ∈ message.fields, ∀ c ∈ (accessorName field.decl.name).toList.getLast?,
        isNumeric c = false) →
      (message.fields.map FieldDescriptor.name).Nodup) := by
  have apartIff := (Registering.message_marked registered).nodup_names_iff numbers
  refine ⟨apartIff, ?_⟩
  intro plain
  rw [apartIff]
  intro field isField ambiguous other isOther otherAccessor met
  rw [← FieldDescriptor.name_of_ambiguous ambiguous] at met
  apply otherAccessor
  rw [← String.toList_inj, ← FieldDescriptor.stripEnd_name (plain other isOther), met,
    FieldDescriptor.stripEnd_name (plain field isField)]

/-- The message that a registration has come to, with its children and where the walk is then. -/
def registeredMessage? :
    EStateM.Result Error Walk Descriptor → Option (MessageDescriptor × List Descriptor × Walk)
  | .ok (.message message children) after => some (message, children, after)
  | _ => none

theorem eq_ok_of_registeredMessage? {result : EStateM.Result Error Walk Descriptor}
    {message : MessageDescriptor} {children : List Descriptor} {after : Walk}
    (registered : registeredMessage? result = some (message, children, after)) :
    result = .ok (.message message children) after := by
  rcases result with ⟨⟨own, nested⟩ | _ | _ | _, reached⟩ | _
  · cases registered
    rfl
  all_goals cases registered

/-- Two fields with one accessor name, and a third whose name differs from both in its number. -/
theorem numbered_fields_apart :
    let decl : MessageDecl := .mk {
      name? := some "Item"
      fields := [
        { name? := some "a_b", number? := some 1 },
        { name? := some "a_b_", number? := some 2 },
        { name? := some "aB3", number? := some 3 }] } []
    let unit : FileUnit := .ofFile 0 {} { companionClass := "Companion" }
    ∃ message children after,
      Registering.message unit decl {} = .ok (.message message children) after ∧
      (message.fields.map fun field => field.decl.number).Nodup ∧
      message.fields.map FieldDescriptor.name = ["aB1", "aB2", "aB3"] ∧
      ∀ field ∈ message.fields, field.ambiguous = true → ∀ other ∈ message.fields,
        accessorName other.decl.name ≠ accessorName field.decl.name →
          other.name ≠ accessorName field.decl.name ++ toString field.decl.number := by
  intro decl unit
  have read : (registeredMessage? (Registering.message unit decl {})).map (fun (message, _) =>
      ((message.fields.map fun field => field.decl.number).Nodup : Bool) &&
        (message.fields.map FieldDescriptor.name = ["aB1", "aB2", "aB3"] : Bool)) =
        some true := by
    decide +kernel
  obtain ⟨⟨message, children, after⟩, isMessage, holds⟩ := Option.map_eq_some_iff.mp read
  have registered := eq_ok_of_registeredMessage? isMessage
  simp only [Bool.and_eq_true, decide_eq_true_iff] at holds
  obtain ⟨numbers, names⟩ := holds
  refine ⟨message, children, after, registered, numbers, names, ?_⟩
  apply (field_names_apart_iff registered numbers).1.mp
  rw [names]
  decide

/-- The number that keeps two fields apart gives one of them the name of a third field. -/
theorem field_names_can_meet :
    let decl : MessageDecl := .mk {
      name? := some "Item"
      fields := [
        { name? := some "a_b", number? := some 1 },
        { name? := some "a_b_", number? := some 2 },
        { name? := some "aB1", number? := some 3 }] } []
    let unit : FileUnit := .ofFile 0 {} { companionClass := "Companion" }
    ∃ message children after,
      Registering.message unit decl {} = .ok (.message message children) after ∧
      (message.fields.map fun field => field.decl.name).Nodup ∧
      (message.fields.map fun field => field.decl.number).Nodup ∧
      message.fields.map FieldDescriptor.name = ["aB1", "aB2", "aB1"] ∧
      ¬ (message.fields.map FieldDescriptor.name).Nodup := by
  intro decl unit
  have read : (registeredMessage? (Registering.message unit decl {})).map (fun (message, _) =>
      ((message.fields.map fun field => field.decl.name).Nodup : Bool) &&
        ((message.fields.map fun field => field.decl.number).Nodup : Bool) &&
        (message.fields.map FieldDescriptor.name = ["aB1", "aB2", "aB1"] : Bool)) =
        some true := by
    decide +kernel
  obtain ⟨⟨message, children, after⟩, isMessage, holds⟩ := Option.map_eq_some_iff.mp read
  have registered := eq_ok_of_registeredMessage? isMessage
  simp only [Bool.and_eq_true, decide_eq_true_iff] at holds
  obtain ⟨⟨declared, numbers⟩, names⟩ := holds
  refine ⟨message, children, after, registered, declared, numbers, names, ?_⟩
  rw [names]
  decide

end ProtoCompanion
