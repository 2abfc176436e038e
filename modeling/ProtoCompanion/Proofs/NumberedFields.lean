/-
Module: ProtoCompanion.Proofs.NumberedFields
Purpose: Which fields of a message get their number appended, and how this depends on the others.
Main exports: isAmbiguous_insertIdx, generatedName, map_name_fieldsAt, generatedNames?,
  generatedNames?_with_fields, shared_accessors_get_numbers
-/
import Mathlib.Data.List.InsertIdx
import ProtoCompanion.Proofs.FieldNames

/-!
The generated name of a field depends on its own declaration and on how often its accessor name
occurs in the message.  So the order of the fields does not matter, and a field with an accessor
name of its own leaves the others alone.  Both are statements on two messages, and the second is
registered whenever the first is, since fields are never refused.
-/

namespace ProtoCompanion

open Naming (accessorName)

/-! ## Counts of accessor names -/

theorem isAmbiguous_perm {fields others : List FieldDecl} (perm : fields.Perm others)
    (accessor : String) : isAmbiguous fields accessor = isAmbiguous others accessor := by
  simp only [isAmbiguous, (perm.map fun field => accessorName field.name).count_eq accessor]

/-- A field with an accessor name of its own makes no name ambiguous, wherever it is put. -/
theorem isAmbiguous_insertIdx {fields : List FieldDecl} {added : FieldDecl}
    (fresh : accessorName added.name ∉ fields.map fun field => accessorName field.name)
    (place : Nat) (accessor : String) :
    isAmbiguous (fields.insertIdx place added) accessor = isAmbiguous fields accessor := by
  rcases Nat.lt_or_ge fields.length place with outside | inside
  · rw [List.insertIdx_of_length_lt outside]
  · rw [isAmbiguous_perm (List.perm_insertIdx added fields inside)]
    by_cases isOwn : accessorName added.name = accessor
    · have none := List.count_eq_zero.mpr fresh
      simp [isAmbiguous, ← isOwn, none]
    · simp [isAmbiguous, isOwn]

/-! ## Generated names -/

/-- The name that a field gets among the fields of its message. -/
def generatedName (fields : List FieldDecl) (field : FieldDecl) : String :=
  if isAmbiguous fields (accessorName field.name) then
    accessorName field.name ++ toString field.number
  else accessorName field.name

theorem toString_int32_ne_empty (n : Int32) : toString n ≠ "" := by
  change n.toInt.repr ≠ ""
  rw [Int.repr_eq_if]
  split <;> simp [Nat.repr_ne_empty]

/-- The two forms of a name exclude each other, as every number is written with a digit at least. -/
theorem generatedName_eq_iff {fields : List FieldDecl} {place : Nat} {field : FieldDecl}
    (isAt : fields[place]? = some field) :
    (generatedName fields field = accessorName field.name ++ toString field.number ↔
      SharesAccessor fields place) ∧
    (generatedName fields field = accessorName field.name ↔ ¬ SharesAccessor fields place) := by
  have longer : accessorName field.name ++ toString field.number ≠ accessorName field.name := by
    simpa using toString_int32_ne_empty field.number
  rw [← isAmbiguous_iff isAt, generatedName]
  split
  · rename_i shared
    simp [shared, longer]
  · rename_i alone
    simp [alone, Ne.symm longer]

theorem map_name_fieldsAt (unit : FileUnit) (position : Position) (head : MessageHead) :
    (fieldsAt unit position head).map FieldDescriptor.name =
      head.fields.map (generatedName head.fields) := by
  conv_rhs => rw [← map_decl_fieldsAt unit position head, List.map_map]
  apply List.map_congr_left
  intro field member
  rw [eq_ofDecl_of_mem_fieldsAt member, map_decl_fieldsAt]
  rfl

/-! ## Registered messages -/

/-- The generated names of the fields of a message, in order, if the message is registered where the
walk stands. -/
def generatedNames? (unit : FileUnit) (walk : Walk) (decl : MessageDecl) : Option (List String) :=
  (registeredMessage? (Registering.message unit decl walk)).map fun (message, _) =>
    message.fields.map FieldDescriptor.name

theorem Registering.message_named {unit : FileUnit} {decl : MessageDecl} {walk after : Walk}
    {descriptor : Descriptor} (registered : message unit decl walk = .ok descriptor after) :
    ∃ own children, descriptor = .message own children ∧
      own.fields.map FieldDescriptor.name =
        decl.head.fields.map (generatedName decl.head.fields) := by
  obtain ⟨describes, -⟩ := describes_of_message registered
  cases describes with
  | message serial position head nested children describe =>
      exact ⟨_, children, rfl, map_name_fieldsAt unit _ head⟩

theorem eq_of_generatedNames? {unit : FileUnit} {walk : Walk} {decl : MessageDecl}
    {names : List String} (registered : generatedNames? unit walk decl = some names) :
    names = decl.head.fields.map (generatedName decl.head.fields) := by
  obtain ⟨⟨message, children, after⟩, isMessage, rfl⟩ := Option.map_eq_some_iff.mp registered
  obtain ⟨own, inner, same, named⟩ :=
    Registering.message_named (eq_ok_of_registeredMessage? isMessage)
  cases same
  exact named

namespace Registering

variable {unit : FileUnit} {walk : Walk}

/-- Whether a declaration can be introduced does not depend on its parts, if these are only looked
up. -/
theorem introduce_succeeds {α β : Type} {name : String} {parts : Registering α}
    {others : Registering β} {descriptor : Symbol → String → α → Descriptor}
    {made : Symbol → String → β → Descriptor} {found : Position → Registry → β → Prop}
    (reads : Reads others found fun _ _ => False) {value : Descriptor} {after : Walk}
    (introduced : introduce unit name parts descriptor walk = .ok value after) :
    ∃ changed last, introduce unit name others made walk = .ok changed last := by
  rw [introduce_eq] at introduced ⊢
  cases accepted : unit.outerClass.accept name (walk.registry.hasCollision unit) with
  | error error collided => simp [accepted] at introduced
  | ok _ collided =>
      have read := reads { walk with registry := walk.registry.setCollision unit collided }
      cases result : others { walk with registry := walk.registry.setCollision unit collided } with
      | error error stopped =>
          rw [result] at read
          exact read.2.elim
      | ok found stopped =>
          simp only [result]
          exact ⟨_, _, rfl⟩

/-- The children come first, and they do not depend on the fields. -/
theorem message_with_fields {head : MessageHead} {nested : List MessageDecl} {value : Descriptor}
    {after : Walk} (registered : message unit (.mk head nested) walk = .ok value after)
    (fields : List FieldDecl) :
    ∃ changed last, message unit (.mk { head with fields } nested) walk = .ok changed last := by
  have sameName : ({ head with fields } : MessageHead).name = head.name := rfl
  simp only [message, Bind.bind, EStateM.bind, sameName] at registered ⊢
  cases inner : within (.list (.nestedMessages head.name)) (messages unit 0 nested) walk with
  | error error stopped => simp [inner] at registered
  | ok messages second =>
  cases enums : inList (.nestedEnums head.name) (fun _ => enum unit) head.enums second with
  | error error stopped => simp [inner, enums] at registered
  | ok enums third =>
  cases oneofs : inList (.nestedOneofs head.name) (oneof unit) head.oneofs third with
  | error error stopped => simp [inner, enums, oneofs] at registered
  | ok oneofs fourth =>
      simp only [inner, enums, oneofs] at registered ⊢
      exact introduce_succeeds (fields_read unit { head with fields }) registered

end Registering

/-- The fields of a registered message may be replaced by any others, which get their names among
themselves. -/
theorem generatedNames?_with_fields {unit : FileUnit} {walk : Walk} {head : MessageHead}
    {nested : List MessageDecl} {names : List String}
    (registered : generatedNames? unit walk (.mk head nested) = some names)
    (fields : List FieldDecl) :
    generatedNames? unit walk (.mk { head with fields } nested) =
      some (fields.map (generatedName fields)) := by
  obtain ⟨⟨message, children, after⟩, isMessage, -⟩ := Option.map_eq_some_iff.mp registered
  obtain ⟨changed, last, isChanged⟩ :=
    Registering.message_with_fields (eq_ok_of_registeredMessage? isMessage) fields
  obtain ⟨own, inner, rfl, named⟩ := Registering.message_named isChanged
  rw [generatedNames?, isChanged]
  exact congrArg some named

/-- Whenever a message is registered: a field gets its number appended exactly if a field at another
place has the same accessor name, so two fields with one accessor name and different numbers get
different names.  With its fields in another order the message is registered as well, and every
field keeps its name; with one more field, whose accessor name is new, the other fields keep their
names, and the new one gets no number. -/
theorem shared_accessors_get_numbers {unit : FileUnit} {walk : Walk} {head : MessageHead}
    {nested : List MessageDecl} {names : List String}
    (registered : generatedNames? unit walk (.mk head nested) = some names) :
    names.length = head.fields.length ∧
    (∀ (place : Nat) (field : FieldDecl) (name : String),
      head.fields[place]? = some field → names[place]? = some name →
        (name = accessorName field.name ++ toString field.number ↔
          SharesAccessor head.fields place) ∧
        (name = accessorName field.name ↔ ¬ SharesAccessor head.fields place)) ∧
    (∀ (place elsewhere : Nat) (field other : FieldDecl),
      head.fields[place]? = some field → head.fields[elsewhere]? = some other →
        accessorName other.name = accessorName field.name → other.number ≠ field.number →
          names[elsewhere]? ≠ names[place]?) ∧
    (∀ fields, fields.Perm head.fields →
      ∃ moved, generatedNames? unit walk (.mk { head with fields } nested) = some moved ∧
        ∀ place before : Nat, fields[place]? = head.fields[before]? →
          moved[place]? = names[before]?) ∧
    (∀ (place : Nat) (added : FieldDecl),
      (accessorName added.name ∉ head.fields.map fun field => accessorName field.name) →
        generatedNames? unit walk
            (.mk { head with fields := head.fields.insertIdx place added } nested) =
          some (names.insertIdx place (accessorName added.name))) := by
  have areNames : names = head.fields.map (generatedName head.fields) :=
    eq_of_generatedNames? registered
  refine ⟨by simp [areNames], ?number, ?apart, ?order, ?added⟩
  case number =>
    intro place field name isField isName
    have nameEq : generatedName head.fields field = name := by
      simpa [areNames, isField] using isName
    rw [← nameEq]
    exact generatedName_eq_iff isField
  case apart =>
    intro place elsewhere field other isField isOther sameAccessor numbers sameName
    have places : elsewhere ≠ place := by
      rintro rfl
      exact numbers (by rw [Option.some.inj (isOther.symm.trans isField)])
    have named := (generatedName_eq_iff isField).1.mpr
      ⟨field, other, elsewhere, isField, places, isOther, sameAccessor⟩
    have otherNamed := (generatedName_eq_iff isOther).1.mpr
      ⟨other, field, place, isOther, Ne.symm places, isField, sameAccessor.symm⟩
    simp only [areNames, List.getElem?_map, isField, isOther, Option.map_some, Option.some.injEq,
      named, otherNamed, sameAccessor, String.append_right_inj, toString_int32_inj] at sameName
    exact numbers sameName
  case order =>
    intro fields perm
    refine ⟨_, generatedNames?_with_fields registered fields, ?_⟩
    intro place before same
    have sameNaming : generatedName fields = generatedName head.fields := by
      funext field
      simp only [generatedName, isAmbiguous_perm perm]
    simp [areNames, same, sameNaming]
  case added =>
    intro place added fresh
    have sameNaming : generatedName (head.fields.insertIdx place added) =
        generatedName head.fields := by
      funext field
      simp only [generatedName, isAmbiguous_insertIdx fresh]
    have own : generatedName head.fields added = accessorName added.name := by
      have none := List.count_eq_zero.mpr fresh
      simp [generatedName, isAmbiguous, none]
    rw [generatedNames?_with_fields registered, sameNaming, List.map_insertIdx, own, areNames]

/-- Two fields with one accessor name and a third: with the fields in reverse order and with a
fourth field in front of them, each of the three keeps its name. -/
theorem numbered_names_in_other_orders :
    let fields : List FieldDecl := [
      { name? := some "a_b", number? := some 1 },
      { name? := some "a_b_", number? := some 2 },
      { name? := some "c", number? := some 3 }]
    let unit : FileUnit := .ofFile 0 {} { companionClass := "Companion" }
    let named := fun fields => generatedNames? unit {} (.mk { name? := some "Item", fields } [])
    named fields = some ["aB1", "aB2", "c"] ∧
      (∃ moved, named fields.reverse = some moved ∧ moved[0]? = some "c" ∧
        moved[2]? = some "aB1") ∧
      named ({ name? := some "d_e", number? := some 4 } :: fields) =
        some ["dE", "aB1", "aB2", "c"] := by
  intro fields unit named
  have registered : named fields = some ["aB1", "aB2", "c"] := by decide +kernel
  obtain ⟨-, -, -, reordered, extended⟩ := shared_accessors_get_numbers registered
  obtain ⟨moved, isMoved, keeps⟩ := reordered fields.reverse (List.reverse_perm fields)
  refine ⟨registered, ⟨moved, isMoved, keeps 0 2 rfl, keeps 2 0 rfl⟩, ?_⟩
  exact extended 0 { name? := some "d_e", number? := some 4 } (by decide)

end ProtoCompanion
