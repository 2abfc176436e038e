/-
Module: ProtoCompanion.Proofs.FieldShapes
Purpose: What a field is, a single value, a list or a map, as it is found out in three ways.
Main exports: MessageDescriptor.entryTypes_eq_ok_iff, FieldDescriptor.Shape, FieldDescriptor.shape,
  field_shapes_agree
-/
import ProtoCompanion.Registry.JavaType

/-!
Whether a field is a map, which Java type it has and which map type its entry has are found out
separately.  All of them depend on the label of the field, on what its reference leads to, and on
the option of the message found there.  The cases are told apart once, in `FieldDescriptor.Shape`.
-/

namespace ProtoCompanion

/-! ## Map entries -/

namespace MessageDescriptor

variable {entry : MessageDescriptor} {registry : Registry}

/-- The types of a map entry are those of its fields `key` and `value`, if it has both. -/
theorem entryTypes_eq_ok_iff {types : String × String} :
    entry.entryTypes registry = .ok types ↔
      ∃ key value, entry.field? "key" = some key ∧ entry.field? "value" = some value ∧
        key.elementType registry = .ok types.1 ∧ value.elementType registry = .ok types.2 := by
  obtain ⟨keyType, valueType⟩ := types
  have keyName : MapEntryPart.key.fieldName = "key" := rfl
  have valueName : MapEntryPart.value.fieldName = "value" := rfl
  rw [entryTypes, entryField, entryField, keyName, valueName]
  constructor
  · intro succeeds
    obtain ⟨key, isKey, succeeds⟩ := exists_of_bind_eq_ok succeeds
    obtain ⟨_, isKeyType, succeeds⟩ := exists_of_bind_eq_ok succeeds
    obtain ⟨value, isValue, succeeds⟩ := exists_of_bind_eq_ok succeeds
    obtain ⟨_, isValueType, succeeds⟩ := exists_of_bind_eq_ok succeeds
    obtain ⟨rfl, rfl⟩ := Prod.mk.inj (Except.ok.inj succeeds)
    cases keyFound : entry.field? "key" <;> cases valueFound : entry.field? "value" <;>
      simp_all
  · rintro ⟨key, value, isKey, isValue, isKeyType, isValueType⟩
    simp only [isKey, isValue, isKeyType, isValueType, Bind.bind, Except.bind]
    rfl

theorem entryMapType_eq :
    entry.entryMapType registry =
      (entry.entryTypes registry).map fun types => (JavaType.map types.1 types.2).display := by
  rw [entryMapType]
  cases entry.entryTypes registry <;> rfl

end MessageDescriptor

/-! ## Shapes -/

namespace FieldDescriptor

/-- The four cases that a field can be in, each with what is answered in it. -/
inductive Shape (field : FieldDescriptor) (registry : Registry) : Prop where
  | single (once : field.isRepeated = false)
      (isMap : field.isMap registry = .ok false)
      (type : field.javaType registry = (field.elementType registry).map .single)
  | unresolved (repeated : field.isRepeated = true) (refers : field.Refers)
      (missing : registry.resolves field.decl.typeName = false)
      (isMap : field.isMap registry = .error (.unresolved field.decl.typeName))
      (type : field.javaType registry = .error (.unresolved field.decl.typeName))
  | map (repeated : field.isRepeated = true) (refers : field.Refers)
      (entry : MessageDescriptor) (children : List Descriptor)
      (found : registry.resolve field.decl.typeName = .ok (.message entry children))
      (isEntry : entry.isMapEntry = true)
      (isMap : field.isMap registry = .ok true)
      (type : field.javaType registry =
        (entry.entryTypes registry).map fun types => .map types.1 types.2)
  | list (repeated : field.isRepeated = true)
      (resolves : field.Refers → registry.resolves field.decl.typeName = true)
      (isMap : field.isMap registry = .ok false)
      (type : field.javaType registry = (field.elementType registry).map .list)

variable (field : FieldDescriptor) (registry : Registry)

theorem shape_of_once (once : field.isRepeated = false) : field.Shape registry := by
  refine .single once ?_ ?_
  · rw [isMap, once]
    rfl
  · rw [javaType, once]
    cases field.elementType registry <;> rfl

/-- A repeated field that does not lead to a map entry is a list. -/
theorem shape_of_list (repeated : field.isRepeated = true) {referent? : Option Descriptor}
    (found : field.referent? registry = .ok referent?)
    (resolves : field.Refers → registry.resolves field.decl.typeName = true)
    (noEntry : ∀ entry children, referent? = some (.message entry children) →
      entry.isMapEntry = false) : field.Shape registry := by
  have answers : field.isMap registry = .ok false ∧
      field.javaType registry = (field.elementType registry).map .list := by
    rw [isMap, javaType, repeated, found]
    cases referent? with
    | none => cases field.elementType registry <;> exact ⟨rfl, rfl⟩
    | some referent =>
        cases referent with
        | message entry children =>
            simp only [Bind.bind, Except.bind, if_true, noEntry entry children rfl]
            cases field.elementType registry <;> exact ⟨rfl, rfl⟩
        | enum | oneof | service => cases field.elementType registry <;> exact ⟨rfl, rfl⟩
  exact .list repeated resolves answers.1 answers.2

theorem referent?_of_missing (refers : field.Refers)
    (missing : registry.resolves field.decl.typeName = false) :
    field.referent? registry = .error (.unresolved field.decl.typeName) := by
  rw [referent?_of_refers refers, Registry.resolve]
  rw [Registry.resolves, Option.isSome_eq_false_iff, Option.isNone_iff_eq_none] at missing
  rw [missing]
  rfl

/-- A repeated field whose reference leads nowhere has no type. -/
theorem shape_of_unresolved (repeated : field.isRepeated = true) (refers : field.Refers)
    (missing : registry.resolves field.decl.typeName = false) : field.Shape registry := by
  have unresolved := field.referent?_of_missing registry refers missing
  refine .unresolved repeated refers missing ?_ ?_
  · rw [isMap, repeated, unresolved]
    rfl
  · rw [javaType, repeated, unresolved]
    rfl

/-- A repeated field that leads to a map entry is a map. -/
theorem shape_of_map (repeated : field.isRepeated = true) (refers : field.Refers)
    {entry : MessageDescriptor} {children : List Descriptor}
    (found : registry.resolve field.decl.typeName = .ok (.message entry children))
    (isEntry : entry.isMapEntry = true) : field.Shape registry := by
  have referent : field.referent? registry = .ok (some (.message entry children)) := by
    rw [referent?_of_refers refers, found]
    rfl
  refine .map repeated refers entry children found isEntry ?_ ?_
  · rw [isMap, repeated, referent]
    simp only [Bind.bind, Except.bind, if_true, isEntry]
    rfl
  · rw [javaType, repeated, referent]
    simp only [Bind.bind, Except.bind, if_true, isEntry]
    cases entry.entryTypes registry <;> rfl

theorem shape : field.Shape registry := by
  cases repeated : field.isRepeated with
  | false => exact field.shape_of_once registry repeated
  | true =>
      by_cases refers : field.Refers
      case neg =>
        exact field.shape_of_list registry repeated (referent?_of_not_refers refers registry)
          (fun other => absurd other refers) (fun _ _ impossible => by cases impossible)
      case pos =>
        cases answer : registry.resolve? field.decl.typeName with
        | none =>
            have missing : registry.resolves field.decl.typeName = false := by
              rw [Registry.resolves, answer]
              rfl
            exact field.shape_of_unresolved registry repeated refers missing
        | some referent =>
            have found : registry.resolve field.decl.typeName = .ok referent := by
              rw [Registry.resolve, answer]
            have isReferent : field.referent? registry = .ok (some referent) := by
              rw [referent?_of_refers refers, found]
              rfl
            by_cases isEntry : ∃ entry children,
                referent = .message entry children ∧ entry.isMapEntry = true
            · obtain ⟨entry, children, rfl, isEntry⟩ := isEntry
              exact field.shape_of_map registry repeated refers found isEntry
            · refine field.shape_of_list registry repeated isReferent
                (fun _ => by rw [Registry.resolves, answer]; rfl) ?_
              intro entry children isMessage
              exact Bool.eq_false_iff.mpr fun isEntryToo =>
                isEntry ⟨entry, children, Option.some.inj isMessage, isEntryToo⟩

end FieldDescriptor

/-- The three views of a field agree, whatever is registered.  Whether the field is a map cannot be
told exactly if the field is repeated and its reference does not resolve; then it has no type, for
the same reason.  A map is never written as a list: its type is the map from the type of the entry's
field `key` to that of its field `value`, or it fails as the types of the entry do, and it is
displayed like the map type of the entry.  Any other repeated field is a list, and a field that is
not repeated is a single value, even one that refers to a map entry. -/
theorem field_shapes_agree (registry : Registry) (field : FieldDescriptor) :
    (∀ error, field.isMap registry = .error error ↔
        field.isRepeated ∧ field.Refers ∧ registry.resolves field.decl.typeName = false ∧
          error = .unresolved field.decl.typeName) ∧
      (∀ error, field.isMap registry = .error error → field.javaType registry = .error error) ∧
      (field.isMap registry = .ok true →
        (∀ element, field.javaType registry ≠ .ok (.list element)) ∧
          ∃ entry children,
            registry.resolve field.decl.typeName = .ok (.message entry children) ∧
              entry.isMapEntry ∧
              field.javaType registry =
                (entry.entryTypes registry).map (fun types => .map types.1 types.2) ∧
              (field.javaType registry).map JavaType.display = entry.entryMapType registry ∧
              ∀ types, entry.entryTypes registry = .ok types ↔
                ∃ key value, entry.field? "key" = some key ∧ entry.field? "value" = some value ∧
                  key.elementType registry = .ok types.1 ∧
                  value.elementType registry = .ok types.2) ∧
      (field.isMap registry = .ok false → field.isRepeated →
        field.javaType registry = (field.elementType registry).map .list) ∧
      (field.isRepeated = false →
        field.isMap registry = .ok false ∧
          field.javaType registry = (field.elementType registry).map .single) := by
  have shape := field.shape registry
  refine ⟨?unresolved, ?same, ?map, ?list, ?single⟩
  case unresolved =>
    intro error
    cases shape with
    | single once isMap type => simp [once, isMap]
    | unresolved repeated refers missing isMap type =>
        rw [isMap, Except.error.injEq]
        exact ⟨fun same => ⟨repeated, refers, missing, same.symm⟩,
          fun ⟨_, _, _, same⟩ => same.symm⟩
    | map repeated refers entry children found isEntry isMap type =>
        have resolves : registry.resolves field.decl.typeName = true := by
          rw [Registry.resolves, Registry.resolve_eq_ok.mp found]
          rfl
        simp [isMap, resolves]
    | list repeated resolves isMap type =>
        have impossible : ¬ (field.Refers ∧ registry.resolves field.decl.typeName = false) :=
          fun ⟨refers, missing⟩ => by simp [resolves refers] at missing
        rw [isMap]
        constructor
        · intro failed
          cases failed
        · rintro ⟨-, refers, missing, -⟩
          exact absurd ⟨refers, missing⟩ impossible
  case same =>
    intro error failed
    cases shape with
    | unresolved repeated refers missing isMap type =>
        rw [isMap] at failed
        rw [type, Except.error.inj failed]
    | single once isMap type => simp [isMap] at failed
    | map repeated refers entry children found isEntry isMap type => simp [isMap] at failed
    | list repeated resolves isMap type => simp [isMap] at failed
  case map =>
    intro isTrue
    cases shape with
    | map repeated refers entry children found isEntry isMap type =>
        refine ⟨?_, entry, children, found, isEntry, type, ?_,
          fun types => MessageDescriptor.entryTypes_eq_ok_iff⟩
        · intro element isList
          rw [type] at isList
          cases types : entry.entryTypes registry <;> simp [types, Except.map] at isList
        · rw [type, MessageDescriptor.entryMapType_eq]
          cases entry.entryTypes registry <;> rfl
    | single once isMap type => simp [isMap] at isTrue
    | unresolved repeated refers missing isMap type => simp [isMap] at isTrue
    | list repeated resolves isMap type => simp [isMap] at isTrue
  case list =>
    intro isFalse repeated
    cases shape with
    | list repeated resolves isMap type => exact type
    | single once isMap type => simp [once] at repeated
    | unresolved repeated refers missing isMap type => simp [isMap] at isFalse
    | map repeated refers entry children found isEntry isMap type => simp [isMap] at isFalse
  case single =>
    intro once
    cases shape with
    | single once isMap type => exact ⟨isMap, type⟩
    | unresolved repeated refers missing isMap type => simp [once] at repeated
    | map repeated refers entry children found isEntry isMap type => simp [once] at repeated
    | list repeated resolves isMap type => simp [once] at repeated

/-- A map entry whose values are entries of its own kind: a repeated field of it is a map, and a
field that is not repeated has the entry itself as its type. -/
theorem entries_of_recursive_map :
    let field (name typeName : String) (label type : Int32) : FieldDescriptor := {
      decl := {
        name? := some name, label? := some label, type? := some type, typeName? := some typeName }
      comment := "\"\"", ambiguous := false, oneofName? := none, dialect := .proto3, style := id }
    let entry : MessageDescriptor := {
      symbol := ⟨0, "Entry", [], .ofFile 0 {} { companionClass := "Companion" }⟩
      decl := { options? := some { mapEntryFlag? := some true } }, comment := "\"\""
      fields := [field "key" "" 1 9, field "value" ".Entry" 1 11] }
    let registry := Registry.insert {} (.message entry [])
    let repeated := field "entries" ".Entry" 3 11
    let single := field "first" ".Entry" 1 11
    let dangling := field "others" ".Other" 3 11
    (repeated.isMap registry = .ok true ∧
        repeated.javaType registry = .ok (.map "String" "Companion.Entry")) ∧
      single.javaType registry = .ok (.single "Companion.Entry") ∧
      dangling.isMap registry = .error (.unresolved ".Other") ∧
      dangling.javaType registry = .error (.unresolved ".Other") := by
  intro field entry registry repeated single dangling
  have name : (Descriptor.message entry []).schemaName = "Entry" := by decide +kernel
  have entered : registry.byName["Entry"]? = some (.message entry []) := by
    rw [← name]
    exact Std.TreeMap.getElem?_insert_self
  have undotted : Registry.undotted? ".Entry" = some "Entry" := by decide +kernel
  have isEntry : registry.resolve ".Entry" = .ok (.message entry []) := by
    rw [Registry.resolve, Registry.resolve?, undotted, Option.bind_some, entered, Option.some_or]
  have isMap : repeated.isMap registry = .ok true := eq_ok_of_toOption (by decide +kernel)
  have types : entry.entryTypes registry = .ok ("String", "Companion.Entry") :=
    eq_ok_of_toOption (by decide +kernel)
  have element : single.elementType registry = .ok "Companion.Entry" :=
    eq_ok_of_toOption (by decide +kernel)
  have missing : registry.resolves ".Other" = false := by decide +kernel
  obtain ⟨-, -, shownAsMap, -, -⟩ := field_shapes_agree registry repeated
  obtain ⟨-, found, children, resolved, -, mapType, -, -⟩ := shownAsMap isMap
  obtain ⟨-, -, -, -, shownOnce⟩ := field_shapes_agree registry single
  obtain ⟨fails_iff, failsToo, -, -, -⟩ := field_shapes_agree registry dangling
  have fails : dangling.isMap registry = .error (.unresolved ".Other") :=
    (fails_iff _).mpr ⟨rfl, .inl rfl, missing, rfl⟩
  refine ⟨⟨isMap, ?_⟩, ?_, fails, failsToo _ fails⟩
  · obtain ⟨rfl, -⟩ := Descriptor.message.inj (Except.ok.inj (resolved.symm.trans isEntry))
    rw [mapType, types]
    rfl
  · rw [(shownOnce rfl).2, element]
    rfl

end ProtoCompanion
