/-
Module: ProtoCompanion.Proofs.ConstantNames
Purpose: When the constants in the class of a message or a service have different names.
Main exports: Outline.constantNames_messageMembers, Outline.constantNames_serviceMembers,
  Outline.ConstantsApart, Outline.nodup_constants_iff, constant_names_apart_iff,
  constant_names_can_meet
-/
import Mathlib.Data.List.Nodup
import Mathlib.Data.List.Perm.Basic
import ProtoCompanion.Proofs.ClassMembers
import ProtoCompanion.Proofs.FieldNames

/-!
The constants of a class are a few with fixed names, and two for every field, oneof and method.  The
names of the two are made of the name of the declaration in capitals, and nothing keeps them apart
from those of other declarations.
-/

namespace ProtoCompanion.Outline

open Naming (shoutySnake)

/-! ## The names that are written -/

/-- The constants of fields and of methods. -/
def describedNames (name : String) : List String := [name, name ++ "_COMMENT"]

/-- The constants of oneofs. -/
def caseNames (name : String) : List String := [name ++ "_CASE_CLASS", name ++ "_COMMENT"]

/-- The name of a oneof in capitals. -/
def oneofShouty? : Descriptor → Option String
  | .oneof oneof => some (shoutySnake oneof.symbol.name)
  | _ => none

variable {registry : Registry}

theorem constantNames_fieldMembers {field : FieldDescriptor} {members : List Member}
    (areMembers : fieldMembers registry field = .ok members) :
    constantNames members = describedNames (shoutySnake field.name) := by
  obtain ⟨type, -, areMembers⟩ := exists_of_bind_eq_ok areMembers
  rw [← Except.ok.inj areMembers]
  rfl

theorem constantNames_childMembers {child : Descriptor} {members : List Member}
    (areMembers : childMembers registry child = .ok members) :
    constantNames members = (oneofShouty? child).toList.flatMap caseNames := by
  cases child with
  | oneof oneof =>
      rw [← Except.ok.inj areMembers]
      rfl
  | _ =>
      rw [childMembers_of_ne] at areMembers
      · obtain ⟨text, -, areMembers⟩ := exists_of_bind_eq_ok areMembers
        rw [← Except.ok.inj areMembers]
        rfl
      · simp [Descriptor.kind]

theorem constantNames_flatten {α : Type} {parts : α → Except Error (List Member)}
    {names : α → List String}
    (each : ∀ x members, parts x = .ok members → constantNames members = names x) {xs : List α}
    {all : List (List Member)} (areMembers : xs.mapM parts = .ok all) :
    constantNames all.flatten = xs.flatMap names := by
  induction xs generalizing all with
  | nil =>
      rw [← Except.ok.inj areMembers]
      rfl
  | cons x xs ih =>
      rw [List.mapM_cons] at areMembers
      obtain ⟨members, first, areMembers⟩ := exists_of_bind_eq_ok areMembers
      obtain ⟨others, rest, areMembers⟩ := exists_of_bind_eq_ok areMembers
      rw [← Except.ok.inj areMembers, List.flatten_cons, constantNames_append,
        each x members first, ih rest, List.flatMap_cons]

/-- The constants in the class of a message: the fixed ones, those of its fields, and those of its
oneofs. -/
theorem constantNames_messageMembers {message : MessageDescriptor} {children : List Descriptor}
    {members : List Member} (areMembers : messageMembers registry message children = .ok members) :
    constantNames members =
      ["PROTO_NAME", "ORIGINAL_CLASS", "COMMENT"] ++
        (message.fields.map fun field => shoutySnake field.name).flatMap describedNames ++
        (children.filterMap oneofShouty?).flatMap caseNames := by
  obtain ⟨fieldParts, fields, areMembers⟩ := exists_of_bind_eq_ok areMembers
  obtain ⟨childParts, nested, areMembers⟩ := exists_of_bind_eq_ok areMembers
  rw [← Except.ok.inj areMembers, constantNames_append, constantNames_append,
    constantNames_flatten (fun _ _ => constantNames_fieldMembers) fields,
    constantNames_flatten (fun _ _ => constantNames_childMembers) nested,
    List.flatMap_map, List.filterMap_eq_flatMap_toList, List.flatMap_assoc]
  rfl

theorem constantNames_serviceMembers (service : ServiceDescriptor) :
    constantNames (serviceMembers registry service) =
      ["PROTO_NAME", "COMMENT"] ++
        (service.methods.map fun method => shoutySnake method.name).flatMap describedNames := by
  rw [serviceMembers, constantNames_append, constantNames, constantNames, List.filterMap_flatMap,
    List.flatMap_map]
  rfl

/-! ## Different names -/

/-- The names in capitals of some fields or methods, and of some oneofs, are such that no two of
their constants have one name and none has a fixed name. -/
structure ConstantsApart (fixed names oneofs : List String) : Prop where
  distinct : (names ++ oneofs).Nodup
  not_fixed : ∀ name ∈ names, name ∉ fixed
  not_comment : ∀ name ∈ names, ∀ other ∈ names ++ oneofs, name ≠ other ++ "_COMMENT"
  not_case : ∀ name ∈ names, ∀ other ∈ oneofs, name ≠ other ++ "_CASE_CLASS"

section

variable {fixed names oneofs : List String}

theorem perm_describedNames (names : List String) :
    (names.flatMap describedNames).Perm (names ++ names.map (· ++ "_COMMENT")) := by
  have perm := List.map_append_flatMap_perm names id fun name => [name ++ "_COMMENT"]
  rw [List.map_id, ← List.map_eq_flatMap] at perm
  exact perm.symm

theorem perm_caseNames (oneofs : List String) :
    (oneofs.flatMap caseNames).Perm
      (oneofs.map (· ++ "_COMMENT") ++ oneofs.map (· ++ "_CASE_CLASS")) := by
  have perm := List.map_append_flatMap_perm oneofs (· ++ "_CASE_CLASS")
    fun name => [name ++ "_COMMENT"]
  rw [← List.map_eq_flatMap] at perm
  exact perm.symm.trans List.perm_append_comm

/-- The constants by the form of their names. -/
theorem perm_constants (fixed names oneofs : List String) :
    (fixed ++ names.flatMap describedNames ++ oneofs.flatMap caseNames).Perm
      (fixed ++ (names ++ ((names ++ oneofs).map (· ++ "_COMMENT") ++
        oneofs.map (· ++ "_CASE_CLASS")))) := by
  have perm := ((perm_describedNames names).append_left fixed).append (perm_caseNames oneofs)
  rw [List.map_append]
  simp only [List.append_assoc] at perm ⊢
  exact perm

/-- A fixed name is not made of another name. -/
theorem append_not_mem_fixed {suffix : String}
    (plain : ∀ name ∈ fixed, ¬ suffix.toList <:+ name.toList) (other : String) :
    other ++ suffix ∉ fixed := by
  intro isFixed
  apply plain _ isFixed
  rw [String.toList_append]
  exact List.suffix_append _ _

theorem append_comment_ne_append_case (name other : String) :
    name ++ "_COMMENT" ≠ other ++ "_CASE_CLASS" := by
  intro same
  have last := congrArg (fun text => text.toList.getLast?) same
  simp at last

theorem nodup_constants_iff (names oneofs : List String) (distinct : fixed.Nodup)
    (plain : ∀ suffix ∈ ["_COMMENT", "_CASE_CLASS"], ∀ name ∈ fixed,
      ¬ suffix.toList <:+ name.toList) :
    (fixed ++ names.flatMap describedNames ++ oneofs.flatMap caseNames).Nodup ↔
      ConstantsApart fixed names oneofs := by
  rw [(perm_constants fixed names oneofs).nodup_iff]
  constructor
  · intro apart
    obtain ⟨-, others, fixedApart⟩ := List.nodup_append.mp apart
    obtain ⟨-, made, namesApart⟩ := List.nodup_append.mp others
    obtain ⟨comments, -, -⟩ := List.nodup_append.mp made
    exact {
      distinct := List.Nodup.of_map _ comments
      not_fixed := fun name isName isFixed =>
        fixedApart name isFixed name (List.mem_append_left _ isName) rfl
      not_comment := fun name isName other isOther =>
        namesApart name isName _ (List.mem_append_left _ (List.mem_map_of_mem isOther))
      not_case := fun name isName other isOther =>
        namesApart name isName _ (List.mem_append_right _ (List.mem_map_of_mem isOther)) }
  · intro apart
    obtain ⟨namesDistinct, oneofsDistinct, -⟩ := List.nodup_append.mp apart.distinct
    have injective : ∀ suffix : String, Function.Injective (· ++ suffix) := fun suffix _ _ =>
      (String.append_left_inj suffix).mp
    have made : ((names ++ oneofs).map (· ++ "_COMMENT") ++
        oneofs.map (· ++ "_CASE_CLASS")).Nodup := by
      refine List.nodup_append.mpr
        ⟨apart.distinct.map (injective _), oneofsDistinct.map (injective _), ?_⟩
      rintro _ isComment _ isCase rfl
      obtain ⟨name, -, rfl⟩ := List.mem_map.mp isComment
      obtain ⟨other, -, same⟩ := List.mem_map.mp isCase
      exact append_comment_ne_append_case name other same.symm
    have notMade : ∀ name ∈ fixed, name ∉ (names ++ oneofs).map (· ++ "_COMMENT") ++
        oneofs.map (· ++ "_CASE_CLASS") := by
      intro name isFixed isMade
      rcases List.mem_append.mp isMade with isComment | isCase
      · obtain ⟨other, -, rfl⟩ := List.mem_map.mp isComment
        exact append_not_mem_fixed (plain _ (by simp)) other isFixed
      · obtain ⟨other, -, rfl⟩ := List.mem_map.mp isCase
        exact append_not_mem_fixed (plain _ (by simp)) other isFixed
    refine List.nodup_append.mpr ⟨distinct, List.nodup_append.mpr ⟨namesDistinct, made, ?_⟩, ?_⟩
    · rintro name isName _ isMade rfl
      rcases List.mem_append.mp isMade with isComment | isCase
      · obtain ⟨other, isOther, same⟩ := List.mem_map.mp isComment
        exact apart.not_comment name isName other isOther same.symm
      · obtain ⟨other, isOther, same⟩ := List.mem_map.mp isCase
        exact apart.not_case name isName other isOther same.symm
    · rintro name isFixed _ isOther rfl
      rcases List.mem_append.mp isOther with isName | isMade
      · exact apart.not_fixed name isName isFixed
      · exact notMade name isFixed isMade

instance : Decidable (ConstantsApart fixed names oneofs) :=
  decidable_of_iff
    ((names ++ oneofs).Nodup ∧ (∀ name ∈ names, name ∉ fixed) ∧
      (∀ name ∈ names, ∀ other ∈ names ++ oneofs, name ≠ other ++ "_COMMENT") ∧
      ∀ name ∈ names, ∀ other ∈ oneofs, name ≠ other ++ "_CASE_CLASS")
    ⟨fun ⟨distinct, notFixed, notComment, notCase⟩ =>
        ⟨distinct, notFixed, notComment, notCase⟩,
      fun ⟨distinct, notFixed, notComment, notCase⟩ =>
        ⟨distinct, notFixed, notComment, notCase⟩⟩

end

end Outline

open Naming (shoutySnake)
open Outline (classOf messageMembers serviceMembers constantNames ConstantsApart)

/-- The code of a message and the code of a service are classes with certain members.  The constants
among these have different names exactly if the names of the fields or methods and of the oneofs are
still different in capitals, and no field or method has in capitals a fixed name or the longer name
of a constant that belongs to another declaration. -/
theorem constant_names_apart_iff (registry : Registry) :
    (∀ (message : MessageDescriptor) (children : List Descriptor) (text : String),
      Outline.code registry (.message message children) = .ok text →
        ∃ members, messageMembers registry message children = .ok members ∧
          text = classOf message.symbol.name members ∧
          ((constantNames members).Nodup ↔
            ConstantsApart ["PROTO_NAME", "ORIGINAL_CLASS", "COMMENT"]
              (message.fields.map fun field => shoutySnake field.name)
              (children.filterMap Outline.oneofShouty?))) ∧
      ∀ service : ServiceDescriptor,
        Outline.serviceCode registry service =
            classOf service.symbol.name (serviceMembers registry service) ∧
          ((constantNames (serviceMembers registry service)).Nodup ↔
            ConstantsApart ["PROTO_NAME", "COMMENT"]
              (service.methods.map fun method => shoutySnake method.name) []) := by
  constructor
  · intro message children text isCode
    rw [Outline.code_message] at isCode
    cases areMembers : messageMembers registry message children with
    | error error =>
        rw [areMembers] at isCode
        cases isCode
    | ok members =>
        rw [areMembers] at isCode
        refine ⟨members, rfl, (Except.ok.inj isCode).symm, ?_⟩
        rw [Outline.constantNames_messageMembers areMembers]
        exact Outline.nodup_constants_iff _ _ (by decide) (by decide)
  · intro service
    refine ⟨Outline.serviceCode_eq registry service, ?_⟩
    rw [Outline.constantNames_serviceMembers,
      ← Outline.nodup_constants_iff _ [] (by decide) (by decide), List.flatMap_nil,
      List.append_nil]

/-- The constants of a message with a field and a oneof. -/
theorem item_constants_apart :
    let unit : FileUnit := .ofFile 0 {} { companionClass := "Companion" }
    let symbol : Symbol := { serial := 0, name := "Item", outers := [], unit }
    let field : FieldDescriptor := {
      decl := { name? := some "item_size", number? := some 1, type? := some 5 }
      comment := "\"\""
      ambiguous := false
      oneofName? := none
      dialect := .proto3
      style := id }
    let oneof : OneofDescriptor :=
      { symbol := { symbol with name := "size" }, comment := "\"\"", index := 0 }
    let message : MessageDescriptor :=
      { symbol, decl := {}, comment := "\"\"", fields := [field] }
    ∃ text, Outline.code {} (.message message [.oneof oneof]) = .ok text ∧
      ∃ members, text = classOf "Item" members ∧ (constantNames members).Nodup := by
  intro unit symbol field oneof message
  obtain ⟨text, isText⟩ : ∃ text, Outline.code {} (.message message [.oneof oneof]) = .ok text := by
    obtain ⟨members, areMembers⟩ :
        ∃ members, messageMembers {} message [.oneof oneof] = .ok members := ⟨_, rfl⟩
    exact ⟨classOf "Item" members, by rw [Outline.code_message, areMembers]; rfl⟩
  obtain ⟨members, -, isClass, apartIff⟩ := (constant_names_apart_iff {}).1 _ _ text isText
  exact ⟨text, isText, members, isClass, apartIff.mpr (by decide +kernel)⟩

/-- An optional field comes with a oneof of its own, which differs from it by an underscore: the
constants for the comments on the two have one name.  So have the constant for a method and that for
the comment on another method. -/
theorem constant_names_can_meet :
    let decl : MessageDecl := .mk {
      name? := some "Item"
      fields := [
        { name? := some "size", number? := some 1, type? := some 5, oneofIndex? := some 0 }]
      oneofs := [{ name? := some "_size" }] } []
    let unit : FileUnit := .ofFile 0 {} { companionClass := "Companion" }
    (decl.head.fields.map FieldDecl.name ++ decl.head.oneofs.map OneofDecl.name).Nodup ∧
      ∃ message children after members,
        Registering.message unit decl {} = .ok (.message message children) after ∧
        Outline.code after.registry (.message message children) =
          .ok (classOf message.symbol.name members) ∧
        constantNames members =
          ["PROTO_NAME", "ORIGINAL_CLASS", "COMMENT", "SIZE", "SIZE_COMMENT", "SIZE_CASE_CLASS",
            "SIZE_COMMENT"] ∧
        ¬ (constantNames members).Nodup ∧
        let method (name : String) : MethodDescriptor :=
          { name, comment := "\"\"", streaming := .simple, input := message, output := message,
            httpRule? := none }
        let service : ServiceDescriptor :=
          { symbol := { message.symbol with name := "Items" }, comment := "\"\""
            methods := [method "Get", method "GetComment"] }
        (service.methods.map MethodDescriptor.name).Nodup ∧
        constantNames (serviceMembers after.registry service) =
          ["PROTO_NAME", "COMMENT", "GET", "GET_COMMENT", "GET_COMMENT", "GET_COMMENT_COMMENT"] ∧
        ¬ (constantNames (serviceMembers after.registry service)).Nodup := by
  intro decl unit
  have read : (registeredMessage? (Registering.message unit decl {})).bind
      (fun (message, children, after) =>
        (messageMembers after.registry message children).toOption.map fun members =>
          decide (constantNames members =
            ["PROTO_NAME", "ORIGINAL_CLASS", "COMMENT", "SIZE", "SIZE_COMMENT", "SIZE_CASE_CLASS",
              "SIZE_COMMENT"])) = some true := by
    decide +kernel
  obtain ⟨⟨message, children, after⟩, isMessage, hasMembers⟩ := Option.bind_eq_some_iff.mp read
  obtain ⟨members, areMembers, names⟩ := Option.map_eq_some_iff.mp hasMembers
  replace areMembers : messageMembers after.registry message children = .ok members := by
    cases result : messageMembers after.registry message children with
    | error error =>
        rw [result] at areMembers
        cases areMembers
    | ok found =>
        rw [result] at areMembers
        rw [Option.some.inj areMembers]
  replace names := of_decide_eq_true names
  refine ⟨by decide, message, children, after, members, eq_ok_of_registeredMessage? isMessage, ?_,
    names, by rw [names]; decide, ?_⟩
  · rw [Outline.code_message, areMembers]
    rfl
  · intro method service
    have declared : service.methods.map MethodDescriptor.name = ["Get", "GetComment"] := rfl
    have methodNames : constantNames (serviceMembers after.registry service) =
        ["PROTO_NAME", "COMMENT", "GET", "GET_COMMENT", "GET_COMMENT", "GET_COMMENT_COMMENT"] := by
      have capitals : shoutySnake "Get" = "GET" ∧ shoutySnake "GetComment" = "GET_COMMENT" := by
        decide +kernel
      rw [Outline.constantNames_serviceMembers, List.map_cons, List.map_cons, List.map_nil,
        capitals.1, capitals.2]
      rfl
    exact ⟨by rw [declared]; decide, methodNames, by rw [methodNames]; decide⟩

end ProtoCompanion
