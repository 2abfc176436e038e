/-
Module: ProtoCompanion.Proofs.ReferredClasses
Purpose: The classes that fields refer to, against the classes that declarations get.
Main exports: FieldDescriptor.elementType_of_resolve, Registry.History.field_style,
  referred_classes_are_restyled, reference_styled_twice
-/
import ProtoCompanion.Proofs.ReachableRegistries
import ProtoCompanion.Registry.JavaType

/-!
The companion class of a declaration has the style of its file in each part of its name.  A field
that refers to the declaration takes the name of this class and applies the style once more, to the
name as a whole.  The two agree for the names that the style leaves alone.
-/

namespace ProtoCompanion

open Naming (NameStyle dotted)

theorem FieldDescriptor.elementType_of_resolve {field : FieldDescriptor} {registry : Registry}
    {referent : Descriptor} (refers : field.decl.type = .message ∨ field.decl.type = .enum)
    (found : registry.resolve field.decl.typeName = .ok referent) :
    field.elementType registry = .ok (field.style (referent.companionName field.style)) := by
  rw [elementType, referent?_of_refers refers, found]
  rfl

namespace Registry.History

variable {registry : Registry} {history : List Descriptor}

/-- The fields of what was entered have the style of their file. -/
theorem field_style (past : registry.History history) {message : Descriptor}
    (member : message ∈ history) {field : FieldDescriptor} (isField : field ∈ message.fields) :
    field.style = message.symbol.unit.style := by
  obtain ⟨_, _, _, made⟩ := past.made_before member
  exact made.fields field isField

end Registry.History

theorem Descriptor.companionName_eq (descriptor : Descriptor) :
    descriptor.companionName descriptor.symbol.unit.style =
      dotted [descriptor.symbol.unit.outputPackage,
        descriptor.symbol.unit.outerClass.companionClass, descriptor.relativeName] := rfl

/-- Whatever has been registered, in one style of names: a field that refers to a declaration has as
its type the name of the companion class of that declaration, which is the relative name of the
declaration inside the wrapper class, with the style applied to it as a whole.  So the type is the
companion class exactly if the style leaves the name of this class alone. -/
theorem referred_classes_are_restyled (style : NameStyle) (calls : List Call)
    (styled : ∀ call ∈ calls, ∀ unit, call.unit? = some unit → unit.style = style) :
    ∃ history, (Registry.afterCalls {} calls).History history ∧
      ∀ message ∈ history, ∀ field ∈ message.fields,
        field.decl.type = .message ∨ field.decl.type = .enum →
        ∀ referent, (Registry.afterCalls {} calls).resolve field.decl.typeName = .ok referent →
          referent ∈ history ∧
          referent.companionName style =
            dotted [referent.symbol.unit.outputPackage,
              referent.symbol.unit.outerClass.companionClass, referent.relativeName] ∧
          field.elementType (Registry.afterCalls {} calls) =
            .ok (style (referent.companionName style)) ∧
          (field.elementType (Registry.afterCalls {} calls) = .ok (referent.companionName style) ↔
            style (referent.companionName style) = referent.companionName style) := by
  obtain ⟨history, ofCalls, past⟩ := Registry.History.empty.afterCalls calls
  rw [List.nil_append] at past
  have styleOf : ∀ descriptor ∈ history, descriptor.symbol.unit.style = style := by
    intro descriptor member
    obtain ⟨call, isCall, isUnit⟩ := ofCalls descriptor member
    exact styled call isCall _ isUnit
  refine ⟨history, past, ?_⟩
  intro message member field isField refers referent found
  have entered := past.mem_of_resolve found
  have fieldStyle : field.style = style :=
    (past.field_style member isField).trans (styleOf message member)
  have type := FieldDescriptor.elementType_of_resolve refers found
  rw [fieldStyle] at type
  refine ⟨entered, ?_, type, ?_⟩
  · rw [← styleOf referent entered]
    exact referent.companionName_eq
  · rw [type, Except.ok.injEq]

/-- A style that renames a single class, to a name that it leaves alone. -/
theorem reference_in_settled_style :
    let style : NameStyle := fun name => if name = "OrderDTO" then "OrderImpl" else name
    let file : FileDecl := {
      messages := [.mk {
        name? := some "OrderDTO"
        fields := [{ name? := some "parent", type? := some 11, typeName? := some ".OrderDTO" }]
      } []] }
    let unit : FileUnit := .ofFile 0 file { companionClass := "Companion", style }
    let calls : List Call := [.register unit {} (.file file)]
    (∀ call ∈ calls, ∀ unit, call.unit? = some unit → unit.style = style) ∧
      ∃ order field, (Registry.afterCalls {} calls).resolve ".OrderDTO" = .ok order ∧
        field ∈ order.fields ∧
        field.elementType (Registry.afterCalls {} calls) = .ok "Companion.OrderImpl" := by
  intro style file unit calls
  have styled : ∀ call ∈ calls, ∀ unit, call.unit? = some unit → unit.style = style := by
    simp [calls, Call.unit?, unit, FileUnit.ofFile]
  have described : ((Registry.afterCalls {} calls).resolve? ".OrderDTO").map (fun descriptor =>
      (descriptor.companionName style,
        descriptor.fields.map fun field => (field.decl.type, field.decl.typeName))) =
        some ("Companion.OrderImpl", [(.message, ".OrderDTO")]) := by
    decide +kernel
  obtain ⟨order, isOrder, parts⟩ := Option.map_eq_some_iff.mp described
  obtain ⟨companionName, isFields⟩ := Prod.mk.inj parts
  obtain ⟨field, isOnly, refers⟩ := List.map_eq_singleton_iff.mp isFields
  obtain ⟨isMessage, isReference⟩ := Prod.mk.inj refers
  have isField : field ∈ order.fields := by
    rw [isOnly]
    exact List.mem_singleton_self field
  have found := Registry.resolve_eq_ok.mpr isOrder
  obtain ⟨history, past, restyled⟩ := referred_classes_are_restyled style calls styled
  have references := restyled order (past.mem_of_resolve found) field isField (.inl isMessage)
    order (isReference ▸ found)
  obtain ⟨-, -, -, agrees⟩ := references
  refine ⟨styled, order, field, found, isField, ?_⟩
  rw [companionName] at agrees
  exact agrees.mpr (by decide)

/-- A style that marks each name at its end marks a field that refers to its own message twice. -/
theorem reference_styled_twice :
    let file : FileDecl := {
      name? := some "proto.proto"
      messages := [.mk {
        name? := some "A"
        fields := [{ name? := some "a", type? := some 11, typeName? := some ".A" }] } []] }
    let unit : FileUnit :=
      .ofFile 0 file { companionClass := "ProtoRest", style := (· ++ "X") }
    let registry := Registry.afterCalls {} [.register unit {} (.file file)]
    ∃ message field, registry.resolve ".A" = .ok message ∧ field ∈ message.fields ∧
      field.decl.type = .message ∧ registry.resolve field.decl.typeName = .ok message ∧
      message.companionName unit.style = "ProtoRest.AX" ∧
      field.elementType registry = .ok "ProtoRest.AXX" := by
  intro file unit registry
  have described : (registry.resolve? ".A").map (fun descriptor =>
      (descriptor.companionName unit.style,
        descriptor.fields.map fun field =>
          ((field.decl.type, field.decl.typeName), (field.elementType registry).toOption))) =
        some ("ProtoRest.AX", [((.message, ".A"), some "ProtoRest.AXX")]) := by
    decide +kernel
  obtain ⟨message, isMessage, parts⟩ := Option.map_eq_some_iff.mp described
  obtain ⟨companionName, isFields⟩ := Prod.mk.inj parts
  obtain ⟨field, isOnly, reads⟩ := List.map_eq_singleton_iff.mp isFields
  obtain ⟨refers, type⟩ := Prod.mk.inj reads
  obtain ⟨isType, isReference⟩ := Prod.mk.inj refers
  have found := Registry.resolve_eq_ok.mpr isMessage
  refine ⟨message, field, found, ?_, isType, isReference ▸ found, companionName, ?_⟩
  · rw [isOnly]
    exact List.mem_singleton_self field
  · cases answered : field.elementType registry with
    | error error => simp [answered, Except.toOption] at type
    | ok name =>
        rw [answered] at type
        rw [Option.some.inj type]

end ProtoCompanion
