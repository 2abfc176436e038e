/-
Module: ProtoCompanion.Proofs.AlikeDescriptors
Purpose: Descriptors of two runs that stand for the same declaration, and registries of which one
  answers like the other.
Main exports: Asked, FileUnit.Alike, Descriptor.Alike, Found, Registry.AnswersLike,
  Registry.AnswersLike.symbolClass_eq
-/
import ProtoCompanion.Proofs.QualifiedReferences

/-!
Two runs that register the same declaration give it different numbers and its file different
identities, and the packages shared by their files may differ.  Descriptors that differ in nothing
else are alike.

There are two ways to compare registries.  In an exact comparison, what is missing in the first is
missing in the other.  Otherwise the other may hold more, and then only references that start with a
dot are compared: any other reference could be caught by a name that only the other registry has.
-/

namespace ProtoCompanion

open Naming (NameStyle)

/-- The references that are compared. -/
def Asked (exact : Prop) (reference : String) : Prop := exact ∨ IsQualified reference

/-! ## Descriptors -/

section

variable (exact : Prop) (same : Nat → Nat → Prop)

/-- The same file, opened under another identity that belongs to the first, in a run that may have
another shared package. -/
inductive FileUnit.Alike (unit : FileUnit) : FileUnit → Prop where
  | intro (identity : Nat) (shared? : Option String) (belongs : same unit.identity identity) :
      Alike unit { unit with identity, sharedPackage? := shared? }

/-- The same symbol, perhaps with another number. -/
inductive Symbol.Alike (symbol : Symbol) : Symbol → Prop where
  | intro (serial : Nat) {unit : FileUnit} (units : symbol.unit.Alike same unit) :
      Alike symbol { symbol with serial, unit }

/-- The same message, whose fields make only references that are compared. -/
inductive MessageDescriptor.Alike (message : MessageDescriptor) : MessageDescriptor → Prop where
  | intro {symbol : Symbol} (symbols : message.symbol.Alike same symbol)
      (asked : ∀ field ∈ message.fields, field.decl.type = .message ∨ field.decl.type = .enum →
        Asked exact field.decl.typeName) :
      Alike message { message with symbol }

/-- The same method, between messages that are alike. -/
inductive MethodDescriptor.Alike (method : MethodDescriptor) : MethodDescriptor → Prop where
  | intro {input output : MessageDescriptor} (inputs : method.input.Alike exact same input)
      (outputs : method.output.Alike exact same output) : Alike method { method with input, output }

/-- Descriptors of the same declaration, with children that are alike. -/
inductive Descriptor.Alike : Descriptor → Descriptor → Prop where
  | message {message other : MessageDescriptor} {children others : List Descriptor}
      (messages : message.Alike exact same other) (inner : List.Forall₂ Alike children others) :
      Alike (.message message children) (.message other others)
  | enum {enum : EnumDescriptor} {symbol : Symbol} (symbols : enum.symbol.Alike same symbol) :
      Alike (.enum enum) (.enum { enum with symbol })
  | oneof {oneof : OneofDescriptor} {symbol : Symbol} (symbols : oneof.symbol.Alike same symbol) :
      Alike (.oneof oneof) (.oneof { oneof with symbol })
  | service {service : ServiceDescriptor} {symbol : Symbol} {methods : List MethodDescriptor}
      (symbols : service.symbol.Alike same symbol)
      (inner : List.Forall₂ (MethodDescriptor.Alike exact same) service.methods methods) :
      Alike (.service service) (.service { service with symbol, methods })

/-- The top-level declarations of the same file. -/
structure TopLevel.Alike (declared other : TopLevel) : Prop where
  messages : List.Forall₂ (Descriptor.Alike exact same) declared.messages other.messages
  enums : List.Forall₂ (Descriptor.Alike exact same) declared.enums other.enums
  services : List.Forall₂ (Descriptor.Alike exact same) declared.services other.services

end

/-! ## Their names -/

variable {exact : Prop} {same : Nat → Nat → Prop}

namespace Symbol.Alike

variable {symbol other : Symbol}

theorem identities (alike : symbol.Alike same other) :
    same symbol.unit.identity other.unit.identity := by
  obtain ⟨serial, identity, shared?, belongs⟩ := alike
  exact belongs

theorem name_eq (alike : symbol.Alike same other) : other.name = symbol.name := by
  cases alike
  rfl

theorem relativeName_eq (alike : symbol.Alike same other) :
    other.nameWithin other.unit.style = symbol.nameWithin symbol.unit.style := by
  obtain ⟨serial, identity, shared?, belongs⟩ := alike
  rfl

theorem schemaName_eq (alike : symbol.Alike same other) : other.schemaName = symbol.schemaName := by
  obtain ⟨serial, identity, shared?, belongs⟩ := alike
  rfl

theorem companionName_eq (alike : symbol.Alike same other) (style : NameStyle) :
    other.companionName style = symbol.companionName style := by
  obtain ⟨serial, identity, shared?, belongs⟩ := alike
  rfl

end Symbol.Alike

namespace Descriptor.Alike

variable {descriptor other : Descriptor}

theorem symbols (alike : descriptor.Alike exact same other) :
    descriptor.symbol.Alike same other.symbol := by
  cases alike with
  | message messages inner =>
      obtain ⟨symbols, asked⟩ := messages
      exact symbols
  | enum symbols => exact symbols
  | oneof symbols => exact symbols
  | service symbols inner => exact symbols

theorem kind_eq (alike : descriptor.Alike exact same other) : other.kind = descriptor.kind := by
  cases alike <;> rfl

theorem schemaName_eq (alike : descriptor.Alike exact same other) :
    other.schemaName = descriptor.schemaName :=
  alike.symbols.schemaName_eq

theorem relativeName_eq (alike : descriptor.Alike exact same other) :
    other.relativeName = descriptor.relativeName :=
  alike.symbols.relativeName_eq

theorem companionName_eq (alike : descriptor.Alike exact same other) (style : NameStyle) :
    other.companionName style = descriptor.companionName style :=
  alike.symbols.companionName_eq style

end Descriptor.Alike

/-! ## Answers of registries -/

/-- What is found on one side is found on the other, and in an exact comparison what is missing is
missing there too. -/
structure Found (exact : Prop) (same : Nat → Nat → Prop) (found? other? : Option Descriptor) :
    Prop where
  found : ∀ descriptor, found? = some descriptor →
    ∃ other, other? = some other ∧ descriptor.Alike exact same other
  missing : exact → found? = none → other? = none

theorem Found.none (exact : Prop) (same : Nat → Nat → Prop) : Found exact same none none := by
  constructor
  · intro descriptor impossible
    cases impossible
  · intro _ _
    rfl

theorem Found.some {descriptor other : Descriptor} (alike : descriptor.Alike exact same other) :
    Found exact same (some descriptor) (some other) := by
  constructor
  · intro found isFound
    obtain rfl := Option.some.inj isFound
    exact ⟨other, rfl, alike⟩
  · intro _ impossible
    cases impossible

/-- A second source is asked where the first has nothing; the comparison has to be exact then. -/
theorem Found.or {first? second? other? more? : Option Descriptor} (isExact : exact)
    (first : Found exact same first? other?) (second : Found exact same second? more?) :
    Found exact same (first?.or second?) (other?.or more?) := by
  cases first? with
  | none =>
      rw [first.missing isExact rfl]
      exact second
  | some descriptor =>
      obtain ⟨other, rfl, alike⟩ := first.found descriptor rfl
      exact .some alike

/-- Where the comparison is not exact, a qualified reference is found in the other registry as soon
as qualified names are: it cannot be read in another way in the first one. -/
theorem Registry.Undotted.found {registry other : Registry} (undotted : registry.Undotted)
    (inexact : ¬ exact) (byName : ∀ (name : String) (descriptor : Descriptor),
      registry.byName[name]? = some descriptor →
        ∃ like, other.byName[name]? = some like ∧ descriptor.Alike exact same like)
    {reference : String} (isQualified : IsQualified reference) :
    Found exact same (registry.resolve? reference) (other.resolve? reference) := by
  obtain ⟨name, isName⟩ := isQualified.exists_undotted
  rw [undotted.resolve?_eq isName]
  constructor
  · intro descriptor found
    obtain ⟨like, isLike, alike⟩ := byName name descriptor found
    refine ⟨like, ?_, alike⟩
    rw [Registry.resolve?, isName, Option.bind_some, isLike, Option.some_or]
  · intro isExact
    exact absurd isExact inexact

/-- A registry answers like the first one: it finds what the first one finds, and files that belong
together have the same flag. -/
structure Registry.AnswersLike (exact : Prop) (same : Nat → Nat → Prop)
    (registry other : Registry) : Prop where
  flags : ∀ identity belonging, same identity belonging →
    other.collided.getD belonging false = registry.collided.getD identity false
  found : ∀ reference, Asked exact reference →
    Found exact same (registry.resolve? reference) (other.resolve? reference)

namespace Registry.AnswersLike

variable {registry other : Registry}

theorem symbolClass_eq (answers : registry.AnswersLike exact same other) {symbol like : Symbol}
    (alike : symbol.Alike same like) : other.symbolClass like = registry.symbolClass symbol := by
  have flag := answers.flags _ _ alike.identities
  obtain ⟨serial, identity, shared?, belongs⟩ := alike
  rw [symbolClass, hasCollision, flag]
  rfl

theorem javaName_eq (answers : registry.AnswersLike exact same other) {descriptor like : Descriptor}
    (alike : descriptor.Alike exact same like) :
    other.javaName like = registry.javaName descriptor := by
  have flag := answers.flags _ _ alike.symbols.identities
  rw [javaName, hasCollision, flag]
  cases alike with
  | message messages inner =>
      obtain ⟨⟨serial, identity, shared?, belongs⟩, asked⟩ := messages
      rfl
  | enum symbols =>
      obtain ⟨serial, identity, shared?, belongs⟩ := symbols
      rfl
  | oneof symbols =>
      obtain ⟨serial, identity, shared?, belongs⟩ := symbols
      rfl
  | service symbols inner =>
      obtain ⟨serial, identity, shared?, belongs⟩ := symbols
      rfl

end Registry.AnswersLike

end ProtoCompanion
