/-
Module: ProtoCompanion.Proofs.RepeatedCode
Purpose: A registry that answers like another one leads to the same types of fields and to the same
  code.
Main exports: Repeats, Registry.AnswersLike.resolveMessage, Registry.AnswersLike.javaType,
  Registry.AnswersLike.code
-/
import ProtoCompanion.Outline.Code
import ProtoCompanion.Proofs.AlikeDescriptors

/-!
Code is generated by looking up what the fields of a message refer to, and what the fields of the
map entries found there refer to.  It copies names, none of which holds an identity, a number or the
shared package.  So alike declarations have the same code, and where the comparison is exact they
fail with the same error.
-/

namespace ProtoCompanion

/-! ## Computations that are repeated -/

/-- A computation is repeated by another one with a related value.  A failure is repeated as it is;
only where the comparison is not exact may the other computation do better. -/
inductive Repeats {α β : Type} (exact : Prop) (post : α → β → Prop) :
    Except Error α → Except Error β → Prop where
  | ok {value : α} {other : β} (holds : post value other) :
      Repeats exact post (.ok value) (.ok other)
  | error (error : Error) : Repeats exact post (.error error) (.error error)
  | gained (inexact : ¬ exact) (error : Error) (result : Except Error β) :
      Repeats exact post (.error error) result

namespace Repeats

variable {α β γ δ : Type} {exact : Prop} {post : α → β → Prop}

theorem refl (result : Except Error α) : Repeats exact Eq result result := by
  cases result with
  | ok value => exact .ok rfl
  | error error => exact .error error

theorem bind {nextPost : γ → δ → Prop} {step : Except Error α} {other : Except Error β}
    {next : α → Except Error γ} {otherNext : β → Except Error δ}
    (first : Repeats exact post step other)
    (second : ∀ value like, post value like →
      Repeats exact nextPost (next value) (otherNext like)) :
    Repeats exact nextPost (step >>= next) (other >>= otherNext) := by
  cases first with
  | ok holds => exact second _ _ holds
  | error error => exact .error error
  | gained inexact error result => exact .gained inexact error _

/-- A last step that builds the same value on both sides. -/
theorem map {step : Except Error α} {other : Except Error β} {build : α → γ} {otherBuild : β → γ}
    (repeated : Repeats exact post step other)
    (same : ∀ value like, post value like → otherBuild like = build value) :
    Repeats exact Eq (step >>= fun value => pure (build value))
      (other >>= fun value => pure (otherBuild value)) := by
  apply repeated.bind
  intro value like holds
  exact .ok (same value like holds).symm

theorem exists_ok {step : Except Error α} {other : Except Error β}
    (repeated : Repeats exact post step other) {value : α} (succeeds : step = .ok value) :
    ∃ like, other = .ok like ∧ post value like := by
  cases repeated with
  | @ok found like holds =>
      obtain rfl := Except.ok.inj succeeds
      exact ⟨like, rfl, holds⟩
  | error error => cases succeeds
  | gained inexact error result => cases succeeds

theorem eq_error {step : Except Error α} {other : Except Error β} (isExact : exact)
    (repeated : Repeats exact post step other) {error : Error} (fails : step = .error error) :
    other = .error error := by
  cases repeated with
  | ok holds => cases fails
  | error found => rw [Except.error.inj fails]
  | gained inexact error result => exact absurd isExact inexact

theorem mapM {visit : α → Except Error γ} {other : β → Except Error γ} {xs : List α} {ys : List β}
    (related : List.Forall₂ (fun x y => Repeats exact Eq (visit x) (other y)) xs ys) :
    Repeats exact Eq (xs.mapM visit) (ys.mapM other) := by
  induction related with
  | nil => exact .ok rfl
  | cons first _ ih =>
      rw [List.mapM_cons, List.mapM_cons]
      apply first.bind
      rintro value _ rfl
      apply ih.map
      rintro values _ rfl
      rfl

end Repeats

/-! ## Lookups -/

variable {exact : Prop} {same : Nat → Nat → Prop}

/-- A field that only makes references that are compared. -/
def FieldDescriptor.Asks (exact : Prop) (field : FieldDescriptor) : Prop :=
  field.decl.type = .message ∨ field.decl.type = .enum → Asked exact field.decl.typeName

namespace Registry.AnswersLike

variable {registry other : Registry}

theorem resolve (answers : registry.AnswersLike exact same other) {reference : String}
    (asked : Asked exact reference) :
    Repeats exact (Descriptor.Alike exact same) (registry.resolve reference)
      (other.resolve reference) := by
  have found := answers.found reference asked
  cases known : registry.resolve? reference with
  | some descriptor =>
      obtain ⟨like, isLike, alike⟩ := found.found descriptor known
      simp only [Registry.resolve, known, isLike]
      exact .ok alike
  | none =>
      by_cases isExact : exact
      · simp only [Registry.resolve, known, found.missing isExact known]
        exact .error (.unresolved reference)
      · simp only [Registry.resolve, known]
        exact .gained isExact _ _

theorem resolveMessage (answers : registry.AnswersLike exact same other) {reference : String}
    (asked : Asked exact reference) :
    Repeats exact (MessageDescriptor.Alike exact same) (registry.resolveMessage reference)
      (other.resolveMessage reference) := by
  have resolved := answers.resolve asked
  simp only [Registry.resolveMessage]
  generalize registry.resolve reference = result, other.resolve reference = otherResult
    at resolved ⊢
  cases resolved with
  | error error => exact .error error
  | gained inexact error result => exact .gained inexact error _
  | ok alike =>
      cases alike with
      | message messages inner => exact .ok messages
      | enum symbols => exact .error _
      | oneof symbols => exact .error _
      | service symbols inner => exact .error _

/-! ## Types of fields -/

variable {field : FieldDescriptor}

theorem referent (answers : registry.AnswersLike exact same other) (asks : field.Asks exact) :
    Repeats exact (Option.Rel (Descriptor.Alike exact same)) (field.referent? registry)
      (field.referent? other) := by
  have resolved (asked : Asked exact field.decl.typeName) :
      Repeats exact (Option.Rel (Descriptor.Alike exact same))
        ((registry.resolve field.decl.typeName).map some)
        ((other.resolve field.decl.typeName).map some) := by
    have resolved := answers.resolve asked
    generalize registry.resolve field.decl.typeName = result,
      other.resolve field.decl.typeName = otherResult at resolved ⊢
    cases resolved with
    | ok alike => exact .ok (.some alike)
    | error error => exact .error error
    | gained inexact error result => exact .gained inexact error _
  by_cases refers : field.Refers
  · rw [FieldDescriptor.referent?_of_refers refers, FieldDescriptor.referent?_of_refers refers]
    exact resolved (asks refers)
  · rw [FieldDescriptor.referent?_of_not_refers refers,
      FieldDescriptor.referent?_of_not_refers refers]
    exact .ok .none

theorem elementType (answers : registry.AnswersLike exact same other) (asks : field.Asks exact) :
    Repeats exact Eq (field.elementType registry) (field.elementType other) := by
  apply (answers.referent asks).bind
  intro found? like? related
  cases related with
  | none => exact .refl _
  | some alike =>
      refine .ok ?_
      rw [alike.companionName_eq]

theorem entryTypes (answers : registry.AnswersLike exact same other)
    {entry like : MessageDescriptor} (alike : entry.Alike exact same like) :
    Repeats exact Eq (entry.entryTypes registry) (like.entryTypes other) := by
  have part (part : MapEntryPart) :
      Repeats exact Eq (entry.entryField part >>= fun field => field.elementType registry)
        (like.entryField part >>= fun field => field.elementType other) := by
    obtain ⟨symbols, asked⟩ := alike
    simp only [MessageDescriptor.entryField, MessageDescriptor.field?, symbols.schemaName_eq]
    cases isField : entry.fields.find? fun field => field.decl.name = part.fieldName with
    | none => exact .error _
    | some field =>
        exact answers.elementType (asked field (List.mem_of_find?_eq_some isField))
  simp only [MessageDescriptor.entryTypes, ← bind_assoc]
  apply (part .key).bind
  rintro key _ rfl
  apply (part .value).map
  rintro value _ rfl
  rfl

theorem javaType (answers : registry.AnswersLike exact same other) (asks : field.Asks exact) :
    Repeats exact Eq (field.javaType registry) (field.javaType other) := by
  have element (build : String → JavaType) :
      Repeats exact Eq (field.elementType registry >>= fun type => pure (build type))
        (field.elementType other >>= fun type => pure (build type)) := by
    apply (answers.elementType asks).map
    rintro type _ rfl
    rfl
  rw [FieldDescriptor.javaType, FieldDescriptor.javaType]
  split
  · apply (answers.referent asks).bind
    intro found? like? related
    cases related with
    | none => exact element .list
    | some alike =>
        cases alike with
        | enum symbols => exact element .list
        | oneof symbols => exact element .list
        | service symbols inner => exact element .list
        | @message message like children others messages inner =>
            have sameOption : like.isMapEntry = message.isMapEntry := by
              cases messages
              rfl
            dsimp only
            rw [sameOption]
            split
            · apply (answers.entryTypes messages).map
              rintro types _ rfl
              rfl
            · exact element .list
  · exact element .single

/-! ## Code -/

theorem fieldCode (answers : registry.AnswersLike exact same other) (asks : field.Asks exact) :
    Repeats exact Eq (Outline.fieldCode registry field) (Outline.fieldCode other field) := by
  apply (answers.javaType asks).map
  rintro type _ rfl
  rfl

theorem nameConstants_eq (answers : registry.AnswersLike exact same other) {symbol like : Symbol}
    (alike : symbol.Alike same like) :
    Outline.nameConstants other like = Outline.nameConstants registry symbol := by
  rw [Outline.nameConstants, Outline.nameConstants, alike.schemaName_eq,
    answers.symbolClass_eq alike]

theorem enumCode_eq (answers : registry.AnswersLike exact same other) {enum : EnumDescriptor}
    {symbol : Symbol} (alike : enum.symbol.Alike same symbol) :
    Outline.enumCode other { enum with symbol } = Outline.enumCode registry enum := by
  have constants := answers.nameConstants_eq alike
  simp only [Outline.enumCode, constants, alike.name_eq]

theorem oneofCode_eq (answers : registry.AnswersLike exact same other) {oneof : OneofDescriptor}
    {symbol : Symbol} (alike : oneof.symbol.Alike same symbol) :
    Outline.oneofCode other { oneof with symbol } = Outline.oneofCode registry oneof := by
  have oneofs : Descriptor.Alike exact same (.oneof oneof) (.oneof { oneof with symbol }) :=
    .oneof alike
  have caseClass := answers.javaName_eq oneofs
  simp only [Outline.oneofCode, caseClass, alike.name_eq]

theorem methodCode_eq (answers : registry.AnswersLike exact same other)
    {service like : ServiceDescriptor}
    (services : like.symbol.schemaName = service.symbol.schemaName)
    {method otherMethod : MethodDescriptor} (alike : method.Alike exact same otherMethod) :
    Outline.methodCode other like otherMethod = Outline.methodCode registry service method := by
  obtain ⟨inputs, outputs⟩ := alike
  obtain ⟨inputSymbols, _⟩ := inputs
  obtain ⟨outputSymbols, _⟩ := outputs
  simp only [Outline.methodCode, Outline.methodComment, answers.symbolClass_eq inputSymbols,
    answers.symbolClass_eq outputSymbols, services]

theorem serviceCode_eq (answers : registry.AnswersLike exact same other)
    {service : ServiceDescriptor} {symbol : Symbol} {methods : List MethodDescriptor}
    (alike : service.symbol.Alike same symbol)
    (inner : List.Forall₂ (MethodDescriptor.Alike exact same) service.methods methods) :
    Outline.serviceCode other { service with symbol, methods } =
      Outline.serviceCode registry service := by
  have services : ({ service with symbol, methods } : ServiceDescriptor).symbol.schemaName =
      service.symbol.schemaName := alike.schemaName_eq
  have codes : methods.map (Outline.methodCode other { service with symbol, methods }) =
      service.methods.map (Outline.methodCode registry service) := by
    apply map_eq_map_of_forall₂ _ inner
    intro method otherMethod methodsAlike
    exact answers.methodCode_eq services methodsAlike
  rw [Outline.serviceCode, Outline.serviceCode, codes, services]
  dsimp only
  rw [alike.name_eq]

theorem childrenCode {children others : List Descriptor}
    (each : List.Forall₂ (fun child like =>
      Repeats exact Eq (Outline.code registry child) (Outline.code other like)) children others) :
    Repeats exact Eq (Outline.childrenCode registry children)
      (Outline.childrenCode other others) := by
  induction each with
  | nil => exact .refl _
  | cons first _ ih =>
      rw [Outline.childrenCode, Outline.childrenCode]
      apply first.bind
      rintro text _ rfl
      apply ih.map
      rintro texts _ rfl
      rfl

/-- The induction is on the first descriptor; the children of the other one are alike. -/
theorem code (answers : registry.AnswersLike exact same other) {descriptor like : Descriptor}
    (alike : descriptor.Alike exact same like) :
    Repeats exact Eq (Outline.code registry descriptor) (Outline.code other like) := by
  induction descriptor using Descriptor.nestedInduction generalizing like with
  | step descriptor ih =>
      cases alike with
      | enum symbols =>
          rw [Outline.code, Outline.code, answers.enumCode_eq symbols]
          exact .refl _
      | oneof symbols =>
          rw [Outline.code, Outline.code, answers.oneofCode_eq symbols]
          exact .refl _
      | service symbols inner =>
          rw [Outline.code, Outline.code, answers.serviceCode_eq symbols inner]
          exact .refl _
      | @message message other children others messages inner =>
          obtain ⟨symbols, asked⟩ := messages
          have fields := Repeats.mapM
            (List.forall₂_same.mpr fun field isField => answers.fieldCode (asked field isField))
          have nested := childrenCode (List.forall₂_iff_zip.mpr ⟨inner.length_eq,
            fun pair => ih _ (List.of_mem_zip pair).1 ((List.forall₂_iff_zip.mp inner).2 pair)⟩)
          rw [Outline.code, Outline.code]
          apply fields.bind
          rintro fieldCodes _ rfl
          apply nested.map
          rintro text _ rfl
          rw [answers.nameConstants_eq symbols, symbols.name_eq]

theorem codes (answers : registry.AnswersLike exact same other)
    {descriptors others : List Descriptor}
    (alike : List.Forall₂ (Descriptor.Alike exact same) descriptors others) :
    Repeats exact Eq (descriptors.mapM (Outline.code registry))
      (others.mapM (Outline.code other)) := by
  apply Repeats.mapM
  apply alike.imp
  intro descriptor like each
  exact answers.code each

end Registry.AnswersLike

end ProtoCompanion
