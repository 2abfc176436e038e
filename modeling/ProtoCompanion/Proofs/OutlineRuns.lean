/-
Module: ProtoCompanion.Proofs.OutlineRuns
Purpose: A run of the outline generator over files in the order of their references can fail for a
  clash of names only.
Main exports: Settled, Settled.javaType, Settled.code, MeetsOrClashes, Running.file_run,
  outlines_fail_for_clashes_only
-/
import ProtoCompanion.Proofs.FieldShapes
import ProtoCompanion.Proofs.GeneratedFiles
import ProtoCompanion.Proofs.ReferenceOrder

/-!
Every other cause of failure is a reference that is looked up in vain, a field without a Java type,
or a map entry that lacks a part.  When the code of a file is generated, the registry holds all that
the file and those before it refer to, and this also covers the map entries that are found on the
way: they belong to one of these files.
-/

namespace ProtoCompanion

/-! ## Fields of descriptors -/

/-- The fields of a message's descriptor are those of the message. -/
theorem Describes.map_decl_fields {unit : FileUnit} {site : Site} {message : MessageDescriptor}
    {children : List Descriptor} (describes : Describes unit site (.message message children)) :
    message.fields.map FieldDescriptor.decl = site.decl.fields ∧
      message.isMapEntry = site.decl.isMapEntry := by
  cases describes with
  | message serial position head nested children describe =>
      exact ⟨map_decl_fieldsAt unit position head, rfl⟩

theorem ProtoType.exists_scalar {type : ProtoType} (noGroup : type ≠ .group)
    (noMessage : type ≠ .message) (noEnum : type ≠ .enum) :
    ∃ scalar, type.scalar? = some scalar := by
  cases type <;> first | contradiction | exact ⟨_, rfl⟩

/-! ## Types of fields -/

/-- The registry holds some files, and these refer to one another only. -/
structure Settled (registry : Registry) (files : List FileDecl) : Prop where
  holds : registry.Holds files
  refersBack : ∀ file ∈ files, file.RefersBack files

/-- A field that is declared in one of some files. -/
def FieldDecl.DeclaredIn (field : FieldDecl) (files : List FileDecl) : Prop :=
  ∃ file ∈ files, ∃ site ∈ file.sites, field ∈ site.decl.fields

namespace Settled

variable {registry : Registry} {files : List FileDecl} {field : FieldDescriptor}

/-- A field refers to nothing or to a declaration of one of the files. -/
theorem referent (settled : Settled registry files) (declared : field.decl.DeclaredIn files) :
    (field.referent? registry = .ok none ∧ ∃ scalar, field.decl.type.scalar? = some scalar) ∨
      ∃ file ∈ files, ∃ site ∈ file.sites, ∃ unit descriptor,
        Describes unit site descriptor ∧ field.referent? registry = .ok (some descriptor) := by
  obtain ⟨file, isFile, site, isSite, isField⟩ := declared
  have noGroup := (settled.refersBack file isFile).noGroups site isSite field.decl isField
  by_cases refers : field.Refers
  · have target := (settled.refersBack file isFile).fields site isSite field.decl isField refers
    obtain ⟨other, isOther, found, isFound, -, unit, descriptor, describes, resolved⟩ :=
      settled.holds.resolve target
    refine .inr ⟨other, isOther, found, isFound, unit, descriptor, describes, ?_⟩
    rw [FieldDescriptor.referent?_of_refers refers, resolved]
    rfl
  · obtain ⟨noMessage, noEnum⟩ := not_or.mp refers
    exact .inl ⟨FieldDescriptor.referent?_of_not_refers refers registry,
      ProtoType.exists_scalar noGroup noMessage noEnum⟩

theorem elementType (settled : Settled registry files) (declared : field.decl.DeclaredIn files) :
    ∃ type, field.elementType registry = .ok type := by
  rcases settled.referent declared with
    ⟨none, scalar, isScalar⟩ | ⟨_, -, _, -, _, descriptor, -, found⟩
  · refine ⟨scalar.name, ?_⟩
    simp only [FieldDescriptor.elementType, none, FieldDescriptor.scalar, isScalar]
    rfl
  · refine ⟨field.style (descriptor.companionName field.style), ?_⟩
    simp only [FieldDescriptor.elementType, found]
    rfl

/-- A map entry of one of the files has both of its parts, and these have types. -/
theorem entryTypes (settled : Settled registry files) {file : FileDecl} {site : Site}
    {unit : FileUnit} {entry : MessageDescriptor} {children : List Descriptor}
    (isFile : file ∈ files) (isSite : site ∈ file.sites)
    (describes : Describes unit site (.message entry children)) (isEntry : entry.isMapEntry) :
    ∃ types, entry.entryTypes registry = .ok types := by
  obtain ⟨fields, sameOption⟩ := describes.map_decl_fields
  have partType : ∀ part : MapEntryPart, ∃ field type, entry.entryField part = .ok field ∧
      field.elementType registry = .ok type := by
    intro part
    rw [sameOption] at isEntry
    obtain ⟨decl, isDecl, named⟩ := (settled.refersBack file isFile).mapEntries site isSite isEntry
      part
    rw [← fields] at isDecl
    obtain ⟨field, isField, rfl⟩ := List.mem_map.mp isDecl
    cases found : entry.field? part.fieldName with
    | none =>
        have other := List.find?_eq_none.mp found field isField
        simp [named] at other
    | some first =>
        have isFirst : first.decl ∈ site.decl.fields := by
          rw [← fields]
          exact List.mem_map_of_mem (List.mem_of_find?_eq_some found)
        obtain ⟨type, isType⟩ := settled.elementType ⟨file, isFile, site, isSite, isFirst⟩
        exact ⟨first, type, by rw [MessageDescriptor.entryField, found], isType⟩
  obtain ⟨key, keyType, isKey, isKeyType⟩ := partType .key
  obtain ⟨value, valueType, isValue, isValueType⟩ := partType .value
  refine ⟨(keyType, valueType), ?_⟩
  simp only [MessageDescriptor.entryTypes, isKey, isValue]
  simp only [Bind.bind, Except.bind, isKeyType, isValueType]
  rfl

theorem javaType (settled : Settled registry files) (declared : field.decl.DeclaredIn files) :
    ∃ type, field.javaType registry = .ok type := by
  obtain ⟨element, isElement⟩ := settled.elementType declared
  have answered := settled.referent declared
  cases field.shape registry with
  | single once isMap type =>
      rw [type, isElement]
      exact ⟨.single element, rfl⟩
  | list repeated resolves isMap type =>
      rw [type, isElement]
      exact ⟨.list element, rfl⟩
  | unresolved repeated refers missing isMap type =>
      rw [field.referent?_of_missing registry refers missing] at answered
      rcases answered with ⟨impossible, -⟩ | ⟨_, _, _, _, _, _, _, impossible⟩ <;> cases impossible
  | map repeated refers entry children found isEntry isMap type =>
      rw [FieldDescriptor.referent?_of_refers refers, found] at answered
      rcases answered with ⟨impossible, -⟩ | ⟨file, isFile, site, isSite, unit, _, describes, same⟩
      · cases impossible
      · cases same
        obtain ⟨types, areTypes⟩ := settled.entryTypes isFile isSite describes isEntry
        rw [type, areTypes]
        exact ⟨.map types.1 types.2, rfl⟩

end Settled

/-! ## Code of declarations -/

theorem exists_mapM {α β : Type} {f : α → Except Error β} {xs : List α}
    (each : ∀ x ∈ xs, ∃ y, f x = .ok y) : ∃ ys, xs.mapM f = .ok ys := by
  induction xs with
  | nil => exact ⟨[], rfl⟩
  | cons x xs ih =>
      obtain ⟨y, isHead⟩ := each x List.mem_cons_self
      obtain ⟨ys, areTail⟩ := ih fun other member => each other (List.mem_cons_of_mem x member)
      refine ⟨y :: ys, ?_⟩
      rw [List.mapM_cons, isHead, areTail]
      rfl

theorem Outline.exists_childrenCode {registry : Registry} {children : List Descriptor}
    (each : ∀ child ∈ children, ∃ text, code registry child = .ok text) :
    ∃ text, childrenCode registry children = .ok text := by
  induction children with
  | nil => exact ⟨"", by rw [childrenCode]; rfl⟩
  | cons child rest ih =>
      obtain ⟨first, isFirst⟩ := each child List.mem_cons_self
      obtain ⟨others, areOthers⟩ :=
        ih fun other member => each other (List.mem_cons_of_mem child member)
      refine ⟨"\n" ++ first ++ "\n" ++ others, ?_⟩
      rw [childrenCode, isFirst, areOthers]
      rfl

/-- Code is generated for every declaration of one of the files.  The induction is on the
descriptor, since the code of a message holds that of its children. -/
theorem Settled.code {registry : Registry} {files : List FileDecl}
    (settled : Settled registry files) {unit : FileUnit} {site : Site} {descriptor : Descriptor}
    (describes : Describes unit site descriptor)
    (inside : ∀ inner ∈ site.postorder, ∃ file ∈ files, inner ∈ file.sites) :
    ∃ text, Outline.code registry descriptor = .ok text := by
  induction descriptor using Descriptor.nestedInduction generalizing site with
  | step descriptor ih =>
      cases descriptor with
      | message message children =>
          obtain ⟨file, isFile, isSite⟩ := inside site site.mem_postorder_self
          have fieldsHave : ∀ field ∈ message.fields,
              ∃ text, Outline.fieldCode registry field = .ok text := by
            intro field isField
            have isDecl : field.decl ∈ site.decl.fields := by
              rw [← describes.map_decl_fields.1]
              exact List.mem_map_of_mem isField
            obtain ⟨type, isType⟩ := settled.javaType ⟨file, isFile, site, isSite, isDecl⟩
            simp only [Outline.fieldCode, isType]
            exact ⟨_, rfl⟩
          have childrenHave : ∀ child ∈ children,
              ∃ text, Outline.code registry child = .ok text := by
            intro child isChild
            obtain ⟨index, isIndexed⟩ := List.mem_iff_getElem?.mp isChild
            obtain ⟨childSite, isChildSite, childDescribes⟩ :=
              exists_rel_getElem? (List.Forall₂.flip describes.children) isIndexed
            apply ih child isChild childDescribes
            intro inner below
            exact inside inner
              (Site.mem_postorder_of_child (List.mem_of_getElem? isChildSite) below)
          obtain ⟨fields, areFields⟩ := exists_mapM fieldsHave
          obtain ⟨nested, isNested⟩ := Outline.exists_childrenCode childrenHave
          rw [Outline.code, areFields]
          simp only [Bind.bind, Except.bind, isNested]
          exact ⟨_, rfl⟩
      | enum enum => exact ⟨_, by rw [Outline.code]; rfl⟩
      | oneof oneof => exact ⟨_, by rw [Outline.code]; rfl⟩
      | service service => exact ⟨_, by rw [Outline.code]; rfl⟩

/-! ## Steps that fail for clashes only -/

/-- A step has succeeded with a property, or it has failed for a clash of names. -/
def MeetsOrClashes {σ α : Type} (post : α → σ → Prop) : EStateM.Result Error σ α → Prop
  | .ok value after => post value after
  | .error error _ => ∃ name clash, error = .nameClash name clash

theorem MeetsOrClashes.bind {σ α β : Type} {step : EStateM Error σ α}
    {next : α → EStateM Error σ β} {state : σ} {post : α → σ → Prop} {nextPost : β → σ → Prop}
    (first : MeetsOrClashes post (step state))
    (second : ∀ value after, post value after → MeetsOrClashes nextPost (next value after)) :
    MeetsOrClashes nextPost ((step >>= next) state) := by
  simp only [Bind.bind, EStateM.bind]
  cases result : step state with
  | error error after =>
      rw [result] at first
      exact first
  | ok value after =>
      rw [result] at first
      exact second value after first

/-! ## The generator of outlines -/

namespace Outline

variable (options : Options)

/-- The companion of a file is made when there is code for all its declarations. -/
theorem exists_companionOf {registry : Registry} (unit : FileUnit) {declared : TopLevel}
    (each : ∀ descriptor ∈ declared.enums ++ declared.messages ++ declared.services,
      ∃ text, code registry descriptor = .ok text) :
    ∃ output, companionOf registry unit declared = .ok output := by
  have generated : ∀ descriptors ⊆ declared.enums ++ declared.messages ++ declared.services,
      ∃ texts, descriptors.mapM (code registry) = .ok texts :=
    fun descriptors part => exists_mapM fun descriptor member => each descriptor (part member)
  obtain ⟨messageCode, areMessages⟩ := generated declared.messages (by simp)
  obtain ⟨enumCode, areEnums⟩ := generated declared.enums (by simp)
  obtain ⟨serviceCode, areServices⟩ := generated declared.services (by simp)
  simp only [companionOf, partsOf, Bind.bind, Except.bind, areMessages, areEnums, areServices]
  exact ⟨_, rfl⟩

theorem companion_run (view : RunView) (unit : FileUnit) (declared : TopLevel)
    (state : RunState Unit)
    (each : ∀ descriptor ∈ declared.enums ++ declared.messages ++ declared.services,
      ∃ text, code view.registry descriptor = .ok text) :
    MeetsOrClashes (fun _ after => after = state)
      (Running.companion (generator options) view unit declared state) := by
  obtain ⟨output, made⟩ := exists_companionOf unit each
  have run := outcome_companion options view unit declared state
  rw [made] at run
  rw [outcome_eq_ok.mp run]
  rfl

/-- One more file: the registry holds it afterwards, whether code was generated for it or not. -/
theorem file_run {earlier : List FileDecl} {file : FileDecl} (shared? : Option String)
    (parameters : Parameters) (rules : HttpRuleTable) {state : RunState Unit}
    (holds : state.registry.Holds earlier) (apart : NamesApart (earlier ++ [file]))
    (refersBack : ∀ other ∈ earlier ++ [file], other.RefersBack (earlier ++ [file])) :
    MeetsOrClashes (fun _ after => after.registry.Holds (earlier ++ [file]))
      (Running.file (generator options) shared? parameters file rules state) := by
  have isLast : file ∈ earlier ++ [file] := List.mem_append_right earlier List.mem_cons_self
  have prepared : MeetsOrClashes (fun _ after => state = after)
      (Running.settings (generator options) shared? file rules state) :=
    rfl
  refine prepared.bind ?_
  rintro settings _ rfl
  have registered : MeetsOrClashes
      (fun answer after => after.registry.Holds (earlier ++ [file]) ∧
        List.Forall₂ (Describes answer.1)
          (file.enumSites ++ file.messageSites ++ file.serviceSites)
          (answer.2.enums ++ answer.2.messages ++ answer.2.services))
      (Running.registering (registerFile file settings) state) := by
    have result := registerFile_of_refersBack settings holds apart (refersBack file isLast)
    rw [Running.registering]
    cases step : registerFile file settings state.registry with
    | error error final =>
        rw [step] at result
        exact result
    | ok answer final =>
        rw [step] at result
        obtain ⟨held, messages, enums, services⟩ := result
        exact ⟨held, List.rel_append (List.rel_append enums messages) services⟩
  refine registered.bind ?_
  rintro ⟨unit, declared⟩ entered ⟨held, describe⟩
  have asked : MeetsOrClashes (fun _ after => entered = after)
      (Running.asking ((generator options).skips file) entered) :=
    rfl
  refine asked.bind ?_
  rintro skipped _ rfl
  cases skipped with
  | true => exact held
  | false =>
      have settled : Settled entered.registry (earlier ++ [file]) := ⟨held, refersBack⟩
      have viewed : MeetsOrClashes
          (fun view after => entered = after ∧ view.registry = entered.registry)
          (Running.view shared? parameters entered) :=
        ⟨rfl, rfl⟩
      refine viewed.bind ?_
      rintro view _ ⟨rfl, sameRegistry⟩
      have companion := companion_run options view unit declared entered ?code
      case code =>
        intro descriptor member
        obtain ⟨index, isDescriptor⟩ := List.mem_iff_getElem?.mp member
        obtain ⟨site, isSite, describes⟩ :=
          exists_rel_getElem? (List.Forall₂.flip describe) isDescriptor
        rw [sameRegistry]
        apply settled.code describes
        intro inner below
        exact ⟨file, isLast, FileDecl.mem_sites_of_topLevel (List.mem_of_getElem? isSite) below⟩
      refine MeetsOrClashes.bind companion ?_
      rintro output _ rfl
      exact held

end Outline

/-! ## Whole requests -/

namespace CodeRequest.DependencyOrdered

variable {request : CodeRequest} {earlier later : List FileDecl}

theorem apart (ordered : request.DependencyOrdered) (split : request.files = earlier ++ later) :
    NamesApart earlier := by
  have distinct := ordered.distinct
  rw [split, NamesApart, List.flatMap_append] at distinct
  exact (List.nodup_append.mp distinct).1

/-- The files up to any point refer to one another only. -/
theorem refersBack_of_mem (ordered : request.DependencyOrdered)
    (split : request.files = earlier ++ later) {file : FileDecl} (member : file ∈ earlier) :
    file.RefersBack earlier := by
  obtain ⟨index, found⟩ := List.mem_iff_getElem?.mp member
  have inside := (List.getElem?_eq_some_iff.mp found).1
  have found' : request.files[index]? = some file := by
    rw [split, List.getElem?_append_left inside, found]
  have known := ordered.refersBack index file found'
  rw [split, List.take_append_of_le_length inside] at known
  exact known.mono (List.take_subset _ _)

end CodeRequest.DependencyOrdered

namespace Outline

variable (options : Options)

/-- The induction is on the files that are still to come; the registry holds those before them. -/
theorem files_run {request : CodeRequest} (ordered : request.DependencyOrdered)
    (shared? : Option String) {earlier later : List FileDecl}
    (split : request.files = earlier ++ later) (index : Nat) (state : RunState Unit)
    (holds : state.registry.Holds earlier) :
    MeetsOrClashes (fun _ _ => True)
      (Running.files (generator options) request shared? index later state) := by
  induction later generalizing earlier index state with
  | nil => trivial
  | cons file rest ih =>
      have next : request.files = (earlier ++ [file]) ++ rest := by
        rw [split, List.append_assoc]
        rfl
      have first := file_run options shared? request.parameters (request.httpRulesAt index) holds
        (ordered.apart next) fun other member => ordered.refersBack_of_mem next member
      refine MeetsOrClashes.bind first ?_
      intro output after held
      refine MeetsOrClashes.bind (ih next (index + 1) after held) ?_
      intro others last _
      trivial

end Outline

/-- A request in which every file comes after the files that it refers to, and no two declarations
have the same qualified name: a run of the outline generator succeeds, or it fails because a
declared name clashes with an outer class.  It fails for no reference and for no field. -/
theorem outlines_fail_for_clashes_only {request : CodeRequest} (ordered : request.DependencyOrdered)
    (options : Outline.Options) :
    (∃ files, (Outline.generator options).run request () = .ok files ()) ∨
      ∃ name clash,
        (Outline.generator options).run request () = .error (.nameClash name clash) () := by
  have start : Registry.Holds {} [] := by
    intro file impossible
    cases impossible
  have files := Outline.files_run options ordered (sharedPackage? request.files)
    (List.nil_append request.files).symm 0 { registry := {}, generator := () } start
  have whole : MeetsOrClashes (fun _ _ => True)
      ((Outline.generator options).runIn request { registry := {}, generator := () }) := by
    refine MeetsOrClashes.bind files ?_
    intro outputs after _
    trivial
  rw [Generator.run]
  cases result : (Outline.generator options).runIn request { registry := {}, generator := () } with
  | ok files state => exact .inl ⟨files, rfl⟩
  | error error state =>
      rw [result] at whole
      obtain ⟨name, clash, rfl⟩ := whole
      exact .inr ⟨name, clash, rfl⟩

/-- Two files: the second one has a map of messages of the first one, a message that refers to
itself and to a later one, and a service. -/
def orderedRequest : CodeRequest where
  files := [
    { name? := some "item.proto", package? := some "shop"
      enums := [{ name? := some "Color" }]
      messages := [.mk {
        name? := some "Item"
        fields := [{ name? := some "color", type? := some 14, typeName? := some ".shop.Color" }] }
        []] },
    { name? := some "order.proto", package? := some "shop"
      messages := [
        .mk {
          name? := some "Order"
          fields := [
            { name? := some "items", label? := some 3, type? := some 11
              typeName? := some ".shop.Order.ItemsEntry" },
            { name? := some "parent", type? := some 11, typeName? := some ".shop.Order" },
            { name? := some "receipt", type? := some 11, typeName? := some ".shop.Receipt" }] }
          [.mk {
            name? := some "ItemsEntry"
            fields := [
              { name? := some "key", type? := some 9 },
              { name? := some "value", type? := some 11, typeName? := some ".shop.Item" }]
            options? := some { mapEntryFlag? := some true } } []],
        .mk { name? := some "Receipt" } []]
      services := [{
        name? := some "Shop"
        methods := [{
          name? := some "Buy", input? := some ".shop.Order", output? := some ".shop.Item" }] }] }]

/-- The files of that request are in order, and a run over them writes a companion for each. -/
theorem outlines_of_ordered_request :
    orderedRequest.DependencyOrdered ∧
      ∃ files, (Outline.generator { index := false }).run orderedRequest () = .ok files () ∧
        files.map OutputFile.name? =
          [some "shop/ItemOutline.java", some "shop/OrderOutline.java"] := by
  have ordered : orderedRequest.DependencyOrdered := by
    have each : ∀ index < 2, ∀ file ∈ orderedRequest.files[index]?,
        file.RefersBack (orderedRequest.files.take (index + 1)) := by
      decide +kernel
    refine ⟨by decide +kernel, ?_⟩
    intro index file found
    have inside : index < 2 := (List.getElem?_eq_some_iff.mp found).1
    exact each index inside file found
  have names : (match (Outline.generator { index := false }).run orderedRequest () with
      | .ok files _ => files.map OutputFile.name?
      | .error _ _ => []) = [some "shop/ItemOutline.java", some "shop/OrderOutline.java"] := by
    decide +kernel
  rcases outlines_fail_for_clashes_only ordered { index := false } with
    ⟨files, accepted⟩ | ⟨name, clash, rejected⟩
  · rw [accepted] at names
    exact ⟨ordered, files, accepted, names⟩
  · rw [rejected] at names
    cases names

end ProtoCompanion
