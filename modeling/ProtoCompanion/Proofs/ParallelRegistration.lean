/-
Module: ProtoCompanion.Proofs.ParallelRegistration
Purpose: A file that is registered in two runs side by side is registered alike in both.
Main exports: Beside, Site.Fits, Accompanies, registerFile_parallel
-/
import ProtoCompanion.Proofs.MirroredRegistries
import ProtoCompanion.Proofs.RegistrationWalk

/-!
Two runs register the same file, each in a registry of its own, with the cursors at the same place.
Each step of the walk is taken in both runs, and leaves the cursors at the same place and the second
registry a mirror of the first.
-/

namespace ProtoCompanion

variable {exact : Prop} {front : List Bool}

/-! ## Walks side by side -/

/-- Two walks at the same place, in registries of which one mirrors the other. -/
structure Beside (exact : Prop) (front : List Bool) (cursor : Cursor) (walk like : Walk) :
    Prop where
  cursor_eq : walk.cursor = cursor
  likeCursor_eq : like.cursor = cursor
  mirrors : Mirrors exact front walk.registry like.registry

namespace Registering

variable {α β : Type} {post : α → β → Prop} {cursor : Cursor}

theorem outcome_within (place : Place) (step : Registering α) (walk : Walk) :
    outcome (within place step walk) =
      outcome (step { walk with cursor := walk.cursor.enter place }) >>= fun result =>
        match result.2.cursor.leave place with
        | (.ok (), cursor) => .ok (result.1, { result.2 with cursor })
        | (.error error, _) => .error error := by
  simp only [within]
  cases step { walk with cursor := walk.cursor.enter place } with
  | error error after => rfl
  | ok value after =>
      rcases left : after.cursor.leave place with ⟨error | done, cursor⟩ <;>
        simp only [left, outcome, Bind.bind, Except.bind]

theorem within_parallel {place : Place} {step : Registering α} {other : Registering β}
    (inside : Parallel exact (Beside exact front (cursor.enter place)) post step other) :
    Parallel exact (Beside exact front cursor) post (within place step) (within place other) := by
  rintro walk like ⟨rfl, sameCursor, mirrors⟩
  have entered := inside { walk with cursor := walk.cursor.enter place }
    { like with cursor := like.cursor.enter place } ⟨rfl, by rw [sameCursor], mirrors⟩
  rw [outcome_within, outcome_within]
  apply entered.bind
  rintro ⟨value, after⟩ ⟨likeValue, likeAfter⟩ ⟨related, kept, likeKept, stillMirrors⟩
  dsimp only at kept likeKept ⊢
  simp only [kept, likeKept, Cursor.leave_enter]
  exact .ok ⟨related, rfl, rfl, stillMirrors⟩

theorem each_parallel {γ : Type} {visit : Nat → γ → Registering α} {other : Nat → γ → Registering β}
    (start : Nat) (xs : List γ)
    (parallel : ∀ offset x, xs[offset]? = some x →
      Parallel exact (Beside exact front (cursor.enter (.element (start + offset)))) post
        (visit (start + offset) x) (other (start + offset) x)) :
    Parallel exact (Beside exact front cursor) (List.Forall₂ post) (each visit start xs)
      (each other start xs) := by
  induction xs generalizing start with
  | nil => exact .pure .nil
  | cons x xs ih =>
      apply (within_parallel (parallel 0 x rfl)).bind
      intro value like holds
      have others := ih (start + 1) fun offset y isElement => by
        rw [Nat.add_right_comm start 1 offset]
        exact parallel (offset + 1) y isElement
      apply others.map
      intro values likes allHold
      exact .cons holds allHold

theorem inList_parallel {γ : Type} {kind : ElementList} {visit : Nat → γ → Registering α}
    {other : Nat → γ → Registering β} {xs : List γ}
    (parallel : ∀ index x, xs[index]? = some x →
      Parallel exact
        (Beside exact front ((cursor.enter (.list kind)).enter (.element index))) post
        (visit index x) (other index x)) :
    Parallel exact (Beside exact front cursor) (List.Forall₂ post) (inList kind visit xs)
      (inList kind other xs) := by
  apply within_parallel
  apply each_parallel
  intro offset x isElement
  rw [Nat.zero_add]
  exact parallel offset x isElement

/-! ### What is found at the cursor -/

variable {unit like : FileUnit}

theorem comment_parallel (units : unit.Alike (Shifted front) like) :
    Parallel exact (Beside exact front cursor) Eq (comment unit) (comment like) := by
  rintro walk other ⟨rfl, sameCursor, mirrors⟩
  obtain ⟨identity, shared?, belongs⟩ := units
  refine .ok ⟨?_, rfl, sameCursor, mirrors⟩
  dsimp only
  rw [sameCursor]
  rfl

theorem httpRule?_parallel (units : unit.Alike (Shifted front) like) :
    Parallel exact (Beside exact front cursor) Eq (httpRule? unit) (httpRule? like) := by
  rintro walk other ⟨rfl, sameCursor, mirrors⟩
  obtain ⟨identity, shared?, belongs⟩ := units
  refine .ok ⟨?_, rfl, sameCursor, mirrors⟩
  dsimp only
  rw [sameCursor]

theorem messageType_parallel {reference : String} (asked : Asked exact reference) :
    Parallel exact (Beside exact front cursor) (MessageDescriptor.Alike exact (Shifted front))
      (messageType reference) (messageType reference) := by
  rintro walk other together
  have resolved := together.mirrors.answersLike.resolveMessage asked
  simp only [messageType, Bind.bind, EStateM.bind, get_eq]
  generalize walk.registry.resolveMessage reference = result,
    other.registry.resolveMessage reference = otherResult at resolved ⊢
  cases resolved with
  | ok alike => exact .ok ⟨alike, together⟩
  | error error => exact .error error
  | gained inexact error result => exact .gained inexact error _

theorem onOuterClass_parallel (units : unit.Alike (Shifted front) like)
    (step : EStateM Error Bool α) :
    Parallel exact (Beside exact front cursor) Eq (onOuterClass unit step)
      (onOuterClass like step) := by
  rintro walk other ⟨rfl, sameCursor, mirrors⟩
  simp only [onOuterClass, mirrors.hasCollision_eq units]
  cases step (walk.registry.hasCollision unit) with
  | error error collided => exact .error error
  | ok value collided => exact .ok ⟨rfl, rfl, sameCursor, mirrors.setCollision units collided⟩

theorem declare_parallel (units : unit.Alike (Shifted front) like) (name : String) :
    Parallel exact (Beside exact front cursor)
      (fun symbol other => symbol.Alike (Shifted front) other ∧ symbol.unit = unit ∧
        symbol.name = name ∧ symbol.outers = cursor.outers)
      (declare unit name) (declare like name) := by
  have sameOuter : like.outerClass = unit.outerClass := by
    cases units
    rfl
  rw [declare, declare, sameOuter]
  apply (onOuterClass_parallel units (unit.outerClass.accept name)).bind
  rintro _ _ rfl walk other ⟨rfl, sameCursor, mirrors⟩
  refine .ok ⟨⟨?_, rfl, rfl, rfl⟩, rfl, sameCursor, mirrors⟩
  dsimp only
  rw [sameCursor]
  exact .intro _ units

theorem enter_parallel {descriptor other : Descriptor}
    (alike : descriptor.Alike exact (Shifted front) other)
    (relative : exact ∨ ¬ IsQualified descriptor.relativeName) :
    Parallel exact (Beside exact front cursor) (Descriptor.Alike exact (Shifted front))
      (enter descriptor) (enter other) := by
  rintro walk otherWalk ⟨sameCursor, otherCursor, mirrors⟩
  exact .ok ⟨alike, sameCursor, otherCursor, mirrors.insert alike relative⟩

/-- The declaration at the cursor is introduced alike when its parts are, and when what is built of
alike parts is alike. -/
theorem introduce_parallel (units : unit.Alike (Shifted front) like) (name : String)
    {parts : Registering α} {likeParts : Registering β}
    {build : Symbol → String → α → Descriptor} {likeBuild : Symbol → String → β → Descriptor}
    (read : Parallel exact (Beside exact front cursor) post parts likeParts)
    (symbolEq : ∀ symbol comment value, (build symbol comment value).symbol = symbol)
    (alike : ∀ symbol likeSymbol comment value likeValue, symbol.Alike (Shifted front) likeSymbol →
      post value likeValue →
        (build symbol comment value).Alike exact (Shifted front)
          (likeBuild likeSymbol comment likeValue))
    (relative : exact ∨
      ¬ IsQualified (".".intercalate ((cursor.outers ++ [name]).map unit.style))) :
    Parallel exact (Beside exact front cursor) (Descriptor.Alike exact (Shifted front))
      (introduce unit name parts build) (introduce like name likeParts likeBuild) := by
  apply (declare_parallel units name).bind
  rintro symbol likeSymbol ⟨symbols, sameUnit, sameName, sameOuters⟩
  apply (comment_parallel units).bind
  rintro comment _ rfl
  apply read.bind
  intro value likeValue holds
  apply enter_parallel (alike symbol likeSymbol comment value likeValue symbols holds)
  rw [Descriptor.relativeName, symbolEq, Symbol.nameWithin, sameUnit, sameName, sameOuters]
  exact relative

/-! ### Parts -/

theorem enumValues_parallel (units : unit.Alike (Shifted front) like)
    (decls : List EnumValueDecl) :
    Parallel exact (Beside exact front cursor) Eq
      (inList .enumValues (fun _ => enumValue unit) decls)
      (inList .enumValues (fun _ => enumValue like) decls) := by
  rw [← List.forall₂_eq_eq_eq]
  apply inList_parallel
  intro index decl _
  apply (comment_parallel units).map
  rintro comment _ rfl
  rfl

theorem fields_parallel (units : unit.Alike (Shifted front) like) (head : MessageHead) :
    Parallel exact (Beside exact front cursor)
      (fun fields others => (∀ field ∈ fields, field.decl ∈ head.fields) ∧ fields = others)
      (inList .fields (fun _ => field unit head) head.fields)
      (inList .fields (fun _ => field like head) head.fields) := by
  have each : Parallel exact (Beside exact front cursor)
      (List.Forall₂ fun field other => field.decl ∈ head.fields ∧ field = other)
      (inList .fields (fun _ => field unit head) head.fields)
      (inList .fields (fun _ => field like head) head.fields) := by
    apply inList_parallel
    intro index decl isElement
    apply (comment_parallel units).map
    rintro comment _ rfl
    obtain ⟨identity, shared?, belongs⟩ := units
    exact ⟨List.mem_of_getElem? isElement, rfl⟩
  apply each.mono
  intro fields others same
  rwa [List.forall₂_and_left, List.forall₂_eq_eq_eq] at same

theorem methods_parallel (units : unit.Alike (Shifted front) like) (decl : ServiceDecl)
    (asked : ∀ reference ∈ (Declaration.service decl).references, Asked exact reference) :
    Parallel exact (Beside exact front cursor)
      (List.Forall₂ (MethodDescriptor.Alike exact (Shifted front)))
      (inList .methods (fun _ => method unit) decl.methods)
      (inList .methods (fun _ => method like) decl.methods) := by
  apply inList_parallel
  intro index method isElement
  have isMethod := List.mem_of_getElem? isElement
  apply (comment_parallel units).bind
  rintro comment _ rfl
  apply (messageType_parallel (asked method.input
    (List.mem_flatMap.mpr ⟨method, isMethod, by simp⟩))).bind
  intro input likeInput inputs
  apply (messageType_parallel (asked method.output
    (List.mem_flatMap.mpr ⟨method, isMethod, by simp⟩))).bind
  intro output likeOutput outputs
  apply (httpRule?_parallel units).map
  rintro rule? _ rfl
  exact .intro inputs outputs

end Registering

/-! ## Declarations side by side -/

/-- A declaration that can be compared. -/
def Site.Fits (exact : Prop) (style : Naming.NameStyle) (site : Site) : Prop :=
  exact ∨ site.Plain style

/-- The registration of a declaration is the same in two runs, wherever it takes place. -/
def Accompanies (exact : Prop) (front : List Bool) (style : Naming.NameStyle)
    (declaration : Declaration) (step other : Registering Descriptor) : Prop :=
  ∀ cursor : Cursor,
    (∀ site ∈ Site.postorder ⟨cursor.toPosition, declaration⟩, site.Fits exact style) →
      Parallel exact (Beside exact front cursor) (Descriptor.Alike exact (Shifted front)) step other

namespace Registering

variable {unit like : FileUnit} {cursor : Cursor}

theorem fits_relative {style : Naming.NameStyle} {declaration : Declaration}
    (fits : Site.Fits exact style ⟨cursor.toPosition, declaration⟩) :
    exact ∨ ¬ IsQualified
      (".".intercalate ((cursor.outers ++ [declaration.name]).map style)) := by
  apply fits.imp_right
  intro plain
  exact plain.relative

theorem enum_parallel (units : unit.Alike (Shifted front) like) (decl : EnumDecl) :
    Accompanies exact front unit.style (.enum decl) (enum unit decl) (enum like decl) := by
  intro cursor fits
  have relative := fits_relative (fits _ (Site.mem_postorder_self _))
  apply introduce_parallel units decl.name (enumValues_parallel units decl.values) ?symbolEq
    ?alike relative
  case symbolEq =>
    intro symbol comment values
    rfl
  case alike =>
    rintro symbol likeSymbol comment values _ symbols rfl
    exact .enum symbols

theorem oneof_parallel (units : unit.Alike (Shifted front) like) (index : Nat) (decl : OneofDecl) :
    Accompanies exact front unit.style (.oneof index decl) (oneof unit index decl)
      (oneof like index decl) := by
  intro cursor fits
  have relative := fits_relative (fits _ (Site.mem_postorder_self _))
  apply introduce_parallel units decl.name (.pure (rfl : () = ())) ?symbolEq ?alike relative
  case symbolEq =>
    intro symbol comment value
    rfl
  case alike =>
    intro symbol likeSymbol comment _ _ symbols _
    exact .oneof symbols

theorem service_parallel (units : unit.Alike (Shifted front) like) (decl : ServiceDecl) :
    Accompanies exact front unit.style (.service decl) (service unit decl)
      (service like decl) := by
  intro cursor fits
  have own := fits _ (Site.mem_postorder_self _)
  have asked : ∀ reference ∈ (Declaration.service decl).references, Asked exact reference :=
    fun reference member => own.imp_right fun plain => plain.references reference member
  have relative := fits_relative own
  apply introduce_parallel units decl.name (methods_parallel units decl asked) ?symbolEq ?alike
    relative
  case symbolEq =>
    intro symbol comment methods
    rfl
  case alike =>
    intro symbol likeSymbol comment methods likeMethods symbols inner
    exact .service symbols inner

/-! ### Lists -/

theorem declarations_parallel {α : Type} {style : Naming.NameStyle} {kind : ElementList}
    {visit other : Nat → α → Registering Descriptor} {declaration : Nat → α → Declaration}
    {xs : List α}
    (accompanies : ∀ index, ∀ x ∈ xs,
      Accompanies exact front style (declaration index x) (visit index x) (other index x))
    (fits : ∀ root ∈ cursor.toPosition.sites kind declaration xs, ∀ site ∈ root.postorder,
      site.Fits exact style) :
    Parallel exact (Beside exact front cursor)
      (List.Forall₂ (Descriptor.Alike exact (Shifted front))) (inList kind visit xs)
      (inList kind other xs) := by
  apply inList_parallel
  intro index x isElement
  apply accompanies index x (List.mem_of_getElem? isElement)
  apply fits
  apply List.mem_of_getElem?
  rw [Position.sites, Position.sitesFrom, Position.getElem?_elements, isElement, Option.map_some,
    Nat.zero_add]
  rfl

theorem messages_parallel {style : Naming.NameStyle} {kind : ElementList}
    {decls : List MessageDecl}
    (accompanies : ∀ decl ∈ decls,
      Accompanies exact front style (.message decl) (message unit decl) (message like decl))
    (fits : ∀ root ∈ cursor.toPosition.sites kind (fun _ => .message) decls,
      ∀ site ∈ root.postorder, site.Fits exact style) :
    Parallel exact (Beside exact front cursor)
      (List.Forall₂ (Descriptor.Alike exact (Shifted front)))
      (within (.list kind) (messages unit 0 decls))
      (within (.list kind) (messages like 0 decls)) := by
  rw [messages_eq_each, messages_eq_each]
  exact declarations_parallel (fun _ decl member => accompanies decl member) fits

/-- The induction is on the message: what is nested in it is registered before it, list by list. -/
theorem message_parallel (units : unit.Alike (Shifted front) like) (decl : MessageDecl) :
    Accompanies exact front unit.style (.message decl) (message unit decl)
      (message like decl) := by
  induction decl using MessageDecl.nestedInduction with
  | mk head nested ih =>
      intro cursor fits
      have own := fits _ (Site.mem_postorder_self _)
      have relative := fits_relative own
      have below : ∀ root ∈ Site.children ⟨cursor.toPosition, .message (.mk head nested)⟩,
          ∀ site ∈ root.postorder, site.Fits exact unit.style :=
        fun root isChild site member => fits site (Site.mem_postorder_of_child isChild member)
      simp only [Site.children, List.mem_append, or_imp, forall_and] at below
      obtain ⟨⟨innerFits, enumsFit⟩, oneofsFit⟩ := below
      rw [message, message]
      apply (messages_parallel ih innerFits).bind
      intro inner likeInner innerAlike
      apply (declarations_parallel (fun _ decl _ => enum_parallel units decl) enumsFit).bind
      intro enums likeEnums enumsAlike
      apply (declarations_parallel (fun index decl _ => oneof_parallel units index decl)
        oneofsFit).bind
      intro oneofs likeOneofs oneofsAlike
      apply introduce_parallel units head.name (fields_parallel units head) ?symbolEq ?alike
        relative
      case symbolEq =>
        intro symbol comment fields
        rfl
      case alike =>
        rintro symbol likeSymbol comment fields _ symbols ⟨declared, rfl⟩
        refine .message (.intro symbols ?asked)
          (List.rel_append (List.rel_append innerAlike enumsAlike) oneofsAlike)
        intro field isField type
        exact own.imp_right fun plain => plain.fields field.decl (declared field isField) type

/-- The three lists of a file are registered one after the other, from the root of the file. -/
theorem file_parallel (units : unit.Alike (Shifted front) like) (decl : FileDecl)
    (fits : ∀ site ∈ decl.sites, site.Fits exact unit.style) :
    Parallel exact (Beside exact front {}) (TopLevel.Alike exact (Shifted front)) (file unit decl)
      (file like decl) := by
  have each : ∀ root ∈ decl.enumSites ++ decl.messageSites ++ decl.serviceSites,
      ∀ site ∈ root.postorder, site.Fits exact unit.style :=
    fun root isRoot site member => fits site (FileDecl.mem_sites_of_topLevel isRoot member)
  simp only [List.mem_append, or_imp, forall_and] at each
  obtain ⟨⟨enumsFit, messagesFit⟩, servicesFit⟩ := each
  have enumLists : Parallel exact (Beside exact front {})
      (List.Forall₂ (Descriptor.Alike exact (Shifted front)))
      (inList .enums (fun _ => enum unit) decl.enums)
      (inList .enums (fun _ => enum like) decl.enums) :=
    declarations_parallel (fun _ decl _ => enum_parallel units decl) enumsFit
  have messageLists : Parallel exact (Beside exact front {})
      (List.Forall₂ (Descriptor.Alike exact (Shifted front)))
      (within (.list .messages) (messages unit 0 decl.messages))
      (within (.list .messages) (messages like 0 decl.messages)) :=
    messages_parallel (fun decl _ => message_parallel units decl) messagesFit
  have serviceLists : Parallel exact (Beside exact front {})
      (List.Forall₂ (Descriptor.Alike exact (Shifted front)))
      (inList .services (fun _ => service unit) decl.services)
      (inList .services (fun _ => service like) decl.services) :=
    declarations_parallel (fun _ decl _ => service_parallel units decl) servicesFit
  rw [file, file]
  apply enumLists.bind
  intro enums likeEnums enumsAlike
  apply messageLists.bind
  intro messages likeMessages messagesAlike
  apply serviceLists.map
  intro services likeServices servicesAlike
  exact ⟨messagesAlike, enumsAlike, servicesAlike⟩

end Registering

/-! ## Whole files -/

theorem outcome_registerFile (file : FileDecl) (settings : UnitSettings) (registry : Registry) :
    outcome (registerFile file settings registry) =
      outcome (Registering.file (registry.openFile file settings).1 file
        { registry := (registry.openFile file settings).2 }) >>= fun result =>
          .ok (((registry.openFile file settings).1, result.1), result.2.registry) := by
  simp only [registerFile]
  cases Registering.file (registry.openFile file settings).1 file
    { registry := (registry.openFile file settings).2 } <;> rfl

/-- A file is registered alike in a registry and in one that mirrors it, whichever package the files
of either run share.  In the second registry an exact comparison fails with the same error. -/
theorem registerFile_parallel (file : FileDecl) (settings : UnitSettings) (shared? : Option String)
    (fits : ∀ site ∈ file.sites, site.Fits exact settings.style) :
    Parallel exact (Mirrors exact front)
      (fun answer other => answer.1.Alike (Shifted front) other.1 ∧
        answer.2.Alike exact (Shifted front) other.2)
      (registerFile file settings)
      (registerFile file { settings with sharedPackage? := shared? }) := by
  intro registry other mirrors
  obtain ⟨units, opened⟩ := mirrors.openFile file settings shared?
  have walks := Registering.file_parallel units file fits
    { registry := (registry.openFile file settings).2 }
    { registry := (other.openFile file { settings with sharedPackage? := shared? }).2 }
    ⟨rfl, rfl, opened⟩
  rw [outcome_registerFile, outcome_registerFile]
  apply walks.bind
  rintro ⟨declared, walk⟩ ⟨like, likeWalk⟩ ⟨alike, together⟩
  exact .ok ⟨⟨units, alike⟩, together.mirrors⟩

end ProtoCompanion
