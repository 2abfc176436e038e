/-
Module: ProtoCompanion.Proofs.RegistrationWalk
Purpose: The walk through the tree of a file is a run over its declarations in postorder.
Main exports: Covers, Registers, Registering.message_registers, Registering.file_covers, FileRun,
  registerFile_run
-/
import ProtoCompanion.Proofs.RegistrationReads

/-!
Each part of the walk ends with the cursor where it was, and what it registers is a run over the
sites of that part: the list that is computed from the tree and from the position at which the part
was started.
-/

namespace ProtoCompanion

/-! ## Steps that register -/

/-- The result of a step that was taken at a walk: the cursor is where it was, and between the two
registries lies a run over a list of sites, which is complete if the step has succeeded. -/
def Covers {α : Type} (unit : FileUnit) (walk : Walk) (sites : List Site)
    (post : α → List Descriptor → Prop) : EStateM.Result Error Walk α → Prop
  | .ok value after =>
      after.cursor = walk.cursor ∧
        ∃ descriptors, EntersAll unit walk.registry sites descriptors after.registry ∧
          post value descriptors
  | .error error after =>
      after.cursor = walk.cursor ∧ Stops unit walk.registry sites error after.registry

namespace Covers

variable {α β : Type} {unit : FileUnit}

theorem pure {walk : Walk} {value : α} {post : α → List Descriptor → Prop}
    (holds : post value []) :
    Covers unit walk [] post ((Pure.pure value : Registering α) walk) :=
  ⟨rfl, [], .nil _, holds⟩

theorem bind {walk : Walk} {step : Registering α} {next : α → Registering β}
    {sites more : List Site} {post : α → List Descriptor → Prop}
    {nextPost : β → List Descriptor → Prop} (first : Covers unit walk sites post (step walk))
    (second : ∀ value descriptors (after : Walk), after.cursor = walk.cursor →
      post value descriptors →
      Covers unit after more (fun result others => nextPost result (descriptors ++ others))
        (next value after)) :
    Covers unit walk (sites ++ more) nextPost ((step >>= next) walk) := by
  simp only [Bind.bind, EStateM.bind]
  cases result : step walk with
  | error error after =>
      rw [result] at first
      exact ⟨first.1, first.2.append_left more⟩
  | ok value after =>
      rw [result] at first
      obtain ⟨kept, descriptors, entered, holds⟩ := first
      have rest := second value descriptors after kept holds
      cases final : next value after with
      | error error last =>
          rw [final] at rest
          simp only [final]
          exact ⟨rest.1.trans kept, entered.stops rest.2⟩
      | ok answer last =>
          rw [final] at rest
          obtain ⟨keptAgain, others, enteredToo, answerHolds⟩ := rest
          simp only [final]
          exact ⟨keptAgain.trans kept, descriptors ++ others, entered.append enteredToo,
            answerHolds⟩

/-- A last step that only builds a value adds nothing to the run. -/
theorem map {walk : Walk} {step : Registering α} {sites : List Site}
    {post : α → List Descriptor → Prop} {finalPost : β → List Descriptor → Prop} {build : α → β}
    (covers : Covers unit walk sites post (step walk))
    (holds : ∀ value descriptors, post value descriptors → finalPost (build value) descriptors) :
    Covers unit walk sites finalPost ((step >>= fun value => Pure.pure (build value)) walk) := by
  rw [← List.append_nil sites]
  refine Covers.bind covers ?last
  intro value descriptors after kept known
  apply Covers.pure
  rw [List.append_nil]
  exact holds value descriptors known

theorem mono {walk : Walk} {sites : List Site} {post weaker : α → List Descriptor → Prop}
    {result : EStateM.Result Error Walk α} (covers : Covers unit walk sites post result)
    (weaken : ∀ value descriptors, post value descriptors → weaker value descriptors) :
    Covers unit walk sites weaker result := by
  cases result with
  | error error after => exact covers
  | ok value after =>
      obtain ⟨kept, descriptors, entered, holds⟩ := covers
      exact ⟨kept, descriptors, entered, weaken value descriptors holds⟩

/-- A step inside a place is taken at the walk that has entered it. -/
theorem within {walk : Walk} {place : Place} {step : Registering α} {sites : List Site}
    {post : α → List Descriptor → Prop}
    (inside : Covers unit { walk with cursor := walk.cursor.enter place } sites post
      (step { walk with cursor := walk.cursor.enter place })) :
    Covers unit walk sites post (Registering.within place step walk) := by
  simp only [Registering.within]
  cases result : step { walk with cursor := walk.cursor.enter place } with
  | error error after =>
      rw [result] at inside
      obtain ⟨kept, stops⟩ := inside
      simp only [kept, Cursor.leave_enter]
      exact ⟨rfl, stops⟩
  | ok value after =>
      rw [result] at inside
      obtain ⟨kept, entered⟩ := inside
      simp only [kept, Cursor.leave_enter]
      exact ⟨rfl, entered⟩

end Covers

/-! ## Walkers -/

namespace Registering

variable {unit : FileUnit} {walk : Walk}

theorem introduce_eq {α : Type} (name : String) (parts : Registering α)
    (descriptor : Symbol → String → α → Descriptor) :
    introduce unit name parts descriptor walk =
      match unit.outerClass.accept name (walk.registry.hasCollision unit) with
      | .error error collided =>
          .error error { walk with registry := walk.registry.setCollision unit collided }
      | .ok _ collided =>
          match parts { walk with registry := walk.registry.setCollision unit collided } with
          | .error error after => .error error after
          | .ok value after =>
              enter (descriptor ⟨walk.registry.registrations, name, walk.cursor.outers, unit⟩
                (unit.commentAt walk.cursor.path) value) after := by
  simp only [introduce, declare, comment, onOuterClass, Bind.bind, EStateM.bind, get_eq, Pure.pure,
    EStateM.pure]
  cases unit.outerClass.accept name (walk.registry.hasCollision unit) with
  | error error collided => rfl
  | ok value collided =>
      dsimp only
      cases parts { walk with registry := walk.registry.setCollision unit collided } <;> rfl

/-- The registration of one declaration, given what its parts are read as. -/
theorem introduce_covers {α : Type} (declaration : Declaration) {parts : Registering α}
    (descriptor : Symbol → String → α → Descriptor) {found : Position → Registry → α → Prop}
    {missing : Registry → Error → Prop} (reads : Reads parts found missing)
    (symbolEq : ∀ symbol comment value, (descriptor symbol comment value).symbol = symbol)
    (describes : ∀ serial registry value, found walk.cursor.toPosition registry value →
      Describes unit ⟨walk.cursor.toPosition, declaration⟩
        (descriptor ⟨serial, declaration.name, walk.cursor.outers, unit⟩
          (unit.commentAt walk.cursor.path) value))
    (resolves : ∀ registry symbol comment value, found walk.cursor.toPosition registry value →
      Resolves registry declaration (descriptor symbol comment value))
    (unresolved : ∀ registry error, missing registry error →
      ∃ reference ∈ declaration.references, registry.resolveMessage reference = .error error) :
    Covers unit walk [⟨walk.cursor.toPosition, declaration⟩]
      (fun value descriptors => descriptors = [value] ∧
        Describes unit ⟨walk.cursor.toPosition, declaration⟩ value ∧
        ∃ symbol comment found, value = descriptor symbol comment found)
      (introduce unit declaration.name parts descriptor walk) := by
  rw [introduce_eq]
  cases accepted : unit.outerClass.accept declaration.name (walk.registry.hasCollision unit) with
  | error error collided => exact ⟨rfl, .here [] (.name collided accepted)⟩
  | ok _ collided =>
      have read := reads { walk with registry := walk.registry.setCollision unit collided }
      cases result : parts { walk with registry := walk.registry.setCollision unit collided } with
      | error error after =>
          rw [result] at read
          obtain ⟨rfl, missed⟩ := read
          obtain ⟨reference, member, fails⟩ := unresolved _ error missed
          simp only [result]
          exact ⟨rfl, .here [] (.reference collided reference accepted member fails)⟩
      | ok value after =>
          rw [result] at read
          obtain ⟨rfl, holds⟩ := read
          have described := describes walk.registry.registrations _ value holds
          simp only [result]
          refine ⟨rfl, [_], .cons ?enters (.nil _), rfl, described, _, _, value, rfl⟩
          exact
            { describes := described
              serial := by rw [symbolEq]
              resolves := resolves (walk.registry.setCollision unit collided) _ _ _ holds
              accepted := ⟨collided, accepted, rfl⟩ }

/-- A step registers a declaration: wherever it is taken, it goes over the declaration at that
position and all that is nested in it, and its value describes the declaration. -/
def Registers (unit : FileUnit) (declaration : Declaration) (step : Registering Descriptor) :
    Prop :=
  ∀ walk : Walk,
    Covers unit walk (Site.postorder ⟨walk.cursor.toPosition, declaration⟩)
      (fun value descriptors => descriptors = value.postorder ∧
        Describes unit ⟨walk.cursor.toPosition, declaration⟩ value)
      (step walk)

/-- The registration of a declaration in which nothing can be nested. -/
theorem introduce_registers {α : Type} (declaration : Declaration) {parts : Registering α}
    (descriptor : Symbol → String → α → Descriptor) {found : Position → Registry → α → Prop}
    {missing : Registry → Error → Prop} (reads : Reads parts found missing)
    (leaf : ∀ position, Site.children ⟨position, declaration⟩ = [])
    (childless : ∀ symbol comment value, (descriptor symbol comment value).children = [])
    (symbolEq : ∀ symbol comment value, (descriptor symbol comment value).symbol = symbol)
    (describes : ∀ position serial registry value, found position registry value →
      Describes unit ⟨position, declaration⟩
        (descriptor ⟨serial, declaration.name, position.outers, unit⟩
          (unit.commentAt position.path) value))
    (resolves : ∀ position registry symbol comment value, found position registry value →
      Resolves registry declaration (descriptor symbol comment value))
    (unresolved : ∀ registry error, missing registry error →
      ∃ reference ∈ declaration.references, registry.resolveMessage reference = .error error) :
    Registers unit declaration (introduce unit declaration.name parts descriptor) := by
  intro walk
  have order : Site.postorder ⟨walk.cursor.toPosition, declaration⟩ =
      [⟨walk.cursor.toPosition, declaration⟩] := by
    rw [Site.postorder_eq, leaf]
    rfl
  have covers := introduce_covers declaration descriptor reads symbolEq
    (describes walk.cursor.toPosition) (resolves walk.cursor.toPosition) unresolved
  rw [order]
  apply covers.mono
  intro value descriptors holds
  obtain ⟨isSingle, described, symbol, comment, found, isDescriptor⟩ := holds
  refine ⟨?_, described⟩
  rw [isSingle, Descriptor.postorder_eq, isDescriptor, childless]
  rfl

theorem enum_registers (unit : FileUnit) (decl : EnumDecl) :
    Registers unit (.enum decl) (enum unit decl) := by
  refine introduce_registers (.enum decl) _ (enumValues_read unit decl.values) (fun _ => rfl)
    (fun _ _ _ => rfl) (fun _ _ _ => rfl) ?describes (fun _ _ _ _ _ _ => trivial)
    (fun _ _ impossible => impossible.elim)
  intro position serial registry values areValues
  rw [areValues]
  exact .enum serial position decl

theorem oneof_registers (unit : FileUnit) (index : Nat) (decl : OneofDecl) :
    Registers unit (.oneof index decl) (oneof unit index decl) := by
  refine introduce_registers (.oneof index decl) _ (Reads.pure ()) (fun _ => rfl)
    (fun _ _ _ => rfl) (fun _ _ _ => rfl) ?describes (fun _ _ _ _ _ _ => trivial)
    (fun _ _ impossible => impossible.elim)
  intro position serial registry value _
  exact .oneof serial position index decl

theorem service_registers (unit : FileUnit) (decl : ServiceDecl) :
    Registers unit (.service decl) (service unit decl) := by
  refine introduce_registers (.service decl) _ (methods_read unit decl) (fun _ => rfl)
    (fun _ _ _ => rfl) (fun _ _ _ => rfl) ?describes ?resolves (fun _ _ missed => missed)
  case describes =>
    intro position serial registry methods holds
    exact .service serial position decl methods holds.1
  case resolves =>
    intro position registry symbol comment methods holds
    exact holds.2

/-! ## Lists -/

/-- What the registration of a list has come to: its values describe the sites of the list, and the
run was over these and all that is nested in them. -/
def RegisteredList (unit : FileUnit) (sites : List Site) (values descriptors : List Descriptor) :
    Prop :=
  descriptors = Descriptor.postorders values ∧ List.Forall₂ (Describes unit) sites values

theorem RegisteredList.append {sites more : List Site} {values others : List Descriptor}
    {descriptors otherDescriptors : List Descriptor}
    (first : RegisteredList unit sites values descriptors)
    (second : RegisteredList unit more others otherDescriptors) :
    RegisteredList unit (sites ++ more) (values ++ others) (descriptors ++ otherDescriptors) := by
  refine ⟨?_, List.rel_append first.2 second.2⟩
  rw [first.1, second.1]
  simp only [Descriptor.postorders_eq_flatMap, List.flatMap_append]

/-- Registration of the elements of a list, given that of each element. -/
theorem each_covers {α : Type} {visit : Nat → α → Registering Descriptor}
    {declaration : Nat → α → Declaration} {xs : List α}
    (registers : ∀ index, ∀ x ∈ xs, Registers unit (declaration index x) (visit index x))
    (start : Nat) (walk : Walk) :
    Covers unit walk
      ((walk.cursor.toPosition.sitesFrom declaration start xs).flatMap Site.postorder)
      (RegisteredList unit (walk.cursor.toPosition.sitesFrom declaration start xs))
      (each visit start xs walk) := by
  induction xs generalizing start walk with
  | nil => exact Covers.pure ⟨rfl, .nil⟩
  | cons x xs ih =>
      have first := registers start x List.mem_cons_self
        { walk with cursor := walk.cursor.enter (.element start) }
      rw [Position.sitesFrom_cons, List.flatMap_cons]
      refine Covers.bind first.within ?others
      intro value descriptors after kept holds
      have others := ih (fun index y member => registers index y (List.mem_cons_of_mem x member))
        (start + 1) after
      rw [kept] at others
      refine Covers.map others ?last
      intro values more othersHold
      refine ⟨?_, .cons holds.2 othersHold.2⟩
      rw [holds.1, othersHold.1, Descriptor.postorders]

theorem inList_covers {α : Type} {visit : Nat → α → Registering Descriptor}
    {declaration : Nat → α → Declaration} {xs : List α}
    (registers : ∀ index, ∀ x ∈ xs, Registers unit (declaration index x) (visit index x))
    (kind : ElementList) (walk : Walk) :
    Covers unit walk ((walk.cursor.toPosition.sites kind declaration xs).flatMap Site.postorder)
      (RegisteredList unit (walk.cursor.toPosition.sites kind declaration xs))
      (inList kind visit xs walk) :=
  Covers.within (each_covers registers 0 _)

theorem messages_eq_each (unit : FileUnit) (index : Nat) (decls : List MessageDecl) :
    messages unit index decls = each (fun _ => message unit) index decls := by
  induction decls generalizing index with
  | nil => rfl
  | cons decl rest ih => rw [messages, ih, each]

theorem messages_covers {decls : List MessageDecl}
    (registers : ∀ decl ∈ decls, Registers unit (.message decl) (message unit decl))
    (kind : ElementList) (walk : Walk) :
    Covers unit walk
      ((walk.cursor.toPosition.sites kind (fun _ => .message) decls).flatMap Site.postorder)
      (RegisteredList unit (walk.cursor.toPosition.sites kind (fun _ => .message) decls))
      (within (.list kind) (messages unit 0 decls) walk) := by
  rw [messages_eq_each]
  exact inList_covers (fun _ decl member => registers decl member) kind walk

/-! ## Messages and files -/

/-- The last step of a message: its own descriptor gets as children what the three lists inside it
have come to. -/
theorem own_covers (unit : FileUnit) (head : MessageHead) (nested : List MessageDecl) (walk : Walk)
    {children : List Descriptor}
    (describe : List.Forall₂ (Describes unit)
      (Site.children ⟨walk.cursor.toPosition, .message (.mk head nested)⟩) children) :
    Covers unit walk [⟨walk.cursor.toPosition, .message (.mk head nested)⟩]
      (fun value descriptors => Descriptor.postorders children ++ descriptors = value.postorder ∧
        Describes unit ⟨walk.cursor.toPosition, .message (.mk head nested)⟩ value)
      (introduce unit head.name (inList .fields (fun _ => field unit head) head.fields)
        (fun symbol comment fields =>
          .message { symbol, decl := head, comment, fields } children) walk) := by
  refine (introduce_covers (.message (.mk head nested)) (fun symbol comment fields =>
    .message { symbol, decl := head, comment, fields } children) (fields_read unit head)
    (fun _ _ _ => rfl) ?describes (fun _ _ _ _ _ => trivial)
    (fun _ _ impossible => impossible.elim)).mono ?post
  case describes =>
    intro serial registry fields areFields
    rw [areFields]
    exact .message serial _ head nested children describe
  case post =>
    intro value descriptors holds
    obtain ⟨isSingle, described, symbol, comment, fields, isMessage⟩ := holds
    refine ⟨?_, described⟩
    rw [isSingle, isMessage, Descriptor.postorder]

/-- The induction is on the message: what is nested in it is registered before it, list by list. -/
theorem message_registers (unit : FileUnit) (decl : MessageDecl) :
    Registers unit (.message decl) (message unit decl) := by
  induction decl using MessageDecl.nestedInduction with
  | mk head nested ih =>
      intro walk
      have order : Site.postorder ⟨walk.cursor.toPosition, .message (.mk head nested)⟩ =
          (walk.cursor.toPosition.sites (.nestedMessages head.name) (fun _ => .message)
              nested).flatMap Site.postorder ++
            ((walk.cursor.toPosition.sites (.nestedEnums head.name) (fun _ => .enum)
                head.enums).flatMap Site.postorder ++
              ((walk.cursor.toPosition.sites (.nestedOneofs head.name) .oneof
                  head.oneofs).flatMap Site.postorder ++
                [⟨walk.cursor.toPosition, .message (.mk head nested)⟩])) := by
        rw [Site.postorder_eq]
        simp only [Site.children, List.flatMap_append, List.append_assoc]
      rw [order, message]
      refine Covers.bind (messages_covers ih (.nestedMessages head.name) walk) ?enums
      intro inner innerDescriptors second secondKept innerHolds
      have enumsCover := inList_covers (fun _ decl (_ : decl ∈ head.enums) =>
        enum_registers unit decl) (.nestedEnums head.name) second
      rw [secondKept] at enumsCover
      refine Covers.bind enumsCover ?oneofs
      intro enums enumDescriptors third thirdKept enumsHold
      have oneofsCover := inList_covers (fun index decl (_ : decl ∈ head.oneofs) =>
        oneof_registers unit index decl) (.nestedOneofs head.name) third
      rw [thirdKept, secondKept] at oneofsCover
      refine Covers.bind oneofsCover ?own
      intro oneofs oneofDescriptors fourth fourthKept oneofsHold
      -- Each list has put the cursor back, so the message itself is registered where it stands.
      have cursorEq : fourth.cursor = walk.cursor :=
        fourthKept.trans (thirdKept.trans secondKept)
      obtain ⟨inOrder, describe⟩ := (innerHolds.append enumsHold).append oneofsHold
      rw [← cursorEq] at describe ⊢
      apply (own_covers unit head nested fourth describe).mono
      intro value descriptors holds
      rw [← inOrder, List.append_assoc, List.append_assoc] at holds
      exact holds

theorem describes_of_message {unit : FileUnit} {decl : MessageDecl} {walk after : Walk}
    {descriptor : Descriptor} (registered : message unit decl walk = .ok descriptor after) :
    Describes unit ⟨walk.cursor.toPosition, .message decl⟩ descriptor ∧
      EntersAll unit walk.registry (Site.postorder ⟨walk.cursor.toPosition, .message decl⟩)
        descriptor.postorder after.registry := by
  have covers := message_registers unit decl walk
  rw [registered] at covers
  obtain ⟨-, descriptors, entered, rfl, describes⟩ := covers
  exact ⟨describes, entered⟩

/-- The three lists of a file are registered one after the other, from the root of the file. -/
theorem file_covers (unit : FileUnit) (decl : FileDecl) (registry : Registry) :
    Covers unit { registry } decl.sites
      (fun declared descriptors => descriptors = declared.descriptors ∧
        List.Forall₂ (Describes unit) decl.enumSites declared.enums ∧
        List.Forall₂ (Describes unit) decl.messageSites declared.messages ∧
        List.Forall₂ (Describes unit) decl.serviceSites declared.services)
      (file unit decl { registry }) := by
  have enumsCover := inList_covers (fun _ enumDecl (_ : enumDecl ∈ decl.enums) =>
    enum_registers unit enumDecl) .enums { registry }
  rw [FileDecl.sites_eq, List.flatMap_append, List.flatMap_append, List.append_assoc, file]
  refine Covers.bind enumsCover ?messages
  intro enums enumDescriptors second secondKept enumsHold
  have messagesCover := messages_covers (fun messageDecl (_ : messageDecl ∈ decl.messages) =>
    message_registers unit messageDecl) .messages second
  rw [secondKept] at messagesCover
  refine Covers.bind messagesCover ?services
  intro messages messageDescriptors third thirdKept messagesHold
  have servicesCover := inList_covers (fun _ serviceDecl (_ : serviceDecl ∈ decl.services) =>
    service_registers unit serviceDecl) .services third
  rw [thirdKept, secondKept] at servicesCover
  refine Covers.map servicesCover ?last
  intro services serviceDescriptors servicesHold
  have inOrder := ((enumsHold.append messagesHold).append servicesHold).1
  rw [List.append_assoc] at inOrder
  exact ⟨inOrder, enumsHold.2, messagesHold.2, servicesHold.2⟩

end Registering

/-! ## Whole files -/

/-- What the registration of a file has come to: a complete run over its declarations with the
answer that belongs to it, or a run that has stopped. -/
def FileRun (file : FileDecl) (unit : FileUnit) (opened : Registry) :
    EStateM.Result Error Registry (FileUnit × TopLevel) → Prop
  | .ok (answered, declared) final =>
      answered = unit ∧
        EntersAll unit opened file.sites declared.descriptors final ∧
        List.Forall₂ (Describes unit) file.enumSites declared.enums ∧
        List.Forall₂ (Describes unit) file.messageSites declared.messages ∧
        List.Forall₂ (Describes unit) file.serviceSites declared.services
  | .error error final => Stops unit opened file.sites error final

theorem registerFile_run (file : FileDecl) (settings : UnitSettings) (start : Registry) :
    FileRun file (start.openFile file settings).1 (start.openFile file settings).2
      (registerFile file settings start) := by
  have covers := Registering.file_covers (start.openFile file settings).1 file
    (start.openFile file settings).2
  simp only [registerFile]
  cases result : Registering.file (start.openFile file settings).1 file
      { registry := (start.openFile file settings).2 } with
  | error error walk =>
      rw [result] at covers
      exact covers.2
  | ok declared walk =>
      rw [result] at covers
      obtain ⟨_, descriptors, entered, rfl, described⟩ := covers
      exact ⟨rfl, entered, described⟩

end ProtoCompanion
