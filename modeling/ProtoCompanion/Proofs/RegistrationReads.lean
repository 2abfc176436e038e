/-
Module: ProtoCompanion.Proofs.RegistrationReads
Purpose: The steps of the walk that only look around: what they find depends on the position alone
  or on the registry, and they leave both as they are.
Main exports: Cursor.leave_enter, Reads, Reads.inList, Registering.enumValues_read,
  Registering.fields_read, Registering.methods_read
-/
import ProtoCompanion.Proofs.RegistrationSteps

/-!
The comments, fields, values and methods of a declaration are read off the cursor while it is moved
through the lists of the declaration.  Here they are shown to be what is computed from the position
of the declaration, with the cursor back where it was, also after a failure.
-/

namespace ProtoCompanion

/-! ## The cursor -/

theorem Cursor.leave_enter (cursor : Cursor) (place : Place) :
    (cursor.enter place).leave place = (.ok (), cursor) := by
  cases place with
  | element index => simp [Cursor.enter, Cursor.leave, Cursor.leaveElement, Cursor.popPath,
      Scope.ofPlace, Position.within, Position.element]
  | list kind =>
      cases kind <;> simp [Cursor.enter, Cursor.leave, Cursor.leaveList, Cursor.popPath,
        Scope.ofPlace, Position.within, Position.inList, ElementList.enclosing?]

/-! ## Elements with their positions -/

theorem Position.eq_elements_of_forall₂ {α β : Type} {make : α → Position → β}
    {position : Position} {start : Nat} {xs : List α} {values : List β}
    (holds : List.Forall₂ (fun element value => value = make element.2 element.1)
      (position.elements (fun _ position x => (position, x)) start xs) values) :
    values = position.elements (fun _ position x => make x position) start xs := by
  induction xs generalizing start values with
  | nil =>
      cases holds
      rfl
  | cons x xs ih =>
      cases holds with
      | cons first others => rw [Position.elements, first, ih others]

theorem Position.forall₂_of_elements {α β : Type} {relation : α → β → Prop}
    {position : Position} {start : Nat} {xs : List α} {values : List β}
    (holds : List.Forall₂ (fun element value => relation element.2 value)
      (position.elements (fun _ position x => (position, x)) start xs) values) :
    List.Forall₂ relation xs values := by
  induction xs generalizing start values with
  | nil =>
      cases holds
      exact .nil
  | cons x xs ih =>
      cases holds with
      | cons first others => exact .cons first (ih others)

theorem rel_getElem? {α β : Type} {relation : α → β → Prop} {xs : List α} {ys : List β}
    (related : List.Forall₂ relation xs ys) (index : Nat) :
    Option.Rel relation xs[index]? ys[index]? := by
  induction related generalizing index with
  | nil => exact .none
  | cons first _ ih =>
      cases index with
      | zero => exact .some first
      | succ index => exact ih index

theorem exists_rel_getElem? {α β : Type} {relation : α → β → Prop} {xs : List α} {ys : List β}
    (related : List.Forall₂ relation xs ys) {index : Nat} {x : α} (found : xs[index]? = some x) :
    ∃ y, ys[index]? = some y ∧ relation x y := by
  have pair := rel_getElem? related index
  rw [found] at pair
  generalize ys[index]? = y? at pair ⊢
  cases pair with
  | @some _ y holds => exact ⟨y, rfl, holds⟩

theorem Position.getElem?_elements {α β : Type} (position : Position)
    (make : Nat → Position → α → β) (start : Nat) (xs : List α) (index : Nat) :
    (position.elements make start xs)[index]? =
      xs[index]?.map (make (start + index) (position.element (start + index))) := by
  induction xs generalizing start index with
  | nil => rfl
  | cons x xs ih =>
      cases index with
      | zero => rfl
      | succ index =>
          rw [Position.elements, List.getElem?_cons_succ, ih, List.getElem?_cons_succ,
            Nat.add_right_comm start 1 index]
          rfl

theorem Position.mem_elements {α β : Type} {position : Position} {make : Nat → Position → α → β}
    {start : Nat} {xs : List α} {made : β} (member : made ∈ position.elements make start xs) :
    ∃ index, ∃ x ∈ xs, made = make index (position.element index) x := by
  obtain ⟨index, isAt⟩ := List.mem_iff_getElem?.mp member
  rw [Position.getElem?_elements] at isAt
  obtain ⟨x, isElement, rfl⟩ := Option.map_eq_some_iff.mp isAt
  exact ⟨start + index, x, List.mem_of_getElem? isElement, rfl⟩

theorem Position.map_elements {α β : Type} {position : Position} {make : Nat → Position → α → β}
    {back : β → α} (inverse : ∀ index position x, back (make index position x) = x) (start : Nat)
    (xs : List α) : (position.elements make start xs).map back = xs := by
  induction xs generalizing start with
  | nil => rfl
  | cons x xs ih => rw [Position.elements, List.map_cons, ih, inverse]

/-! ## Fields -/

theorem map_decl_fieldsAt (unit : FileUnit) (position : Position) (head : MessageHead) :
    (fieldsAt unit position head).map FieldDescriptor.decl = head.fields :=
  Position.map_elements (fun _ _ _ => rfl) 0 head.fields

theorem eq_ofDecl_of_mem_fieldsAt {unit : FileUnit} {position : Position} {head : MessageHead}
    {field : FieldDescriptor} (member : field ∈ fieldsAt unit position head) :
    field = .ofDecl unit head field.decl field.comment := by
  obtain ⟨index, decl, -, rfl⟩ := Position.mem_elements member
  rfl

/-! ## Steps that only look -/

/-- A step that leaves the walk as it is.  What it finds depends on the position and on the
registry, and what it misses on the registry alone. -/
def Reads {α : Type} (step : Registering α) (found : Position → Registry → α → Prop)
    (missing : Registry → Error → Prop) : Prop :=
  ∀ walk : Walk,
    match step walk with
    | .ok value after => after = walk ∧ found walk.cursor.toPosition walk.registry value
    | .error error after => after = walk ∧ missing walk.registry error

namespace Reads

variable {α β : Type}

theorem pure (value : α) :
    Reads (Pure.pure value) (fun _ _ found => found = value) (fun _ _ => False) := by
  intro walk
  exact ⟨rfl, rfl⟩

theorem bind {step : Registering α} {next : α → Registering β}
    {found : Position → Registry → α → Prop} {nextFound : α → Position → Registry → β → Prop}
    {missing nextMissing : Registry → Error → Prop} (reads : Reads step found missing)
    (nextReads : ∀ value, Reads (next value) (nextFound value) nextMissing) :
    Reads (step >>= next)
      (fun position registry result =>
        ∃ value, found position registry value ∧ nextFound value position registry result)
      (fun registry error => missing registry error ∨ nextMissing registry error) := by
  intro walk
  have first := reads walk
  simp only [Bind.bind, EStateM.bind]
  cases result : step walk with
  | error error after =>
      rw [result] at first
      exact ⟨first.1, .inl first.2⟩
  | ok value after =>
      rw [result] at first
      obtain ⟨rfl, holds⟩ := first
      have second := nextReads value after
      cases final : next value after with
      | error error last =>
          rw [final] at second
          simp only [final]
          exact ⟨second.1, .inr second.2⟩
      | ok answer last =>
          rw [final] at second
          simp only [final]
          exact ⟨second.1, value, holds, second.2⟩

theorem mono {step : Registering α} {found weaker : Position → Registry → α → Prop}
    {missing weakerMissing : Registry → Error → Prop} (reads : Reads step found missing)
    (foundMono : ∀ position registry value, found position registry value →
      weaker position registry value)
    (missingMono : ∀ registry error, missing registry error → weakerMissing registry error) :
    Reads step weaker weakerMissing := by
  intro walk
  have holds := reads walk
  cases result : step walk with
  | ok value after =>
      rw [result] at holds
      exact ⟨holds.1, foundMono _ _ _ holds.2⟩
  | error error after =>
      rw [result] at holds
      exact ⟨holds.1, missingMono _ _ holds.2⟩

/-- A last step that only builds a value reads nothing more. -/
theorem map {step : Registering α} {found : Position → Registry → α → Prop}
    {built : Position → Registry → β → Prop} {missing : Registry → Error → Prop} {build : α → β}
    (reads : Reads step found missing)
    (holds : ∀ position registry value, found position registry value →
      built position registry (build value)) :
    Reads (step >>= fun value => Pure.pure (build value)) built missing := by
  apply (reads.bind fun value => Reads.pure (build value)).mono
  · intro position registry result answer
    obtain ⟨value, isFound, isBuilt⟩ := answer
    rw [isBuilt]
    exact holds position registry value isFound
  · intro registry error missed
    exact missed.resolve_right id

theorem within {step : Registering α} {found : Position → Registry → α → Prop}
    {missing : Registry → Error → Prop} (reads : Reads step found missing) (place : Place) :
    Reads (Registering.within place step) (fun position => found (position.within place))
      missing := by
  intro walk
  have inside := reads { walk with cursor := walk.cursor.enter place }
  simp only [Registering.within]
  cases result : step { walk with cursor := walk.cursor.enter place } with
  | ok value after =>
      rw [result] at inside
      obtain ⟨rfl, holds⟩ := inside
      simp only [Cursor.leave_enter]
      exact ⟨trivial, holds⟩
  | error error after =>
      rw [result] at inside
      obtain ⟨rfl, holds⟩ := inside
      simp only [Cursor.leave_enter]
      exact ⟨trivial, holds⟩

theorem each {visit : Nat → α → Registering β} {found : α → Position → Registry → β → Prop}
    {missing : α → Registry → Error → Prop}
    (reads : ∀ index x, Reads (visit index x) (found x) (missing x)) (start : Nat)
    (xs : List α) :
    Reads (Registering.each visit start xs)
      (fun position registry values =>
        List.Forall₂ (fun element value => found element.2 element.1 registry value)
          (position.elements (fun _ position x => (position, x)) start xs) values)
      (fun registry error => ∃ x ∈ xs, missing x registry error) := by
  induction xs generalizing start with
  | nil =>
      apply (Reads.pure []).mono
      · intro position registry values isNil
        rw [isNil]
        exact .nil
      · intro registry error impossible
        exact impossible.elim
  | cons x xs ih =>
      have first := (reads start x).within (.element start)
      have others := ih (start + 1)
      apply (first.bind fun value => others.bind fun values => Reads.pure (value :: values)).mono
      · intro position registry values answer
        obtain ⟨value, holds, rest, restHolds, isCons⟩ := answer
        rw [isCons]
        exact .cons holds restHolds
      · intro registry error missed
        rcases missed with here | later | impossible
        · exact ⟨x, List.mem_cons_self, here⟩
        · obtain ⟨y, member, there⟩ := later
          exact ⟨y, List.mem_cons_of_mem x member, there⟩
        · exact impossible.elim

theorem inList {visit : Nat → α → Registering β} {found : α → Position → Registry → β → Prop}
    {missing : α → Registry → Error → Prop}
    (reads : ∀ index x, Reads (visit index x) (found x) (missing x)) (kind : ElementList)
    (xs : List α) :
    Reads (Registering.inList kind visit xs)
      (fun position registry values =>
        List.Forall₂ (fun element value => found element.2 element.1 registry value)
          ((position.inList kind).elements (fun _ position x => (position, x)) 0 xs) values)
      (fun registry error => ∃ x ∈ xs, missing x registry error) :=
  (Reads.each reads 0 xs).within (.list kind)

/-- Elements that are made of their declarations and positions alone form the list of what is made
of the declarations at their positions. -/
theorem inList_of_eq {visit : Nat → α → Registering β} {make : α → Position → β}
    (reads : ∀ index x, Reads (visit index x) (fun position _ value => value = make x position)
      (fun _ _ => False))
    (kind : ElementList) (xs : List α) :
    Reads (Registering.inList kind visit xs)
      (fun position _ values =>
        values = (position.inList kind).elements (fun _ position x => make x position) 0 xs)
      (fun _ _ => False) := by
  apply (Reads.inList reads kind xs).mono
  · intro position registry values holds
    exact Position.eq_elements_of_forall₂ holds
  · intro registry error missed
    obtain ⟨x, _, impossible⟩ := missed
    exact impossible

end Reads

namespace Registering

theorem comment_reads (unit : FileUnit) :
    Reads (comment unit) (fun position _ found => found = unit.commentAt position.path)
      (fun _ _ => False) := by
  intro walk
  exact ⟨rfl, rfl⟩

theorem httpRule?_reads (unit : FileUnit) :
    Reads (httpRule? unit) (fun position _ found => found = unit.httpRules.get? position.path)
      (fun _ _ => False) := by
  intro walk
  exact ⟨rfl, rfl⟩

theorem get_eq (walk : Walk) : (get : Registering Walk) walk = .ok walk walk := rfl

theorem messageType_reads (reference : String) :
    Reads (messageType reference)
      (fun _ registry found => registry.resolveMessage reference = .ok found)
      (fun registry error => registry.resolveMessage reference = .error error) := by
  intro walk
  simp only [messageType, Bind.bind, EStateM.bind, get_eq]
  cases result : walk.registry.resolveMessage reference with
  | ok found => exact ⟨rfl, rfl⟩
  | error error => exact ⟨rfl, rfl⟩

theorem enumValues_read (unit : FileUnit) (decls : List EnumValueDecl) :
    Reads (inList .enumValues (fun _ => enumValue unit) decls)
      (fun position _ values => values = enumValuesAt unit position decls)
      (fun _ _ => False) := by
  apply Reads.inList_of_eq
  intro index decl
  apply (comment_reads unit).map
  intro position registry comment isComment
  rw [isComment]

theorem fields_read (unit : FileUnit) (head : MessageHead) :
    Reads (inList .fields (fun _ => field unit head) head.fields)
      (fun position _ values => values = fieldsAt unit position head)
      (fun _ _ => False) := by
  apply Reads.inList_of_eq
  intro index decl
  apply (comment_reads unit).map
  intro position registry comment isComment
  rw [isComment]

theorem method_reads (unit : FileUnit) (decl : MethodDecl) :
    Reads (method unit decl)
      (fun position registry found =>
        found = methodAt unit position decl found.input found.output ∧
          registry.resolveMessage decl.input = .ok found.input ∧
          registry.resolveMessage decl.output = .ok found.output)
      (fun registry error =>
        ∃ reference ∈ [decl.input, decl.output],
          registry.resolveMessage reference = .error error) := by
  apply ((comment_reads unit).bind fun comment => (messageType_reads decl.input).bind fun input =>
    (messageType_reads decl.output).bind fun output => (httpRule?_reads unit).bind fun rule? =>
      Reads.pure _).mono
  · intro position registry found answer
    obtain ⟨comment, isComment, input, inputHolds, output, outputHolds, rule?, isRule, isFound⟩ :=
      answer
    rw [isFound, isComment, isRule]
    exact ⟨rfl, inputHolds, outputHolds⟩
  · intro registry error missed
    rcases missed with impossible | inputMissed | outputMissed | impossible | impossible
    · exact impossible.elim
    · exact ⟨decl.input, by simp, inputMissed⟩
    · exact ⟨decl.output, by simp, outputMissed⟩
    · exact impossible.elim
    · exact impossible.elim

theorem methods_read (unit : FileUnit) (decl : ServiceDecl) :
    Reads (inList .methods (fun _ => method unit) decl.methods)
      (fun position registry methods =>
        List.Forall₂
            (fun declared method =>
              method = methodAt unit declared.1 declared.2 method.input method.output)
            (methodsAt position decl.methods) methods ∧
          List.Forall₂
            (fun declared method =>
              registry.resolveMessage declared.input = .ok method.input ∧
                registry.resolveMessage declared.output = .ok method.output)
            decl.methods methods)
      (fun registry error =>
        ∃ reference ∈ (Declaration.service decl).references,
          registry.resolveMessage reference = .error error) := by
  apply (Reads.inList (fun _ => method_reads unit) .methods decl.methods).mono
  · intro position registry methods holds
    constructor
    · exact holds.imp fun _ _ method => method.1
    · apply Position.forall₂_of_elements
      exact holds.imp fun _ _ method => method.2
  · intro registry error missed
    obtain ⟨method, member, reference, isType, unresolved⟩ := missed
    exact ⟨reference, List.mem_flatMap.mpr ⟨method, member, isType⟩, unresolved⟩

end Registering

end ProtoCompanion
