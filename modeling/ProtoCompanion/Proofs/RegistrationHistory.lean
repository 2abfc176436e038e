/-
Module: ProtoCompanion.Proofs.RegistrationHistory
Purpose: A registry as the outcome of its history: the descriptors entered one after the other, each
  made of what was entered before it.
Main exports: Descriptor.MadeFrom, Registry.History, latest?, Registry.History.serial_lt,
  Registry.History.exists_latest, Grows, Registering.message_grows, Registering.file_grows
-/
import Mathlib.Data.List.Induction
import ProtoCompanion.Proofs.NameLookup

/-!
Nothing is ever taken out of a registry, but a name can be taken over by a later declaration.  The
history of a registry keeps all declarations, and both maps can be computed from it: a name leads to
the latest declaration that has it.

Each part of the walk through a file goes on with the history it has found, also when it fails.  On
the way to a failure it is known of every descriptor that its children are in the history, although
the descriptors that were to get them as children are never made.
-/

namespace ProtoCompanion

/-! ## What descriptors are made of -/

namespace Descriptor

/-- The messages that the methods of a service take and give. -/
def methodTypes : Descriptor → List MessageDescriptor
  | service descriptor => descriptor.methods.flatMap fun method => [method.input, method.output]
  | _ => []

/-- The fields of a message. -/
def fields : Descriptor → List FieldDescriptor
  | message descriptor _ => descriptor.fields
  | _ => []

/-- What a descriptor is made of is among earlier ones: its children, and the messages that its
methods refer to.  Its fields are written in the style of its file. -/
structure MadeFrom (history : List Descriptor) (descriptor : Descriptor) : Prop where
  children : ∀ child ∈ descriptor.children, child ∈ history
  methodTypes : ∀ type ∈ descriptor.methodTypes, ∃ children, message type children ∈ history
  fields : ∀ field ∈ descriptor.fields, field.style = descriptor.symbol.unit.style

end Descriptor

/-! ## Histories -/

/-- The descriptors that have been entered into a registry, from the first to the last.  Between
them only the notes on outer classes change. -/
inductive Registry.History : Registry → List Descriptor → Prop where
  | empty : History {} []
  | noted {registry : Registry} {history : List Descriptor} (collided : List Bool)
      (past : History registry history) : History { registry with collided } history
  | entered {registry : Registry} {history : List Descriptor} {descriptor : Descriptor}
      (past : History registry history)
      (serial : descriptor.symbol.serial = registry.registrations)
      (made : descriptor.MadeFrom history) :
      History (registry.insert descriptor) (history ++ [descriptor])

/-- The last descriptor that has a name, for one of the two sorts of names. -/
def latest? (key : Descriptor → String) (name : String) (history : List Descriptor) :
    Option Descriptor :=
  history.reverse.find? fun descriptor => key descriptor = name

theorem latest?_concat (key : Descriptor → String) (name : String) (history : List Descriptor)
    (descriptor : Descriptor) :
    latest? key name (history ++ [descriptor]) =
      if key descriptor = name then some descriptor else latest? key name history := by
  rw [latest?, List.reverse_append, List.reverse_singleton, List.singleton_append,
    List.find?_cons]
  by_cases isName : key descriptor = name <;> simp [isName, latest?]

theorem latest?_eq_some {key : Descriptor → String} {name : String} {history : List Descriptor}
    {descriptor : Descriptor} (found : latest? key name history = some descriptor) :
    descriptor ∈ history ∧ key descriptor = name := by
  refine ⟨List.mem_reverse.mp (List.mem_of_find?_eq_some found), ?_⟩
  simpa using List.find?_some found

theorem latest?_isSome {key : Descriptor → String} {name : String} {history : List Descriptor} :
    (latest? key name history).isSome ↔ ∃ descriptor ∈ history, key descriptor = name := by
  simp [latest?]

theorem latest?_eq_none {key : Descriptor → String} {name : String} {history : List Descriptor} :
    latest? key name history = none ↔ ∀ descriptor ∈ history, key descriptor ≠ name := by
  simp [latest?]

/-- What comes last under a name stays there until the name is used again. -/
theorem latest?_split {key : Descriptor → String} {history earlier later : List Descriptor}
    {descriptor : Descriptor} (split : history = earlier ++ descriptor :: later)
    (last : ∀ other ∈ later, key other ≠ key descriptor) :
    latest? key (key descriptor) history = some descriptor := by
  induction later using List.reverseRecOn generalizing history with
  | nil => rw [split, latest?_concat, if_pos rfl]
  | append_singleton later other ih =>
      rw [split, ← List.cons_append, ← List.append_assoc, latest?_concat,
        if_neg (last other List.mem_concat_self)]
      exact ih rfl fun another member => last another (List.mem_append_left _ member)

/-- A map that takes each descriptor under its name takes over the latest one. -/
theorem getElem?_insert_of_latest {key : Descriptor → String}
    {map : Std.TreeMap String Descriptor} {name : String} {history : List Descriptor}
    (holds : map[name]? = latest? key name history) (descriptor : Descriptor) :
    (map.insert (key descriptor) descriptor)[name]? =
      latest? key name (history ++ [descriptor]) := by
  simp only [Std.TreeMap.getElem?_insert, Std.compare_eq_iff_eq, latest?_concat, holds]

namespace Registry.History

variable {registry : Registry} {history : List Descriptor}

theorem registrations_eq (past : registry.History history) :
    registry.registrations = history.length := by
  induction past with
  | empty => rfl
  | noted _ _ ih => exact ih
  | entered _ _ _ ih => rw [List.length_append, ← ih]; rfl

theorem serials (past : registry.History history) :
    history.map (·.symbol.serial) = List.range history.length := by
  induction past with
  | empty => rfl
  | noted _ _ ih => exact ih
  | entered past serial _ ih =>
      rw [List.map_append, ih, List.length_append, List.length_singleton, List.range_succ,
        List.map_singleton, serial, past.registrations_eq]

/-- The registry is made by entering the descriptors of its history one after the other. -/
theorem contents (past : registry.History history) :
    registry = { history.foldl insert {} with collided := registry.collided } := by
  induction past with
  | empty => rfl
  | noted _ _ ih => rw [ih]
  | entered _ _ _ ih =>
      rw [List.foldl_append, List.foldl_cons, List.foldl_nil, ih]
      rfl

theorem getElem?_byName (past : registry.History history) (name : String) :
    registry.byName[name]? = latest? Descriptor.schemaName name history := by
  induction past with
  | empty => simp [latest?]
  | noted _ _ ih => exact ih
  | entered _ _ _ ih => exact getElem?_insert_of_latest ih _

theorem getElem?_byRelativeName (past : registry.History history) (name : String) :
    registry.byRelativeName[name]? = latest? Descriptor.relativeName name history := by
  induction past with
  | empty => simp [latest?]
  | noted _ _ ih => exact ih
  | entered _ _ _ ih => exact getElem?_insert_of_latest ih _

/-- Numbers grow along the history. -/
theorem serial_lt (past : registry.History history) {earlier later : List Descriptor}
    {descriptor other : Descriptor} (split : history = earlier ++ descriptor :: later)
    (member : other ∈ earlier) : other.symbol.serial < descriptor.symbol.serial := by
  have growing : (history.map (·.symbol.serial)).Pairwise (· < ·) := by
    rw [past.serials]
    exact List.pairwise_lt_range
  rw [List.pairwise_map, split] at growing
  exact (List.pairwise_append.mp growing).2.2 other member descriptor List.mem_cons_self

/-- The name of a descriptor is held by the descriptor itself or by a later one. -/
theorem exists_latest (past : registry.History history) (key : Descriptor → String)
    {descriptor : Descriptor} (member : descriptor ∈ history) :
    ∃ holder, latest? key (key descriptor) history = some holder ∧
      (holder = descriptor ∨ descriptor.symbol.serial < holder.symbol.serial) := by
  obtain ⟨earlier, holder, later, split, isLast, none⟩ :=
    exists_last (fun other => key other = key descriptor) member rfl
  refine ⟨holder, ?_, ?_⟩
  · rw [← isLast]
    apply latest?_split split
    rw [isLast]
    exact none
  · rw [split] at member
    rcases List.mem_append.mp member with before | after
    · exact .inr (past.serial_lt split before)
    · rcases List.mem_cons.mp after with same | isLater
      · exact .inl same.symm
      · exact absurd rfl (none descriptor isLater)

/-- Each descriptor is made of earlier ones. -/
theorem made_before (past : registry.History history) {descriptor : Descriptor}
    (member : descriptor ∈ history) :
    ∃ earlier later, history = earlier ++ descriptor :: later ∧ descriptor.MadeFrom earlier := by
  induction past with
  | empty => cases member
  | noted _ _ ih => exact ih member
  | @entered registry history last past serial made ih =>
      rcases List.mem_append.mp member with before | isLast
      · obtain ⟨earlier, later, split, madeFrom⟩ := ih before
        exact ⟨earlier, later ++ [last], by rw [split]; simp, madeFrom⟩
      · obtain rfl := List.mem_singleton.mp isLast
        exact ⟨history, [], rfl, made⟩

/-- What a reference resolves to has been entered. -/
theorem mem_of_resolve? (past : registry.History history) {reference : String}
    {descriptor : Descriptor} (found : registry.resolve? reference = some descriptor) :
    descriptor ∈ history := by
  have inByName : ∀ name : String, registry.byName[name]? = some descriptor →
      descriptor ∈ history := by
    intro name isEntry
    rw [past.getElem?_byName] at isEntry
    exact (latest?_eq_some isEntry).1
  rw [resolve?, Option.or_eq_some_iff] at found
  rcases found with dotted | ⟨-, plain⟩
  · obtain ⟨name, -, isEntry⟩ := Option.bind_eq_some_iff.mp dotted
    exact inByName name isEntry
  · rcases Option.or_eq_some_iff.mp plain with isEntry | ⟨-, isEntry⟩
    · rw [past.getElem?_byRelativeName] at isEntry
      exact (latest?_eq_some isEntry).1
    · exact inByName reference isEntry

theorem mem_of_resolve (past : registry.History history) {reference : String}
    {descriptor : Descriptor} (found : registry.resolve reference = .ok descriptor) :
    descriptor ∈ history :=
  past.mem_of_resolve? (resolve_eq_ok.mp found)

theorem mem_of_resolveMessage (past : registry.History history) {reference : String}
    {type : MessageDescriptor} (found : registry.resolveMessage reference = .ok type) :
    ∃ children, .message type children ∈ history := by
  rw [resolveMessage] at found
  cases answer : registry.resolve reference with
  | error error => simp [answer] at found
  | ok other =>
      rw [answer] at found
      cases other with
      | message descriptor children =>
          rw [← Except.ok.inj found]
          exact ⟨children, past.mem_of_resolve answer⟩
      | enum | oneof | service => cases found

end Registry.History

/-! ## Steps that go on with a history -/

/-- What a step has come to at a registry with a history: the registry has gone on with that
history, by declarations of one unit.  If the step has succeeded, what its value is made of has been
entered. -/
def Grown {α : Type} (unit : FileUnit) (history : List Descriptor) (made : α → List Descriptor) :
    EStateM.Result Error Walk α → Prop
  | .ok value after =>
      ∃ added, (∀ descriptor ∈ added, descriptor.symbol.unit = unit) ∧
        after.registry.History (history ++ added) ∧ made value ⊆ history ++ added
  | .error _ after =>
      ∃ added, (∀ descriptor ∈ added, descriptor.symbol.unit = unit) ∧
        after.registry.History (history ++ added)

/-- Wherever it is taken, the step goes on with the history of the registry, provided that some
descriptors which it makes use of have been entered. -/
def Grows {α : Type} (unit : FileUnit) (known : List Descriptor) (made : α → List Descriptor)
    (step : Registering α) : Prop :=
  ∀ (walk : Walk) (history : List Descriptor), walk.registry.History history → known ⊆ history →
    Grown unit history made (step walk)

theorem Grown.of_append {α : Type} {unit : FileUnit} {history added : List Descriptor}
    {made : α → List Descriptor} {result : EStateM.Result Error Walk α}
    (ofUnit : ∀ descriptor ∈ added, descriptor.symbol.unit = unit)
    (grown : Grown unit (history ++ added) made result) : Grown unit history made result := by
  cases result with
  | ok value after =>
      obtain ⟨more, moreOfUnit, past, madeIn⟩ := grown
      rw [List.append_assoc] at past madeIn
      exact ⟨added ++ more, List.forall_mem_append.mpr ⟨ofUnit, moreOfUnit⟩, past, madeIn⟩
  | error error after =>
      obtain ⟨more, moreOfUnit, past⟩ := grown
      rw [List.append_assoc] at past
      exact ⟨added ++ more, List.forall_mem_append.mpr ⟨ofUnit, moreOfUnit⟩, past⟩

namespace Grows

variable {α β : Type} {unit : FileUnit} {known : List Descriptor} {made : α → List Descriptor}

theorem pure {value : α} (isKnown : made value ⊆ known) :
    Grows unit known made (Pure.pure value) := by
  intro walk history past knownIn
  refine ⟨[], fun _ member => absurd member List.not_mem_nil, ?_⟩
  rw [List.append_nil]
  exact ⟨past, List.Subset.trans isKnown knownIn⟩

theorem bind {first : Registering α} {next : α → Registering β}
    {nextMade : β → List Descriptor} (grows : Grows unit known made first)
    (rest : ∀ value, Grows unit (known ++ made value) nextMade (next value)) :
    Grows unit known nextMade (first >>= next) := by
  intro walk history past knownIn
  have started := grows walk history past knownIn
  simp only [Bind.bind, EStateM.bind]
  cases result : first walk with
  | error error after =>
      rw [result] at started
      exact started
  | ok value after =>
      rw [result] at started
      obtain ⟨added, ofUnit, longer, madeIn⟩ := started
      have stillKnown : known ⊆ history ++ added :=
        List.Subset.trans knownIn (List.subset_append_left history added)
      exact (rest value after (history ++ added) longer
        (List.append_subset.mpr ⟨stillKnown, madeIn⟩)).of_append ofUnit

theorem weaken {more : List Descriptor} {step : Registering α} (grows : Grows unit known made step)
    (isKnown : known ⊆ more) : Grows unit more made step :=
  fun walk history past moreIn => grows walk history past (List.Subset.trans isKnown moreIn)

theorem within {step : Registering α} (grows : Grows unit known made step) (place : Place) :
    Grows unit known made (Registering.within place step) := by
  intro walk history past knownIn
  have inside := grows { walk with cursor := walk.cursor.enter place } history past knownIn
  rw [Registering.within]
  cases result : step { walk with cursor := walk.cursor.enter place } with
  | error error after =>
      rw [result] at inside
      exact inside
  | ok value after =>
      rw [result] at inside
      dsimp only
      -- A body that is not in balance fails here, but what it has entered stays.
      obtain ⟨left, cursor⟩ := after.cursor.leave place
      cases left with
      | ok _ => exact inside
      | error error =>
          obtain ⟨added, ofUnit, longer, -⟩ := inside
          exact ⟨added, ofUnit, longer⟩

theorem each {visit : Nat → α → Registering Descriptor} {xs : List α}
    (grows : ∀ index, ∀ x ∈ xs, Grows unit [] ([·]) (visit index x)) (start : Nat) :
    Grows unit [] id (Registering.each visit start xs) := by
  induction xs generalizing start with
  | nil => exact .pure (List.Subset.refl [])
  | cons x xs ih =>
      have first := (grows start x List.mem_cons_self).within (.element start)
      have others := ih (fun index y member => grows index y (List.mem_cons_of_mem x member))
        (start + 1)
      rw [Registering.each]
      exact first.bind fun value => (others.weaken (List.nil_subset _)).bind fun values =>
        .pure (List.Subset.refl _)

theorem inList {visit : Nat → α → Registering Descriptor} {xs : List α}
    (grows : ∀ index, ∀ x ∈ xs, Grows unit [] ([·]) (visit index x)) (kind : ElementList) :
    Grows unit known id (Registering.inList kind visit xs) :=
  ((each grows 0).within (.list kind)).weaken (List.nil_subset known)

end Grows

/-! ## The walk through a file -/

namespace Registering

variable {unit : FileUnit} {known : List Descriptor}

/-- The registration of one declaration: whatever its parts are read as, the descriptor is made of
what has been entered before. -/
theorem introduce_grows {α : Type} (name : String) {parts : Registering α}
    {descriptor : Symbol → String → α → Descriptor} {found : Position → Registry → α → Prop}
    {missing : Registry → Error → Prop} (reads : Reads parts found missing)
    (symbolEq : ∀ symbol comment value, (descriptor symbol comment value).symbol = symbol)
    (made : ∀ (registry : Registry) (history : List Descriptor) (position : Position)
      (symbol : Symbol) (comment : String) (value : α), registry.History history →
      known ⊆ history → symbol.unit = unit → found position registry value →
      (descriptor symbol comment value).MadeFrom history) :
    Grows unit known ([·]) (introduce unit name parts descriptor) := by
  intro walk history past knownIn
  have nothing : ∀ collided : Bool, ∃ added : List Descriptor,
      (∀ descriptor ∈ added, descriptor.symbol.unit = unit) ∧
        (walk.registry.setCollision unit collided).History (history ++ added) := by
    intro collided
    refine ⟨[], fun _ member => absurd member List.not_mem_nil, ?_⟩
    rw [List.append_nil]
    exact past.noted _
  rw [introduce_eq]
  cases accepted : unit.outerClass.accept name (walk.registry.hasCollision unit) with
  | error error collided => exact nothing collided
  | ok _ collided =>
      have read := reads { walk with registry := walk.registry.setCollision unit collided }
      cases result : parts { walk with registry := walk.registry.setCollision unit collided } with
      | error error after =>
          rw [result] at read
          obtain ⟨rfl, -⟩ := read
          simp only [result]
          exact nothing collided
      | ok value after =>
          rw [result] at read
          obtain ⟨rfl, holds⟩ := read
          simp only [result]
          have noted : (walk.registry.setCollision unit collided).History history := past.noted _
          refine ⟨[_], ?ofUnit, noted.entered ?serial (made _ _ _ _ _ _ noted knownIn rfl holds),
            List.subset_append_right _ _⟩
          case ofUnit =>
            refine List.forall_mem_singleton.mpr ?_
            rw [symbolEq]
          case serial => rw [symbolEq]; rfl

theorem enum_grows (decl : EnumDecl) : Grows unit [] ([·]) (enum unit decl) := by
  refine introduce_grows decl.name (enumValues_read unit decl.values) (fun _ _ _ => rfl) ?_
  intro registry history position symbol comment values past knownIn ofUnit holds
  constructor <;> exact fun _ member => absurd member List.not_mem_nil

theorem oneof_grows (index : Nat) (decl : OneofDecl) :
    Grows unit [] ([·]) (oneof unit index decl) := by
  refine introduce_grows decl.name (Reads.pure ()) (fun _ _ _ => rfl) ?_
  intro registry history position symbol comment value past knownIn ofUnit holds
  constructor <;> exact fun _ member => absurd member List.not_mem_nil

/-- The references of the methods are resolved in the registry that the service is entered into. -/
theorem service_grows (decl : ServiceDecl) : Grows unit [] ([·]) (service unit decl) := by
  refine introduce_grows decl.name (methods_read unit decl) (fun _ _ _ => rfl) ?_
  intro registry history position symbol comment methods past knownIn ofUnit holds
  refine ⟨fun _ member => absurd member List.not_mem_nil, ?_,
    fun _ member => absurd member List.not_mem_nil⟩
  intro type isType
  obtain ⟨method, isMethod, isSide⟩ := List.mem_flatMap.mp isType
  obtain ⟨index, isAt⟩ := List.mem_iff_getElem?.mp isMethod
  obtain ⟨declared, -, input, output⟩ := exists_rel_getElem? holds.2.flip isAt
  rcases List.mem_cons.mp isSide with rfl | isOutput
  · exact past.mem_of_resolveMessage input
  · rw [List.mem_singleton.mp isOutput]
    exact past.mem_of_resolveMessage output

theorem messages_grow {decls : List MessageDecl}
    (grows : ∀ decl ∈ decls, Grows unit [] ([·]) (message unit decl)) (kind : ElementList) :
    Grows unit known id (within (.list kind) (messages unit 0 decls)) := by
  rw [messages_eq_each]
  exact Grows.inList (fun _ decl member => grows decl member) kind

/-- The induction is on the message: the lists inside it are entered before it. -/
theorem message_grows (decl : MessageDecl) : Grows unit [] ([·]) (message unit decl) := by
  induction decl using MessageDecl.nestedInduction with
  | mk head nested ih =>
      rw [message]
      refine (messages_grow ih _).bind fun inner =>
        (Grows.inList (fun _ decl _ => enum_grows decl) _).bind fun enums =>
        (Grows.inList (fun index decl _ => oneof_grows index decl) _).bind fun oneofs =>
        introduce_grows head.name (fields_read unit head) (fun _ _ _ => rfl) ?_
      intro registry history position symbol comment fields past knownIn ofUnit areFields
      refine ⟨fun child isChild => knownIn isChild,
        fun _ member => absurd member List.not_mem_nil, ?_⟩
      intro field isField
      rw [areFields] at isField
      rw [eq_ofDecl_of_mem_fieldsAt isField]
      exact congrArg FileUnit.style ofUnit.symm

theorem file_grows (decl : FileDecl) :
    Grows unit [] (fun declared => declared.enums ++ declared.messages ++ declared.services)
      (file unit decl) := by
  rw [file]
  exact (Grows.inList (fun _ decl _ => enum_grows decl) _).bind fun enums =>
    (messages_grow (fun decl _ => message_grows decl) _).bind fun messages =>
    (Grows.inList (fun _ decl _ => service_grows decl) _).bind fun services =>
    .pure (List.Subset.refl _)

end Registering

end ProtoCompanion
