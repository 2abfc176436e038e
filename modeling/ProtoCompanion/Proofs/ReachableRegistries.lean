/-
Module: ProtoCompanion.Proofs.ReachableRegistries
Purpose: What holds of every registry that can be reached by registrations, in whatever files and
  whether or not they succeed.
Main exports: Registration, Call, Registry.afterCalls, Registry.exists_history,
  Registry.Consistent, Registry.History.resolves_iff, registries_consistent_after_any_calls
-/
import ProtoCompanion.Proofs.RegistrationHistory

/-!
A caller can register whole files and single declarations in any order, going to and fro between
files, each with its own style of names.  A call that fails leaves behind what it has entered until
then.  No call is told apart from the others here: each of them goes on with the history it has
found, and what holds of a registry is read off its history.
-/

namespace ProtoCompanion

/-! ## Calls -/

/-- What a caller can register at a place of a file: the whole file, or a single declaration. -/
inductive Registration where
  | file (decl : FileDecl)
  | message (decl : MessageDecl)
  | enum (decl : EnumDecl)
  | oneof (index : Nat) (decl : OneofDecl)
  | service (decl : ServiceDecl)

/-- The steps of a registration, without what they answer with. -/
def Registration.run (unit : FileUnit) : Registration → Registering Unit
  | file decl => Registering.file unit decl >>= fun _ => pure ()
  | message decl => Registering.message unit decl >>= fun _ => pure ()
  | enum decl => Registering.enum unit decl >>= fun _ => pure ()
  | oneof index decl => Registering.oneof unit index decl >>= fun _ => pure ()
  | service decl => Registering.service unit decl >>= fun _ => pure ()

/-- A call on a registry.  A registration can be made for any file, wherever the cursor in it is. -/
inductive Call where
  | openFile (file : FileDecl) (settings : UnitSettings)
  | register (unit : FileUnit) (cursor : Cursor) (registration : Registration)

/-- The file that a call registers something of. -/
def Call.unit? : Call → Option FileUnit
  | openFile _ _ => none
  | register unit _ _ => some unit

namespace Registry

/-- The registry after a call, also after one that has failed. -/
def afterCall (registry : Registry) : Call → Registry
  | .openFile file settings => (registry.openFile file settings).2
  | .register unit cursor registration =>
      match registration.run unit { registry, cursor } with
      | .ok _ walk => walk.registry
      | .error _ walk => walk.registry

/-- The registry after calls made one after the other. -/
def afterCalls (registry : Registry) (calls : List Call) : Registry :=
  calls.foldl afterCall registry

theorem afterCalls_append (registry : Registry) (calls more : List Call) :
    registry.afterCalls (calls ++ more) = (registry.afterCalls calls).afterCalls more :=
  List.foldl_append

end Registry

/-! ## Histories of calls -/

theorem Registration.grows (unit : FileUnit) (registration : Registration) :
    Grows unit [] (fun _ => []) (registration.run unit) := by
  have done {α : Type} {made : α → List Descriptor} {step : Registering α}
      (grows : Grows unit [] made step) :
      Grows unit [] (fun _ => []) (step >>= fun _ => pure ()) :=
    grows.bind fun _ => .pure (List.nil_subset _)
  cases registration with
  | file decl => exact done (Registering.file_grows decl)
  | message decl => exact done (Registering.message_grows decl)
  | enum decl => exact done (Registering.enum_grows decl)
  | oneof index decl => exact done (Registering.oneof_grows index decl)
  | service decl => exact done (Registering.service_grows decl)

namespace Registry

variable {registry : Registry} {history : List Descriptor}

/-- A call goes on with the history, by declarations of its own file. -/
theorem History.afterCall (past : registry.History history) (call : Call) :
    ∃ added, (∀ descriptor ∈ added, call.unit? = some descriptor.symbol.unit) ∧
      (registry.afterCall call).History (history ++ added) := by
  cases call with
  | openFile file settings =>
      refine ⟨[], fun _ member => absurd member List.not_mem_nil, ?_⟩
      rw [List.append_nil]
      exact past.noted _
  | register unit cursor registration =>
      have grown := registration.grows unit { registry, cursor } history past
        (List.nil_subset history)
      have ofUnit {added : List Descriptor}
          (each : ∀ descriptor ∈ added, descriptor.symbol.unit = unit) :
          ∀ descriptor ∈ added, some unit = some descriptor.symbol.unit :=
        fun descriptor member => congrArg some (each descriptor member).symm
      simp only [Registry.afterCall]
      cases result : registration.run unit { registry, cursor } with
      | ok value walk =>
          rw [result] at grown
          obtain ⟨added, each, longer, -⟩ := grown
          exact ⟨added, ofUnit each, longer⟩
      | error error walk =>
          rw [result] at grown
          obtain ⟨added, each, longer⟩ := grown
          exact ⟨added, ofUnit each, longer⟩

theorem History.afterCalls (past : registry.History history) (calls : List Call) :
    ∃ added, (∀ descriptor ∈ added, ∃ call ∈ calls, call.unit? = some descriptor.symbol.unit) ∧
      (registry.afterCalls calls).History (history ++ added) := by
  induction calls generalizing registry history with
  | nil => exact ⟨[], fun _ member => absurd member List.not_mem_nil, by rwa [List.append_nil]⟩
  | cons call calls ih =>
      obtain ⟨first, ofCall, longer⟩ := past.afterCall call
      obtain ⟨others, ofCalls, longest⟩ := ih longer
      rw [List.append_assoc] at longest
      refine ⟨first ++ others, List.forall_mem_append.mpr ⟨?here, ?later⟩, longest⟩
      case here =>
        intro descriptor member
        exact ⟨call, List.mem_cons_self, ofCall descriptor member⟩
      case later =>
        intro descriptor member
        obtain ⟨other, isCall, ofOther⟩ := ofCalls descriptor member
        exact ⟨other, List.mem_cons_of_mem call isCall, ofOther⟩

/-- What each of the calls has entered, such that the history after some of them is what these have
entered.  The induction takes the last call away, since the calls before it have the same
insertions without it. -/
theorem exists_history (calls : List Call) :
    ∃ insertions : List (List Descriptor),
      List.Forall₂
        (fun call entered =>
          ∀ descriptor ∈ entered, call.unit? = some descriptor.symbol.unit)
        calls insertions ∧
      ∀ count, (Registry.afterCalls {} (calls.take count)).History
        (insertions.take count).flatten := by
  induction calls using List.reverseRecOn with
  | nil => exact ⟨[], .nil, fun count => by rw [List.take_nil, List.take_nil]; exact .empty⟩
  | append_singleton calls call ih =>
      obtain ⟨insertions, each, past⟩ := ih
      have sameLength := each.length_eq
      have before := past calls.length
      rw [List.take_length, sameLength, List.take_length] at before
      obtain ⟨added, ofCall, longer⟩ := before.afterCall call
      refine ⟨insertions ++ [added], List.rel_append each (.cons ofCall .nil), ?_⟩
      intro count
      by_cases inside : count ≤ calls.length
      · rw [List.take_append_of_le_length inside,
          List.take_append_of_le_length (sameLength ▸ inside)]
        exact past count
      · have outside : calls.length + 1 ≤ count := Nat.lt_of_not_le inside
        rw [List.take_of_length_le (by simpa using outside),
          List.take_of_length_le (by simpa [← sameLength] using outside), afterCalls_append,
          List.flatten_append, List.flatten_singleton]
        exact longer

/-! ## What the two maps hold -/

/-- What holds between a registry and all descriptors that were entered into it, in order. -/
structure Consistent (registry : Registry) (history : List Descriptor) : Prop where
  /-- The registry holds what was entered, and nothing else. -/
  contents : registry = { history.foldl insert {} with collided := registry.collided }
  /-- Descriptors are numbered in the order in which they were entered. -/
  serials : history.map (·.symbol.serial) = List.range history.length
  byName_key : ∀ (name : String) (descriptor : Descriptor),
    registry.byName[name]? = some descriptor →
      descriptor ∈ history ∧ name = descriptor.schemaName
  byRelativeName_key : ∀ (name : String) (descriptor : Descriptor),
    registry.byRelativeName[name]? = some descriptor →
      descriptor ∈ history ∧ name = descriptor.relativeName
  /-- No relative name gets lost, not even that of a descriptor whose qualified name was taken
  over: what has the name is the descriptor itself or a later one. -/
  relative_held : ∀ descriptor ∈ history, ∃ holder,
    registry.byRelativeName[descriptor.relativeName]? = some holder ∧
      (holder = descriptor ∨ descriptor.symbol.serial < holder.symbol.serial)
  qualified_held : ∀ descriptor ∈ history, ∃ holder,
    registry.byName[descriptor.schemaName]? = some holder ∧
      (holder = descriptor ∨ descriptor.symbol.serial < holder.symbol.serial)
  children_earlier : ∀ descriptor ∈ history, ∀ child ∈ descriptor.children,
    child ∈ history ∧ child.symbol.serial < descriptor.symbol.serial
  methodTypes_earlier : ∀ descriptor ∈ history, ∀ type ∈ descriptor.methodTypes,
    (∃ children, .message type children ∈ history) ∧
      type.symbol.serial < descriptor.symbol.serial

theorem History.consistent (past : registry.History history) : registry.Consistent history := by
  constructor
  case contents => exact past.contents
  case serials => exact past.serials
  case byName_key =>
    intro name descriptor isEntry
    rw [past.getElem?_byName] at isEntry
    obtain ⟨member, isName⟩ := latest?_eq_some isEntry
    exact ⟨member, isName.symm⟩
  case byRelativeName_key =>
    intro name descriptor isEntry
    rw [past.getElem?_byRelativeName] at isEntry
    obtain ⟨member, isName⟩ := latest?_eq_some isEntry
    exact ⟨member, isName.symm⟩
  case relative_held =>
    intro descriptor member
    rw [past.getElem?_byRelativeName]
    exact past.exists_latest Descriptor.relativeName member
  case qualified_held =>
    intro descriptor member
    rw [past.getElem?_byName]
    exact past.exists_latest Descriptor.schemaName member
  case children_earlier =>
    intro descriptor member child isChild
    obtain ⟨earlier, later, split, made⟩ := past.made_before member
    have isEarlier := made.children child isChild
    refine ⟨?_, past.serial_lt split isEarlier⟩
    rw [split]
    exact List.mem_append_left _ isEarlier
  case methodTypes_earlier =>
    intro descriptor member type isType
    obtain ⟨earlier, later, split, made⟩ := past.made_before member
    obtain ⟨children, isEarlier⟩ := made.methodTypes type isType
    refine ⟨⟨children, ?_⟩, past.serial_lt split isEarlier⟩
    rw [split]
    exact List.mem_append_left _ isEarlier

/-! ## Which references resolve -/

/-- A reference resolves if it is one of the names of something that was ever entered. -/
theorem History.resolves_iff (past : registry.History history) {reference : String} :
    registry.resolves reference ↔
      ∃ descriptor ∈ history,
        undotted? reference = some descriptor.schemaName ∨
          descriptor.relativeName = reference ∨ descriptor.schemaName = reference := by
  have dotted : ((undotted? reference).bind fun name => registry.byName[name]?).isSome ↔
      ∃ descriptor ∈ history, undotted? reference = some descriptor.schemaName := by
    cases undotted? reference with
    | none => simp
    | some name =>
        rw [Option.bind_some, past.getElem?_byName, latest?_isSome]
        simp only [Option.some.injEq, eq_comm]
  rw [resolves, resolve?, Option.isSome_or, Option.isSome_or, Bool.or_eq_true, Bool.or_eq_true,
    dotted, past.getElem?_byRelativeName, past.getElem?_byName, latest?_isSome, latest?_isSome]
  simp only [← exists_or, ← and_or_left]

/-- Entering more takes no name away. -/
theorem History.resolves_afterCalls (past : registry.History history) (calls : List Call)
    {reference : String} (found : registry.resolves reference) :
    (registry.afterCalls calls).resolves reference := by
  obtain ⟨added, -, longer⟩ := past.afterCalls calls
  obtain ⟨descriptor, member, isName⟩ := past.resolves_iff.mp found
  exact longer.resolves_iff.mpr ⟨descriptor, List.mem_append_left added member, isName⟩

end Registry

/-! ## Reachable registries -/

/-- Whatever is registered, in whatever files and styles, and whether or not it succeeds: every
registry on the way is consistent with what the calls up to then have entered, each call for its own
file.  A reference that resolves goes on resolving whatever is registered after it. -/
theorem registries_consistent_after_any_calls (calls : List Call) :
    ∃ insertions : List (List Descriptor),
      List.Forall₂
        (fun call entered =>
          ∀ descriptor ∈ entered, call.unit? = some descriptor.symbol.unit)
        calls insertions ∧
      (∀ count, (Registry.afterCalls {} (calls.take count)).Consistent
        (insertions.take count).flatten) ∧
      ∀ (more : List Call) (reference : String),
        (Registry.afterCalls {} calls).resolves reference →
          (Registry.afterCalls {} (calls ++ more)).resolves reference := by
  obtain ⟨insertions, each, past⟩ := Registry.exists_history calls
  refine ⟨insertions, each, fun count => (past count).consistent, ?_⟩
  intro more reference found
  have whole := past calls.length
  rw [List.take_length] at whole
  rw [Registry.afterCalls_append]
  exact whole.resolves_afterCalls more found

/-- Two files have a style that merges all names, and between them a service fails for one of its
references.  The relative name goes on from the first message to the second, and the qualified name
of the first goes on leading to it. -/
theorem merged_relative_name_after_failure :
    let unit (identity : Nat) (package : String) : FileUnit :=
      .ofFile identity { package? := some package }
        { companionClass := "Companion", style := fun _ => "Same" }
    let first : Call := .register (unit 0 "first") {} (.message (.mk { name? := some "A" } []))
    let failing : Call := .register (unit 1 "second") {}
      (.service { name? := some "S", methods := [{ input? := some "Same", output? := some "B" }] })
    let second : Call := .register (unit 1 "second") {} (.message (.mk { name? := some "B" } []))
    let registry := Registry.afterCalls {} [first, failing, second]
    ∃ history earlier holder, registry.Consistent history ∧
      earlier ∈ history ∧ earlier.schemaName = "first.A" ∧
      registry.byRelativeName["Same"]? = some holder ∧ holder.schemaName = "second.B" ∧
      earlier.symbol.serial < holder.symbol.serial ∧
      (Registry.afterCalls {} [first, failing, second, failing]).resolves ".first.A" := by
  intro unit first failing second registry
  obtain ⟨insertions, -, consistent, keeps⟩ :=
    registries_consistent_after_any_calls [first, failing, second]
  have whole : registry.Consistent (insertions.take 3).flatten := consistent 3
  have firstNames : (registry.byName["first.A"]?).map
      (fun descriptor => (descriptor.schemaName, descriptor.relativeName)) =
        some ("first.A", "Same") := by
    decide +kernel
  have heldName : (registry.byRelativeName["Same"]?).map Descriptor.schemaName =
      some "second.B" := by
    decide +kernel
  have resolvesFirst : registry.resolves ".first.A" := by decide +kernel
  obtain ⟨earlier, isFirst, names⟩ := Option.map_eq_some_iff.mp firstNames
  obtain ⟨schemaName, relativeName⟩ := Prod.mk.inj names
  have member := (whole.byName_key _ _ isFirst).1
  obtain ⟨holder, held, isLater⟩ := whole.relative_held earlier member
  rw [relativeName] at held
  rw [held] at heldName
  have holderName : holder.schemaName = "second.B" := Option.some.inj heldName
  refine ⟨_, earlier, holder, whole, member, schemaName, held, holderName, ?_,
    keeps [failing] _ resolvesFirst⟩
  refine isLater.resolve_left ?_
  rintro rfl
  rw [schemaName] at holderName
  exact absurd holderName (by decide)

end ProtoCompanion
