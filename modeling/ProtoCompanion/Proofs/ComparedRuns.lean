/-
Module: ProtoCompanion.Proofs.ComparedRuns
Purpose: What a run writes for its first files does not depend on the files after them, and for
  files with qualified references it does not depend on the registry at the start.
Main exports: Outline.outputs_parallel, outputs_of_longer_request, outputs_in_any_registry
-/
import ProtoCompanion.Proofs.OutlineRuns
import ProtoCompanion.Proofs.ParallelRegistration

/-!
Two runs over the same files are taken side by side, with registries of which one mirrors the other.
A longer request has another shared package, but its registry is otherwise that of the shorter one:
this comparison is exact.  A registry that is not empty at the start mirrors the empty one in a
comparison that is not exact.
-/

namespace ProtoCompanion

variable {exact : Prop} {front : List Bool}

/-! ## Registries at the start -/

section

variable {same : Nat → Nat → Prop} (reflexive : ∀ identity, same identity identity)

include reflexive

theorem Symbol.Alike.refl (symbol : Symbol) : symbol.Alike same symbol :=
  .intro symbol.serial (.intro symbol.unit.identity symbol.unit.sharedPackage? (reflexive _))

theorem MessageDescriptor.Alike.refl (isExact : exact) (message : MessageDescriptor) :
    message.Alike exact same message :=
  .intro (Symbol.Alike.refl reflexive message.symbol) fun _ _ _ => .inl isExact

theorem MethodDescriptor.Alike.refl (isExact : exact) (method : MethodDescriptor) :
    method.Alike exact same method :=
  .intro (.refl reflexive isExact method.input) (.refl reflexive isExact method.output)

theorem Descriptor.Alike.refl (isExact : exact) (descriptor : Descriptor) :
    descriptor.Alike exact same descriptor := by
  induction descriptor using Descriptor.nestedInduction with
  | step descriptor ih =>
      cases descriptor with
      | message message children =>
          exact .message (.refl reflexive isExact message) (List.forall₂_same.mpr ih)
      | enum enum => exact .enum (.refl reflexive enum.symbol)
      | oneof oneof => exact .oneof (.refl reflexive oneof.symbol)
      | service service =>
          exact .service (.refl reflexive service.symbol)
            (List.forall₂_same.mpr fun method _ => .refl reflexive isExact method)

end

/-- A registry mirrors itself. -/
theorem Mirrors.refl (isExact : exact) (registry : Registry) :
    Mirrors exact [] registry registry := by
  have found (found? : Option Descriptor) : Found exact (Shifted []) found? found? := by
    cases found? with
    | none => exact .none exact _
    | some descriptor =>
        exact .some (.refl (fun identity => (Nat.zero_add identity).symm) isExact descriptor)
  constructor
  · rfl
  · intro name
    exact found registry.byName[name]?
  · intro name
    exact found registry.byRelativeName[name]?
  · exact .inl isExact

/-- Any registry mirrors the empty one, as long as nothing is said of what is missing. -/
theorem Mirrors.empty (inexact : ¬ exact) (registry : Registry) :
    Mirrors exact registry.collided {} registry := by
  have found (other? : Option Descriptor) :
      Found exact (Shifted registry.collided) none other? := by
    constructor
    · intro descriptor impossible
      cases impossible
    · intro isExact
      exact absurd isExact inexact
  constructor
  · exact (List.append_nil registry.collided).symm
  · intro name
    rw [Std.TreeMap.getElem?_emptyc]
    exact found _
  · intro name
    rw [Std.TreeMap.getElem?_emptyc]
    exact found _
  · exact .inr Registry.undotted_empty

namespace Outline

variable (options : Options)

/-! ## Runs side by side -/

/-- Alike declarations have companions with the same parts. -/
theorem partsOf_repeats {registry other : Registry} {same : Nat → Nat → Prop}
    {unit like : FileUnit} {declared others : TopLevel}
    (answers : registry.AnswersLike exact same other) (units : unit.Alike same like)
    (alike : declared.Alike exact same others) :
    Repeats exact Eq (partsOf registry unit declared) (partsOf other like others) := by
  apply (answers.codes alike.messages).bind
  intro messageCode _ sameMessages
  apply (answers.codes alike.enums).bind
  intro enumCode _ sameEnums
  apply (answers.codes alike.services).map
  intro serviceCode _ sameServices
  subst sameMessages sameEnums sameServices
  cases units
  rfl

theorem companionOf_repeats {registry other : Registry} {same : Nat → Nat → Prop}
    {unit like : FileUnit} {declared others : TopLevel}
    (answers : registry.AnswersLike exact same other) (units : unit.Alike same like)
    (alike : declared.Alike exact same others) :
    Repeats exact Eq (companionOf registry unit declared) (companionOf other like others) := by
  apply (partsOf_repeats answers units alike).map
  intro parts _ sameParts
  subst sameParts
  cases units
  rfl

/-- States of two runs of which the second has a registry that mirrors that of the first. -/
def MirroredStates (exact : Prop) (front : List Bool) (state like : RunState Unit) : Prop :=
  Mirrors exact front state.registry like.registry

variable (shared? likeShared? : Option String) (parameters likeParameters : Parameters)

/-- One file in both runs: it is registered alike, and its outputs are the same. -/
theorem file_parallel {file : FileDecl} (comparable : exact ∨ file.FullyQualified)
    (httpRules : HttpRuleTable) :
    Parallel exact (MirroredStates exact front) Eq
      (Running.file (generator options) shared? parameters file httpRules)
      (Running.file (generator options) likeShared? likeParameters file httpRules) := by
  intro state like mirrors
  have fits : ∀ site ∈ file.sites, site.Fits exact id :=
    fun site member => comparable.imp_right fun qualified => qualified.plain member
  have registered := registerFile_parallel file (options.settings shared? file httpRules)
    likeShared? fits state.registry like.registry mirrors
  rw [outcome_file, outcome_file]
  apply registered.bind
  intro answer likeAnswer holds
  rcases holds with ⟨⟨units, declared⟩, after⟩
  split
  · exact .ok ⟨rfl, after⟩
  · apply (companionOf_repeats after.answersLike units declared).bind
    intro output _ sameOutput
    subst sameOutput
    exact .ok ⟨rfl, after⟩

theorem outputs_parallel {entries : List (FileDecl × HttpRuleTable)}
    (comparable : ∀ entry ∈ entries, exact ∨ entry.1.FullyQualified) :
    Parallel exact (MirroredStates exact front) Eq
      (Running.outputs (generator options) shared? parameters entries)
      (Running.outputs (generator options) likeShared? likeParameters entries) := by
  induction entries with
  | nil => exact .pure rfl
  | cons entry rest ih =>
      have later := ih fun other member => comparable other (List.mem_cons_of_mem entry member)
      apply (file_parallel options shared? likeShared? parameters likeParameters
        (comparable entry List.mem_cons_self) entry.2).bind
      intro output? _ sameOutput
      apply later.map
      intro others _ sameOthers
      rw [sameOutput, sameOthers]

end Outline

/-! ## Longer requests -/

/-- Files that are appended to a request change nothing for those before them.  If the run over the
longer request succeeds, so does the run over the shorter one, and its outputs are the first outputs
of the longer one; only what is written at the end may differ.  If the run over the shorter request
fails, the run over the longer one fails with the same error. -/
theorem outputs_of_longer_request (options : Outline.Options) {request longer : CodeRequest}
    {further : List (FileDecl × HttpRuleTable)}
    (appended : longer.entries = request.entries ++ further) (start : RunState Unit) :
    (∀ files after, (Outline.generator options).runIn longer start = .ok files after →
      ∃ outputs more final,
        (Outline.generator options).outputsIn request start = .ok outputs final ∧
          (Outline.generator options).runIn request start =
            .ok (outputs.flatMap Option.toList ++ options.extras request final.registry) final ∧
          (Outline.generator options).outputsIn longer start = .ok (outputs ++ more) after ∧
          files = (outputs ++ more).flatMap Option.toList ++
            options.extras longer after.registry) ∧
      ∀ error final, (Outline.generator options).runIn request start = .error error final →
        ∃ after, (Outline.generator options).runIn longer start = .error error after := by
  -- The requests share different packages, so the longer run does not simply start as the shorter.
  have parallel (shared? likeShared? : Option String) (parameters likeParameters : Parameters) :=
    Outline.outputs_parallel options shared? likeShared? parameters likeParameters
      (fun entry (_ : entry ∈ request.entries) => .inl trivial) start start
      (Mirrors.refl trivial start.registry)
  constructor
  case left =>
    intro files after succeeds
    rcases Outline.exists_of_runIn_ok succeeds with ⟨all, made, isAnswer⟩
    have madeAll := outcome_eq_ok.mpr made
    rw [Generator.outputsIn, appended, Running.outcome_outputs_append] at madeAll
    rcases exists_of_bind_eq_ok madeAll with ⟨⟨outputs, middle⟩, first, others⟩
    rcases exists_of_bind_eq_ok others with ⟨⟨more, last⟩, -, isWhole⟩
    rcases Prod.mk.inj (Except.ok.inj isWhole) with ⟨rfl, rfl⟩
    rcases (parallel _ (sharedPackage? request.files) _ request.parameters).exists_ok first with
      ⟨⟨_, final⟩, own, rfl, -⟩
    have madeOwn : (Outline.generator options).outputsIn request start = .ok outputs final :=
      outcome_eq_ok.mp own
    exact ⟨outputs, more, final, madeOwn, Outline.runIn_of_outputs madeOwn, made, isAnswer⟩
  case right =>
    intro error final fails
    rw [← outcome_eq_error, Outline.runIn_fails_iff, Generator.outputsIn, appended,
      Running.outcome_outputs_append]
    have failsOwn := Outline.runIn_fails_iff.mp (outcome_eq_error.mpr ⟨final, fails⟩)
    rw [(parallel _ _ _ _).eq_error trivial failsOwn]
    rfl

/-- The first file of a request of two, and the second file before the first one: in the first case
the output stays the same, in the second case the error does. -/
theorem parts_of_ordered_request :
    let start : RunState Unit := { registry := {}, generator := () }
    let itemOnly : CodeRequest := { files := orderedRequest.files.take 1 }
    let orderOnly : CodeRequest := { files := orderedRequest.files.drop 1 }
    let reversed : CodeRequest := { files := orderedRequest.files.reverse }
    (∃ outputs more final after,
      (Outline.generator {}).outputsIn itemOnly start = .ok outputs final ∧
        (Outline.generator {}).outputsIn orderedRequest start = .ok (outputs ++ more) after) ∧
      ∃ error final after,
        (Outline.generator {}).runIn orderOnly start = .error error final ∧
          (Outline.generator {}).runIn reversed start = .error error after := by
  intro start itemOnly orderOnly reversed
  have accepts : (match (Outline.generator {}).runIn orderedRequest start with
      | .ok _ _ => true
      | .error _ _ => false) = true := by
    decide +kernel
  have rejects : (match (Outline.generator {}).runIn orderOnly start with
      | .ok _ _ => true
      | .error _ _ => false) = false := by
    decide +kernel
  constructor
  · have appended : orderedRequest.entries =
        itemOnly.entries ++ orderedRequest.entries.drop 1 := rfl
    cases accepted : (Outline.generator {}).runIn orderedRequest start with
    | error error after => simp [accepted] at accepts
    | ok files after =>
        rcases (outputs_of_longer_request {} appended start).1 files after accepted with
          ⟨outputs, more, final, own, -, all, -⟩
        exact ⟨outputs, more, final, after, own, all⟩
  · have appended : reversed.entries = orderOnly.entries ++ reversed.entries.drop 1 := rfl
    cases rejected : (Outline.generator {}).runIn orderOnly start with
    | ok files after => simp [rejected] at rejects
    | error error final =>
        rcases (outputs_of_longer_request {} appended start).2 error final rejected with
          ⟨after, alsoRejected⟩
        exact ⟨error, final, after, rfl, alsoRejected⟩

/-! ## Registries at the start of a run -/

/-- A run over files with qualified references does not look at what was registered before it.  If
it succeeds with an empty registry, it succeeds with any other one, whatever that holds under
whichever names, and the outputs of the files are the same. -/
theorem outputs_in_any_registry (options : Outline.Options) {request : CodeRequest}
    (qualified : ∀ file ∈ request.files, file.FullyQualified) {files : List OutputFile}
    {after : RunState Unit}
    (succeeds : (Outline.generator options).runIn request { registry := {}, generator := () } =
      .ok files after) (start : RunState Unit) :
    ∃ outputs final,
      (Outline.generator options).outputsIn request { registry := {}, generator := () } =
          .ok outputs after ∧
        files = outputs.flatMap Option.toList ++ options.extras request after.registry ∧
        (Outline.generator options).outputsIn request start = .ok outputs final ∧
        (Outline.generator options).runIn request start =
          .ok (outputs.flatMap Option.toList ++ options.extras request final.registry) final := by
  rcases Outline.exists_of_runIn_ok succeeds with ⟨outputs, made, isAnswer⟩
  have comparable : ∀ entry ∈ request.entries, False ∨ entry.1.FullyQualified := by
    intro entry member
    apply Or.inr
    apply qualified
    rw [← request.map_fst_entries]
    exact List.mem_map_of_mem member
  have parallel := Outline.outputs_parallel options (sharedPackage? request.files)
    (sharedPackage? request.files) request.parameters request.parameters comparable
    { registry := {}, generator := () } start (Mirrors.empty id start.registry)
  rcases parallel.exists_ok (outcome_eq_ok.mpr made) with ⟨⟨_, final⟩, again, rfl, -⟩
  have madeAgain : (Outline.generator options).outputsIn request start = .ok outputs final :=
    outcome_eq_ok.mp again
  exact ⟨outputs, final, made, isAnswer, madeAgain, Outline.runIn_of_outputs madeAgain⟩

/-- A request that is run once more, with the registry that its first run has left. -/
theorem ordered_request_again :
    ∃ outputs after final,
      (Outline.generator {}).outputsIn orderedRequest { registry := {}, generator := () } =
          .ok outputs after ∧
        (Outline.generator {}).outputsIn orderedRequest after = .ok outputs final := by
  have qualified : ∀ file ∈ orderedRequest.files, file.FullyQualified := by
    decide +kernel
  have accepts : (match (Outline.generator {}).runIn orderedRequest
        { registry := {}, generator := () } with
      | .ok _ _ => true
      | .error _ _ => false) = true := by
    decide +kernel
  cases accepted : (Outline.generator {}).runIn orderedRequest
      { registry := {}, generator := () } with
  | error error after => simp [accepted] at accepts
  | ok files after =>
      rcases outputs_in_any_registry {} qualified accepted after with
        ⟨outputs, final, first, -, again, -⟩
      exact ⟨outputs, after, final, first, again⟩

end ProtoCompanion
