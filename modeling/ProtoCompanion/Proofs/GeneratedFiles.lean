/-
Module: ProtoCompanion.Proofs.GeneratedFiles
Purpose: A run of the outline generator, file by file: what it registers, what it writes for each
  file, and what it writes at the end.
Main exports: outcome, CodeRequest.entries, Generator.outputsIn, Outline.companionOf,
  Outline.outcome_file, Outline.outcome_runIn
-/
import ProtoCompanion.Generation.Run
import ProtoCompanion.Outline.Generator
import ProtoCompanion.Proofs.RegisteredFiles

/-!
The answer to a request does not say which file was written for which source file.  So a run is cut
in two: a list with the output of each file, or none if the file is skipped, and what comes after
it.  The output of a file is computed from the registry at that moment, and changes nothing.
-/

namespace ProtoCompanion

/-! ## Results of steps -/

/-- The result of a step, with the state after it if it has succeeded. -/
def outcome {σ α : Type} : EStateM.Result Error σ α → Except Error (α × σ)
  | .ok value state => .ok (value, state)
  | .error error _ => .error error

theorem outcome_bind {σ α β : Type} (step : EStateM Error σ α) (next : α → EStateM Error σ β)
    (state : σ) :
    outcome ((step >>= next) state) =
      outcome (step state) >>= fun result => outcome (next result.1 result.2) := by
  simp only [Bind.bind, EStateM.bind]
  cases step state <;> rfl

theorem outcome_eq_ok {σ α : Type} {result : EStateM.Result Error σ α} {value : α} {state : σ} :
    outcome result = .ok (value, state) ↔ result = .ok value state := by
  cases result with
  | ok found after => simp [outcome]
  | error error after => simp [outcome]

theorem outcome_eq_error {σ α : Type} {result : EStateM.Result Error σ α} {error : Error} :
    outcome result = .error error ↔ ∃ state, result = .error error state := by
  cases result with
  | ok found after => simp [outcome]
  | error error after => simp [outcome]

/-- Two steps that succeed one after the other. -/
theorem exists_of_outcome_bind {σ α β : Type} {step : EStateM Error σ α}
    {next : α → EStateM Error σ β} {state final : σ} {result : β}
    (succeeds : outcome ((step >>= next) state) = .ok (result, final)) :
    ∃ value middle, outcome (step state) = .ok (value, middle) ∧
      outcome (next value middle) = .ok (result, final) := by
  rw [outcome_bind] at succeeds
  obtain ⟨⟨value, middle⟩, first, later⟩ := exists_of_bind_eq_ok succeeds
  exact ⟨value, middle, first, later⟩

theorem Running.outcome_registering {σ α : Type} (step : EStateM Error Registry α)
    (state : RunState σ) :
    outcome (registering step state) =
      outcome (step state.registry) >>= fun result =>
        .ok (result.1, { state with registry := result.2 }) := by
  rw [registering]
  cases step state.registry <;> rfl

theorem Running.outcome_generating {σ α : Type} (step : Generating σ α) (state : RunState σ) :
    outcome (generating step state) =
      outcome (step state.generator) >>= fun result =>
        .ok (result.1, { state with generator := result.2 }) := by
  rw [generating]
  cases step state.generator <;> rfl

theorem Running.outcome_asking {σ α : Type} (step : StateM σ α) (state : RunState σ) :
    outcome (asking step state) =
      .ok ((step.run state.generator).1,
        { state with generator := (step.run state.generator).2 }) :=
  rfl

/-! ## Outputs of files -/

/-- The files of a request, each with its HTTP rules. -/
def CodeRequest.entries (request : CodeRequest) : List (FileDecl × HttpRuleTable) :=
  request.files.zipIdx.map fun entry => (entry.1, request.httpRulesAt entry.2)

theorem CodeRequest.map_fst_entries (request : CodeRequest) :
    request.entries.map Prod.fst = request.files := by
  rw [entries, List.map_map]
  exact List.zipIdx_map_fst 0 request.files

section

variable {σ : Type} (generator : Generator σ) (shared? : Option String) (parameters : Parameters)

/-- The outputs of files, one after the other.  A file that is skipped has none. -/
def Running.outputs : List (FileDecl × HttpRuleTable) → Running σ (List (Option OutputFile))
  | [] => return []
  | (decl, httpRules) :: rest => do
      let output? ← file generator shared? parameters decl httpRules
      let others ← outputs rest
      return output? :: others

/-- The outputs of the files of a request. -/
def Generator.outputsIn (request : CodeRequest) : Running σ (List (Option OutputFile)) :=
  Running.outputs generator (sharedPackage? request.files) request.parameters request.entries

theorem Running.files_eq_outputs (request : CodeRequest) (index : Nat) (decls : List FileDecl) :
    files generator request shared? index decls = do
      let outputs ← outputs generator shared? request.parameters
        ((decls.zipIdx index).map fun entry => (entry.1, request.httpRulesAt entry.2))
      return outputs.flatMap Option.toList := by
  induction decls generalizing index with
  | nil => rfl
  | cons decl rest ih =>
      rw [files, ih, List.zipIdx_cons, List.map_cons, outputs]
      simp only [bind_assoc, pure_bind, List.flatMap_cons]

theorem Generator.runIn_eq (request : CodeRequest) :
    generator.runIn request = do
      let outputs ← generator.outputsIn request
      let view ← Running.view (sharedPackage? request.files) request.parameters
      let extras ← Running.generating (generator.extraFiles view)
      return outputs.flatMap Option.toList ++ extras := by
  rw [Generator.runIn, Running.files_eq_outputs]
  simp only [bind_assoc, pure_bind]
  rfl

theorem Running.outcome_outputs_cons (decl : FileDecl) (httpRules : HttpRuleTable)
    (rest : List (FileDecl × HttpRuleTable)) (state : RunState σ) :
    outcome (outputs generator shared? parameters ((decl, httpRules) :: rest) state) =
      outcome (file generator shared? parameters decl httpRules state) >>= fun first =>
        outcome (outputs generator shared? parameters rest first.2) >>= fun others =>
          .ok (first.1 :: others.1, others.2) := by
  rw [outputs, outcome_bind]
  congr 1
  funext first
  rw [outcome_bind]
  rfl

/-- A run over more files goes on where the run over the first of them ends. -/
theorem Running.outcome_outputs_append (entries more : List (FileDecl × HttpRuleTable))
    (state : RunState σ) :
    outcome (outputs generator shared? parameters (entries ++ more) state) =
      outcome (outputs generator shared? parameters entries state) >>= fun first =>
        outcome (outputs generator shared? parameters more first.2) >>= fun later =>
          .ok (first.1 ++ later.1, later.2) := by
  induction entries generalizing state with
  | nil =>
      change _ = outcome (outputs generator shared? parameters more state) >>= fun later =>
        .ok later
      rw [List.nil_append]
      exact (bind_pure _).symm
  | cons entry rest ih =>
      rw [List.cons_append, outcome_outputs_cons, outcome_outputs_cons]
      simp only [ih, bind_assoc]
      rfl

variable {generator shared? parameters} in
/-- A run over files that succeeds is a file that succeeds and a run over the others. -/
theorem Running.exists_of_outputs_cons {decl : FileDecl} {httpRules : HttpRuleTable}
    {rest : List (FileDecl × HttpRuleTable)} {state after : RunState σ}
    {outputs : List (Option OutputFile)}
    (succeeds : outcome (Running.outputs generator shared? parameters ((decl, httpRules) :: rest)
      state) = .ok (outputs, after)) :
    ∃ output? middle others,
      outcome (file generator shared? parameters decl httpRules state) = .ok (output?, middle) ∧
        outcome (Running.outputs generator shared? parameters rest middle) = .ok (others, after) ∧
        outputs = output? :: others := by
  rw [outcome_outputs_cons] at succeeds
  obtain ⟨⟨output?, middle⟩, first, succeeds⟩ := exists_of_bind_eq_ok succeeds
  obtain ⟨⟨others, last⟩, later, succeeds⟩ := exists_of_bind_eq_ok succeeds
  obtain ⟨rfl, rfl⟩ := Prod.mk.inj (Except.ok.inj succeeds)
  exact ⟨output?, middle, others, first, later, rfl⟩

end

/-! ## Outlines -/

namespace Outline

/-- What the generator of outlines says about a file before it is opened. -/
def Options.settings (options : Options) (shared? : Option String) (file : FileDecl)
    (httpRules : HttpRuleTable) : UnitSettings where
  companionClass := file.outerClassName ++ options.suffix
  httpRules := httpRules
  sharedPackage? := shared?

/-- Files with what the generator says about them before they are opened. -/
def Options.settled (options : Options) (shared? : Option String)
    (entries : List (FileDecl × HttpRuleTable)) : List (FileDecl × UnitSettings) :=
  entries.map fun entry => (entry.1, options.settings shared? entry.1 entry.2)

theorem Options.map_fst_settled (options : Options) (shared? : Option String)
    (request : CodeRequest) :
    (options.settled shared? request.entries).map Prod.fst = request.files := by
  rw [settled, List.map_map, ← request.map_fst_entries]
  rfl

/-- What is written after the outputs of the files of a request. -/
def Options.extras (options : Options) (request : CodeRequest) (registry : Registry) :
    List OutputFile :=
  if options.index then [indexFile registry ((sharedPackage? request.files).getD "")] else []

/-- The parts of the companion of a file that has been registered. -/
def partsOf (registry : Registry) (unit : FileUnit) (declared : TopLevel) :
    Except Error CompanionFile := do
  let messageCode ← declared.messages.mapM (code registry)
  let enumCode ← declared.enums.mapM (code registry)
  let serviceCode ← declared.services.mapM (code registry)
  return {
    pluginName, imports
    sourceName := unit.fileName
    package := unit.outputPackage
    className := unit.outerClass.companionClass
    messageCode, enumCode, serviceCode }

/-- The companion of a file that has been registered. -/
def companionOf (registry : Registry) (unit : FileUnit) (declared : TopLevel) :
    Except Error OutputFile := do
  let parts ← partsOf registry unit declared
  return { name? := some (unit.outputPath ".java"), content? := some parts.render }

variable (options : Options)

theorem outcome_code (view : RunView) (descriptor : Descriptor) (state : Unit) :
    outcome ((generator options).code view descriptor state) =
      code view.registry descriptor >>= fun text => .ok (some text, ()) := by
  simp only [generator]
  cases code view.registry descriptor <;> rfl

theorem outcome_codes (view : RunView) (descriptors : List Descriptor) (state : Unit) :
    outcome ((generator options).codes view descriptors state) =
      descriptors.mapM (code view.registry) >>= fun texts => .ok (texts, ()) := by
  induction descriptors with
  | nil => rfl
  | cons descriptor rest ih =>
      rw [Generator.codes, List.mapM_cons]
      simp only [outcome_bind, outcome_code, bind_assoc]
      congr 1
      funext text
      change outcome ((generator options).codes view rest state) >>= _ = _
      rw [ih, bind_assoc]
      rfl

theorem outcome_generating {α : Type} (step : Generating Unit α) (state : RunState Unit) :
    outcome (Running.generating step state) =
      outcome (step ()) >>= fun result => .ok (result.1, state) :=
  Running.outcome_generating step state

theorem outcome_parts (view : RunView) (unit : FileUnit) (declared : TopLevel) :
    outcome ((generator options).parts view unit declared ()) =
      partsOf view.registry unit declared >>= fun parts => .ok (parts, ()) := by
  rw [Generator.parts, partsOf]
  simp only [outcome_bind, outcome_codes, bind_assoc]
  rfl

theorem outcome_companion (view : RunView) (unit : FileUnit) (declared : TopLevel)
    (state : RunState Unit) :
    outcome (Running.companion (generator options) view unit declared state) =
      companionOf view.registry unit declared >>= fun output => .ok (output, state) := by
  rw [Running.companion, companionOf]
  simp only [outcome_bind, outcome_generating, outcome_parts, bind_assoc]
  rfl

/-- A file is registered as it is without a generator; then its companion is made, unless it is
skipped. -/
theorem outcome_file (shared? : Option String) (parameters : Parameters) (decl : FileDecl)
    (httpRules : HttpRuleTable) (state : RunState Unit) :
    outcome (Running.file (generator options) shared? parameters decl httpRules state) =
      outcome (registerFile decl (options.settings shared? decl httpRules) state.registry) >>=
        fun answer =>
          if options.skip.contains decl.name then .ok (none, { state with registry := answer.2 })
          else companionOf answer.2 answer.1.1 answer.1.2 >>= fun output =>
            .ok (some output, { state with registry := answer.2 }) := by
  have settled : outcome (Running.settings (generator options) shared? decl httpRules state) =
      .ok (options.settings shared? decl httpRules, state) :=
    rfl
  rw [Running.file, outcome_bind, settled]
  change outcome ((Running.registering (registerFile decl _) >>= _) state) = _
  rw [outcome_bind, Running.outcome_registering, bind_assoc]
  congr 1
  funext answer
  obtain ⟨⟨unit, declared⟩, registry⟩ := answer
  have asked : outcome (Running.asking ((generator options).skips decl) { state with registry }) =
      .ok (options.skip.contains decl.name, { state with registry }) :=
    rfl
  change outcome ((Running.asking ((generator options).skips decl) >>= _) _) = _
  rw [outcome_bind, asked]
  cases skipped : options.skip.contains decl.name with
  | true => rfl
  | false =>
      let view : RunView := { registry, sharedPackage? := shared?, parameters }
      change outcome ((some <$> Running.companion (generator options) view unit declared) _) = _
      rw [← bind_pure_comp, outcome_bind, outcome_companion, bind_assoc]
      rfl

variable {options} in
/-- A file that succeeds has been registered, and has its companion unless it is skipped. -/
theorem exists_of_file_ok {shared? : Option String} {parameters : Parameters} {decl : FileDecl}
    {httpRules : HttpRuleTable} {state after : RunState Unit} {output? : Option OutputFile}
    (succeeds : outcome (Running.file (generator options) shared? parameters decl httpRules state) =
      .ok (output?, after)) :
    ∃ unit declared,
      registerFile decl (options.settings shared? decl httpRules) state.registry =
          .ok (unit, declared) after.registry ∧
        (options.skip.contains decl.name = true ∧ output? = none ∨
          options.skip.contains decl.name = false ∧
            ∃ output, companionOf after.registry unit declared = .ok output ∧
              output? = some output) := by
  rw [outcome_file] at succeeds
  rcases exists_of_bind_eq_ok succeeds with ⟨⟨⟨unit, declared⟩, registry⟩, registered, succeeds⟩
  split at succeeds
  case isTrue skipped =>
    rcases Prod.mk.inj (Except.ok.inj succeeds) with ⟨rfl, rfl⟩
    exact ⟨unit, declared, outcome_eq_ok.mp registered, .inl ⟨skipped, rfl⟩⟩
  case isFalse notSkipped =>
    rcases exists_of_bind_eq_ok succeeds with ⟨output, made, succeeds⟩
    rcases Prod.mk.inj (Except.ok.inj succeeds) with ⟨rfl, rfl⟩
    exact ⟨unit, declared, outcome_eq_ok.mp registered,
      .inr ⟨Bool.eq_false_iff.mpr notSkipped, output, made, rfl⟩⟩

/-- A run is made of the outputs of the files and of what is written after them. -/
theorem outcome_runIn (request : CodeRequest) (state : RunState Unit) :
    outcome ((generator options).runIn request state) =
      outcome ((generator options).outputsIn request state) >>= fun result =>
        .ok (result.1.flatMap Option.toList ++ options.extras request result.2.registry,
          result.2) := by
  rw [Generator.runIn_eq, outcome_bind]
  rfl

variable {options}

theorem exists_of_runIn_ok {request : CodeRequest} {start after : RunState Unit}
    {files : List OutputFile}
    (succeeds : (generator options).runIn request start = .ok files after) :
    ∃ outputs, (generator options).outputsIn request start = .ok outputs after ∧
      files = outputs.flatMap Option.toList ++ options.extras request after.registry := by
  rw [← outcome_eq_ok, outcome_runIn] at succeeds
  rcases exists_of_bind_eq_ok succeeds with ⟨⟨outputs, last⟩, made, succeeds⟩
  rcases Prod.mk.inj (Except.ok.inj succeeds) with ⟨isAnswer, rfl⟩
  exact ⟨outputs, outcome_eq_ok.mp made, isAnswer.symm⟩

theorem runIn_of_outputs {request : CodeRequest} {start after : RunState Unit}
    {outputs : List (Option OutputFile)}
    (made : (generator options).outputsIn request start = .ok outputs after) :
    (generator options).runIn request start =
      .ok (outputs.flatMap Option.toList ++ options.extras request after.registry) after := by
  rw [← outcome_eq_ok, outcome_runIn, made]
  rfl

/-- A run fails with an error just when the output of a file does. -/
theorem runIn_fails_iff {request : CodeRequest} {start : RunState Unit} {error : Error} :
    outcome ((generator options).runIn request start) = .error error ↔
      outcome ((generator options).outputsIn request start) = .error error := by
  rw [outcome_runIn]
  cases outcome ((generator options).outputsIn request start) with
  | ok result => constructor <;> intro impossible <;> cases impossible
  | error found => constructor <;> intro same <;> cases same <;> rfl

end Outline

end ProtoCompanion
