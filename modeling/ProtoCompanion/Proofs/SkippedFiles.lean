/-
Module: ProtoCompanion.Proofs.SkippedFiles
Purpose: Skipping a file takes away its output and nothing else.
Main exports: Outline.Options.skipping, Outline.withoutOutputs, Outline.outputs_skipping,
  skipping_drops_outputs_only
-/
import ProtoCompanion.Proofs.GeneratedFiles
import ProtoCompanion.Proofs.OutlineRuns

/-!
A file that is skipped is registered like any other.  So two runs that differ in what they skip go
through the same registries, and a run that skips all files is no more than their registration.
-/

namespace ProtoCompanion

namespace Outline

/-- The options with more files that are skipped. -/
def Options.skipping (options : Options) (skipped : List String) : Options :=
  { options with skip := options.skip ++ skipped }

/-- The outputs of files, without those of the files with some names. -/
def withoutOutputs (skipped : List String) (files : List FileDecl)
    (outputs : List (Option OutputFile)) : List (Option OutputFile) :=
  List.zipWith (fun file output? => if file.name ∈ skipped then none else output?) files outputs

variable {options : Options} {shared? : Option String} {parameters : Parameters}

/-! ## The step -/

theorem Options.contains_skipping (options : Options) (skipped : List String) (name : String) :
    (options.skipping skipped).skip.contains name =
      (options.skip.contains name || decide (name ∈ skipped)) := by
  simp [skipping]

/-- A file that succeeds does so with more files skipped, and the registry is the same after it. -/
theorem file_skipping {decl : FileDecl} {httpRules : HttpRuleTable} {state after : RunState Unit}
    {output? : Option OutputFile} (skipped : List String)
    (succeeds : outcome (Running.file (generator options) shared? parameters decl httpRules state) =
      .ok (output?, after)) :
    outcome (Running.file (generator (options.skipping skipped)) shared? parameters decl httpRules
        state) =
      .ok (if decl.name ∈ skipped then none else output?, after) := by
  rcases exists_of_file_ok succeeds with ⟨unit, declared, registered, written⟩
  have sameSettings : (options.skipping skipped).settings shared? decl httpRules =
      options.settings shared? decl httpRules := rfl
  rw [outcome_file, sameSettings, registered]
  simp only [outcome, Bind.bind, Except.bind, Options.contains_skipping]
  rcases written with ⟨already, rfl⟩ | ⟨notYet, output, made, rfl⟩
  · rw [already, Bool.true_or, if_pos rfl, ite_self]
  · simp only [notYet, made, Bool.false_or, decide_eq_true_eq]
    split <;> rfl

/-! ## Whole runs -/

section

variable {entries : List (FileDecl × HttpRuleTable)} {state after : RunState Unit}
  {outputs : List (Option OutputFile)}

theorem outputs_skipping (skipped : List String)
    (succeeds : outcome (Running.outputs (generator options) shared? parameters entries state) =
      .ok (outputs, after)) :
    outputs.length = entries.length ∧
      outcome (Running.outputs (generator (options.skipping skipped)) shared? parameters entries
          state) =
        .ok (withoutOutputs skipped (entries.map Prod.fst) outputs, after) := by
  induction entries generalizing state outputs with
  | nil =>
      cases succeeds
      exact ⟨rfl, rfl⟩
  | cons entry rest ih =>
      obtain ⟨decl, httpRules⟩ := entry
      obtain ⟨output?, middle, others, first, later, rfl⟩ := Running.exists_of_outputs_cons succeeds
      obtain ⟨sameLength, laterSkipping⟩ := ih later
      refine ⟨by rw [List.length_cons, List.length_cons, sameLength], ?_⟩
      rw [Running.outcome_outputs_cons, file_skipping skipped first]
      simp only [Bind.bind, Except.bind, laterSkipping]
      rfl

/-- Where the run succeeds, all files have been registered. -/
theorem registers_of_outputs
    (succeeds : outcome (Running.outputs (generator options) shared? parameters entries state) =
      .ok (outputs, after)) :
    ∃ answers, registerFiles (options.settled shared? entries) state.registry =
      .ok answers after.registry := by
  induction entries generalizing state outputs with
  | nil =>
      cases succeeds
      exact ⟨[], rfl⟩
  | cons entry rest ih =>
      obtain ⟨decl, httpRules⟩ := entry
      obtain ⟨output?, middle, others, first, later, rfl⟩ := Running.exists_of_outputs_cons succeeds
      obtain ⟨unit, declared, registered, -⟩ := exists_of_file_ok first
      obtain ⟨answers, othersRegistered⟩ := ih later
      refine ⟨(unit, declared) :: answers, ?_⟩
      rw [Options.settled, List.map_cons, registerFiles_cons, registered]
      simp only
      rw [← Options.settled, othersRegistered]

theorem outcome_registerFiles_cons (file : FileDecl) (settings : UnitSettings)
    (rest : List (FileDecl × UnitSettings)) (start : Registry) :
    outcome (registerFiles ((file, settings) :: rest) start) =
      outcome (registerFile file settings start) >>= fun first =>
        outcome (registerFiles rest first.2) >>= fun others =>
          .ok (first.1 :: others.1, others.2) := by
  rw [registerFiles_cons]
  cases registerFile file settings start with
  | error error middle => rfl
  | ok first middle =>
      simp only [outcome, Bind.bind, Except.bind]
      cases registerFiles rest middle <;> rfl

/-- Where all files are skipped, they are registered and nothing is written for them. -/
theorem outputs_of_skipped
    (skips : ∀ entry ∈ entries, options.skip.contains entry.1.name = true) :
    outcome (Running.outputs (generator options) shared? parameters entries state) =
      outcome (registerFiles (options.settled shared? entries) state.registry) >>= fun result =>
        .ok (entries.map fun _ => none, { state with registry := result.2 }) := by
  induction entries generalizing state with
  | nil => rfl
  | cons entry rest ih =>
      obtain ⟨decl, httpRules⟩ := entry
      have skipsHere : options.skip.contains decl.name = true :=
        skips (decl, httpRules) List.mem_cons_self
      have later (middle : RunState Unit) :=
        @ih middle fun other member => skips other (List.mem_cons_of_mem _ member)
      rw [Running.outcome_outputs_cons, outcome_file, Options.settled, List.map_cons,
        outcome_registerFiles_cons]
      simp only [skipsHere, if_true, bind_assoc]
      congr 1
      funext answer
      change outcome (Running.outputs (generator options) shared? parameters rest
        { state with registry := answer.2 }) >>= _ = _
      rw [later, bind_assoc]
      rfl

end

/-! ## Requests -/

variable {request : CodeRequest} {start : RunState Unit}

theorem outputsIn_skipping (skipped : List String) {outputs : List (Option OutputFile)}
    {after : RunState Unit}
    (made : (generator options).outputsIn request start = .ok outputs after) :
    outputs.length = request.files.length ∧
      (generator (options.skipping skipped)).outputsIn request start =
        .ok (withoutOutputs skipped request.files outputs) after := by
  rcases outputs_skipping skipped (outcome_eq_ok.mpr made) with ⟨sameLength, madeSkipping⟩
  rw [request.map_fst_entries] at madeSkipping
  constructor
  · rw [sameLength, ← request.map_fst_entries, List.length_map]
  · exact outcome_eq_ok.mp madeSkipping

theorem runIn_of_skipped (skips : ∀ file ∈ request.files, options.skip.contains file.name = true) :
    outcome ((generator options).runIn request start) =
      outcome (registerFiles (options.settled (sharedPackage? request.files) request.entries)
        start.registry) >>= fun result =>
          .ok (options.extras request result.2, { start with registry := result.2 }) := by
  have entriesSkip : ∀ entry ∈ request.entries, options.skip.contains entry.1.name = true := by
    intro entry member
    apply skips
    rw [← request.map_fst_entries]
    exact List.mem_map_of_mem member
  have nothing : (request.entries.map fun _ => (none : Option OutputFile)).flatMap
      Option.toList = [] := by
    simp
  rw [outcome_runIn, Generator.outputsIn, outputs_of_skipped entriesSkip, bind_assoc]
  simp only [Bind.bind, Except.bind, nothing]
  rfl

end Outline

/-- Skipping more files changes nothing but the answer for these files.  A run that succeeds does so
with more files skipped; its answer then lacks the outputs of these files, and everything else in
it, the index of all messages included, is as before.  Where the files of a request cannot be
registered, no run over them succeeds, whatever is skipped; and a run that skips all files fails
just like their registration and answers with the index alone. -/
theorem skipping_drops_outputs_only (options : Outline.Options) (request : CodeRequest)
    (skipped : List String) (start : RunState Unit) :
    let settled := options.settled (sharedPackage? request.files) request.entries
    let skipping := Outline.generator (options.skipping skipped)
    (∀ files after, (Outline.generator options).runIn request start = .ok files after →
      ∃ outputs, (Outline.generator options).outputsIn request start = .ok outputs after ∧
        outputs.length = request.files.length ∧
        files = outputs.flatMap Option.toList ++ options.extras request after.registry ∧
        skipping.runIn request start =
          .ok ((Outline.withoutOutputs skipped request.files outputs).flatMap Option.toList ++
            options.extras request after.registry) after) ∧
      (∀ error final, registerFiles settled start.registry = .error error final →
        ∀ files after, skipping.runIn request start ≠ .ok files after) ∧
      ((∀ file ∈ request.files, file.name ∈ skipped) →
        outcome (skipping.runIn request start) =
          outcome (registerFiles settled start.registry) >>= fun result =>
            .ok (options.extras request result.2, { start with registry := result.2 })) := by
  intro settled skipping
  refine ⟨?more, ?failing, ?all⟩
  case more =>
    intro files after succeeds
    rcases Outline.exists_of_runIn_ok succeeds with ⟨outputs, made, isAnswer⟩
    rcases Outline.outputsIn_skipping skipped made with ⟨sameLength, madeSkipping⟩
    exact ⟨outputs, made, sameLength, isAnswer, Outline.runIn_of_outputs madeSkipping⟩
  case failing =>
    intro error final fails files after succeeds
    rcases Outline.exists_of_runIn_ok succeeds with ⟨outputs, made, -⟩
    rcases Outline.registers_of_outputs (outcome_eq_ok.mpr made) with ⟨answers, registered⟩
    have registers : registerFiles settled start.registry = .ok answers after.registry := registered
    rw [fails] at registers
    cases registers
  case all =>
    intro allSkipped
    apply Outline.runIn_of_skipped
    intro file isFile
    rw [Outline.Options.contains_skipping, decide_eq_true (allSkipped file isFile), Bool.or_true]

/-- A request of two files, of which first one and then the other is skipped as well: what remains
is the companion of the second file and the index, and then the index alone. -/
theorem outlines_without_skipped_item :
    let start : RunState Unit := { registry := {}, generator := () }
    let run (skipped : List String) :=
      (Outline.generator (Outline.Options.skipping {} skipped)).runIn orderedRequest start
    ∃ first second index after,
      (Outline.generator {}).runIn orderedRequest start = .ok [first, second, index] after ∧
        run ["item.proto"] = .ok [second, index] after ∧
        run ["item.proto", "order.proto"] = .ok [index] after := by
  intro start run
  have names : (match (Outline.generator {}).runIn orderedRequest start with
      | .ok files _ => files.map OutputFile.name?
      | .error _ _ => []) =
      [some "shop/ItemOutline.java", some "shop/OrderOutline.java",
        some "shop/OutlineIndex.java"] := by
    decide +kernel
  cases accepted : (Outline.generator {}).runIn orderedRequest start with
  | error error after =>
      rw [accepted] at names
      cases names
  | ok files after =>
      obtain ⟨outputs, made, count, rfl, firstSkipped⟩ :=
        (skipping_drops_outputs_only {} orderedRequest ["item.proto"] start).1 files after accepted
      obtain ⟨others, madeAgain, -, -, bothSkipped⟩ :=
        (skipping_drops_outputs_only {} orderedRequest ["item.proto", "order.proto"] start).1 _
          after accepted
      obtain rfl : outputs = others := by
        rw [made] at madeAgain
        exact (EStateM.Result.ok.inj madeAgain).1
      obtain ⟨first?, second?, rfl⟩ := List.length_eq_two.mp count
      have index : Outline.Options.extras {} orderedRequest after.registry =
          [Outline.indexFile after.registry
            ((sharedPackage? orderedRequest.files).getD "")] := rfl
      rw [accepted, index] at names
      rw [index] at accepted firstSkipped bothSkipped
      have three := congrArg List.length names
      cases first? with
      | none => cases second? <;> simp at three
      | some first =>
          cases second? with
          | none => simp at three
          | some second =>
              have firstLeft : Outline.withoutOutputs ["item.proto"] orderedRequest.files
                  [some first, some second] = [none, some second] := by
                simp [Outline.withoutOutputs, orderedRequest, FileDecl.name]
              have noneLeft : Outline.withoutOutputs ["item.proto", "order.proto"]
                  orderedRequest.files [some first, some second] = [none, none] := by
                simp [Outline.withoutOutputs, orderedRequest, FileDecl.name]
              rw [firstLeft] at firstSkipped
              rw [noneLeft] at bothSkipped
              exact ⟨first, second, _, after, rfl, firstSkipped, bothSkipped⟩

end ProtoCompanion
