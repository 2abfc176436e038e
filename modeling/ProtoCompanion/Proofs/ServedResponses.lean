/-
Module: ProtoCompanion.Proofs.ServedResponses
Purpose: A plugin writes a whole response or nothing, for every generator and every channel.
Main exports: Generator.verdict, Generator.WritesFor, Generator.Composes, Transport.Works,
  served_whole_or_not_at_all
-/
import ProtoCompanion.Exchange.Transport
import ProtoCompanion.Proofs.GeneratedFiles
import ProtoCompanion.Proofs.ResponseMessages

/-!
A generator may change its state whenever it is asked something, and it is asked everything anew
for each file.  So what it says about a file is what it says in the state that the files before have
left, and a run is described file by file: the run over the first files, and the file that follows
them.

The channel is any state with operations on it.  How many bytes it takes at a time is left open.
-/

namespace ProtoCompanion

open Naming (NameStyle)
open Wire (Bytes)

/-! ## Outputs of any generator -/

/-- What a generator says about a file before any code is generated for it: the class that wraps its
companion, how names of types are written in it, and whether it is skipped. -/
structure Verdict where
  companionClass : String
  style : NameStyle
  skipped : Bool

/-- The settings under which a file is registered after a verdict. -/
def Verdict.settings (verdict : Verdict) (shared? : Option String) (httpRules : HttpRuleTable) :
    UnitSettings where
  companionClass := verdict.companionClass
  httpRules := httpRules
  style := verdict.style
  sharedPackage? := shared?

/-- The path of a companion that is wrapped in a class. -/
def FileDecl.companionPath (decl : FileDecl) (companionClass extension : String) : String :=
  (FileUnit.ofFile 0 decl { companionClass }).outputPath extension

section

variable {σ : Type}

/-- The questions about a file, in the order in which a run asks them.  The last one is asked when
the file has been registered, which does not concern the generator. -/
def Generator.verdict (generator : Generator σ) (shared? : Option String) (decl : FileDecl) :
    StateM σ Verdict := do
  let companionClass ← generator.companionClass decl.outerClassName
  let style ← generator.style shared?
  let skipped ← generator.skips decl
  return { companionClass, style, skipped }

/-- What is written for a file that a run comes to in some state.  The file is registered under the
settings of the generator's verdict.  Nothing is written if it is skipped.  Otherwise the generator
is asked for the parts of the companion, then for the end of its name, and last for what becomes of
its text, each time in the state that it was left in. -/
inductive Generator.WritesFor (generator : Generator σ) (shared? : Option String)
    (parameters : Parameters) (decl : FileDecl) (httpRules : HttpRuleTable)
    (before : RunState σ) : Option OutputFile → Prop where
  | skipped {verdict : Verdict} {judged : σ} {answer : FileUnit × TopLevel} {registry : Registry}
      (judges : (generator.verdict shared? decl).run before.generator = (verdict, judged))
      (registers : registerFile decl (verdict.settings shared? httpRules) before.registry =
        .ok answer registry)
      (skips : verdict.skipped = true) :
      generator.WritesFor shared? parameters decl httpRules before none
  | written {verdict : Verdict} {judged composed named final : σ} {unit : FileUnit}
      {declared : TopLevel} {registry : Registry} {parts : CompanionFile}
      {extension content : String}
      (judges : (generator.verdict shared? decl).run before.generator = (verdict, judged))
      (registers : registerFile decl (verdict.settings shared? httpRules) before.registry =
        .ok (unit, declared) registry)
      (keeps : verdict.skipped = false)
      (composes : generator.parts { registry, sharedPackage? := shared?, parameters } unit declared
        judged = .ok parts composed)
      (names : generator.extension.run composed = (extension, named))
      (finishes : (generator.finish parts.render).run named = (.ok content, final)) :
      generator.WritesFor shared? parameters decl httpRules before (some {
        name? := some (decl.companionPath verdict.companionClass extension)
        content? := some content })

variable {generator : Generator σ} {shared? : Option String} {parameters : Parameters}
  {state after : RunState σ}

/-- A companion that is made has the name and the contents that the generator has answered with. -/
theorem Running.exists_of_companion_ok {view : RunView} {unit : FileUnit} {declared : TopLevel}
    {output : OutputFile}
    (succeeds : outcome (companion generator view unit declared state) = .ok (output, after)) :
    ∃ parts composed extension named content final,
      generator.parts view unit declared state.generator = .ok parts composed ∧
        generator.extension.run composed = (extension, named) ∧
        (generator.finish parts.render).run named = (.ok content, final) ∧
        output = { name? := some (unit.outputPath extension), content? := some content } := by
  rw [companion] at succeeds
  obtain ⟨_, _, composed, succeeds⟩ := exists_of_outcome_bind succeeds
  obtain ⟨_, _, named, succeeds⟩ := exists_of_outcome_bind succeeds
  obtain ⟨finished, _, finishes, succeeds⟩ := exists_of_outcome_bind succeeds
  rw [outcome_generating] at composed
  obtain ⟨⟨parts, asked⟩, composes, isComposed⟩ := exists_of_bind_eq_ok composed
  cases isComposed
  rw [outcome_asking] at named finishes
  cases named
  cases finished with
  | error report => cases succeeds
  | ok content =>
      cases succeeds
      obtain ⟨isContent, -⟩ := Prod.mk.inj (Except.ok.inj finishes)
      exact ⟨parts, asked, _, _, content, _, outcome_eq_ok.mp composes, rfl,
        Prod.ext isContent rfl, rfl⟩

theorem unit_of_registerFile {decl : FileDecl} {settings : UnitSettings} {start final : Registry}
    {unit : FileUnit} {declared : TopLevel}
    (registered : registerFile decl settings start = .ok (unit, declared) final) :
    ∃ identity, unit = .ofFile identity decl settings := by
  have run := registerFile_run decl settings start
  rw [registered] at run
  exact ⟨start.collided.length, run.1⟩

/-- The step: what is written for a file follows from what the generator says about it. -/
theorem Running.file_writesFor {decl : FileDecl} {httpRules : HttpRuleTable}
    {output? : Option OutputFile}
    (succeeds : outcome (file generator shared? parameters decl httpRules state) =
      .ok (output?, after)) :
    generator.WritesFor shared? parameters decl httpRules state output? := by
  rw [file] at succeeds
  obtain ⟨settings, settled, isSettled, succeeds⟩ := exists_of_outcome_bind succeeds
  obtain ⟨⟨unit, declared⟩, opened, registered, succeeds⟩ := exists_of_outcome_bind succeeds
  obtain ⟨skipped, asked, isSkipped, succeeds⟩ := exists_of_outcome_bind succeeds
  rw [outcome_registering] at registered
  obtain ⟨⟨⟨_, _⟩, registry⟩, opens, isOpened⟩ := exists_of_bind_eq_ok registered
  cases isSettled
  cases isOpened
  cases isSkipped
  have registers := outcome_eq_ok.mp opens
  -- Registration leaves the generator alone: whether the file is skipped is asked in the state that
  -- the first two questions have left, as in `verdict`.
  dsimp only at succeeds
  split at succeeds
  case isTrue skips =>
    cases succeeds
    exact .skipped rfl registers skips
  case isFalse keeps =>
    obtain ⟨view, _, isView, succeeds⟩ := exists_of_outcome_bind succeeds
    cases isView
    rw [← bind_pure_comp] at succeeds
    obtain ⟨output, _, written, succeeds⟩ := exists_of_outcome_bind succeeds
    obtain ⟨parts, composed, extension, named, content, final, composes, names, finishes, rfl⟩ :=
      exists_of_companion_ok written
    cases succeeds
    obtain ⟨identity, rfl⟩ := unit_of_registerFile registers
    exact .written rfl registers (Bool.eq_false_iff.mpr keeps) composes names finishes

/-! ## Runs -/

/-- The run: at each place stands the output of a file, made in the state in which the run over the
files before it ends. -/
theorem Running.outputs_at {entries : List (FileDecl × HttpRuleTable)}
    {outputs : List (Option OutputFile)}
    (succeeds : outcome (Running.outputs generator shared? parameters entries state) =
      .ok (outputs, after)) :
    outputs.length = entries.length ∧
      ∀ index decl httpRules, entries[index]? = some (decl, httpRules) →
        ∃ before output? next,
          outcome (Running.outputs generator shared? parameters (entries.take index) state) =
            .ok (outputs.take index, before) ∧
          outcome (file generator shared? parameters decl httpRules before) = .ok (output?, next) ∧
          outputs[index]? = some output? := by
  induction entries generalizing state outputs with
  | nil =>
      cases succeeds
      exact ⟨rfl, fun index decl httpRules found => by cases found⟩
  | cons entry rest ih =>
      obtain ⟨first?, middle, others, first, later, rfl⟩ := exists_of_outputs_cons succeeds
      obtain ⟨sameLength, each⟩ := ih later
      refine ⟨by rw [List.length_cons, List.length_cons, sameLength], ?_⟩
      intro index decl httpRules found
      cases index with
      | zero =>
          cases found
          exact ⟨state, first?, middle, rfl, first, rfl⟩
      | succ index =>
          obtain ⟨before, output?, next, taken, made, isOutput⟩ := each index decl httpRules found
          refine ⟨before, output?, next, ?_, made, isOutput⟩
          rw [List.take_succ_cons, outcome_outputs_cons, first]
          simp only [Bind.bind, Except.bind, taken, List.take_succ_cons]

variable {initial final : σ} {request : CodeRequest}

/-- The answer to a request in its parts: what is written for each file of the request, and what
is written at the end. -/
structure Generator.Composes (generator : Generator σ) (initial : σ) (request : CodeRequest)
    (outputs : List (Option OutputFile)) (extras : List OutputFile) (final : σ) : Prop where
  length : outputs.length = request.files.length
  each : ∀ index decl, request.files[index]? = some decl →
    ∃ before output?,
      Running.outputs generator (sharedPackage? request.files) request.parameters
          (request.entries.take index) { registry := {}, generator := initial } =
        .ok (outputs.take index) before ∧
      outputs[index]? = some output? ∧
      generator.WritesFor (sharedPackage? request.files) request.parameters decl
        (request.httpRulesAt index) before output?
  last : ∃ after,
    generator.outputsIn request { registry := {}, generator := initial } = .ok outputs after ∧
      generator.extraFiles { registry := after.registry
                             sharedPackage? := sharedPackage? request.files
                             parameters := request.parameters } after.generator =
        .ok extras final

/-- A run that succeeds has an answer in such parts. -/
theorem Generator.exists_of_run_ok {files : List OutputFile}
    (succeeds : generator.run request initial = .ok files final) :
    ∃ outputs extras, generator.Composes initial request outputs extras final ∧
      files = outputs.flatMap Option.toList ++ extras := by
  rw [run] at succeeds
  cases ran : generator.runIn request { registry := {}, generator := initial } with
  | error error state =>
      rw [ran] at succeeds
      cases succeeds
  | ok found last =>
      rw [ran] at succeeds
      cases succeeds
      rw [← outcome_eq_ok, runIn_eq] at ran
      obtain ⟨outputs, after, made, viewed⟩ := exists_of_outcome_bind ran
      obtain ⟨view, _, isView, added⟩ := exists_of_outcome_bind viewed
      obtain ⟨rfl, rfl⟩ := Prod.mk.inj (Except.ok.inj isView)
      obtain ⟨extras, _, isAdded, isAnswer⟩ := exists_of_outcome_bind added
      obtain ⟨rfl, rfl⟩ := Prod.mk.inj (Except.ok.inj isAnswer)
      obtain ⟨sameLength, each⟩ := Running.outputs_at made
      refine ⟨outputs, extras, ⟨?length, ?each, after, outcome_eq_ok.mp made, ?last⟩, rfl⟩
      case length => rw [sameLength, ← request.map_fst_entries, List.length_map]
      case each =>
        intro index decl isFile
        have isEntry : request.entries[index]? = some (decl, request.httpRulesAt index) := by
          simp [CodeRequest.entries, isFile]
        obtain ⟨before, output?, next, taken, written, isOutput⟩ := each index _ _ isEntry
        exact ⟨before, output?, outcome_eq_ok.mp taken, isOutput, Running.file_writesFor written⟩
      case last =>
        rw [Running.outcome_generating] at isAdded
        obtain ⟨answer, adds, isLast⟩ := exists_of_bind_eq_ok isAdded
        cases isLast
        exact outcome_eq_ok.mp adds

end

/-! ## Channels -/

section

variable {ω : Type} {transport : Transport (EStateM Error ω)} {written : ω → Bytes} {input : Bytes}
  {start : ω}

/-- A channel that does not fail, with the bytes that it has taken so far in each of its states.
It gives the input when it is read at the start.  Whenever it is to write some bytes, it takes one
of them at least. -/
structure Transport.Works (transport : Transport (EStateM Error ω)) (written : ω → Bytes)
    (input : Bytes) (start : ω) : Prop where
  reads : ∃ after, transport.readAll start = .ok input after ∧ written after = written start
  writes : ∀ bytes state, bytes ≠ [] →
    ∃ taken after, transport.write bytes state = .ok taken after ∧
      0 < taken ∧ taken ≤ bytes.length ∧ written after = written state ++ bytes.take taken
  flushes : ∀ state, ∃ after, transport.flush state = .ok () after ∧ written after = written state

/-- The induction is on the length of what is left to write. -/
theorem writeAll_of_works (works : transport.Works written input start) (bytes : Bytes)
    (state : ω) :
    ∃ after, writeAll transport bytes state = .ok () after ∧
      written after = written state ++ bytes := by
  induction length : bytes.length using Nat.strongRecOn generalizing bytes state with
  | ind size ih =>
      rw [writeAll]
      by_cases empty : bytes = []
      · rw [dif_pos empty, empty, List.append_nil]
        exact ⟨state, rfl, rfl⟩
      · obtain ⟨taken, middle, wrote, some, fits, grows⟩ := works.writes bytes state empty
        have shorter : (bytes.drop taken).length < size := by
          rw [List.length_drop]
          omega
        obtain ⟨after, wroteRest, all⟩ := ih _ shorter (bytes.drop taken) middle rfl
        refine ⟨after, ?_, ?_⟩
        · rw [dif_neg empty]
          simp only [Bind.bind, EStateM.bind, wrote, dif_neg (Nat.ne_of_gt some), wroteRest]
        · rw [all, grows, List.append_assoc, List.take_append_drop]

variable {σ : Type} {generator : Generator σ} {initial : σ}

theorem respond_eq {request : CodeRequest} (decoded : CodeRequest.decode input = .ok request) :
    respond generator initial input =
      match generator.run request initial with
      | .ok files _ => .ok (encodeResponse files)
      | .error error _ => .error error := by
  rw [respond, decoded]
  rfl

theorem respond_eq_error {error : Error} (fails : respond generator initial input = .error error) :
    CodeRequest.decode input = .error error ∨
      ∃ request final, CodeRequest.decode input = .ok request ∧
        generator.run request initial = .error error final := by
  cases decoded : CodeRequest.decode input with
  | error found =>
      rw [respond, decoded] at fails
      cases fails
      exact .inl rfl
  | ok request =>
      rw [respond_eq decoded] at fails
      cases ran : generator.run request initial with
      | ok files final =>
          rw [ran] at fails
          cases fails
      | error found final =>
          rw [ran] at fails
          cases fails
          exact .inr ⟨request, final, rfl, ran⟩

theorem respond_eq_ok {response : Bytes}
    (succeeds : respond generator initial input = .ok response) :
    ∃ request files final, CodeRequest.decode input = .ok request ∧
      generator.run request initial = .ok files final ∧ response = encodeResponse files := by
  obtain ⟨request, decoded, -⟩ := exists_of_bind_eq_ok succeeds
  rw [respond_eq decoded] at succeeds
  cases ran : generator.run request initial with
  | ok files final =>
      rw [ran] at succeeds
      exact ⟨request, files, final, decoded, ran, (Except.ok.inj succeeds).symm⟩
  | error error final =>
      rw [ran] at succeeds
      cases succeeds

/-- Where there is no response, the exchange ends with the reading of the request. -/
theorem serve_of_error (works : transport.Works written input start) {error : Error}
    (fails : respond generator initial input = .error error) :
    ∃ final, serve transport generator initial start = .error error final ∧
      written final = written start := by
  obtain ⟨final, read, untouched⟩ := works.reads
  refine ⟨final, ?_, untouched⟩
  simp only [serve, Bind.bind, EStateM.bind, read, fails]
  rfl

theorem serve_of_ok (works : transport.Works written input start) {response : Bytes}
    (succeeds : respond generator initial input = .ok response) :
    ∃ after, serve transport generator initial start = .ok () after ∧
      written after = written start ++ response := by
  obtain ⟨opened, read, untouched⟩ := works.reads
  obtain ⟨filled, wrote, all⟩ := writeAll_of_works works response opened
  obtain ⟨after, flushed, settled⟩ := works.flushes filled
  refine ⟨after, ?_, by rw [settled, all, untouched]⟩
  simp only [serve, Bind.bind, EStateM.bind, read, succeeds, wrote]
  exact flushed

end

/-! ## Whole exchanges -/

/-- On a channel that works, a plugin either fails and has written nothing, or it writes a response.
What it writes is read as just the files that its generator answers with to the decoded request, if
a machine can hold as many bytes.  These are, in order, one file under the path of its companion for
each file of the request that the generator does not skip, and the files that belong to none.  The
path and the text of a companion are made of what the generator answers when it is asked about that
file. -/
theorem served_whole_or_not_at_all {σ ω : Type} {transport : Transport (EStateM Error ω)}
    {written : ω → Bytes} {input : Bytes} {start : ω}
    (works : transport.Works written input start) (generator : Generator σ) (initial : σ) :
    (∃ error final,
      serve transport generator initial start = .error error final ∧
        written final = written start ∧
        (CodeRequest.decode input = .error error ∨
          ∃ request state, CodeRequest.decode input = .ok request ∧
            generator.run request initial = .error error state)) ∨
      ∃ request files final after,
        CodeRequest.decode input = .ok request ∧
          generator.run request initial = .ok files final ∧
          serve transport generator initial start = .ok () after ∧
          written after = written start ++ encodeResponse files ∧
          ((encodeResponse files).length < 2 ^ 64 →
            decodeResponse? (encodeResponse files) = some (.ofFiles files)) ∧
          ∃ outputs extras, generator.Composes initial request outputs extras final ∧
            files = outputs.flatMap Option.toList ++ extras := by
  cases answer : respond generator initial input with
  | error error =>
      obtain ⟨final, failed, untouched⟩ := serve_of_error works answer
      exact .inl ⟨error, final, failed, untouched, respond_eq_error answer⟩
  | ok response =>
      obtain ⟨after, served, sent⟩ := serve_of_ok works answer
      obtain ⟨request, files, final, decoded, ran, rfl⟩ := respond_eq_ok answer
      exact .inr ⟨request, files, final, after, decoded, ran, served, sent,
        decodeResponse?_encodeResponse, Generator.exists_of_run_ok ran⟩

/-- A pipe with the bytes that went into it and those that came out of it. -/
structure Pipe where
  input : Bytes
  output : Bytes := []

/-- A pipe takes three bytes at a time. -/
def Pipe.transport : Transport (EStateM Error Pipe) where
  readAll := fun pipe => .ok pipe.input { pipe with input := [] }
  write := fun bytes pipe =>
    .ok (min 3 bytes.length) { pipe with output := pipe.output ++ bytes.take 3 }
  flush := fun pipe => .ok () pipe

theorem Pipe.works (pipe : Pipe) : Pipe.transport.Works Pipe.output pipe.input pipe where
  reads := ⟨_, rfl, rfl⟩
  writes := by
    intro bytes pipe nonempty
    have some : 0 < bytes.length := List.length_pos_iff.mpr nonempty
    refine ⟨min 3 bytes.length, _, rfl, by omega, Nat.min_le_right _ _, ?_⟩
    rw [← List.take_eq_take_min]
  flushes := fun pipe => ⟨pipe, rfl, rfl⟩

/-- A request for two files, of which the second one is empty. -/
def twoFileRequest : Bytes :=
  Wire.writeDelimited 15 (Wire.writeDelimited 1 (encodeText "item.proto") ++
      Wire.writeDelimited 2 (encodeText "shop") ++
      Wire.writeDelimited 4 (Wire.writeDelimited 1 (encodeText "Item"))) ++
    Wire.writeDelimited 15 (Wire.writeDelimited 1 (encodeText "empty.proto"))

/-- A generator that counts the files and the declarations it is asked about, and skips one of the
files.  The count is in the heads of companions and at the end of their names. -/
def countingGenerator : Generator Nat where
  pluginName := return "count " ++ toString (← get)
  imports := return ""
  companionClass := fun javaClass => do
    modify (· + 1)
    return javaClass ++ "Count"
  skips := fun decl => return decl.name = "empty.proto"
  code := fun _ _ => do
    modify (· + 1)
    return none
  extraFiles := fun _ => return [{ name? := "count.txt", content? := toString (← get) }]
  extension := return "." ++ toString (← get) ++ ".java"
  finish := fun source => return .ok ((Text.lines source).headD "")

/-- The files that this generator answers with. -/
def countedFiles : List OutputFile := [
  { name? := "shop/ItemCount.2.java"
    content? := "// Generated by the count 1 plugin. DO NOT EDIT!" },
  { name? := "count.txt", content? := "3" }]

/-- The head of a companion is asked for before its code is, and the end of its name after it.  The
second file is skipped, but counted.  A request that is cut short is not answered. -/
theorem counts_served_through_pipe :
    (∃ after,
      serve Pipe.transport countingGenerator 0 ⟨twoFileRequest, []⟩ = .ok () after ∧
        decodeResponse? after.output = some (.ofFiles countedFiles)) ∧
      ∃ error final,
        serve Pipe.transport countingGenerator 0 ⟨twoFileRequest.dropLast, []⟩ =
            .error error final ∧
          final.output = [] := by
  have answer : (CodeRequest.decode twoFileRequest).toOption.map (fun request =>
      match countingGenerator.run request 0 with
      | .ok files _ => (files, decide ((encodeResponse files).length < 2 ^ 64))
      | .error _ _ => ([], false)) = some (countedFiles, true) := by
    decide +kernel
  have refused : (CodeRequest.decode twoFileRequest.dropLast).toOption.isNone := by
    decide +kernel
  constructor
  · rcases served_whole_or_not_at_all (Pipe.works ⟨twoFileRequest, []⟩) countingGenerator 0 with
      ⟨error, final, -, -, failed | ⟨request, state, decoded, failed⟩⟩ |
      ⟨request, files, final, after, decoded, ran, served, sent, readBack, -⟩
    · simp [failed, Except.toOption] at answer
    · simp [decoded, failed, Except.toOption] at answer
    · simp only [decoded, ran, Except.toOption, Option.map_some, Option.some.injEq,
        Prod.mk.injEq] at answer
      obtain ⟨rfl, short⟩ := answer
      refine ⟨after, served, ?_⟩
      rw [sent]
      exact readBack (of_decide_eq_true short)
  · rcases served_whole_or_not_at_all (Pipe.works ⟨twoFileRequest.dropLast, []⟩) countingGenerator 0
      with ⟨error, final, failed, untouched, -⟩ | ⟨request, files, final, after, decoded, -⟩
    · exact ⟨error, final, failed, untouched⟩
    · simp [decoded, Except.toOption] at refused

end ProtoCompanion
