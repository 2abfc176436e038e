/-
Module: ProtoCompanion.Generation.Run
Purpose: The run of a generator over the files of a request.
Main exports: RunState, Running, Running.file, Running.files, Generator.runIn, Generator.run
-/
import ProtoCompanion.Generation.CompanionFile
import ProtoCompanion.Generation.Generator
import ProtoCompanion.Registry.Registration

/-!
protoc lists a file after the files that it refers to.  So each file can be registered and
generated in one pass: what it refers to is in the registry by then.
-/

namespace ProtoCompanion

variable {σ : Type}

/-- The registry of a run and the state of its generator. -/
structure RunState (σ : Type) where
  registry : Registry
  generator : σ

/-- Steps of a run.  What was registered stays, also when a step fails. -/
abbrev Running (σ : Type) : Type → Type := EStateM Error (RunState σ)

namespace Generator

/-! ## The companion of a file -/

/-- The code of declarations, in order, as far as the generator has any for them. -/
def codes (generator : Generator σ) (view : RunView) :
    List Descriptor → Generating σ (List String)
  | [] => return []
  | descriptor :: rest => do
      let code? ← generator.code view descriptor
      let others ← generator.codes view rest
      return code?.toList ++ others

/-- The parts of the companion of a file that has been registered.  The generator is asked for the
head before it is asked for any code. -/
def parts (generator : Generator σ) (view : RunView) (unit : FileUnit)
    (declarations : TopLevel) : Generating σ CompanionFile := do
  let pluginName ← modifyGet generator.pluginName.run
  let imports ← modifyGet generator.imports.run
  let messageCode ← generator.codes view declarations.messages
  let enumCode ← generator.codes view declarations.enums
  let serviceCode ← generator.codes view declarations.services
  return {
    pluginName, imports
    sourceName := unit.fileName
    package := unit.outputPackage
    className := unit.outerClass.companionClass
    messageCode, enumCode, serviceCode }

end Generator

namespace Running

/-! ## Steps on one half of the state -/

/-- A step of registration. -/
def registering {α : Type} (step : EStateM Error Registry α) : Running σ α := fun state =>
  match step state.registry with
  | .ok value registry => .ok value { state with registry }
  | .error error registry => .error error { state with registry }

/-- A step of the generator. -/
def generating {α : Type} (step : Generating σ α) : Running σ α := fun state =>
  match step state.generator with
  | .ok value generator => .ok value { state with generator }
  | .error error generator => .error error { state with generator }

/-- A step of the generator that cannot fail. -/
def asking {α : Type} (step : StateM σ α) : Running σ α := fun state =>
  let (value, generator) := step.run state.generator
  .ok value { state with generator }

/-! ## Files -/

/-- What the generator has to say about a file before it is opened. -/
def settings (generator : Generator σ) (sharedPackage? : Option String) (decl : FileDecl)
    (httpRules : HttpRuleTable) : Running σ UnitSettings := do
  let companionClass ← asking (generator.companionClass decl.outerClassName)
  let style ← asking (generator.style sharedPackage?)
  return { companionClass, httpRules, style, sharedPackage? }

/-- What the generator can see of the run at this moment. -/
def view (sharedPackage? : Option String) (parameters : Parameters) : Running σ RunView := do
  return { registry := (← get).registry, sharedPackage?, parameters }

/-- Generate the companion of a file that has been registered.  The end of its name is asked for
when all of its code has been generated. -/
def companion (generator : Generator σ) (view : RunView) (unit : FileUnit)
    (declarations : TopLevel) : Running σ OutputFile := do
  let parts ← generating (generator.parts view unit declarations)
  let name := unit.outputPath (← asking generator.extension)
  let source := parts.render
  match ← asking (generator.finish source) with
  | .ok content => return { name? := name, content? := content }
  | .error report => throw (.unformatted name source report)

/-- Register a file and, unless the generator skips it, generate its companion. -/
def file (generator : Generator σ) (sharedPackage? : Option String) (parameters : Parameters)
    (decl : FileDecl) (httpRules : HttpRuleTable) : Running σ (Option OutputFile) := do
  let settings ← settings generator sharedPackage? decl httpRules
  let (unit, declarations) ← registering (registerFile decl settings)
  if ← asking (generator.skips decl) then
    return none
  else
    let view ← view sharedPackage? parameters
    some <$> companion generator view unit declarations

/-- Register and generate the files of a request, of which the first has a given index. -/
def files (generator : Generator σ) (request : CodeRequest) (sharedPackage? : Option String)
    (index : Nat) : List FileDecl → Running σ (List OutputFile)
  | [] => return []
  | decl :: rest => do
      let output? ←
        file generator sharedPackage? request.parameters decl (request.httpRulesAt index)
      let others ← files generator request sharedPackage? (index + 1) rest
      return output?.toList ++ others

end Running

/-! ## Requests -/

/-- The files that answer a request, with the declarations of a registry at hand. -/
def Generator.runIn (generator : Generator σ) (request : CodeRequest) :
    Running σ (List OutputFile) := do
  let shared? := sharedPackage? request.files
  let outputs ← Running.files generator request shared? 0 request.files
  let view ← Running.view shared? request.parameters
  let extras ← Running.generating (generator.extraFiles view)
  return outputs ++ extras

/-- The files that answer a request, with an empty registry to start from. -/
def Generator.run (generator : Generator σ) (request : CodeRequest) :
    Generating σ (List OutputFile) := fun initial =>
  match generator.runIn request { registry := {}, generator := initial } with
  | .ok files state => .ok files state.generator
  | .error error state => .error error state.generator

end ProtoCompanion
