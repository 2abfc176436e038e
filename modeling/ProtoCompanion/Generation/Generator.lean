/-
Module: ProtoCompanion.Generation.Generator
Purpose: What a plugin has to say about the code that it generates.
Main exports: Generator, RunView, Generating
-/
import ProtoCompanion.Generation.Request
import ProtoCompanion.Registry.JavaType

namespace ProtoCompanion

open Naming (NameStyle)

/-- What a generator can see of the run: everything registered so far, the package shared by all
files, and the options of the run. -/
structure RunView where
  registry : Registry
  sharedPackage? : Option String
  parameters : Parameters

/-- Steps of a generator with a state, which is kept when a step fails. -/
abbrev Generating (σ : Type) : Type → Type := EStateM Error σ

/-- A generator with a state of type `σ`.  It is asked about every file anew, and each answer may
depend on the state and change it. -/
structure Generator (σ : Type) where
  /-- The name in the head of a generated file. -/
  pluginName : StateM σ String
  /-- The imports of a generated file. -/
  imports : StateM σ String
  /-- The class that wraps the code of a file, made from protobuf-java's outer class. -/
  companionClass : String → StateM σ String
  /-- How names of types are written, given the shared package. -/
  style : Option String → StateM σ NameStyle := fun _ => pure id
  /-- The files that are registered but for which no code is generated. -/
  skips : FileDecl → StateM σ Bool := fun _ => pure false
  /-- The code of a declaration, if there is any.  It is asked for at the top level only, so that
  the code of a message includes as much of its children as the generator wants. -/
  code : RunView → Descriptor → Generating σ (Option String) := fun _ _ => pure none
  /-- Files that belong to no source file.  They are asked for once, at the end. -/
  extraFiles : RunView → Generating σ (List OutputFile) := fun _ => pure []
  /-- The end of the name of a generated file. -/
  extension : StateM σ String := pure ".java"
  /-- The last word on the text of a file, or a report of what is wrong with it. -/
  finish : String → StateM σ (Except String String) := fun source => pure (.ok source)

end ProtoCompanion
