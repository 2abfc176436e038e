/-
Module: ProtoCompanion.Generation.Request
Purpose: What a run is asked for, and what it answers with.
Main exports: CodeRequest, OutputFile, sharedPackage?
-/
import ProtoCompanion.Generation.Parameters
import ProtoCompanion.Schema.HttpRule

namespace ProtoCompanion

/-- A run's request: the files that protoc loaded, each after the files that it refers to, and the
options of the run.  The HTTP rules of a file stand at the same place of their list as the file. -/
structure CodeRequest where
  filesToGenerate : List String := []
  parameter? : Option String := none
  files : List FileDecl := []
  httpRules : List HttpRuleTable := []

namespace CodeRequest

/-- The options of the run. -/
def parameters (request : CodeRequest) : Parameters :=
  .parse (request.parameter?.getD "")

/-- The HTTP rules of the file at an index; a file without rules has none. -/
def httpRulesAt (request : CodeRequest) (index : Nat) : HttpRuleTable :=
  request.httpRules[index]?.getD {}

end CodeRequest

/-- A file to be written by protoc. -/
structure OutputFile where
  name? : Option String := none
  content? : Option String := none
deriving Repr, DecidableEq, Inhabited

/-! ## The package shared by all files -/

/-- The longest initial part that two lists have in common. -/
def commonInitial {α : Type} [DecidableEq α] : List α → List α → List α
  | x :: xs, y :: ys => if x = y then x :: commonInitial xs ys else []
  | _, _ => []

/-- A text without one final dot. -/
def dropFinalDot (cs : List Char) : List Char :=
  if cs.getLast? = some '.' then cs.dropLast else cs

/-- A file takes part in the choice of the shared package if it names a package of either sort. -/
def FileDecl.namesPackage (file : FileDecl) : Bool :=
  file.javaPackage?.isSome || file.package?.isSome

/-- Narrow what is shared so far by one more package. -/
def narrow (shared? : Option (List Char)) (package : List Char) : List Char :=
  dropFinalDot (match shared? with
    | some shared => commonInitial shared package
    | none => package)

/-- The longest initial part shared by the output packages of all files that name a package,
without a final dot.  It is taken character by character. -/
def sharedPackage? (files : List FileDecl) : Option String :=
  (files.foldl (fun shared? file =>
    if file.namesPackage then some (narrow shared? file.outputPackage.toList) else shared?)
    none).map String.ofList

end ProtoCompanion
