/-
Module: ProtoCompanion.Registry.FileUnit
Purpose: What all declarations of one file have in common.
Main exports: FileUnit, UnitSettings, FileUnit.outputPath
-/
import ProtoCompanion.Naming.OuterClass
import ProtoCompanion.Naming.Qualified
import ProtoCompanion.Schema.HttpRule

namespace ProtoCompanion

open Naming (NameStyle)

/-- What a generator adds to the contents of a file. -/
structure UnitSettings where
  companionClass : String
  httpRules : HttpRuleTable := {}
  style : NameStyle := id
  sharedPackage? : Option String := none

/-- A file that was opened for registration.  Each time a file is opened it gets an identity of its
own, which tells its declarations from those of the other files. -/
structure FileUnit where
  identity : Nat
  fileName : String
  schemaPackage : String
  outputPackage : String
  outerClass : OuterClass
  comments : CommentTable
  dialect : Dialect
  httpRules : HttpRuleTable
  style : NameStyle
  sharedPackage? : Option String

namespace FileUnit

/-- The unit of a file under an identity. -/
def ofFile (identity : Nat) (file : FileDecl) (settings : UnitSettings) : FileUnit where
  identity := identity
  fileName := file.name
  schemaPackage := file.package
  outputPackage := file.outputPackage
  outerClass := .ofFile file settings.companionClass
  comments := .ofSourceInfo file.sourceInfo?
  dialect := file.dialect
  httpRules := settings.httpRules
  style := settings.style
  sharedPackage? := settings.sharedPackage?

/-- The comment of the element at a path, as a Java expression. -/
def commentAt (unit : FileUnit) (path : LocationPath) : String :=
  commentExpression (unit.comments.get? path)

/-- The file that the companion code of a unit is written to: the wrapper class, in the
directory of the output package. -/
def outputPath (unit : FileUnit) (extension : String) : String :=
  let classFile := unit.outerClass.companionClass ++ extension
  if unit.outputPackage = "" then classFile
  else Naming.directory unit.outputPackage ++ "/" ++ classFile

end FileUnit

end ProtoCompanion
