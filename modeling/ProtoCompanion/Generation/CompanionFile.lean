/-
Module: ProtoCompanion.Generation.CompanionFile
Purpose: The layout of a generated Java file.
Main exports: CompanionFile, CompanionFile.render, indentLine
-/
import ProtoCompanion.Text.Split

namespace ProtoCompanion

/-- The parts of a generated file: what its head says, and the blocks of code for the top-level
declarations of the source file. -/
structure CompanionFile where
  pluginName : String := ""
  imports : String := ""
  sourceName : String := ""
  package : String := ""
  className : String := ""
  messageCode : List String := []
  enumCode : List String := []
  serviceCode : List String := []
deriving Repr, DecidableEq, Inhabited

/-- A line one level deeper.  Blank lines become empty. -/
def indentLine (line : String) : String :=
  if Text.isBlankText line then "" else "    " ++ line

namespace CompanionFile

/-- The blocks of code, in the order in which they are written. -/
def blocks (file : CompanionFile) : List String :=
  file.messageCode ++ file.enumCode ++ file.serviceCode

/-- The comment at the top, the package unless it is the unnamed one, and the imports if there are
any. -/
def headLines (file : CompanionFile) : List String :=
  ["// Generated by the " ++ file.pluginName ++ " plugin. DO NOT EDIT!",
    "// source: " ++ file.sourceName, ""] ++
  (if file.package = "" then [] else ["package " ++ file.package ++ ";", ""]) ++
  (if Text.isBlankText file.imports then [] else [Text.trimEnd file.imports, ""])

/-- A block inside the class: an empty line, and the lines of the block up to its last one that is
not blank. -/
def blockLines (block : String) : List String :=
  "" :: (Text.lines (Text.trimEnd block)).map indentLine

/-- The wrapper class, which cannot be instantiated, around all blocks. -/
def classLines (file : CompanionFile) : List String :=
  ["public final class " ++ file.className ++ " \x7b",
    "    private " ++ file.className ++ "() \x7b\x7d"] ++
  file.blocks.flatMap blockLines ++ ["\x7d"]

/-- The text of the file; every line is ended by a line feed. -/
def render (file : CompanionFile) : String :=
  String.join ((file.headLines ++ file.classLines).map (· ++ "\n"))

end CompanionFile

end ProtoCompanion
