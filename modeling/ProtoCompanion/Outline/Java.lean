/-
Module: ProtoCompanion.Outline.Java
Purpose: The pieces of Java that an outline is made of.
Main exports: Outline.stringConstant, Outline.classBlock, Outline.nest
-/
import ProtoCompanion.Generation.CompanionFile

namespace ProtoCompanion.Outline

/-- The lines of a text one level deeper, without a final line feed. -/
def nest (code : String) : String :=
  "\n".intercalate ((Text.lines code).map indentLine)

/-- The declaration of a constant with a type. -/
def constantDecl (type name value : String) : String :=
  "public static final " ++ type ++ " " ++ name ++ " = " ++ value ++ ";\n"

/-- The declaration of a string constant. -/
def stringConstant (name value : String) : String := constantDecl "String" name value

/-- A class that cannot be instantiated. -/
def classBlock (declaration name body : String) : String :=
  declaration ++ " " ++ name ++ " \x7b\n    private " ++ name ++ "() \x7b\x7d\n\n" ++
    nest (Text.trimEnd body) ++ "\n\x7d"

end ProtoCompanion.Outline
