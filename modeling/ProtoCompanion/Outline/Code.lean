/-
Module: ProtoCompanion.Outline.Code
Purpose: The code that names a declaration: its names, its comment, and those of its parts.
Main exports: Outline.code
-/
import ProtoCompanion.Naming.ShoutySnake
import ProtoCompanion.Outline.Java
import ProtoCompanion.Registry.JavaType

/-!
The outline of a file is a class of string constants.  A message or enum becomes a nested class; a
oneof becomes two constants in the class of its message.
-/

namespace ProtoCompanion.Outline

open Naming (shoutySnake)

/-- The two constants of a field, under a comment that states its type. -/
def fieldCode (registry : Registry) (field : FieldDescriptor) : Except Error String := do
  let type ← field.javaType registry
  return "\n/** " ++ type.display ++ " " ++ field.name ++ ", field " ++
    toString field.decl.number ++ ". */\n" ++
    stringConstant (shoutySnake field.name) (Text.quote field.name) ++
    stringConstant (shoutySnake field.name ++ "_COMMENT") field.comment

/-- The constants that name a declaration and the class protobuf-java has for it. -/
def nameConstants (registry : Registry) (symbol : Symbol) : String :=
  stringConstant "PROTO_NAME" (Text.quote symbol.schemaName) ++
    stringConstant "ORIGINAL_CLASS" (Text.quote (registry.symbolClass symbol))

/-- The class of an enum, which lists its values. -/
def enumCode (registry : Registry) (enum : EnumDescriptor) : String :=
  let values := ", ".intercalate (enum.values.map fun value => Text.quote value.name)
  classBlock "public static final class" enum.symbol.name
    (nameConstants registry enum.symbol ++
      stringConstant "COMMENT" enum.comment ++
      constantDecl "List<String>" "VALUES" ("Arrays.asList(" ++ values ++ ")") ++
      String.join (enum.values.map fun value =>
        stringConstant (shoutySnake value.name ++ "_COMMENT") value.comment))

/-- The constants of a oneof. -/
def oneofCode (registry : Registry) (oneof : OneofDescriptor) : String :=
  let name := shoutySnake oneof.symbol.name
  let caseClass := registry.javaName (.oneof oneof) ++ "Case"
  Text.trimEnd
    ("/** Oneof " ++ oneof.symbol.name ++ ", index " ++ toString oneof.index ++ ". */\n" ++
      stringConstant (name ++ "_CASE_CLASS") (Text.quote caseClass) ++
      stringConstant (name ++ "_COMMENT") oneof.comment)

/-- The comment on a method: its types, its streaming kind, and its HTTP binding if it has one. -/
def methodComment (registry : Registry) (method : MethodDescriptor) : String :=
  let binding :=
    match method.httpRule?.bind HttpRule.verbAndTemplate? with
    | some (verb, template) => ", " ++ verb ++ " " ++ template
    | none => ""
  "/** " ++ registry.symbolClass method.input.symbol ++ " to " ++
    registry.symbolClass method.output.symbol ++ ", " ++ method.streaming.name ++ binding ++
    ". */\n"

/-- The two constants of a method. -/
def methodCode (registry : Registry) (service : ServiceDescriptor) (method : MethodDescriptor) :
    String :=
  "\n" ++ methodComment registry method ++
    stringConstant (shoutySnake method.name)
      (Text.quote ("/" ++ service.symbol.schemaName ++ "/" ++ method.name)) ++
    stringConstant (shoutySnake method.name ++ "_COMMENT") method.comment

/-- The class of a service. -/
def serviceCode (registry : Registry) (service : ServiceDescriptor) : String :=
  classBlock "public static final class" service.symbol.name
    (stringConstant "PROTO_NAME" (Text.quote service.symbol.schemaName) ++
      stringConstant "COMMENT" service.comment ++
      String.join (service.methods.map (methodCode registry service)))

mutual

/-- The code of a declaration.  That of a message holds its fields and then its children. -/
def code (registry : Registry) : Descriptor → Except Error String
  | .message message children => do
      let fields ← message.fields.mapM (fieldCode registry)
      let nested ← childrenCode registry children
      return classBlock "public static final class" message.symbol.name
        (nameConstants registry message.symbol ++ stringConstant "COMMENT" message.comment ++
          String.join fields ++ nested)
  | .enum enum => return enumCode registry enum
  | .oneof oneof => return oneofCode registry oneof
  | .service service => return serviceCode registry service

/-- The code of the children of a message, each after an empty line. -/
def childrenCode (registry : Registry) : List Descriptor → Except Error String
  | [] => return ""
  | child :: rest => do
      let first ← code registry child
      let others ← childrenCode registry rest
      return "\n" ++ first ++ "\n" ++ others

end

end ProtoCompanion.Outline
