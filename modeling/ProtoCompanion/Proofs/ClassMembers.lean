/-
Module: ProtoCompanion.Proofs.ClassMembers
Purpose: The classes of messages and services as lists of their members.
Main exports: Outline.Member, Outline.classOf, Outline.messageMembers, Outline.serviceMembers,
  Outline.code_message, Outline.serviceCode_eq
-/
import ProtoCompanion.Outline.Code

/-!
The code of a class is put together as text.  The members that this text consists of are listed
here, with the comments and the empty lines between them, so that the names of the constants and
the texts of the comments can be spoken of.
-/

namespace ProtoCompanion.Outline

open Naming (shoutySnake)

/-! ## Members -/

/-- A comment on what stands below it. -/
def javadoc (said : String) : String := "/** " ++ said ++ ". */"

/-- What the body of a class consists of. -/
inductive Member where
  | constant (name value : String)
  | comment (said : String)
  | emptyLine
  | nested (code : String)
deriving Repr, DecidableEq, Inhabited

namespace Member

/-- The code of a member, up to the end of its line. -/
def code : Member → String
  | constant name value => stringConstant name value
  | comment said => javadoc said ++ "\n"
  | emptyLine => "\n"
  | nested code => code ++ "\n"

def constantName? : Member → Option String
  | constant name _ => some name
  | _ => none

def javadoc? : Member → Option String
  | comment said => some (javadoc said)
  | _ => none

end Member

/-- The body of a class with some members. -/
def bodyOf (members : List Member) : String := String.join (members.map Member.code)

/-- The class with a name and some members. -/
def classOf (name : String) (members : List Member) : String :=
  classBlock "public static final class" name (bodyOf members)

/-- The names of the constants among some members. -/
def constantNames (members : List Member) : List String := members.filterMap Member.constantName?

/-- The comments among some members. -/
def comments (members : List Member) : List String := members.filterMap Member.javadoc?

section

variable (member : Member) (members others : List Member)

@[simp] theorem bodyOf_nil : bodyOf [] = "" := rfl

@[simp] theorem bodyOf_cons : bodyOf (member :: members) = member.code ++ bodyOf members := by
  rw [bodyOf, List.map_cons, String.join_cons, bodyOf]

@[simp] theorem bodyOf_append : bodyOf (members ++ others) = bodyOf members ++ bodyOf others := by
  rw [bodyOf, List.map_append, String.join_append, bodyOf, bodyOf]

theorem bodyOf_flatten (parts : List (List Member)) :
    bodyOf parts.flatten = String.join (parts.map bodyOf) := by
  induction parts with
  | nil => rfl
  | cons part parts ih =>
      rw [List.flatten_cons, bodyOf_append, ih, List.map_cons, String.join_cons]

theorem constantNames_append :
    constantNames (members ++ others) = constantNames members ++ constantNames others :=
  List.filterMap_append

theorem comments_append : comments (members ++ others) = comments members ++ comments others :=
  List.filterMap_append

end

/-! ## Members of messages -/

variable (registry : Registry)

def fieldMembers (field : FieldDescriptor) : Except Error (List Member) := do
  let type ← field.javaType registry
  return [
    .emptyLine,
    .comment (type.display ++ " " ++ field.name ++ ", field " ++ toString field.decl.number),
    .constant (shoutySnake field.name) (Text.quote field.name),
    .constant (shoutySnake field.name ++ "_COMMENT") field.comment]

def oneofMembers (oneof : OneofDescriptor) : List Member :=
  [ .emptyLine,
    .comment ("Oneof " ++ oneof.symbol.name ++ ", index " ++ toString oneof.index),
    .constant (shoutySnake oneof.symbol.name ++ "_CASE_CLASS")
      (Text.quote (registry.javaName (.oneof oneof) ++ "Case")),
    .constant (shoutySnake oneof.symbol.name ++ "_COMMENT") oneof.comment]

/-- A oneof adds its own constants to the class of its message, and every other child a class. -/
def childMembers : Descriptor → Except Error (List Member)
  | .oneof oneof => return oneofMembers registry oneof
  | child => return [.emptyLine, .nested (← code registry child)]

/-- The constants that name a declaration, and its comment. -/
def nameMembers (symbol : Symbol) (comment : String) : List Member :=
  [ .constant "PROTO_NAME" (Text.quote symbol.schemaName),
    .constant "ORIGINAL_CLASS" (Text.quote (registry.symbolClass symbol)),
    .constant "COMMENT" comment]

def messageMembers (message : MessageDescriptor) (children : List Descriptor) :
    Except Error (List Member) := do
  let fields ← message.fields.mapM (fieldMembers registry)
  let nested ← children.mapM (childMembers registry)
  return nameMembers registry message.symbol message.comment ++ fields.flatten ++ nested.flatten

/-! ## Their code -/

theorem code_constant (name value : String) :
    (Member.constant name value).code = stringConstant name value := rfl

theorem code_emptyLine : Member.emptyLine.code = "\n" := rfl

theorem code_comment (said rest : String) :
    (Member.comment said).code ++ rest = "/** " ++ (said ++ (". */\n" ++ rest)) := by
  have ending : ". */\n" = ". */" ++ "\n" := rfl
  rw [Member.code, javadoc, ending]
  simp only [String.append_assoc]

theorem fieldCode_eq (field : FieldDescriptor) :
    fieldCode registry field = bodyOf <$> fieldMembers registry field := by
  have opening : "\n/** " = "\n" ++ "/** " := rfl
  rw [fieldCode, fieldMembers]
  cases field.javaType registry with
  | error error => rfl
  | ok type =>
      apply congrArg Except.ok
      simp only [bodyOf_cons, bodyOf_nil, code_emptyLine, code_comment, code_constant, opening,
        String.append_assoc, String.append_empty]

/-- The constants of a oneof end with their line, which is what is trimmed off them. -/
theorem trimEnd_append_stringConstant (text name value : String) :
    Text.trimEnd (text ++ stringConstant name value) ++ "\n" =
      text ++ stringConstant name value := by
  obtain ⟨line, isLine⟩ : ∃ line, stringConstant name value = line ++ ";\n" := ⟨_, rfl⟩
  have ended : (text ++ line ++ ";\n").toList = (text ++ line ++ ";").toList ++ ['\n'] := by simp
  have kept : ∀ c ∈ (text ++ line ++ ";").toList.getLast?, isBlank c = false := by
    have last : (text ++ line ++ ";").toList.getLast? = some ';' := by simp
    rw [last]
    rintro c ⟨⟩
    decide
  have trimmed : Text.trimEnd (text ++ line ++ ";\n") = text ++ line ++ ";" := by
    have dropped : ∀ c ∈ ['\n'], isBlank c = true := List.forall_mem_singleton.mpr (by decide)
    rw [Text.trimEnd, Text.onChars, ended, stripEnd_append_of_all dropped, stripEnd_eq_self kept,
      String.ofList_toList]
  have ending : ";\n" = ";" ++ "\n" := rfl
  rw [isLine, ← String.append_assoc, trimmed, ending]
  simp only [String.append_assoc]

theorem oneofCode_eq (oneof : OneofDescriptor) :
    "\n" ++ (oneofCode registry oneof ++ "\n") = bodyOf (oneofMembers registry oneof) := by
  have opening : "/** Oneof " = "/** " ++ "Oneof " := rfl
  rw [oneofCode, trimEnd_append_stringConstant]
  simp only [oneofMembers, bodyOf_cons, bodyOf_nil, code_emptyLine, code_comment, code_constant,
    opening, String.append_assoc, String.append_empty]

theorem childMembers_of_ne {child : Descriptor} (other : child.kind ≠ .oneof) :
    childMembers registry child = do
      return [.emptyLine, .nested (← code registry child)] := by
  cases child with
  | oneof oneof => exact absurd rfl other
  | _ => rfl

theorem childCode_eq (child : Descriptor) :
    (fun text => "\n" ++ (text ++ "\n")) <$> code registry child =
      bodyOf <$> childMembers registry child := by
  cases child with
  | oneof oneof =>
      rw [code, childMembers]
      exact congrArg Except.ok (oneofCode_eq registry oneof)
  | _ =>
      rw [childMembers_of_ne]
      · generalize code registry _ = result
        cases result <;> rfl
      · simp [Descriptor.kind]

theorem mapM_map_eq {α β γ : Type} (f : α → Except Error β) (g : β → γ) (xs : List α) :
    xs.mapM (fun x => g <$> f x) = List.map g <$> xs.mapM f := by
  induction xs with
  | nil => rfl
  | cons x xs ih =>
      rw [List.mapM_cons, List.mapM_cons, ih]
      cases f x with
      | error error => rfl
      | ok first => cases xs.mapM f <;> rfl

theorem childrenCode_eq (children : List Descriptor) :
    childrenCode registry children =
      (fun members => bodyOf members.flatten) <$> children.mapM (childMembers registry) := by
  induction children with
  | nil => rfl
  | cons child rest ih =>
      rw [childrenCode, ih, List.mapM_cons]
      have first := childCode_eq registry child
      cases text : code registry child <;> cases members : childMembers registry child <;>
        rw [text, members] at first
      · rw [Except.error.inj first]
        rfl
      · cases first
      · cases first
      · have own := Except.ok.inj first
        cases rest.mapM (childMembers registry) with
        | error error => rfl
        | ok others =>
            apply congrArg Except.ok
            simp only [String.append_assoc]
            rw [List.flatten_cons, bodyOf_append, ← own]
            simp only [String.append_assoc]

theorem nameConstants_append_comment (symbol : Symbol) (comment : String) :
    nameConstants registry symbol ++ stringConstant "COMMENT" comment =
      bodyOf (nameMembers registry symbol comment) := by
  simp only [nameConstants, nameMembers, bodyOf_cons, bodyOf_nil, code_constant,
    String.append_assoc, String.append_empty]

/-- The code of a message is the class with its members. -/
theorem code_message (message : MessageDescriptor) (children : List Descriptor) :
    code registry (.message message children) =
      classOf message.symbol.name <$> messageMembers registry message children := by
  rw [code, messageMembers, funext (fieldCode_eq registry), mapM_map_eq, childrenCode_eq,
    nameConstants_append_comment]
  cases message.fields.mapM (fieldMembers registry) with
  | error error => rfl
  | ok fields =>
      cases children.mapM (childMembers registry) with
      | error error => rfl
      | ok nested =>
          have whole : bodyOf (nameMembers registry message.symbol message.comment ++
              fields.flatten ++ nested.flatten) =
              bodyOf (nameMembers registry message.symbol message.comment) ++
                String.join (fields.map bodyOf) ++ bodyOf nested.flatten := by
            rw [bodyOf_append, bodyOf_append, bodyOf_flatten]
          exact congrArg (Except.ok ∘ classBlock _ _) whole.symm

/-! ## Members of services -/

/-- What the comment on a method says: its types, its streaming kind and its HTTP binding. -/
def methodSummary (method : MethodDescriptor) : String :=
  registry.symbolClass method.input.symbol ++ " to " ++
    registry.symbolClass method.output.symbol ++ ", " ++ method.streaming.name ++
    match method.httpRule?.bind HttpRule.verbAndTemplate? with
    | some (verb, template) => ", " ++ verb ++ " " ++ template
    | none => ""

def methodMembers (service : ServiceDescriptor) (method : MethodDescriptor) : List Member :=
  [ .emptyLine,
    .comment (methodSummary registry method),
    .constant (shoutySnake method.name)
      (Text.quote ("/" ++ service.symbol.schemaName ++ "/" ++ method.name)),
    .constant (shoutySnake method.name ++ "_COMMENT") method.comment]

def serviceMembers (service : ServiceDescriptor) : List Member :=
  [ .constant "PROTO_NAME" (Text.quote service.symbol.schemaName),
    .constant "COMMENT" service.comment] ++
    service.methods.flatMap (methodMembers registry service)

theorem methodCode_eq (service : ServiceDescriptor) (method : MethodDescriptor) :
    methodCode registry service method = bodyOf (methodMembers registry service method) := by
  have summary : methodComment registry method =
      "/** " ++ (methodSummary registry method ++ ". */\n") := by
    rw [methodComment, methodSummary]
    cases method.httpRule?.bind HttpRule.verbAndTemplate? <;> simp only [String.append_assoc]
  simp only [methodCode, summary, methodMembers, bodyOf_cons, bodyOf_nil, code_emptyLine,
    code_comment, code_constant, String.append_assoc, String.append_empty]

/-- The code of a service is the class with its members. -/
theorem serviceCode_eq (service : ServiceDescriptor) :
    serviceCode registry service =
      classOf service.symbol.name (serviceMembers registry service) := by
  have methods : String.join (service.methods.map (methodCode registry service)) =
      bodyOf (service.methods.flatMap (methodMembers registry service)) := by
    rw [List.flatMap_def, bodyOf_flatten, List.map_map, funext (methodCode_eq registry service)]
    rfl
  rw [serviceCode, methods, classOf, serviceMembers, bodyOf_append]
  rfl

end ProtoCompanion.Outline
