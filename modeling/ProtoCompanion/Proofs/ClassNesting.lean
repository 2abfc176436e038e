/-
Module: ProtoCompanion.Proofs.ClassNesting
Purpose: The code of a message has a class for each message and enum declared in it, one inside the
  other as the declarations are.
Main exports: Outline.lines_classOf, Outline.MakesBlock, MessageDecl.classes,
  Outline.writes_code, classes_of_message_in_preorder
-/
import ProtoCompanion.Proofs.ClassLines
import ProtoCompanion.Proofs.ClassMembers
import ProtoCompanion.Proofs.GeneratedFiles
import ProtoCompanion.Proofs.OneLineNames
import ProtoCompanion.Proofs.ReferenceOrder

/-!
Every member of a class is written as a block: constants and comments open no class, and a nested
declaration opens its own and closes it.  The names in them have no line feeds, so that each stays
on the line where it is written.
-/

namespace ProtoCompanion

namespace Outline

open Naming (shoutySnake)

/-! ## Code that is written as a block -/

/-- A class is read back line by line. -/
theorem lines_classOf {name : String} (isName : OneLine name) {members : List Member}
    {body : List String} (isBody : bodyOf members = unlines body)
    (each : ∀ line ∈ body, IsLine line) {last : String} (isLast : body.getLast? = some last)
    (nonempty : last ≠ "") :
    Text.lines (classOf name members) = classLines "public static final class" name body := by
  have written := classBlock_eq_unlines "public static final class" name each isLast nonempty
  rw [← isBody] at written
  apply Text.lines_of_append_lineFeed (isLine_classLines (by decide) isName each) _ written
  rw [classLines, List.getLast?_concat]
  rintro line ⟨⟩
  decide

/-- If members are made, their code is written as a block. -/
def MakesBlock (made : Except Error (List Member)) (classes : List (Nat × String)) : Prop :=
  ∀ members, made = .ok members → Writes (bodyOf members) classes

/-! ### Constants and comments -/

section

variable {name value : String}

theorem stringConstant_ne_empty (name value : String) : stringConstant name value ≠ "" := by
  delta stringConstant constantDecl
  simp

theorem writes_constantDecl {type : String} (deciding : Deciding ("public static final " ++ type))
    (isType : OneLine type) (isName : OneLine name) (isValue : OneLine value) :
    Writes (constantDecl type name value) [] := by
  have modifiers : OneLine "public static final " := by decide +kernel
  have equals : OneLine " = " := by decide
  have start : OneLine ("public static final " ++ type) :=
    oneLine_append_iff.mpr ⟨modifiers, isType⟩
  have front : OneLine (" " ++ name ++ " = " ++ value) := by
    have space : OneLine " " := by decide
    simp [space, isName, equals, isValue]
  have ending : IsLine (" " ++ name ++ " = " ++ value ++ ";") :=
    .append front (by decide) (by decide)
  have whole := Writes.line (deciding.isPlain start ending (by simp)) (by simp)
  have closing : ";\n" = ";" ++ "\n" := rfl
  delta constantDecl
  simpa only [closing, String.append_assoc] using whole

theorem writes_stringConstant (isName : OneLine name) (isValue : OneLine value) :
    Writes (stringConstant name value) [] := by
  have deciding : Deciding ("public static final " ++ "String") := by decide +kernel
  rw [stringConstant]
  exact writes_constantDecl deciding (by decide) isName isValue

theorem writes_javadoc {said : String} (oneLine : OneLine said) :
    Writes (Member.comment said).code [] := by
  have deciding : Deciding "/** " := by decide
  have ending : IsLine (said ++ ". */") := .append oneLine (by decide) (by decide)
  have whole := Writes.line (deciding.isPlain (by decide) ending (by simp)) (by simp)
  rwa [← String.append_assoc] at whole

/-- A comment and two constants under an empty line. -/
theorem writes_described {said comment other : String} (isSaid : OneLine said)
    (isName : OneLine name) (isValue : OneLine value) (isComment : OneLine comment)
    (isOther : OneLine other) :
    Writes (bodyOf [.emptyLine, .comment said, .constant name value, .constant comment other])
      [] := by
  have constants := (writes_stringConstant isName isValue).append_plain
    (writes_stringConstant isComment isOther)
  have commented := (writes_javadoc isSaid).append_plain constants
  have whole := commented.afterEmptyLine (by simp [Member.code, javadoc])
  simpa only [bodyOf_cons, bodyOf_nil, code_emptyLine, code_constant, String.append_empty]
    using whole

end

/-! ### Members of classes -/

section

variable (registry : Registry)

theorem writes_nameMembers {symbol : Symbol} (named : symbol.LineNamed) {comment : String}
    (isComment : OneLine comment) :
    Writes (bodyOf (nameMembers registry symbol comment)) [] := by
  rw [nameMembers]
  simp only [bodyOf_cons, bodyOf_nil, code_constant, String.append_empty]
  apply Writes.append_plain
  · exact writes_stringConstant (by decide) named.schemaName.quote
  · apply Writes.append_plain
    · exact writes_stringConstant (by decide) (named.symbolClass registry).quote
    · exact writes_stringConstant (by decide) isComment

theorem makesBlock_fieldMembers {registry : Registry} {field : FieldDescriptor}
    (named : field.LineNamed) (others : registry.LineNamed) (isComment : OneLine field.comment) :
    MakesBlock (fieldMembers registry field) [] := by
  intro members succeeds
  obtain ⟨type, isType, isMembers⟩ := exists_of_bind_eq_ok succeeds
  obtain rfl := Except.ok.inj isMembers
  have suffix : OneLine "_COMMENT" := by decide
  have number : OneLine ", field " := by decide
  have space : OneLine " " := by decide
  have name := named.writtenName
  apply writes_described _ name.shoutySnake name.quote _ isComment
  · simp [FieldDescriptor.oneLine_display named others isType, space, name, number,
      oneLine_toString_int32]
  · simp [name.shoutySnake, suffix]

theorem writes_oneofMembers {oneof : OneofDescriptor} (named : oneof.symbol.LineNamed)
    (isComment : OneLine oneof.comment) :
    Writes (bodyOf (oneofMembers registry oneof)) [] := by
  have start : OneLine "Oneof " := by decide
  have index : OneLine ", index " := by decide
  have caseClass : OneLine "_CASE_CLASS" := by decide
  have case : OneLine "Case" := by decide
  have suffix : OneLine "_COMMENT" := by decide
  have name := named.name
  apply writes_described _ _ (OneLine.quote _) _ isComment
  · simp [start, name, index, oneLine_repr]
  · simp [name.shoutySnake, caseClass]
  · simp [registry.oneLine_javaName_oneof named, case]
  · simp [name.shoutySnake, suffix]

theorem writes_values {values : List EnumValueDescriptor}
    (names : ∀ value ∈ values, OneLine value.name) :
    Writes (constantDecl "List<String>" "VALUES" ("Arrays.asList(" ++
      ", ".intercalate (values.map fun value => Text.quote value.name) ++ ")")) [] := by
  have deciding : Deciding ("public static final " ++ "List<String>") := by decide +kernel
  have opening : OneLine "Arrays.asList(" := by decide
  have closing : OneLine ")" := by decide
  have quoted : OneLine (", ".intercalate (values.map fun value => Text.quote value.name)) := by
    apply OneLine.intercalate (by decide)
    rw [List.forall_mem_map]
    exact fun value member => (names value member).quote
  apply writes_constantDecl deciding (by decide) (by decide)
  simp [opening, quoted, closing]

/-- The class of an enum. -/
theorem writes_enumCode {enum : EnumDescriptor} (named : (Descriptor.enum enum).LineNamed)
    (isComment : OneLine enum.comment) (comments : ∀ value ∈ enum.values, OneLine value.comment) :
    Writes (enumCode registry enum ++ "\n") [(0, enum.symbol.name)] := by
  obtain ⟨symbol, values⟩ := named
  have suffix : OneLine "_COMMENT" := by decide
  have commented : Writes (String.join (enum.values.map fun value =>
      stringConstant (shoutySnake value.name ++ "_COMMENT") value.comment)) [] := by
    apply Writes.join
    rw [List.forall_mem_map]
    intro value member
    apply writes_stringConstant _ (comments value member)
    simp [(values value member).shoutySnake, suffix]
  have names := writes_nameMembers registry symbol isComment
  have body := (names.append_plain (writes_values values)).append_plain commented
  rw [← nameConstants_append_comment] at body
  exact Writes.classBlock body (by simp [nameConstants, stringConstant_ne_empty]) symbol.name

theorem writes_flatten {α β : Type} {parts : β → Except Error (List Member)}
    {classesOf : α → List (Nat × String)} {xs : List α} {ys : List β}
    (each : List.Forall₂ (fun x y => MakesBlock (parts y) (classesOf x)) xs ys)
    {all : List (List Member)} (areMembers : ys.mapM parts = .ok all) :
    Writes (bodyOf all.flatten) (xs.flatMap classesOf) := by
  induction each generalizing all with
  | nil =>
      rw [← Except.ok.inj areMembers]
      exact .empty
  | cons own _ ih =>
      rw [List.mapM_cons] at areMembers
      obtain ⟨members, first, areMembers⟩ := exists_of_bind_eq_ok areMembers
      obtain ⟨others, rest, areMembers⟩ := exists_of_bind_eq_ok areMembers
      rw [← Except.ok.inj areMembers, List.flatten_cons, bodyOf_append, List.flatMap_cons]
      exact (own members first).append (ih rest)

theorem writes_flatten_plain {α : Type} {parts : α → Except Error (List Member)} {xs : List α}
    (each : ∀ x ∈ xs, MakesBlock (parts x) [])
    {all : List (List Member)} (areMembers : xs.mapM parts = .ok all) :
    Writes (bodyOf all.flatten) [] := by
  have none : xs.flatMap (fun _ => ([] : List (Nat × String))) = [] :=
    List.flatMap_eq_nil_iff.mpr fun _ _ => rfl
  rw [← none]
  exact writes_flatten (List.forall₂_same.mpr each) areMembers

end

end Outline

/-! ## The classes of a declaration -/

mutual

/-- The classes of a message at a level: its own, then those of the messages nested in it, and then
those of its enums. -/
def MessageDecl.classes (level : Nat) : MessageDecl → List (Nat × String)
  | .mk head nested =>
      (level, head.name) ::
        (nestedClasses (level + 1) nested ++ head.enums.map fun enum => (level + 1, enum.name))

/-- The classes of some messages at a level. -/
def nestedClasses (level : Nat) : List MessageDecl → List (Nat × String)
  | [] => []
  | decl :: rest => decl.classes level ++ nestedClasses level rest

end

/-- The classes of a declaration at a level.  A oneof has none. -/
def Declaration.classes (level : Nat) : Declaration → List (Nat × String)
  | message decl => decl.classes level
  | enum decl => [(level, decl.name)]
  | oneof _ _ => []
  | service decl => [(level, decl.name)]

theorem nestedClasses_eq_flatMap (level : Nat) (decls : List MessageDecl) :
    nestedClasses level decls = decls.flatMap (MessageDecl.classes level) := by
  induction decls with
  | nil => rfl
  | cons decl rest ih => rw [nestedClasses, ih, List.flatMap_cons]

/-- Inside a message all classes are one level deeper. -/
theorem MessageDecl.map_deeper_classes (decl : MessageDecl) (level : Nat) :
    (decl.classes level).map Outline.deeper = decl.classes (level + 1) := by
  induction decl using MessageDecl.nestedInduction generalizing level with
  | mk head nested ih =>
      have inner : (nestedClasses (level + 1) nested).map Outline.deeper =
          nestedClasses (level + 1 + 1) nested := by
        rw [nestedClasses_eq_flatMap, nestedClasses_eq_flatMap, List.map_flatMap]
        exact List.flatMap_congr fun decl member => ih decl member (level + 1)
      rw [classes, classes, List.map_cons, List.map_append, inner, List.map_map]
      rfl

theorem Declaration.map_deeper_classes (decl : Declaration) (level : Nat) :
    (decl.classes level).map Outline.deeper = decl.classes (level + 1) := by
  cases decl with
  | message decl => exact decl.map_deeper_classes level
  | _ => rfl

theorem Position.flatMap_sites {α β : Type} (position : Position) (kind : ElementList)
    {declaration : Nat → α → Declaration} (made : Declaration → List β) {each : α → List β}
    (same : ∀ index x, made (declaration index x) = each x) (xs : List α) :
    (position.sites kind declaration xs).flatMap (fun site => made site.decl) =
      xs.flatMap each := by
  simp only [Position.sites]
  generalize 0 = start
  induction xs generalizing start with
  | nil => rfl
  | cons x xs ih => rw [Position.sitesFrom_cons, List.flatMap_cons, ih, same, List.flatMap_cons]

/-- The classes in the body of a message are those of its children. -/
theorem MessageDecl.classes_eq (position : Position) (decl : MessageDecl) (level : Nat) :
    decl.classes level =
      (level, decl.head.name) ::
        (Site.children ⟨position, .message decl⟩).flatMap
          fun child => child.decl.classes (level + 1) := by
  obtain ⟨head, nested⟩ := decl
  have inner : (position.sites (.nestedMessages head.name) (fun _ => .message) nested).flatMap
      (fun child => child.decl.classes (level + 1)) =
        nested.flatMap (MessageDecl.classes (level + 1)) :=
    position.flatMap_sites _ (Declaration.classes (level + 1)) (fun _ _ => by rfl) nested
  have enums : (position.sites (.nestedEnums head.name) (fun _ => .enum) head.enums).flatMap
      (fun child => child.decl.classes (level + 1)) =
        head.enums.flatMap fun enum => [(level + 1, enum.name)] :=
    position.flatMap_sites _ (Declaration.classes (level + 1)) (fun _ _ => by rfl) head.enums
  have oneofs : (position.sites (.nestedOneofs head.name) .oneof head.oneofs).flatMap
      (fun child => child.decl.classes (level + 1)) = head.oneofs.flatMap fun _ => [] :=
    position.flatMap_sites _ (Declaration.classes (level + 1)) (fun _ _ => by rfl) head.oneofs
  have none : (head.oneofs.flatMap fun _ => ([] : List (Nat × String))) = [] :=
    List.flatMap_eq_nil_iff.mpr fun _ _ => rfl
  simp only [Site.children, List.flatMap_append]
  rw [inner, enums, oneofs, none, classes, nestedClasses_eq_flatMap, List.map_eq_flatMap,
    List.append_nil]
  rfl

/-! ## The code of a declaration -/

namespace Outline

variable {unit : FileUnit} {registry : Registry}

theorem oneLine_comment_of_mem_fieldsAt {position : Position} {head : MessageHead}
    {field : FieldDescriptor} (member : field ∈ fieldsAt unit position head) :
    OneLine field.comment := by
  obtain ⟨index, decl, -, rfl⟩ := Position.mem_elements member
  exact oneLine_commentExpression _

theorem oneLine_comment_of_mem_enumValuesAt {position : Position} {decls : List EnumValueDecl}
    {value : EnumValueDescriptor} (member : value ∈ enumValuesAt unit position decls) :
    OneLine value.comment := by
  obtain ⟨index, decl, -, rfl⟩ := Position.mem_elements member
  exact oneLine_commentExpression _

/-- A child of a message adds its classes to those in the body of the message. -/
theorem makesBlock_childMembers {site : Site} {child : Descriptor}
    (describes : Describes unit site child) (noService : site.decl.kind ≠ .service)
    (named : child.LineNamed)
    (writes : site.decl.kind ≠ .oneof → ∀ text, code registry child = .ok text →
      Writes (text ++ "\n") (site.decl.classes 0)) :
    MakesBlock (childMembers registry child) (site.decl.classes 0) := by
  intro members areMembers
  by_cases isOneof : site.decl.kind = .oneof
  case pos =>
    cases describes with
    | oneof serial position index decl =>
        rw [← Except.ok.inj areMembers]
        exact writes_oneofMembers registry named (oneLine_commentExpression _)
    | _ => cases isOneof
  case neg =>
    rw [childMembers_of_ne registry (describes.kind_eq ▸ isOneof)] at areMembers
    obtain ⟨text, isText, areMembers⟩ := exists_of_bind_eq_ok areMembers
    rw [← Except.ok.inj areMembers]
    have whole := (writes isOneof text isText).afterEmptyLine (by simp)
    simpa only [bodyOf_cons, bodyOf_nil, code_emptyLine, Member.code, String.append_empty]
      using whole

/-- The code of a message is a class around those of its children. -/
theorem writes_message {message : MessageDescriptor} {children : List Descriptor}
    (named : (Descriptor.message message children).LineNamed) (others : registry.LineNamed)
    (isComment : OneLine message.comment)
    (comments : ∀ field ∈ message.fields, OneLine field.comment) {sites : List Site}
    (each : List.Forall₂ (fun site child =>
      MakesBlock (childMembers registry child) (site.decl.classes 0)) sites children)
    {text : String} (succeeds : code registry (.message message children) = .ok text) :
    Writes (text ++ "\n")
      ((0, message.symbol.name) :: sites.flatMap fun site => site.decl.classes 1) := by
  obtain ⟨symbol, fieldsNamed⟩ := named
  rw [code_message] at succeeds
  obtain ⟨members, areMembers, rfl⟩ := exists_of_map_eq_ok succeeds
  obtain ⟨fieldParts, fields, areMembers⟩ := exists_of_bind_eq_ok areMembers
  obtain ⟨childParts, nested, areMembers⟩ := exists_of_bind_eq_ok areMembers
  rw [← Except.ok.inj areMembers]
  have eachField : ∀ field ∈ message.fields, MakesBlock (fieldMembers registry field) [] :=
    fun field member =>
      makesBlock_fieldMembers (fieldsNamed field member) others (comments field member)
  have fieldLines := writes_flatten_plain eachField fields
  have names := writes_nameMembers registry symbol isComment
  have body := (names.append_plain fieldLines).append (writes_flatten each nested)
  rw [← bodyOf_append, ← bodyOf_append, List.nil_append] at body
  have block := body.classBlock (by simp [nameMembers, Member.code, stringConstant_ne_empty])
    symbol.name
  simp only [List.map_flatMap, Declaration.map_deeper_classes] at block
  exact block

/-- The induction is on the descriptor: the code of a child is written without indentation, and
becomes part of the body of its message, where all of its classes are one level deeper. -/
theorem writes_code (others : registry.LineNamed) {site : Site} {descriptor : Descriptor}
    (describes : Describes unit site descriptor) (noService : site.decl.kind ≠ .service)
    (noOneof : site.decl.kind ≠ .oneof)
    (own : ∀ inner ∈ descriptor.postorder, inner.LineNamed) {text : String}
    (succeeds : code registry descriptor = .ok text) :
    Writes (text ++ "\n") (site.decl.classes 0) := by
  induction descriptor using Descriptor.nestedInduction generalizing site text with
  | step descriptor ih =>
      have named := own descriptor descriptor.mem_postorder_self
      have each : List.Forall₂ (fun site child =>
          MakesBlock (childMembers registry child) (site.decl.classes 0))
          site.children descriptor.children := by
        apply List.forall₂_iff_zip.mpr
        refine ⟨describes.children.length_eq, ?_⟩
        intro inner child member
        obtain ⟨isInner, isChild⟩ := List.of_mem_zip member
        have childDescribes := Describes.of_mem_zip describes.children member
        have noServices := Site.kind_ne_service_of_mem_children isInner
        have childOwn : ∀ below ∈ child.postorder, below.LineNamed := fun below isBelow =>
          own below (Descriptor.mem_postorder_of_child isChild isBelow)
        have childNamed := childOwn child child.mem_postorder_self
        exact makesBlock_childMembers childDescribes noServices childNamed
          fun isClass _ => ih child isChild childDescribes noServices isClass childOwn
      cases describes with
      | oneof serial position index decl => exact absurd rfl noOneof
      | service serial position decl methods describe => exact absurd rfl noService
      | enum serial position decl =>
          rw [code] at succeeds
          rw [← Except.ok.inj succeeds]
          exact writes_enumCode registry named (oneLine_commentExpression _)
            fun value member => oneLine_comment_of_mem_enumValuesAt member
      | message serial position head nested children describe =>
          rw [Declaration.classes, MessageDecl.classes_eq position]
          exact writes_message named others (oneLine_commentExpression _)
            (fun field member => oneLine_comment_of_mem_fieldsAt member) each succeeds

end Outline

/-- Let a message be registered, and let its code be generated over some registry.  No line feed may
be in the names of the declarations in its tree or in the registry, nor in the packages and outer
classes of their files; the style of a file may not bring any in, and the outline leaves names as
they are declared.  Then the lines of the code that open a class are one for the message and each
message and enum nested in it, at all depths: first the message, then its messages with what is
nested in them, then its enums.  Such a line has four spaces for each message around the
declaration.  The lines that close classes match those that open them, with the same
indentation. -/
theorem classes_of_message_in_preorder {unit : FileUnit} {decl : MessageDecl} {walk after : Walk}
    {descriptor : Descriptor}
    (registered : Registering.message unit decl walk = .ok descriptor after)
    {registry : Registry} (own : ∀ inner ∈ descriptor.postorder, inner.LineNamed)
    (others : registry.LineNamed) {text : String}
    (succeeds : Outline.code registry descriptor = .ok text) :
    (Text.lines text).filter Outline.opensClass = (decl.classes 0).map Outline.classLine ∧
      (Text.lines text).foldlM Outline.readLine [] = some [] := by
  obtain ⟨describes, -⟩ := Registering.describes_of_message registered
  have writes := Outline.writes_code others describes (by simp [Declaration.kind])
    (by simp [Declaration.kind]) own succeeds
  exact ⟨writes.block.opened, writes.block.closed⟩

/-- A message with another message and two enums inside, one of them in the other message. -/
def crowdedItem : MessageDecl :=
  .mk {
      name? := some "Item"
      fields := [
        { name? := some "label", number? := some 1, type? := some 9, oneofIndex? := some 0 },
        { name? := some "parts", number? := some 2, label? := some 3, type? := some 11,
          typeName? := some ".shop.Item.Part" }]
      enums := [{ name? := some "State", values := [{ name? := some "NEW" }] }]
      oneofs := [{ name? := some "title" }] }
    [.mk { name? := some "Part", enums := [{ name? := some "Kind" }] } []]

/-- The file of that message, in which the comment on a field looks like a class. -/
def crowdedUnit : FileUnit :=
  .ofFile 0 {
      name? := some "item.proto"
      package? := some "shop"
      messages := [crowdedItem]
      sourceInfo? := some { locations := [
        { path := [4, 0, 2, 0]
          leading? := some "public static final class Fake \x7b\n\x7d\n" }] } }
    { companionClass := "ItemOutline" }

/-- The classes of that message, in code that is generated where the message is registered. -/
theorem classes_of_crowded_item :
    let walk : Walk := { cursor := (({} : Cursor).enter (.list .messages)).enter (.element 0) }
    ∃ descriptor after text,
      Registering.message crowdedUnit crowdedItem walk = .ok descriptor after ∧
        Outline.code after.registry descriptor = .ok text ∧
        (Text.lines text).filter Outline.opensClass = [
          "public static final class Item \x7b",
          "    public static final class Part \x7b",
          "        public static final class Kind \x7b",
          "    public static final class State \x7b"] ∧
        (Text.lines text).foldlM Outline.readLine [] = some [] := by
  intro walk
  have accepts : (match Registering.message crowdedUnit crowdedItem walk with
      | .ok descriptor after => (Outline.code after.registry descriptor).toOption.isSome
      | .error _ _ => false) = true := by
    decide +kernel
  have unitNamed : crowdedUnit.LineNamed := {
    schemaPackage := by decide +kernel
    outputPackage := by decide +kernel
    javaClass := by decide +kernel
    companionClass := by decide +kernel
    style := keepsLines_id }
  have named : ∀ site ∈ Site.postorder ⟨walk.cursor.toPosition, .message crowdedItem⟩,
      site.LineNamed := by
    decide +kernel
  cases registered : Registering.message crowdedUnit crowdedItem walk with
  | error error after =>
      rw [registered] at accepts
      cases accepts
  | ok descriptor after =>
      rw [registered] at accepts
      obtain ⟨text, isText⟩ := Option.isSome_iff_exists.mp accepts
      have succeeds := eq_ok_of_toOption isText
      obtain ⟨describes, entered⟩ := Registering.describes_of_message registered
      have own := describes.lineNamed_postorder unitNamed named
      have others := entered.lineNamed unitNamed named .empty
      obtain ⟨opened, closed⟩ := classes_of_message_in_preorder registered own others succeeds
      refine ⟨descriptor, after, text, rfl, succeeds, ?_, closed⟩
      rw [opened]
      decide +kernel

/-- A message that refers to itself. -/
def linkedItem : MessageDecl :=
  .mk {
      name? := some "Item"
      fields := [{
        name? := some "next", number? := some 1, type? := some 11
        typeName? := some ".Item" }] }
    []

/-- The file of that message. -/
def linkedFile : FileDecl := { name? := some "item.proto", messages := [linkedItem] }

/-- A style that goes on after a name, with a line that begins like a class. -/
def strayStyle : Naming.NameStyle := fun name =>
  name ++ "\npublic static final class Stray \x7b\n"

/-- What the class of that message consists of, in that style. -/
def strayMembers : List Outline.Member := [
  .constant "PROTO_NAME" "\"Item\"",
  .constant "ORIGINAL_CLASS" "\"ItemOuterClass.Item\"",
  .constant "COMMENT" "\"\"",
  .emptyLine,
  .comment ("ItemOutline.Item\npublic static final class Stray \x7b\n" ++
    "\npublic static final class Stray \x7b\n next, field 1"),
  .constant "NEXT" "\"next\"",
  .constant "NEXT_COMMENT" "\"\""]

/-- The body of that class, line by line. -/
def strayBody : List String := [
  "public static final String PROTO_NAME = \"Item\";",
  "public static final String ORIGINAL_CLASS = \"ItemOuterClass.Item\";",
  "public static final String COMMENT = \"\";",
  "",
  "/** ItemOutline.Item",
  "public static final class Stray \x7b",
  "",
  "public static final class Stray \x7b",
  " next, field 1. */",
  "public static final String NEXT = \"next\";",
  "public static final String NEXT_COMMENT = \"\";"]

theorem lines_strayMembers :
    Text.lines (Outline.classOf "Item" strayMembers) =
      Outline.classLines "public static final class" "Item" strayBody := by
  have body : Outline.bodyOf strayMembers = unlines strayBody := by
    decide +kernel
  have isLine : ∀ line ∈ strayBody, IsLine line := by
    decide +kernel
  exact Outline.lines_classOf (by decide) body isLine rfl (by decide)

/-- The condition on the style is needed: what a style brings in is written as it is, in the comment
that states the type of a field.  No line feed is in what that file declares, nor in its packages
and outer classes; and yet a line begins like a class that nothing declares. -/
theorem stray_class_of_style :
    ∃ unit declared registry descriptor text,
      registerFile linkedFile { companionClass := "ItemOutline", style := strayStyle } {} =
          .ok (unit, declared) registry ∧
        (∀ site ∈ linkedFile.sites, site.LineNamed) ∧
        (OneLine unit.schemaPackage ∧ OneLine unit.outputPackage ∧
          OneLine unit.outerClass.javaClass ∧ OneLine unit.outerClass.companionClass) ∧
        descriptor ∈ declared.messages ∧ Outline.code registry descriptor = .ok text ∧
        "    public static final class Stray \x7b" ∈
          (Text.lines text).filter Outline.opensClass ∧
        "    public static final class Stray \x7b" ∉
          (linkedItem.classes 0).map Outline.classLine := by
  have named : ∀ site ∈ linkedFile.sites, site.LineNamed := by
    decide +kernel
  have written : (outcome (registerFile linkedFile
      { companionClass := "ItemOutline", style := strayStyle } {})).toOption.any fun answer =>
        decide (OneLine answer.1.1.schemaPackage ∧ OneLine answer.1.1.outputPackage ∧
          OneLine answer.1.1.outerClass.javaClass ∧
          OneLine answer.1.1.outerClass.companionClass) &&
        answer.1.2.messages.any fun descriptor => descriptor.casesOn
          (fun message children => decide (message.symbol.name = "Item" ∧
            (Outline.messageMembers answer.2 message children).toOption = some strayMembers))
          (fun _ => false) (fun _ => false) (fun _ => false) := by
    decide +kernel
  have isStray : "    public static final class Stray \x7b" ∈
      Outline.classLines "public static final class" "Item" strayBody := by
    decide +kernel
  obtain ⟨⟨⟨unit, declared⟩, registry⟩, isAnswer, facts⟩ := (Option.any_eq_true _ _).mp written
  have registered := outcome_eq_ok.mp (eq_ok_of_toOption isAnswer)
  obtain ⟨oneLine, hasItem⟩ := Bool.and_eq_true_iff.mp facts
  obtain ⟨descriptor, member, isItem⟩ := List.any_eq_true.mp hasItem
  cases descriptor with
  | message message children =>
      obtain ⟨isName, areMembers⟩ := of_decide_eq_true isItem
      refine ⟨unit, declared, registry, _, Outline.classOf "Item" strayMembers, registered, named,
        of_decide_eq_true oneLine, member, ?code, ?stray, by decide +kernel⟩
      case code =>
        rw [Outline.code_message, eq_ok_of_toOption areMembers, isName]
        rfl
      case stray =>
        rw [lines_strayMembers, List.mem_filter]
        exact ⟨isStray, by decide +kernel⟩
  | enum enum => cases isItem
  | oneof oneof => cases isItem
  | service service => cases isItem

end ProtoCompanion
