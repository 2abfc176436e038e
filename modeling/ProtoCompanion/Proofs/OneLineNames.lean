/-
Module: ProtoCompanion.Proofs.OneLineNames
Purpose: What is made of names without line feeds has no line feeds.
Main exports: KeepsLines, Symbol.LineNamed, Descriptor.LineNamed, oneLine_commentExpression,
  OneLine.accessorName, OneLine.shoutySnake, FieldDescriptor.oneLine_display
-/
import ProtoCompanion.Naming.ShoutySnake
import ProtoCompanion.Proofs.FieldNames
import ProtoCompanion.Proofs.FieldShapes
import ProtoCompanion.Proofs.RegistrationContents
import ProtoCompanion.Proofs.UncasedCharacters
import ProtoCompanion.Proofs.WrittenLines

/-!
Names are taken apart, spelled in another case and joined again before they are written.  None of
this brings in a line feed, which is not the upper or lower case of any other character.  Comments
need no condition at all, since they are escaped.
-/

namespace ProtoCompanion

open Naming (NameStyle dotted)

/-! ## Spellings of texts -/

namespace Naming.Chars

variable {c : Char} {cs word : List Char}

theorem flatten_alphanumericRuns (cs : List Char) :
    (alphanumericRuns cs).flatten = cs.filter Unicode.isAlphanumeric := by
  induction cs with
  | nil => rfl
  | cons c cs ih =>
      rw [alphanumericRuns, List.foldr_cons, ← alphanumericRuns]
      by_cases inRun : Unicode.isAlphanumeric c <;> simp [inRun, flatten_extendHead, ih]

theorem mem_of_mem_cutWords {mode : CaseMode} {start : List Char}
    (member : word ∈ cutWords mode start cs) (isIn : c ∈ word) : c ∈ start ++ cs := by
  induction mode, start, cs using cutWords.induct with
  | case1 mode => cases member
  | case2 mode start nonempty =>
      rw [cutWords, if_neg nonempty, List.mem_singleton] at member
      simpa [member] using isIn
  | case3 mode start d =>
      rw [cutWords, List.mem_singleton] at member
      rwa [member] at isIn
  | case4 mode start d next rest ends ih =>
      rw [cutWords, if_pos ends] at member
      grind
  | case5 mode start d next rest goesOn ends ih =>
      rw [cutWords, if_neg goesOn, if_pos ends] at member
      grind
  | case6 mode start d next rest goesOn whole ih =>
      rw [cutWords, if_neg goesOn, if_neg whole] at member
      simpa using ih member

theorem mem_of_mem_words (member : word ∈ words cs) (isIn : c ∈ word) : c ∈ cs := by
  obtain ⟨run, isRun, isWord⟩ := List.mem_flatMap.mp member
  have inRun : c ∈ run := by simpa using mem_of_mem_cutWords isWord isIn
  have inRuns := List.mem_flatten_of_mem isRun inRun
  rw [flatten_alphanumericRuns] at inRuns
  exact List.mem_of_mem_filter inRuns

theorem lineFeed_not_mem_lowerCamel (plain : '\n' ∉ cs) : '\n' ∉ lowerCamel cs := by
  rw [← List.count_eq_zero, count_lowerCamel (by decide), List.count_eq_zero]
  exact fun isIn => plain (List.mem_of_mem_filter isIn)

theorem lineFeed_not_mem_capitalize (plain : '\n' ∉ cs) : '\n' ∉ capitalize cs := by
  rwa [← List.count_eq_zero, count_capitalize (by decide), List.count_eq_zero]

theorem lineFeed_not_mem_shoutySnake (plain : '\n' ∉ cs) : '\n' ∉ shoutySnake cs := by
  apply not_mem_intercalate (by decide)
  rw [List.forall_mem_map]
  intro word isWord
  rw [← List.count_eq_zero, Unicode.count_flatMap_toUppercase (by decide), List.count_eq_zero]
  exact fun isIn => plain (mem_of_mem_words isWord isIn)

end Naming.Chars

/-! ## Spellings of names -/

section

variable {name : String}

theorem OneLine.accessorName (oneLine : OneLine name) : OneLine (Naming.accessorName name) := by
  rw [OneLine, Naming.accessorName, Text.toList_onChars, Naming.Chars.accessorName]
  split
  · exact Naming.Chars.lineFeed_not_mem_lowerCamel oneLine
  · exact oneLine

theorem OneLine.capitalize (oneLine : OneLine name) : OneLine (Naming.capitalize name) := by
  rw [OneLine, Naming.capitalize, Text.toList_onChars]
  exact Naming.Chars.lineFeed_not_mem_capitalize oneLine

theorem OneLine.shoutySnake (oneLine : OneLine name) : OneLine (Naming.shoutySnake name) := by
  rw [OneLine, Naming.shoutySnake, Text.toList_onChars]
  exact Naming.Chars.lineFeed_not_mem_shoutySnake oneLine

theorem OneLine.dotted {segments : List String} (each : ∀ segment ∈ segments, OneLine segment) :
    OneLine (Naming.dotted segments) := by
  apply OneLine.intercalate (by decide)
  intro part member
  obtain ⟨segment, isSegment, rfl⟩ := List.mem_map.mp (List.mem_filter.mp member).1
  rw [OneLine, Naming.trimDots, Text.toList_onChars]
  exact fun isIn => each segment isSegment (mem_of_mem_strip isIn)

theorem oneLine_toString_int32 (number : Int32) : OneLine (toString number) := fun isIn =>
  absurd (isNumeric_of_mem_toString isIn) (by decide)

theorem oneLine_repr (number : Nat) : OneLine number.repr := by
  rw [OneLine, Nat.toList_repr]
  intro isIn
  exact absurd (Nat.isDigit_of_mem_toDigits (by decide) (by decide) isIn) (by decide)

/-- The expression of a comment is written on one line, whatever the comment says. -/
theorem oneLine_commentExpression (comment? : Option String) :
    OneLine (commentExpression comment?) := by
  cases comment? with
  | none => decide
  | some comment =>
      rw [OneLine, commentExpression, Text.toList_onChars]
      apply not_mem_intercalate (by decide)
      intro line member isIn
      obtain ⟨piece, isPiece, rfl⟩ := List.mem_map.mp (List.mem_filter.mp member).1
      exact not_mem_of_mem_split isPiece (mem_of_mem_strip isIn)

end

/-! ## Declarations -/

/-- A style that brings no line feeds into names. -/
def KeepsLines (style : NameStyle) : Prop := ∀ name, OneLine name → OneLine (style name)

theorem keepsLines_id : KeepsLines id := fun _ oneLine => oneLine

/-- No line feed is in the names that a symbol is made of, nor in the packages and outer classes of
its file. -/
structure Symbol.LineNamed (symbol : Symbol) : Prop where
  name : OneLine symbol.name
  outers : ∀ outer ∈ symbol.outers, OneLine outer
  schemaPackage : OneLine symbol.unit.schemaPackage
  outputPackage : OneLine symbol.unit.outputPackage
  javaClass : OneLine symbol.unit.outerClass.javaClass
  companionClass : OneLine symbol.unit.outerClass.companionClass

/-- No line feed is in the name of a field, and none comes into the names of types in its file. -/
structure FieldDescriptor.LineNamed (field : FieldDescriptor) : Prop where
  name : OneLine field.decl.name
  style : KeepsLines field.style

/-- No line feed is in the names of a declaration and of its parts, apart from what is nested. -/
def Descriptor.LineNamed : Descriptor → Prop
  | .message descriptor _ =>
      descriptor.symbol.LineNamed ∧ ∀ field ∈ descriptor.fields, field.LineNamed
  | .enum descriptor =>
      descriptor.symbol.LineNamed ∧ ∀ value ∈ descriptor.values, OneLine value.name
  | .oneof descriptor => descriptor.symbol.LineNamed
  | .service descriptor => descriptor.symbol.LineNamed

/-- No line feed is in the names of anything that is registered. -/
structure Registry.LineNamed (registry : Registry) : Prop where
  byName : ∀ (name : String) (descriptor : Descriptor),
    registry.byName[name]? = some descriptor → descriptor.LineNamed
  byRelativeName : ∀ (name : String) (descriptor : Descriptor),
    registry.byRelativeName[name]? = some descriptor → descriptor.LineNamed

theorem Descriptor.LineNamed.symbol {descriptor : Descriptor} (named : descriptor.LineNamed) :
    descriptor.symbol.LineNamed := by
  cases descriptor with
  | message own children => exact named.1
  | enum own => exact named.1
  | oneof own => exact named
  | service own => exact named

/-- No line feed is in the packages and outer classes of a file, and its style brings none in. -/
structure FileUnit.LineNamed (unit : FileUnit) : Prop where
  schemaPackage : OneLine unit.schemaPackage
  outputPackage : OneLine unit.outputPackage
  javaClass : OneLine unit.outerClass.javaClass
  companionClass : OneLine unit.outerClass.companionClass
  style : KeepsLines unit.style

/-- The names of the parts of a declaration that are not nested in it. -/
def Declaration.partNames : Declaration → List String
  | message decl => decl.head.fields.map FieldDecl.name
  | enum decl => decl.values.map EnumValueDecl.name
  | oneof _ _ => []
  | service _ => []

/-- No line feed is in the names of a declaration, of its parts and of the messages around it. -/
def Site.LineNamed (site : Site) : Prop :=
  ∀ name ∈ site.position.outers ++ site.name :: site.decl.partNames, OneLine name

instance : DecidablePred Site.LineNamed := fun site =>
  inferInstanceAs (Decidable
    (∀ name ∈ site.position.outers ++ site.name :: site.decl.partNames, OneLine name))

/-- What is declared on one line is registered on one line. -/
theorem Describes.lineNamed {unit : FileUnit} (unitNamed : unit.LineNamed) {site : Site}
    (named : site.LineNamed) {descriptor : Descriptor}
    (describes : Describes unit site descriptor) : descriptor.LineNamed := by
  obtain ⟨outers, declared⟩ := List.forall_mem_append.mp named
  obtain ⟨name, parts⟩ := List.forall_mem_cons.mp declared
  have symbol : descriptor.symbol.LineNamed := by
    rw [describes.symbol_eq]
    exact ⟨name, outers, unitNamed.schemaPackage, unitNamed.outputPackage, unitNamed.javaClass,
      unitNamed.companionClass⟩
  cases describes with
  | oneof serial position index decl => exact symbol
  | service serial position decl methods describe => exact symbol
  | enum serial position decl =>
      refine ⟨symbol, ?_⟩
      intro value member
      obtain ⟨index, part, isPart, rfl⟩ := Position.mem_elements member
      exact parts part.name (List.mem_map_of_mem isPart)
  | message serial position head nested children describe =>
      refine ⟨symbol, ?_⟩
      intro field member
      obtain ⟨index, part, isPart, rfl⟩ := Position.mem_elements member
      exact ⟨parts part.name (List.mem_map_of_mem isPart), unitNamed.style⟩

theorem Describes.lineNamed_postorder {unit : FileUnit} (unitNamed : unit.LineNamed) {site : Site}
    (named : ∀ inner ∈ site.postorder, inner.LineNamed) {descriptor : Descriptor}
    (describes : Describes unit site descriptor) :
    ∀ inner ∈ descriptor.postorder, inner.LineNamed := by
  intro inner member
  obtain ⟨index, isInner⟩ := List.mem_iff_getElem?.mp member
  obtain ⟨declared, isDeclared, own⟩ := exists_rel_getElem? describes.postorder.flip isInner
  exact own.lineNamed unitNamed (named declared (List.mem_of_getElem? isDeclared))

namespace Registry.LineNamed

variable {registry : Registry}

theorem empty : ({} : Registry).LineNamed := by
  constructor <;>
  · intro name descriptor found
    rw [Std.TreeMap.getElem?_emptyc] at found
    cases found

theorem setCollision (named : registry.LineNamed) (unit : FileUnit) (collided : Bool) :
    (registry.setCollision unit collided).LineNamed :=
  ⟨named.byName, named.byRelativeName⟩

theorem insert (named : registry.LineNamed) {descriptor : Descriptor}
    (own : descriptor.LineNamed) : (registry.insert descriptor).LineNamed where
  byName name other found := by
    rw [Registry.insert, Std.TreeMap.getElem?_insert] at found
    split at found
    · exact Option.some.inj found ▸ own
    · exact named.byName name other found
  byRelativeName name other found := by
    rw [Registry.insert, Std.TreeMap.getElem?_insert] at found
    split at found
    · exact Option.some.inj found ▸ own
    · exact named.byRelativeName name other found

theorem resolve (named : registry.LineNamed) {reference : String} {descriptor : Descriptor}
    (found : registry.resolve reference = .ok descriptor) : descriptor.LineNamed := by
  rw [resolve_eq_ok, resolve?] at found
  rcases Option.or_eq_some_iff.mp found with qualified | ⟨-, other⟩
  · obtain ⟨name, -, isNamed⟩ := Option.bind_eq_some_iff.mp qualified
    exact named.byName name descriptor isNamed
  · rcases Option.or_eq_some_iff.mp other with isRelative | ⟨-, isNamed⟩
    · exact named.byRelativeName reference descriptor isRelative
    · exact named.byName reference descriptor isNamed

end Registry.LineNamed

/-- Registration on one line keeps the registry on one line. -/
theorem EntersAll.lineNamed {unit : FileUnit} (unitNamed : unit.LineNamed) {sites : List Site}
    (named : ∀ site ∈ sites, site.LineNamed) {before after : Registry}
    {descriptors : List Descriptor} (entered : EntersAll unit before sites descriptors after)
    (earlier : before.LineNamed) : after.LineNamed := by
  induction entered with
  | nil registry => exact earlier
  | cons first _ ih =>
      obtain ⟨own, later⟩ := List.forall_mem_cons.mp named
      obtain ⟨collided, -, rfl⟩ := first.accepted
      have entered := first.describes.lineNamed unitNamed own
      exact ih later ((earlier.setCollision unit collided).insert entered)

namespace Symbol.LineNamed

variable {symbol : Symbol} (named : symbol.LineNamed)

include named

theorem nameWithin {style : NameStyle} (keeps : KeepsLines style) :
    OneLine (symbol.nameWithin style) := by
  apply OneLine.intercalate (by decide)
  rw [List.forall_mem_map]
  intro part member
  apply keeps
  rcases List.mem_append.mp member with isOuter | isName
  · exact named.outers part isOuter
  · rw [List.mem_singleton.mp isName]
    exact named.name

theorem schemaName : OneLine symbol.schemaName := by
  apply OneLine.dotted
  simpa using ⟨named.schemaPackage, named.nameWithin keepsLines_id⟩

theorem companionName {style : NameStyle} (keeps : KeepsLines style) :
    OneLine (symbol.companionName style) := by
  apply OneLine.dotted
  simpa using ⟨named.outputPackage, named.companionClass, named.nameWithin keeps⟩

theorem javaNameOf (collided : Bool) {within : String}
    (isWithin : OneLine within) :
    OneLine (symbol.javaNameOf collided within) := by
  have effective : OneLine (symbol.unit.outerClass.effective collided) := by
    have suffix : OneLine "OuterClass" := by decide
    rw [OuterClass.effective, OuterClass.suffixed]
    split
    · simp [named.javaClass, suffix]
    · exact named.javaClass
  rw [Symbol.javaNameOf]
  split <;> apply OneLine.dotted
  · simpa using ⟨named.outputPackage, isWithin⟩
  · simpa using ⟨named.outputPackage, effective, isWithin⟩

theorem symbolClass (registry : Registry) :
    OneLine (registry.symbolClass symbol) :=
  named.javaNameOf _ (named.nameWithin keepsLines_id)

end Symbol.LineNamed

theorem Registry.oneLine_javaName_oneof (registry : Registry) {oneof : OneofDescriptor}
    (named : oneof.symbol.LineNamed) : OneLine (registry.javaName (.oneof oneof)) := by
  apply named.javaNameOf
  apply OneLine.intercalate (by decide)
  intro part member
  rcases List.mem_append.mp member with isOuter | isCase
  · exact named.outers part isOuter
  · rw [List.mem_singleton.mp isCase]
    exact named.name.accessorName.capitalize

/-! ## Fields -/

namespace FieldDescriptor.LineNamed

variable {field : FieldDescriptor} {registry : Registry} (named : field.LineNamed)

include named

theorem writtenName : OneLine field.name := by
  rw [FieldDescriptor.name]
  split
  · simp [named.name.accessorName, oneLine_toString_int32]
  · exact named.name.accessorName

theorem elementType (others : registry.LineNamed) {name : String}
    (isType : field.elementType registry = .ok name) : OneLine name := by
  by_cases refers : field.Refers
  case pos =>
    rw [FieldDescriptor.elementType, referent?_of_refers refers] at isType
    cases found : registry.resolve field.decl.typeName with
    | error error =>
        rw [found] at isType
        cases isType
    | ok referent =>
        rw [found] at isType
        rw [← Except.ok.inj isType]
        have own := (others.resolve found).symbol
        exact named.style _ (own.companionName named.style)
  case neg =>
    rw [FieldDescriptor.elementType, referent?_of_not_refers refers] at isType
    obtain ⟨scalar, -, isName⟩ := exists_of_bind_eq_ok (show field.scalar >>= _ = _ from isType)
    rw [← Except.ok.inj isName]
    cases scalar <;> decide

end FieldDescriptor.LineNamed

theorem MessageDescriptor.oneLine_entryTypes {entry : MessageDescriptor} {registry : Registry}
    (fields : ∀ field ∈ entry.fields, field.LineNamed) (others : registry.LineNamed)
    {types : String × String} (areTypes : entry.entryTypes registry = .ok types) :
    OneLine types.1 ∧ OneLine types.2 := by
  obtain ⟨key, value, isKey, isValue, keyType, valueType⟩ := entryTypes_eq_ok_iff.mp areTypes
  exact ⟨(fields key (List.mem_of_find?_eq_some isKey)).elementType others keyType,
    (fields value (List.mem_of_find?_eq_some isValue)).elementType others valueType⟩

/-- The type of a field is written on one line. -/
theorem FieldDescriptor.oneLine_display {field : FieldDescriptor} {registry : Registry}
    (named : field.LineNamed) (others : registry.LineNamed) {type : JavaType}
    (isType : field.javaType registry = .ok type) : OneLine type.display := by
  have list : OneLine "List<" := by decide
  have map : OneLine "Map<" := by decide
  have comma : OneLine ", " := by decide
  have closing : OneLine ">" := by decide
  cases field.shape registry with
  | single once isMap answer =>
      obtain ⟨name, isName, rfl⟩ := exists_of_map_eq_ok (answer.symm.trans isType)
      exact named.elementType others isName
  | unresolved repeated refers missing isMap answer =>
      rw [answer] at isType
      cases isType
  | map repeated refers entry children found isEntry isMap answer =>
      obtain ⟨types, areTypes, rfl⟩ := exists_of_map_eq_ok (answer.symm.trans isType)
      obtain ⟨key, value⟩ := entry.oneLine_entryTypes (others.resolve found).2 others areTypes
      simp [JavaType.display, map, key, comma, value, closing]
  | list repeated resolves isMap answer =>
      obtain ⟨name, isName, rfl⟩ := exists_of_map_eq_ok (answer.symm.trans isType)
      simp [JavaType.display, list, named.elementType others isName, closing]

end ProtoCompanion
