/-
Module: ProtoCompanion.Proofs.DottedKeys
Purpose: Which names of declarations can be taken for a reference with a dot in front.
Main exports: Naming.StartsDotted, Naming.isQualified_intercalate_iff, Registry.KeepsDotsApart,
  Registry.History.keepsDotsApart, joined_names_have_no_outer_dots,
  relative_name_taken_for_dotted_reference
-/
import ProtoCompanion.Proofs.QualifiedReferences
import ProtoCompanion.Proofs.ReachableRegistries

/-!
The dot in front of a reference says that it is a qualified name.  That works as long as no name
that is kept starts with a dot itself.  Qualified names do not, whatever they are joined from, since
their segments are trimmed.  Relative names are joined as they are: when the style of a file leaves
nothing of the outermost name, or gives it a dot in front, then the relative name starts with a dot.
-/

namespace ProtoCompanion

open Naming (NameStyle dotted)

/-! ## Joined names that start with a dot -/

/-- The first of the names starts with a dot, or is empty and has others after it. -/
def Naming.StartsDotted : List String → Prop
  | [] => False
  | name :: rest => IsQualified name ∨ name = "" ∧ rest ≠ []

/-- Only the first name and its joint decide whether a joined name starts with a dot. -/
theorem Naming.isQualified_intercalate_iff {names : List String} :
    IsQualified (".".intercalate names) ↔ StartsDotted names := by
  cases names with
  | nil => simp [StartsDotted, IsQualified]
  | cons name rest =>
      by_cases empty : name = ""
      · subst empty
        cases rest with
        | nil => simp [StartsDotted]
        | cons next rest => simp [StartsDotted, IsQualified]
      · have notNil : name.toList ≠ [] := mt String.toList_eq_nil_iff.mp empty
        obtain ⟨back, isStart⟩ := toList_intercalate_cons "." name rest
        rw [IsQualified, isStart, List.head?_append_of_ne_nil _ notNil]
        simp [StartsDotted, IsQualified, empty]

theorem isQualified_dot (name : String) : IsQualified ("." ++ name) := by
  simp [IsQualified]

/-! ## Qualified names of declarations -/

namespace Symbol

theorem isTrimmed_schemaName (symbol : Symbol) : Naming.IsTrimmed symbol.schemaName :=
  Naming.isTrimmed_dotted [symbol.unit.schemaPackage, symbol.nameWithin id]

theorem isTrimmed_companionName (symbol : Symbol) (style : NameStyle) :
    Naming.IsTrimmed (symbol.companionName style) :=
  Naming.isTrimmed_dotted
    [symbol.unit.outputPackage, symbol.unit.outerClass.companionClass, symbol.nameWithin style]

theorem isTrimmed_javaNameOf (symbol : Symbol) (collided : Bool) (within : String) :
    Naming.IsTrimmed (symbol.javaNameOf collided within) := by
  rw [javaNameOf]
  split
  · exact Naming.isTrimmed_dotted _
  · exact Naming.isTrimmed_dotted _

end Symbol

theorem Descriptor.isTrimmed_javaName (descriptor : Descriptor) (collided : Bool) :
    Naming.IsTrimmed (descriptor.javaName collided) := by
  cases descriptor with
  | message message children => exact message.symbol.isTrimmed_javaNameOf collided _
  | enum enum => exact enum.symbol.isTrimmed_javaNameOf collided _
  | oneof oneof => exact oneof.symbol.isTrimmed_javaNameOf collided _
  | service service => exact service.symbol.isTrimmed_javaNameOf collided _

/-! ## Keys that start with a dot -/

/-- The names on the way to a declaration, in the style of its file. -/
def Descriptor.styledNames (descriptor : Descriptor) : List String :=
  (descriptor.symbol.outers ++ [descriptor.symbol.name]).map descriptor.symbol.unit.style

theorem Descriptor.isQualified_relativeName_iff (descriptor : Descriptor) :
    IsQualified descriptor.relativeName ↔ Naming.StartsDotted descriptor.styledNames :=
  Naming.isQualified_intercalate_iff

namespace Registry

/-- What a dot in front of a reference is good for in a registry. -/
structure KeepsDotsApart (registry : Registry) : Prop where
  /-- A declaration is kept under its qualified name, which has no dot at its ends.  With a dot in
  front, this name leads to it. -/
  qualified : ∀ (key : String) (descriptor : Descriptor),
    registry.byName[key]? = some descriptor →
      key = descriptor.schemaName ∧ Naming.IsTrimmed key ∧
        registry.resolve ("." ++ key) = .ok descriptor
  /-- What stands behind a dot is a qualified name, or else the whole is a relative name. -/
  dotted : ∀ name : String, registry.resolve? ("." ++ name) =
    registry.byName[name]?.or registry.byRelativeName["." ++ name]?
  /-- A relative name starts with a dot only for what its style has made of the outermost name. -/
  relative : ∀ (key : String) (descriptor : Descriptor),
    registry.byRelativeName[key]? = some descriptor →
      key = descriptor.relativeName ∧
        (IsQualified key ↔ Naming.StartsDotted descriptor.styledNames)

variable {registry : Registry} {history : List Descriptor}

theorem History.getElem?_byName_of_isQualified (past : registry.History history) {key : String}
    (isQualified : IsQualified key) : registry.byName[key]? = none := by
  cases isEntry : registry.byName[key]? with
  | none => rfl
  | some descriptor =>
      obtain ⟨-, isName⟩ := past.consistent.byName_key key descriptor isEntry
      rw [isName] at isQualified
      exact absurd isQualified descriptor.symbol.isTrimmed_schemaName.first

theorem History.keepsDotsApart (past : registry.History history) : registry.KeepsDotsApart where
  qualified := by
    intro key descriptor isEntry
    obtain ⟨-, isName⟩ := past.consistent.byName_key key descriptor isEntry
    refine ⟨isName, ?_, resolve_qualified isEntry⟩
    rw [isName]
    exact descriptor.symbol.isTrimmed_schemaName
  dotted := by
    intro name
    rw [resolve?, undotted?_dot, Option.bind_some,
      past.getElem?_byName_of_isQualified (isQualified_dot name), Option.or_none]
  relative := by
    intro key descriptor isEntry
    obtain ⟨-, isName⟩ := past.consistent.byRelativeName_key key descriptor isEntry
    refine ⟨isName, ?_⟩
    rw [isName]
    exact descriptor.isQualified_relativeName_iff

end Registry

/-- Segments can be joined in groups, and a joined name is a segment that is not changed any more,
since it has no dot at its ends.  So no qualified name of a declaration starts or ends with a dot;
and in every registry that can be reached, a dot in front of a reference tells it from the qualified
names that are kept, and from the relative names but for those whose style starts them with a
dot. -/
theorem joined_names_have_no_outer_dots :
    (∀ segments more : List String,
        dotted (segments ++ more) = dotted [dotted segments, dotted more]) ∧
      (∀ segments : List String, dotted [dotted segments] = dotted segments) ∧
      (∀ segments : List String, Naming.IsTrimmed (dotted segments)) ∧
      (∀ (descriptor : Descriptor) (style : NameStyle) (collided : Bool),
        Naming.IsTrimmed descriptor.schemaName ∧
          Naming.IsTrimmed (descriptor.companionName style) ∧
          Naming.IsTrimmed (descriptor.javaName collided) ∧
          Naming.IsTrimmed (descriptor.symbol.javaName collided)) ∧
      ∀ calls : List Call, (Registry.afterCalls {} calls).KeepsDotsApart := by
  refine ⟨Naming.dotted_append, Naming.dotted_dotted, Naming.isTrimmed_dotted, ?names, ?keys⟩
  case names =>
    intro descriptor style collided
    exact ⟨descriptor.symbol.isTrimmed_schemaName, descriptor.symbol.isTrimmed_companionName style,
      descriptor.isTrimmed_javaName collided, descriptor.symbol.isTrimmed_javaNameOf collided _⟩
  case keys =>
    intro calls
    obtain ⟨history, -, past⟩ := Registry.History.empty.afterCalls calls
    exact past.keepsDotsApart

/-- A package with dots at its ends leaves no dot at the ends of qualified names, so that a dot in
front can be put there and taken off. -/
theorem declaration_in_package_with_outer_dots :
    let file : FileDecl := { package? := some ".a.", messages := [.mk { name? := some "N" } []] }
    let unit : FileUnit := .ofFile 0 file { companionClass := "Companion" }
    let registry := Registry.afterCalls {} [.register unit {} (.file file)]
    dotted [".a.", "", "N"] = dotted [dotted [".a.", ""], dotted ["N"]] ∧
      dotted [".a.", "", "N"] = "a.N" ∧
      ∃ descriptor, registry.byName["a.N"]? = some descriptor ∧ descriptor.schemaName = "a.N" ∧
        ¬ IsQualified descriptor.schemaName ∧ registry.resolve ".a.N" = .ok descriptor := by
  intro file unit registry
  obtain ⟨append, -, -, names, keys⟩ := joined_names_have_no_outer_dots
  have isKept : (registry.byName["a.N"]?).isSome := by decide +kernel
  obtain ⟨descriptor, isEntry⟩ := Option.isSome_iff_exists.mp isKept
  obtain ⟨isName, -, found⟩ := (keys _).qualified "a.N" descriptor isEntry
  have trimmed := (names descriptor id false).1
  exact ⟨append [".a.", ""] ["N"], by decide +kernel, descriptor, isEntry, isName.symm,
    trimmed.first, found⟩

/-- The style of a file leaves nothing of the name of a message, so that the relative name of the
message in it starts with a dot.  A reference to a message outside of all packages leads to it. -/
theorem relative_name_taken_for_dotted_reference :
    let file : FileDecl := {
      package? := some "p"
      messages := [.mk { name? := some "DTO" } [.mk { name? := some "Inner" } []]] }
    let unit : FileUnit := .ofFile 0 file
      { companionClass := "Companion", style := Text.replaceAll "DTO" "" }
    let registry := Registry.afterCalls {} [.register unit {} (.file file)]
    (∀ site ∈ file.sites, IsNamePart site.name) ∧
      registry.names = ["p.DTO", "p.DTO.Inner"] ∧
      IsQualified ".Inner" ∧
      ∃ descriptor, registry.byRelativeName[".Inner"]? = some descriptor ∧
        registry.resolve ".Inner" = .ok descriptor ∧ descriptor.schemaName = "p.DTO.Inner" := by
  intro file unit registry
  have heldName : (registry.byRelativeName[".Inner"]?).map Descriptor.schemaName =
      some "p.DTO.Inner" := by
    decide +kernel
  have notQualified : (registry.byName["Inner"]?).isNone := by decide +kernel
  obtain ⟨descriptor, held, isName⟩ := Option.map_eq_some_iff.mp heldName
  have behindDot : Registry.undotted? ".Inner" = some "Inner" := Registry.undotted?_dot "Inner"
  have found : registry.resolve? ".Inner" = some descriptor := by
    rw [Registry.resolve?, behindDot, Option.bind_some, Option.isNone_iff_eq_none.mp notQualified,
      held]
    rfl
  exact ⟨by decide +kernel, by decide +kernel, by decide, descriptor, held,
    Registry.resolve_eq_ok.mpr found, isName⟩

end ProtoCompanion
