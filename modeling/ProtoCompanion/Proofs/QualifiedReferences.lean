/-
Module: ProtoCompanion.Proofs.QualifiedReferences
Purpose: References that start with a dot are answered by qualified names alone.
Main exports: IsQualified, FileDecl.FullyQualified, Registry.Undotted, Registry.Undotted.insert,
  Registry.Undotted.resolve?_eq
-/
import ProtoCompanion.Proofs.NameLookup
import ProtoCompanion.Proofs.ReferenceOrder

/-!
A reference is read in three ways, of which only the first takes off the dot in front.  The other
two look for a name that starts with a dot itself.  No qualified name does, and no relative name
that is joined from names without dots does, so for such references the first reading is the only
one.
-/

namespace ProtoCompanion

open Naming (NameStyle dotted)

/-- A reference that starts with a dot. -/
def IsQualified (reference : String) : Prop := reference.toList.head? = some '.'

instance (reference : String) : Decidable (IsQualified reference) :=
  inferInstanceAs (Decidable (reference.toList.head? = some '.'))

theorem IsQualified.exists_undotted {reference : String} (isQualified : IsQualified reference) :
    ∃ name, Registry.undotted? reference = some name := by
  rw [IsQualified, List.head?_eq_some_iff] at isQualified
  obtain ⟨rest, start⟩ := isQualified
  refine ⟨String.ofList rest, ?_⟩
  rw [Registry.undotted?, start]
  rfl

/-! ## Names that start with no dot -/

/-- Joined segments start with no dot: the dots at their ends were dropped. -/
theorem Naming.dotted_not_qualified (segments : List String) :
    ¬ IsQualified (dotted segments) :=
  (isTrimmed_dotted segments).first

/-- Joined names start with no dot when the names have none. -/
theorem Naming.intercalate_not_qualified {names : List String}
    (named : ∀ name ∈ names, IsNamePart name) : ¬ IsQualified (".".intercalate names) :=
  (isTrimmed_intercalate_of_named named).first

/-! ## Files with qualified references -/

/-- The names of a file are fit to stand between dots, and all types that it refers to are given by
qualified references. -/
structure FileDecl.FullyQualified (file : FileDecl) : Prop where
  named : ∀ site ∈ file.sites, IsNamePart site.name
  methods : ∀ site ∈ file.sites, ∀ reference ∈ site.decl.references, IsQualified reference
  fields : ∀ site ∈ file.sites, ∀ field ∈ site.decl.fields,
    field.type = .message ∨ field.type = .enum → IsQualified field.typeName

instance (file : FileDecl) : Decidable file.FullyQualified :=
  decidable_of_iff
    ((∀ site ∈ file.sites, IsNamePart site.name) ∧
      (∀ site ∈ file.sites, ∀ reference ∈ site.decl.references, IsQualified reference) ∧
      ∀ site ∈ file.sites, ∀ field ∈ site.decl.fields,
        field.type = .message ∨ field.type = .enum → IsQualified field.typeName)
    ⟨fun ⟨named, methods, fields⟩ => ⟨named, methods, fields⟩,
      fun qualified => ⟨qualified.named, qualified.methods, qualified.fields⟩⟩

/-- A declaration whose relative name starts with no dot, while all its references do. -/
structure Site.Plain (style : NameStyle) (site : Site) : Prop where
  relative : ¬ IsQualified (".".intercalate ((site.position.outers ++ [site.name]).map style))
  references : ∀ reference ∈ site.decl.references, IsQualified reference
  fields : ∀ field ∈ site.decl.fields,
    field.type = .message ∨ field.type = .enum → IsQualified field.typeName

theorem FileDecl.FullyQualified.plain {file : FileDecl} (qualified : file.FullyQualified)
    {site : Site} (member : site ∈ file.sites) : site.Plain id where
  relative := by
    rw [List.map_id]
    exact Naming.intercalate_not_qualified (FileDecl.parts_named qualified.named member)
  references := qualified.methods site member
  fields := qualified.fields site member

/-! ## Registries without dotted names -/

/-- No declaration is kept under a name that starts with a dot. -/
structure Registry.Undotted (registry : Registry) : Prop where
  byName : ∀ name, IsQualified name → registry.byName[name]? = none
  byRelativeName : ∀ name, IsQualified name → registry.byRelativeName[name]? = none

namespace Registry

theorem undotted_empty : Undotted {} := by
  constructor <;> intro name _ <;> exact Std.TreeMap.getElem?_emptyc

theorem Undotted.insert {registry : Registry} {descriptor : Descriptor}
    (undotted : registry.Undotted) (relative : ¬ IsQualified descriptor.relativeName) :
    (registry.insert descriptor).Undotted := by
  constructor
  · intro name isQualified
    have other : descriptor.schemaName ≠ name := by
      rintro rfl
      exact Naming.dotted_not_qualified _ isQualified
    rw [Registry.insert, Std.TreeMap.getElem?_insert, if_neg (by simpa using other)]
    exact undotted.byName name isQualified
  · intro name isQualified
    have other : descriptor.relativeName ≠ name := by
      rintro rfl
      exact relative isQualified
    rw [Registry.insert, Std.TreeMap.getElem?_insert, if_neg (by simpa using other)]
    exact undotted.byRelativeName name isQualified

/-- A qualified reference has one reading, as a qualified name. -/
theorem Undotted.resolve?_eq {registry : Registry} {reference name : String}
    (undotted : registry.Undotted) (isName : undotted? reference = some name) :
    registry.resolve? reference = registry.byName[name]? := by
  have isQualified : IsQualified reference := by
    by_contra plain
    rw [undotted?_eq_none plain] at isName
    cases isName
  rw [resolve?, isName, undotted.byName reference isQualified,
    undotted.byRelativeName reference isQualified]
  simp

end Registry

end ProtoCompanion
