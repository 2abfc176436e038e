/-
Module: ProtoCompanion.Proofs.OptionalDots
Purpose: What the dot in front of a qualified name is good for.
Main exports: Registry.History.resolve_dotted, Registry.History.resolve_schemaName,
  leading_dot_optional_unless_relative, qualified_name_hidden_by_relative_name
-/
import ProtoCompanion.Proofs.QualifiedReferences
import ProtoCompanion.Proofs.ReachableRegistries

/-!
A name without a dot in front is taken as a relative name first.  The relative names of one file can
be spelled like the qualified names of another, or even of the same file, when a message is named
like a package.  So the dot can be left away only where no relative name comes in between.
-/

namespace ProtoCompanion

namespace Registry.History

variable {registry : Registry} {history : List Descriptor} {descriptor exact : Descriptor}

theorem resolve_dotted (past : registry.History history)
    (found : latest? Descriptor.schemaName descriptor.schemaName history = some exact) :
    registry.resolve ("." ++ descriptor.schemaName) = .ok exact := by
  apply resolve_qualified
  rw [past.getElem?_byName, found]

/-- A qualified name has no dot in front, so without one it is not read as a qualified name until
it has turned out to be no relative name. -/
theorem resolve_schemaName (past : registry.History history)
    (found : latest? Descriptor.schemaName descriptor.schemaName history = some exact) :
    registry.resolve descriptor.schemaName =
      .ok ((latest? Descriptor.relativeName descriptor.schemaName history).getD exact) := by
  have undotted : undotted? descriptor.schemaName = none :=
    undotted?_eq_none (Naming.dotted_not_qualified _)
  rw [resolve, resolve?, undotted, past.getElem?_byRelativeName, past.getElem?_byName, found]
  cases latest? Descriptor.relativeName descriptor.schemaName history <;> rfl

end Registry.History

/-- Whatever has been registered, the qualified name of a declaration with a dot in front leads to
the last declaration of that qualified name.  Without the dot it leads to the last declaration that
has it as its relative name, and only if there is none, to the same declaration as with the dot. -/
theorem leading_dot_optional_unless_relative (calls : List Call) :
    ∃ history, (Registry.afterCalls {} calls).History history ∧
      ∀ descriptor ∈ history, ∃ exact,
        latest? Descriptor.schemaName descriptor.schemaName history = some exact ∧
        (Registry.afterCalls {} calls).resolve ("." ++ descriptor.schemaName) = .ok exact ∧
        (Registry.afterCalls {} calls).resolve descriptor.schemaName =
          .ok ((latest? Descriptor.relativeName descriptor.schemaName history).getD exact) ∧
        ((∀ other ∈ history, other.relativeName ≠ descriptor.schemaName) →
          (Registry.afterCalls {} calls).resolve descriptor.schemaName =
            (Registry.afterCalls {} calls).resolve ("." ++ descriptor.schemaName)) := by
  obtain ⟨history, -, past⟩ := Registry.History.empty.afterCalls calls
  refine ⟨_, past, ?_⟩
  intro descriptor member
  obtain ⟨exact, found, -⟩ := past.exists_latest Descriptor.schemaName member
  refine ⟨exact, found, past.resolve_dotted found, past.resolve_schemaName found, ?_⟩
  intro unused
  rw [past.resolve_dotted found, past.resolve_schemaName found, latest?_eq_none.mpr unused]
  rfl

/-- A file in another package uses no name that looks like the qualified one, so the dot can be left
away. -/
theorem nested_message_found_without_dot :
    let file (package : String) : FileDecl := {
      package? := some package
      messages := [.mk { name? := some "Outer" } [.mk { name? := some "Inner" } []]] }
    let unit (package : String) : FileUnit :=
      .ofFile 0 (file package) { companionClass := "Companion" }
    let registry := Registry.afterCalls {}
      [.register (unit "first") {} (.file (file "first")),
        .register (unit "second") {} (.file (file "second"))]
    registry.resolves ".first.Outer.Inner" ∧
      registry.resolve "first.Outer.Inner" = registry.resolve ".first.Outer.Inner" := by
  intro file unit registry
  have named : (registry.byName["first.Outer.Inner"]?).map Descriptor.schemaName =
      some "first.Outer.Inner" := by
    decide +kernel
  have notRelative : (registry.byRelativeName["first.Outer.Inner"]?).isNone := by decide +kernel
  obtain ⟨descriptor, isEntry, isName⟩ := Option.map_eq_some_iff.mp named
  obtain ⟨history, past, optional⟩ := leading_dot_optional_unless_relative
    [.register (unit "first") {} (.file (file "first")),
      .register (unit "second") {} (.file (file "second"))]
  change registry.History history at past
  rw [past.getElem?_byName] at isEntry
  rw [Option.isNone_iff_eq_none, past.getElem?_byRelativeName, latest?_eq_none] at notRelative
  obtain ⟨exact, -, -, -, same⟩ := optional descriptor (latest?_eq_some isEntry).1
  rw [isName] at same
  exact ⟨by decide +kernel, same notRelative⟩

/-- A message is named like the package of its file, and has a message nested in it that is named
like one next to it.  Without a dot, the qualified name of the latter leads to the former. -/
theorem qualified_name_hidden_by_relative_name :
    let file : FileDecl := {
      package? := some "a"
      messages := [
        .mk { name? := some "B" } [],
        .mk { name? := some "a" } [.mk { name? := some "B" } []]] }
    let unit : FileUnit := .ofFile 0 file { companionClass := "Companion" }
    let registry := Registry.afterCalls {} [.register unit {} (.file file)]
    (∀ site ∈ file.sites, IsNamePart site.name) ∧
      ∃ dotted bare, registry.resolve ".a.B" = .ok dotted ∧ dotted.schemaName = "a.B" ∧
        registry.resolve "a.B" = .ok bare ∧ bare.schemaName = "a.a.B" ∧
        registry.resolve "a.B" ≠ registry.resolve ".a.B" := by
  intro file unit registry
  have withDot : (registry.resolve? ".a.B").map Descriptor.schemaName = some "a.B" := by
    decide +kernel
  have withoutDot : (registry.resolve? "a.B").map Descriptor.schemaName = some "a.a.B" := by
    decide +kernel
  obtain ⟨dotted, isDotted, dottedName⟩ := Option.map_eq_some_iff.mp withDot
  obtain ⟨bare, isBare, bareName⟩ := Option.map_eq_some_iff.mp withoutDot
  have resolveDotted := Registry.resolve_eq_ok.mpr isDotted
  have resolveBare := Registry.resolve_eq_ok.mpr isBare
  refine ⟨by decide +kernel, dotted, bare, resolveDotted, dottedName, resolveBare, bareName, ?_⟩
  rw [resolveDotted, resolveBare]
  intro same
  rw [Except.ok.inj same, dottedName] at bareName
  exact absurd bareName (by decide)

end ProtoCompanion
