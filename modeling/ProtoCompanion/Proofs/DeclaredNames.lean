/-
Module: ProtoCompanion.Proofs.DeclaredNames
Purpose: Declarations of a file have different names if those that stand next to each other do.
Main exports: IsNamePart, Site.parts, FileDecl.WellNamed, Naming.intercalate_dot_inj,
  Naming.dotted_package_inj, FileDecl.WellNamed.nodup_parts, FileDecl.WellNamed.nodup_schemaName
-/
import Mathlib.Data.List.Nodup
import ProtoCompanion.Proofs.JoinedNames
import ProtoCompanion.Proofs.RegisteredFiles

/-!
The qualified name of a declaration is made of the names on the way to it.  Two steps make it tell
declarations apart: the names on the way are different lists for different declarations, and names
that are not empty and have no dots can be read back from where they were joined.
-/

namespace ProtoCompanion

open Naming (dotted trimDots)

/-! ## Joining names by dots -/

/-- A name that can stand between two dots. -/
def IsNamePart (name : String) : Prop := name ≠ "" ∧ '.' ∉ name.toList

instance (name : String) : Decidable (IsNamePart name) :=
  inferInstanceAs (Decidable (name ≠ "" ∧ '.' ∉ name.toList))

namespace Naming

/-- Names without dots can be read back from where they were joined. -/
theorem intercalate_dot_inj {names others : List String} (named : ∀ name ∈ names, IsNamePart name)
    (othersNamed : ∀ name ∈ others, IsNamePart name) (some : names ≠ []) (someOther : others ≠ [])
    (same : ".".intercalate names = ".".intercalate others) : names = others := by
  have recovered : ∀ parts : List String, (∀ name ∈ parts, IsNamePart name) → parts ≠ [] →
      (".".intercalate parts).toList.splitOn '.' = parts.map String.toList := by
    intro parts partsNamed nonempty
    rw [String.toList_intercalate]
    apply List.splitOn_intercalate
    · intro cs member
      obtain ⟨name, isPart, rfl⟩ := List.mem_map.mp member
      exact (partsNamed name isPart).2
    · simpa using nonempty
  have lists : names.map String.toList = others.map String.toList := by
    rw [← recovered names named some, ← recovered others othersNamed someOther, same]
  exact List.map_injective_iff.mpr (fun _ _ => String.toList_injective) lists

theorem isTrimmed_of_isNamePart {name : String} (isPart : IsNamePart name) : IsTrimmed name where
  first isDot := isPart.2 (List.mem_of_mem_head? isDot)
  last isDot := isPart.2 (List.mem_of_mem_getLast? isDot)

/-- Joined names have no dots at their ends. -/
theorem isTrimmed_intercalate_of_named {names : List String}
    (named : ∀ name ∈ names, IsNamePart name) : IsTrimmed (".".intercalate names) := by
  apply isTrimmed_intercalate
  intro name member
  exact ⟨(named name member).1, isTrimmed_of_isNamePart (named name member)⟩

theorem trimDots_intercalate {names : List String} (named : ∀ name ∈ names, IsNamePart name) :
    trimDots (".".intercalate names) = ".".intercalate names :=
  (isTrimmed_intercalate_of_named named).trimDots_eq

theorem intercalate_ne_empty {names : List String} (named : ∀ name ∈ names, IsNamePart name)
    (some : names ≠ []) : ".".intercalate names ≠ "" := by
  cases names with
  | nil => exact absurd rfl some
  | cons name rest =>
      have nonempty := (named name List.mem_cons_self).1
      cases rest <;> simp [nonempty]

/-- A package in front of joined names does not hide their differences. -/
theorem dotted_package_inj {package : String} {names others : List String}
    (named : ∀ name ∈ names, IsNamePart name) (othersNamed : ∀ name ∈ others, IsNamePart name)
    (some : names ≠ []) (someOther : others ≠ [])
    (same : dotted [package, ".".intercalate names] = dotted [package, ".".intercalate others]) :
    names = others := by
  apply intercalate_dot_inj named othersNamed some someOther
  have first := intercalate_ne_empty named some
  have second := intercalate_ne_empty othersNamed someOther
  by_cases unnamed : trimDots package = ""
  · simpa [dotted, trimDots_intercalate named, trimDots_intercalate othersNamed, first, second,
      unnamed] using same
  · simpa [dotted, trimDots_intercalate named, trimDots_intercalate othersNamed, first, second,
      unnamed] using same

end Naming

/-! ## Names on the way to a declaration -/

namespace Site

/-- The names on the way to a declaration, its own name last. -/
def parts (site : Site) : List String := site.position.outers ++ [site.name]

/-- The name of a declaration inside its file: `Outer.Inner`. -/
def pathName (site : Site) : String := ".".intercalate site.parts

theorem parts_ne_nil (site : Site) : site.parts ≠ [] := by simp [parts]

end Site

/-- The names of a file tell neighbours apart: all are fit to stand between dots, and declarations
that stand next to each other, at the top level or in one message, have different names. -/
structure FileDecl.WellNamed (file : FileDecl) : Prop where
  named : ∀ site ∈ file.sites, IsNamePart site.name
  topLevel : ((file.enumSites ++ file.messageSites ++ file.serviceSites).map Site.name).Nodup
  siblings : ∀ site ∈ file.sites, (site.children.map Site.name).Nodup

/-! ## Trees of declarations -/

theorem Position.mem_sites {α : Type} {position : Position} {kind : ElementList}
    {declaration : Nat → α → Declaration} {xs : List α} {site : Site}
    (member : site ∈ position.sites kind declaration xs) :
    ∃ index, ∃ x ∈ xs, site = ⟨(position.inList kind).element index, declaration index x⟩ :=
  Position.mem_elements member

namespace Site

/-- Induction on sites, with the property at hand for all that is nested in a declaration. -/
theorem nestedInduction {motive : Site → Prop}
    (step : ∀ site, (∀ child ∈ site.children, motive child) → motive site) (site : Site) :
    motive site := by
  have leaf : ∀ site : Site, site.children = [] → motive site := by
    intro site none
    apply step
    simp [none]
  obtain ⟨position, decl⟩ := site
  cases decl with
  | enum decl => exact leaf _ rfl
  | oneof index decl => exact leaf _ rfl
  | service decl => exact leaf _ rfl
  | message decl =>
      induction decl using MessageDecl.nestedInduction generalizing position with
      | mk head nested ih =>
          apply step
          intro child member
          simp only [children, List.mem_append] at member
          rcases member with (member | member) | member
          · obtain ⟨index, inner, isNested, rfl⟩ := Position.mem_sites member
            exact ih inner isNested _
          · obtain ⟨index, inner, -, rfl⟩ := Position.mem_sites member
            exact leaf _ rfl
          · obtain ⟨index, inner, -, rfl⟩ := Position.mem_sites member
            exact leaf _ rfl

/-- Around what is nested in a declaration stand the names on the way to the declaration. -/
theorem outers_of_mem_children {site child : Site} (member : child ∈ site.children) :
    child.position.outers = site.parts := by
  obtain ⟨position, decl⟩ := site
  cases decl with
  | enum decl => simp [children] at member
  | oneof index decl => simp [children] at member
  | service decl => simp [children] at member
  | message decl =>
      obtain ⟨head, nested⟩ := decl
      simp only [children, List.mem_append] at member
      rcases member with (member | member) | member <;>
        obtain ⟨index, inner, -, rfl⟩ := Position.mem_sites member <;> rfl

theorem mem_postorder_self (site : Site) : site ∈ site.postorder := by
  rw [postorder_eq]
  simp

theorem mem_postorder_of_child {site child inner : Site} (member : child ∈ site.children)
    (below : inner ∈ child.postorder) : inner ∈ site.postorder := by
  rw [postorder_eq]
  exact List.mem_append_left _ (List.mem_flatMap.mpr ⟨child, member, below⟩)

/-- Every name on the way from a declaration to one nested in it is the name of a declaration. -/
theorem parts_of_mem_postorder {root site : Site} (member : site ∈ root.postorder) :
    root.parts <+: site.parts ∧
      ∀ part ∈ site.parts, part ∈ root.position.outers ∨
        ∃ other ∈ root.postorder, part = other.name := by
  induction root using Site.nestedInduction with
  | step root ih =>
      rw [postorder_eq] at member
      rcases List.mem_append.mp member with below | own
      · obtain ⟨child, isChild, inside⟩ := List.mem_flatMap.mp below
        obtain ⟨prefixed, named⟩ := ih child isChild inside
        have outers := outers_of_mem_children isChild
        have step : root.parts <+: child.parts := by
          rw [← outers]
          exact List.prefix_append _ _
        refine ⟨step.trans prefixed, ?_⟩
        intro part isPart
        rcases named part isPart with outer | ⟨other, isOther, isName⟩
        · rw [outers] at outer
          rcases List.mem_append.mp outer with further | ownName
          · exact .inl further
          · exact .inr ⟨root, root.mem_postorder_self, List.mem_singleton.mp ownName⟩
        · exact .inr ⟨other, mem_postorder_of_child isChild isOther, isName⟩
      · rw [List.mem_singleton.mp own]
        refine ⟨List.prefix_rfl, ?_⟩
        intro part isPart
        rcases List.mem_append.mp isPart with outer | ownName
        · exact .inl outer
        · exact .inr ⟨root, root.mem_postorder_self, List.mem_singleton.mp ownName⟩

/-- Declarations in different trees that stand next to each other have different names on the way:
these begin with the names of the two roots. -/
theorem nodup_parts_of_siblings {outers : List String} {roots : List Site}
    (around : ∀ root ∈ roots, root.position.outers = outers)
    (distinct : (roots.map Site.name).Nodup)
    (each : ∀ root ∈ roots, (root.postorder.map parts).Nodup) :
    ((roots.flatMap postorder).map parts).Nodup := by
  induction roots with
  | nil => simp
  | cons root rest ih =>
      rw [List.map_cons, List.nodup_cons] at distinct
      have later := ih (fun other member => around other (List.mem_cons_of_mem root member))
        distinct.2 (fun other member => each other (List.mem_cons_of_mem root member))
      rw [List.flatMap_cons, List.map_append]
      refine List.Nodup.append (each root List.mem_cons_self) later ?_
      intro names inFirst inLater
      obtain ⟨site, isBelow, rfl⟩ := List.mem_map.mp inFirst
      obtain ⟨otherSite, isBelowOther, same⟩ := List.mem_map.mp inLater
      obtain ⟨other, isOther, below⟩ := List.mem_flatMap.mp isBelowOther
      have first := (parts_of_mem_postorder isBelow).1
      have second := (parts_of_mem_postorder below).1
      rw [same] at second
      have sameOuters := (around root List.mem_cons_self).trans
        (around other (List.mem_cons_of_mem root isOther)).symm
      have sameParts : root.parts = other.parts := by
        apply List.IsPrefix.eq_of_length (List.prefix_of_prefix_length_le first second ?_)
        all_goals simp [parts, sameOuters]
      have sameName : root.name = other.name := by
        simpa [parts, sameOuters] using sameParts
      exact distinct.1 (sameName ▸ List.mem_map_of_mem isOther)

/-- In the tree of a declaration no two declarations have the same names on the way. -/
theorem nodup_parts {root : Site}
    (siblings : ∀ site ∈ root.postorder, (site.children.map Site.name).Nodup) :
    (root.postorder.map parts).Nodup := by
  induction root using Site.nestedInduction with
  | step root ih =>
      have below := nodup_parts_of_siblings (fun child member => outers_of_mem_children member)
        (siblings root root.mem_postorder_self) (fun child member => ih child member
          fun site inside => siblings site (mem_postorder_of_child member inside))
      rw [postorder_eq, List.map_append]
      refine List.Nodup.append below (List.nodup_singleton _) ?_
      intro names inBelow isOwn
      obtain ⟨site, isBelow, rfl⟩ := List.mem_map.mp inBelow
      obtain ⟨child, isChild, inside⟩ := List.mem_flatMap.mp isBelow
      have longer := (parts_of_mem_postorder inside).1.length_le
      have same : site.parts = root.parts := by simpa using isOwn
      rw [same, parts, outers_of_mem_children isChild, List.length_append] at longer
      exact absurd longer (Nat.not_succ_le_self _)

end Site

/-! ## Files -/

namespace FileDecl

variable {file : FileDecl}

theorem outers_of_mem_topLevel {site : Site}
    (member : site ∈ file.enumSites ++ file.messageSites ++ file.serviceSites) :
    site.position.outers = [] := by
  simp only [List.mem_append] at member
  rcases member with (member | member) | member <;>
    obtain ⟨index, decl, -, rfl⟩ := Position.mem_sites member <;> rfl

theorem mem_sites_of_topLevel {root site : Site}
    (member : root ∈ file.enumSites ++ file.messageSites ++ file.serviceSites)
    (below : site ∈ root.postorder) : site ∈ file.sites := by
  rw [sites_eq]
  exact List.mem_flatMap.mpr ⟨root, member, below⟩

/-- The names on the way to a declaration are names of declarations. -/
theorem parts_named (named : ∀ site ∈ file.sites, IsNamePart site.name) {site : Site}
    (member : site ∈ file.sites) : ∀ part ∈ site.parts, IsNamePart part := by
  rw [sites_eq] at member
  obtain ⟨root, isRoot, below⟩ := List.mem_flatMap.mp member
  intro part isPart
  rcases (Site.parts_of_mem_postorder below).2 part isPart with outer | ⟨other, isOther, rfl⟩
  · simp [outers_of_mem_topLevel isRoot] at outer
  · exact named other (mem_sites_of_topLevel isRoot isOther)

namespace WellNamed

theorem parts_named (wellNamed : file.WellNamed) {site : Site} (member : site ∈ file.sites) :
    ∀ part ∈ site.parts, IsNamePart part :=
  FileDecl.parts_named wellNamed.named member

/-- The names on the way to a declaration are different for different declarations of a file. -/
theorem nodup_parts (wellNamed : file.WellNamed) : (file.sites.map Site.parts).Nodup := by
  rw [sites_eq]
  refine Site.nodup_parts_of_siblings (fun root isRoot => outers_of_mem_topLevel isRoot)
    wellNamed.topLevel ?_
  intro root isRoot
  apply Site.nodup_parts
  intro site below
  exact wellNamed.siblings site (mem_sites_of_topLevel isRoot below)

/-- Different declarations of a file have different qualified names. -/
theorem nodup_schemaName (wellNamed : file.WellNamed) :
    (file.sites.map file.schemaName).Nodup := by
  have parts := wellNamed.nodup_parts
  apply List.Nodup.map_on _ (List.Nodup.of_map _ parts)
  intro site member other isOther same
  have sameParts := Naming.dotted_package_inj (wellNamed.parts_named member)
    (wellNamed.parts_named isOther) site.parts_ne_nil other.parts_ne_nil same
  exact List.inj_on_of_nodup_map parts member isOther sameParts

end WellNamed

end FileDecl

end ProtoCompanion
