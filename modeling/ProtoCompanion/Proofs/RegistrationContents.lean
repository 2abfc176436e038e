/-
Module: ProtoCompanion.Proofs.RegistrationContents
Purpose: What the registration of a file leaves in the registry, and what it answers.
Main exports: Site.schemaName, Site.relativeName, Inserts, EntersAll.inserts,
  ClosedUnderChildren, registerFile_inserts_in_order
-/
import ProtoCompanion.Proofs.RegistrationWalk

/-!
The two maps of the registry are updated by one insertion for each declaration, in the order of
registration.  The keys are computed from the file; the descriptors are numbered one after the
other, so two of them are never taken for the same.
-/

namespace ProtoCompanion

open Naming (dotted)

/-! ## Insertions -/

/-- The qualified name of a declaration in the schema: the package, the messages around it and its
own name. -/
def Site.schemaName (unit : FileUnit) (site : Site) : String :=
  dotted [unit.schemaPackage, ".".intercalate (site.position.outers ++ [site.name])]

/-- The name of a declaration relative to the outer class, in the style of the file. -/
def Site.relativeName (unit : FileUnit) (site : Site) : String :=
  ".".intercalate ((site.position.outers ++ [site.name]).map unit.style)

theorem Describes.schemaName_eq {unit : FileUnit} {site : Site} {descriptor : Descriptor}
    (describes : Describes unit site descriptor) :
    descriptor.schemaName = site.schemaName unit := by
  rw [Descriptor.schemaName, describes.symbol_eq, Symbol.schemaName, Symbol.nameWithin,
    List.map_id, Site.schemaName]

theorem Describes.relativeName_eq {unit : FileUnit} {site : Site} {descriptor : Descriptor}
    (describes : Describes unit site descriptor) :
    descriptor.relativeName = site.relativeName unit := by
  rw [Descriptor.relativeName, describes.symbol_eq, Symbol.nameWithin, Site.relativeName]

/-- Between two registries, a list of declarations was inserted: each got a descriptor with a number
of its own, which went into both maps, where it replaced what had the same name. -/
structure Inserts (unit : FileUnit) (before : Registry) (sites : List Site)
    (descriptors : List Descriptor) (after : Registry) : Prop where
  describe : List.Forall₂ (Describes unit) sites descriptors
  serials : descriptors.map (·.symbol.serial) =
    List.range' before.registrations descriptors.length
  byName : after.byName =
    (sites.zip descriptors).foldl
      (fun names entry => names.insert (entry.1.schemaName unit) entry.2) before.byName
  byRelativeName : after.byRelativeName =
    (sites.zip descriptors).foldl
      (fun names entry => names.insert (entry.1.relativeName unit) entry.2) before.byRelativeName

theorem EntersAll.inserts {unit : FileUnit} {before after : Registry} {sites : List Site}
    {descriptors : List Descriptor} (entered : EntersAll unit before sites descriptors after) :
    Inserts unit before sites descriptors after := by
  induction entered with
  | nil registry => exact ⟨.nil, rfl, rfl, rfl⟩
  | cons first _ ih =>
      obtain ⟨collided, _, rfl⟩ := first.accepted
      constructor
      · exact .cons first.describes ih.describe
      · rw [List.map_cons, first.serial, ih.serials, List.length_cons, List.range'_succ]
        rfl
      · rw [ih.byName, List.zip_cons_cons, List.foldl_cons, ← first.describes.schemaName_eq]
        rfl
      · rw [ih.byRelativeName, List.zip_cons_cons, List.foldl_cons,
          ← first.describes.relativeName_eq]
        rfl

/-- Opening a file inserts nothing. -/
theorem Inserts.of_openFile {unit : FileUnit} {start after : Registry} {file : FileDecl}
    {settings : UnitSettings} {sites : List Site} {descriptors : List Descriptor}
    (inserts : Inserts unit (start.openFile file settings).2 sites descriptors after) :
    Inserts unit start sites descriptors after :=
  ⟨inserts.describe, inserts.serials, inserts.byName, inserts.byRelativeName⟩

/-! ## Trees of descriptors -/

section

variable {unit : FileUnit}

theorem Describes.children {site : Site} {descriptor : Descriptor}
    (describes : Describes unit site descriptor) :
    List.Forall₂ (Describes unit) site.children descriptor.children := by
  cases describes with
  | message serial position head nested children describe => exact describe
  | enum serial position decl => exact .nil
  | oneof serial position index decl => exact .nil
  | service serial position decl methods describe => exact .nil

theorem Describes.of_mem_zip {sites : List Site} {descriptors : List Descriptor}
    (describe : List.Forall₂ (Describes unit) sites descriptors) {entry : Site × Descriptor}
    (member : entry ∈ sites.zip descriptors) : Describes unit entry.1 entry.2 :=
  (List.forall₂_iff_zip.mp describe).2 member

/-- The induction is on the descriptor; the site follows, since its children are described by those
of the descriptor. -/
theorem Describes.postorder {site : Site} {descriptor : Descriptor}
    (describes : Describes unit site descriptor) :
    List.Forall₂ (Describes unit) site.postorder descriptor.postorder := by
  induction descriptor using Descriptor.nestedInduction generalizing site with
  | step descriptor ih =>
      have deeper : List.Forall₂
          (fun site descriptor =>
            List.Forall₂ (Describes unit) (Site.postorder site) (Descriptor.postorder descriptor))
          site.children descriptor.children := by
        apply List.forall₂_iff_zip.mpr
        refine ⟨describes.children.length_eq, ?_⟩
        intro child found member
        exact ih found (List.of_mem_zip member).2 (Describes.of_mem_zip describes.children member)
      rw [Site.postorder_eq, Descriptor.postorder_eq, Descriptor.postorders_eq_flatMap]
      apply List.rel_append
      · exact List.rel_flatten (List.forall₂_map_left_iff.mpr
          (List.forall₂_map_right_iff.mpr deeper))
      · exact .cons describes .nil

/-- Declarations and their descriptors are paired in postorder as they are paired in the list. -/
theorem zip_postorders {sites : List Site} {descriptors : List Descriptor}
    (describe : List.Forall₂ (Describes unit) sites descriptors) :
    (sites.flatMap Site.postorder).zip (Descriptor.postorders descriptors) =
      (sites.zip descriptors).flatMap fun entry => entry.1.postorder.zip entry.2.postorder := by
  induction describe with
  | nil => rfl
  | cons first _ ih =>
      rw [List.flatMap_cons, Descriptor.postorders, List.zip_append first.postorder.length_eq, ih,
        List.zip_cons_cons, List.flatMap_cons]

theorem Describes.zip_postorder {site : Site} {descriptor : Descriptor}
    (describes : Describes unit site descriptor) :
    site.postorder.zip descriptor.postorder =
      (site.children.zip descriptor.children).flatMap
        (fun entry => entry.1.postorder.zip entry.2.postorder) ++ [(site, descriptor)] := by
  have sameLength : (site.children.flatMap Site.postorder).length =
      (Descriptor.postorders descriptor.children).length := by
    have whole := describes.postorder.length_eq
    rw [Site.postorder_eq, Descriptor.postorder_eq, List.length_append, List.length_append] at whole
    exact Nat.add_right_cancel whole
  rw [Site.postorder_eq, Descriptor.postorder_eq, List.zip_append sameLength,
    zip_postorders describes.children]
  rfl

/-- Declarations and their descriptors are closed under nesting: with a message they have all that
is nested directly in it, each with the child of the message's descriptor that belongs to it. -/
def ClosedUnderChildren (entries : List (Site × Descriptor)) : Prop :=
  ∀ entry ∈ entries, ∀ child ∈ entry.1.children.zip entry.2.children, child ∈ entries

theorem Describes.closed {site : Site} {descriptor : Descriptor}
    (describes : Describes unit site descriptor) :
    ClosedUnderChildren (site.postorder.zip descriptor.postorder) := by
  induction descriptor using Descriptor.nestedInduction generalizing site with
  | step descriptor ih =>
      intro entry member child isChild
      rw [describes.zip_postorder] at member ⊢
      apply List.mem_append_left
      apply List.mem_flatMap.mpr
      rcases List.mem_append.mp member with deeper | own
      · obtain ⟨top, isTop, below⟩ := List.mem_flatMap.mp deeper
        have closed := ih top.2 (List.of_mem_zip isTop).2
          (Describes.of_mem_zip describes.children isTop)
        exact ⟨top, isTop, closed entry below child isChild⟩
      · -- A child of the root comes last in its own postorder.
        rw [List.mem_singleton.mp own] at isChild
        refine ⟨child, isChild, ?_⟩
        rw [(Describes.of_mem_zip describes.children isChild).zip_postorder]
        exact List.mem_append_right _ List.mem_cons_self

theorem closed_postorders {sites : List Site} {descriptors : List Descriptor}
    (describe : List.Forall₂ (Describes unit) sites descriptors) :
    ClosedUnderChildren
      ((sites.flatMap Site.postorder).zip (Descriptor.postorders descriptors)) := by
  intro entry member child isChild
  rw [zip_postorders describe] at member ⊢
  obtain ⟨top, isTop, below⟩ := List.mem_flatMap.mp member
  have closed := (Describes.of_mem_zip describe isTop).closed
  exact List.mem_flatMap.mpr ⟨top, isTop, closed entry below child isChild⟩

end

/-! ## Whole files -/

theorem FileDecl.closed_of_describe {unit : FileUnit} {file : FileDecl} {declared : TopLevel}
    (enums : List.Forall₂ (Describes unit) file.enumSites declared.enums)
    (messages : List.Forall₂ (Describes unit) file.messageSites declared.messages)
    (services : List.Forall₂ (Describes unit) file.serviceSites declared.services) :
    ClosedUnderChildren (file.sites.zip declared.descriptors) := by
  rw [FileDecl.sites_eq, TopLevel.descriptors]
  exact closed_postorders (List.rel_append (List.rel_append enums messages) services)

/-- Registering a file inserts its declarations in order.  The answer has the descriptors of the
top-level declarations; these and their children, at every depth, are what was inserted.  A
registration that fails has inserted the declarations before the one that was refused, and no
other. -/
theorem registerFile_inserts_in_order (file : FileDecl) (settings : UnitSettings)
    (start : Registry) :
    match registerFile file settings start with
    | .ok (unit, declared) final =>
        unit = (start.openFile file settings).1 ∧
          Inserts unit start file.sites declared.descriptors final ∧
          List.Forall₂ (Describes unit) file.messageSites declared.messages ∧
          List.Forall₂ (Describes unit) file.enumSites declared.enums ∧
          List.Forall₂ (Describes unit) file.serviceSites declared.services ∧
          ClosedUnderChildren (file.sites.zip declared.descriptors)
    | .error error final =>
        ∃ done refused rest inserted middle,
          file.sites = done ++ refused :: rest ∧
            Inserts (start.openFile file settings).1 start done inserted middle ∧
            Refuses (start.openFile file settings).1 middle refused error final ∧
            final.byName = middle.byName ∧
            final.byRelativeName = middle.byRelativeName := by
  have run := registerFile_run file settings start
  cases result : registerFile file settings start with
  | ok answer final =>
      obtain ⟨unit, declared⟩ := answer
      rw [result] at run
      obtain ⟨rfl, entered, enums, messages, services⟩ := run
      exact ⟨rfl, entered.inserts.of_openFile, messages, enums, services,
        FileDecl.closed_of_describe enums messages services⟩
  | error error final =>
      rw [result] at run
      obtain ⟨done, refused, rest, inserted, middle, split, entered, refuses⟩ := Stops.split run
      exact ⟨done, refused, rest, inserted, middle, split, entered.inserts.of_openFile, refuses,
        refuses.maps_eq⟩

end ProtoCompanion
