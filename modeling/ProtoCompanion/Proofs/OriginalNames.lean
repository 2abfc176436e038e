/-
Module: ProtoCompanion.Proofs.OriginalNames
Purpose: The names that protobuf-java gives to the declarations of a file, and that later files do
  not change them.
Main exports: FileDecl.effectiveOuterClass, Site.originalName, Describes.javaName_eq, Keeps,
  Registry.afterFile, Registry.afterFiles, registered_original_names
-/
import ProtoCompanion.Proofs.NameClashes
import ProtoCompanion.Proofs.RegistrationContents

/-!
A descriptor does not hold the name of the outer class; it asks the registry for the flag of its
file whenever it is asked for its name.  Two facts make this a name that is fixed once the file was
registered: the flag then tells whether the derived name is among all names of the file, and no
registration writes to the flag of another file.
-/

namespace ProtoCompanion

open Naming (dotted capitalize accessorName)

/-! ## The names, computed from the file -/

/-- The outer class of protobuf-java for a file: the derived name, with the suffix if a declaration
at any depth has that name. -/
def FileDecl.effectiveOuterClass (file : FileDecl) : String :=
  if file.outerClassName ∈ file.sites.map Site.name then file.outerClassName ++ "OuterClass"
  else file.outerClassName

/-- What a declaration is called in protobuf-java.  A oneof is known by the prefix of the class for
its cases. -/
def Declaration.originalName : Declaration → String
  | .oneof _ decl => capitalize (accessorName decl.name)
  | other => other.name

/-- The class that protobuf-java has for the declaration at a site of a file. -/
def Site.originalName (file : FileDecl) (site : Site) : String :=
  let within := ".".intercalate (site.position.outers ++ [site.decl.originalName])
  if file.multipleFiles then dotted [file.outputPackage, within]
  else dotted [file.outputPackage, file.effectiveOuterClass, within]

/-- Descriptors of oneofs and descriptors of the other kinds have their names computed apart; both
put the same package and the same outer class around them. -/
theorem Describes.javaName_eq {unit : FileUnit} {site : Site} {descriptor : Descriptor}
    (describes : Describes unit site descriptor) (collided : Bool) :
    descriptor.javaName collided =
      if unit.outerClass.multipleFiles then
        dotted [unit.outputPackage,
          ".".intercalate (site.position.outers ++ [site.decl.originalName])]
      else
        dotted [unit.outputPackage, unit.outerClass.effective collided,
          ".".intercalate (site.position.outers ++ [site.decl.originalName])] := by
  cases describes with
  | oneof serial position index decl => rfl
  | enum serial position decl =>
      simp only [Descriptor.javaName, Descriptor.symbol, Symbol.javaName, Symbol.nameWithin,
        List.map_id]
      rfl
  | message serial position head nested children describe =>
      simp only [Descriptor.javaName, Descriptor.symbol, Symbol.javaName, Symbol.nameWithin,
        List.map_id]
      rfl
  | service serial position decl methods describe =>
      simp only [Descriptor.javaName, Descriptor.symbol, Symbol.javaName, Symbol.nameWithin,
        List.map_id]
      rfl

/-! ## Flags of the other files -/

/-- Between two registries, no flag was written but that of one file. -/
structure Keeps (unit : FileUnit) (before after : Registry) : Prop where
  length : after.collided.length = before.collided.length
  flags : ∀ other : FileUnit, other.identity ≠ unit.identity →
    after.hasCollision other = before.hasCollision other

variable {unit : FileUnit}

theorem Keeps.refl (registry : Registry) : Keeps unit registry registry := by
  constructor
  · rfl
  · intro other _
    rfl

theorem Keeps.trans {before middle after : Registry} (first : Keeps unit before middle)
    (second : Keeps unit middle after) : Keeps unit before after := by
  constructor
  · exact second.length.trans first.length
  · intro other different
    exact (second.flags other different).trans (first.flags other different)

theorem keeps_setCollision (registry : Registry) (collided : Bool) :
    Keeps unit registry (registry.setCollision unit collided) := by
  constructor
  · simp [Registry.setCollision]
  · intro other different
    exact registry.hasCollision_setCollision_of_ne different collided

theorem Enters.keeps {before after : Registry} {site : Site} {descriptor : Descriptor}
    (enters : Enters unit before site descriptor after) : Keeps unit before after := by
  obtain ⟨collided, _, rfl⟩ := enters.accepted
  have written : Keeps unit before (before.setCollision unit collided) :=
    keeps_setCollision before collided
  exact ⟨written.length, written.flags⟩

theorem Refuses.keeps {before after : Registry} {site : Site} {error : Error}
    (refused : Refuses unit before site error after) : Keeps unit before after := by
  cases refused with
  | name collided rejected => exact keeps_setCollision before collided
  | reference collided reference accepted member unresolved =>
      exact keeps_setCollision before collided

theorem EntersAll.keeps {before after : Registry} {sites : List Site}
    {descriptors : List Descriptor} (entered : EntersAll unit before sites descriptors after) :
    Keeps unit before after := by
  induction entered with
  | nil registry => exact Keeps.refl registry
  | cons first _ ih => exact first.keeps.trans ih

theorem Stops.keeps {before after : Registry} {sites : List Site} {error : Error}
    (stops : Stops unit before sites error after) : Keeps unit before after := by
  induction stops with
  | here rest refused => exact refused.keeps
  | later first _ ih => exact first.keeps.trans ih

/-! ## Later files -/

namespace Registry

/-- The registry after a file was registered, be it with success or not. -/
def afterFile (registry : Registry) (file : FileDecl) (settings : UnitSettings) : Registry :=
  match registerFile file settings registry with
  | .ok _ final => final
  | .error _ final => final

/-- The registry after some files were registered one after the other, be it with success or not. -/
def afterFiles (registry : Registry) (files : List (FileDecl × UnitSettings)) : Registry :=
  files.foldl (fun registry entry => registry.afterFile entry.1 entry.2) registry

theorem keeps_afterFile (registry : Registry) (file : FileDecl) (settings : UnitSettings) :
    Keeps (registry.openFile file settings).1 (registry.openFile file settings).2
      (registry.afterFile file settings) := by
  have run := registerFile_run file settings registry
  rw [afterFile]
  cases result : registerFile file settings registry with
  | ok answer final =>
      rw [result] at run
      exact run.2.1.keeps
  | error error final =>
      rw [result] at run
      exact Stops.keeps run

/-- A file is opened under an identity of its own, so the flags of the files opened before it
stay. -/
theorem hasCollision_afterFile {registry : Registry} {other : FileUnit}
    (opened : other.identity < registry.collided.length) (file : FileDecl)
    (settings : UnitSettings) :
    (registry.afterFile file settings).hasCollision other = registry.hasCollision other := by
  have kept := (registry.keeps_afterFile file settings).flags other (Nat.ne_of_lt opened)
  rw [kept]
  simp only [openFile, hasCollision, List.getD_eq_getElem?_getD,
    List.getElem?_append_left opened]

theorem opened_afterFile {registry : Registry} {other : FileUnit}
    (opened : other.identity < registry.collided.length) (file : FileDecl)
    (settings : UnitSettings) :
    other.identity < (registry.afterFile file settings).collided.length := by
  rw [(registry.keeps_afterFile file settings).length]
  simp only [openFile, List.length_append, List.length_singleton]
  exact Nat.lt_succ_of_lt opened

theorem hasCollision_afterFiles {registry : Registry} {other : FileUnit}
    (opened : other.identity < registry.collided.length)
    (files : List (FileDecl × UnitSettings)) :
    (registry.afterFiles files).hasCollision other = registry.hasCollision other := by
  induction files generalizing registry with
  | nil => rfl
  | cons first rest ih =>
      have later := ih (opened_afterFile opened first.1 first.2)
      rw [hasCollision_afterFile opened first.1 first.2] at later
      exact later

end Registry

/-! ## Whole files -/

/-- The flag of a file that was registered makes the outer class what the file alone says it is. -/
theorem Tracks.effective_eq {file : FileDecl} {settings : UnitSettings} {start registry : Registry}
    (tracks : Tracks (start.openFile file settings).1 registry (file.sites.map Site.name)) :
    (start.openFile file settings).1.outerClass.effective
        (registry.hasCollision (start.openFile file settings).1) =
      file.effectiveOuterClass := by
  rw [tracks.flag, OuterClass.collidedAfter_eq, OuterClass.effective, FileDecl.effectiveOuterClass]
  simp only [decide_eq_true_eq]
  rfl

/-- Every declaration of a file that was registered, at any depth and wherever it stands, has the
outer class and the name that are computed from the file, and still has them after any further files
were registered or could not be.  The names that a file has when its own registration fails do not
change later, either. -/
theorem registered_original_names (file : FileDecl) (settings : UnitSettings) (start : Registry) :
    (match registerFile file settings start with
    | .ok (_, declared) final =>
        List.Forall₂
          (fun site descriptor => ∀ later : List (FileDecl × UnitSettings),
            (final.afterFiles later).outerClassName descriptor.symbol.unit =
                file.effectiveOuterClass ∧
              (final.afterFiles later).javaName descriptor = site.originalName file)
          file.sites declared.descriptors
    | .error _ _ => True) ∧
    ∀ (later : List (FileDecl × UnitSettings)) (descriptor : Descriptor),
      descriptor.symbol.unit = (start.openFile file settings).1 →
        ((start.afterFile file settings).afterFiles later).javaName descriptor =
          (start.afterFile file settings).javaName descriptor := by
  constructor
  · have run := registerFile_run file settings start
    have checks := registerFile_checks file settings start
    cases result : registerFile file settings start with
    | error error final => trivial
    | ok answer final =>
        rw [result] at run checks
        have tracks := checks.2.2
        apply run.2.1.inserts.describe.imp
        intro site descriptor describes later
        have isUnit : descriptor.symbol.unit = (start.openFile file settings).1 := by
          rw [describes.symbol_eq]
        have outer := tracks.effective_eq
        constructor
        · rw [isUnit, Registry.outerClassName, Registry.hasCollision_afterFiles tracks.opened,
            outer]
        · rw [Registry.javaName, isUnit, Registry.hasCollision_afterFiles tracks.opened,
            describes.javaName_eq, outer]
          rfl
  · intro later descriptor isUnit
    have opened : (start.openFile file settings).1.identity <
        (start.afterFile file settings).collided.length := by
      rw [(start.keeps_afterFile file settings).length]
      exact (tracks_openFile start file settings).opened
    rw [Registry.javaName, isUnit, Registry.hasCollision_afterFiles opened, Registry.javaName,
      isUnit]

/-- A message that collides with the outer class of its file keeps its name when the same file is
registered once more. -/
theorem original_name_kept_by_second_registration :
    let file : FileDecl := {
      name? := some "proto.proto"
      messages := [.mk { name? := some "Proto" } []] }
    let settings : UnitSettings := { companionClass := "ProtoRest" }
    let unit := (Registry.openFile {} file settings).1
    let message : Descriptor := .message {
      symbol := ⟨0, "Proto", [], unit⟩
      decl := { name? := some "Proto" }
      comment := ""
      fields := [] } []
    ((Registry.afterFile {} file settings).afterFiles [(file, settings)]).javaName message =
      "ProtoOuterClass.Proto" := by
  intro file settings unit message
  have kept := (registered_original_names file settings {}).2 [(file, settings)] message rfl
  rw [kept]
  decide +kernel

end ProtoCompanion
