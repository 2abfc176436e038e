/-
Module: ProtoCompanion.Proofs.RegisteredFiles
Purpose: What the registration of several files, one after the other, leaves in the registry.
Main exports: FileDecl.schemaName, registerFiles, InsertsFiles, registerFiles_inserts,
  Registry.resolve_qualified
-/
import ProtoCompanion.Proofs.RegistrationContents

/-!
Over a run of files each of the two maps is updated by one list of insertions: the descriptors of
all files, in the order of registration.  So what a map holds under a name is the last descriptor
of that name, and a name that only one of them has is never lost.
-/

namespace ProtoCompanion

open Naming (dotted)

/-! ## Names in files -/

/-- The qualified name in the schema of a declaration of a file. -/
def FileDecl.schemaName (file : FileDecl) (site : Site) : String :=
  dotted [file.package, ".".intercalate (site.position.outers ++ [site.name])]

/-- Descriptors under their qualified names. -/
def qualified (descriptors : List Descriptor) : List (String × Descriptor) :=
  descriptors.map fun descriptor => (descriptor.schemaName, descriptor)

/-- Descriptors under their relative names. -/
def relative (descriptors : List Descriptor) : List (String × Descriptor) :=
  descriptors.map fun descriptor => (descriptor.relativeName, descriptor)

/-! ## One file -/

theorem foldl_insert_eq_insertMany {α β : Type} (names : Std.TreeMap String β) (key : α → String)
    (value : α → β) (entries : List α) :
    entries.foldl (fun names entry => names.insert (key entry) (value entry)) names =
      names.insertMany (entries.map fun entry => (key entry, value entry)) := by
  induction entries generalizing names with
  | nil => rfl
  | cons entry rest ih => rw [List.foldl_cons, ih, List.map_cons, Std.TreeMap.insertMany_cons]

theorem map_eq_map_of_forall₂ {α β γ : Type} {relation : α → β → Prop} {key : α → γ} {name : β → γ}
    (agree : ∀ x y, relation x y → name y = key x) {xs : List α} {ys : List β}
    (related : List.Forall₂ relation xs ys) : ys.map name = xs.map key := by
  induction related with
  | nil => rfl
  | cons first _ ih => rw [List.map_cons, List.map_cons, ih, agree _ _ first]

/-- What is related pairwise can be entered under the keys of either side. -/
theorem map_zip_eq_of_forall₂ {α β γ : Type} {relation : α → β → Prop} {key : α → γ} {name : β → γ}
    (agree : ∀ x y, relation x y → name y = key x) {xs : List α} {ys : List β}
    (related : List.Forall₂ relation xs ys) :
    ((xs.zip ys).map fun entry => (key entry.1, entry.2)) = ys.map fun y => (name y, y) := by
  induction related with
  | nil => rfl
  | cons first _ ih => rw [List.zip_cons_cons, List.map_cons, List.map_cons, ih, agree _ _ first]

section

variable {unit : FileUnit} {before after : Registry} {sites : List Site}
  {descriptors : List Descriptor}

theorem Inserts.byName_eq (inserts : Inserts unit before sites descriptors after) :
    after.byName = before.byName.insertMany (qualified descriptors) := by
  rw [inserts.byName, foldl_insert_eq_insertMany,
    map_zip_eq_of_forall₂ (fun _ _ describes => describes.schemaName_eq) inserts.describe]
  rfl

theorem Inserts.byRelativeName_eq (inserts : Inserts unit before sites descriptors after) :
    after.byRelativeName = before.byRelativeName.insertMany (relative descriptors) := by
  rw [inserts.byRelativeName, foldl_insert_eq_insertMany,
    map_zip_eq_of_forall₂ (fun _ _ describes => describes.relativeName_eq) inserts.describe]
  rfl

theorem Inserts.map_schemaName (inserts : Inserts unit before sites descriptors after) :
    descriptors.map Descriptor.schemaName = sites.map (Site.schemaName unit) :=
  map_eq_map_of_forall₂ (fun _ _ describes => describes.schemaName_eq) inserts.describe

theorem EntersAll.registrations_eq (entered : EntersAll unit before sites descriptors after) :
    after.registrations = before.registrations + descriptors.length := by
  induction entered with
  | nil registry => rfl
  | cons first _ ih =>
      obtain ⟨collided, _, rfl⟩ := first.accepted
      rw [ih, List.length_cons, Nat.add_comm _ 1, ← Nat.add_assoc]
      rfl

end

/-! ## Several files -/

/-- Register files one after the other.  The answer has the unit and the declarations of each. -/
def registerFiles : List (FileDecl × UnitSettings) →
    EStateM Error Registry (List (FileUnit × TopLevel))
  | [] => return []
  | (file, settings) :: rest => do
      let first ← registerFile file settings
      let others ← registerFiles rest
      return first :: others

/-- The descriptors of all files, in the order of registration. -/
def allDescriptors (answers : List (FileUnit × TopLevel)) : List Descriptor :=
  answers.flatMap fun answer => answer.2.descriptors

/-- The answer to a file is a unit of that file, with descriptors of its declarations. -/
structure AnswersFile (entry : FileDecl × UnitSettings) (answer : FileUnit × TopLevel) : Prop where
  unit : ∃ identity, answer.1 = .ofFile identity entry.1 entry.2
  describe : List.Forall₂ (Describes answer.1) entry.1.sites answer.2.descriptors

/-- Between two registries, the declarations of some files were inserted in order, under numbers
that are not used twice. -/
structure InsertsFiles (before : Registry) (files : List (FileDecl × UnitSettings))
    (answers : List (FileUnit × TopLevel)) (after : Registry) : Prop where
  each : List.Forall₂ AnswersFile files answers
  serials : (allDescriptors answers).map (·.symbol.serial) =
    List.range' before.registrations (allDescriptors answers).length
  registrations : after.registrations = before.registrations + (allDescriptors answers).length
  byName : after.byName = before.byName.insertMany (qualified (allDescriptors answers))
  byRelativeName : after.byRelativeName =
    before.byRelativeName.insertMany (relative (allDescriptors answers))

theorem InsertsFiles.nil (registry : Registry) : InsertsFiles registry [] [] registry :=
  ⟨.nil, rfl, rfl, rfl, rfl⟩

theorem InsertsFiles.cons {file : FileDecl} {settings : UnitSettings}
    {before middle after : Registry} {unit : FileUnit} {declared : TopLevel}
    {rest : List (FileDecl × UnitSettings)}
    {others : List (FileUnit × TopLevel)}
    (registered : registerFile file settings before = .ok (unit, declared) middle)
    (later : InsertsFiles middle rest others after) :
    InsertsFiles before ((file, settings) :: rest) ((unit, declared) :: others) after := by
  have run := registerFile_run file settings before
  rw [registered] at run
  obtain ⟨isUnit, entered, -⟩ := run
  have inserts := entered.inserts.of_openFile
  have counted : middle.registrations = before.registrations + declared.descriptors.length :=
    entered.registrations_eq
  have all : allDescriptors ((unit, declared) :: others) =
      declared.descriptors ++ allDescriptors others := List.flatMap_cons
  constructor
  · refine .cons ⟨⟨before.collided.length, isUnit⟩, ?_⟩ later.each
    rw [isUnit]
    exact inserts.describe
  · rw [all, List.map_append, List.length_append, inserts.serials, later.serials, counted,
      List.range'_append_1]
  · rw [all, List.length_append, later.registrations, counted, Nat.add_assoc]
  · rw [all, qualified, List.map_append, Std.TreeMap.insertMany_append, later.byName,
      inserts.byName_eq]
    rfl
  · rw [all, relative, List.map_append, Std.TreeMap.insertMany_append, later.byRelativeName,
      inserts.byRelativeName_eq]
    rfl

theorem registerFiles_cons (file : FileDecl) (settings : UnitSettings)
    (rest : List (FileDecl × UnitSettings)) (start : Registry) :
    registerFiles ((file, settings) :: rest) start =
      match registerFile file settings start with
      | .error error middle => .error error middle
      | .ok first middle =>
          match registerFiles rest middle with
          | .error error final => .error error final
          | .ok others final => .ok (first :: others) final := by
  simp only [registerFiles, Bind.bind, EStateM.bind, Pure.pure, EStateM.pure]
  cases registerFile file settings start with
  | error error middle => rfl
  | ok first middle =>
      dsimp only
      cases registerFiles rest middle <;> rfl

/-- A run over files inserts their declarations, file by file. -/
theorem registerFiles_inserts {files : List (FileDecl × UnitSettings)} {start final : Registry}
    {answers : List (FileUnit × TopLevel)}
    (registered : registerFiles files start = .ok answers final) :
    InsertsFiles start files answers final := by
  induction files generalizing start answers with
  | nil =>
      obtain ⟨rfl, rfl⟩ := EStateM.Result.ok.inj registered
      exact .nil _
  | cons entry rest ih =>
      obtain ⟨file, settings⟩ := entry
      rw [registerFiles_cons] at registered
      cases first : registerFile file settings start with
      | error error middle => simp [first] at registered
      | ok answer middle =>
          simp only [first] at registered
          cases others : registerFiles rest middle with
          | error error last => simp [others] at registered
          | ok more last =>
              simp only [others, EStateM.Result.ok.injEq] at registered
              obtain ⟨rfl, rfl⟩ := registered
              exact .cons first (ih others)

/-! ## Lookups -/

section

variable {names : Std.TreeMap String Descriptor} {key : Descriptor → String}

theorem getElem?_insertMany_of_ne {descriptors : List Descriptor} {name : String}
    (different : ∀ descriptor ∈ descriptors, key descriptor ≠ name) :
    (names.insertMany (descriptors.map fun descriptor => (key descriptor, descriptor)))[name]? =
      names[name]? := by
  apply Std.TreeMap.getElem?_insertMany_list_of_contains_eq_false
  simpa using different

/-- What was entered last under a name is found there. -/
theorem getElem?_insertMany_last {earlier later : List Descriptor} {found : Descriptor}
    (last : ∀ other ∈ later, key other ≠ key found) :
    (names.insertMany ((earlier ++ found :: later).map fun descriptor =>
      (key descriptor, descriptor)))[key found]? = some found := by
  rw [List.map_append, List.map_cons, Std.TreeMap.insertMany_append, Std.TreeMap.insertMany_cons,
    getElem?_insertMany_of_ne last]
  exact Std.TreeMap.getElem?_insert_self

/-- A name that only one descriptor has belongs to it. -/
theorem getElem?_insertMany_of_nodup {descriptors : List Descriptor}
    (distinct : (descriptors.map key).Nodup) {found : Descriptor} (member : found ∈ descriptors) :
    (names.insertMany (descriptors.map fun descriptor =>
      (key descriptor, descriptor)))[key found]? = some found := by
  obtain ⟨earlier, later, rfl⟩ := List.append_of_mem member
  apply getElem?_insertMany_last
  intro other isLater same
  rw [List.map_append, List.map_cons] at distinct
  have alone := (List.nodup_cons.mp (List.nodup_append.mp distinct).2.1).1
  exact alone (List.mem_map.mpr ⟨other, isLater, same⟩)

end

theorem Registry.undotted?_dot (name : String) : Registry.undotted? ("." ++ name) = some name := by
  simp [undotted?]

theorem Registry.undotted?_eq_none {reference : String}
    (plain : reference.toList.head? ≠ some '.') : undotted? reference = none := by
  rw [undotted?]
  split
  · next start => exact absurd (by rw [start]; rfl) plain
  · rfl

/-- A qualified name behind a dot is looked up among the qualified names first. -/
theorem Registry.resolve_qualified {registry : Registry} {name : String} {descriptor : Descriptor}
    (found : registry.byName[name]? = some descriptor) :
    registry.resolve ("." ++ name) = .ok descriptor := by
  rw [resolve, resolve?, undotted?_dot, Option.bind_some, found, Option.some_or]

end ProtoCompanion
