/-
Module: ProtoCompanion.Proofs.RecordedFiles
Purpose: What a registry holds after files with qualified references were registered in it one after
  the other: each of their declarations under its qualified name, and nothing else.
Main exports: Registry.ExtendedBy, EntersAll.resolves, Registry.Records, TopLevel.FoundIn,
  Registry.Records.registerFile
-/
import ProtoCompanion.Proofs.OriginalNames
import ProtoCompanion.Proofs.QualifiedReferences

/-!
No two declarations have the same qualified name, so what is found under such a name once is found
there for good.  In particular the messages that the methods of a service were resolved to are what
the references of the methods still resolve to.
-/

namespace ProtoCompanion

/-! ## Registries that only grow -/

/-- What the registry holds under a qualified name is still there in a later one. -/
def Registry.ExtendedBy (registry later : Registry) : Prop :=
  ∀ (name : String) (descriptor : Descriptor),
    registry.byName[name]? = some descriptor → later.byName[name]? = some descriptor

namespace Registry

variable {registry later : Registry} {reference name : String} {message : MessageDescriptor}

/-- A qualified reference that leads to a message leads to it by the qualified name. -/
theorem Undotted.getElem?_of_resolveMessage (undotted : registry.Undotted)
    (isName : undotted? reference = some name)
    (resolved : registry.resolveMessage reference = .ok message) :
    ∃ children, registry.byName[name]? = some (.message message children) := by
  rw [resolveMessage, resolve, undotted.resolve?_eq isName] at resolved
  cases found : registry.byName[name]? with
  | none =>
      rw [found] at resolved
      cases resolved
  | some descriptor =>
      rw [found] at resolved
      cases descriptor with
      | message own children =>
          obtain rfl := Except.ok.inj resolved
          exact ⟨children, rfl⟩
      | enum enum => cases resolved
      | oneof oneof => cases resolved
      | service service => cases resolved

theorem resolveMessage_of_getElem? (isName : undotted? reference = some name)
    {children : List Descriptor}
    (found : registry.byName[name]? = some (.message message children)) :
    registry.resolveMessage reference = .ok message := by
  rw [resolveMessage, resolve, resolve?, isName, Option.bind_some, found, Option.some_or]

theorem ExtendedBy.resolveMessage (extended : registry.ExtendedBy later)
    (undotted : registry.Undotted) (isQualified : IsQualified reference)
    (resolved : registry.resolveMessage reference = .ok message) :
    later.resolveMessage reference = .ok message := by
  rcases isQualified.exists_undotted with ⟨name, isName⟩
  rcases undotted.getElem?_of_resolveMessage isName resolved with ⟨children, found⟩
  exact resolveMessage_of_getElem? isName (extended name _ found)

end Registry

/-- Methods that were resolved stay resolved. -/
theorem Resolves.mono {registry later : Registry} {declaration : Declaration}
    {descriptor : Descriptor} (resolves : Resolves registry declaration descriptor)
    (extended : registry.ExtendedBy later) (undotted : registry.Undotted)
    (qualified : ∀ reference ∈ declaration.references, IsQualified reference) :
    Resolves later declaration descriptor := by
  cases declaration with
  | message decl => trivial
  | enum decl => trivial
  | oneof index decl => trivial
  | service decl =>
      cases descriptor with
      | message message children => trivial
      | enum enum => trivial
      | oneof oneof => trivial
      | service service =>
          apply List.forall₂_iff_zip.mpr
          refine ⟨List.Forall₂.length_eq resolves, ?_⟩
          intro method found pair
          have isMethod := (List.of_mem_zip pair).1
          rcases (List.forall₂_iff_zip.mp resolves).2 pair with ⟨input, output⟩
          constructor
          · exact extended.resolveMessage undotted
              (qualified _ (List.mem_flatMap.mpr ⟨method, isMethod, by simp⟩)) input
          · exact extended.resolveMessage undotted
              (qualified _ (List.mem_flatMap.mpr ⟨method, isMethod, by simp⟩)) output

/-! ## One file -/

section

variable {unit : FileUnit} {before after : Registry} {sites : List Site}
  {descriptors : List Descriptor}

/-- Declarations with new names replace nothing. -/
theorem Inserts.extended (inserts : Inserts unit before sites descriptors after)
    (fresh : ∀ site ∈ sites, before.byName[site.schemaName unit]? = none) :
    before.ExtendedBy after := by
  intro name descriptor found
  rw [inserts.getElem?_of_ne, found]
  intro member
  rcases List.mem_map.mp member with ⟨site, isSite, rfl⟩
  rw [fresh site isSite] at found
  cases found

theorem Inserts.getElem?_of_mem (inserts : Inserts unit before sites descriptors after)
    (distinct : (sites.map (Site.schemaName unit)).Nodup) {descriptor : Descriptor}
    (member : descriptor ∈ descriptors) :
    after.byName[descriptor.schemaName]? = some descriptor := by
  rw [inserts.byName_eq]
  rw [← inserts.map_schemaName] at distinct
  exact getElem?_insertMany_of_nodup distinct member

/-- The induction is on the run.  A service is entered with messages that its references resolve to
at that moment; they still do so in the end, since no name is used twice. -/
theorem EntersAll.resolves (entered : EntersAll unit before sites descriptors after)
    (distinct : (sites.map (Site.schemaName unit)).Nodup)
    (fresh : ∀ site ∈ sites, before.byName[site.schemaName unit]? = none)
    (undotted : before.Undotted) (plain : ∀ site ∈ sites, site.Plain unit.style) :
    List.Forall₂ (fun site descriptor => Resolves after site.decl descriptor) sites descriptors ∧
      after.Undotted := by
  induction entered with
  | nil registry => exact ⟨.nil, undotted⟩
  | @cons before middle after site rest descriptor others first later ih =>
      -- From the first step to the end, since its references were resolved before it.
      have extended : before.ExtendedBy after :=
        (EntersAll.cons first later).inserts.extended fresh
      have own := plain site List.mem_cons_self
      rcases first.accepted with ⟨collided, -, isMiddle⟩
      rcases List.nodup_cons.mp distinct with ⟨isNew, distinctRest⟩
      have isRelative : ¬ IsQualified descriptor.relativeName := by
        rw [first.describes.relativeName_eq]
        exact own.relative
      have undottedMiddle : middle.Undotted := by
        rw [isMiddle]
        have flagged : (before.setCollision unit collided).Undotted :=
          ⟨undotted.byName, undotted.byRelativeName⟩
        exact flagged.insert isRelative
      have freshRest : ∀ other ∈ rest, middle.byName[other.schemaName unit]? = none := by
        intro other member
        have different : descriptor.schemaName ≠ other.schemaName unit := by
          rw [first.describes.schemaName_eq]
          intro same
          apply isNew
          rw [same]
          exact List.mem_map_of_mem member
        rw [isMiddle, Registry.insert, Std.TreeMap.getElem?_insert,
          if_neg (by simpa using different)]
        exact fresh other (List.mem_cons_of_mem site member)
      rcases ih distinctRest freshRest undottedMiddle
        (fun other member => plain other (List.mem_cons_of_mem site member)) with
        ⟨othersResolve, undottedAfter⟩
      exact ⟨.cons (first.resolves.mono extended undotted own.references) othersResolve,
        undottedAfter⟩

end

/-! ## Files one after the other -/

/-- Files with qualified references and with plain relative names. -/
def Comparable (entries : List (FileDecl × UnitSettings)) : Prop :=
  ∀ entry ∈ entries, entry.1.FullyQualified ∧ entry.2.style = id

/-- A registry in which files were registered one after the other, and nothing else.  The identity
of a file is its place among the files.  Under each qualified name of a declaration stands a
descriptor of that declaration; under no other name stands anything. -/
structure Registry.Records (registry : Registry) (entries : List (FileDecl × UnitSettings)) :
    Prop where
  opened : registry.collided.length = entries.length
  flags : ∀ index entry, entries[index]? = some entry →
    registry.hasCollision (.ofFile index entry.1 entry.2) =
      decide (entry.1.outerClassName ∈ entry.1.sites.map Site.name)
  sound : ∀ (name : String) (descriptor : Descriptor), registry.byName[name]? = some descriptor →
    ∃ index entry site, entries[index]? = some entry ∧ site ∈ entry.1.sites ∧
      entry.1.schemaName site = name ∧
      Describes (.ofFile index entry.1 entry.2) site descriptor ∧
      Resolves registry site.decl descriptor
  complete : ∀ entry ∈ entries, ∀ site ∈ entry.1.sites,
    ∃ descriptor, registry.byName[entry.1.schemaName site]? = some descriptor
  undotted : registry.Undotted

theorem Registry.records_empty : Registry.Records {} [] where
  opened := rfl
  flags := by
    intro index entry impossible
    cases impossible
  sound := by
    intro name descriptor impossible
    rw [Std.TreeMap.getElem?_emptyc] at impossible
    cases impossible
  complete := by
    intro entry impossible
    cases impossible
  undotted := undotted_empty

/-- The top-level declarations of a file are those that a registry holds. -/
structure TopLevel.FoundIn (declared : TopLevel) (registry : Registry) (file : FileDecl) :
    Prop where
  messages : List.Forall₂
    (fun site descriptor => registry.byName[file.schemaName site]? = some descriptor)
    file.messageSites declared.messages
  enums : List.Forall₂
    (fun site descriptor => registry.byName[file.schemaName site]? = some descriptor)
    file.enumSites declared.enums
  services : List.Forall₂
    (fun site descriptor => registry.byName[file.schemaName site]? = some descriptor)
    file.serviceSites declared.services

theorem TopLevel.mem_descriptors {declared : TopLevel} {descriptor : Descriptor}
    (member : descriptor ∈ declared.enums ++ declared.messages ++ declared.services) :
    descriptor ∈ declared.descriptors := by
  rw [TopLevel.descriptors, Descriptor.postorders_eq_flatMap]
  apply List.mem_flatMap.mpr
  refine ⟨descriptor, member, ?_⟩
  rw [Descriptor.postorder_eq]
  exact List.mem_append_right _ List.mem_cons_self

/-- What was made of declarations is found under their names. -/
theorem Inserts.found {identity : Nat} {file : FileDecl} {settings : UnitSettings}
    {before after : Registry} {descriptors : List Descriptor}
    (inserts : Inserts (.ofFile identity file settings) before file.sites descriptors after)
    (distinct : (file.sites.map file.schemaName).Nodup) {sites : List Site}
    {parts : List Descriptor} (part : parts ⊆ descriptors)
    (describe : List.Forall₂ (Describes (.ofFile identity file settings)) sites parts) :
    List.Forall₂ (fun site descriptor => after.byName[file.schemaName site]? = some descriptor)
      sites parts := by
  apply List.forall₂_iff_zip.mpr
  refine ⟨describe.length_eq, ?_⟩
  intro site descriptor pair
  have name : descriptor.schemaName = file.schemaName site :=
    (Describes.of_mem_zip describe pair).schemaName_eq
  rw [← name]
  exact inserts.getElem?_of_mem distinct (part (List.of_mem_zip pair).2)

namespace Registry.Records

variable {registry final : Registry} {entries : List (FileDecl × UnitSettings)} {file : FileDecl}
  {settings : UnitSettings}

/-- The names of one more file are new. -/
theorem fresh (records : registry.Records entries)
    (apart : NamesApart ((entries ++ [(file, settings)]).map Prod.fst)) :
    ∀ site ∈ file.sites, registry.byName[file.schemaName site]? = none := by
  intro site isSite
  cases found : registry.byName[file.schemaName site]? with
  | none => rfl
  | some descriptor =>
      rcases records.sound _ descriptor found with ⟨index, entry, other, isEntry, isOther, same, -⟩
      rw [NamesApart, List.map_append, List.flatMap_append, List.nodup_append] at apart
      refine absurd rfl (apart.2.2 (file.schemaName site) ?_ (file.schemaName site) ?_)
      · refine List.mem_flatMap.mpr ⟨entry.1, ?_, ?_⟩
        · exact List.mem_map_of_mem (List.mem_of_getElem? isEntry)
        · rw [← same]
          exact List.mem_map_of_mem isOther
      · simpa using ⟨site, isSite, rfl⟩

/-- The flags of the files before stay, and the flag of the file says whether one of its names is
that of its outer class. -/
theorem flags_registerFile {answer : FileUnit × TopLevel} (records : registry.Records entries)
    (registered : ProtoCompanion.registerFile file settings registry = .ok answer final) :
    final.collided.length = entries.length + 1 ∧
      ∀ index entry, (entries ++ [(file, settings)])[index]? = some entry →
        final.hasCollision (.ofFile index entry.1 entry.2) =
          decide (entry.1.outerClassName ∈ entry.1.sites.map Site.name) := by
  have isFinal : registry.afterFile file settings = final := by
    rw [afterFile, registered]
  have checks := registerFile_checks file settings registry
  rw [registered] at checks
  constructor
  · rw [← isFinal, (registry.keeps_afterFile file settings).length, ← records.opened]
    simp [openFile]
  · intro index entry isEntry
    by_cases before : index < entries.length
    · rw [List.getElem?_append_left before] at isEntry
      have opened :
          (FileUnit.ofFile index entry.1 entry.2).identity < registry.collided.length := by
        rw [records.opened]
        exact before
      rw [← isFinal, hasCollision_afterFile opened, records.flags index entry isEntry]
    · rw [List.getElem?_append_right (Nat.le_of_not_lt before)] at isEntry
      rcases List.getElem?_eq_some_iff.mp isEntry with ⟨inside, isLast⟩
      have last : index = entries.length := by
        simp only [List.length_singleton] at inside
        omega
      subst last
      simp only [Nat.sub_self, List.getElem_cons_zero] at isLast
      subst isLast
      have tracks := checks.2.2.flag
      rw [OuterClass.collidedAfter_eq] at tracks
      rw [← records.opened]
      exact tracks

/-- One more file: its declarations are recorded, and nothing of the files before it is lost. -/
theorem registerFile {unit : FileUnit} {declared : TopLevel} (records : registry.Records entries)
    (comparable : Comparable (entries ++ [(file, settings)]))
    (apart : NamesApart ((entries ++ [(file, settings)]).map Prod.fst))
    (registered : ProtoCompanion.registerFile file settings registry =
      .ok (unit, declared) final) :
    final.Records (entries ++ [(file, settings)]) ∧ registry.ExtendedBy final ∧
      unit = .ofFile entries.length file settings ∧ declared.FoundIn final file := by
  have run := registerFile_run file settings registry
  rw [registered] at run
  rcases run with ⟨isUnit, entered, enums, messages, services⟩
  have isOwn : (registry.openFile file settings).1 = .ofFile entries.length file settings := by
    rw [← records.opened]
    rfl
  rw [isOwn] at entered enums messages services isUnit
  rcases comparable (file, settings) (by simp) with ⟨qualified, style⟩
  have distinct : (file.sites.map file.schemaName).Nodup := by
    rw [NamesApart, List.map_append, List.flatMap_append, List.nodup_append] at apart
    simpa using apart.2.1
  have inserts := entered.inserts.of_openFile
  have extended : registry.ExtendedBy final := inserts.extended (records.fresh apart)
  have opened : (registry.openFile file settings).2.Undotted :=
    ⟨records.undotted.byName, records.undotted.byRelativeName⟩
  have plain : ∀ site ∈ file.sites, site.Plain settings.style := by
    intro site isSite
    rw [style]
    exact qualified.plain isSite
  rcases entered.resolves distinct (records.fresh apart) opened plain with ⟨resolve, undotted⟩
  rcases records.flags_registerFile registered with ⟨length, flags⟩
  refine ⟨⟨?opened, flags, ?sound, ?complete, undotted⟩, extended, isUnit, ?found⟩
  case opened =>
    rw [length, List.length_append, List.length_singleton]
  case sound =>
    intro name descriptor found
    by_cases own : name ∈ file.sites.map file.schemaName
    · rcases List.mem_map.mp own with ⟨site, isSite, rfl⟩
      rcases List.mem_iff_getElem?.mp isSite with ⟨place, atPlace⟩
      rcases exists_rel_getElem? inserts.describe atPlace with ⟨entered, isEntered, describes⟩
      rcases exists_rel_getElem? resolve atPlace with ⟨_, isEnteredToo, resolves⟩
      obtain rfl := Option.some.inj (isEntered.symm.trans isEnteredToo)
      have foundToo := inserts.getElem?_of_mem distinct (List.mem_of_getElem? isEntered)
      have sameName : entered.schemaName = file.schemaName site := describes.schemaName_eq
      rw [sameName, found] at foundToo
      obtain rfl := Option.some.inj foundToo
      exact ⟨entries.length, (file, settings), site, by simp, isSite, rfl, describes, resolves⟩
    · have before : registry.byName[name]? = some descriptor := by
        rw [← found, inserts.getElem?_of_ne own]
      rcases records.sound name descriptor before with
        ⟨index, entry, site, isEntry, isSite, isName, describes, resolves⟩
      have member := List.mem_append_left [(file, settings)] (List.mem_of_getElem? isEntry)
      refine ⟨index, entry, site, ?_, isSite, isName, describes, ?_⟩
      · rw [List.getElem?_append_left (List.getElem?_eq_some_iff.mp isEntry).1, isEntry]
      · exact resolves.mono extended records.undotted
          ((comparable entry member).1.methods site isSite)
  case complete =>
    intro entry member site isSite
    rcases List.mem_append.mp member with before | own
    · rcases records.complete entry before site isSite with ⟨descriptor, found⟩
      exact ⟨descriptor, extended _ _ found⟩
    · obtain rfl := List.mem_singleton.mp own
      rcases inserts.exists_getElem? distinct isSite with ⟨descriptor, -, found⟩
      exact ⟨descriptor, found⟩
  case found =>
    constructor
    · exact inserts.found distinct (fun _ member => TopLevel.mem_descriptors (by simp [member]))
        messages
    · exact inserts.found distinct (fun _ member => TopLevel.mem_descriptors (by simp [member]))
        enums
    · exact inserts.found distinct (fun _ member => TopLevel.mem_descriptors (by simp [member]))
        services

end Registry.Records

end ProtoCompanion
