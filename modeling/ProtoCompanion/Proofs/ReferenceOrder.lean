/-
Module: ProtoCompanion.Proofs.ReferenceOrder
Purpose: In files that come after what they refer to, every reference is resolved when it is needed.
Main exports: RefersTo, FileDecl.RefersBack, CodeRequest.DependencyOrdered, Registry.Holds,
  Registry.Holds.resolve, registerFile_of_refersBack
-/
import ProtoCompanion.Generation.Request
import ProtoCompanion.Proofs.DeclaredNames
import ProtoCompanion.Proofs.NameChecks

/-!
The types of methods are resolved while a file is registered, before its services are entered; the
types of fields are resolved later, when code is generated.  In both cases what is referred to has
been entered under its qualified name, and no other declaration has replaced it.
-/

namespace ProtoCompanion

/-! ## Files in the order of their references -/

/-- No two declarations of these files have the same qualified name. -/
def NamesApart (files : List FileDecl) : Prop :=
  (files.flatMap fun file => file.sites.map file.schemaName).Nodup

instance (files : List FileDecl) : Decidable (NamesApart files) :=
  inferInstanceAs (Decidable (files.flatMap fun file => file.sites.map file.schemaName).Nodup)

/-- A reference to a declaration of one of some kinds: its qualified name behind a dot. -/
def RefersTo (files : List FileDecl) (kinds : List DescriptorKind) (reference : String) : Prop :=
  ∃ file ∈ files, ∃ site ∈ file.sites,
    site.decl.kind ∈ kinds ∧ reference = "." ++ file.schemaName site

instance (files : List FileDecl) (kinds : List DescriptorKind) (reference : String) :
    Decidable (RefersTo files kinds reference) :=
  inferInstanceAs (Decidable (∃ file ∈ files, ∃ site ∈ file.sites,
    site.decl.kind ∈ kinds ∧ reference = "." ++ file.schemaName site))

namespace Declaration

/-- The fields of a message. -/
def fields : Declaration → List FieldDecl
  | message decl => decl.head.fields
  | _ => []

/-- A message that stands for the entries of a map. -/
def isMapEntry : Declaration → Bool
  | message decl => decl.head.isMapEntry
  | _ => false

end Declaration

/-- What a file has to refer to when these files are known: the types of its methods are messages
and the types of its fields are messages or enums of these files, it has no groups, and its map
entries are complete. -/
structure FileDecl.RefersBack (file : FileDecl) (files : List FileDecl) : Prop where
  methods : ∀ site ∈ file.sites, ∀ reference ∈ site.decl.references,
    RefersTo files [.message] reference
  fields : ∀ site ∈ file.sites, ∀ field ∈ site.decl.fields,
    field.type = .message ∨ field.type = .enum → RefersTo files [.message, .enum] field.typeName
  noGroups : ∀ site ∈ file.sites, ∀ field ∈ site.decl.fields, field.type ≠ .group
  mapEntries : ∀ site ∈ file.sites, site.decl.isMapEntry → ∀ part : MapEntryPart,
    ∃ field ∈ site.decl.fields, field.name = part.fieldName

instance (holds : MapEntryPart → Prop) [DecidablePred holds] : Decidable (∀ part, holds part) :=
  decidable_of_iff (holds .key ∧ holds .value)
    ⟨fun both part => match part with
      | .key => both.1
      | .value => both.2,
    fun all => ⟨all .key, all .value⟩⟩

instance (file : FileDecl) (files : List FileDecl) : Decidable (file.RefersBack files) :=
  decidable_of_iff
    ((∀ site ∈ file.sites, ∀ reference ∈ site.decl.references,
        RefersTo files [.message] reference) ∧
      (∀ site ∈ file.sites, ∀ field ∈ site.decl.fields,
        field.type = .message ∨ field.type = .enum →
          RefersTo files [.message, .enum] field.typeName) ∧
      (∀ site ∈ file.sites, ∀ field ∈ site.decl.fields, field.type ≠ .group) ∧
      ∀ site ∈ file.sites, site.decl.isMapEntry → ∀ part : MapEntryPart,
        ∃ field ∈ site.decl.fields, field.name = part.fieldName)
    ⟨fun ⟨methods, fields, noGroups, mapEntries⟩ => ⟨methods, fields, noGroups, mapEntries⟩,
      fun back => ⟨back.methods, back.fields, back.noGroups, back.mapEntries⟩⟩

/-- A request whose declarations have names of their own and whose files refer to themselves and to
the files before them. -/
structure CodeRequest.DependencyOrdered (request : CodeRequest) : Prop where
  distinct : NamesApart request.files
  refersBack : ∀ (index : Nat) (file : FileDecl), request.files[index]? = some file →
    file.RefersBack (request.files.take (index + 1))

theorem RefersTo.mono {files more : List FileDecl} {kinds : List DescriptorKind}
    {reference : String} (refers : RefersTo files kinds reference) (known : files ⊆ more) :
    RefersTo more kinds reference := by
  obtain ⟨file, isFile, target⟩ := refers
  exact ⟨file, known isFile, target⟩

theorem FileDecl.RefersBack.mono {file : FileDecl} {files more : List FileDecl}
    (refersBack : file.RefersBack files) (known : files ⊆ more) : file.RefersBack more where
  methods site isSite reference member :=
    (refersBack.methods site isSite reference member).mono known
  fields site isSite field isField type :=
    (refersBack.fields site isSite field isField type).mono known
  noGroups := refersBack.noGroups
  mapEntries := refersBack.mapEntries

/-! ## Declarations in a registry -/

namespace Registry

/-- A declaration of a file is found under its qualified name. -/
def Finds (registry : Registry) (file : FileDecl) (site : Site) : Prop :=
  ∃ unit descriptor, Describes unit site descriptor ∧
    registry.byName[file.schemaName site]? = some descriptor

/-- All declarations of some files are found under their qualified names. -/
def Holds (registry : Registry) (files : List FileDecl) : Prop :=
  ∀ file ∈ files, ∀ site ∈ file.sites, registry.Finds file site

theorem Finds.resolve {registry : Registry} {file : FileDecl} {site : Site}
    (finds : registry.Finds file site) :
    ∃ unit descriptor, Describes unit site descriptor ∧
      registry.resolve ("." ++ file.schemaName site) = .ok descriptor := by
  obtain ⟨unit, descriptor, describes, found⟩ := finds
  exact ⟨unit, descriptor, describes, resolve_qualified found⟩

theorem Finds.resolveMessage {registry : Registry} {file : FileDecl} {site : Site}
    (finds : registry.Finds file site) (isMessage : site.decl.kind = .message) :
    ∃ message, registry.resolveMessage ("." ++ file.schemaName site) = .ok message := by
  obtain ⟨unit, descriptor, describes, resolved⟩ := finds.resolve
  have kind := describes.kind_eq.trans isMessage
  cases descriptor with
  | message message children => exact ⟨message, by rw [Registry.resolveMessage, resolved]⟩
  | enum descriptor => cases kind
  | oneof descriptor => cases kind
  | service descriptor => cases kind

/-- A reference to the declarations of known files is resolved. -/
theorem Holds.resolve {registry : Registry} {files : List FileDecl} {kinds : List DescriptorKind}
    {reference : String} (holds : registry.Holds files) (refers : RefersTo files kinds reference) :
    ∃ file ∈ files, ∃ site ∈ file.sites, site.decl.kind ∈ kinds ∧
      ∃ unit descriptor, Describes unit site descriptor ∧
        registry.resolve reference = .ok descriptor := by
  obtain ⟨file, isFile, site, isSite, kind, rfl⟩ := refers
  exact ⟨file, isFile, site, isSite, kind, (holds file isFile site isSite).resolve⟩

end Registry

/-! ## Declarations that were entered -/

section

variable {unit : FileUnit} {before after : Registry} {sites : List Site}
  {descriptors : List Descriptor}

theorem Inserts.getElem?_of_ne (inserts : Inserts unit before sites descriptors after)
    {name : String} (different : name ∉ sites.map (Site.schemaName unit)) :
    after.byName[name]? = before.byName[name]? := by
  rw [inserts.byName_eq]
  apply getElem?_insertMany_of_ne
  intro descriptor member same
  rw [← inserts.map_schemaName] at different
  exact different (List.mem_map.mpr ⟨descriptor, member, same⟩)

theorem Inserts.exists_getElem? (inserts : Inserts unit before sites descriptors after)
    (distinct : (sites.map (Site.schemaName unit)).Nodup) {site : Site} (member : site ∈ sites) :
    ∃ descriptor, Describes unit site descriptor ∧
      after.byName[site.schemaName unit]? = some descriptor := by
  obtain ⟨index, isSite⟩ := List.mem_iff_getElem?.mp member
  obtain ⟨descriptor, isDescriptor, describes⟩ := exists_rel_getElem? inserts.describe isSite
  refine ⟨descriptor, describes, ?_⟩
  rw [inserts.byName_eq, ← describes.schemaName_eq]
  rw [← inserts.map_schemaName] at distinct
  exact getElem?_insertMany_of_nodup distinct (List.mem_of_getElem? isDescriptor)

end

/-! ## Registration of one more file -/

section

variable {earlier : List FileDecl} {file : FileDecl} {settings : UnitSettings} {identity : Nat}
  {before after : Registry} {sites : List Site} {descriptors : List Descriptor}

/-- Entering declarations of one more file hides none of the earlier ones. -/
theorem Registry.Holds.inserts (holds : before.Holds earlier)
    (inserts : Inserts (.ofFile identity file settings) before sites descriptors after)
    (apart : NamesApart (earlier ++ [file])) (part : sites ⊆ file.sites) : after.Holds earlier := by
  intro other isOther site isSite
  obtain ⟨unit, descriptor, describes, found⟩ := holds other isOther site isSite
  refine ⟨unit, descriptor, describes, ?_⟩
  rw [← found]
  apply inserts.getElem?_of_ne
  intro member
  obtain ⟨inserted, isInserted, same⟩ := List.mem_map.mp member
  rw [NamesApart, List.flatMap_append, List.nodup_append] at apart
  refine apart.2.2 (other.schemaName site) ?_ (other.schemaName site) ?_ rfl
  · exact List.mem_flatMap.mpr ⟨other, isOther, List.mem_map_of_mem isSite⟩
  · rw [← same]
    simpa using ⟨inserted, part isInserted, rfl⟩

/-- What was entered of a file is found. -/
theorem Inserts.finds
    (inserts : Inserts (.ofFile identity file settings) before sites descriptors after)
    (distinct : (sites.map file.schemaName).Nodup) {site : Site} (member : site ∈ sites) :
    after.Finds file site := by
  obtain ⟨descriptor, describes, found⟩ := inserts.exists_getElem? distinct member
  exact ⟨_, descriptor, describes, found⟩

end

/-! ### Messages before services -/

theorem Site.kind_ne_service_of_mem_children {site child : Site} (member : child ∈ site.children) :
    child.decl.kind ≠ .service := by
  obtain ⟨position, decl⟩ := site
  cases decl with
  | enum decl => simp [children] at member
  | oneof index decl => simp [children] at member
  | service decl => simp [children] at member
  | message decl =>
      obtain ⟨head, nested⟩ := decl
      simp only [children, List.mem_append] at member
      rcases member with (member | member) | member <;>
        obtain ⟨index, inner, -, rfl⟩ := Position.mem_sites member <;> simp [Declaration.kind]

theorem Site.kind_ne_service_of_mem_postorder {root site : Site}
    (noService : root.decl.kind ≠ .service) (member : site ∈ root.postorder) :
    site.decl.kind ≠ .service := by
  induction root using Site.nestedInduction with
  | step root ih =>
      rw [postorder_eq] at member
      rcases List.mem_append.mp member with below | own
      · obtain ⟨child, isChild, inside⟩ := List.mem_flatMap.mp below
        exact ih child isChild (kind_ne_service_of_mem_children isChild) inside
      · rw [List.mem_singleton.mp own]
        exact noService

/-- When a service of a file is registered, all messages of the file have been. -/
theorem FileDecl.mem_of_message_before_service {file : FileDecl} {done rest : List Site}
    {service message : Site} (split : file.sites = done ++ service :: rest)
    (isService : service.decl.kind = .service) (member : message ∈ file.sites)
    (isMessage : message.decl.kind = .message) : message ∈ done := by
  have noService : ∀ site ∈ file.enumSites ++ file.messageSites.flatMap Site.postorder,
      site.decl.kind ≠ .service := by
    intro site isSite
    rcases List.mem_append.mp isSite with isEnum | nested
    · obtain ⟨index, decl, -, rfl⟩ := Position.mem_sites isEnum
      simp [Declaration.kind]
    · obtain ⟨root, isRoot, below⟩ := List.mem_flatMap.mp nested
      obtain ⟨index, decl, -, rfl⟩ := Position.mem_sites isRoot
      refine Site.kind_ne_service_of_mem_postorder ?_ below
      simp [Declaration.kind]
  have first : message ∈ file.enumSites ++ file.messageSites.flatMap Site.postorder := by
    rw [sites] at member
    rcases List.mem_append.mp member with early | late
    · exact early
    · obtain ⟨index, decl, -, rfl⟩ := Position.mem_sites late
      cases isMessage
  rw [sites] at split
  rcases List.append_eq_append_iff.mp split with ⟨more, isDone, -⟩ | ⟨more, isFirst, following⟩
  · rw [isDone]
    exact List.mem_append_left more first
  · cases more with
    | nil =>
        rw [List.append_nil] at isFirst
        exact isFirst ▸ first
    | cons head tail =>
        obtain ⟨rfl, -⟩ := List.cons.inj following
        exact absurd isService (noService service (by simp [isFirst]))

theorem Declaration.kind_of_mem_references {decl : Declaration} {reference : String}
    (member : reference ∈ decl.references) : decl.kind = .service := by
  cases decl with
  | service decl => rfl
  | message decl => cases member
  | enum decl => cases member
  | oneof index decl => cases member

/-! ### The step -/

/-- A file that refers to itself and to files that the registry holds is registered, or one of its
names clashes.  Then the registry holds this file as well. -/
theorem registerFile_of_refersBack {earlier : List FileDecl} {file : FileDecl} {start : Registry}
    (settings : UnitSettings) (holds : start.Holds earlier) (apart : NamesApart (earlier ++ [file]))
    (refersBack : file.RefersBack (earlier ++ [file])) :
    match registerFile file settings start with
    | .ok (unit, declared) final =>
        final.Holds (earlier ++ [file]) ∧
          List.Forall₂ (Describes unit) file.messageSites declared.messages ∧
          List.Forall₂ (Describes unit) file.enumSites declared.enums ∧
          List.Forall₂ (Describes unit) file.serviceSites declared.services
    | .error error _ => ∃ name clash, error = .nameClash name clash := by
  have distinct : (file.sites.map file.schemaName).Nodup := by
    rw [NamesApart, List.flatMap_append, List.nodup_append] at apart
    simpa using apart.2.1
  have result := registerFile_inserts_in_order file settings start
  cases registered : registerFile file settings start with
  | ok answer final =>
      obtain ⟨unit, declared⟩ := answer
      rw [registered] at result
      obtain ⟨rfl, inserts, messages, enums, services, -⟩ := result
      refine ⟨?_, messages, enums, services⟩
      intro other isOther site isSite
      rcases List.mem_append.mp isOther with before | own
      · exact holds.inserts inserts apart (fun _ member => member) other before site isSite
      · rw [List.mem_singleton.mp own] at isSite ⊢
        exact inserts.finds distinct isSite
  | error error final =>
      rw [registered] at result
      obtain ⟨done, refused, rest, inserted, middle, split, inserts, refuses, -⟩ := result
      have part : done ⊆ file.sites := by
        rw [split]
        exact List.subset_append_left done (refused :: rest)
      cases refuses with
      | name collided rejected =>
          obtain ⟨clash, isClash⟩ := OuterClass.accept_error rejected
          exact ⟨_, clash, isClash⟩
      | reference collided reference accepted member unresolved =>
          -- The reference leads to an earlier file, or to a message entered before the service.
          exfalso
          have isSite : refused ∈ file.sites := by simp [split]
          obtain ⟨other, isOther, target, isTarget, kind, rfl⟩ :=
            refersBack.methods refused isSite reference member
          have isMessage := List.mem_singleton.mp kind
          have finds : middle.Finds other target := by
            rcases List.mem_append.mp isOther with before | own
            · exact holds.inserts inserts apart part other before target isTarget
            · rw [List.mem_singleton.mp own] at isTarget ⊢
              have entered := file.mem_of_message_before_service split
                (Declaration.kind_of_mem_references member) isTarget isMessage
              rw [split, List.map_append] at distinct
              exact inserts.finds (List.nodup_append.mp distinct).1 entered
          obtain ⟨message, resolved⟩ := finds.resolveMessage isMessage
          rw [resolved] at unresolved
          cases unresolved

end ProtoCompanion
