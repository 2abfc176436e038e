/-
Module: ProtoCompanion.Proofs.RecordedAlike
Purpose: Two registries that record the same files, in whatever order, hold alike descriptors.
Main exports: SameEntry, Describes.alike, Registry.CoveredBy, Registry.CoveredBy.exists_alike,
  Registry.CoveredBy.answersLike, TopLevel.FoundIn.alike
-/
import Mathlib.Data.List.Pairwise
import ProtoCompanion.Proofs.AlikeDescriptors
import ProtoCompanion.Proofs.OutlineRuns
import ProtoCompanion.Proofs.RecordedFiles

/-!
A descriptor is computed from its declaration, but for its number, the identity of its file, and the
messages of its methods.  In two registries that record the same files, what stands under a name
describes the same declaration.  So messages, enums and oneofs are alike at once; for services this
is used once more, for the messages that their references resolve to.
-/

namespace ProtoCompanion

/-! ## Declarations inside declarations -/

theorem Site.mem_postorder_trans {root site inner : Site} (member : site ∈ root.postorder)
    (below : inner ∈ site.postorder) : inner ∈ root.postorder := by
  induction root using Site.nestedInduction with
  | step root ih =>
      have whole := member
      rw [postorder_eq] at member
      rcases List.mem_append.mp member with deeper | own
      · rcases List.mem_flatMap.mp deeper with ⟨child, isChild, inside⟩
        exact mem_postorder_of_child isChild (ih child isChild inside)
      · rw [List.mem_singleton.mp own] at below
        exact below

theorem FileDecl.mem_sites_trans {file : FileDecl} {site inner : Site} (member : site ∈ file.sites)
    (below : inner ∈ site.postorder) : inner ∈ file.sites := by
  rw [sites_eq] at member ⊢
  rcases List.mem_flatMap.mp member with ⟨root, isRoot, inside⟩
  exact List.mem_flatMap.mpr ⟨root, isRoot, Site.mem_postorder_trans inside below⟩

/-- Two lists that belong to a third one element by element belong to each other. -/
theorem forall₂_of_common {α β γ : Type} {relation : α → β → Prop} {other : α → γ → Prop}
    {result : β → γ → Prop} {xs : List α} {ys : List β} {zs : List γ}
    (first : List.Forall₂ relation xs ys) (second : List.Forall₂ other xs zs)
    (combine : ∀ x ∈ xs, ∀ y ∈ ys, ∀ z, relation x y → other x z → result y z) :
    List.Forall₂ result ys zs := by
  induction first generalizing zs with
  | nil =>
      cases second
      exact .nil
  | @cons x y xs ys holds _ ih =>
      cases second with
      | cons otherHolds others =>
          refine .cons (combine x List.mem_cons_self y List.mem_cons_self _ holds otherHolds) ?_
          exact ih others fun x isX y isY =>
            combine x (List.mem_cons_of_mem _ isX) y (List.mem_cons_of_mem _ isY)

theorem forall₂_and {α β : Type} {relation other : α → β → Prop} {xs : List α} {ys : List β}
    (first : List.Forall₂ relation xs ys) (second : List.Forall₂ other xs ys) :
    List.Forall₂ (fun x y => relation x y ∧ other x y) xs ys := by
  induction first with
  | nil => exact .nil
  | cons holds _ ih =>
      cases second with
      | cons otherHolds others => exact .cons ⟨holds, otherHolds⟩ (ih others)

/-! ## Descriptors of one declaration -/

section

variable {exact : Prop} {same : Nat → Nat → Prop} {unit like : FileUnit}

/-- Descriptors of the same declaration are alike when the files are, unless it is a service.  The
induction is on the first descriptor, whose children describe what is nested in the declaration. -/
theorem Describes.alike (units : unit.Alike same like) {site : Site} {descriptor other : Descriptor}
    (describes : Describes unit site descriptor) (describesToo : Describes like site other)
    (noService : site.decl.kind ≠ .service)
    (asked : ∀ inner ∈ site.postorder, ∀ field ∈ inner.decl.fields,
      field.type = .message ∨ field.type = .enum → Asked exact field.typeName) :
    descriptor.Alike exact same other := by
  induction descriptor using Descriptor.nestedInduction generalizing site other with
  | step descriptor ih =>
      have children :
          List.Forall₂ (Descriptor.Alike exact same) descriptor.children other.children := by
        apply forall₂_of_common describes.children describesToo.children
        intro child isChild found isFound otherFound childDescribes childDescribesToo
        exact ih found isFound childDescribes childDescribesToo
          (Site.kind_ne_service_of_mem_children isChild) fun inner below =>
            asked inner (Site.mem_postorder_of_child isChild below)
      rcases units with ⟨identity, shared?, belongs⟩
      cases describes with
      | enum serial position decl =>
          cases describesToo with
          | enum otherSerial => exact .enum (.intro otherSerial (.intro identity shared? belongs))
      | oneof serial position index decl =>
          cases describesToo with
          | oneof otherSerial => exact .oneof (.intro otherSerial (.intro identity shared? belongs))
      | service serial position decl methods describe => exact absurd rfl noService
      | message serial position head nested inner describe =>
          cases describesToo with
          | message otherSerial _ _ _ otherInner describeToo =>
              refine .message (.intro (.intro otherSerial (.intro identity shared? belongs)) ?_)
                children
              intro field isField
              apply asked _ (Site.mem_postorder_self _)
              have declared : field.decl ∈ (fieldsAt unit position head).map FieldDescriptor.decl :=
                List.mem_map_of_mem isField
              rwa [map_decl_fieldsAt] at declared

theorem map_snd_methodsAt (position : Position) (decls : List MethodDecl) :
    (methodsAt position decls).map Prod.snd = decls :=
  Position.map_elements (fun _ _ _ => rfl) 0 decls

/-- Descriptors of the same service are alike when its references have led to alike messages. -/
theorem Describes.alike_service (units : unit.Alike same like) {position : Position}
    {decl : ServiceDecl} {descriptor other : Descriptor} {registry otherRegistry : Registry}
    (describes : Describes unit ⟨position, .service decl⟩ descriptor)
    (describesToo : Describes like ⟨position, .service decl⟩ other)
    (resolves : Resolves registry (.service decl) descriptor)
    (resolvesToo : Resolves otherRegistry (.service decl) other)
    (messages : ∀ reference ∈ (Declaration.service decl).references, ∀ message likeMessage,
      registry.resolveMessage reference = .ok message →
        otherRegistry.resolveMessage reference = .ok likeMessage →
          message.Alike exact same likeMessage) :
    descriptor.Alike exact same other := by
  cases describes with
  | service serial _ _ methods describe =>
      cases describesToo with
      | service otherSerial _ _ otherMethods describeToo =>
          have resolved := resolves
          have resolvedToo := resolvesToo
          simp only [Resolves] at resolved resolvedToo
          rw [← map_snd_methodsAt position decl.methods, List.forall₂_map_left_iff]
            at resolved resolvedToo
          rcases units with ⟨identity, shared?, belongs⟩
          refine .service (.intro otherSerial (.intro identity shared? belongs)) ?_
          apply forall₂_of_common (forall₂_and describe resolved)
            (forall₂_and describeToo resolvedToo)
          intro declared isDeclared method _ otherMethod holds holdsToo
          rcases holds with ⟨isMethod, input, output⟩
          rcases holdsToo with ⟨isOther, otherInput, otherOutput⟩
          have isDecl : declared.2 ∈ decl.methods := by
            rw [← map_snd_methodsAt position decl.methods]
            exact List.mem_map_of_mem isDeclared
          have inputs := messages _ (List.mem_flatMap.mpr ⟨declared.2, isDecl, by simp⟩) _ _
            input otherInput
          have outputs := messages _ (List.mem_flatMap.mpr ⟨declared.2, isDecl, by simp⟩) _ _
            output otherOutput
          rw [isMethod, isOther]
          exact .intro inputs outputs

end

/-! ## Registries of the same files -/

/-- The places of one entry in two lists. -/
def SameEntry (entries others : List (FileDecl × UnitSettings)) (index otherIndex : Nat) : Prop :=
  ∃ entry, entries[index]? = some entry ∧ others[otherIndex]? = some entry

/-- A qualified name belongs to one declaration of one file. -/
theorem NamesApart.eq_of_schemaName_eq {entries : List (FileDecl × UnitSettings)}
    (apart : NamesApart (entries.map Prod.fst)) {entry other : FileDecl × UnitSettings}
    (isEntry : entry ∈ entries) (isOther : other ∈ entries) {site otherSite : Site}
    (isSite : site ∈ entry.1.sites) (isOtherSite : otherSite ∈ other.1.sites)
    (sameName : other.1.schemaName otherSite = entry.1.schemaName site) :
    other = entry ∧ otherSite = site := by
  rw [NamesApart, List.flatMap_map, List.nodup_flatMap] at apart
  rcases apart with ⟨each, apart⟩
  have sameEntry : other = entry := by
    by_contra different
    have symmetric : Std.Symm (Function.onFun List.Disjoint
        fun entry : FileDecl × UnitSettings => entry.1.sites.map entry.1.schemaName) :=
      ⟨fun _ _ disjoint _ inOther inFirst => disjoint inFirst inOther⟩
    have disjoint := apart.forall isOther isEntry different
    apply disjoint (List.mem_map_of_mem isOtherSite)
    rw [sameName]
    exact List.mem_map_of_mem isSite
  subst sameEntry
  exact ⟨rfl, List.inj_on_of_nodup_map (each other isEntry) isOtherSite isSite sameName⟩

theorem FileUnit.ofFile_alike {entries others : List (FileDecl × UnitSettings)}
    {entry : FileDecl × UnitSettings} {index otherIndex : Nat}
    (isEntry : entries[index]? = some entry) (isOther : others[otherIndex]? = some entry) :
    (FileUnit.ofFile index entry.1 entry.2).Alike (SameEntry entries others)
      (.ofFile otherIndex entry.1 entry.2) :=
  .intro otherIndex entry.2.sharedPackage? ⟨entry, isEntry, isOther⟩

/-- A registry that records some files, and another one that records at least these. -/
structure Registry.CoveredBy (registry other : Registry)
    (entries others : List (FileDecl × UnitSettings)) : Prop where
  records : registry.Records entries
  recordsToo : other.Records others
  known : entries ⊆ others
  apart : NamesApart (others.map Prod.fst)
  comparable : Comparable others

namespace Registry.CoveredBy

variable {registry other : Registry} {entries others : List (FileDecl × UnitSettings)}

/-- Under a name of the first registry, both hold descriptors of the same declaration. -/
theorem exists_same (covered : registry.CoveredBy other entries others) {name : String}
    {descriptor : Descriptor} (found : registry.byName[name]? = some descriptor) :
    ∃ index otherIndex entry site like,
      entries[index]? = some entry ∧ others[otherIndex]? = some entry ∧ site ∈ entry.1.sites ∧
        other.byName[name]? = some like ∧
        Describes (.ofFile index entry.1 entry.2) site descriptor ∧
        Describes (.ofFile otherIndex entry.1 entry.2) site like ∧
        Resolves registry site.decl descriptor ∧ Resolves other site.decl like := by
  rcases covered.records.sound name descriptor found with
    ⟨index, entry, site, isEntry, isSite, isName, describes, resolves⟩
  have isKnown := covered.known (List.mem_of_getElem? isEntry)
  rcases covered.recordsToo.complete entry isKnown site isSite with ⟨like, foundToo⟩
  rw [isName] at foundToo
  rcases covered.recordsToo.sound name like foundToo with
    ⟨otherIndex, otherEntry, otherSite, isOther, isOtherSite, isNameToo, describesToo, resolvesToo⟩
  rcases covered.apart.eq_of_schemaName_eq isKnown (List.mem_of_getElem? isOther) isSite isOtherSite
    (isNameToo.trans isName.symm) with ⟨rfl, rfl⟩
  exact ⟨index, otherIndex, otherEntry, otherSite, like, isEntry, isOther, isSite, foundToo,
    describes, describesToo, resolves, resolvesToo⟩

/-- Messages, enums and oneofs are alike at once. -/
theorem exists_alike_of_noService (covered : registry.CoveredBy other entries others)
    {name : String} {descriptor : Descriptor} (noService : descriptor.kind ≠ .service)
    (found : registry.byName[name]? = some descriptor) :
    ∃ like, other.byName[name]? = some like ∧
      descriptor.Alike False (SameEntry entries others) like := by
  rcases covered.exists_same found with
    ⟨index, otherIndex, entry, site, like, isEntry, isOther, isSite, foundToo, describes,
      describesToo, -, -⟩
  refine ⟨like, foundToo, ?_⟩
  apply describes.alike (FileUnit.ofFile_alike isEntry isOther) describesToo
  · rwa [describes.kind_eq] at noService
  · intro inner below field isField type
    have qualified := (covered.comparable entry (List.mem_of_getElem? isOther)).1
    exact .inr (qualified.fields inner (FileDecl.mem_sites_trans isSite below) field isField type)

/-- A qualified reference leads to alike messages. -/
theorem resolveMessage_alike (covered : registry.CoveredBy other entries others)
    {reference : String} (isQualified : IsQualified reference) {message like : MessageDescriptor}
    (resolved : registry.resolveMessage reference = .ok message)
    (resolvedToo : other.resolveMessage reference = .ok like) :
    message.Alike False (SameEntry entries others) like := by
  rcases isQualified.exists_undotted with ⟨name, isName⟩
  rcases covered.records.undotted.getElem?_of_resolveMessage isName resolved with
    ⟨children, found⟩
  rcases covered.recordsToo.undotted.getElem?_of_resolveMessage isName resolvedToo with
    ⟨otherChildren, foundToo⟩
  rcases covered.exists_alike_of_noService (by simp [Descriptor.kind]) found with
    ⟨_, isFound, alike⟩
  rw [foundToo] at isFound
  obtain rfl := Option.some.inj isFound
  cases alike with
  | message messages inner => exact messages

/-- Whatever one registry holds, the other holds alike. -/
theorem exists_alike (covered : registry.CoveredBy other entries others) {name : String}
    {descriptor : Descriptor} (found : registry.byName[name]? = some descriptor) :
    ∃ like, other.byName[name]? = some like ∧
      descriptor.Alike False (SameEntry entries others) like := by
  -- A service holds messages that were found when it was registered, so these are compared first.
  by_cases isService : descriptor.kind = .service
  · rcases covered.exists_same found with
      ⟨index, otherIndex, entry, ⟨position, decl⟩, like, isEntry, isOther, isSite, foundToo,
        describes, describesToo, resolves, resolvesToo⟩
    refine ⟨like, foundToo, ?_⟩
    have qualified := (covered.comparable entry (List.mem_of_getElem? isOther)).1
    rw [describes.kind_eq] at isService
    cases decl with
    | message decl => cases isService
    | enum decl => cases isService
    | oneof place decl => cases isService
    | service decl =>
        apply describes.alike_service (FileUnit.ofFile_alike isEntry isOther) describesToo resolves
          resolvesToo
        intro reference member message likeMessage resolved resolvedToo
        exact covered.resolveMessage_alike (qualified.methods _ isSite reference member) resolved
          resolvedToo
  · exact covered.exists_alike_of_noService isService found

theorem answersLike (covered : registry.CoveredBy other entries others) :
    registry.AnswersLike False (SameEntry entries others) other where
  flags := by
    intro index otherIndex sameEntry
    rcases sameEntry with ⟨entry, isEntry, isOther⟩
    exact (covered.recordsToo.flags otherIndex entry isOther).trans
      (covered.records.flags index entry isEntry).symm
  found := by
    intro reference asked
    apply covered.records.undotted.found id
    · intro name descriptor found
      exact covered.exists_alike found
    · exact asked.resolve_left id

end Registry.CoveredBy

/-! ## Files in registries of the same files -/

/-- What a file was registered as in one run is alike to what it was registered as in another. -/
theorem TopLevel.FoundIn.alike {declared others : TopLevel} {registry other : Registry}
    {file : FileDecl} {same : Nat → Nat → Prop} (found : declared.FoundIn registry file)
    (foundToo : others.FoundIn other file)
    (byName : ∀ (name : String) (descriptor : Descriptor),
      registry.byName[name]? = some descriptor →
        ∃ like, other.byName[name]? = some like ∧ descriptor.Alike False same like) :
    declared.Alike False same others := by
  have each {sites : List Site} {descriptors likes : List Descriptor}
      (first : List.Forall₂
        (fun site descriptor => registry.byName[file.schemaName site]? = some descriptor)
        sites descriptors)
      (second : List.Forall₂
        (fun site descriptor => other.byName[file.schemaName site]? = some descriptor)
        sites likes) :
      List.Forall₂ (Descriptor.Alike False same) descriptors likes := by
    apply forall₂_of_common first second
    intro site _ descriptor _ like found foundToo
    rcases byName _ _ found with ⟨_, isLike, alike⟩
    rw [foundToo] at isLike
    obtain rfl := Option.some.inj isLike
    exact alike
  exact ⟨each found.messages foundToo.messages, each found.enums foundToo.enums,
    each found.services foundToo.services⟩

end ProtoCompanion
