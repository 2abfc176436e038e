/-
Module: ProtoCompanion.Proofs.NameLookup
Purpose: After several files were registered, which declaration is found under which name.
Main exports: FileDecl.declarationCount, Registry.resolve_relative, eq_of_countP_eq_one,
  registered_declarations_found
-/
import Mathlib.Algebra.Ring.Nat
import ProtoCompanion.Proofs.DeclaredNames

/-!
Qualified names are exact: no declaration is lost, and each is found under its own name.  Relative
names are not; what is found is the declaration that was registered last.
-/

namespace ProtoCompanion

/-! ## Counting declarations -/

mutual

/-- The number of declarations in a message, at all depths, with the message itself. -/
def MessageDecl.declarationCount : MessageDecl → Nat
  | .mk head nested =>
      nestedDeclarationCount nested + head.enums.length + head.oneofs.length + 1

/-- The number of declarations in some messages, at all depths, with the messages themselves. -/
def nestedDeclarationCount : List MessageDecl → Nat
  | [] => 0
  | decl :: rest => decl.declarationCount + nestedDeclarationCount rest

end

/-- The number of messages, enums, oneofs and services of a file, at all depths. -/
def FileDecl.declarationCount (file : FileDecl) : Nat :=
  file.enums.length + nestedDeclarationCount file.messages + file.services.length

theorem Position.length_sitesFrom {α : Type} (position : Position)
    (declaration : Nat → α → Declaration) (start : Nat) (xs : List α) :
    (position.sitesFrom declaration start xs).length = xs.length := by
  induction xs generalizing start with
  | nil => rfl
  | cons x xs ih => rw [Position.sitesFrom_cons, List.length_cons, ih, List.length_cons]

mutual

theorem length_messagePostorder (position : Position) (decl : MessageDecl) :
    (messagePostorder position decl).length = decl.declarationCount := by
  cases decl with
  | mk head nested =>
      have inner := length_messagesPostorder (position.inList (.nestedMessages head.name)) 0 nested
      simp only [messagePostorder, List.length_append, inner, Position.sites,
        Position.length_sitesFrom, MessageDecl.declarationCount, List.length_singleton]

theorem length_messagesPostorder (position : Position) (index : Nat) (decls : List MessageDecl) :
    (messagesPostorder position index decls).length = nestedDeclarationCount decls := by
  cases decls with
  | nil => rfl
  | cons decl rest =>
      rw [messagesPostorder, List.length_append, nestedDeclarationCount,
        length_messagePostorder, length_messagesPostorder]

end

theorem FileDecl.length_sites (file : FileDecl) : file.sites.length = file.declarationCount := by
  have messages := length_messagesPostorder (Position.inList {} .messages) 0 file.messages
  rw [messagesPostorder_eq_flatMap] at messages
  simp only [sites, List.length_append, enumSites, serviceSites, messageSites, Position.sites,
    Position.length_sitesFrom, messages, declarationCount]

/-! ## The last of several -/

theorem exists_last {α : Type} (holds : α → Prop) {xs : List α} {x : α} (member : x ∈ xs)
    (hx : holds x) :
    ∃ earlier last later, xs = earlier ++ last :: later ∧ holds last ∧
      ∀ other ∈ later, ¬ holds other := by
  induction xs generalizing x with
  | nil => cases member
  | cons first rest ih =>
      by_cases another : ∃ y ∈ rest, holds y
      · obtain ⟨y, isLater, hy⟩ := another
        obtain ⟨earlier, last, later, split, isLast⟩ := ih isLater hy
        exact ⟨first :: earlier, last, later, by rw [split]; rfl, isLast⟩
      · rcases List.mem_cons.mp member with rfl | isLater
        · exact ⟨[], x, rest, rfl, hx, fun other isLater hy => another ⟨other, isLater, hy⟩⟩
        · exact absurd ⟨x, isLater, hx⟩ another

/-- Of two elements with a property that is had once there is only one. -/
theorem eq_of_countP_eq_one {α : Type} {holds : α → Bool} {xs : List α} {x y : α}
    (once : xs.countP holds = 1) (hx : x ∈ xs) (isX : holds x) (hy : y ∈ xs) (isY : holds y) :
    x = y := by
  rw [List.countP_eq_length_filter] at once
  obtain ⟨only, isOnly⟩ := List.length_eq_one_iff.mp once
  have xFiltered : x ∈ xs.filter holds := List.mem_filter.mpr ⟨hx, isX⟩
  have yFiltered : y ∈ xs.filter holds := List.mem_filter.mpr ⟨hy, isY⟩
  rw [isOnly, List.mem_singleton] at xFiltered yFiltered
  rw [xFiltered, yFiltered]

/-! ## Lookups by relative names -/

/-- A joined name is no reference with a dot in front. -/
theorem Registry.undotted?_intercalate {names : List String}
    (named : ∀ name ∈ names, IsNamePart name) : undotted? (".".intercalate names) = none :=
  undotted?_eq_none (Naming.isTrimmed_intercalate_of_named named).first

theorem Registry.resolve_relative {registry : Registry} {name : String} {descriptor : Descriptor}
    (undotted : undotted? name = none)
    (found : registry.byRelativeName[name]? = some descriptor) :
    registry.resolve name = .ok descriptor := by
  rw [resolve, resolve?, undotted, found]
  rfl

/-! ## Runs over files -/

section

variable {files : List (FileDecl × UnitSettings)} {answers : List (FileUnit × TopLevel)}

/-- The names of the descriptors of a run are computed from the files. -/
theorem map_allDescriptors {α : Type} {key : Descriptor → α}
    (each : List.Forall₂ AnswersFile files answers) (name : FileDecl → Site → α)
    (agree : ∀ entry ∈ files, ∀ identity site descriptor,
      Describes (.ofFile identity entry.1 entry.2) site descriptor →
        key descriptor = name entry.1 site) :
    (allDescriptors answers).map key =
      files.flatMap fun entry => entry.1.sites.map (name entry.1) := by
  induction each with
  | nil => rfl
  | @cons entry answer rest others first _ ih =>
      have later := ih fun other member => agree other (List.mem_cons_of_mem entry member)
      obtain ⟨identity, isUnit⟩ := first.unit
      have here : answer.2.descriptors.map key = entry.1.sites.map (name entry.1) := by
        have describe := first.describe
        rw [isUnit] at describe
        exact map_eq_map_of_forall₂ (agree entry List.mem_cons_self identity) describe
      rw [allDescriptors, List.flatMap_cons, List.map_append, here, List.flatMap_cons]
      exact congrArg _ later

/-- Where the names are not restyled, the relative name is the name inside the file. -/
theorem Describes.relativeName_of_plain {identity : Nat} {file : FileDecl} {settings : UnitSettings}
    (plain : settings.style = id) {site : Site} {descriptor : Descriptor}
    (describes : Describes (.ofFile identity file settings) site descriptor) :
    descriptor.relativeName = site.pathName := by
  rw [describes.relativeName_eq, Site.relativeName, FileUnit.ofFile, plain, List.map_id,
    Site.pathName, Site.parts]

theorem map_schemaName (each : List.Forall₂ AnswersFile files answers) :
    (allDescriptors answers).map Descriptor.schemaName =
      files.flatMap fun entry => entry.1.sites.map entry.1.schemaName := by
  apply map_allDescriptors each FileDecl.schemaName
  intro entry _ identity site descriptor describes
  exact describes.schemaName_eq

theorem map_relativeName (each : List.Forall₂ AnswersFile files answers)
    (plain : ∀ entry ∈ files, entry.2.style = id) :
    (allDescriptors answers).map Descriptor.relativeName =
      files.flatMap fun entry => entry.1.sites.map Site.pathName := by
  apply map_allDescriptors each fun _ => Site.pathName
  intro entry member identity site descriptor describes
  exact describes.relativeName_of_plain (plain entry member)

/-- No two declarations of a run have the same qualified name, be it in one file or in two. -/
theorem nodup_schemaNames (wellNamed : ∀ entry ∈ files, entry.1.WellNamed)
    (apart : files.Pairwise fun first second => ∀ site ∈ first.1.sites, ∀ other ∈ second.1.sites,
      first.1.schemaName site ≠ second.1.schemaName other) :
    (files.flatMap fun entry => entry.1.sites.map entry.1.schemaName).Nodup := by
  refine List.nodup_flatMap.mpr ⟨fun entry member => (wellNamed entry member).nodup_schemaName, ?_⟩
  apply apart.imp
  intro first second different name inFirst inSecond
  obtain ⟨site, isSite, rfl⟩ := List.mem_map.mp inFirst
  obtain ⟨other, isOther, same⟩ := List.mem_map.mp inSecond
  exact different site isSite other isOther same.symm

/-- What holds of every declaration of the files and of the descriptor made of it holds of all
declarations in the answers. -/
theorem forall_declared (each : List.Forall₂ AnswersFile files answers)
    {holds : FileDecl × UnitSettings → FileUnit × TopLevel → Site → Descriptor → Prop}
    (declared : ∀ entry ∈ files, ∀ answer identity, answer.1 = .ofFile identity entry.1 entry.2 →
      ∀ site ∈ entry.1.sites, ∀ descriptor ∈ allDescriptors answers,
        Describes answer.1 site descriptor → holds entry answer site descriptor) :
    List.Forall₂
      (fun entry answer => List.Forall₂ (holds entry answer) entry.1.sites answer.2.descriptors)
      files answers := by
  apply List.forall₂_iff_zip.mpr
  refine ⟨each.length_eq, ?_⟩
  intro entry answer pair
  obtain ⟨isEntry, isAnswer⟩ := List.of_mem_zip pair
  have answersFile := (List.forall₂_iff_zip.mp each).2 pair
  obtain ⟨identity, isUnit⟩ := answersFile.unit
  apply List.forall₂_iff_zip.mpr
  refine ⟨answersFile.describe.length_eq, ?_⟩
  intro site descriptor inFile
  obtain ⟨isSite, isDescriptor⟩ := List.of_mem_zip inFile
  exact declared entry isEntry answer identity isUnit site isSite descriptor
    (List.mem_flatMap.mpr ⟨answer, isAnswer, isDescriptor⟩)
    (Describes.of_mem_zip answersFile.describe inFile)

end

/-! ## Lookups after a run -/

section

variable {files : List (FileDecl × UnitSettings)} {answers : List (FileUnit × TopLevel)}
  {final : Registry} {descriptor : Descriptor}

/-- Where no qualified name is used twice, there are as many names as declarations. -/
theorem InsertsFiles.size_eq (inserts : InsertsFiles {} files answers final)
    (distinct : ((allDescriptors answers).map Descriptor.schemaName).Nodup) :
    final.size = (files.map fun entry => entry.1.declarationCount).sum := by
  have keys : (qualified (allDescriptors answers)).Pairwise
      fun first second => ¬ compare first.1 second.1 = .eq := by
    rw [qualified, List.pairwise_map]
    apply (List.pairwise_map.mp distinct).imp
    intro first second different same
    simp only [Std.compare_eq_iff_eq] at same
    exact different same
  have empty : ({} : Registry).byName.size = 0 := Std.TreeMap.size_emptyc
  have counted : (allDescriptors answers).length =
      (files.map fun entry => entry.1.declarationCount).sum := by
    rw [← List.length_map (f := Descriptor.schemaName), map_schemaName inserts.each,
      List.length_flatMap]
    simp only [List.length_map, FileDecl.length_sites]
  rw [Registry.size, inserts.byName, Std.TreeMap.size_insertMany_list keys (by simp), empty,
    Nat.zero_add, qualified, List.length_map, counted]

/-- A qualified name that is used once leads to the declaration. -/
theorem InsertsFiles.resolve_schemaName (inserts : InsertsFiles {} files answers final)
    (distinct : ((allDescriptors answers).map Descriptor.schemaName).Nodup)
    (member : descriptor ∈ allDescriptors answers) :
    final.resolve ("." ++ descriptor.schemaName) = .ok descriptor := by
  apply Registry.resolve_qualified
  rw [inserts.byName]
  exact getElem?_insertMany_of_nodup distinct member

/-- A relative name leads to the last declaration of that name. -/
theorem InsertsFiles.resolve_relativeName (inserts : InsertsFiles {} files answers final)
    (undotted : Registry.undotted? descriptor.relativeName = none)
    (member : descriptor ∈ allDescriptors answers) :
    ∃ earlier last later, allDescriptors answers = earlier ++ last :: later ∧
      last.relativeName = descriptor.relativeName ∧
      (∀ other ∈ later, other.relativeName ≠ descriptor.relativeName) ∧
      final.resolve descriptor.relativeName = .ok last := by
  obtain ⟨earlier, last, later, split, isLast, none⟩ :=
    exists_last (fun other => other.relativeName = descriptor.relativeName) member rfl
  refine ⟨earlier, last, later, split, isLast, none, ?_⟩
  apply Registry.resolve_relative undotted
  rw [inserts.byRelativeName, split, ← isLast]
  apply getElem?_insertMany_last
  rw [isLast]
  exact none

end

/-- When files have been registered from an empty registry, with the names left as they are, no
declaration is lost or taken for another one.  Every declaration at every depth has a number of its
own and is found under its qualified name, whatever else was registered.  Under its name inside the
file is found the declaration of that name that was registered last; this is the declaration itself
if no other one has the name. -/
theorem registered_declarations_found {files : List (FileDecl × UnitSettings)}
    {answers : List (FileUnit × TopLevel)} {final : Registry}
    (registered : registerFiles files {} = .ok answers final)
    (plain : ∀ entry ∈ files, entry.2.style = id)
    (wellNamed : ∀ entry ∈ files, entry.1.WellNamed)
    (apart : files.Pairwise fun first second => ∀ site ∈ first.1.sites, ∀ other ∈ second.1.sites,
      first.1.schemaName site ≠ second.1.schemaName other) :
    final.size = (files.map fun entry => entry.1.declarationCount).sum ∧
      ((allDescriptors answers).map (·.symbol.serial)).Nodup ∧
      List.Forall₂
        (fun entry answer =>
          List.Forall₂
            (fun site descriptor =>
              Describes answer.1 site descriptor ∧
                final.resolve ("." ++ entry.1.schemaName site) = .ok descriptor ∧
                (∃ earlier last later, allDescriptors answers = earlier ++ last :: later ∧
                  last.relativeName = site.pathName ∧
                  (∀ other ∈ later, other.relativeName ≠ site.pathName) ∧
                  final.resolve site.pathName = .ok last) ∧
                ((files.flatMap fun entry => entry.1.sites.map Site.pathName).count
                    site.pathName = 1 →
                  final.resolve site.pathName = .ok descriptor))
            entry.1.sites answer.2.descriptors)
        files answers := by
  have inserts := registerFiles_inserts registered
  have distinct := nodup_schemaNames wellNamed apart
  rw [← map_schemaName inserts.each] at distinct
  have numbered : ((allDescriptors answers).map (·.symbol.serial)).Nodup := by
    rw [inserts.serials]
    exact List.nodup_range'
  refine ⟨inserts.size_eq distinct, numbered, forall_declared inserts.each ?_⟩
  intro entry isEntry answer identity isUnit site isSite descriptor member describes
  have described := describes
  rw [isUnit] at described
  have qualifiedName : descriptor.schemaName = entry.1.schemaName site := described.schemaName_eq
  have relativeName := described.relativeName_of_plain (plain entry isEntry)
  have undotted : Registry.undotted? descriptor.relativeName = none := by
    rw [relativeName]
    exact Registry.undotted?_intercalate ((wellNamed entry isEntry).parts_named isSite)
  obtain ⟨earlier, last, later, split, isLast, none, foundLast⟩ :=
    inserts.resolve_relativeName undotted member
  rw [← qualifiedName, ← relativeName]
  refine ⟨describes, inserts.resolve_schemaName distinct member,
    ⟨earlier, last, later, split, isLast, none, foundLast⟩, ?_⟩
  intro once
  rw [← map_relativeName inserts.each plain, List.count, List.countP_map] at once
  have same : last = descriptor :=
    eq_of_countP_eq_one once (by simp [split]) (by simp [isLast]) member (by simp)
  rw [foundLast, same]

/-- Two files have a message of the same relative name.  Each is found under its qualified name, and
the relative name leads to the second. -/
theorem inner_messages_of_two_files :
    let file (package : String) : FileDecl := {
      package? := some package
      messages := [.mk { name? := some "Outer" } [.mk { name? := some "Inner" } []]] }
    let settings : UnitSettings := { companionClass := "Companion" }
    let files := [(file "first", settings), (file "second", settings)]
    ∃ answers final first second, registerFiles files {} = .ok answers final ∧
      (∀ entry ∈ files, entry.2.style = id) ∧ (∀ entry ∈ files, entry.1.WellNamed) ∧
      (files.Pairwise fun first second => ∀ site ∈ first.1.sites, ∀ other ∈ second.1.sites,
        first.1.schemaName site ≠ second.1.schemaName other) ∧
      final.size = 4 ∧
      final.resolve ".first.Outer.Inner" = .ok first ∧
      final.resolve ".second.Outer.Inner" = .ok second ∧
      (final.resolve? "Outer.Inner").map Descriptor.schemaName = some "second.Outer.Inner" := by
  intro file settings files
  have plain : ∀ entry ∈ files, entry.2.style = id := by simp [files, settings]
  have firstNamed : (file "first").WellNamed :=
    ⟨by decide +kernel, by decide +kernel, by decide +kernel⟩
  have secondNamed : (file "second").WellNamed :=
    ⟨by decide +kernel, by decide +kernel, by decide +kernel⟩
  have wellNamed : ∀ entry ∈ files, entry.1.WellNamed := by
    intro entry member
    simp only [files, List.mem_cons, List.not_mem_nil, or_false] at member
    rcases member with rfl | rfl
    · exact firstNamed
    · exact secondNamed
  have apart : files.Pairwise fun first second => ∀ site ∈ first.1.sites,
      ∀ other ∈ second.1.sites, first.1.schemaName site ≠ second.1.schemaName other := by
    decide +kernel
  have accepted : (match registerFiles files {} with
      | .ok _ final => (final.resolve? "Outer.Inner").map Descriptor.schemaName
      | .error _ _ => none) = some "second.Outer.Inner" := by
    decide +kernel
  let inner : Site := ⟨⟨[4, 0, 3, 0], ["Outer"]⟩, .message (.mk { name? := some "Inner" } [])⟩
  have isInner (package : String) : (file package).sites[0]? = some inner := rfl
  have firstName : "." ++ (file "first").schemaName inner = ".first.Outer.Inner" := by
    decide +kernel
  have secondName : "." ++ (file "second").schemaName inner = ".second.Outer.Inner" := by
    decide +kernel
  cases registered : registerFiles files {} with
  | error error final => simp [registered] at accepted
  | ok answers final =>
      obtain ⟨size, -, each⟩ := registered_declarations_found registered plain wellNamed apart
      obtain ⟨_, -, inFirst⟩ := exists_rel_getElem? each (show files[0]? = _ from rfl)
      obtain ⟨_, -, inSecond⟩ := exists_rel_getElem? each (show files[1]? = _ from rfl)
      obtain ⟨first, -, -, firstFound, -⟩ := exists_rel_getElem? inFirst (isInner "first")
      obtain ⟨second, -, -, secondFound, -⟩ := exists_rel_getElem? inSecond (isInner "second")
      rw [registered] at accepted
      refine ⟨answers, final, first, second, rfl, plain, wellNamed, apart, ?_, ?_, ?_, accepted⟩
      · rw [size]
        decide
      · rw [← firstName]
        exact firstFound
      · rw [← secondName]
        exact secondFound

end ProtoCompanion
