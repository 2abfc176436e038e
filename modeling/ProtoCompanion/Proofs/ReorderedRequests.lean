/-
Module: ProtoCompanion.Proofs.ReorderedRequests
Purpose: The order of the files of a request has no influence on what is written for each of them,
  nor on the index.
Main exports: Registry.topLevel, Outline.Options.written, Outline.outputs_eq_written,
  Outline.written_of_covers, outputs_of_reordered_request
-/
import ProtoCompanion.Proofs.ComparedRuns
import ProtoCompanion.Proofs.RecordedAlike
import ProtoCompanion.Proofs.SharedPackage

/-!
The output of a file is made when only the files before it are registered.  But it would be the same
if it were made at the end of the run: whatever was found then is still there.  The registries at
the end of two runs over the same files hold alike descriptors, whatever the order of the files.
-/

namespace ProtoCompanion

/-! ## Parts of lists of files -/

section

variable {entries others : List (FileDecl × UnitSettings)}

theorem Comparable.mono (comparable : Comparable others) (known : entries ⊆ others) :
    Comparable entries :=
  fun entry member => comparable entry (known member)

theorem NamesApart.perm {files reordered : List FileDecl} (apart : NamesApart files)
    (perm : files.Perm reordered) : NamesApart reordered :=
  (perm.flatMap_right _).nodup_iff.mp apart

theorem NamesApart.of_append (apart : NamesApart ((entries ++ others).map Prod.fst)) :
    NamesApart (entries.map Prod.fst) := by
  rw [NamesApart, List.map_append, List.flatMap_append] at apart
  exact (List.nodup_append.mp apart).1

/-- Registries that record the same files in different orders cover each other. -/
theorem Registry.Records.covers_of_perm {registry other : Registry}
    (records : registry.Records entries) (recordsToo : other.Records others)
    (reordered : entries.Perm others) (apart : NamesApart (entries.map Prod.fst))
    (comparable : Comparable entries) :
    registry.CoveredBy other entries others ∧ other.CoveredBy registry others entries := by
  constructor
  · exact ⟨records, recordsToo, reordered.subset, apart.perm (reordered.map Prod.fst),
      comparable.mono reordered.symm.subset⟩
  · exact ⟨recordsToo, records, reordered.symm.subset, apart, comparable⟩

end

/-! ## Declarations read off a registry -/

/-- The top-level declarations of a file that a registry holds. -/
def Registry.topLevel (registry : Registry) (file : FileDecl) : TopLevel where
  messages := file.messageSites.filterMap fun site => registry.byName[file.schemaName site]?
  enums := file.enumSites.filterMap fun site => registry.byName[file.schemaName site]?
  services := file.serviceSites.filterMap fun site => registry.byName[file.schemaName site]?

theorem filterMap_eq_of_forall₂ {α β : Type} {f : α → Option β} {xs : List α} {ys : List β}
    (each : List.Forall₂ (fun x y => f x = some y) xs ys) : xs.filterMap f = ys := by
  induction each with
  | nil => rfl
  | cons first _ ih => rw [List.filterMap_cons_some first, ih]

theorem forall₂_filterMap {α β : Type} {f : α → Option β} {xs : List α}
    (each : ∀ x ∈ xs, ∃ y, f x = some y) :
    List.Forall₂ (fun x y => f x = some y) xs (xs.filterMap f) := by
  induction xs with
  | nil => exact .nil
  | cons x xs ih =>
      rcases each x List.mem_cons_self with ⟨y, isFirst⟩
      rw [List.filterMap_cons_some isFirst]
      exact .cons isFirst (ih fun other member => each other (List.mem_cons_of_mem x member))

theorem TopLevel.FoundIn.eq_topLevel {declared : TopLevel} {registry : Registry} {file : FileDecl}
    (found : declared.FoundIn registry file) : declared = registry.topLevel file := by
  rw [Registry.topLevel, filterMap_eq_of_forall₂ found.messages,
    filterMap_eq_of_forall₂ found.enums, filterMap_eq_of_forall₂ found.services]

theorem Registry.Records.topLevel_foundIn {registry : Registry}
    {entries : List (FileDecl × UnitSettings)} (records : registry.Records entries)
    {entry : FileDecl × UnitSettings} (member : entry ∈ entries) :
    (registry.topLevel entry.1).FoundIn registry entry.1 := by
  have held {site : Site}
      (isTopLevel : site ∈ entry.1.enumSites ++ entry.1.messageSites ++ entry.1.serviceSites) :
      ∃ descriptor, registry.byName[entry.1.schemaName site]? = some descriptor :=
    records.complete entry member site
      (FileDecl.mem_sites_of_topLevel isTopLevel (Site.mem_postorder_self site))
  constructor
  · exact forall₂_filterMap fun site isSite => held (by simp [isSite])
  · exact forall₂_filterMap fun site isSite => held (by simp [isSite])
  · exact forall₂_filterMap fun site isSite => held (by simp [isSite])

/-! ## Outputs read off a registry -/

namespace Outline

/-- The companion of a file, made from what a registry holds of the file. -/
def companionIn (registry : Registry) (file : FileDecl) (settings : UnitSettings) :
    Except Error OutputFile :=
  companionOf registry (.ofFile 0 file settings) (registry.topLevel file)

/-- What is written for a file, made from what a registry holds of the file. -/
def Options.written (options : Options) (shared? : Option String) (registry : Registry)
    (entry : FileDecl × HttpRuleTable) : Option OutputFile :=
  if options.skip.contains entry.1.name then none
  else (companionIn registry entry.1 (options.settings shared? entry.1 entry.2)).toOption

/-- The identity of a file does not occur in its companion. -/
theorem companionOf_eq_companionIn {registry : Registry} {declared : TopLevel} {file : FileDecl}
    (found : declared.FoundIn registry file) (identity : Nat) (settings : UnitSettings) :
    companionOf registry (.ofFile identity file settings) declared =
      companionIn registry file settings := by
  rw [found.eq_topLevel]
  rfl

section

variable {registry other : Registry} {entries others : List (FileDecl × UnitSettings)}

/-- A companion that can be made from one registry can be made from any that covers it. -/
theorem companionIn_ok (covered : registry.CoveredBy other entries others)
    {entry : FileDecl × UnitSettings} (member : entry ∈ entries) {output : OutputFile}
    (made : companionIn registry entry.1 entry.2 = .ok output) :
    companionIn other entry.1 entry.2 = .ok output := by
  rcases List.mem_iff_getElem?.mp member with ⟨index, isEntry⟩
  rcases List.mem_iff_getElem?.mp (covered.known member) with ⟨otherIndex, isOther⟩
  have found := covered.records.topLevel_foundIn member
  have foundToo := covered.recordsToo.topLevel_foundIn (covered.known member)
  have alike := found.alike foundToo fun name descriptor => covered.exists_alike
  have repeats := companionOf_repeats covered.answersLike
    (FileUnit.ofFile_alike isEntry isOther) alike
  rw [companionOf_eq_companionIn found, companionOf_eq_companionIn foundToo] at repeats
  rcases repeats.exists_ok made with ⟨_, madeToo, rfl⟩
  exact madeToo

/-- What the index depends on: which declarations are messages, and their rows. -/
def indexed (name : String) (descriptor : Descriptor) : DescriptorKind × String :=
  (descriptor.kind, indexRow name descriptor)

theorem indexed_eq {exact : Prop} {same : Nat → Nat → Prop} {descriptor like : Descriptor}
    (alike : descriptor.Alike exact same like) (name : String) :
    indexed name like = indexed name descriptor := by
  have rows : indexRow name like = indexRow name descriptor := by
    delta indexRow
    rw [alike.companionName_eq]
  rw [indexed, indexed, alike.kind_eq, rows]

theorem indexRows_eq (registry : Registry) :
    indexRows registry =
      ((registry.byName.map indexed).toList.filter fun entry => entry.2.1 = .message).map
        fun entry => entry.2.2 := by
  rw [Std.TreeMap.toList_map, List.filter_map, List.map_map]
  rfl

/-- Registries that cover each other have the same index. -/
theorem indexRows_of_covers (covered : registry.CoveredBy other entries others)
    (coveredToo : other.CoveredBy registry others entries) :
    indexRows registry = indexRows other := by
  -- The maps themselves differ, in the numbers of descriptors and the identities of files.
  have equivalent : (registry.byName.map indexed).Equiv (other.byName.map indexed) := by
    apply Std.TreeMap.Equiv.of_forall_constGet?_eq
    intro name
    rw [Std.TreeMap.getElem?_map, Std.TreeMap.getElem?_map]
    cases found : registry.byName[name]? with
    | some descriptor =>
        rcases covered.exists_alike found with ⟨like, foundToo, alike⟩
        rw [foundToo, Option.map_some, Option.map_some, indexed_eq alike]
    | none =>
        cases foundToo : other.byName[name]? with
        | none => rfl
        | some like =>
            rcases coveredToo.exists_alike foundToo with ⟨_, impossible, -⟩
            rw [found] at impossible
            cases impossible
  rw [indexRows_eq, indexRows_eq, equivalent.toList_eq]

end

/-! ## Whole runs -/

section

variable {options : Options} {shared? : Option String} {parameters : Parameters}

/-- The output of a file can be read off any registry that covers the one it was made with. -/
theorem written_of_file {registry other : Registry}
    {entries others : List (FileDecl × UnitSettings)}
    (covered : registry.CoveredBy other entries others) {file : FileDecl}
    {httpRules : HttpRuleTable} (member : (file, options.settings shared? file httpRules) ∈ entries)
    {identity : Nat} {declared : TopLevel} (found : declared.FoundIn registry file)
    {output? : Option OutputFile}
    (output : options.skip.contains file.name = true ∧ output? = none ∨
      options.skip.contains file.name = false ∧
        ∃ output,
          companionOf registry (.ofFile identity file (options.settings shared? file httpRules))
              declared = .ok output ∧
            output? = some output) :
    output? = options.written shared? other (file, httpRules) := by
  rw [Options.written]
  rcases output with ⟨skipped, rfl⟩ | ⟨notSkipped, companion, made, rfl⟩
  · rw [if_pos skipped]
  · rw [companionOf_eq_companionIn found] at made
    rw [if_neg (Bool.eq_false_iff.mp notSkipped), companionIn_ok covered member made]
    rfl

/-- The outputs of a run are those that can be read off the registry at its end.  The induction is
on the files that are left; those that were registered before are recorded already.  The output of
the first file is made with the registry right after it, which the one at the end covers. -/
theorem outputs_eq_written {done : List (FileDecl × UnitSettings)}
    {rest : List (FileDecl × HttpRuleTable)} {state after : RunState Unit}
    {outputs : List (Option OutputFile)} (records : state.registry.Records done)
    (comparable : Comparable (done ++ options.settled shared? rest))
    (apart : NamesApart ((done ++ options.settled shared? rest).map Prod.fst))
    (succeeds : outcome (Running.outputs (generator options) shared? parameters rest state) =
      .ok (outputs, after)) :
    after.registry.Records (done ++ options.settled shared? rest) ∧
      outputs = rest.map (options.written shared? after.registry) := by
  induction rest generalizing done state outputs with
  | nil =>
      cases succeeds
      rw [Options.settled, List.map_nil, List.append_nil]
      exact ⟨records, rfl⟩
  | cons entry rest ih =>
      rcases entry with ⟨decl, httpRules⟩
      rcases Running.exists_of_outputs_cons succeeds with
        ⟨output?, middle, others, first, later, rfl⟩
      rcases exists_of_file_ok first with ⟨unit, declared, registered, output⟩
      have split : done ++ options.settled shared? ((decl, httpRules) :: rest) =
          (done ++ [(decl, options.settings shared? decl httpRules)]) ++
            options.settled shared? rest := by
        simp [Options.settled]
      rw [split] at comparable apart ⊢
      rcases records.registerFile (comparable.mono (List.subset_append_left _ _)) apart.of_append
        registered with ⟨recordsMiddle, -, rfl, found⟩
      rcases ih recordsMiddle comparable apart later with ⟨recordsAfter, rfl⟩
      refine ⟨recordsAfter, ?_⟩
      have covered : middle.registry.CoveredBy after.registry _ _ :=
        ⟨recordsMiddle, recordsAfter, List.subset_append_left _ _, apart, comparable⟩
      have isRecorded : (decl, options.settings shared? decl httpRules) ∈
          done ++ [(decl, options.settings shared? decl httpRules)] :=
        List.mem_append_right done List.mem_cons_self
      rw [List.map_cons, written_of_file covered isRecorded found output]

/-- The same outputs can be read off registries that cover each other. -/
theorem written_of_covers {registry other : Registry}
    {entries others : List (FileDecl × HttpRuleTable)}
    (covered : registry.CoveredBy other (options.settled shared? entries)
      (options.settled shared? others))
    (coveredToo : other.CoveredBy registry (options.settled shared? others)
      (options.settled shared? entries))
    {entry : FileDecl × HttpRuleTable} (member : entry ∈ entries) :
    options.written shared? other entry = options.written shared? registry entry := by
  have isSettled : (entry.1, options.settings shared? entry.1 entry.2) ∈
      options.settled shared? entries :=
    List.mem_map_of_mem member
  rw [Options.written, Options.written]
  congr 1
  cases made : companionIn registry entry.1 (options.settings shared? entry.1 entry.2) with
  | ok output => rw [companionIn_ok covered isSettled made]
  | error error =>
      cases madeToo : companionIn other entry.1
          (options.settings shared? entry.1 entry.2) with
      | error found => rfl
      | ok output =>
          rw [companionIn_ok coveredToo (covered.known isSettled) madeToo] at made
          cases made

theorem exists_of_run_ok {request : CodeRequest} {files : List OutputFile}
    (succeeds : (generator options).run request () = .ok files ()) :
    ∃ outputs after,
      (generator options).outputsIn request { registry := {}, generator := () } =
          .ok outputs after ∧
        files = outputs.flatMap Option.toList ++ options.extras request after.registry := by
  rw [Generator.run] at succeeds
  split at succeeds
  case h_1 made after succeedsIn =>
    rcases EStateM.Result.ok.inj succeeds with ⟨rfl, -⟩
    rcases exists_of_runIn_ok succeedsIn with ⟨outputs, outputsMade, isAnswer⟩
    exact ⟨outputs, after, outputsMade, isAnswer⟩
  case h_2 => cases succeeds

/-- What a run over a whole request leaves and writes. -/
theorem outputsIn_eq_written {request : CodeRequest} {after : RunState Unit}
    {outputs : List (Option OutputFile)}
    (qualified : ∀ file ∈ request.files, file.FullyQualified) (apart : NamesApart request.files)
    (made : (generator options).outputsIn request { registry := {}, generator := () } =
      .ok outputs after) :
    let shared? := sharedPackage? request.files
    Comparable (options.settled shared? request.entries) ∧
      after.registry.Records (options.settled shared? request.entries) ∧
      outputs = request.entries.map (options.written shared? after.registry) := by
  intro shared?
  have files := options.map_fst_settled shared? request
  have comparable : Comparable (options.settled shared? request.entries) := by
    intro entry member
    constructor
    · apply qualified
      rw [← files]
      exact List.mem_map_of_mem member
    · rcases List.mem_map.mp member with ⟨declared, -, rfl⟩
      rfl
  rw [← files] at apart
  exact ⟨comparable, outputs_eq_written Registry.records_empty comparable apart
    (outcome_eq_ok.mpr made)⟩

end

end Outline

/-- The order of files has no influence on what is written for them.  Let two requests hold the same
files, each with the same HTTP rules, in different orders, and let runs over both succeed; let the
names of the files be fit to stand between dots and pairwise different, their references qualified,
and their packages without two dots in a row.  Then both runs write the same for each file, they
answer with these outputs in the order of their own request, and the index after them is the
same. -/
theorem outputs_of_reordered_request (options : Outline.Options) {request other : CodeRequest}
    (reordered : request.entries.Perm other.entries)
    (qualified : ∀ file ∈ request.files, file.FullyQualified) (apart : NamesApart request.files)
    (single : ∀ file ∈ request.files, SingleDots file.outputPackage.toList)
    {files others : List OutputFile}
    (succeeds : (Outline.generator options).run request () = .ok files ())
    (succeedsToo : (Outline.generator options).run other () = .ok others ()) :
    ∃ (written : FileDecl × HttpRuleTable → Option OutputFile) (index : List OutputFile)
        (after last : RunState Unit),
      (Outline.generator options).outputsIn request { registry := {}, generator := () } =
          .ok (request.entries.map written) after ∧
        (Outline.generator options).outputsIn other { registry := {}, generator := () } =
          .ok (other.entries.map written) last ∧
        index = options.extras request after.registry ∧
        index = options.extras other last.registry ∧
        files = request.entries.filterMap written ++ index ∧
        others = other.entries.filterMap written ++ index := by
  have filesReordered : request.files.Perm other.files := by
    rw [← request.map_fst_entries, ← other.map_fst_entries]
    exact reordered.map Prod.fst
  have shared : sharedPackage? request.files = sharedPackage? other.files :=
    sharedPackage?_perm filesReordered single
  rcases Outline.exists_of_run_ok succeeds with ⟨outputs, after, made, isAnswer⟩
  rcases Outline.exists_of_run_ok succeedsToo with ⟨otherOutputs, last, madeToo, isAnswerToo⟩
  rcases Outline.outputsIn_eq_written qualified apart made with
    ⟨comparable, records, rfl⟩
  rcases Outline.outputsIn_eq_written
    (fun file member => qualified file (filesReordered.symm.subset member))
    (apart.perm filesReordered) madeToo with ⟨-, recordsToo, rfl⟩
  rw [← shared] at recordsToo madeToo isAnswerToo
  rw [← options.map_fst_settled (sharedPackage? request.files) request] at apart
  rcases records.covers_of_perm recordsToo (reordered.map _) apart comparable with
    ⟨covered, coveredToo⟩
  have sameOutputs : other.entries.map
        (options.written (sharedPackage? request.files) last.registry) =
      other.entries.map (options.written (sharedPackage? request.files) after.registry) := by
    apply List.map_congr_left
    intro entry member
    exact Outline.written_of_covers covered coveredToo (reordered.symm.subset member)
  have sameIndex : options.extras other last.registry = options.extras request after.registry := by
    rw [Outline.Options.extras, Outline.Options.extras, Outline.indexFile, Outline.indexFile,
      Outline.indexContent, Outline.indexContent, ← shared,
      Outline.indexRows_of_covers covered coveredToo]
  rw [sameOutputs] at madeToo isAnswerToo
  rw [sameIndex] at isAnswerToo
  rw [List.flatMap_map, ← List.filterMap_eq_flatMap_toList] at isAnswer isAnswerToo
  exact ⟨_, _, after, last, made, madeToo, rfl, sameIndex.symm, isAnswer, isAnswerToo⟩

/-- A request of two files that do not refer to each other. -/
def separateRequest : CodeRequest where
  files := [
    { name? := some "item.proto", package? := some "shop"
      enums := [{ name? := some "Color" }]
      messages := [.mk {
        name? := some "Item"
        fields := [{ name? := some "color", type? := some 14, typeName? := some ".shop.Color" }] }
        []] },
    { name? := some "user.proto", package? := some "shop.people"
      messages := [.mk { name? := some "User" } []]
      services := [{
        name? := some "People"
        methods := [{
          name? := some "Merge", input? := some ".shop.people.User"
          output? := some ".shop.people.User" }] }] }]

/-- The files of that request in both orders: the outputs change places, and nothing else
changes. -/
theorem outlines_of_separate_request :
    let reversed : CodeRequest := { files := separateRequest.files.reverse }
    ∃ item user index,
      (Outline.generator {}).run separateRequest () = .ok [item, user, index] () ∧
        (Outline.generator {}).run reversed () = .ok [user, item, index] () := by
  intro reversed
  have names : (match (Outline.generator {}).run separateRequest () with
      | .ok files _ => files.map OutputFile.name?
      | .error _ _ => []) =
      [some "shop/ItemOutline.java", some "shop/people/UserOutline.java",
        some "shop/OutlineIndex.java"] := by
    decide +kernel
  have accepts : (match (Outline.generator {}).run reversed () with
      | .ok _ _ => true
      | .error _ _ => false) = true := by
    decide +kernel
  have twoFiles : ∃ item user,
      separateRequest.entries = [item, user] ∧ reversed.entries = [user, item] :=
    ⟨_, _, rfl, rfl⟩
  have reordered : separateRequest.entries.Perm reversed.entries := .swap _ _ []
  have qualified : ∀ file ∈ separateRequest.files, file.FullyQualified := by
    decide +kernel
  have apart : NamesApart separateRequest.files := by
    decide +kernel
  have single : ∀ file ∈ separateRequest.files, SingleDots file.outputPackage.toList := by
    decide +kernel
  cases accepted : (Outline.generator {}).run separateRequest () with
  | error error after =>
      rw [accepted] at names
      cases names
  | ok files after =>
      cases acceptedToo : (Outline.generator {}).run reversed () with
      | error error after =>
          rw [acceptedToo] at accepts
          cases accepts
      | ok others after =>
          rcases outputs_of_reordered_request {} reordered qualified apart single accepted
            acceptedToo with ⟨written, index, after, last, -, -, isIndex, -, rfl, rfl⟩
          rcases twoFiles with ⟨item, user, forward, backward⟩
          have isIndexFile : index = [Outline.indexFile after.registry
              ((sharedPackage? separateRequest.files).getD "")] := isIndex
          rw [accepted, forward, isIndexFile] at names
          rw [forward, backward, isIndexFile]
          have three := congrArg List.length names
          cases itemFile : written item with
          | none => cases userFile : written user <;> simp [itemFile, userFile] at three
          | some itemOutput =>
              cases userFile : written user with
              | none => simp [itemFile, userFile] at three
              | some userOutput =>
                  simp only [List.filterMap_cons_some itemFile, List.filterMap_cons_some userFile,
                    List.filterMap_nil]
                  exact ⟨itemOutput, userOutput, _, rfl, rfl⟩

end ProtoCompanion
