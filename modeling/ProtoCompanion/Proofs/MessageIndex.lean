/-
Module: ProtoCompanion.Proofs.MessageIndex
Purpose: The index lists all messages of a request, each once, in the order of their names.
Main exports: MessageDecl.paths, FileDecl.messageEntries, Registry.messageEntries,
  sortedMessages, Outline.indexText, Outline.indexRows_of_perm, Outline.indexLines,
  index_lists_all_messages
-/
import ProtoCompanion.Proofs.NameLookup
import ProtoCompanion.Proofs.ReorderedRequests
import ProtoCompanion.Proofs.SkippedFiles
import ProtoCompanion.Proofs.WrittenLines

/-!
The index is made of the registry at the end of a run, in which the declarations of all files are
mixed.  Which messages it lists is said here without a registry, by the trees of messages in the
files of the request.  Skipped files and the messages that stand for map entries are no exceptions.
-/

namespace ProtoCompanion

open Naming (dotted)

/-! ## The messages of a file -/

mutual

/-- The names that lead to a message and to all messages inside it, given the names around it.  A
message comes after those inside it. -/
def MessageDecl.paths (outers : List String) : MessageDecl → List (List String)
  | .mk head nested => nestedPaths (outers ++ [head.name]) nested ++ [outers ++ [head.name]]

/-- The names that lead to some messages and to all messages inside them. -/
def nestedPaths (outers : List String) : List MessageDecl → List (List String)
  | [] => []
  | decl :: rest => decl.paths outers ++ nestedPaths outers rest

end

/-- What an index says about a message of a file: its name in the schema and its companion class. -/
def FileDecl.messageEntry (suffix : String) (file : FileDecl) (path : List String) :
    String × String :=
  (dotted [file.package, ".".intercalate path],
    dotted [file.outputPackage, file.outerClassName ++ suffix, ".".intercalate path])

/-- What an index says about the messages of a file, at all depths. -/
def FileDecl.messageEntries (suffix : String) (file : FileDecl) : List (String × String) :=
  (nestedPaths [] file.messages).map (file.messageEntry suffix)

mutual

theorem map_parts_messagePostorder (position : Position) (decl : MessageDecl) :
    ((messagePostorder position decl).filter fun site => site.decl.kind = .message).map Site.parts =
      decl.paths position.outers := by
  cases decl with
  | mk head nested =>
      have inner := map_parts_messagesPostorder
        (position.inList (.nestedMessages head.name)) 0 nested
      rw [messagePostorder, List.filter_append, List.filter_append, List.filter_append,
        position.filter_sites _ .enum (fun _ _ => rfl),
        position.filter_sites _ .oneof (fun _ _ => rfl), if_neg (by decide), if_neg (by decide),
        List.append_nil, List.append_nil, List.map_append, inner, MessageDecl.paths]
      rfl

theorem map_parts_messagesPostorder (position : Position) (index : Nat)
    (decls : List MessageDecl) :
    ((messagesPostorder position index decls).filter fun site =>
      site.decl.kind = .message).map Site.parts = nestedPaths position.outers decls := by
  cases decls with
  | nil => rfl
  | cons decl rest =>
      rw [messagesPostorder, List.filter_append, List.map_append, map_parts_messagePostorder,
        map_parts_messagesPostorder, nestedPaths]
      rfl

end

theorem FileDecl.map_parts_sites (file : FileDecl) :
    (file.sites.filter fun site => site.decl.kind = .message).map Site.parts =
      nestedPaths [] file.messages := by
  have messages := map_parts_messagesPostorder (Position.inList {} .messages) 0 file.messages
  rw [messagesPostorder_eq_flatMap] at messages
  rw [sites, List.filter_append, List.filter_append, enumSites, serviceSites,
    Position.filter_sites _ _ .enum (fun _ _ => rfl),
    Position.filter_sites _ _ .service (fun _ _ => rfl), if_neg (by decide), if_neg (by decide),
    List.nil_append, List.append_nil]
  exact messages

/-! ## The messages of a registry -/

/-- What an index says about the messages of a registry, in the order of their names. -/
def Registry.messageEntries (registry : Registry) : List (String × String) :=
  (registry.entries.filter fun (_, descriptor) => descriptor.kind = .message).map
    fun (name, descriptor) => (name, descriptor.companionName id)

theorem Registry.pairwise_entries (registry : Registry) :
    registry.entries.Pairwise fun first second => first.1 < second.1 :=
  registry.byName.ordered_keys_toList.imp compareOfLessAndEq_eq_lt.mp

theorem Registry.pairwise_messageEntries (registry : Registry) :
    (registry.messageEntries.map Prod.fst).Pairwise (· < ·) := by
  rw [messageEntries, List.map_map, List.pairwise_map]
  exact registry.pairwise_entries.filter _

theorem Registry.eq_of_mem_entries {registry : Registry} {first second : String × Descriptor}
    (isFirst : first ∈ registry.entries) (isSecond : second ∈ registry.entries)
    (sameName : first.1 = second.1) : first = second := by
  rw [entries, Std.TreeMap.mem_toList_iff_getElem?_eq_some] at isFirst isSecond
  rw [sameName, isSecond] at isFirst
  exact Prod.ext sameName (Option.some.inj isFirst).symm

/-- The messages among some declarations, sorted by their names. -/
def sortedMessages (listed : List (String × Descriptor)) : List (String × Descriptor) :=
  (listed.filter fun (_, descriptor) => descriptor.kind = .message).mergeSort
    fun first second => first.1 ≤ second.1

theorem pairwise_sortedMessages (listed : List (String × Descriptor)) :
    (sortedMessages listed).Pairwise fun first second => first.1 ≤ second.1 := by
  rw [sortedMessages]
  refine (List.pairwise_mergeSort ?trans ?total _).imp of_decide_eq_true
  case trans =>
    intro first second third before after
    exact decide_eq_true (String.le_trans (of_decide_eq_true before) (of_decide_eq_true after))
  case total =>
    intro first second
    simpa using String.le_total first.1 second.1

/-- In whatever order the declarations of a registry are listed, sorting the messages among them
gives the order of the registry. -/
theorem Registry.sortedMessages_of_perm {registry : Registry}
    {listed : List (String × Descriptor)} (listing : listed.Perm registry.entries) :
    sortedMessages listed =
      registry.entries.filter fun (_, descriptor) => descriptor.kind = .message := by
  have sorted : (sortedMessages listed).Perm
      (registry.entries.filter fun (_, descriptor) => descriptor.kind = .message) :=
    (List.mergeSort_perm _ _).trans (listing.filter _)
  have ordered : registry.entries.Pairwise fun first second => first.1 ≤ second.1 :=
    registry.pairwise_entries.imp fun before => String.not_lt.mp (String.lt_asymm before)
  refine List.Perm.eq_of_pairwise ?_ (pairwise_sortedMessages listed) (ordered.filter _) sorted
  intro first second isFirst isSecond before after
  have listedToo := List.mem_of_mem_filter (sorted.mem_iff.mp isFirst)
  exact eq_of_mem_entries listedToo (List.mem_of_mem_filter isSecond)
    (String.le_antisymm before after)

/-- What was entered under different names is listed once, and nothing else is. -/
theorem toList_insertMany_perm {descriptors : List Descriptor}
    (distinct : (descriptors.map Descriptor.schemaName).Nodup) :
    (({} : Registry).byName.insertMany (qualified descriptors)).toList.Perm
      (qualified descriptors) := by
  have names : (qualified descriptors).map Prod.fst = descriptors.map Descriptor.schemaName := by
    simp only [qualified, List.map_map, Function.comp_def]
  have once : (qualified descriptors).Nodup := by
    apply List.Nodup.of_map Prod.fst
    rw [names]
    exact distinct
  have onceListed : (({} : Registry).byName.insertMany (qualified descriptors)).toList.Nodup := by
    apply List.Nodup.of_map Prod.fst
    rw [Std.TreeMap.map_fst_toList_eq_keys]
    exact Std.TreeMap.nodup_keys
  rw [List.perm_ext_iff_of_nodup onceListed once]
  rintro ⟨name, descriptor⟩
  rw [Std.TreeMap.mem_toList_iff_getElem?_eq_some]
  constructor
  case mp =>
    intro found
    by_cases isName : ∃ other ∈ descriptors, other.schemaName = name
    · obtain ⟨other, member, rfl⟩ := isName
      rw [qualified, getElem?_insertMany_of_nodup distinct member] at found
      rw [← Option.some.inj found]
      exact List.mem_map_of_mem member
    · rw [qualified, getElem?_insertMany_of_ne (by simpa using isName)] at found
      rw [Std.TreeMap.getElem?_emptyc] at found
      cases found
  case mpr =>
    intro member
    obtain ⟨other, isOther, pair⟩ := List.mem_map.mp member
    obtain ⟨rfl, rfl⟩ := Prod.mk.inj pair
    exact getElem?_insertMany_of_nodup distinct isOther

/-- What an index says about the descriptor of a declaration can be computed from the file. -/
theorem Describes.messageEntry_eq {identity : Nat} {file : FileDecl} {settings : UnitSettings}
    {suffix : String} (suffixed : settings.companionClass = file.outerClassName ++ suffix)
    {site : Site} {descriptor : Descriptor}
    (describes : Describes (.ofFile identity file settings) site descriptor) :
    (descriptor.schemaName, descriptor.companionName id) =
      file.messageEntry suffix site.parts := by
  rw [Descriptor.schemaName, Descriptor.companionName, describes.symbol_eq, Symbol.schemaName,
    Symbol.companionName, Symbol.nameWithin, List.map_id, FileDecl.messageEntry, ← suffixed]
  rfl

/-- What decides about the entry of a descriptor: whether it is one of a message, and its names. -/
def Descriptor.indexed (descriptor : Descriptor) : DescriptorKind × String × String :=
  (descriptor.kind, descriptor.schemaName, descriptor.companionName id)

/-- The same, computed from the file of the declaration. -/
def FileDecl.indexed (suffix : String) (file : FileDecl) (site : Site) :
    DescriptorKind × String × String :=
  (site.decl.kind, file.messageEntry suffix site.parts)

/-- The entries of the messages among some declarations. -/
def entriesOf (indexed : List (DescriptorKind × String × String)) : List (String × String) :=
  (indexed.filter (·.1 = .message)).map Prod.snd

theorem FileDecl.entriesOf_sites (suffix : String) (file : FileDecl) :
    entriesOf (file.sites.map (file.indexed suffix)) = file.messageEntries suffix := by
  rw [entriesOf, messageEntries, ← file.map_parts_sites, List.filter_map, List.map_map,
    List.map_map]
  rfl

theorem Registry.messageEntries_perm {registry : Registry} {descriptors : List Descriptor}
    (distinct : (descriptors.map Descriptor.schemaName).Nodup)
    (byName : registry.byName = ({} : Registry).byName.insertMany (qualified descriptors)) :
    registry.messageEntries.Perm (entriesOf (descriptors.map Descriptor.indexed)) := by
  have listed : registry.entries.Perm (qualified descriptors) := by
    rw [entries, byName]
    exact toList_insertMany_perm distinct
  have same : entriesOf (descriptors.map Descriptor.indexed) =
      ((qualified descriptors).filter fun (_, descriptor) => descriptor.kind = .message).map
        fun (name, descriptor) => (name, descriptor.companionName id) := by
    rw [entriesOf, qualified, List.filter_map, List.map_map, List.filter_map, List.map_map]
    rfl
  rw [same]
  exact (listed.filter _).map _

/-- After files have been registered, the messages are those of the files. -/
theorem InsertsFiles.messageEntries_perm {files : List (FileDecl × UnitSettings)}
    {answers : List (FileUnit × TopLevel)} {final : Registry}
    (inserts : InsertsFiles {} files answers final) (apart : NamesApart (files.map Prod.fst))
    {suffix : String}
    (suffixed : ∀ entry ∈ files, entry.2.companionClass = entry.1.outerClassName ++ suffix) :
    final.messageEntries.Perm
      ((files.map Prod.fst).flatMap (FileDecl.messageEntries suffix)) := by
  have described : (allDescriptors answers).map Descriptor.indexed =
      files.flatMap fun entry => entry.1.sites.map (entry.1.indexed suffix) := by
    apply map_allDescriptors inserts.each (FileDecl.indexed suffix)
    intro entry member identity site descriptor describes
    exact Prod.ext describes.kind_eq (describes.messageEntry_eq (suffixed entry member))
  have distinct : ((allDescriptors answers).map Descriptor.schemaName).Nodup := by
    rw [map_schemaName inserts.each]
    rw [NamesApart, List.flatMap_map] at apart
    exact apart
  have entries : entriesOf ((allDescriptors answers).map Descriptor.indexed) =
      (files.map Prod.fst).flatMap (FileDecl.messageEntries suffix) := by
    rw [described, entriesOf, List.filter_flatMap, List.map_flatMap, List.flatMap_map]
    congr 1
    funext entry
    exact entry.1.entriesOf_sites suffix
  rw [← entries]
  exact Registry.messageEntries_perm distinct inserts.byName

/-! ## The text of the index -/

namespace Outline

/-- The entry of a message in the index, as an array of its two names. -/
def entryText (entry : String × String) : String :=
  "new String[] \x7b" ++ Text.quote entry.1 ++ ", " ++ Text.quote entry.2 ++ "\x7d"

/-- The index with some entries. -/
def indexText (package : String) (entries : List (String × String)) : String :=
  (if package = "" then "" else "package " ++ package ++ ";\n\n") ++
    "import java.util.Arrays;\nimport java.util.List;\n\n" ++
    classBlock "public final class" "OutlineIndex"
      ("public static final List<String[]> MESSAGES = Arrays.asList(\n" ++
        nest (",\n".intercalate (entries.map entryText)) ++ ");\n") ++ "\n"

theorem indexRow_eq (name : String) (descriptor : Descriptor) :
    indexRow name descriptor = entryText (name, descriptor.companionName id) := by
  delta indexRow entryText
  dsimp only

/-- The rows of the index are those of the sorted messages, in whatever order a registry lists its
declarations. -/
theorem indexRows_of_perm {registry : Registry} {listed : List (String × Descriptor)}
    (listing : listed.Perm registry.entries) :
    indexRows registry =
      (sortedMessages listed).map fun (name, descriptor) => indexRow name descriptor := by
  rw [Registry.sortedMessages_of_perm listing, indexRows]

theorem indexContent_eq (registry : Registry) (package : String) :
    indexContent registry package = indexText package registry.messageEntries := by
  have rows : indexRows registry = registry.messageEntries.map entryText := by
    simp only [indexRows, Registry.messageEntries, List.map_map, Function.comp_def, indexRow_eq]
  rw [indexContent, rows, indexText]

/-- The line before the entries. -/
def listLine : String := "public static final List<String[]> MESSAGES = Arrays.asList("

/-- The lines of the entries, up to the end of the list of them. -/
def entryLines : List (String × String) → List String
  | [] => [");"]
  | [entry] => ["    " ++ entryText entry ++ ");"]
  | entry :: next :: rest => ("    " ++ entryText entry ++ ",") :: entryLines (next :: rest)

/-- The lines of the index with some entries. -/
def indexLines (package : String) (entries : List (String × String)) : List String :=
  (if package = "" then [] else ["package " ++ package ++ ";", ""]) ++
    ["import java.util.Arrays;", "import java.util.List;", ""] ++
    classLines "public final class" "OutlineIndex"
      (listLine :: entryLines entries)

theorem entryLines_concat (entries : List (String × String)) (last : String × String) :
    entryLines (entries ++ [last]) =
      entries.map (fun entry => "    " ++ entryText entry ++ ",") ++
        ["    " ++ entryText last ++ ");"] := by
  induction entries with
  | nil => rfl
  | cons entry rest ih =>
      cases rest with
      | nil => rfl
      | cons next others => exact congrArg _ ih

section

variable {entry last : String × String} {entries : List (String × String)}

theorem isLine_entryText (oneLine : OneLine entry.1 ∧ OneLine entry.2) :
    IsLine (entryText entry) := by
  have opening : OneLine "new String[] \x7b" := by decide
  have between : OneLine ", " := by decide
  delta entryText
  apply IsLine.append _ (by decide) (by decide)
  simp [opening, oneLine.1.quote, between, oneLine.2.quote]

theorem entryText_ne_empty (entry : String × String) : entryText entry ≠ "" := by
  delta entryText
  simp

theorem intercalate_entryText (entries : List (String × String)) (last : String × String) :
    ",\n".intercalate ((entries ++ [last]).map entryText) =
      unlines (entries.map fun entry => entryText entry ++ ",") ++ entryText last := by
  have separator : ",\n" = "," ++ "\n" := rfl
  induction entries with
  | nil => simp
  | cons entry rest ih =>
      rw [List.cons_append, List.map_cons, String.intercalate_cons_of_ne_nil (by simp), ih,
        List.map_cons, unlines_cons, separator]
      simp only [String.append_assoc]

/-- The list of entries is written line by line. -/
theorem nest_entryText (each : ∀ entry ∈ entries, OneLine entry.1 ∧ OneLine entry.2) :
    nest (",\n".intercalate (entries.map entryText)) ++ ");\n" = unlines (entryLines entries) := by
  have ending : ");\n" = ");" ++ "\n" := rfl
  rcases List.eq_nil_or_concat' entries with rfl | ⟨front, last, rfl⟩
  · rfl
  · have own := isLine_entryText (each last (by simp))
    have isLine : ∀ line ∈ front.map fun entry => entryText entry ++ ",", IsLine line := by
      rw [List.forall_mem_map]
      intro entry member
      have oneLine := (isLine_entryText (each entry (by simp [member]))).oneLine
      exact .append oneLine (by decide) (by decide)
    have indented : (front.map fun entry => entryText entry ++ ",").map indentLine =
        front.map fun entry => "    " ++ entryText entry ++ "," := by
      rw [List.map_map]
      apply List.map_congr_left
      intro entry member
      have own := isLine _ (List.mem_map_of_mem member)
      rw [Function.comp_apply, own.indentLine_eq (by simp), String.append_assoc]
    rw [intercalate_entryText, nest_unlines isLine own.oneLine (entryText_ne_empty last), indented,
      own.indentLine_eq (entryText_ne_empty last), entryLines_concat, unlines_append, unlines_cons,
      unlines_nil, ending]
    simp only [String.append_assoc, String.append_empty]

theorem isLine_of_mem_entryLines (each : ∀ entry ∈ entries, OneLine entry.1 ∧ OneLine entry.2) :
    ∀ line ∈ entryLines entries, IsLine line := by
  have indentation : OneLine "    " := by decide
  rcases List.eq_nil_or_concat' entries with rfl | ⟨front, last, rfl⟩
  · decide
  · rw [entryLines_concat]
    intro line member
    rcases List.mem_append.mp member with isFront | isLast
    · obtain ⟨entry, isEntry, rfl⟩ := List.mem_map.mp isFront
      have own := (isLine_entryText (each entry (by simp [isEntry]))).oneLine
      exact .append (by simp [indentation, own]) (by decide) (by decide)
    · rw [List.mem_singleton.mp isLast]
      have own := (isLine_entryText (each last (by simp))).oneLine
      exact .append (by simp [indentation, own]) (by decide) (by decide)

theorem exists_getLast?_entryLines (entries : List (String × String)) :
    ∃ text, (entryLines entries).getLast? = some (text ++ ");") := by
  rcases List.eq_nil_or_concat' entries with rfl | ⟨front, last, rfl⟩
  · exact ⟨"", rfl⟩
  · rw [entryLines_concat]
    exact ⟨_, List.getLast?_concat⟩

end

/-- The index is written line by line. -/
theorem indexText_eq_unlines (package : String) {entries : List (String × String)}
    (each : ∀ entry ∈ entries, OneLine entry.1 ∧ OneLine entry.2) :
    indexText package entries = unlines (indexLines package entries) := by
  have head : (if package = "" then "" else "package " ++ package ++ ";\n\n") =
      unlines (if package = "" then [] else ["package " ++ package ++ ";", ""]) := by
    have ending : ";\n\n" = ";" ++ "\n" ++ "\n" := rfl
    split
    · rfl
    · simp only [unlines_cons, unlines_nil, ending, String.append_assoc, String.append_empty,
        String.empty_append]
  have imports : "import java.util.Arrays;\nimport java.util.List;\n\n" =
      unlines ["import java.util.Arrays;", "import java.util.List;", ""] := by decide +kernel
  have body : "public static final List<String[]> MESSAGES = Arrays.asList(\n" ++
      nest (",\n".intercalate (entries.map entryText)) ++ ");\n" =
        unlines (listLine :: entryLines entries) := by
    have opening : "public static final List<String[]> MESSAGES = Arrays.asList(\n" =
        listLine ++ "\n" := by
      decide +kernel
    rw [opening, String.append_assoc, nest_entryText each, unlines_cons, String.append_assoc]
  obtain ⟨text, isLast⟩ := exists_getLast?_entryLines entries
  have last : (listLine :: entryLines entries).getLast? = some (text ++ ");") := by
    rw [List.getLast?_cons, isLast]
    rfl
  have isLine : ∀ line ∈ listLine :: entryLines entries, IsLine line :=
    List.forall_mem_cons.mpr ⟨by decide +kernel, isLine_of_mem_entryLines each⟩
  have block := classBlock_eq_unlines "public final class" "OutlineIndex" isLine last (by simp)
  rw [indexText, head, imports, body, indexLines, unlines_append, unlines_append, ← block]
  simp only [String.append_assoc]

end Outline

/-- After a successful run that writes an index, the index is the last file of the answer.  Let the
qualified names of all declarations in the request be different.  Then the index lists every message
of every file, at all depths, once and with its companion class, and nothing else: also the messages
that stand for map entries, and those of skipped files.  The entries are in the order of the
names, and where no name goes over several lines, each entry has a line of its own. -/
theorem index_lists_all_messages (options : Outline.Options) (indexed : options.index = true)
    {request : CodeRequest} (apart : NamesApart request.files) {files : List OutputFile}
    (succeeds : (Outline.generator options).run request () = .ok files ()) :
    let package := (sharedPackage? request.files).getD ""
    ∃ outputs index entries,
      files = outputs ++ [index] ∧
        index.name? = some (if package = "" then "OutlineIndex.java"
          else Naming.directory package ++ "/OutlineIndex.java") ∧
        index.content? = some (Outline.indexText package entries) ∧
        entries.Perm (request.files.flatMap (FileDecl.messageEntries options.suffix)) ∧
        (entries.map Prod.fst).Pairwise (· < ·) ∧
        ((∀ entry ∈ entries, OneLine entry.1 ∧ OneLine entry.2) →
          Outline.indexText package entries = unlines (Outline.indexLines package entries)) := by
  intro package
  obtain ⟨outputs, after, made, rfl⟩ := Outline.exists_of_run_ok succeeds
  obtain ⟨answers, registered⟩ := Outline.registers_of_outputs (outcome_eq_ok.mpr made)
  have inserts := registerFiles_inserts registered
  have declared := options.map_fst_settled (sharedPackage? request.files) request
  have suffixed : ∀ entry ∈ options.settled (sharedPackage? request.files) request.entries,
      entry.2.companionClass = entry.1.outerClassName ++ options.suffix := by
    intro entry member
    obtain ⟨file, -, rfl⟩ := List.mem_map.mp member
    rfl
  rw [← declared] at apart
  have listed := inserts.messageEntries_perm apart suffixed
  rw [declared] at listed
  have extras : options.extras request after.registry =
      [Outline.indexFile after.registry package] := by
    rw [Outline.Options.extras, if_pos indexed]
  refine ⟨_, _, after.registry.messageEntries, congrArg _ extras, rfl, ?_, listed,
    after.registry.pairwise_messageEntries, Outline.indexText_eq_unlines package⟩
  rw [Outline.indexFile, Outline.indexContent_eq]

/-- A request of two files with nested messages, one of which stands for a map entry. -/
def nestedRequest : CodeRequest where
  files := [
    { name? := some "user.proto", package? := some "shop.people"
      messages := [.mk { name? := some "User" } []] },
    { name? := some "item.proto", package? := some "shop"
      enums := [{ name? := some "Color" }]
      messages := [.mk {
          name? := some "Item"
          fields := [{
            name? := some "labels", label? := some 3, type? := some 11
            typeName? := some ".shop.Item.LabelsEntry" }] }
        [.mk {
          name? := some "LabelsEntry"
          fields := [{ name? := some "key", type? := some 9 },
            { name? := some "value", type? := some 9 }]
          options? := some { mapEntryFlag? := some true } } []]] }]

/-- The index of that request when the second file is skipped. -/
theorem index_with_skipped_item :
    let options : Outline.Options := { skip := ["item.proto"] }
    ∃ outputs index,
      (Outline.generator options).run nestedRequest () = .ok (outputs ++ [index]) () ∧
      index.content? = some (unlines [
        "package shop;",
        "",
        "import java.util.Arrays;",
        "import java.util.List;",
        "",
        "public final class OutlineIndex \x7b",
        "    private OutlineIndex() \x7b\x7d",
        "",
        "    public static final List<String[]> MESSAGES = Arrays.asList(",
        "        new String[] \x7b\"shop.Item\", \"shop.ItemOutline.Item\"\x7d,",
        "        new String[] \x7b\"shop.Item.LabelsEntry\", " ++
          "\"shop.ItemOutline.Item.LabelsEntry\"\x7d,",
        "        new String[] \x7b\"shop.people.User\", \"shop.people.UserOutline.User\"\x7d);",
        "\x7d"]) := by
  intro options
  have apart : NamesApart nestedRequest.files := by
    decide +kernel
  have accepts : (match (Outline.generator options).run nestedRequest () with
      | .ok _ _ => true
      | .error _ _ => false) = true := by
    decide +kernel
  have package : (sharedPackage? nestedRequest.files).getD "" = "shop" := by
    decide +kernel
  have declared : nestedRequest.files.flatMap (FileDecl.messageEntries options.suffix) =
      [("shop.people.User", "shop.people.UserOutline.User"),
        ("shop.Item.LabelsEntry", "shop.ItemOutline.Item.LabelsEntry"),
        ("shop.Item", "shop.ItemOutline.Item")] := by
    decide +kernel
  cases accepted : (Outline.generator options).run nestedRequest () with
  | error error state =>
      rw [accepted] at accepts
      cases accepts
  | ok files state =>
      obtain ⟨outputs, index, entries, rfl, -, content, listed, ordered, written⟩ :=
        index_lists_all_messages options rfl apart accepted
      rw [declared] at listed
      rw [List.pairwise_map] at ordered
      have isSorted : entries =
          [("shop.Item", "shop.ItemOutline.Item"),
            ("shop.Item.LabelsEntry", "shop.ItemOutline.Item.LabelsEntry"),
            ("shop.people.User", "shop.people.UserOutline.User")] := by
        refine List.Perm.eq_of_pairwise ?_ ordered (by decide +kernel)
          (listed.trans (by decide +kernel))
        intro first second _ _ before after
        exact absurd after (String.lt_asymm before)
      refine ⟨outputs, index, rfl, ?_⟩
      rw [isSorted] at written
      rw [content, isSorted, written (by decide +kernel), package]
      apply congrArg (fun lines => some (unlines lines))
      decide +kernel

end ProtoCompanion
