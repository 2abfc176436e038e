/-
Module: ProtoCompanion.Proofs.HttpAnnotations
Purpose: The HTTP rules of a request belong to the methods in whose options they stand.
Main exports: encodedMethod?, IsAnnotated, annotation?, Wire.exists_of_get?_httpRulesOfRecords,
  Wire.ReadTwice, registered_method_rule, http_rules_follow_their_methods
-/
import ProtoCompanion.Exchange.Serialized
import ProtoCompanion.Proofs.ElementPaths
import ProtoCompanion.Proofs.RegistrationWalk
import ProtoCompanion.Proofs.SerializedParts

/-!
A request is read twice: by the full schema for its declarations, and by one that knows only the way
to the annotations.  The two readings meet again at location paths.  What joins them here is the
serialized request itself: both schemas know files, services and methods as messages of the same
fields, so the same part of the request is read at the same indices.
-/

namespace ProtoCompanion

open Wire
open Wire.Record (messagesOf messageOf?)

/-! ## Annotations in the serialized request -/

/-- The bytes of a method in a serialized request, found by the indices of its file, of its service
in the file, and of the method in the service. -/
def encodedMethod? (request : Bytes) (file service method : Nat) : Option Bytes :=
  ((partsOf 15 request)[file]?).bind fun file =>
    ((partsOf 6 file)[service]?).bind fun service => (partsOf 2 service)[method]?

/-- The options of a serialized method have the field of the annotation. -/
def IsAnnotated (method : Bytes) : Prop :=
  ∃ options, mergedPart? 4 method = some options ∧
    ∃ field ∈ (fields? options).getD [], field.number = httpExtension

/-- The annotation in the options of a serialized method, as a rule. -/
def annotation? (method : Bytes) : Option HttpRule :=
  (mergedPart? 4 method).bind fun options =>
    (mergedPart? httpExtension options).bind fun rule =>
      (readMessage annotationSchema (nestingLimit - 5) .rule rule).map ruleOfRecords

/-- The services of all files, and the methods of all services, are fewer than a bound. -/
def CodeRequest.ServicesBelow (request : CodeRequest) (bound : Nat) : Prop :=
  ∀ file ∈ request.files, file.services.length < bound ∧
    ∀ service ∈ file.services, service.methods.length < bound

/-! ## Tables -/

theorem methodPath_eq_iff {service method other index : Nat} (hs : service < 2 ^ 31)
    (hm : method < 2 ^ 31) (ho : other < 2 ^ 31) (hi : index < 2 ^ 31) :
    methodPath service method = methodPath other index ↔ service = other ∧ method = index := by
  simp [methodPath, ofNat_eq_ofNat_iff hs ho, ofNat_eq_ofNat_iff hm hi]

theorem HttpRuleTable.get?_insert (rules : HttpRuleTable) (service method : Nat) (rule : HttpRule)
    (path : LocationPath) :
    (rules.insert service method rule).get? path =
      if methodPath service method = path then some rule else rules.get? path := by
  simp only [get?, insert, Std.TreeMap.getElem?_insert, Std.compare_eq_iff_eq]

namespace Wire

/-- The table after one more method of a service, which may have a rule. -/
def addMethodRule (service index : Nat) (rules : HttpRuleTable) (method : List Record) :
    HttpRuleTable :=
  match methodRuleOfRecords? method with
  | some rule => rules.insert service index rule
  | none => rules

theorem insertMethodRules_cons (service index : Nat) (rules : HttpRuleTable)
    (method : List Record) (rest : List (List Record)) :
    insertMethodRules service index rules (method :: rest) =
      insertMethodRules service (index + 1) (addMethodRule service index rules method) rest :=
  rfl

theorem get?_addMethodRule (rules : HttpRuleTable) (service index : Nat) (method : List Record)
    (path : LocationPath) :
    (addMethodRule service index rules method).get? path =
      if methodPath service index = path then
        (methodRuleOfRecords? method).or (rules.get? path) else rules.get? path := by
  rw [addMethodRule]
  cases methodRuleOfRecords? method with
  | none => simp
  | some rule => simp [HttpRuleTable.get?_insert]

/-- Only the paths of the methods themselves are written. -/
theorem get?_insertMethodRules_of_ne {service index : Nat} {rules : HttpRuleTable}
    {methods : List (List Record)} {path : LocationPath}
    (different : ∀ offset < methods.length, methodPath service (index + offset) ≠ path) :
    (insertMethodRules service index rules methods).get? path = rules.get? path := by
  induction methods generalizing index rules with
  | nil => rfl
  | cons method rest ih =>
      have first : methodPath service index ≠ path := different 0 (Nat.zero_lt_succ _)
      have later : ∀ offset < rest.length, methodPath service (index + 1 + offset) ≠ path := by
        intro offset inside
        rw [Nat.add_right_comm]
        exact different (offset + 1) (Nat.succ_lt_succ inside)
      rw [insertMethodRules_cons, ih later, get?_addMethodRule, if_neg first]

/-- Each method is written under its own path.  Later methods do not write there, since their
indices are different ones even when they are cut to 32 bits. -/
theorem get?_insertMethodRules {service : Nat} (index : Nat) (rules : HttpRuleTable)
    {methods : List (List Record)} (short : index + methods.length ≤ 2 ^ 31)
    (hs : service < 2 ^ 31) {offset : Nat} {method : List Record}
    (isMethod : methods[offset]? = some method) :
    (insertMethodRules service index rules methods).get? (methodPath service (index + offset)) =
      (methodRuleOfRecords? method).or (rules.get? (methodPath service (index + offset))) := by
  induction methods generalizing index rules offset with
  | nil => simp at isMethod
  | cons first rest ih =>
      rw [List.length_cons] at short
      rw [insertMethodRules_cons]
      cases offset with
      | zero =>
          have untouched : ∀ offset < rest.length,
              methodPath service (index + 1 + offset) ≠ methodPath service index := by
            intro offset below same
            have indices := (methodPath_eq_iff hs (by omega) hs (by omega)).mp same
            omega
          simp only [List.getElem?_cons_zero, Option.some.injEq] at isMethod
          rw [Nat.add_zero index, get?_insertMethodRules_of_ne untouched, get?_addMethodRule,
            if_pos rfl, isMethod]
      | succ offset =>
          rw [List.getElem?_cons_succ] at isMethod
          have inside := (List.getElem?_eq_some_iff.mp isMethod).1
          have next : methodPath service index ≠ methodPath service (index + 1 + offset) := by
            intro same
            have indices := (methodPath_eq_iff hs (by omega) hs (by omega)).mp same
            omega
          have found := ih (index + 1) (addMethodRule service index rules first) (by omega)
            isMethod
          rw [get?_addMethodRule, if_neg next] at found
          rw [← Nat.add_right_comm, Nat.add_assoc] at found
          exact found

/-- Only the paths of the methods of the services are written. -/
theorem get?_insertServiceRules_of_ne {index : Nat} {rules : HttpRuleTable}
    {services : List (List Record)} {path : LocationPath}
    (different : ∀ offset records method, services[offset]? = some records →
      method < (messagesOf 2 records).length → methodPath (index + offset) method ≠ path) :
    (insertServiceRules index rules services).get? path = rules.get? path := by
  induction services generalizing index rules with
  | nil => rfl
  | cons service rest ih =>
      have first : ∀ offset < (messagesOf 2 service).length,
          methodPath index (0 + offset) ≠ path := by
        intro offset inside
        rw [Nat.zero_add]
        exact different 0 service offset rfl inside
      have later : ∀ offset records method, rest[offset]? = some records →
          method < (messagesOf 2 records).length →
            methodPath (index + 1 + offset) method ≠ path := by
        intro offset records method found inside
        rw [Nat.add_right_comm]
        exact different (offset + 1) records method found inside
      rw [insertServiceRules, ih later, get?_insertMethodRules_of_ne first]

/-- The methods of a service are written at the index of the service, once. -/
theorem get?_insertServiceRules (index : Nat) (rules : HttpRuleTable)
    {services : List (List Record)} (short : index + services.length ≤ 2 ^ 31)
    (each : ∀ records ∈ services, (messagesOf 2 records).length ≤ 2 ^ 31)
    {offset number : Nat} {service method : List Record}
    (isService : services[offset]? = some service)
    (isMethod : (messagesOf 2 service)[number]? = some method) :
    (insertServiceRules index rules services).get? (methodPath (index + offset) number) =
      (methodRuleOfRecords? method).or (rules.get? (methodPath (index + offset) number)) := by
  have inside := (List.getElem?_eq_some_iff.mp isMethod).1
  induction services generalizing index rules offset with
  | nil => simp at isService
  | cons first rest ih =>
      rw [List.length_cons] at short
      have ofFirst := each first List.mem_cons_self
      have ofRest : ∀ records ∈ rest, (messagesOf 2 records).length ≤ 2 ^ 31 :=
        fun records member => each records (List.mem_cons_of_mem first member)
      rw [insertServiceRules]
      cases offset with
      | zero =>
          simp only [List.getElem?_cons_zero, Option.some.injEq] at isService
          subst isService
          have untouched : ∀ offset records other, rest[offset]? = some records →
              other < (messagesOf 2 records).length →
                methodPath (index + 1 + offset) other ≠ methodPath index number := by
            intro offset records other found below same
            have bound := ofRest records (List.mem_of_getElem? found)
            have before := (List.getElem?_eq_some_iff.mp found).1
            have indices := (methodPath_eq_iff (by omega) (by omega) (by omega) (by omega)).mp same
            omega
          have own := get?_insertMethodRules 0 rules (by omega)
            (show index < 2 ^ 31 by omega) isMethod
          rw [Nat.zero_add] at own
          rw [Nat.add_zero index, get?_insertServiceRules_of_ne untouched]
          exact own
      | succ offset =>
          rw [List.getElem?_cons_succ] at isService
          have before := (List.getElem?_eq_some_iff.mp isService).1
          have bound := ofRest service (List.mem_of_getElem? isService)
          have untouched : ∀ other < (messagesOf 2 first).length,
              methodPath index (0 + other) ≠ methodPath (index + 1 + offset) number := by
            intro other below same
            have indices := (methodPath_eq_iff (by omega) (by omega) (by omega) (by omega)).mp same
            omega
          have found := ih (index + 1) (insertMethodRules index 0 rules (messagesOf 2 first))
            (by omega) ofRest isService
          rw [get?_insertMethodRules_of_ne untouched] at found
          rw [← Nat.add_right_comm, Nat.add_assoc] at found
          exact found

/-- A path with a rule is that of a method of one of the services. -/
theorem exists_of_get?_httpRulesOfRecords {file : List Record} {path : LocationPath}
    (present : ((httpRulesOfRecords file).get? path).isSome) :
    ∃ service method records, (messagesOf 6 file)[service]? = some records ∧
      method < (messagesOf 2 records).length ∧ path = methodPath service method := by
  by_contra none
  have different : ∀ offset records method, (messagesOf 6 file)[offset]? = some records →
      method < (messagesOf 2 records).length → methodPath (0 + offset) method ≠ path := by
    intro offset records method found inside same
    rw [Nat.zero_add] at same
    exact none ⟨offset, method, records, found, inside, same.symm⟩
  rw [httpRulesOfRecords, get?_insertServiceRules_of_ne different] at present
  simp [HttpRuleTable.get?] at present

/-! ## Annotations read by the schema of annotations -/

/-- The rule that is read for a method is the annotation in its bytes, and there is one exactly when
the options have the field. -/
theorem methodRuleOfRecords?_eq {method : Bytes} {records : List Record}
    (read : readMessage annotationSchema (nestingLimit - 3) .method method = some records) :
    methodRuleOfRecords? records = annotation? method ∧
      ((annotation? method).isSome ↔ IsAnnotated method) := by
  have options := readMessage_mergedPart 96 4 rfl read
  rw [methodRuleOfRecords?, annotation?, IsAnnotated]
  generalize mergedPart? 4 method = part? at options ⊢
  generalize messageOf? 4 records = found? at options ⊢
  cases options with
  | none => simp
  | @some part found readOptions =>
      have present := mergedPart?_isSome_iff 95 httpExtension rfl readOptions
      have rule := readMessage_mergedPart 95 httpExtension rfl readOptions
      simp only [Option.bind_some, Option.some.injEq, exists_eq_left']
      rw [← present]
      generalize mergedPart? httpExtension part = rule? at rule ⊢
      generalize messageOf? httpExtension found = ruleRecords? at rule ⊢
      cases rule with
      | none => simp
      | @some bytes ruleRecords readRule =>
          have isRule : readMessage annotationSchema (nestingLimit - 5) .rule bytes =
              some ruleRecords := readRule
          simp [isRule]

/-! ## Two readings of the same bytes -/

/-- Bytes that are read as a message of a type by the full schema, and as one of another type by the
schema of annotations. -/
structure ReadTwice (budget : Nat) (type : DescriptorMessage) (sparseType : AnnotationMessage)
    (bytes : Bytes) (full sparse : List Record) : Prop where
  full : readMessage descriptorSchema budget type bytes = some full
  sparse : readMessage annotationSchema budget sparseType bytes = some sparse

namespace ReadTwice

variable (budget number : Nat) {type contained : DescriptorMessage}
  {sparseType sparseContained : AnnotationMessage} {bytes : Bytes} {full sparse : List Record}

theorem length_eq (twice : ReadTwice (budget + 1) type sparseType bytes full sparse)
    (known : (descriptorSchema type).lookup number = some (.message contained))
    (sparseKnown : (annotationSchema sparseType).lookup number = some (.message sparseContained)) :
    (messagesOf number full).length = (messagesOf number sparse).length := by
  have parts := (readMessage_parts known twice.full).length_eq
  have sparseParts := (readMessage_parts sparseKnown twice.sparse).length_eq
  rw [← parts, sparseParts]

/-- Both readings go on in the same part, which has the same index in both. -/
theorem inner (twice : ReadTwice (budget + 1) type sparseType bytes full sparse)
    (known : (descriptorSchema type).lookup number = some (.message contained))
    (sparseKnown : (annotationSchema sparseType).lookup number = some (.message sparseContained))
    {index : Nat} {innerFull : List Record}
    (found : (messagesOf number full)[index]? = some innerFull) :
    ∃ part innerSparse, (partsOf number bytes)[index]? = some part ∧
      (messagesOf number sparse)[index]? = some innerSparse ∧
      ReadTwice budget contained sparseContained part innerFull innerSparse := by
  have parts : List.Forall₂
      (fun records part => readMessage descriptorSchema budget contained part = some records)
      (messagesOf number full) (partsOf number bytes) :=
    List.Forall₂.flip (readMessage_parts known twice.full)
  obtain ⟨part, isPart, readFull⟩ := exists_rel_getElem? parts found
  obtain ⟨innerSparse, isInner, readSparse⟩ :=
    exists_rel_getElem? (readMessage_parts sparseKnown twice.sparse) isPart
  exact ⟨part, innerSparse, isPart, isInner, readFull, readSparse⟩

end ReadTwice

end Wire

/-- The two readings of a request. -/
theorem CodeRequest.readTwice_of_decode {bytes : Bytes} {request : CodeRequest}
    (decoded : CodeRequest.decode bytes = .ok request) :
    ∃ full sparse, ReadTwice nestingLimit .request .request bytes full sparse ∧
      request.files = (messagesOf 15 full).map fileOfRecords ∧
      request.httpRules = (messagesOf 15 sparse).map httpRulesOfRecords := by
  rw [CodeRequest.decode] at decoded
  cases full : readMessage descriptorSchema nestingLimit .request bytes with
  | none => simp [full] at decoded
  | some records =>
      cases sparse : readMessage annotationSchema nestingLimit .request bytes with
      | none => simp [full, decodeHttpRules?, sparse] at decoded
      | some sparseRecords =>
          simp only [full, decodeHttpRules?, sparse, Option.map_some, Except.ok.injEq] at decoded
          subst decoded
          exact ⟨records, sparseRecords, ⟨full, sparse⟩, rfl, rfl⟩

/-! ## Registered methods -/

/-- A method of a file that was registered has the rule that the table of the file has at the path
of the method. -/
theorem registered_method_rule {file : FileDecl} {settings : UnitSettings} {start final : Registry}
    {unit : FileUnit} {declared : TopLevel}
    (registered : registerFile file settings start = .ok (unit, declared) final)
    {service method : Nat} {serviceDecl : ServiceDecl} {decl : MethodDecl}
    (isService : file.services[service]? = some serviceDecl)
    (isMethod : serviceDecl.methods[method]? = some decl) :
    ∃ foundService found, declared.services[service]? = some (.service foundService) ∧
      foundService.methods[method]? = some found ∧ found.name = decl.name ∧
      found.httpRule? = settings.httpRules.get? (methodPath service method) := by
  have run := registerFile_run file settings start
  rw [registered] at run
  obtain ⟨_, _, _, _, services⟩ := run
  have isSite : file.serviceSites[service]? =
      some ⟨(Position.inList {} .services).element service, .service serviceDecl⟩ := by
    rw [FileDecl.serviceSites, Position.sites, Position.sitesFrom, Position.getElem?_elements,
      isService, Nat.zero_add]
    rfl
  obtain ⟨descriptor, atService, describes⟩ := exists_rel_getElem? services isSite
  cases describes with
  | service serial position decl methods describe =>
      have isMethodSite := Position.getElem?_elements
        (((Position.inList {} .services).element service).inList .methods)
        (fun _ position decl => (position, decl)) 0 serviceDecl.methods method
      rw [isMethod, Nat.zero_add] at isMethodSite
      obtain ⟨found, atMethod, isFound⟩ := exists_rel_getElem? describe isMethodSite
      refine ⟨_, found, atService, atMethod, ?_, ?_⟩
      · rw [isFound]
        rfl
      · rw [isFound]
        rfl

/-! ## Whole requests -/

/-- The declarations of a file belong to the same part of the request as the rules of the file. -/
theorem CodeRequest.file_readTwice {bytes : Bytes} {request : CodeRequest}
    (decoded : CodeRequest.decode bytes = .ok request) :
    request.httpRules.length = request.files.length ∧
      ∀ index file, request.files[index]? = some file →
        ∃ part full sparse, (partsOf 15 bytes)[index]? = some part ∧
          ReadTwice (nestingLimit - 1) .file .file part full sparse ∧
          file = fileOfRecords full ∧ request.httpRulesAt index = httpRulesOfRecords sparse := by
  obtain ⟨full, sparse, twice, files, rules⟩ := CodeRequest.readTwice_of_decode decoded
  constructor
  · rw [files, rules, List.length_map, List.length_map]
    exact (twice.length_eq 99 15 rfl rfl).symm
  · intro index file isFile
    rw [files, List.getElem?_map, Option.map_eq_some_iff] at isFile
    obtain ⟨records, found, rfl⟩ := isFile
    obtain ⟨part, sparseRecords, isPart, sparseFound, inner⟩ :=
      twice.inner 99 15 rfl rfl found
    refine ⟨part, records, sparseRecords, isPart, inner, rfl, ?_⟩
    rw [CodeRequest.httpRulesAt, rules, List.getElem?_map, sparseFound]
    rfl

/-- Each key of the table of a file is the path of one of the methods of the file. -/
theorem Wire.ReadTwice.key_is_methodPath {part : Bytes} {full sparse : List Record}
    (twice : ReadTwice (nestingLimit - 1) .file .file part full sparse) {path : LocationPath}
    (present : ((httpRulesOfRecords sparse).get? path).isSome) :
    ∃ service method decl, (fileOfRecords full).services[service]? = some decl ∧
      method < decl.methods.length ∧ path = methodPath service method := by
  obtain ⟨service, method, records, isService, isMethod, isPath⟩ :=
    exists_of_get?_httpRulesOfRecords present
  have services := twice.length_eq 98 6 rfl rfl
  have inside := (List.getElem?_eq_some_iff.mp isService).1
  rw [← services] at inside
  obtain ⟨servicePart, serviceSparse, -, sparseFound, inService⟩ :=
    twice.inner 98 6 rfl rfl (List.getElem?_eq_getElem inside)
  obtain rfl : records = serviceSparse := Option.some.inj (isService.symm.trans sparseFound)
  have methods := inService.length_eq 97 2 rfl rfl
  refine ⟨service, method, serviceOfRecords (messagesOf 6 full)[service], ?_, ?_, isPath⟩
  · rw [fileOfRecords, List.getElem?_map, List.getElem?_eq_getElem inside]
    rfl
  · rw [serviceOfRecords, List.length_map, methods]
    exact isMethod

/-- The table of a file has at the path of a method the annotation in the bytes of that method. -/
theorem Wire.ReadTwice.get?_methodPath {part : Bytes} {full sparse : List Record}
    (twice : ReadTwice (nestingLimit - 1) .file .file part full sparse)
    (fewServices : (fileOfRecords full).services.length < 2 ^ 31)
    (fewMethods : ∀ service ∈ (fileOfRecords full).services, service.methods.length < 2 ^ 31)
    {service method : Nat} {serviceDecl : ServiceDecl} {decl : MethodDecl}
    (isService : (fileOfRecords full).services[service]? = some serviceDecl)
    (isMethod : serviceDecl.methods[method]? = some decl) :
    ∃ encoded,
      (((partsOf 6 part)[service]?).bind fun service => (partsOf 2 service)[method]?) =
          some encoded ∧
        (readMessage descriptorSchema (nestingLimit - 3) .method encoded).map methodOfRecords =
          some decl ∧
        ((httpRulesOfRecords sparse).get? (methodPath service method) = annotation? encoded) ∧
        ((annotation? encoded).isSome ↔ IsAnnotated encoded) := by
  rw [fileOfRecords] at isService fewServices fewMethods
  rw [List.length_map] at fewServices
  rw [List.getElem?_map, Option.map_eq_some_iff] at isService
  obtain ⟨serviceFull, serviceFound, rfl⟩ := isService
  rw [serviceOfRecords, List.getElem?_map, Option.map_eq_some_iff] at isMethod
  obtain ⟨methodFull, methodFound, rfl⟩ := isMethod
  have services := twice.length_eq 98 6 rfl rfl
  -- The services of the two readings have as many methods.
  have each : ∀ records ∈ messagesOf 6 sparse, (messagesOf 2 records).length ≤ 2 ^ 31 := by
    intro records member
    obtain ⟨index, inside, rfl⟩ := List.mem_iff_getElem.mp member
    have insideFull : index < (messagesOf 6 full).length := by omega
    obtain ⟨_, other, -, sparseFound, inService⟩ :=
      twice.inner 98 6 rfl rfl (List.getElem?_eq_getElem insideFull)
    have same := Option.some.inj ((List.getElem?_eq_getElem inside).symm.trans sparseFound)
    have methods := inService.length_eq 97 2 rfl rfl
    have few := fewMethods (serviceOfRecords (messagesOf 6 full)[index])
      (List.mem_map_of_mem (List.getElem_mem insideFull))
    rw [serviceOfRecords, List.length_map] at few
    rw [same, ← methods]
    exact Nat.le_of_lt few
  obtain ⟨servicePart, serviceSparse, isServicePart, sparseService, inService⟩ :=
    twice.inner 98 6 rfl rfl serviceFound
  obtain ⟨encoded, methodSparse, isMethodPart, sparseMethod, inMethod⟩ :=
    inService.inner 97 2 rfl rfl methodFound
  obtain ⟨isRule, annotated⟩ := methodRuleOfRecords?_eq inMethod.sparse
  have written := get?_insertServiceRules 0 {} (by omega) each sparseService sparseMethod
  refine ⟨encoded, ?_, ?_, ?_, annotated⟩
  · rw [isServicePart]
    exact isMethodPart
  · have isFull : readMessage descriptorSchema (nestingLimit - 3) .method encoded =
        some methodFull := inMethod.full
    rw [isFull]
    rfl
  · rw [Nat.zero_add] at written
    rw [httpRulesOfRecords, written, isRule]
    simp [HttpRuleTable.get?]

/-- The two readings of a request agree.  There is one table for each file; its keys are paths of
methods of the file; and at the path of a method stands the annotation in the options of that very
method, if it has one.  So this is also the rule that the method has when the file is registered
with its table. -/
theorem http_rules_follow_their_methods {bytes : Bytes} {request : CodeRequest}
    (decoded : CodeRequest.decode bytes = .ok request) (short : request.ServicesBelow (2 ^ 31)) :
    request.httpRules.length = request.files.length ∧
      ∀ index file, request.files[index]? = some file →
        (∀ path, ((request.httpRulesAt index).get? path).isSome →
          ∃ service method decl, file.services[service]? = some decl ∧
            method < decl.methods.length ∧
            path = [6, Int32.ofNat service, 2, Int32.ofNat method]) ∧
        ∀ service method serviceDecl decl, file.services[service]? = some serviceDecl →
          serviceDecl.methods[method]? = some decl →
            ∃ encoded, encodedMethod? bytes index service method = some encoded ∧
              (readMessage descriptorSchema (nestingLimit - 3) .method encoded).map
                methodOfRecords = some decl ∧
              (((request.httpRulesAt index).get? (methodPath service method)).isSome ↔
                IsAnnotated encoded) ∧
              (request.httpRulesAt index).get? (methodPath service method) =
                annotation? encoded ∧
              ∀ settings start unit declared final,
                settings.httpRules = request.httpRulesAt index →
                registerFile file settings start = .ok (unit, declared) final →
                  ∃ foundService found,
                    declared.services[service]? = some (.service foundService) ∧
                      foundService.methods[method]? = some found ∧ found.name = decl.name ∧
                      found.httpRule? = annotation? encoded := by
  obtain ⟨oneTableEach, readTwice⟩ := CodeRequest.file_readTwice decoded
  refine ⟨oneTableEach, ?_⟩
  intro index file isFile
  obtain ⟨fewServices, fewMethods⟩ := short file (List.mem_of_getElem? isFile)
  obtain ⟨part, full, sparse, isPart, twice, rfl, isTable⟩ := readTwice index file isFile
  rw [isTable]
  refine ⟨fun path present => twice.key_is_methodPath present, ?_⟩
  intro service method serviceDecl decl isService isMethod
  obtain ⟨encoded, isEncoded, isDecl, isRule, annotated⟩ :=
    twice.get?_methodPath fewServices fewMethods isService isMethod
  refine ⟨encoded, ?_, isDecl, ?_, isRule, ?_⟩
  · rw [encodedMethod?, isPart]
    exact isEncoded
  · rw [isRule]
    exact annotated
  · intro settings start unit declared final hasTable registered
    obtain ⟨foundService, found, atService, atMethod, sameName, hasRule⟩ :=
      registered_method_rule registered isService isMethod
    refine ⟨foundService, found, atService, atMethod, sameName, ?_⟩
    rw [hasRule, hasTable, isRule]

/-- A request with one service of two methods.  The second method has its options in two parts, with
the template of its route in the first one and the body in the second one. -/
def splitOptionsRequest : Bytes :=
  writeDelimited 15 (writeDelimited 6
    (writeDelimited 2 (writeDelimited 1 (encodeText "Get")) ++
      writeDelimited 2 (writeDelimited 1 (encodeText "Put") ++
        writeDelimited 4 (writeDelimited httpExtension (writeDelimited 3 (encodeText "/v1"))) ++
        writeDelimited 4 (writeDelimited httpExtension (writeDelimited 7 (encodeText "*"))))))

theorem split_options_of_second_method :
    ∃ request, CodeRequest.decode splitOptionsRequest = .ok request ∧
      request.ServicesBelow (2 ^ 31) ∧
      (request.httpRulesAt 0).get? [6, 0, 2, 0] = none ∧
      ((request.httpRulesAt 0).get? [6, 0, 2, 1]).map HttpRule.binding =
        some { pattern? := some (.put "/v1"), body := "*" } := by
  have services : (CodeRequest.decode splitOptionsRequest).toOption.map
      (fun request => request.files.map FileDecl.services) =
        some [[{ methods := [{ name? := some "Get" }, { name? := some "Put" }] }]] := by
    decide +kernel
  have rules : ((encodedMethod? splitOptionsRequest 0 0 0).bind annotation?).isNone ∧
      ((encodedMethod? splitOptionsRequest 0 0 1).bind annotation?).map HttpRule.binding =
        some { pattern? := some (.put "/v1"), body := "*" } := by
    decide +kernel
  cases decoded : CodeRequest.decode splitOptionsRequest with
  | error error => simp [decoded, Except.toOption] at services
  | ok request =>
      simp only [decoded, Except.toOption, Option.map_some, Option.some.injEq,
        List.map_eq_singleton_iff] at services
      obtain ⟨file, files, methods⟩ := services
      have short : request.ServicesBelow (2 ^ 31) := by
        simp [CodeRequest.ServicesBelow, files, methods]
      have follow := ((http_rules_follow_their_methods decoded short).2 0 file (by simp [files])).2
      obtain ⟨first, isFirst, -, -, firstRule, -⟩ :=
        follow 0 0 _ _ (by rw [methods]; rfl) rfl
      obtain ⟨second, isSecond, -, -, secondRule, -⟩ :=
        follow 0 1 _ _ (by rw [methods]; rfl) rfl
      rw [isFirst, isSecond] at rules
      refine ⟨request, rfl, short, ?_, ?_⟩
      · exact firstRule.trans (Option.isNone_iff_eq_none.mp rules.1)
      · exact (congrArg _ secondRule).trans rules.2

end ProtoCompanion
