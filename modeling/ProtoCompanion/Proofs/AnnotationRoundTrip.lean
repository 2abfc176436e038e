/-
Module: ProtoCompanion.Proofs.AnnotationRoundTrip
Purpose: The tables that are decoded from written annotations hold these annotations, and unknown
  fields do not change them above the limit of nesting.
Main exports: Wire.AnnotatedFile.rulesAt, Wire.AnnotatedFile.Tabulated, Wire.annotations_read_back,
  Wire.unknown_field_refused_at_limit
-/
import ProtoCompanion.Proofs.AnnotatedRequests

/-!
The path of a method has its indices cut to 32 bits.  So a table is described twice: at any path
stands the last rule given for it, and as long as indices are not cut, that is the rule of the one
method with this path.
-/

namespace ProtoCompanion.Wire

open Record (messagesOf messagesOf_flatMap)

/-! ## Tables -/

/-- The rules that the methods of a service give for a path, in order. -/
def AnnotatedService.rulesAt (index : Nat) (service : AnnotatedService) (path : LocationPath) :
    List HttpRule :=
  service.methods.zipIdx.flatMap fun entry =>
    if methodPath index entry.2 = path then entry.1.rule?.toList else []

/-- The rules that the methods of a file give for a path, in order. -/
def AnnotatedFile.rulesAt (file : AnnotatedFile) (path : LocationPath) : List HttpRule :=
  file.services.zipIdx.flatMap fun entry => entry.1.rulesAt entry.2 path

theorem get?_insertMethodRules_written (service index : Nat) (rules : HttpRuleTable)
    (methods : List AnnotatedMethod) (path : LocationPath) :
    (insertMethodRules service index rules (methods.map recordsOfMethod)).get? path =
      ((methods.zipIdx index).flatMap fun entry =>
        if methodPath service entry.2 = path then entry.1.rule?.toList else []).getLast?.or
          (rules.get? path) := by
  induction methods generalizing index rules with
  | nil => rfl
  | cons method rest ih =>
      rw [List.map_cons, insertMethodRules_cons, ih, get?_addMethodRule,
        methodRuleOfRecords?_recordsOfMethod, List.zipIdx_cons, List.flatMap_cons,
        List.getLast?_append, Option.or_assoc]
      congr 1
      dsimp only
      split
      · cases method.rule? <;> rfl
      · rfl

theorem get?_insertServiceRules_written (index : Nat) (rules : HttpRuleTable)
    (services : List AnnotatedService) (path : LocationPath) :
    (insertServiceRules index rules (services.map recordsOfService)).get? path =
      ((services.zipIdx index).flatMap fun entry => entry.1.rulesAt entry.2 path).getLast?.or
        (rules.get? path) := by
  induction services generalizing index rules with
  | nil => rfl
  | cons service rest ih =>
      rw [List.map_cons, insertServiceRules, ih, recordsOfService, messagesOf_flatMap,
        get?_insertMethodRules_written, List.zipIdx_cons, List.flatMap_cons, List.getLast?_append,
        Option.or_assoc]
      rfl

theorem httpRulesOfRecords_written (file : AnnotatedFile) :
    httpRulesOfRecords (recordsOfAnnotatedFile file) =
      insertServiceRules 0 {} (file.services.map recordsOfService) := by
  rw [httpRulesOfRecords, recordsOfAnnotatedFile, messagesOf_flatMap]

/-- A table holds the annotations of a file and nothing else. -/
structure AnnotatedFile.Tabulated (file : AnnotatedFile) (table : HttpRuleTable) : Prop where
  /-- At a path stands the last rule that is given for it. -/
  last : ∀ path, table.get? path = (file.rulesAt path).getLast?
  /-- At the path of a method stands its own rule, if it has one. -/
  own : file.services.length ≤ 2 ^ 31 →
    (∀ service ∈ file.services, service.methods.length ≤ 2 ^ 31) →
      ∀ index number service method, file.services[index]? = some service →
        service.methods[number]? = some method →
          table.get? (methodPath index number) = method.rule?
  /-- A path with a rule is that of a method with this rule. -/
  only : ∀ path rule, table.get? path = some rule →
    ∃ index number service method, file.services[index]? = some service ∧
      service.methods[number]? = some method ∧ path = methodPath index number ∧
      method.rule? = some rule

theorem AnnotatedFile.exists_of_mem_rulesAt {file : AnnotatedFile} {path : LocationPath}
    {rule : HttpRule} (member : rule ∈ file.rulesAt path) :
    ∃ index number service method, file.services[index]? = some service ∧
      service.methods[number]? = some method ∧ path = methodPath index number ∧
      method.rule? = some rule := by
  obtain ⟨⟨service, index⟩, isService, inService⟩ := List.mem_flatMap.mp member
  obtain ⟨⟨method, number⟩, isMethod, inMethod⟩ := List.mem_flatMap.mp inService
  rw [List.mem_zipIdx_iff_getElem?] at isService isMethod
  dsimp only at inMethod
  split at inMethod
  case isTrue isPath =>
    exact ⟨index, number, service, method, isService, isMethod, isPath.symm,
      Option.mem_toList.mp inMethod⟩
  case isFalse => exact absurd inMethod List.not_mem_nil

theorem AnnotatedFile.tabulated (file : AnnotatedFile) :
    file.Tabulated (httpRulesOfRecords (recordsOfAnnotatedFile file)) := by
  have last (path : LocationPath) :
      (httpRulesOfRecords (recordsOfAnnotatedFile file)).get? path =
        (file.rulesAt path).getLast? := by
    rw [httpRulesOfRecords_written, get?_insertServiceRules_written]
    exact Option.or_none
  refine ⟨last, ?_, ?_⟩
  · intro fewServices fewMethods index number service method isService isMethod
    have services : (file.services.map recordsOfService)[index]? =
        some (recordsOfService service) := by
      rw [List.getElem?_map, isService]
      rfl
    have methods : (messagesOf 2 (recordsOfService service))[number]? =
        some (recordsOfMethod method) := by
      rw [recordsOfService, messagesOf_flatMap, List.getElem?_map, isMethod]
      rfl
    have few : ∀ records ∈ file.services.map recordsOfService,
        (messagesOf 2 records).length ≤ 2 ^ 31 := by
      intro records member
      obtain ⟨other, isOther, rfl⟩ := List.mem_map.mp member
      rw [recordsOfService, messagesOf_flatMap, List.length_map]
      exact fewMethods other isOther
    have written := get?_insertServiceRules 0 {} (by simpa using fewServices) few services methods
    rw [Nat.zero_add, methodRuleOfRecords?_recordsOfMethod] at written
    rw [httpRulesOfRecords_written, written]
    exact Option.or_none
  · intro path rule found
    rw [last] at found
    exact exists_of_mem_rulesAt (List.mem_of_getLast? found)

/-! ## Round trip -/

theorem decodeHttpRules?_encodeAnnotations {files : List AnnotatedFile}
    (within : WithinNestingLimit files) (short : (encodeAnnotations files).length < 2 ^ 64) :
    decodeHttpRules? (encodeAnnotations files) =
      some (files.map fun file => httpRulesOfRecords (recordsOfAnnotatedFile file)) := by
  rw [decodeHttpRules?, encodeAnnotations_reads within short, Option.map_some, recordsOfAnnotations,
    messagesOf_flatMap, List.map_map]
  rfl

/-- The annotations of files, written as a request, are read back as one table for each file, which
holds the annotations of the methods of this file and nothing else.  Unknown fields anywhere in the
request do not change this, as long as none is in a message at the limit of nesting. -/
theorem annotations_read_back {files : List AnnotatedFile} (within : WithinNestingLimit files)
    (short : (encodeAnnotations files).length < 2 ^ 64) :
    ∃ tables, decodeHttpRules? (encodeAnnotations files) = some tables ∧
      List.Forall₂ AnnotatedFile.Tabulated files tables ∧
      ∀ padded, Padded annotationSchema nestingLimit .request (encodeAnnotations files) padded →
        padded.length < 2 ^ 64 → decodeHttpRules? padded = some tables := by
  refine ⟨_, decodeHttpRules?_encodeAnnotations within short, ?_, ?_⟩
  · rw [List.forall₂_map_right_iff]
    exact List.forall₂_same.mpr fun file _ => file.tabulated
  · intro padded isPadded paddedShort
    have same := isPadded.readMessage_eq annotationSchema_numbered paddedShort
    rw [← decodeHttpRules?_encodeAnnotations within short, decodeHttpRules?, decodeHttpRules?, same]

/-! ## A request with one rule -/

/-- A file with one method, which has a rule. -/
def fileWithRule (rule : HttpRule) : AnnotatedFile := ⟨[⟨[⟨some ⟨some rule⟩⟩]⟩]⟩

/-- The request for such a file, with any bytes as the rule. -/
def requestWithRule (rule : Bytes) : Bytes :=
  writeDelimited 15 (writeDelimited 6 (writeDelimited 2 (writeDelimited 4
    (writeDelimited httpExtension rule))))

theorem encodeAnnotations_fileWithRule (rule : HttpRule) :
    encodeAnnotations [fileWithRule rule] = requestWithRule (encodeRule rule) := by
  simp [encodeAnnotations, encodeAnnotatedFile, encodeService, encodeMethod, encodeOptions,
    fileWithRule, requestWithRule]

theorem padded_requestWithRule {levels : Nat} {rule padded : Bytes}
    (inner : Padded annotationSchema levels .rule rule padded) :
    Padded annotationSchema (levels + 5) .request (requestWithRule rule)
      (requestWithRule padded) :=
  .single rfl (.single rfl (.single rfl (.single rfl (.single rfl inner))))

theorem withinNestingLimit_fileWithRule {rule : HttpRule} (fits : 5 + rule.depth ≤ nestingLimit) :
    WithinNestingLimit [fileWithRule rule] := by
  simpa [WithinNestingLimit, fileWithRule, AnnotatedMethod.rule?] using fits

/-- A number in a field that no message on the way to a rule has. -/
def strayNumber : StrayField := ⟨9, .varint 300, by decide, by decide⟩

/-- Four bytes in such a field. -/
def strayWord : StrayField := ⟨9, .fixed32 #v[1, 0, 0, 0], by decide, by decide⟩

/-- A text in such a field. -/
def strayText : StrayField := ⟨9, .delimited (encodeText "note"), by decide, by decide⟩

/-- A rule with a custom pattern in an additional binding. -/
def routedRule : HttpRule :=
  .mk { body := "*", pattern? := some (.post "/v1") }
    [.mk { pattern? := some (.custom "HEAD" "/") } []]

/-- The same in writing, with an unknown field in the rule, in its additional binding and in the
custom pattern of the latter. -/
def paddedRule : Bytes :=
  writeDelimited 4 (encodeText "/v1") ++ (strayNumber.write ++
    (writeDelimited 7 (encodeText "*") ++ (writeDelimited 11
      (strayWord.write ++ (writeDelimited 8
        (writeDelimited 1 (encodeText "HEAD") ++ (strayText.write ++
          (writeDelimited 2 (encodeText "/") ++ []))) ++ [])) ++ [])))

theorem padded_routedRule :
    Padded annotationSchema 95 .rule (encodeRule routedRule) paddedRule := by
  have plain : encodeRule routedRule =
      writeDelimited 4 (encodeText "/v1") ++ (writeDelimited 7 (encodeText "*") ++
        (writeDelimited 11 (writeDelimited 8 (writeDelimited 1 (encodeText "HEAD") ++
          (writeDelimited 2 (encodeText "/") ++ [])) ++ []) ++ [])) := by
    simp [routedRule, encodeRule, encodeAdditional, encodePattern, writeNonempty]
  rw [plain]
  refine .keep rfl _ (.insert strayNumber rfl (.keep rfl _ (.enter rfl ?_ .nil)))
  refine .insert strayWord rfl (.enter rfl ?_ .nil)
  exact .keep rfl _ (.insert strayText rfl (.keep rfl _ .nil))

theorem rule_read_from_padded_request :
    WithinNestingLimit [fileWithRule routedRule] ∧
      (encodeAnnotations [fileWithRule routedRule]).length < 2 ^ 64 ∧
      ∃ table, decodeHttpRules? (requestWithRule paddedRule) = some [table] ∧
        table.get? [6, 0, 2, 0] = some routedRule ∧ table.get? [6, 0, 2, 1] = none := by
  have within : WithinNestingLimit [fileWithRule routedRule] :=
    withinNestingLimit_fileWithRule (by decide +kernel)
  have short : (encodeAnnotations [fileWithRule routedRule]).length < 2 ^ 64 := by
    decide +kernel
  obtain ⟨tables, -, tabulated, unchanged⟩ := annotations_read_back within short
  have isPadded : Padded annotationSchema nestingLimit .request
      (encodeAnnotations [fileWithRule routedRule]) (requestWithRule paddedRule) := by
    rw [encodeAnnotations_fileWithRule]
    exact padded_requestWithRule padded_routedRule
  have read := unchanged _ isPadded (by decide +kernel)
  cases tabulated with
  | @cons _ table _ _ isTable rest =>
      cases rest
      refine ⟨within, short, table, read, ?_, ?_⟩
      · exact isTable.own (by decide) (by simp [fileWithRule]) 0 0 _ _ rfl rfl
      · have none_given : (fileWithRule routedRule).rulesAt [6, 0, 2, 1] = [] := rfl
        rw [isTable.last, none_given]
        rfl

/-! ## The limit of nesting -/

/-- A binding inside another one, and so on. -/
def nestedBindings : Nat → HttpRule
  | 0 => .mk {} []
  | more + 1 => .mk {} [nestedBindings more]

/-- The same in writing, with any bytes as the innermost binding. -/
def encodeNestedBindings (innermost : Bytes) : Nat → Bytes
  | 0 => innermost
  | more + 1 => writeDelimited 11 (encodeNestedBindings innermost more)

theorem padded_nestedBindings {levels : Nat} {innermost : Bytes}
    (inner : Padded annotationSchema levels .rule [] innermost) (count : Nat) :
    Padded annotationSchema (levels + count) .rule (encodeRule (nestedBindings count))
      (encodeNestedBindings innermost count) := by
  induction count with
  | zero => exact inner
  | succ count ih =>
      have outer : encodeRule (nestedBindings (count + 1)) =
          writeDelimited 11 (encodeRule (nestedBindings count)) := by
        simp [nestedBindings, encodeRule, encodeAdditional, writeNonempty]
      rw [outer]
      exact .single rfl ih

/-- The limit also counts the level that it takes to pass over an unknown field.  So a rule that
is read with as many bindings inside each other as the limit allows is refused with an unknown field
in the innermost of them. -/
theorem unknown_field_refused_at_limit :
    WithinNestingLimit [fileWithRule (nestedBindings 95)] ∧
      Padded annotationSchema (nestingLimit + 1) .request
        (encodeAnnotations [fileWithRule (nestedBindings 95)])
        (requestWithRule (encodeNestedBindings strayNumber.write 95)) ∧
      (requestWithRule (encodeNestedBindings strayNumber.write 95)).length < 2 ^ 64 ∧
      (decodeHttpRules? (encodeAnnotations [fileWithRule (nestedBindings 95)])).isSome ∧
      decodeHttpRules? (requestWithRule (encodeNestedBindings strayNumber.write 95)) = none := by
  have within : WithinNestingLimit [fileWithRule (nestedBindings 95)] :=
    withinNestingLimit_fileWithRule (by decide +kernel)
  have innermost : Padded annotationSchema 1 .rule [] strayNumber.write := by
    rw [← List.append_nil strayNumber.write]
    exact .insert strayNumber rfl .nil
  have refused :
      (decodeHttpRules? (requestWithRule (encodeNestedBindings strayNumber.write 95))).isNone := by
    decide +kernel
  refine ⟨within, ?_, by decide +kernel, ?_, Option.isNone_iff_eq_none.mp refused⟩
  · rw [encodeAnnotations_fileWithRule]
    exact padded_requestWithRule (padded_nestedBindings innermost 95)
  · rw [decodeHttpRules?_encodeAnnotations within (by decide +kernel)]
    rfl

end ProtoCompanion.Wire
