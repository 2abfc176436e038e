/-
Module: ProtoCompanion.Proofs.AnnotatedRequests
Purpose: Requests that hold nothing but HTTP annotations, how they are written, and what is read
  back from them.
Main exports: HttpRule.depth, Wire.AnnotatedFile, Wire.encodeAnnotations,
  Wire.encodeAnnotations_reads, Wire.methodRuleOfRecords?_recordsOfMethod
-/
import ProtoCompanion.Proofs.HttpAnnotations
import ProtoCompanion.Proofs.UnknownFields

/-!
The fields of a message are written in the order of their numbers, and a pattern where the first of
its numbers stands.  Texts of a rule that are empty are not written; the text of a pattern is.

What is read back is computed in two steps: the records of the written message, and the rules and
tables that are made of these records.
-/

namespace ProtoCompanion

/-! ## Nesting -/

/-- A custom pattern is a message of its own. -/
def HttpPattern.depth : HttpPattern → Nat
  | .custom _ _ => 1
  | _ => 0

mutual

/-- How many levels of messages there are below the message of a rule. -/
def HttpRule.depth : HttpRule → Nat
  | .mk binding additional =>
      max ((binding.pattern?.map HttpPattern.depth).getD 0) (HttpRule.additionalDepth additional)

/-- How many levels of messages the additional bindings of a rule take. -/
def HttpRule.additionalDepth : List HttpRule → Nat
  | [] => 0
  | rule :: rest => max (rule.depth + 1) (HttpRule.additionalDepth rest)

end

namespace Wire

open Record (textsOf textsOf_append textOf? messagesOf messagesOf_flatMap messageOf?)

/-! ## Requests -/

/-- The options of a method, which may have an annotation. -/
structure AnnotatedOptions where
  rule? : Option HttpRule := none

structure AnnotatedMethod where
  options? : Option AnnotatedOptions := none

structure AnnotatedService where
  methods : List AnnotatedMethod := []

structure AnnotatedFile where
  services : List AnnotatedService := []

/-- The annotation of a method, if it has options with an annotation. -/
def AnnotatedMethod.rule? (method : AnnotatedMethod) : Option HttpRule :=
  method.options?.bind AnnotatedOptions.rule?

/-- No message of the request is nested deeper than the limit.  The rule of a method stands five
levels below the request. -/
def WithinNestingLimit (files : List AnnotatedFile) : Prop :=
  ∀ file ∈ files, ∀ service ∈ file.services, ∀ method ∈ service.methods,
    ∀ rule ∈ method.rule?, 5 + rule.depth ≤ nestingLimit

/-! ## Writing -/

/-- A text that is left out if it is empty. -/
def writeNonempty (number : Nat) (text : String) : Bytes :=
  if text = "" then [] else writeDelimited number (encodeText text)

def encodePattern : HttpPattern → Bytes
  | .get path => writeDelimited 2 (encodeText path)
  | .put path => writeDelimited 3 (encodeText path)
  | .post path => writeDelimited 4 (encodeText path)
  | .delete path => writeDelimited 5 (encodeText path)
  | .patch path => writeDelimited 6 (encodeText path)
  | .custom kind path => writeDelimited 8 (writeNonempty 1 kind ++ writeNonempty 2 path)

mutual

def encodeRule : HttpRule → Bytes
  | .mk binding additional =>
      writeNonempty 1 binding.selector ++ binding.pattern?.toList.flatMap encodePattern ++
        writeNonempty 7 binding.body ++ encodeAdditional additional ++
        writeNonempty 12 binding.responseBody

def encodeAdditional : List HttpRule → Bytes
  | [] => []
  | rule :: rest => writeDelimited 11 (encodeRule rule) ++ encodeAdditional rest

end

def encodeOptions (options : AnnotatedOptions) : Bytes :=
  options.rule?.toList.flatMap fun rule => writeDelimited httpExtension (encodeRule rule)

def encodeMethod (method : AnnotatedMethod) : Bytes :=
  method.options?.toList.flatMap fun options => writeDelimited 4 (encodeOptions options)

def encodeService (service : AnnotatedService) : Bytes :=
  service.methods.flatMap fun method => writeDelimited 2 (encodeMethod method)

def encodeAnnotatedFile (file : AnnotatedFile) : Bytes :=
  file.services.flatMap fun service => writeDelimited 6 (encodeService service)

/-- A request that consists of the annotations of its files. -/
def encodeAnnotations (files : List AnnotatedFile) : Bytes :=
  files.flatMap fun file => writeDelimited 15 (encodeAnnotatedFile file)

/-! ## Records -/

def nonemptyRecords (number : Nat) (text : String) : List Record :=
  if text = "" then [] else [.text number text]

def patternRecord : HttpPattern → Record
  | .get path => .text 2 path
  | .put path => .text 3 path
  | .post path => .text 4 path
  | .delete path => .text 5 path
  | .patch path => .text 6 path
  | .custom kind path => .message 8 (nonemptyRecords 1 kind ++ nonemptyRecords 2 path)

mutual

def recordsOfRule : HttpRule → List Record
  | .mk binding additional =>
      nonemptyRecords 1 binding.selector ++
        binding.pattern?.toList.flatMap (fun pattern => [patternRecord pattern]) ++
        nonemptyRecords 7 binding.body ++ recordsOfAdditional additional ++
        nonemptyRecords 12 binding.responseBody

def recordsOfAdditional : List HttpRule → List Record
  | [] => []
  | rule :: rest => [.message 11 (recordsOfRule rule)] ++ recordsOfAdditional rest

end

def recordsOfOptions (options : AnnotatedOptions) : List Record :=
  options.rule?.toList.flatMap fun rule => [.message httpExtension (recordsOfRule rule)]

def recordsOfMethod (method : AnnotatedMethod) : List Record :=
  method.options?.toList.flatMap fun options => [.message 4 (recordsOfOptions options)]

def recordsOfService (service : AnnotatedService) : List Record :=
  service.methods.flatMap fun method => [.message 2 (recordsOfMethod method)]

def recordsOfAnnotatedFile (file : AnnotatedFile) : List Record :=
  file.services.flatMap fun service => [.message 6 (recordsOfService service)]

def recordsOfAnnotations (files : List AnnotatedFile) : List Record :=
  files.flatMap fun file => [.message 15 (recordsOfAnnotatedFile file)]

/-! ## Reading what was written -/

theorem annotationSchema_numbered : annotationSchema.Numbered := by
  intro type
  cases type <;> simp [annotationSchema, IsFieldNumber, httpExtension]

theorem ReadsAs.nonempty {τ : Type} {schema : Schema τ} {budget number : Nat} {type : τ}
    (numbered : schema.Numbered) (known : (schema type).lookup number = some .text)
    (text : String) :
    ReadsAs schema budget type (writeNonempty number text) (nonemptyRecords number text) := by
  rw [writeNonempty, nonemptyRecords]
  split
  · exact .nil
  · exact .text numbered known text

theorem encodePattern_reads {budget : Nat} (pattern : HttpPattern)
    (fits : pattern.depth ≤ budget) :
    ReadsAs annotationSchema budget .rule (encodePattern pattern) [patternRecord pattern] := by
  have numbered := annotationSchema_numbered
  cases pattern with
  | get path => exact .text numbered rfl path
  | put path => exact .text numbered rfl path
  | post path => exact .text numbered rfl path
  | delete path => exact .text numbered rfl path
  | patch path => exact .text numbered rfl path
  | custom kind path =>
      obtain ⟨more, rfl⟩ : ∃ more, budget = more + 1 := Nat.exists_eq_add_of_le' fits
      have kindReads : ReadsAs annotationSchema more .customPattern (writeNonempty 1 kind) _ :=
        .nonempty numbered rfl kind
      exact .message numbered rfl (kindReads.append (.nonempty numbered rfl path))

mutual

theorem encodeRule_reads {budget : Nat} :
    ∀ rule : HttpRule, rule.depth ≤ budget →
      ReadsAs annotationSchema budget .rule (encodeRule rule) (recordsOfRule rule)
  | .mk binding additional, fits => by
      have numbered := annotationSchema_numbered
      rw [HttpRule.depth, Nat.max_le] at fits
      have pattern : ReadsAs annotationSchema budget .rule
          (binding.pattern?.toList.flatMap encodePattern)
          (binding.pattern?.toList.flatMap fun pattern => [patternRecord pattern]) := by
        refine .flatMap _ fun pattern member => encodePattern_reads pattern ?_
        rw [Option.mem_toList] at member
        simpa [member] using fits.1
      rw [encodeRule, recordsOfRule]
      exact ((((ReadsAs.nonempty numbered rfl _).append pattern).append
        (.nonempty numbered rfl _)).append (encodeAdditional_reads additional fits.2)).append
          (.nonempty numbered rfl _)

theorem encodeAdditional_reads {budget : Nat} :
    ∀ rules : List HttpRule, HttpRule.additionalDepth rules ≤ budget →
      ReadsAs annotationSchema budget .rule (encodeAdditional rules) (recordsOfAdditional rules)
  | [], _ => by
      rw [encodeAdditional, recordsOfAdditional]
      exact .nil
  | rule :: rest, fits => by
      rw [HttpRule.additionalDepth, Nat.max_le] at fits
      obtain ⟨more, rfl⟩ : ∃ more, budget = more + 1 :=
        Nat.exists_eq_add_of_le' (Nat.le_trans (Nat.le_add_left 1 _) fits.1)
      have first := encodeRule_reads rule (Nat.le_of_succ_le_succ fits.1)
      rw [encodeAdditional, recordsOfAdditional]
      exact (ReadsAs.message annotationSchema_numbered rfl first).append
        (encodeAdditional_reads rest fits.2)

end

/-- A request is read as its records if the rules stay within the limit of nesting. -/
theorem encodeAnnotations_reads {files : List AnnotatedFile} (within : WithinNestingLimit files) :
    ReadsAs annotationSchema nestingLimit .request (encodeAnnotations files)
      (recordsOfAnnotations files) := by
  have numbered := annotationSchema_numbered
  refine .messages numbered rfl files fun file isFile => ?_
  refine .messages numbered rfl _ fun service isService => ?_
  refine .messages numbered rfl _ fun method isMethod => ?_
  refine .messages numbered rfl _ fun options isOptions => ?_
  refine .messages numbered rfl _ fun rule isRule => encodeRule_reads rule ?_
  have annotated : rule ∈ method.rule? := by
    rw [Option.mem_toList] at isOptions isRule
    rw [AnnotatedMethod.rule?, isOptions]
    exact isRule
  have fits := within file isFile service isService method isMethod rule annotated
  exact Nat.le_of_add_le_add_left fits

/-! ## Rules of the records -/

theorem messageOf?_flatMap {α : Type} (number : Nat) (record : α → List Record) (x? : Option α) :
    messageOf? number (x?.toList.flatMap fun x => [.message number (record x)]) =
      x?.map record := by
  rw [messageOf?, messagesOf_flatMap]
  cases x? <;> simp

theorem textsOf_nonemptyRecords (number other : Nat) (text : String) :
    textsOf number (nonemptyRecords other text) =
      if other = number ∧ text ≠ "" then [text] else [] := by
  rw [nonemptyRecords]
  by_cases empty : text = "" <;> by_cases same : other = number <;> simp [textsOf, empty, same]

/-- A text that is read back as the empty one where it was left out. -/
theorem getD_getLast?_nonempty (text : String) :
    ((if text ≠ "" then [text] else []).getLast?).getD "" = text := by
  by_cases empty : text = "" <;> simp [empty]

theorem textsOf_patternRecord {number : Nat} (other : number < 2 ∨ 6 < number)
    (pattern? : Option HttpPattern) :
    textsOf number (pattern?.toList.flatMap fun pattern => [patternRecord pattern]) = [] := by
  cases pattern? with
  | none => rfl
  | some pattern =>
      cases pattern <;> simp [patternRecord, textsOf] <;> omega

theorem additionalOfRecords_append (records more : List Record) :
    additionalOfRecords (records ++ more) =
      additionalOfRecords records ++ additionalOfRecords more := by
  induction records with
  | nil => rw [List.nil_append, additionalOfRecords, List.nil_append]
  | cons record rest ih =>
      rw [List.cons_append, additionalOfRecords, additionalOfRecords, ih, List.append_assoc]

/-- The records of the additional bindings are messages of one field, and hold nothing else. -/
theorem recordsOfAdditional_eq (rules : List HttpRule) :
    recordsOfAdditional rules = rules.map fun rule => .message 11 (recordsOfRule rule) := by
  induction rules with
  | nil => rw [recordsOfAdditional, List.map_nil]
  | cons rule rest ih => rw [recordsOfAdditional, ih, List.singleton_append, List.map_cons]

theorem textsOf_recordsOfAdditional (number : Nat) (rules : List HttpRule) :
    textsOf number (recordsOfAdditional rules) = [] := by
  rw [recordsOfAdditional_eq, textsOf, List.filterMap_map]
  exact List.filterMap_eq_nil_iff.mpr fun rule _ => rfl

theorem foldl_patternStep_recordsOfAdditional (pattern? : Option HttpPattern)
    (rules : List HttpRule) :
    (recordsOfAdditional rules).foldl patternStep pattern? = pattern? := by
  rw [recordsOfAdditional_eq, List.foldl_map]
  induction rules with
  | nil => rfl
  | cons rule rest ih => exact ih

theorem foldl_patternStep_nonemptyRecords {number : Nat} {pattern? : Option HttpPattern}
    (passed : ∀ text, patternStep pattern? (.text number text) = pattern?) (text : String) :
    (nonemptyRecords number text).foldl patternStep pattern? = pattern? := by
  rw [nonemptyRecords]
  split
  · rfl
  · exact passed text

theorem foldl_patternStep_patternRecord (pattern? : Option HttpPattern) :
    (pattern?.toList.flatMap fun pattern => [patternRecord pattern]).foldl patternStep none =
      pattern? := by
  cases pattern? with
  | none => rfl
  | some pattern =>
      cases pattern with
      | custom kind path =>
          have texts (number : Nat) := textsOf_append number (nonemptyRecords 1 kind)
            (nonemptyRecords 2 path)
          have kindRead : (textOf? 1 (nonemptyRecords 1 kind ++ nonemptyRecords 2 path)).getD "" =
              kind := by
            rw [textOf?, texts, textsOf_nonemptyRecords, textsOf_nonemptyRecords]
            simpa using getD_getLast?_nonempty kind
          have pathRead : (textOf? 2 (nonemptyRecords 1 kind ++ nonemptyRecords 2 path)).getD "" =
              path := by
            rw [textOf?, texts, textsOf_nonemptyRecords, textsOf_nonemptyRecords]
            simpa using getD_getLast?_nonempty path
          simp [patternRecord, patternStep, kindRead, pathRead]
      | _ => rfl

theorem textsOf_recordsOfRule {number : Nat} (other : number < 2 ∨ 6 < number)
    (binding : HttpBinding) (additional : List HttpRule) :
    textsOf number (recordsOfRule (.mk binding additional)) =
      textsOf number (nonemptyRecords 1 binding.selector) ++
        textsOf number (nonemptyRecords 7 binding.body) ++
        textsOf number (nonemptyRecords 12 binding.responseBody) := by
  simp only [recordsOfRule, textsOf_append, textsOf_patternRecord other,
    textsOf_recordsOfAdditional, List.append_nil]

theorem bindingOfRecords_recordsOfRule (binding : HttpBinding) (additional : List HttpRule) :
    bindingOfRecords (recordsOfRule (.mk binding additional)) = binding := by
  have selector : (textOf? 1 (recordsOfRule (.mk binding additional))).getD "" =
      binding.selector := by
    rw [textOf?, textsOf_recordsOfRule (by decide)]
    simpa [textsOf_nonemptyRecords] using getD_getLast?_nonempty binding.selector
  have body : (textOf? 7 (recordsOfRule (.mk binding additional))).getD "" = binding.body := by
    rw [textOf?, textsOf_recordsOfRule (by decide)]
    simpa [textsOf_nonemptyRecords] using getD_getLast?_nonempty binding.body
  have responseBody : (textOf? 12 (recordsOfRule (.mk binding additional))).getD "" =
      binding.responseBody := by
    rw [textOf?, textsOf_recordsOfRule (by decide)]
    simpa [textsOf_nonemptyRecords] using getD_getLast?_nonempty binding.responseBody
  have pattern : (recordsOfRule (.mk binding additional)).foldl patternStep none =
      binding.pattern? := by
    simp only [recordsOfRule, List.foldl_append]
    rw [foldl_patternStep_nonemptyRecords (fun _ => rfl) binding.selector,
      foldl_patternStep_patternRecord,
      foldl_patternStep_nonemptyRecords (fun _ => rfl) binding.body,
      foldl_patternStep_recordsOfAdditional,
      foldl_patternStep_nonemptyRecords (fun _ => rfl) binding.responseBody]
  rw [bindingOfRecords, selector, body, responseBody, pattern]

theorem additionalOfRecords_nonemptyRecords (number : Nat) (text : String) :
    additionalOfRecords (nonemptyRecords number text) = [] := by
  rw [nonemptyRecords]
  split <;> rfl

theorem additionalOfRecords_patternRecord (pattern? : Option HttpPattern) :
    additionalOfRecords (pattern?.toList.flatMap fun pattern => [patternRecord pattern]) = [] := by
  cases pattern? with
  | none => rfl
  | some pattern => cases pattern <;> rfl

mutual

theorem ruleOfRecords_recordsOfRule :
    ∀ rule : HttpRule, ruleOfRecords (recordsOfRule rule) = rule
  | .mk binding additional => by
      have others : additionalOfRecords (recordsOfRule (.mk binding additional)) = additional := by
        simp only [recordsOfRule, additionalOfRecords_append, additionalOfRecords_nonemptyRecords,
          additionalOfRecords_patternRecord, List.nil_append, List.append_nil]
        exact additionalOfRecords_recordsOfAdditional additional
      rw [ruleOfRecords, bindingOfRecords_recordsOfRule, others]

theorem additionalOfRecords_recordsOfAdditional :
    ∀ rules : List HttpRule, additionalOfRecords (recordsOfAdditional rules) = rules
  | [] => by
      rw [recordsOfAdditional]
      rfl
  | rule :: rest => by
      have first := ruleOfRecords_recordsOfRule rule
      have others := additionalOfRecords_recordsOfAdditional rest
      rw [ruleOfRecords] at first
      rw [recordsOfAdditional, List.singleton_append, additionalOfRecords, additionalOfRecord?,
        first, others]
      rfl

end

theorem methodRuleOfRecords?_recordsOfMethod (method : AnnotatedMethod) :
    methodRuleOfRecords? (recordsOfMethod method) = method.rule? := by
  rw [methodRuleOfRecords?, recordsOfMethod, messageOf?_flatMap, AnnotatedMethod.rule?]
  cases method.options? with
  | none => rfl
  | some options =>
      simp only [Option.map_some, Option.bind_some, recordsOfOptions, messageOf?_flatMap,
        Option.map_map]
      cases options.rule? with
      | none => rfl
      | some rule => exact congrArg some (ruleOfRecords_recordsOfRule rule)

end Wire

end ProtoCompanion
