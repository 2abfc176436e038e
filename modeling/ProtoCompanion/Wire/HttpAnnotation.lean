/-
Module: ProtoCompanion.Wire.HttpAnnotation
Purpose: The HTTP annotations in a serialized request.
Main exports: AnnotationMessage, annotationSchema, decodeHttpRules?
-/
import ProtoCompanion.Schema.HttpRule
import ProtoCompanion.Wire.Record

/-!
The annotation of a method is an extension of its options.  The schema here knows only the way
from the request to that extension, and passes over everything else.
-/

namespace ProtoCompanion.Wire

/-! ## Schema -/

/-- The types of messages on the way to an annotation. -/
inductive AnnotationMessage where
  | request
  | file
  | service
  | method
  | methodOptions
  | rule
  | customPattern
deriving Repr, DecidableEq, Inhabited

/-- The number of the extension of method options that holds the annotation. -/
def httpExtension : Nat := 72295728

/-- The fields of a request that lead to annotations, and those of an annotation. -/
def annotationSchema : Schema AnnotationMessage
  | .request => [(15, .message .file)]
  | .file => [(6, .message .service)]
  | .service => [(2, .message .method)]
  | .method => [(4, .message .methodOptions)]
  | .methodOptions => [(httpExtension, .message .rule)]
  | .rule =>
      [(1, .text), (2, .text), (3, .text), (4, .text), (5, .text), (6, .text), (7, .text),
        (8, .message .customPattern), (11, .message .rule), (12, .text)]
  | .customPattern => [(1, .text), (2, .text)]

/-! ## Rules -/

open Record

/-- The pattern after one more record of a rule.  A later pattern replaces an earlier one; only two
custom patterns in a row are put together. -/
def patternStep (pattern? : Option HttpPattern) : Record → Option HttpPattern
  | .text 2 path => some (.get path)
  | .text 3 path => some (.put path)
  | .text 4 path => some (.post path)
  | .text 5 path => some (.delete path)
  | .text 6 path => some (.patch path)
  | .message 8 inner =>
      match pattern? with
      | some (.custom kind path) =>
          some (.custom ((textOf? 1 inner).getD kind) ((textOf? 2 inner).getD path))
      | _ => some (.custom ((textOf? 1 inner).getD "") ((textOf? 2 inner).getD ""))
  | _ => pattern?

/-- A rule apart from its additional bindings. -/
def bindingOfRecords (records : List Record) : HttpBinding where
  selector := (textOf? 1 records).getD ""
  body := (textOf? 7 records).getD ""
  responseBody := (textOf? 12 records).getD ""
  pattern? := records.foldl patternStep none

mutual

/-- The additional bindings of a rule with the given records. -/
def additionalOfRecords : List Record → List HttpRule
  | [] => []
  | record :: rest => (additionalOfRecord? record).toList ++ additionalOfRecords rest

/-- The additional binding that a record of a rule holds. -/
def additionalOfRecord? : Record → Option HttpRule
  | .message 11 inner => some (.mk (bindingOfRecords inner) (additionalOfRecords inner))
  | _ => none

end

def ruleOfRecords (records : List Record) : HttpRule :=
  .mk (bindingOfRecords records) (additionalOfRecords records)

/-- The rule in the options of a method, if the method is annotated. -/
def methodRuleOfRecords? (method : List Record) : Option HttpRule :=
  (messageOf? 4 method).bind fun options =>
    (messageOf? httpExtension options).map ruleOfRecords

/-! ## Rules of a file -/

/-- Add the rules of the methods of a service, from the one at an index on. -/
def insertMethodRules (service index : Nat) (rules : HttpRuleTable) :
    List (List Record) → HttpRuleTable
  | [] => rules
  | method :: rest =>
      insertMethodRules service (index + 1)
        (match methodRuleOfRecords? method with
          | some rule => rules.insert service index rule
          | none => rules)
        rest

/-- Add the rules of services, from the one at an index on. -/
def insertServiceRules (index : Nat) (rules : HttpRuleTable) : List (List Record) → HttpRuleTable
  | [] => rules
  | service :: rest =>
      insertServiceRules (index + 1) (insertMethodRules index 0 rules (messagesOf 2 service)) rest

/-- The rules of a file. -/
def httpRulesOfRecords (file : List Record) : HttpRuleTable :=
  insertServiceRules 0 {} (messagesOf 6 file)

/-- The rules of every file of a serialized request, in order. -/
def decodeHttpRules? (bytes : Bytes) : Option (List HttpRuleTable) :=
  (readMessage annotationSchema nestingLimit .request bytes).map fun records =>
    (messagesOf 15 records).map httpRulesOfRecords

end ProtoCompanion.Wire
