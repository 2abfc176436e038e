/-
Module: ProtoCompanion.Proofs.JoinedRequests
Purpose: Two serialized requests put one after the other are one request, with the files of both.
Main exports: CodeRequest.decode_eq_ok_iff, Wire.decodeHttpRules?_append, joined_request_decodes
-/
import ProtoCompanion.Proofs.HttpAnnotations

/-!
Both readings of a request go through its fields from first to last.  So each of them reads the
fields of the second part after those of the first, and the tables of rules keep standing at the
same places as their files.
-/

namespace ProtoCompanion

open Wire
open Wire.Record (messagesOf textOf? textsOf)

/-- A request is decoded exactly if both readings of it succeed. -/
theorem CodeRequest.decode_eq_ok_iff {bytes : Bytes} {request : CodeRequest} :
    CodeRequest.decode bytes = .ok request ↔
      ∃ records httpRules,
        readMessage descriptorSchema nestingLimit .request bytes = some records ∧
          decodeHttpRules? bytes = some httpRules ∧ request = .ofRecords records httpRules := by
  rw [CodeRequest.decode]
  constructor
  · intro decoded
    split at decoded
    case h_1 records httpRules full sparse =>
      exact ⟨records, httpRules, full, sparse, (Except.ok.inj decoded).symm⟩
    case h_2 => cases decoded
  · rintro ⟨records, httpRules, full, sparse, rfl⟩
    rw [full, sparse]

theorem Wire.decodeHttpRules?_append {bytes more : Bytes} {tables others : List HttpRuleTable}
    (first : decodeHttpRules? bytes = some tables)
    (second : decodeHttpRules? more = some others) :
    decodeHttpRules? (bytes ++ more) = some (tables ++ others) := by
  obtain ⟨records, read, rfl⟩ := Option.map_eq_some_iff.mp first
  obtain ⟨moreRecords, readMore, rfl⟩ := Option.map_eq_some_iff.mp second
  rw [decodeHttpRules?, readMessage_append read readMore, Option.map_some,
    Record.messagesOf_append, List.map_append]

/-- Where a later request has an option string, that one counts. -/
theorem CodeRequest.parameters_eq {request before after : CodeRequest}
    (joined : request.parameter? = after.parameter?.or before.parameter?) :
    request.parameters =
      if after.parameter?.isSome then after.parameters else before.parameters := by
  rw [CodeRequest.parameters, joined]
  cases set : after.parameter? with
  | none => rfl
  | some text => simp [CodeRequest.parameters, set]

/-- Requests that are decoded one by one are decoded when they are put one after the other.  The
files, and the tables of their rules, are those of the first request and then those of the second,
and a file keeps its table.  The options are those of the second request if it has any. -/
theorem joined_request_decodes {first second : Bytes} {before after : CodeRequest}
    (decodedFirst : CodeRequest.decode first = .ok before)
    (decodedSecond : CodeRequest.decode second = .ok after) :
    ∃ joined, CodeRequest.decode (first ++ second) = .ok joined ∧
      joined.files = before.files ++ after.files ∧
      joined.httpRules = before.httpRules ++ after.httpRules ∧
      (∀ index < before.files.length, joined.httpRulesAt index = before.httpRulesAt index) ∧
      (∀ index, joined.httpRulesAt (before.files.length + index) = after.httpRulesAt index) ∧
      joined.filesToGenerate = before.filesToGenerate ++ after.filesToGenerate ∧
      joined.parameters =
        if after.parameter?.isSome then after.parameters else before.parameters := by
  have oneTableEach := (CodeRequest.file_readTwice decodedFirst).1
  obtain ⟨records, tables, full, sparse, rfl⟩ := CodeRequest.decode_eq_ok_iff.mp decodedFirst
  obtain ⟨moreRecords, moreTables, moreFull, moreSparse, rfl⟩ :=
    CodeRequest.decode_eq_ok_iff.mp decodedSecond
  have decoded := CodeRequest.decode_eq_ok_iff.mpr ⟨_, _, readMessage_append full moreFull,
    decodeHttpRules?_append sparse moreSparse, rfl⟩
  refine ⟨_, decoded, ?_, rfl, ?_, ?_, ?_, ?_⟩
  · simp only [CodeRequest.ofRecords, Record.messagesOf_append, List.map_append]
  · intro index inside
    rw [← oneTableEach] at inside
    exact congrArg (Option.getD · {}) (List.getElem?_append_left inside)
  · intro index
    rw [← oneTableEach]
    have later : (tables ++ moreTables)[tables.length + index]? = moreTables[index]? := by
      rw [List.getElem?_append_right (Nat.le_add_right _ _), Nat.add_sub_cancel_left]
    exact congrArg (Option.getD · {}) later
  · exact Record.textsOf_append 1 records moreRecords
  · exact CodeRequest.parameters_eq (Record.textOf?_append 2 records moreRecords)

/-- A request for the index of all messages, with one file. -/
def indexRequest : Bytes :=
  writeDelimited 2 (encodeText "index") ++
    writeDelimited 15 (writeDelimited 1 (encodeText "item.proto"))

/-- The second request has no options, and a rule for a method of its only file.  In the joined
request the file comes second, and its rule with it. -/
theorem joined_request_keeps_option_and_rule :
    ∃ joined, CodeRequest.decode (indexRequest ++ splitOptionsRequest) = .ok joined ∧
      joined.files.map FileDecl.name? = [some "item.proto", none] ∧
      ((joined.httpRulesAt 1).get? [6, 0, 2, 1]).map HttpRule.binding =
        some { pattern? := some (.put "/v1"), body := "*" } ∧
      joined.parameters.contains "index" = true := by
  have first : (CodeRequest.decode indexRequest).toOption.map (fun request =>
      (request.files.map FileDecl.name?, request.parameters.contains "index")) =
        some ([some "item.proto"], true) := by
    decide +kernel
  have second : (CodeRequest.decode splitOptionsRequest).toOption.map (fun request =>
      (request.files.map FileDecl.name?, request.parameter?,
        ((request.httpRulesAt 0).get? [6, 0, 2, 1]).map HttpRule.binding)) =
        some ([none], none, some { pattern? := some (.put "/v1"), body := "*" }) := by
    decide +kernel
  cases decodedFirst : CodeRequest.decode indexRequest with
  | error error => simp [decodedFirst, Except.toOption] at first
  | ok before =>
  cases decodedSecond : CodeRequest.decode splitOptionsRequest with
  | error error => simp [decodedSecond, Except.toOption] at second
  | ok after =>
      simp only [decodedFirst, Except.toOption, Option.map_some, Option.some.injEq,
        Prod.mk.injEq] at first
      simp only [decodedSecond, Except.toOption, Option.map_some, Option.some.injEq,
        Prod.mk.injEq] at second
      obtain ⟨firstName, hasOption⟩ := first
      obtain ⟨secondName, noOptions, hasRule⟩ := second
      obtain ⟨joined, decoded, files, -, -, later, -, options⟩ :=
        joined_request_decodes decodedFirst decodedSecond
      have oneFile : before.files.length = 1 := by
        rw [← List.length_map FileDecl.name?, firstName]
        rfl
      refine ⟨joined, decoded, ?_, ?_, ?_⟩
      · rw [files, List.map_append, firstName, secondName]
        rfl
      · rw [← hasRule, ← later 0, oneFile]
      · rw [options, noOptions]
        exact hasOption

end ProtoCompanion
