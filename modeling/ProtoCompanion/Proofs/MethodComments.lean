/-
Module: ProtoCompanion.Proofs.MethodComments
Purpose: When the comments in the class of a service end where they are closed on purpose.
Main exports: Java.Comment.afterEnd?, Java.isComment, Java.EndsComment, Java.isComment_javadoc_iff,
  Outline.methodParts, method_comments_whole_iff, template_ends_comment
-/
import Mathlib.Data.List.Infix
import ProtoCompanion.Proofs.ClassMembers

/-!
A Java comment ends where an asterisk is first followed by a slash.  What the comment on a method
says is written as it is, and a URL template with a wildcard segment has these two characters.
-/

namespace ProtoCompanion

namespace Java

/-! ## Reading comments -/

namespace Comment

/-- What is left of a text after the first place at which it ends a comment. -/
def afterEnd? : List Char → Option (List Char)
  | '*' :: '/' :: rest => some rest
  | _ :: rest => afterEnd? rest
  | [] => none

variable {c : Char} {cs ds rest : List Char}

theorem afterEnd?_end (rest : List Char) : afterEnd? ('*' :: '/' :: rest) = some rest := by
  rw [afterEnd?]

/-- Two characters end a comment only if they are the right ones. -/
theorem afterEnd?_cons (other : ∀ rest, c = '*' → cs ≠ '/' :: rest) :
    afterEnd? (c :: cs) = afterEnd? cs := by
  rw [afterEnd?]
  simpa using other

/-- What stands after the first end does not matter. -/
theorem afterEnd?_append_of_some (ended : afterEnd? cs = some rest) (ds : List Char) :
    afterEnd? (cs ++ ds) = some (rest ++ ds) := by
  induction cs using afterEnd?.induct with
  | case1 more =>
      rw [afterEnd?_end] at ended
      rw [← Option.some.inj ended]
      exact afterEnd?_end (more ++ ds)
  | case2 c cs other ih =>
      rw [afterEnd?_cons fun rest => other rest] at ended
      rw [List.cons_append, afterEnd?_cons, ih ended]
      intro following isStar isSlash
      cases cs with
      | nil => cases ended
      | cons next cs => exact other cs isStar (by rw [(List.cons.inj isSlash).1])
  | case3 => cases ended

/-- A text without an end goes on with what stands after it, unless the two make an end. -/
theorem afterEnd?_append_of_none (noEnd : afterEnd? cs = none) (other : ds.head? ≠ some '/') :
    afterEnd? (cs ++ ds) = afterEnd? ds := by
  induction cs using afterEnd?.induct with
  | case1 more =>
      rw [afterEnd?_end] at noEnd
      cases noEnd
  | case2 c cs notEnd ih =>
      rw [afterEnd?_cons fun rest => notEnd rest] at noEnd
      rw [List.cons_append, afterEnd?_cons, ih noEnd]
      intro following isStar isSlash
      cases cs with
      | nil => exact other (by rw [← List.nil_append ds, isSlash, List.head?_cons])
      | cons next cs => exact notEnd cs isStar (by rw [(List.cons.inj isSlash).1])
  | case3 => rfl

/-- A text without asterisks leaves it to what stands after it to end a comment. -/
theorem afterEnd?_append_of_not_mem (plain : '*' ∉ cs) (ds : List Char) :
    afterEnd? (cs ++ ds) = afterEnd? ds := by
  induction cs with
  | nil => rfl
  | cons c cs ih =>
      rw [List.mem_cons, not_or] at plain
      rw [List.cons_append, afterEnd?_cons fun _ isStar => absurd isStar.symm plain.1, ih plain.2]

theorem afterEnd?_eq_none_iff : afterEnd? cs = none ↔ ¬ ['*', '/'] <:+: cs := by
  induction cs using afterEnd?.induct with
  | case1 more =>
      rw [afterEnd?_end]
      simpa using (List.prefix_append ['*', '/'] more).isInfix
  | case2 c cs other ih =>
      rw [afterEnd?_cons fun rest => other rest, ih, List.infix_cons_iff, not_or]
      have notHere : ¬ ['*', '/'] <+: c :: cs := by
        rintro ⟨more, isText⟩
        obtain ⟨isStar, isSlash⟩ := List.cons.inj isText
        exact other more isStar.symm isSlash.symm
      exact (and_iff_right notHere).symm
  | case3 => simp [afterEnd?]

end Comment

/-- A text that would end a comment that it stands in. -/
def EndsComment (text : String) : Prop := "*/".toList <:+: text.toList

instance : DecidablePred EndsComment := fun text =>
  inferInstanceAs (Decidable ("*/".toList <:+: text.toList))

/-- A text is one comment: it is opened at the beginning, and ended at the end and not before. -/
def isComment (text : String) : Bool :=
  match text.toList with
  | '/' :: '*' :: body => Comment.afterEnd? body = some []
  | _ => false

theorem endsComment_iff {text : String} :
    EndsComment text ↔ Comment.afterEnd? text.toList ≠ none := by
  rw [Ne, Comment.afterEnd?_eq_none_iff, not_not]
  rfl

/-- A text that makes no end, neither by itself nor with what stands before or after it. -/
def Separates (between : String) : Prop :=
  '*' ∉ between.toList ∧ between.toList.head?.any (· ≠ '/')

instance : DecidablePred Separates := fun between =>
  inferInstanceAs (Decidable ('*' ∉ between.toList ∧ between.toList.head?.any (· ≠ '/')))

theorem endsComment_append_iff {between : String} (separates : Separates between)
    (text rest : String) :
    EndsComment (text ++ (between ++ rest)) ↔ EndsComment text ∨ EndsComment rest := by
  obtain ⟨plain, opens⟩ := separates
  have other : (between.toList ++ rest.toList).head? ≠ some '/' := by
    cases chars : between.toList with
    | nil => simp [chars] at opens
    | cons c cs => simpa [chars] using opens
  simp only [endsComment_iff, String.toList_append]
  cases ended : Comment.afterEnd? text.toList with
  | none =>
      rw [Comment.afterEnd?_append_of_none ended other, Comment.afterEnd?_append_of_not_mem plain]
      simp
  | some left =>
      rw [Comment.afterEnd?_append_of_some ended]
      simp

open Outline (javadoc)

/-- What a comment says decides whether it is one comment. -/
theorem isComment_javadoc_iff (said : String) :
    isComment (javadoc said) ↔ ¬ EndsComment said := by
  have chars : (javadoc said).toList =
      '/' :: '*' :: '*' :: ' ' :: (said.toList ++ ['.', ' ', '*', '/']) := by
    simp [javadoc]
  have opening : ∀ rest, Comment.afterEnd? ('*' :: ' ' :: rest) = Comment.afterEnd? rest := by
    intro rest
    rw [Comment.afterEnd?_cons (by simp), Comment.afterEnd?_cons (by simp)]
  rw [isComment, chars, endsComment_iff, not_not]
  change decide (Comment.afterEnd? ('*' :: ' ' :: _) = some []) = true ↔ _
  rw [decide_eq_true_iff, opening]
  cases ended : Comment.afterEnd? said.toList with
  | none =>
      rw [Comment.afterEnd?_append_of_none ended (by decide)]
      exact ⟨fun _ => rfl, fun _ => rfl⟩
  | some rest =>
      rw [Comment.afterEnd?_append_of_some ended]
      simp

end Java

/-! ## The comments on methods -/

namespace Outline

open Java (EndsComment endsComment_append_iff)

/-- The parts of what the comment on a method says: its types, and its verb and URL template if it
has an HTTP binding. -/
def methodParts (registry : Registry) (method : MethodDescriptor) : List String :=
  [registry.symbolClass method.input.symbol, registry.symbolClass method.output.symbol] ++
    match method.httpRule?.bind HttpRule.verbAndTemplate? with
    | some (verb, template) => [verb, template]
    | none => []

theorem endsComment_methodSummary_iff (registry : Registry) (method : MethodDescriptor) :
    EndsComment (methodSummary registry method) ↔
      ∃ part ∈ methodParts registry method, EndsComment part := by
  rw [methodSummary, methodParts]
  generalize registry.symbolClass method.input.symbol = input
  generalize registry.symbolClass method.output.symbol = output
  have arrow : Java.Separates " to " := by decide
  cases method.httpRule?.bind HttpRule.verbAndTemplate? with
  | none =>
      have streaming : Java.Separates (", " ++ method.streaming.name) := by
        cases method.streaming <;> decide
      have empty : ¬ EndsComment "" := by decide
      calc EndsComment (input ++ " to " ++ output ++ ", " ++ method.streaming.name ++ "")
        _ ↔ EndsComment (input ++ (" to " ++ (output ++
            ((", " ++ method.streaming.name) ++ "")))) := by
          simp only [String.append_assoc]
        _ ↔ EndsComment input ∨ EndsComment output ∨ EndsComment "" := by
          rw [endsComment_append_iff arrow, endsComment_append_iff streaming]
        _ ↔ ∃ part ∈ [input, output] ++ [], EndsComment part := by
          simp [empty]
  | some binding =>
      obtain ⟨verb, template⟩ := binding
      have streaming : Java.Separates (", " ++ method.streaming.name ++ ", ") := by
        cases method.streaming <;> decide
      have space : Java.Separates " " := by decide
      calc EndsComment (input ++ " to " ++ output ++ ", " ++ method.streaming.name ++
            (", " ++ verb ++ " " ++ template))
        _ ↔ EndsComment (input ++ (" to " ++ (output ++ ((", " ++ method.streaming.name ++ ", ") ++
            (verb ++ (" " ++ template)))))) := by
          simp only [String.append_assoc]
        _ ↔ EndsComment input ∨ EndsComment output ∨ EndsComment verb ∨ EndsComment template := by
          rw [endsComment_append_iff arrow, endsComment_append_iff streaming,
            endsComment_append_iff space]
        _ ↔ ∃ part ∈ [input, output] ++ [verb, template], EndsComment part := by
          simp

theorem comments_serviceMembers (registry : Registry) (service : ServiceDescriptor) :
    comments (serviceMembers registry service) =
      service.methods.map fun method => javadoc (methodSummary registry method) := by
  rw [serviceMembers, comments_append, comments, comments, List.filterMap_flatMap,
    List.map_eq_flatMap]
  rfl

end Outline

open Outline (javadoc classOf serviceMembers comments methodParts)

/-- The code of a service is a class with certain members.  Among these is one comment for each
method.  All of the comments end where they are closed on purpose exactly if no type, verb or URL
template in them ends a comment: nothing in them is escaped. -/
theorem method_comments_whole_iff (registry : Registry) (service : ServiceDescriptor) :
    Outline.serviceCode registry service =
        classOf service.symbol.name (serviceMembers registry service) ∧
      comments (serviceMembers registry service) =
        service.methods.map (fun method => javadoc (Outline.methodSummary registry method)) ∧
      ((∀ comment ∈ comments (serviceMembers registry service), Java.isComment comment) ↔
        ∀ method ∈ service.methods, ∀ part ∈ methodParts registry method,
          ¬ Java.EndsComment part) := by
  refine ⟨Outline.serviceCode_eq registry service,
    Outline.comments_serviceMembers registry service, ?_⟩
  rw [Outline.comments_serviceMembers, List.forall_mem_map]
  simp only [Java.isComment_javadoc_iff, Outline.endsComment_methodSummary_iff, not_exists, not_and]

/-- The wildcard segment of a URL template ends the comment on the method that is bound to it. -/
theorem template_ends_comment :
    let unit : FileUnit :=
      .ofFile 0 { name? := some "shelf.proto" } { companionClass := "Companion" }
    let symbol (name : String) : Symbol := { serial := 0, name, outers := [], unit }
    let book : MessageDescriptor :=
      { symbol := symbol "Book", decl := {}, comment := "\"\"", fields := [] }
    let rule : HttpRule :=
      .mk { pattern? := some (.get "/v1/\x7bname=shelves/*/books/*\x7d") } []
    let service : ServiceDescriptor := {
      symbol := symbol "Library"
      comment := "\"\""
      methods := [
        { name := "GetBook", comment := "\"\"", streaming := .simple, input := book, output := book,
          httpRule? := some rule }] }
    comments (serviceMembers {} service) =
        ["/** Shelf.Book to Shelf.Book, Simple, GET " ++
          "/v1/\x7bname=shelves/*/books/*\x7d. */"] ∧
      ¬ ∀ comment ∈ comments (serviceMembers {} service), Java.isComment comment := by
  decide +kernel

end ProtoCompanion
