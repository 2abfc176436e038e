/-
Module: ProtoCompanion.Proofs.RenderedBlocks
Purpose: A generated file has the lines of its blocks in it, one level deeper.
Main exports: CutsInto, cutsInto_iff, CompanionFile.render_eq, RendersBlock,
  rendered_blocks_keep_lines
-/
import Mathlib.Data.List.Forall2
import Mathlib.Data.List.TakeWhile
import ProtoCompanion.Proofs.WrittenLines

/-!
A block of code is trimmed at its end and cut into lines, and each line is written with an
indentation and a line feed of its own.  The body of a nested class is cut into the same lines,
which are indented in the same way but joined with line feeds between them.  So the two differ by
one line feed at the end, and by nothing if there is no line at all.
-/

namespace ProtoCompanion

/-! ## Cutting a text into lines -/

/-- A text and its lines.  A line ends at a line feed, and a carriage return directly before the
line feed is part of the ending.  What follows the last line feed is a line if it is not empty. -/
inductive CutsInto : String → List String → Prop where
  | none : CutsInto "" []
  | last {line : String} (oneLine : OneLine line) (nonempty : line ≠ "") : CutsInto line [line]
  | fed {line rest : String} {lines : List String} (oneLine : OneLine line)
      (notReturned : line.toList.getLast? ≠ some '\r') (later : CutsInto rest lines) :
      CutsInto (line ++ ("\n" ++ rest)) (line :: lines)
  | returned {line rest : String} {lines : List String} (oneLine : OneLine line)
      (later : CutsInto rest lines) : CutsInto (line ++ ("\r\n" ++ rest)) (line :: lines)

section

variable {text : String} {lines : List String}

/-- One carriage return goes with the line feed, others before it stay. -/
theorem Text.lines_cons_returned {line : String} (oneLine : OneLine line) (rest : String) :
    Text.lines (line ++ ("\r\n" ++ rest)) = line :: Text.lines rest := by
  have chars : (line ++ ("\r\n" ++ rest)).toList =
      (line.toList ++ ['\r']) ++ '\n' :: rest.toList := by
    simp
  have oneLineToo : '\n' ∉ line.toList ++ ['\r'] := by
    rw [List.mem_append, not_or]
    exact ⟨oneLine, by decide⟩
  rw [Text.lines, chars, lines_append_cons oneLineToo, dropReturn, List.getLast?_concat,
    if_pos rfl, List.dropLast_concat, List.map_cons, String.ofList_toList, Text.lines]

theorem CutsInto.lines_eq (cut : CutsInto text lines) : Text.lines text = lines := by
  induction cut with
  | none => rfl
  | last oneLine nonempty => exact Text.lines_of_oneLine oneLine nonempty
  | fed oneLine notReturned _ ih => rw [Text.lines_cons oneLine notReturned, ih]
  | returned oneLine _ ih => rw [Text.lines_cons_returned oneLine, ih]

theorem exists_first_line (longer : ¬ OneLine text) :
    ∃ line rest, text = line ++ ("\n" ++ rest) ∧ OneLine line := by
  rw [OneLine, Classical.not_not] at longer
  obtain ⟨line, rest, chars, oneLine⟩ := List.eq_append_cons_of_mem longer
  refine ⟨String.ofList line, String.ofList rest, ?_, by simpa [OneLine] using oneLine⟩
  rw [← String.toList_inj, chars]
  simp

/-- The recursion is on the text after the first line feed. -/
theorem cutsInto_lines (text : String) : CutsInto text (Text.lines text) := by
  by_cases oneLine : OneLine text
  case pos =>
    by_cases empty : text = ""
    · rw [empty]
      exact .none
    · rw [Text.lines_of_oneLine oneLine empty]
      exact .last oneLine empty
  case neg =>
    obtain ⟨line, rest, whole, firstLine⟩ := exists_first_line oneLine
    have shorter : rest.length < text.length := by
      rw [whole, String.length_append, String.length_append]
      exact Nat.lt_of_lt_of_le (Nat.lt_add_of_pos_left (by decide)) (Nat.le_add_left _ _)
    have later := cutsInto_lines rest
    rw [whole]
    by_cases isReturned : line.toList.getLast? = some '\r'
    · obtain ⟨kept, chars⟩ := List.getLast?_eq_some_iff.mp isReturned
      have split : line ++ ("\n" ++ rest) = String.ofList kept ++ ("\r\n" ++ rest) := by
        rw [← String.toList_inj, String.toList_append, chars]
        simp
      have keptLine : OneLine (String.ofList kept) := by
        rw [OneLine, chars, List.mem_append, not_or] at firstLine
        simpa [OneLine] using firstLine.1
      rw [split, Text.lines_cons_returned keptLine]
      exact .returned keptLine later
    · rw [Text.lines_cons firstLine isReturned]
      exact .fed firstLine isReturned later
termination_by text.length

theorem cutsInto_iff : CutsInto text lines ↔ Text.lines text = lines := by
  constructor
  case mp => exact CutsInto.lines_eq
  case mpr =>
    rintro rfl
    exact cutsInto_lines text

example : Text.lines "a\r\n\r\r\n\nb\r" = ["a", "\r", "", "b\r"] := by decide

theorem Text.lines_ne_nil (nonempty : text ≠ "") : Text.lines text ≠ [] := by
  intro noLines
  have cut := cutsInto_lines text
  rw [noLines] at cut
  cases cut
  exact nonempty rfl

end

/-! ## Trimming the end -/

theorem exists_stripEnd_append {α : Type} (drop : α → Bool) (xs : List α) :
    ∃ dropped, xs = stripEnd drop xs ++ dropped ∧ ∀ x ∈ dropped, drop x = true := by
  refine ⟨(xs.reverse.takeWhile drop).reverse, ?_, ?_⟩
  · rw [stripEnd, ← List.reverse_append, List.takeWhile_append_dropWhile, List.reverse_reverse]
  · intro x member
    rw [List.mem_reverse] at member
    exact List.mem_takeWhile_imp member

namespace Text

theorem exists_append_blanks (text : String) :
    ∃ blanks, text = trimEnd text ++ blanks ∧ isBlankText blanks = true := by
  obtain ⟨blanks, chars, dropped⟩ := exists_stripEnd_append isBlank text.toList
  refine ⟨String.ofList blanks, ?_, ?_⟩
  · rw [← String.toList_inj, String.toList_append, trimEnd, toList_onChars, String.toList_ofList]
    exact chars
  · rw [isBlankText, String.toList_ofList, List.all_eq_true]
    exact dropped

theorem getLast?_trimEnd (text : String) :
    ∀ c ∈ (trimEnd text).toList.getLast?, isBlank c = false := by
  rw [trimEnd, toList_onChars]
  exact getLast?_stripEnd

theorem trimEnd_eq_empty_iff {text : String} : trimEnd text = "" ↔ isBlankText text = true := by
  rw [← String.toList_inj, trimEnd, toList_onChars, isBlankText, List.all_eq_true]
  simp [stripEnd, List.dropWhile_eq_nil_iff]

end Text

/-! ## Blocks -/

theorem unlines_eq_intercalate {lines : List String} (nonempty : lines ≠ []) :
    unlines lines = "\n".intercalate lines ++ "\n" := by
  obtain ⟨init, last, rfl⟩ := (List.eq_nil_or_concat' lines).resolve_left nonempty
  rw [intercalate_lineFeed, unlines_append, unlines_cons, unlines_nil, String.append_empty,
    String.append_assoc]

theorem unlines_flatMap {α : Type} (written : α → List String) (xs : List α) :
    unlines (xs.flatMap written) = String.join (xs.map fun x => unlines (written x)) := by
  induction xs with
  | nil => rfl
  | cons x xs ih => rw [List.flatMap_cons, unlines_append, ih, List.map_cons, String.join_cons]

/-- The text that stands for a block in the class. -/
structure RendersBlock (block text : String) : Prop where
  /-- An empty line comes first.  Then come the lines of the block, apart from what is blank at its
  end. -/
  written : ∃ kept blanks lines,
    block = kept ++ blanks ∧ Text.isBlankText blanks = true ∧
      (∀ c ∈ kept.toList.getLast?, isBlank c = false) ∧ CutsInto kept lines ∧
      text = unlines
        ("" :: lines.map fun line => if Text.isBlankText line then "" else "    " ++ line)
  /-- It is the block as it is nested in a class. -/
  nested : text = "\n" ++ Outline.nest (Text.trimEnd block) ++
    if Text.isBlankText block then "" else "\n"

namespace CompanionFile

theorem rendersBlock_blockLines (block : String) :
    RendersBlock block (unlines (blockLines block)) := by
  constructor
  case written =>
    obtain ⟨blanks, whole, areBlank⟩ := Text.exists_append_blanks block
    exact ⟨Text.trimEnd block, blanks, Text.lines (Text.trimEnd block), whole, areBlank,
      Text.getLast?_trimEnd block, cutsInto_lines _, rfl⟩
  case nested =>
    rw [blockLines, unlines_cons, String.empty_append, Outline.nest]
    cases blank : Text.isBlankText block with
    | true =>
        rw [Text.trimEnd_eq_empty_iff.mpr blank]
        rfl
    | false =>
        have nonempty : Text.trimEnd block ≠ "" := by
          rw [Ne, Text.trimEnd_eq_empty_iff, blank]
          exact Bool.false_ne_true
        have someLines : (Text.lines (Text.trimEnd block)).map indentLine ≠ [] := by
          rw [Ne, List.map_eq_nil_iff]
          exact Text.lines_ne_nil nonempty
        rw [unlines_eq_intercalate someLines, String.append_assoc]
        rfl

/-- The file from top to bottom. -/
theorem render_eq (file : CompanionFile) :
    file.render =
      unlines file.headLines ++
        ("public final class " ++ file.className ++ " \x7b\n    private " ++ file.className ++
          "() \x7b\x7d\n") ++
        String.join (file.blocks.map fun block => unlines (blockLines block)) ++ "\x7d\n" := by
  have whole : file.render = unlines (file.headLines ++ file.classLines) := rfl
  have opening : " \x7b\n    private " = " \x7b" ++ "\n" ++ "    private " := rfl
  have created : "() \x7b\x7d\n" = "() \x7b\x7d" ++ "\n" := rfl
  have closing : "\x7d\n" = "\x7d" ++ "\n" := rfl
  rw [whole, classLines, opening, created, closing]
  simp only [unlines_append, unlines_flatMap, unlines_cons, unlines_nil, String.append_assoc,
    String.append_empty]

end CompanionFile

/-- Between the line with the constructor and the closing brace of the class there is a text for
each block: first those of the messages, then those of the enums, then those of the services. -/
theorem rendered_blocks_keep_lines (file : CompanionFile) :
    ∃ texts, List.Forall₂ RendersBlock
        (file.messageCode ++ file.enumCode ++ file.serviceCode) texts ∧
      file.render =
        unlines file.headLines ++
          ("public final class " ++ file.className ++ " \x7b\n    private " ++ file.className ++
            "() \x7b\x7d\n") ++
          String.join texts ++ "\x7d\n" := by
  refine ⟨file.blocks.map fun block => unlines (CompanionFile.blockLines block), ?_,
    file.render_eq⟩
  rw [List.forall₂_map_right_iff]
  exact List.forall₂_same.mpr fun block _ => CompanionFile.rendersBlock_blockLines block

end ProtoCompanion
