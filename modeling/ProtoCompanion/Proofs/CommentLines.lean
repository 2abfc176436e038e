/-
Module: ProtoCompanion.Proofs.CommentLines
Purpose: The Java expression of a comment, line by line.
Main exports: Chars.commentLines, Chars.commentLines_strip, strip_escapeQuotes,
  commentExpressionChars_eq, commentLines, comment_expression_made_by_lines
-/
import Mathlib.Data.List.Basic
import Mathlib.Data.List.Induction
import ProtoCompanion.Schema.Comment

/-!
A comment is trimmed, escaped and quoted as a whole before it is cut into lines.  Here it is shown
that each of these steps could be made on every line for itself: the result is made of the trimmed
lines that are not blank.  The quotes are the delicate part, as they stand on the first and on the
last line when these are trimmed.
-/

namespace ProtoCompanion

/-! ## Escaping -/

theorem escapeQuotes_cons_of_ne {c : Char} (other : c ≠ '"') (cs : List Char) :
    escapeQuotes (c :: cs) = c :: escapeQuotes cs := by
  rw [escapeQuotes, List.flatMap_cons, if_neg other]
  rfl

theorem escapeQuotes_cons_quote (cs : List Char) :
    escapeQuotes ('"' :: cs) = '\\' :: '"' :: escapeQuotes cs := by
  rw [escapeQuotes, List.flatMap_cons, if_pos rfl]
  rfl

theorem escapeQuotes_append (cs ds : List Char) :
    escapeQuotes (cs ++ ds) = escapeQuotes cs ++ escapeQuotes ds :=
  List.flatMap_append

theorem escapeQuotes_eq_nil {cs : List Char} : escapeQuotes cs = [] ↔ cs = [] := by
  cases cs with
  | nil => simp [escapeQuotes]
  | cons c cs =>
      by_cases isQuote : c = '"'
      · rw [isQuote, escapeQuotes_cons_quote]
        simp
      · rw [escapeQuotes_cons_of_ne isQuote]
        simp

theorem split_escapeQuotes (cs : List Char) :
    split '\n' (escapeQuotes cs) = (split '\n' cs).map escapeQuotes := by
  induction cs with
  | nil => rfl
  | cons c cs ih =>
      cases pieces : split '\n' cs with
      | nil => exact absurd pieces (split_ne_nil cs)
      | cons piece rest =>
          rw [pieces, List.map_cons] at ih
          by_cases isQuote : c = '"'
          · rw [isQuote, escapeQuotes_cons_quote, split_cons, if_neg (by decide), split_cons,
              if_neg (by decide), ih, split_cons, if_neg (by decide), pieces]
            simp only [extendHead, List.map_cons, escapeQuotes_cons_quote]
          · rw [escapeQuotes_cons_of_ne isQuote, split_cons, split_cons, ih, pieces]
            split
            · rfl
            · simp only [extendHead, List.map_cons, escapeQuotes_cons_of_ne isQuote]

theorem isBlank_quote : isBlank '"' = false := by decide

theorem ne_quote_of_isBlank {c : Char} (blank : isBlank c = true) : c ≠ '"' := by
  rintro rfl
  exact absurd blank (by decide)

theorem dropWhile_escapeQuotes (cs : List Char) :
    (escapeQuotes cs).dropWhile isBlank = escapeQuotes (cs.dropWhile isBlank) := by
  induction cs with
  | nil => rfl
  | cons c cs ih =>
      cases blank : isBlank c with
      | true =>
          rw [escapeQuotes_cons_of_ne (ne_quote_of_isBlank blank),
            List.dropWhile_cons_of_pos blank, List.dropWhile_cons_of_pos blank, ih]
      | false =>
          rw [List.dropWhile_cons_of_neg (by simp [blank])]
          by_cases isQuote : c = '"'
          · rw [isQuote, escapeQuotes_cons_quote, List.dropWhile_cons_of_neg (by decide)]
          · rw [escapeQuotes_cons_of_ne isQuote, List.dropWhile_cons_of_neg (by simp [blank])]

theorem stripEnd_concat (cs : List Char) (c : Char) :
    stripEnd isBlank (cs ++ [c]) = if isBlank c then stripEnd isBlank cs else cs ++ [c] := by
  split
  · rename_i blank
    exact stripEnd_append_of_all (by simpa using blank)
  · rename_i kept
    exact stripEnd_eq_self (by simpa using kept)

theorem stripEnd_escapeQuotes (cs : List Char) :
    stripEnd isBlank (escapeQuotes cs) = escapeQuotes (stripEnd isBlank cs) := by
  induction cs using List.reverseRecOn with
  | nil => rfl
  | append_singleton cs c ih =>
      rw [stripEnd_concat, escapeQuotes_append]
      cases blank : isBlank c with
      | true =>
          rw [escapeQuotes_cons_of_ne (ne_quote_of_isBlank blank), if_pos rfl, ← ih]
          exact stripEnd_append_of_all (by simp [escapeQuotes, blank])
      | false =>
          rw [if_neg (by simp), escapeQuotes_append]
          apply stripEnd_eq_self
          intro final isFinal
          have isLast : c = final := by
            by_cases isQuote : c = '"'
            · rw [isQuote, escapeQuotes_cons_quote] at isFinal
              simpa [escapeQuotes, isQuote] using isFinal
            · rw [escapeQuotes_cons_of_ne isQuote] at isFinal
              simpa [escapeQuotes] using isFinal
          rw [← isLast, blank]

theorem strip_escapeQuotes (cs : List Char) :
    strip isBlank (escapeQuotes cs) = escapeQuotes (strip isBlank cs) := by
  rw [strip, dropWhile_escapeQuotes, stripEnd_escapeQuotes, strip]

/-! ## Trimming at the end -/

theorem strip_concat_of_blank (cs : List Char) {c : Char} (blank : isBlank c = true) :
    strip isBlank (cs ++ [c]) = strip isBlank cs := by
  rw [strip, List.dropWhile_append]
  split
  · rename_i none
    rw [List.dropWhile_cons_of_pos blank, strip, List.isEmpty_iff.mp none]
    rfl
  · exact stripEnd_append_of_all (by simpa using blank)

theorem dropWhile_concat_of_kept (cs : List Char) {c : Char} (kept : isBlank c = false) :
    (cs ++ [c]).dropWhile isBlank = cs.dropWhile isBlank ++ [c] := by
  rw [List.dropWhile_append]
  split
  · rename_i none
    rw [List.dropWhile_cons_of_neg (by simp [kept]), List.isEmpty_iff.mp none, List.nil_append]
  · rfl

theorem strip_concat_of_kept (cs : List Char) {c : Char} (kept : isBlank c = false) :
    strip isBlank (cs ++ [c]) = cs.dropWhile isBlank ++ [c] := by
  rw [strip, dropWhile_concat_of_kept cs kept, stripEnd_concat, if_neg (by simp [kept])]

/-! ## The lines of a comment -/

namespace Chars

/-- The lines of a comment without the blanks at their ends, and without the blank lines. -/
def commentLines (comment : List Char) : List (List Char) :=
  ((split '\n' comment).map (strip isBlank)).filter (· ≠ [])

theorem commentLines_cons_of_blank {c : Char} (blank : isBlank c = true) (cs : List Char) :
    commentLines (c :: cs) = commentLines cs := by
  rw [commentLines, split_cons]
  split
  · rfl
  · cases pieces : split '\n' cs with
    | nil => exact absurd pieces (split_ne_nil cs)
    | cons piece rest =>
        have same : strip isBlank (c :: piece) = strip isBlank piece := by
          rw [strip, List.dropWhile_cons_of_pos blank, strip]
        rw [commentLines, pieces, extendHead, List.map_cons, same, List.map_cons]

theorem commentLines_concat_of_blank (cs : List Char) {c : Char} (blank : isBlank c = true) :
    commentLines (cs ++ [c]) = commentLines cs := by
  by_cases isBreak : c = '\n'
  · rw [isBreak, commentLines, split_append_cons, List.map_append, List.filter_append, commentLines]
    exact List.append_nil _
  · obtain ⟨init, last, pieces⟩ := exists_split_concat '\n' cs
    rw [commentLines, split_append_of_not_mem pieces (by simpa using Ne.symm isBreak),
      List.map_append, List.map_singleton, strip_concat_of_blank last blank, commentLines, pieces,
      List.map_append, List.map_singleton]

/-- Trimming the whole comment first does not change its lines. -/
theorem commentLines_strip (cs : List Char) :
    commentLines (strip isBlank cs) = commentLines cs := by
  have front : commentLines (cs.dropWhile isBlank) = commentLines cs := by
    induction cs with
    | nil => rfl
    | cons c cs ih =>
        cases blank : isBlank c with
        | true => rw [List.dropWhile_cons_of_pos blank, ih, commentLines_cons_of_blank blank]
        | false => rw [List.dropWhile_cons_of_neg (by simp [blank])]
  have back : ∀ ds : List Char, commentLines (stripEnd isBlank ds) = commentLines ds := by
    intro ds
    induction ds using List.reverseRecOn with
    | nil => rfl
    | append_singleton ds c ih =>
        rw [stripEnd_concat]
        split
        · rename_i blank
          rw [ih, commentLines_concat_of_blank ds blank]
        · rfl
  rw [strip, back, front]

/-- Escaping the whole comment first escapes its lines. -/
theorem commentLines_escapeQuotes (cs : List Char) :
    commentLines (escapeQuotes cs) = (commentLines cs).map escapeQuotes := by
  rw [commentLines, split_escapeQuotes, List.map_map, commentLines, List.filter_map,
    List.filter_map, List.map_map]
  have sameLine : strip isBlank ∘ escapeQuotes = escapeQuotes ∘ strip isBlank :=
    funext strip_escapeQuotes
  have sameBlank : (fun line => decide (line ≠ [])) ∘ (escapeQuotes ∘ strip isBlank) =
      (fun line => decide (line ≠ [])) ∘ strip isBlank := by
    funext line
    simp [escapeQuotes_eq_nil]
  rw [sameLine, sameBlank]

theorem ne_break_of_kept {c : Char} (kept : isBlank c = false) : c ≠ '\n' := by
  rintro rfl
  exact absurd kept (by decide)

/-- A character in front of a text that does not begin with a blank belongs to the first line. -/
theorem commentLines_cons_of_kept {q c : Char} (isQuote : isBlank q = false)
    (kept : isBlank c = false) (cs : List Char) :
    ∃ first rest, commentLines (c :: cs) = first :: rest ∧
      commentLines (q :: c :: cs) = (q :: first) :: rest := by
  obtain ⟨piece, rest, pieces⟩ := exists_split_cons (ne_break_of_kept kept) cs
  have own : strip isBlank (c :: piece) = c :: stripEnd isBlank piece := by
    rw [strip_of_head (by simpa using kept), stripEnd_cons_of_kept kept]
  have quoted : strip isBlank (q :: c :: piece) = q :: c :: stripEnd isBlank piece := by
    rw [strip_of_head (by simpa using isQuote), stripEnd_cons_of_kept isQuote,
      stripEnd_cons_of_kept kept]
  refine ⟨c :: stripEnd isBlank piece, (rest.map (strip isBlank)).filter (· ≠ []), ?_, ?_⟩
  · rw [commentLines, pieces, List.map_cons, own, List.filter_cons_of_pos (by simp)]
  · rw [commentLines, split_cons, if_neg (ne_break_of_kept isQuote), pieces, extendHead,
      List.map_cons, quoted, List.filter_cons_of_pos (by simp)]

/-- A character after a text that does not end with a blank belongs to the last line. -/
theorem commentLines_concat_of_kept {q c : Char} (isQuote : isBlank q = false)
    (kept : isBlank c = false) (cs : List Char) :
    ∃ init last, commentLines (cs ++ [c]) = init ++ [last] ∧
      commentLines (cs ++ [c] ++ [q]) = init ++ [last ++ [q]] := by
  obtain ⟨init, last, pieces⟩ := exists_split_concat '\n' cs
  have own : split '\n' (cs ++ [c]) = init ++ [last ++ [c]] :=
    split_append_of_not_mem pieces (by simpa using Ne.symm (ne_break_of_kept kept))
  have quoted : split '\n' (cs ++ [c] ++ [q]) = init ++ [last ++ [c] ++ [q]] :=
    split_append_of_not_mem own (by simpa using Ne.symm (ne_break_of_kept isQuote))
  refine ⟨(init.map (strip isBlank)).filter (· ≠ []), last.dropWhile isBlank ++ [c], ?_, ?_⟩
  · rw [commentLines, own, List.map_append, List.map_singleton, strip_concat_of_kept last kept,
      List.filter_append, List.filter_cons_of_pos (by simp), List.filter_nil]
  · rw [commentLines, quoted, List.map_append, List.map_singleton,
      strip_concat_of_kept (last ++ [c]) isQuote, dropWhile_concat_of_kept last kept,
      List.filter_append, List.filter_cons_of_pos (by simp), List.filter_nil]

end Chars

/-! ## The expression of a comment -/

theorem intercalate_cons_cons {α : Type} (separator : List α) (x : α) (first : List α)
    (rest : List (List α)) :
    List.intercalate separator ((x :: first) :: rest) =
      x :: List.intercalate separator (first :: rest) := by
  cases rest <;> simp

theorem intercalate_concat_append {α : Type} (separator : List α) (init : List (List α))
    (last ys : List α) :
    List.intercalate separator (init ++ [last ++ ys]) =
      List.intercalate separator (init ++ [last]) ++ ys := by
  induction init with
  | nil => simp
  | cons first init ih =>
      cases init <;> simp_all

/-- Quotes around a trimmed text are quotes around its joined lines. -/
theorem intercalate_commentLines_quoted (separator cs : List Char) :
    List.intercalate separator (Chars.commentLines ('"' :: strip isBlank cs ++ ['"'])) =
      '"' :: List.intercalate separator (Chars.commentLines cs) ++ ['"'] := by
  rw [← Chars.commentLines_strip cs]
  have firstKept : ∀ c ∈ (strip isBlank cs).head?, isBlank c = false := head?_strip
  have lastKept : ∀ c ∈ (strip isBlank cs).getLast?, isBlank c = false := getLast?_stripEnd
  generalize strip isBlank cs = text at firstKept lastKept
  rcases text.eq_nil_or_concat' with rfl | ⟨init, final, isText⟩
  · rfl
  · obtain ⟨c, rest, isCons⟩ := List.exists_cons_of_ne_nil (List.concat_ne_nil final init)
    obtain ⟨first, lines, own, opened⟩ := Chars.commentLines_cons_of_kept isBlank_quote
      (firstKept c (by simp [isText, isCons])) rest
    obtain ⟨front, last, whole, closed⟩ := Chars.commentLines_concat_of_kept isBlank_quote
      (lastKept final (by simp [isText])) ('"' :: init)
    have sameLines : front ++ [last] = ('"' :: first) :: lines := by
      rw [← whole, ← opened, ← isCons, List.cons_append]
    rw [isText]
    calc List.intercalate separator (Chars.commentLines ('"' :: (init ++ [final]) ++ ['"']))
        = List.intercalate separator (front ++ [last]) ++ ['"'] := by
          rw [← intercalate_concat_append, ← closed]
          rfl
      _ = '"' :: List.intercalate separator (Chars.commentLines (init ++ [final])) ++ ['"'] := by
          rw [sameLines, intercalate_cons_cons, isCons, own]

/-- The expression of a comment is made line by line: it has a literal for each line that is not
blank, with the double quotes escaped. -/
theorem commentExpressionChars_eq (comment : List Char) :
    commentExpressionChars comment =
      '"' :: List.intercalate literalBreak ((Chars.commentLines comment).map escapeQuotes) ++
        ['"'] := by
  change List.intercalate literalBreak
    (Chars.commentLines ('"' :: escapeQuotes (strip isBlank comment) ++ ['"'])) = _
  rw [← strip_escapeQuotes, intercalate_commentLines_quoted, Chars.commentLines_escapeQuotes]

/-! ## Comments as strings -/

/-- The lines of a comment that are not blank, each without the blanks at its ends. -/
def commentLines (comment : String) : List String :=
  ((Text.split '\n' comment).map Text.trim).filter (· ≠ "")

theorem commentLines_eq (comment : String) :
    commentLines comment = (Chars.commentLines comment.toList).map String.ofList := by
  rw [commentLines, Text.split, Chars.commentLines, List.map_map, List.filter_map, List.filter_map,
    List.map_map]
  have sameLine : Text.trim ∘ String.ofList = String.ofList ∘ strip isBlank := by
    funext line
    simp [Text.trim, Text.onChars]
  have sameBlank : (fun line : String => decide (line ≠ "")) ∘ (String.ofList ∘ strip isBlank) =
      (fun line => decide (line ≠ [])) ∘ strip isBlank := by
    funext line
    simp [String.ofList_eq_empty_iff]
  rw [sameLine, sameBlank]

/-- A pattern of one element is replaced wherever this element stands. -/
theorem replaceAll_singleton {α : Type} [DecidableEq α] (x : α) (replacement xs : List α) :
    replaceAll [x] replacement xs = xs.flatMap fun y => if y = x then replacement else [y] := by
  rw [replaceAll]
  induction xs with
  | nil => rfl
  | cons y ys ih =>
      by_cases same : y = x
      · simp [replaceFrom, same, ih]
      · simp [replaceFrom, same, Ne.symm same, ih]

theorem toList_replaceAll_quote (s : String) :
    (Text.replaceAll "\"" "\\\"" s).toList = escapeQuotes s.toList := by
  rw [Text.replaceAll, Text.toList_onChars]
  exact replaceAll_singleton _ _ _

theorem Chars.commentLines_eq_nil {comment : List Char} :
    commentLines comment = [] ↔ ∀ c ∈ comment, isBlank c = true := by
  induction comment with
  | nil => simp [commentLines, strip, stripEnd]
  | cons c cs ih =>
      cases blank : isBlank c with
      | true => simp [commentLines_cons_of_blank blank, ih, blank]
      | false =>
          obtain ⟨first, rest, own, -⟩ := commentLines_cons_of_kept isBlank_quote blank cs
          simp [own, blank]

/-- Every line has a literal that is not empty, so only a comment without lines has the expression
of the empty text. -/
theorem commentExpressionChars_eq_empty_iff {comment : List Char} :
    commentExpressionChars comment = ['"', '"'] ↔ ∀ c ∈ comment, isBlank c = true := by
  rw [← Chars.commentLines_eq_nil, commentExpressionChars_eq]
  constructor
  · intro isEmpty
    cases lines : Chars.commentLines comment with
    | nil => rfl
    | cons line rest =>
        have isLine : line ∈ Chars.commentLines comment := by simp [lines]
        have notEmpty : line ≠ [] := by simpa using (List.mem_filter.mp isLine).2
        obtain ⟨c, cs, escaped⟩ :=
          List.exists_cons_of_ne_nil (mt escapeQuotes_eq_nil.mp notEmpty)
        rw [lines, List.map_cons, escaped, intercalate_cons_cons] at isEmpty
        simp at isEmpty
  · intro none
    simp [none]

/-- The expression of a comment is made line by line: the comment is split into lines, each is
trimmed and the blank ones are dropped, every double quote in them is escaped, and what is left is
joined between two quotes.  So comments with the same lines have the same expression, and the blank
comments, and no others, have the expression that stands for no comment at all. -/
theorem comment_expression_made_by_lines (comment : String) :
    commentExpression (some comment) =
      "\"" ++ "\\n\" + \"".intercalate
        ((commentLines comment).map (Text.replaceAll "\"" "\\\"")) ++ "\"" ∧
    (∀ other, commentLines other = commentLines comment →
      commentExpression (some other) = commentExpression (some comment)) ∧
    (commentExpression (some comment) = commentExpression none ↔
      Text.isBlankText comment = true) := by
  have byLines : ∀ text : String, commentExpression (some text) =
      "\"" ++ "\\n\" + \"".intercalate
        ((commentLines text).map (Text.replaceAll "\"" "\\\"")) ++ "\"" := by
    intro text
    apply String.toList_inj.mp
    have escaped : (Chars.commentLines text.toList).map escapeQuotes =
        ((commentLines text).map (Text.replaceAll "\"" "\\\"")).map String.toList := by
      simp [commentLines_eq, Function.comp_def, toList_replaceAll_quote]
    rw [commentExpression, Text.toList_onChars, commentExpressionChars_eq, escaped,
      String.toList_append, String.toList_append, String.toList_intercalate]
    rfl
  refine ⟨byLines comment, ?sameLines, ?blank⟩
  case sameLines =>
    intro other same
    rw [byLines, byLines, same]
  case blank =>
    have blankIff : commentExpressionChars comment.toList = ['"', '"'] ↔
        Text.isBlankText comment = true := by
      rw [commentExpressionChars_eq_empty_iff, Text.isBlankText, List.all_eq_true]
    rw [← blankIff, ← String.toList_inj]
    simp [commentExpression]

/-- Blanks around the lines and between them make no difference. -/
theorem spaced_comment_has_same_expression :
    commentLines "  say \"hi\"\n\nnow  " = commentLines "say \"hi\" \n now\n" ∧
      commentExpression (some "  say \"hi\"\n\nnow  ") =
        commentExpression (some "say \"hi\" \n now\n") ∧
      commentExpression (some "say \"hi\" \n now\n") =
        "\"say \\\"hi\\\"\\n\" + \"now\"" := by
  have sameLines :
      commentLines "  say \"hi\"\n\nnow  " = commentLines "say \"hi\" \n now\n" := by
    decide
  obtain ⟨byLines, onlyLines, -⟩ := comment_expression_made_by_lines "say \"hi\" \n now\n"
  refine ⟨sameLines, onlyLines _ sameLines, ?_⟩
  rw [byLines]
  decide

end ProtoCompanion
