/-
Module: ProtoCompanion.Proofs.StringExpressions
Purpose: The texts that Java string expressions stand for, and the comments whose expression stands
  for their lines.
Main exports: Java.stringValue?, commentText, Java.Expression.literals?_written_eq_some_iff,
  comment_expression_value_iff, backslash_not_escaped
-/
import ProtoCompanion.Proofs.CommentLines

/-!
An expression is read the way Java reads it: a sum of literals, each up to its first double quote
that is not escaped, with three escape sequences and without raw line breaks.  What is written for a
comment escapes double quotes and nothing else.  So the expression stands for the lines of the
comment exactly if these have neither a backslash nor a carriage return in them: a backslash is
taken together with what comes after it, be it of the comment or of the code around it.
-/

namespace ProtoCompanion

/-! ## Reading string expressions -/

namespace Java

/-- The character that a backslash stands for together with the character after it. -/
def escaped? (c : Char) : Option Char :=
  if c = '"' ∨ c = '\\' then some c
  else if c = 'n' then some '\n'
  else none

namespace Expression

/-- The text that a sum of string literals stands for, from inside its first literal on.  There is
none if a literal is not closed, has a raw line break in it or an unknown escape sequence, or if
something else than a literal is added to it. -/
def literals? : List Char → Option (List Char)
  | [] => none
  | ['"'] => some []
  | '"' :: ' ' :: '+' :: ' ' :: '"' :: rest => literals? rest
  | '\\' :: c :: rest => (escaped? c).bind fun d => (literals? rest).map (d :: ·)
  | c :: rest =>
      if c = '"' ∨ c = '\\' ∨ c = '\n' ∨ c = '\r' then none else (literals? rest).map (c :: ·)

/-- The text that an expression stands for. -/
def value? : List Char → Option (List Char)
  | '"' :: rest => literals? rest
  | _ => none

theorem literals?_escape (c : Char) (rest : List Char) :
    literals? ('\\' :: c :: rest) = (escaped? c).bind fun d => (literals? rest).map (d :: ·) := by
  rw [literals?]

theorem literals?_plain {c : Char} (plain : c ≠ '"' ∧ c ≠ '\\' ∧ c ≠ '\n' ∧ c ≠ '\r')
    (rest : List Char) : literals? (c :: rest) = (literals? rest).map (c :: ·) := by
  obtain ⟨noQuote, noBackslash, noBreak, noReturn⟩ := plain
  rw [literals?] <;> simp_all

theorem literals?_break {c : Char} (isBreak : c = '\n' ∨ c = '\r') (rest : List Char) :
    literals? (c :: rest) = none := by
  rcases isBreak with rfl | rfl <;> rw [literals?] <;> simp

end Expression

/-- The text that a string expression stands for: a literal, or several with plus signs between
them. -/
def stringValue? (expression : String) : Option String :=
  (Expression.value? expression.toList).map String.ofList

end Java

/-! ## What is written for lines -/

namespace Chars

/-- A line and the lines after it as one text. -/
def joined (line : List Char) (later : List (List Char)) : List Char :=
  line ++ later.flatMap ('\n' :: ·)

/-- What is written for a line and the lines after it, from inside the first literal on. -/
def written (line : List Char) (later : List (List Char)) : List Char :=
  escapeQuotes line ++ (later.flatMap (literalBreak ++ escapeQuotes ·) ++ ['"'])

variable {c : Char} {line : List Char} {later : List (List Char)}

theorem joined_cons : joined (c :: line) later = c :: joined line later := rfl

theorem joined_break : joined [] (line :: later) = '\n' :: joined line later := by
  rw [joined, joined, List.nil_append, List.flatMap_cons, List.cons_append]

theorem mem_joined {l : List Char} (member : l ∈ line :: later) (isIn : c ∈ l) :
    c ∈ joined line later := by
  rw [joined, List.mem_append, List.mem_flatMap]
  rcases List.mem_cons.mp member with rfl | isLater
  · exact .inl isIn
  · exact .inr ⟨l, isLater, List.mem_cons_of_mem _ isIn⟩

theorem written_cons_of_ne (other : c ≠ '"') :
    written (c :: line) later = c :: written line later := by
  rw [written, escapeQuotes_cons_of_ne other, List.cons_append, written]

theorem written_cons_quote :
    written ('"' :: line) later = '\\' :: '"' :: written line later := by
  rw [written, escapeQuotes_cons_quote, List.cons_append, List.cons_append, written]

theorem written_break :
    written [] (line :: later) = '\\' :: 'n' :: '"' :: ' ' :: '+' :: ' ' :: '"' ::
      written line later := by
  rw [written, List.flatMap_cons, List.append_assoc, List.append_assoc, written]
  rfl

theorem intercalate_cons_eq (separator : List Char) (line : List Char) (later : List (List Char)) :
    List.intercalate separator (line :: later) = line ++ later.flatMap (separator ++ ·) := by
  induction later generalizing line with
  | nil => simp
  | cons next later ih =>
      rw [List.intercalate_cons_cons, ih, List.flatMap_cons, List.append_assoc, List.append_assoc]

end Chars

/-! ## Reading what is written -/

namespace Java.Expression

open Chars

variable {line : List Char} {later : List (List Char)}

theorem literals?_plus (rest : List Char) :
    literals? ('"' :: ' ' :: '+' :: ' ' :: '"' :: rest) = literals? rest := by
  rw [literals?]

theorem literals?_written_break :
    literals? (written [] (line :: later)) =
      (literals? (written line later)).map ('\n' :: ·) := by
  rw [written_break, literals?_escape, literals?_plus]
  rfl

theorem literals?_written_quote :
    literals? (written ('"' :: line) later) =
      (literals? (written line later)).map ('"' :: ·) := by
  rw [written_cons_quote, literals?_escape]
  rfl

theorem literals?_written_cons {c : Char} (plain : c ≠ '"' ∧ c ≠ '\\' ∧ c ≠ '\n' ∧ c ≠ '\r') :
    literals? (written (c :: line) later) = (literals? (written line later)).map (c :: ·) := by
  rw [written_cons_of_ne plain.1, literals?_plain plain]

/-- Lines without backslashes and line breaks are read back. -/
theorem literals?_written : ∀ (line : List Char) (later : List (List Char)),
    (∀ l ∈ line :: later, '\\' ∉ l ∧ '\n' ∉ l ∧ '\r' ∉ l) →
    literals? (written line later) = some (joined line later)
  | [], [], _ => rfl
  | [], next :: later, plain => by
      rw [literals?_written_break,
        literals?_written next later fun l member => plain l (List.mem_cons_of_mem _ member),
        joined_break]
      rfl
  | c :: line, later, plain => by
      rw [List.forall_mem_cons] at plain
      obtain ⟨⟨noBackslash, noBreak, noReturn⟩, rest⟩ := plain
      rw [List.mem_cons, not_or] at noBackslash noBreak noReturn
      have ih := literals?_written line later
        (List.forall_mem_cons.mpr ⟨⟨noBackslash.2, noBreak.2, noReturn.2⟩, rest⟩)
      rw [joined_cons]
      by_cases isQuote : c = '"'
      · rw [isQuote, literals?_written_quote, ih]
        rfl
      · rw [literals?_written_cons ⟨isQuote, Ne.symm noBackslash.1, Ne.symm noBreak.1,
          Ne.symm noReturn.1⟩, ih]
        rfl
termination_by line later => (later.length, line.length)

/-- After a double quote that is not escaped the expression ends, or another literal is added. -/
theorem literals?_quote_eq_none {rest : List Char} (more : rest ≠ [])
    (other : ∀ next, rest ≠ ' ' :: '+' :: ' ' :: '"' :: next) :
    literals? ('"' :: rest) = none := by
  rw [literals?]
  · simp
  · simpa using more
  · intro next
    simpa using other next
  · simp

theorem eq_written_of_cons {c : Char} {rest : List Char} (unescaped : c ≠ '\\')
    (begins : written line later = c :: rest) :
    (c = '"' ∧ rest = []) ∨ (c ≠ '"' ∧ ∃ line, rest = written line later) := by
  rcases line with _ | ⟨d, line⟩
  · rcases later with _ | ⟨next, later⟩
    · obtain ⟨rfl, rfl⟩ := List.cons.inj begins
      exact .inl ⟨rfl, rfl⟩
    · rw [written_break] at begins
      exact absurd (List.cons.inj begins).1.symm unescaped
  · by_cases isQuote : d = '"'
    · rw [isQuote, written_cons_quote] at begins
      exact absurd (List.cons.inj begins).1.symm unescaped
    · rw [written_cons_of_ne isQuote] at begins
      obtain ⟨rfl, rfl⟩ := List.cons.inj begins
      exact .inr ⟨isQuote, line, rfl⟩

/-- A double quote that is not escaped ends the literal too early: the rest of the line is no part
of an expression, even if it looks like the beginning of another literal. -/
theorem literals?_early_quote (line : List Char) (later : List (List Char)) :
    literals? ('"' :: written line later) = none := by
  by_cases addition : ∃ next, written line later = ' ' :: '+' :: ' ' :: '"' :: next
  · obtain ⟨next, begins⟩ := addition
    have ends : next = [] := by
      obtain ⟨quote, -⟩ | ⟨-, line₁, plus⟩ := eq_written_of_cons (by decide) begins
      · exact absurd quote (by decide)
      obtain ⟨quote, -⟩ | ⟨-, line₂, space⟩ := eq_written_of_cons (by decide) plus.symm
      · exact absurd quote (by decide)
      obtain ⟨quote, -⟩ | ⟨-, line₃, last⟩ := eq_written_of_cons (by decide) space.symm
      · exact absurd quote (by decide)
      obtain ⟨-, ends⟩ | ⟨noQuote, -⟩ := eq_written_of_cons (by decide) last.symm
      · exact ends
      · exact absurd rfl noQuote
    rw [begins, literals?_plus, ends, literals?]
  · exact literals?_quote_eq_none (by simp [written]) (by simpa using addition)

/-- A text `read` that is read from what is written for `source` is no longer than it, even if the
line breaks of both count twice and the backslashes that are read count twice as well. -/
structure ReadsWithin (read source : List Char) : Prop where
  count_le :
    read.length + read.count '\n' + read.count '\\' ≤ source.length + source.count '\n'
  no_return : '\r' ∉ source

theorem ReadsWithin.append {read more source rest : List Char} (first : ReadsWithin read source)
    (later : ReadsWithin more rest) : ReadsWithin (read ++ more) (source ++ rest) where
  count_le := by
    have h₁ := first.count_le
    have h₂ := later.count_le
    simp only [List.length_append, List.count_append]
    omega
  no_return := by
    rw [List.mem_append, not_or]
    exact ⟨first.no_return, later.no_return⟩

theorem ReadsWithin.plain {c : Char} (noBackslash : c ≠ '\\') (noReturn : c ≠ '\r') :
    ReadsWithin [c] [c] where
  count_le := by simp [noBackslash]
  no_return := by simpa using Ne.symm noReturn

theorem exists_of_literals?_escape {c : Char} {rest read : List Char}
    (isRead : literals? ('\\' :: c :: rest) = some read) :
    ∃ d more, escaped? c = some d ∧ literals? rest = some more ∧ read = d :: more := by
  rw [literals?_escape, Option.bind_eq_some_iff] at isRead
  obtain ⟨d, isEscape, isRead⟩ := isRead
  obtain ⟨more, later, rfl⟩ := Option.map_eq_some_iff.mp isRead
  exact ⟨d, more, isEscape, later, rfl⟩

/-- A backslash is read together with another one or with an `n` after it, or with the backslash
that is written for the line break after it, which leaves an `n`.  Before a double quote and at the
end of the last line there is nothing that it could be read with. -/
theorem read_of_backslash {read : List Char}
    (isRead : literals? (written ('\\' :: line) later) = some read) :
    (∃ rest more, line = '\\' :: rest ∧ literals? (written rest later) = some more ∧
      read = '\\' :: more) ∨
    (∃ rest more, line = 'n' :: rest ∧ literals? (written rest later) = some more ∧
      read = '\n' :: more) ∨
    (∃ next rest more, line = [] ∧ later = next :: rest ∧
      literals? (written next rest) = some more ∧ read = '\\' :: 'n' :: more) := by
  rw [written_cons_of_ne (by decide)] at isRead
  rcases line with _ | ⟨c, rest⟩
  · rcases later with _ | ⟨next, later⟩
    · obtain ⟨_, _, -, ended, -⟩ := exists_of_literals?_escape isRead
      rw [literals?] at ended
      exact absurd ended nofun
    · rw [written_break] at isRead
      obtain ⟨_, _, isEscape, afterEscape, rfl⟩ := exists_of_literals?_escape isRead
      obtain rfl := Option.some.inj isEscape
      rw [literals?_plain (by decide), literals?_plus] at afterEscape
      obtain ⟨more, readNext, rfl⟩ := Option.map_eq_some_iff.mp afterEscape
      exact .inr (.inr ⟨next, later, more, rfl, rfl, readNext, rfl⟩)
  · by_cases isQuote : c = '"'
    · rw [isQuote, written_cons_quote] at isRead
      obtain ⟨_, _, -, early, -⟩ := exists_of_literals?_escape isRead
      rw [literals?_early_quote] at early
      exact absurd early nofun
    · rw [written_cons_of_ne isQuote] at isRead
      obtain ⟨d, more, isEscape, readRest, rfl⟩ := exists_of_literals?_escape isRead
      rw [escaped?] at isEscape
      split at isEscape
      · rename_i quoteOrBackslash
        obtain rfl := quoteOrBackslash.resolve_left isQuote
        obtain rfl := Option.some.inj isEscape
        exact .inl ⟨rest, more, rfl, readRest, rfl⟩
      · split at isEscape
        · rename_i isN
          obtain rfl := Option.some.inj isEscape
          exact .inr (.inl ⟨rest, more, by rw [isN], readRest, rfl⟩)
        · exact absurd isEscape nofun

/-- Wherever reading finds a backslash, or a line break that is none, it has lost a character. -/
theorem readsWithin_of_literals? : ∀ (line : List Char) (later : List (List Char))
    (read : List Char), (∀ l ∈ line :: later, '\n' ∉ l) →
    literals? (written line later) = some read → ReadsWithin read (joined line later)
  | [], [], read, _, isRead => by
      obtain rfl : [] = read := Option.some.inj isRead
      exact ⟨by simp, by simp [joined]⟩
  | [], next :: later, read, unbroken, isRead => by
      rw [literals?_written_break] at isRead
      obtain ⟨more, later₁, rfl⟩ := Option.map_eq_some_iff.mp isRead
      rw [joined_break]
      have ih :=
        readsWithin_of_literals? next later more (List.forall_mem_cons.mp unbroken).2 later₁
      exact (ReadsWithin.plain (by decide) (by decide)).append ih
  | c :: line, later, read, unbroken, isRead => by
      obtain ⟨noBreak, rest⟩ := List.forall_mem_cons.mp unbroken
      rw [List.mem_cons, not_or] at noBreak
      have ih : ∀ more, literals? (written line later) = some more →
          ReadsWithin more (joined line later) := fun more =>
        readsWithin_of_literals? line later more (List.forall_mem_cons.mpr ⟨noBreak.2, rest⟩)
      have unbroken₁ : ∀ {d : Char} {line₁ : List Char}, line = d :: line₁ →
          ∀ l ∈ line₁ :: later, '\n' ∉ l := by
        rintro d line₁ rfl
        exact List.forall_mem_cons.mpr ⟨List.not_mem_of_not_mem_cons noBreak.2, rest⟩
      rw [joined_cons]
      by_cases isQuote : c = '"'
      · rw [isQuote, literals?_written_quote] at isRead
        obtain ⟨more, readRest, rfl⟩ := Option.map_eq_some_iff.mp isRead
        rw [isQuote]
        exact (ReadsWithin.plain (by decide) (by decide)).append (ih more readRest)
      by_cases isReturn : c = '\r'
      · rw [written_cons_of_ne isQuote, literals?_break (.inr isReturn)] at isRead
        exact absurd isRead nofun
      by_cases isBackslash : c = '\\'
      · rw [isBackslash] at isRead ⊢
        obtain ⟨line₁, more, isLine, readRest, rfl⟩ | ⟨line₁, more, isLine, readRest, rfl⟩ |
          ⟨next, later₁, more, isEmpty, isLater, readRest, rfl⟩ := read_of_backslash isRead
        · have ih₁ := readsWithin_of_literals? line₁ later more (unbroken₁ isLine) readRest
          have both : ReadsWithin ['\\'] ['\\', '\\'] := ⟨by decide, by decide⟩
          rw [isLine, joined_cons]
          exact both.append ih₁
        · have ih₁ := readsWithin_of_literals? line₁ later more (unbroken₁ isLine) readRest
          have asBreak : ReadsWithin ['\n'] ['\\', 'n'] := ⟨by decide, by decide⟩
          rw [isLine, joined_cons]
          exact asBreak.append ih₁
        · have ih₁ := readsWithin_of_literals? next later₁ more (isLater ▸ rest) readRest
          have lost : ReadsWithin ['\\', 'n'] ['\\', '\n'] := ⟨by decide, by decide⟩
          rw [isEmpty, isLater, joined_break]
          exact lost.append ih₁
      · rw [literals?_written_cons ⟨isQuote, isBackslash, Ne.symm noBreak.1, isReturn⟩] at isRead
        obtain ⟨more, readRest, rfl⟩ := Option.map_eq_some_iff.mp isRead
        exact (ReadsWithin.plain isBackslash isReturn).append (ih more readRest)
termination_by line later => (later.length, line.length)

/-- The lines are read back exactly if neither backslashes nor carriage returns are in them. -/
theorem literals?_written_eq_some_iff (unbroken : ∀ l ∈ line :: later, '\n' ∉ l) :
    literals? (written line later) = some (joined line later) ↔
      '\\' ∉ joined line later ∧ '\r' ∉ joined line later := by
  constructor
  · intro isRead
    have within := readsWithin_of_literals? line later _ unbroken isRead
    have noBackslash : (joined line later).count '\\' = 0 := by
      have bound := within.count_le
      omega
    exact ⟨List.count_eq_zero.mp noBackslash, within.no_return⟩
  · rintro ⟨noBackslash, noReturn⟩
    apply literals?_written
    intro l member
    refine ⟨fun isIn => noBackslash ?_, unbroken l member, fun isIn => noReturn ?_⟩
    · exact mem_joined member isIn
    · exact mem_joined member isIn

end Java.Expression

/-! ## The value of a comment's expression -/

/-- The text that a comment's expression is to stand for. -/
def commentText (comment : String) : String :=
  "\n".intercalate (commentLines comment)

theorem toList_commentText (comment : String) :
    (commentText comment).toList = List.intercalate ['\n'] (Chars.commentLines comment.toList) := by
  rw [commentText, String.toList_intercalate, commentLines_eq, List.map_map]
  simp [Function.comp_def]

theorem Chars.not_mem_of_mem_commentLines {comment line : List Char}
    (isLine : line ∈ Chars.commentLines comment) : '\n' ∉ line := by
  obtain ⟨piece, isPiece, rfl⟩ := List.mem_map.mp (List.mem_filter.mp isLine).1
  exact fun isIn => not_mem_of_mem_split isPiece (mem_of_mem_strip isIn)

theorem Java.Expression.value?_commentExpressionChars_iff (comment : List Char) :
    value? (commentExpressionChars comment) =
        some (List.intercalate ['\n'] (Chars.commentLines comment)) ↔
      '\\' ∉ List.intercalate ['\n'] (Chars.commentLines comment) ∧
        '\r' ∉ List.intercalate ['\n'] (Chars.commentLines comment) := by
  have unbroken : ∀ l ∈ Chars.commentLines comment, '\n' ∉ l := fun _ =>
    Chars.not_mem_of_mem_commentLines
  rw [commentExpressionChars_eq]
  cases lines : Chars.commentLines comment with
  | nil => simp [value?, literals?]
  | cons line later =>
      rw [lines] at unbroken
      have own : '"' :: List.intercalate literalBreak ((line :: later).map escapeQuotes) ++ ['"'] =
          '"' :: Chars.written line later := by
        rw [List.map_cons, Chars.intercalate_cons_eq, List.flatMap_map,
          Chars.written, List.cons_append, List.append_assoc]
      rw [own, Chars.intercalate_cons_eq]
      exact literals?_written_eq_some_iff unbroken

/-- The expression of a comment stands for its lines exactly if these have neither a backslash nor a
carriage return in them.  Only double quotes are escaped. -/
theorem comment_expression_value_iff (comment : String) :
    Java.stringValue? (commentExpression (some comment)) = some (commentText comment) ↔
      '\\' ∉ (commentText comment).toList ∧ '\r' ∉ (commentText comment).toList := by
  rw [toList_commentText, ← Java.Expression.value?_commentExpressionChars_iff, ← toList_commentText,
    Java.stringValue?, commentExpression, Text.toList_onChars, Option.map_eq_some_iff]
  constructor
  · rintro ⟨value, isValue, isText⟩
    rw [isValue, ← isText, String.toList_ofList]
  · intro isValue
    exact ⟨_, isValue, String.ofList_toList⟩

/-- A backslash is not escaped: in front of a letter it begins an unknown escape sequence, and at
the end of a comment it escapes the quote that closes the literal. -/
theorem backslash_not_escaped :
    commentText "matches \\d+" = "matches \\d+" ∧
      commentExpression (some "matches \\d+") = "\"matches \\d+\"" ∧
      Java.stringValue? (commentExpression (some "matches \\d+")) = none ∧
      Java.stringValue? (commentExpression (some "in C:\\temp\\")) = none := by
  decide

end ProtoCompanion
