/-
Module: ProtoCompanion.Text.Split
Purpose: Cutting texts at separators and replacing parts of them.
Main exports: split, splitOnce?, lines, replaceAll, escapeQuotes, Text.quote
-/
import ProtoCompanion.Text.Blank

namespace ProtoCompanion

/-! ## Pieces between separators -/

/-- Put one more element in front of the first piece. -/
def extendHead {α : Type} (x : α) : List (List α) → List (List α)
  | [] => [[x]]
  | piece :: rest => (x :: piece) :: rest

theorem flatten_extendHead {α : Type} (x : α) (pieces : List (List α)) :
    (extendHead x pieces).flatten = x :: pieces.flatten := by
  cases pieces <;> simp [extendHead]

/-- The pieces between the occurrences of a separator.  There is always one more piece than there
are separators, so the empty text has one empty piece. -/
def split {α : Type} [DecidableEq α] (separator : α) (xs : List α) : List (List α) :=
  xs.foldr (fun x pieces => if x = separator then [] :: pieces else extendHead x pieces) [[]]

@[simp] theorem split_nil {α : Type} [DecidableEq α] (separator : α) :
    split separator [] = [[]] := rfl

theorem split_cons {α : Type} [DecidableEq α] (separator x : α) (xs : List α) :
    split separator (x :: xs) =
      if x = separator then [] :: split separator xs else extendHead x (split separator xs) := rfl

section

variable {α : Type} [DecidableEq α] {separator : α}

theorem split_ne_nil (xs : List α) : split separator xs ≠ [] := by
  cases xs with
  | nil => simp
  | cons x xs =>
      rw [split_cons]
      split
      · simp
      · cases split separator xs <;> simp [extendHead]

/-- The text begins with its first piece. -/
theorem exists_split_cons {x : α} (other : x ≠ separator) (xs : List α) :
    ∃ piece rest, split separator (x :: xs) = (x :: piece) :: rest := by
  rw [split_cons, if_neg other]
  cases split separator xs with
  | nil => exact ⟨[], [], rfl⟩
  | cons piece rest => exact ⟨piece, rest, rfl⟩

theorem exists_split_concat (separator : α) (xs : List α) :
    ∃ init last, split separator xs = init ++ [last] :=
  ⟨_, _, (List.dropLast_concat_getLast (split_ne_nil xs)).symm⟩

theorem split_of_not_mem {xs : List α} (plain : separator ∉ xs) : split separator xs = [xs] := by
  induction xs with
  | nil => rfl
  | cons x xs ih =>
      rw [List.mem_cons, not_or] at plain
      rw [split_cons, if_neg (Ne.symm plain.1), ih plain.2, extendHead]

/-- What has no separator in it goes on with the last piece. -/
theorem split_append_of_not_mem {xs ys last : List α} {init : List (List α)}
    (pieces : split separator xs = init ++ [last]) (plain : separator ∉ ys) :
    split separator (xs ++ ys) = init ++ [last ++ ys] := by
  induction xs generalizing init last with
  | nil =>
      have single := split_of_not_mem plain
      cases init with
      | nil => simp_all
      | cons first rest => simp at pieces
  | cons x xs ih =>
      rw [List.cons_append, split_cons]
      rw [split_cons] at pieces
      by_cases isSeparator : x = separator
      · rw [if_pos isSeparator] at pieces ⊢
        cases init with
        | nil => simp [split_ne_nil] at pieces
        | cons first rest =>
            obtain ⟨rfl, later⟩ := List.cons.inj pieces
            rw [ih later, List.cons_append]
      · rw [if_neg isSeparator] at pieces ⊢
        cases rest : split separator xs with
        | nil => exact absurd rest (split_ne_nil xs)
        | cons piece others =>
            rw [rest, extendHead] at pieces
            cases init with
            | nil =>
                obtain ⟨rfl, rfl⟩ := List.cons.inj pieces
                have later : split separator (xs ++ ys) = [] ++ [piece ++ ys] := ih rest
                rw [later, List.nil_append, extendHead, List.nil_append, List.cons_append]
            | cons first more =>
                obtain ⟨rfl, rfl⟩ := List.cons.inj pieces
                have later : split separator (xs ++ ys) = (piece :: more) ++ [last ++ ys] := ih rest
                rw [later, List.cons_append, extendHead, List.cons_append]

/-- The text before a separator and the text after it are split on their own. -/
theorem split_append_cons (xs ys : List α) :
    split separator (xs ++ separator :: ys) = split separator xs ++ split separator ys := by
  induction xs with
  | nil => rw [List.nil_append, split_cons, if_pos rfl, split_nil, List.singleton_append]
  | cons x xs ih =>
      rw [List.cons_append, split_cons, split_cons, ih]
      split
      · rfl
      · cases rest : split separator xs with
        | nil => exact absurd rest (split_ne_nil xs)
        | cons piece others => rfl

theorem not_mem_of_mem_split {xs piece : List α} (member : piece ∈ split separator xs) :
    separator ∉ piece := by
  induction xs generalizing piece with
  | nil =>
      rw [split_nil, List.mem_singleton] at member
      simp [member]
  | cons x xs ih =>
      rw [split_cons] at member
      split at member
      · rcases List.mem_cons.mp member with rfl | later
        · simp
        · exact ih later
      · rename_i other
        cases rest : split separator xs with
        | nil => exact absurd rest (split_ne_nil xs)
        | cons first others =>
            rw [rest, extendHead] at member
            rcases List.mem_cons.mp member with rfl | later
            · rw [List.mem_cons, not_or]
              exact ⟨Ne.symm other, ih (by simp [rest])⟩
            · exact ih (by simp [rest, later])

/-- Splitting takes the separators away and nothing else. -/
theorem flatten_split (xs : List α) :
    (split separator xs).flatten = xs.filter (· ≠ separator) := by
  induction xs with
  | nil => rfl
  | cons x xs ih =>
      rw [split_cons]
      by_cases isSeparator : x = separator
      · simp [isSeparator, ih]
      · simp [isSeparator, flatten_extendHead, ih]

end

/-- The parts before and after the first occurrence of a separator. -/
def splitOnce? {α : Type} [DecidableEq α] (separator : α) : List α → Option (List α × List α)
  | [] => none
  | x :: xs =>
      if x = separator then some ([], xs)
      else (splitOnce? separator xs).map fun (before, after) => (x :: before, after)

/-! ## Lines -/

/-- A line without the one carriage return that stands directly before its line feed. -/
def dropReturn (line : List Char) : List Char :=
  if line.getLast? = some '\r' then line.dropLast else line

/-- The lines among the pieces between line feeds.  All pieces but the last were ended by a line
feed; the last one is a line only if it is not empty. -/
def linesOfPieces : List (List Char) → List (List Char)
  | [] => []
  | [last] => if last = [] then [] else [last]
  | piece :: next :: rest => dropReturn piece :: linesOfPieces (next :: rest)

/-- The lines of a text, each ended by a line feed or by a carriage return and a line feed. -/
def lines (cs : List Char) : List (List Char) :=
  linesOfPieces (split '\n' cs)

/-! ## Replacement -/

/-- Replace every occurrence of the pattern `head :: tail`, the leftmost first and without overlap.
`skipped` characters still belong to the occurrence replaced last. -/
def replaceFrom {α : Type} [DecidableEq α] (head : α) (tail replacement : List α)
    (skipped : Nat) : List α → List α
  | [] => []
  | x :: xs =>
      match skipped with
      | more + 1 => replaceFrom head tail replacement more xs
      | 0 =>
          if (head :: tail).isPrefixOf (x :: xs) then
            replacement ++ replaceFrom head tail replacement tail.length xs
          else x :: replaceFrom head tail replacement 0 xs

/-- Replace every occurrence of a pattern.  The empty pattern occurs nowhere. -/
def replaceAll {α : Type} [DecidableEq α] (pattern replacement : List α) (xs : List α) : List α :=
  match pattern with
  | [] => xs
  | head :: tail => replaceFrom head tail replacement 0 xs

section

variable {α : Type} [DecidableEq α] {pattern replacement : List α}

@[simp] theorem replaceAll_nil : replaceAll pattern replacement ([] : List α) = [] := by
  cases pattern <;> rfl

/-- The characters that belong to an occurrence are passed over. -/
theorem replaceFrom_eq_drop (head : α) (tail : List α) (skipped : Nat) (xs : List α) :
    replaceFrom head tail replacement skipped xs =
      replaceFrom head tail replacement 0 (xs.drop skipped) := by
  induction xs generalizing skipped with
  | nil => rw [List.drop_nil, replaceFrom, replaceFrom]
  | cons x xs ih =>
      cases skipped with
      | zero => rfl
      | succ more => rw [replaceFrom, ih, List.drop_succ_cons]

/-- An occurrence at the front is replaced, and the text goes on after it. -/
theorem replaceAll_append (nonempty : pattern ≠ []) (rest : List α) :
    replaceAll pattern replacement (pattern ++ rest) =
      replacement ++ replaceAll pattern replacement rest := by
  cases pattern with
  | nil => exact absurd rfl nonempty
  | cons head tail =>
      have occurs : (head :: tail).isPrefixOf (head :: (tail ++ rest)) = true :=
        List.isPrefixOf_iff_prefix.mpr (List.prefix_append (head :: tail) rest)
      rw [List.cons_append, replaceAll, replaceFrom, if_pos occurs, replaceFrom_eq_drop,
        List.drop_left, replaceAll]

/-- A character that no occurrence begins with is kept. -/
theorem replaceAll_cons {x : α} {xs : List α} (other : ¬ pattern <+: x :: xs) :
    replaceAll pattern replacement (x :: xs) = x :: replaceAll pattern replacement xs := by
  cases pattern with
  | nil => exact absurd List.nil_prefix other
  | cons head tail =>
      rw [replaceAll, replaceFrom, if_neg (by rwa [List.isPrefixOf_iff_prefix]), replaceAll]

end

/-- Put a backslash in front of every double quote. -/
def escapeQuotes (cs : List Char) : List Char :=
  cs.flatMap fun c => if c = '"' then ['\\', '"'] else [c]

namespace Text

/-- The pieces of a text between the occurrences of a character. -/
def split (separator : Char) (s : String) : List String :=
  (ProtoCompanion.split separator s.toList).map String.ofList

/-- The parts of a text before and after the first occurrence of a character. -/
def splitOnce? (separator : Char) (s : String) : Option (String × String) :=
  (ProtoCompanion.splitOnce? separator s.toList).map fun (before, after) =>
    (String.ofList before, String.ofList after)

/-- The lines of a text. -/
def lines (s : String) : List String :=
  (ProtoCompanion.lines s.toList).map String.ofList

/-- Replace every occurrence of `pattern` in a text. -/
def replaceAll (pattern replacement : String) : String → String :=
  onChars (ProtoCompanion.replaceAll pattern.toList replacement.toList)

/-- The text as the inside of a string literal: every double quote is escaped. -/
def escapeQuotes : String → String := onChars ProtoCompanion.escapeQuotes

/-- The text between double quotes, with its own double quotes escaped. -/
def quote (s : String) : String := "\"" ++ escapeQuotes s ++ "\""

end Text

end ProtoCompanion
