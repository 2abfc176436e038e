/-
Module: ProtoCompanion.Naming.ShoutySnake
Purpose: Words of an identifier, and its spelling in capitals with underscores.
Main exports: Naming.Chars.words, Naming.shoutySnake
-/
import ProtoCompanion.Naming.Case

/-!
An identifier is cut at every character that is neither a letter nor a digit.  Inside the pieces
a word ends between a lower case and an upper case letter, and before the last capital of a run
of capitals that is followed by a lower case letter: `parseHTTPRequest` has the words `parse`,
`HTTP` and `Request`.  Characters without case, such as digits, never start a word.
-/

namespace ProtoCompanion.Naming

/-- The case of the letter seen last in the current word. -/
inductive CaseMode where
  | start
  | lower
  | upper
deriving Repr, DecidableEq

namespace Chars

/-- The mode after a character. -/
def caseAfter (mode : CaseMode) (c : Char) : CaseMode :=
  if Unicode.isLowercase c then .lower
  else if Unicode.isUppercase c then .upper
  else mode

/-- Cut a piece into words.  `word` holds the characters of the current word so far. -/
def cutWords (mode : CaseMode) (word : List Char) : List Char → List (List Char)
  | [] => if word = [] then [] else [word]
  | [c] => [word ++ [c]]
  | c :: next :: rest =>
      if caseAfter mode c = .lower && Unicode.isUppercase next then
        (word ++ [c]) :: cutWords .start [] (next :: rest)
      else if mode = .upper && Unicode.isUppercase c && Unicode.isLowercase next then
        word :: cutWords .start [c] (next :: rest)
      else cutWords (caseAfter mode c) (word ++ [c]) (next :: rest)

/-- The maximal runs of letters and digits, with empty runs between adjacent separators. -/
def alphanumericRuns (cs : List Char) : List (List Char) :=
  cs.foldr (fun c runs => if Unicode.isAlphanumeric c then extendHead c runs else [] :: runs) [[]]

/-- The words of an identifier, in order. -/
def words (cs : List Char) : List (List Char) :=
  (alphanumericRuns cs).flatMap (cutWords .start [])

/-- The words in full upper case, joined by underscores. -/
def shoutySnake (cs : List Char) : List Char :=
  List.intercalate ['_'] ((words cs).map fun word => word.flatMap Unicode.toUppercase)

end Chars

/-- The spelling of an identifier as a Java constant: `currencyCode` becomes `CURRENCY_CODE`. -/
def shoutySnake : String → String := Text.onChars Chars.shoutySnake

end ProtoCompanion.Naming
