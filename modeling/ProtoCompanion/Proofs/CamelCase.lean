/-
Module: ProtoCompanion.Proofs.CamelCase
Purpose: Camel case is formed word by word, and its two forms differ in the first character.
Main exports: Naming.Chars.upperCamel_append, Naming.Chars.lowerCamel_append,
  Naming.Chars.upperCamel_eq_modifyHead, Naming.Chars.accessorName_accessorName,
  camel_case_joins_at_underscores
-/
import ProtoCompanion.Proofs.UncasedCharacters

/-!
A text is cut at its underscores, each word is converted for itself, and the words are joined again
without anything between them.  So an underscore is a place where a conversion can be cut in two,
wherever it stands: at the start, at the end or next to another one.  Only the first word is spelled
in a way of its own in lower camel case, also when it is empty and the second word comes first in
the result.
-/

namespace ProtoCompanion

namespace Naming.Chars

/-! ## Words -/

theorem upperCamel_append (first second : List Char) :
    upperCamel (first ++ '_' :: second) = upperCamel first ++ upperCamel second := by
  simp only [upperCamel, split_append_cons, List.flatMap_append]

/-- The first word of both parts is the first word of the first part. -/
theorem lowerCamel_append (first second : List Char) :
    lowerCamel (first ++ '_' :: second) = lowerCamel first ++ upperCamel second := by
  rw [lowerCamel, lowerCamel, upperCamel, split_append_cons]
  cases words : split '_' first with
  | nil => exact absurd words (split_ne_nil first)
  | cons word others => simp only [List.cons_append, List.flatMap_append, List.append_assoc]

theorem lowerCamel_of_not_mem {word : List Char} (plain : '_' ∉ word) :
    lowerCamel word = word.map Char.toLower := by
  rw [lowerCamel, split_of_not_mem plain]
  exact List.append_nil _

/-! ## The first character -/

/-- Empty words vanish, so the first character is that of the first word that is not empty. -/
theorem modifyHead_flatMap_capitalizeWord (words : List (List Char)) :
    (words.flatMap capitalizeWord).modifyHead Char.toUpper = words.flatMap capitalizeWord := by
  induction words with
  | nil => rfl
  | cons word words ih =>
      cases word with
      | nil => exact ih
      | cons c cs => simp [capitalizeWord]

theorem upperCamel_eq_modifyHead (cs : List Char) :
    upperCamel cs = (lowerCamel cs).modifyHead Char.toUpper := by
  rw [upperCamel, lowerCamel]
  cases split '_' cs with
  | nil => rfl
  | cons word words =>
      cases word with
      | nil => exact (modifyHead_flatMap_capitalizeWord words).symm
      | cons c cs => simp [capitalizeWord]

/-! ## Underscores -/

theorem underscore_not_mem_upperCamel (cs : List Char) : '_' ∉ upperCamel cs := by
  rw [← List.count_eq_zero, count_upperCamel (by decide), List.count_eq_zero]
  simp

theorem underscore_not_mem_lowerCamel (cs : List Char) : '_' ∉ lowerCamel cs := by
  rw [← List.count_eq_zero, count_lowerCamel (by decide), List.count_eq_zero]
  simp

theorem underscore_not_mem_accessorName (cs : List Char) : '_' ∉ accessorName cs := by
  rw [accessorName]
  split
  case isTrue => exact underscore_not_mem_lowerCamel cs
  case isFalse plain => exact plain

theorem accessorName_accessorName (cs : List Char) :
    accessorName (accessorName cs) = accessorName cs := by
  rw [accessorName, if_neg (underscore_not_mem_accessorName cs)]

end Naming.Chars

/-! ## Texts -/

namespace Naming

theorem toList_join_underscore (first second : String) :
    (first ++ "_" ++ second).toList = first.toList ++ '_' :: second.toList := by
  simp

theorem upperCamel_append (first second : String) :
    upperCamel (first ++ "_" ++ second) = upperCamel first ++ upperCamel second := by
  apply String.toList_inj.mp
  rw [upperCamel, String.toList_append, Text.toList_onChars, toList_join_underscore,
    Chars.upperCamel_append, Text.toList_onChars, Text.toList_onChars]

theorem lowerCamel_append (first second : String) :
    lowerCamel (first ++ "_" ++ second) = lowerCamel first ++ upperCamel second := by
  apply String.toList_inj.mp
  rw [lowerCamel, upperCamel, String.toList_append, Text.toList_onChars, toList_join_underscore,
    Chars.lowerCamel_append, Text.toList_onChars, Text.toList_onChars]

theorem lowerCamel_of_not_mem {word : String} (plain : '_' ∉ word.toList) :
    lowerCamel word = Text.onChars (·.map Char.toLower) word := by
  rw [lowerCamel, Text.onChars, Chars.lowerCamel_of_not_mem plain, Text.onChars]

theorem upperCamel_eq_modifyHead (text : String) :
    upperCamel text = Text.onChars (·.modifyHead Char.toUpper) (lowerCamel text) := by
  apply String.toList_inj.mp
  simp only [upperCamel, lowerCamel, Text.toList_onChars, Chars.upperCamel_eq_modifyHead]

theorem accessorName_accessorName (name : String) :
    accessorName (accessorName name) = accessorName name := by
  apply String.toList_inj.mp
  simp only [accessorName, Text.toList_onChars, Chars.accessorName_accessorName]

end Naming

open Naming (upperCamel lowerCamel accessorName)

/-- Camel case of two texts with an underscore between them is the camel case of both, the second
one in upper camel case; a text without underscores is a single word, all in lower case.  The two
forms differ in the case of the first character only.  No underscore is left, so the name of the
accessors of a name is made once. -/
theorem camel_case_joins_at_underscores :
    (∀ first second : String,
      upperCamel (first ++ "_" ++ second) = upperCamel first ++ upperCamel second ∧
        lowerCamel (first ++ "_" ++ second) = lowerCamel first ++ upperCamel second) ∧
    (∀ word : String, '_' ∉ word.toList →
      lowerCamel word = Text.onChars (·.map Char.toLower) word) ∧
    (∀ text : String,
      upperCamel text = Text.onChars (·.modifyHead Char.toUpper) (lowerCamel text) ∧
        '_' ∉ (upperCamel text).toList ∧ '_' ∉ (lowerCamel text).toList ∧
        '_' ∉ (accessorName text).toList ∧
        accessorName (accessorName text) = accessorName text) := by
  refine ⟨?joins, ?word, ?text⟩
  case joins =>
    intro first second
    exact ⟨Naming.upperCamel_append first second, Naming.lowerCamel_append first second⟩
  case word =>
    intro word plain
    exact Naming.lowerCamel_of_not_mem plain
  case text =>
    intro text
    refine ⟨Naming.upperCamel_eq_modifyHead text, ?upper, ?lower, ?accessor,
      Naming.accessorName_accessorName text⟩
    case upper =>
      rw [upperCamel, Text.toList_onChars]
      exact Naming.Chars.underscore_not_mem_upperCamel text.toList
    case lower =>
      rw [lowerCamel, Text.toList_onChars]
      exact Naming.Chars.underscore_not_mem_lowerCamel text.toList
    case accessor =>
      rw [accessorName, Text.toList_onChars]
      exact Naming.Chars.underscore_not_mem_accessorName text.toList

/-- The middle word is empty, and so is the first one. -/
theorem camel_case_of_empty_words :
    upperCamel "_FOO__bar" = "FooBar" ∧ lowerCamel "_FOO__bar" = "FooBar" ∧
      lowerCamel "FOO" = "foo" := by
  obtain ⟨joins, single, -⟩ := camel_case_joins_at_underscores
  refine ⟨?upper, ?lower, ?word⟩
  case upper =>
    have cut : "_FOO__bar" = "" ++ "_" ++ ("FOO_" ++ "_" ++ "bar") := by decide
    rw [cut, (joins "" _).1, (joins "FOO_" "bar").1]
    decide
  case lower =>
    have cut : "_FOO__bar" = "" ++ "_" ++ ("FOO_" ++ "_" ++ "bar") := by decide
    rw [cut, (joins "" _).2, (joins "FOO_" "bar").1]
    decide
  case word =>
    rw [single "FOO" (by decide)]
    decide

end ProtoCompanion
