/-
Module: ProtoCompanion.Proofs.UncasedCharacters
Purpose: Conversions of case neither make nor take away a character without case.
Main exports: Unicode.IsUncased, Unicode.count_toUppercase, Unicode.count_lowercase,
  Naming.Chars.count_capitalize, Naming.Chars.count_upperCamel, Naming.Chars.count_lowerCamel
-/
import Mathlib
import ProtoCompanion.Naming.Case

/-!
Separators such as the slash, the full stop, the underscore and the line feed are ASCII characters
that are not letters.  Each case conversion keeps the number of times that such a character occurs,
since it maps the character to itself and no other character to it.  Camel case takes the
underscores away, and of the other separators it keeps the number as well.  Whether a separator
occurs at all is read off from its number.
-/

namespace ProtoCompanion

namespace Unicode

/-- The ASCII characters that are not letters. -/
def IsUncased (c : Char) : Prop := c.toNat < 0x80 ∧ c.isAlpha = false

instance : DecidablePred IsUncased := fun c =>
  inferInstanceAs (Decidable (c.toNat < 0x80 ∧ c.isAlpha = false))

/-! ## Conversion of one character -/

section

variable {c : Char}

theorem toUpper_of_not_isAlpha (notLetter : c.isAlpha = false) : c.toUpper = c := by
  rw [Char.isAlpha, Bool.or_eq_false_iff] at notLetter
  exact Char.toUpper_eq_of_not_isLower (by simp [notLetter.2])

theorem toLower_of_not_isAlpha (notLetter : c.isAlpha = false) : c.toLower = c := by
  rw [Char.isAlpha, Bool.or_eq_false_iff] at notLetter
  exact Char.toLower_eq_of_not_isUpper (by simp [notLetter.1])

end

namespace IsUncased

variable {c x : Char}

theorem toUpper_eq_iff (uncased : IsUncased x) : c.toUpper = x ↔ c = x := by
  constructor
  case mp =>
    intro same
    have notLetter : c.isAlpha = false := by
      rw [← Char.isAlpha_toUpper_eq_isAlpha, same]
      exact uncased.2
    rwa [toUpper_of_not_isAlpha notLetter] at same
  case mpr =>
    rintro rfl
    exact toUpper_of_not_isAlpha uncased.2

theorem toLower_eq_iff (uncased : IsUncased x) : c.toLower = x ↔ c = x := by
  constructor
  case mp =>
    intro same
    have notLetter : c.isAlpha = false := by
      rw [← Char.isAlpha_toLower_eq_isAlpha, same]
      exact uncased.2
    rwa [toLower_of_not_isAlpha notLetter] at same
  case mpr =>
    rintro rfl
    exact toLower_of_not_isAlpha uncased.2

theorem ne_of_not_ascii (uncased : IsUncased x) (notAscii : ¬ c.toNat < 0x80) : c ≠ x := by
  rintro rfl
  exact notAscii uncased.1

/-- The letter sigma is the only one whose lower case depends on its place. -/
theorem count_sigma (uncased : IsUncased x) : ∀ sigma ∈ ['Σ', 'σ', 'ς'], [sigma].count x = 0 := by
  intro sigma isSigma
  have cased : ¬ IsUncased sigma := by
    simp only [List.mem_cons, List.not_mem_nil, or_false] at isSigma
    rcases isSigma with rfl | rfl | rfl <;> decide
  rw [List.count_eq_zero, List.mem_singleton]
  rintro rfl
  exact cased uncased

end IsUncased

theorem not_isUncased_upperExpansions :
    ∀ entry ∈ upperExpansions, ∀ code ∈ entry.2, ¬ IsUncased (Char.ofNat code) := by
  decide +kernel

/-- No image under a band of a table is without case. -/
def CasedImages (table : List ShiftBand) : Prop :=
  ∀ band ∈ table, ∀ offset < band.last - band.first + 1,
    ¬ IsUncased (Char.ofNat (band.target + offset))

theorem casedImages_upperShifts : CasedImages upperShifts := by
  unfold CasedImages
  decide +kernel

theorem casedImages_lowerShifts : CasedImages lowerShifts := by
  unfold CasedImages
  decide +kernel

section

variable {c x : Char}

theorem shifted_ne {table : List ShiftBand} (cased : CasedImages table) (uncased : IsUncased x)
    (other : c ≠ x) : shifted table c ≠ x := by
  rw [shifted]
  split
  case h_1 code found =>
    obtain ⟨band, isBand, image⟩ := List.exists_of_findSome?_eq_some found
    rw [ShiftBand.image?] at image
    split at image
    case isTrue contained =>
      simp only [Band.contains, Bool.and_eq_true, decide_eq_true_iff] at contained
      have notUncased := cased band isBand (c.toNat - band.first) (by omega)
      rw [Option.some.inj image] at notUncased
      rintro rfl
      exact notUncased uncased
    case isFalse => cases image
  case h_2 => exact other

theorem count_toUppercase (uncased : IsUncased x) (c : Char) :
    (toUppercase c).count x = [c].count x := by
  by_cases ascii : c.toNat < 0x80
  · rw [toUppercase, if_pos ascii]
    simp [List.count_singleton, uncased.toUpper_eq_iff]
  · have other := uncased.ne_of_not_ascii ascii
    have none : x ∉ toUppercase c := by
      rw [toUppercase, if_neg ascii]
      split
      case h_1 codes found =>
        obtain ⟨before, after, isTable, -⟩ := List.lookup_eq_some_iff.mp found
        have notUncased := not_isUncased_upperExpansions (c.toNat, codes) (by simp [isTable])
        rw [List.mem_map]
        rintro ⟨code, isCode, rfl⟩
        exact notUncased code isCode uncased
      case h_2 =>
        rw [List.mem_singleton]
        exact (shifted_ne casedImages_upperShifts uncased other).symm
    rw [List.count_eq_zero.mpr none, List.count_eq_zero.mpr (by simpa using Ne.symm other)]

theorem count_toLowercase (uncased : IsUncased x) (c : Char) :
    (toLowercase c).count x = [c].count x := by
  by_cases ascii : c.toNat < 0x80
  · rw [toLowercase, if_pos ascii]
    simp [List.count_singleton, uncased.toLower_eq_iff]
  · have other := uncased.ne_of_not_ascii ascii
    have none : x ∉ toLowercase c := by
      rw [toLowercase, if_neg ascii]
      split
      case isTrue =>
        intro isDotted
        simp only [List.mem_cons, List.not_mem_nil, or_false] at isDotted
        rcases isDotted with rfl | rfl <;> exact absurd uncased (by decide)
      case isFalse =>
        rw [List.mem_singleton]
        exact (shifted_ne casedImages_lowerShifts uncased other).symm
    rw [List.count_eq_zero.mpr none, List.count_eq_zero.mpr (by simpa using Ne.symm other)]

/-! ## Conversion of a text -/

theorem count_flatMap_toUppercase (uncased : IsUncased x) (cs : List Char) :
    (cs.flatMap toUppercase).count x = cs.count x := by
  induction cs with
  | nil => rfl
  | cons c cs ih =>
      rw [List.flatMap_cons, List.count_append, count_toUppercase uncased, ih,
        ← List.count_append, List.singleton_append]

theorem count_lowercaseFrom (uncased : IsUncased x) (before cs : List Char) :
    (lowercaseFrom before cs).count x = cs.count x := by
  induction cs generalizing before with
  | nil => rfl
  | cons c cs ih =>
      have own : (if c = 'Σ' then (if meetsCased before && !meetsCased cs then ['ς'] else ['σ'])
          else toLowercase c).count x = [c].count x := by
        split
        case isTrue isSigma =>
          rw [isSigma]
          split <;> simp only [uncased.count_sigma, List.mem_cons, true_or, or_true]
        case isFalse => exact count_toLowercase uncased c
      rw [lowercaseFrom, List.count_append, own, ih, ← List.count_append, List.singleton_append]

theorem count_lowercase (uncased : IsUncased x) (cs : List Char) :
    (lowercase cs).count x = cs.count x :=
  count_lowercaseFrom uncased [] cs

end

end Unicode

/-! ## Spellings -/

namespace Naming.Chars

open Unicode (IsUncased)

variable {x : Char}

theorem count_capitalize (uncased : IsUncased x) (cs : List Char) :
    (capitalize cs).count x = cs.count x := by
  cases cs with
  | nil => rfl
  | cons c rest =>
      have upper := Unicode.count_toUppercase uncased c
      rw [capitalize]
      split
      case h_1 single isUpper =>
        rw [isUpper] at upper
        rw [← List.singleton_append, List.count_append, upper, ← List.count_append,
          List.singleton_append]
      case h_2 => rfl

theorem count_map_toLower (uncased : IsUncased x) (cs : List Char) :
    (cs.map Char.toLower).count x = cs.count x := by
  induction cs with
  | nil => rfl
  | cons c cs ih => simp [List.count_cons, ih, uncased.toLower_eq_iff]

theorem count_capitalizeWord (uncased : IsUncased x) (word : List Char) :
    (capitalizeWord word).count x = word.count x := by
  cases word with
  | nil => rfl
  | cons c cs =>
      simp [capitalizeWord, List.count_cons, count_map_toLower uncased, uncased.toUpper_eq_iff]

theorem count_flatMap_capitalizeWord (uncased : IsUncased x) (words : List (List Char)) :
    (words.flatMap capitalizeWord).count x = words.flatten.count x := by
  induction words with
  | nil => rfl
  | cons word words ih =>
      rw [List.flatMap_cons, List.count_append, count_capitalizeWord uncased, ih,
        ← List.count_append, List.flatten_cons]

/-- What camel case keeps is the text without its underscores. -/
theorem count_upperCamel (uncased : IsUncased x) (cs : List Char) :
    (upperCamel cs).count x = (cs.filter (· ≠ '_')).count x := by
  rw [upperCamel, count_flatMap_capitalizeWord uncased, flatten_split]

theorem count_lowerCamel (uncased : IsUncased x) (cs : List Char) :
    (lowerCamel cs).count x = (cs.filter (· ≠ '_')).count x := by
  rw [← flatten_split, lowerCamel]
  cases split '_' cs with
  | nil => rfl
  | cons word words =>
      rw [List.count_append, count_map_toLower uncased, count_flatMap_capitalizeWord uncased,
        ← List.count_append, List.flatten_cons]

end Naming.Chars

end ProtoCompanion
