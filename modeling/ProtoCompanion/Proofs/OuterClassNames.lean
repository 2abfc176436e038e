/-
Module: ProtoCompanion.Proofs.OuterClassNames
Purpose: The outer class of a file is made from the file's name without directory and extension.
Main exports: replaceAll_concat, count_replaceAll_lt, Naming.classOfStem,
  derived_class_of_plain_stem_iff
-/
import ProtoCompanion.Proofs.CamelCase

/-!
The extension is taken off a file's name by removing every occurrence of `.proto`.  A text is read
from left to right against that pattern: either an occurrence comes next and is passed over as a
whole, or a character comes next with which no occurrence begins.  The pattern begins with its only
full stop, so the extension itself is always one of the occurrences, whatever the stem ends with.
A stem that has an occurrence in it loses a full stop, and no conversion of case makes up for that.
-/

namespace ProtoCompanion

/-! ## Removed occurrences -/

section

variable {α : Type} [DecidableEq α] {pattern replacement : List α}

/-- Induction along the reading of a text: over an occurrence, or over a character at which no
occurrence begins. -/
@[elab_as_elim]
theorem readingInduction {motive : List α → Prop} (nonempty : pattern ≠ []) (nil : motive [])
    (occurrence : ∀ rest, motive rest → motive (pattern ++ rest))
    (other : ∀ x xs, ¬ pattern <+: x :: xs → motive xs → motive (x :: xs)) :
    ∀ xs, motive xs
  | [] => nil
  | x :: xs => by
      by_cases begins : pattern <+: x :: xs
      case pos =>
        obtain ⟨rest, text⟩ := begins
        have shorter : rest.length < (x :: xs).length := by
          rw [← text, List.length_append]
          have positive := List.length_pos_iff.mpr nonempty
          omega
        rw [← text]
        exact occurrence rest (readingInduction nonempty nil occurrence other rest)
      case neg => exact other x xs begins (readingInduction nonempty nil occurrence other xs)
termination_by xs => xs.length
decreasing_by
  · exact shorter
  · exact Nat.lt_succ_self xs.length

theorem replaceAll_eq_self {xs : List α} (absent : ¬ pattern <:+: xs) :
    replaceAll pattern replacement xs = xs := by
  induction xs with
  | nil => exact replaceAll_nil
  | cons x xs ih =>
      rw [List.infix_cons_iff, not_or] at absent
      rw [replaceAll_cons absent.1, ih absent.2]

omit [DecidableEq α] in
/-- If the pattern's first character occurs in it only once, then no occurrence reaches from the
text before into an occurrence that ends the text. -/
theorem not_prefix_append_of_head_not_mem {head : α} {tail : List α} (fresh : head ∉ tail)
    {x : α} {xs : List α} (other : ¬ head :: tail <+: x :: xs) :
    ¬ head :: tail <+: x :: (xs ++ head :: tail) := by
  intro begins
  rw [← List.cons_append] at begins
  have inside : x :: xs <+: head :: tail :=
    (List.prefix_or_prefix_of_prefix (List.prefix_append (x :: xs) (head :: tail))
      begins).resolve_right other
  obtain ⟨more, whole⟩ := inside
  -- What the text lacks of the pattern is the beginning of the last occurrence.
  rw [← whole] at begins
  have again : more <+: x :: xs ++ more := (List.prefix_append_right_inj (x :: xs)).mp begins
  cases more with
  | nil =>
      rw [← whole, List.append_nil] at other
      exact other List.prefix_rfl
  | cons first others =>
      rw [List.cons_append] at whole again
      obtain ⟨rfl, isTail⟩ := List.cons.inj whole
      have isFirst : first = x := (List.cons_prefix_cons.mp again).1
      rw [← isTail, isFirst] at fresh
      exact fresh List.mem_append_cons_self

/-- An occurrence that ends the text is replaced. -/
theorem replaceAll_concat {head : α} {tail : List α} (fresh : head ∉ tail) (xs : List α) :
    replaceAll (head :: tail) replacement (xs ++ head :: tail) =
      replaceAll (head :: tail) replacement xs ++ replacement := by
  have nonempty : head :: tail ≠ [] := List.cons_ne_nil head tail
  induction xs using readingInduction nonempty with
  | nil =>
      have single : replaceAll (head :: tail) replacement (head :: tail ++ []) =
          replacement ++ replaceAll (head :: tail) replacement [] :=
        replaceAll_append nonempty []
      rwa [List.append_nil, replaceAll_nil, List.append_nil] at single
  | occurrence rest ih =>
      rw [List.append_assoc, replaceAll_append nonempty, replaceAll_append nonempty, ih,
        List.append_assoc]
  | other x xs other ih =>
      rw [List.cons_append, replaceAll_cons (not_prefix_append_of_head_not_mem fresh other),
        replaceAll_cons other, ih, List.cons_append]

theorem count_replaceAll_le (x : α) (xs : List α) :
    (replaceAll pattern [] xs).count x ≤ xs.count x := by
  by_cases nonempty : pattern = []
  case pos =>
    rw [nonempty]
    exact Nat.le_refl _
  case neg =>
    induction xs using readingInduction nonempty with
    | nil => rw [replaceAll_nil]
    | occurrence rest ih =>
        rw [replaceAll_append nonempty, List.nil_append, List.count_append]
        omega
    | other y ys other ih =>
        rw [replaceAll_cons other, List.count_cons, List.count_cons]
        omega

/-- A text with an occurrence in it loses each character of the pattern at least once. -/
theorem count_replaceAll_lt {x : α} (member : x ∈ pattern) {xs : List α}
    (occurs : pattern <:+: xs) : (replaceAll pattern [] xs).count x < xs.count x := by
  have nonempty : pattern ≠ [] := List.ne_nil_of_mem member
  induction xs using readingInduction nonempty with
  | nil => exact absurd (List.infix_nil.mp occurs) nonempty
  | occurrence rest ih =>
      have lost : 0 < pattern.count x := List.count_pos_iff.mpr member
      have others : (replaceAll pattern [] rest).count x ≤ rest.count x :=
        count_replaceAll_le x rest
      rw [replaceAll_append nonempty, List.nil_append, List.count_append]
      omega
  | other y ys other ih =>
      have later : pattern <:+: ys := (List.infix_cons_iff.mp occurs).resolve_left other
      have fewer := ih later
      rw [replaceAll_cons other, List.count_cons, List.count_cons]
      omega

end

/-! ## The class of a stem -/

namespace Naming

namespace Chars

open Unicode (IsUncased)

/-- The class that is named after a stem: capitalized, and in upper camel case if there is an
underscore to remove. -/
def classOfStem (stem : List Char) : List Char :=
  let name := capitalize stem
  if '_' ∈ name then upperCamel (Unicode.lowercase name) else name

theorem outerClassOfFile_eq (path : List Char) :
    outerClassOfFile path = classOfStem (replaceAll ".proto".toList [] (baseName path)) := rfl

theorem underscore_not_mem_classOfStem (stem : List Char) : '_' ∉ classOfStem stem := by
  rw [classOfStem]
  split
  case isTrue => exact underscore_not_mem_upperCamel (Unicode.lowercase (capitalize stem))
  case isFalse plain => exact plain

/-- All separators but the underscore are kept. -/
theorem count_classOfStem {x : Char} (uncased : IsUncased x) (other : x ≠ '_')
    (stem : List Char) : (classOfStem stem).count x = stem.count x := by
  rw [classOfStem]
  split
  case isTrue =>
    rw [count_upperCamel uncased, List.count_filter (by simpa using other),
      Unicode.count_lowercase uncased, count_capitalize uncased]
  case isFalse => exact count_capitalize uncased stem

theorem baseName_append_cons (directory : List Char) {base : List Char} (plain : '/' ∉ base) :
    baseName (directory ++ '/' :: base) = base := by
  rw [baseName, split_append_cons, split_of_not_mem plain, List.getLast?_concat, Option.getD_some]

/-- The directory goes, and so does the extension together with all that looks like it. -/
theorem outerClassOfFile_append (directory : List Char) {stem : List Char} (plain : '/' ∉ stem) :
    outerClassOfFile (directory ++ '/' :: (stem ++ ".proto".toList)) =
      classOfStem (replaceAll ".proto".toList [] stem) := by
  have base : '/' ∉ stem ++ ".proto".toList := by
    rw [List.mem_append, not_or]
    exact ⟨plain, by decide⟩
  have fresh : '.' ∉ "proto".toList := by decide
  have extension : ".proto".toList = '.' :: "proto".toList := by decide
  rw [outerClassOfFile_eq, baseName_append_cons directory base, extension, replaceAll_concat fresh,
    List.append_nil]

theorem classOfStem_replaceAll_eq_iff (stem : List Char) :
    classOfStem (replaceAll ".proto".toList [] stem) = classOfStem stem ↔
      ¬ ".proto".toList <:+: stem := by
  constructor
  case mp =>
    intro same occurs
    have fullStop : IsUncased '.' := by decide
    have lost : (replaceAll ".proto".toList [] stem).count '.' < stem.count '.' :=
      count_replaceAll_lt (by decide) occurs
    have kept := congrArg (·.count '.') same
    simp only [count_classOfStem fullStop (by decide)] at kept
    omega
  case mpr =>
    intro absent
    rw [replaceAll_eq_self absent]

end Chars

/-- The class that is named after a stem. -/
def classOfStem : String → String := Text.onChars Chars.classOfStem

end Naming

open Naming (outerClassOfFile classOfStem)

/-- The class of a file in a directory is that of the file's stem without any `.proto` in it.  It is
that of the stem itself exactly if there is none, and it never has an underscore or a slash. -/
theorem derived_class_of_plain_stem_iff (directory stem : String) (plain : '/' ∉ stem.toList) :
    outerClassOfFile (directory ++ "/" ++ stem ++ ".proto") =
        classOfStem (Text.replaceAll ".proto" "" stem) ∧
      (outerClassOfFile (directory ++ "/" ++ stem ++ ".proto") = classOfStem stem ↔
        ¬ ".proto".toList <:+: stem.toList) ∧
      '_' ∉ (outerClassOfFile (directory ++ "/" ++ stem ++ ".proto")).toList ∧
      '/' ∉ (outerClassOfFile (directory ++ "/" ++ stem ++ ".proto")).toList := by
  have derived : outerClassOfFile (directory ++ "/" ++ stem ++ ".proto") =
      classOfStem (Text.replaceAll ".proto" "" stem) := by
    have path : (directory ++ "/" ++ stem ++ ".proto").toList =
        directory.toList ++ '/' :: (stem.toList ++ ".proto".toList) := by
      simp
    apply String.toList_inj.mp
    simp only [outerClassOfFile, classOfStem, Text.replaceAll, Text.toList_onChars, path,
      Naming.Chars.outerClassOfFile_append directory.toList plain, String.toList_empty]
  have removed : (classOfStem (Text.replaceAll ".proto" "" stem)).toList =
      Naming.Chars.classOfStem (replaceAll ".proto".toList [] stem.toList) := by
    simp only [classOfStem, Text.replaceAll, Text.toList_onChars, String.toList_empty]
  rw [derived]
  refine ⟨rfl, ?exactly, ?underscore, ?slash⟩
  case exactly =>
    rw [← String.toList_inj, removed, classOfStem, Text.toList_onChars]
    exact Naming.Chars.classOfStem_replaceAll_eq_iff stem.toList
  case underscore =>
    rw [removed]
    exact Naming.Chars.underscore_not_mem_classOfStem _
  case slash =>
    rw [removed, ← List.count_eq_zero,
      Naming.Chars.count_classOfStem (by decide) (by decide)]
    exact Nat.le_zero.mp
      ((count_replaceAll_le '/' stem.toList).trans_eq (List.count_eq_zero.mpr plain))

/-- A stem with further full stops, none of them before `proto`. -/
theorem derived_class_of_dotted_stem :
    outerClassOfFile "acme/v1/user.api_v1.proto" = "User.apiV1" := by
  have derived := derived_class_of_plain_stem_iff "acme/v1" "user.api_v1" (by decide)
  have path : "acme/v1" ++ "/" ++ "user.api_v1" ++ ".proto" = "acme/v1/user.api_v1.proto" := by
    decide
  have absent : ¬ ".proto".toList <:+: "user.api_v1".toList := by decide
  rw [path] at derived
  rw [derived.2.1.mpr absent]
  decide +kernel

/-- The stem `user.protobuf` loses what looks like the extension in the middle of it. -/
theorem extension_removed_inside_stem :
    outerClassOfFile "acme/user.protobuf.proto" = "Userbuf" ∧
      classOfStem "user.protobuf" = "User.protobuf" := by
  decide +kernel

end ProtoCompanion
