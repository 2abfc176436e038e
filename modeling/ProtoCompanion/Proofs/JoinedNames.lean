/-
Module: ProtoCompanion.Proofs.JoinedNames
Purpose: Joining segments by dots, as an operation on names that have no dots at their ends.
Main exports: Naming.IsTrimmed, Naming.keptSegments, Naming.isTrimmed_intercalate,
  Naming.isTrimmed_dotted, Naming.dotted_dotted, Naming.dotted_append
-/
import Mathlib.Data.List.Basic
import ProtoCompanion.Naming.Qualified

/-!
Every segment is trimmed before it is joined, and what is empty then is left out.  So a joined name
has no dots at its ends, and to join it once more does not change it.  Segments can be joined in
groups, since a group of which nothing is left does not leave a dot.
-/

namespace ProtoCompanion.Naming

/-! ## Names without dots at their ends -/

/-- A name with no dot at either end. -/
structure IsTrimmed (name : String) : Prop where
  first : name.toList.head? ≠ some '.'
  last : name.toList.getLast? ≠ some '.'

theorem isTrimmed_trimDots (name : String) : IsTrimmed (trimDots name) := by
  constructor
  · intro isDot
    rw [trimDots, Text.toList_onChars] at isDot
    exact absurd (head?_strip _ isDot) (by decide)
  · intro isDot
    rw [trimDots, Text.toList_onChars] at isDot
    exact absurd (getLast?_stripEnd _ isDot) (by decide)

theorem IsTrimmed.trimDots_eq {name : String} (trimmed : IsTrimmed name) :
    trimDots name = name := by
  have notDot {c : Char} {found : Option Char} (other : found ≠ some '.') (isFound : c ∈ found) :
      (c == '.') = false := by
    rw [beq_eq_false_iff_ne]
    rintro rfl
    exact other isFound
  rw [← String.toList_inj, trimDots, Text.toList_onChars]
  exact strip_eq_self (fun _ => notDot trimmed.first) (fun _ => notDot trimmed.last)

theorem toList_intercalate_cons (separator name : String) (rest : List String) :
    ∃ back, (separator.intercalate (name :: rest)).toList = name.toList ++ back := by
  cases rest with
  | nil => exact ⟨[], by simp⟩
  | cons next rest =>
      rw [String.intercalate_cons_of_ne_nil (List.cons_ne_nil next rest)]
      exact ⟨(separator ++ separator.intercalate (next :: rest)).toList, by simp⟩

theorem toList_intercalate_concat (separator : String) (front : List String) (name : String) :
    ∃ start, (separator.intercalate (front ++ [name])).toList = start ++ name.toList := by
  by_cases none : front = []
  · exact ⟨[], by simp [none]⟩
  · rw [String.intercalate_append_of_ne_nil none (List.cons_ne_nil name [])]
    exact ⟨(separator.intercalate front ++ separator).toList, by simp⟩

/-- The ends of a joined name are ends of its parts. -/
theorem isTrimmed_intercalate {names : List String}
    (each : ∀ name ∈ names, name ≠ "" ∧ IsTrimmed name) : IsTrimmed (".".intercalate names) := by
  have notNil {name : String} (member : name ∈ names) : name.toList ≠ [] := fun isNil =>
    (each name member).1 (String.toList_eq_nil_iff.mp isNil)
  constructor
  · cases names with
    | nil => simp
    | cons name rest =>
        obtain ⟨back, isStart⟩ := toList_intercalate_cons "." name rest
        rw [isStart, List.head?_append_of_ne_nil _ (notNil List.mem_cons_self)]
        exact (each name List.mem_cons_self).2.first
  · rcases names.eq_nil_or_concat' with rfl | ⟨front, name, rfl⟩
    · simp
    · have member : name ∈ front ++ [name] := List.mem_append_right front List.mem_cons_self
      obtain ⟨start, isFinal⟩ := toList_intercalate_concat "." front name
      rw [isFinal, List.getLast?_append_of_ne_nil _ (notNil member)]
      exact (each name member).2.last

/-! ## Segments joined in groups -/

/-- What is joined of some segments. -/
def keptSegments (segments : List String) : List String :=
  (segments.map trimDots).filter (· ≠ "")

theorem dotted_eq (segments : List String) :
    dotted segments = ".".intercalate (keptSegments segments) := rfl

theorem keptSegments_append (segments more : List String) :
    keptSegments (segments ++ more) = keptSegments segments ++ keptSegments more := by
  simp [keptSegments]

theorem of_mem_keptSegments {segments : List String} {segment : String}
    (member : segment ∈ keptSegments segments) : segment ≠ "" ∧ IsTrimmed segment := by
  obtain ⟨isTrimmed, nonempty⟩ := List.mem_filter.mp member
  obtain ⟨whole, -, rfl⟩ := List.mem_map.mp isTrimmed
  exact ⟨of_decide_eq_true nonempty, isTrimmed_trimDots whole⟩

/-- A joined name has no dot at either end. -/
theorem isTrimmed_dotted (segments : List String) : IsTrimmed (dotted segments) :=
  isTrimmed_intercalate fun _ => of_mem_keptSegments

theorem dotted_eq_empty_iff {segments : List String} :
    dotted segments = "" ↔ keptSegments segments = [] := by
  rw [dotted_eq]
  constructor
  · intro isEmpty
    cases kept : keptSegments segments with
    | nil => rfl
    | cons segment rest =>
        have nonempty : segment ≠ "" := (of_mem_keptSegments (kept ▸ List.mem_cons_self)).1
        obtain ⟨back, isStart⟩ := toList_intercalate_cons "." segment rest
        rw [← kept, isEmpty] at isStart
        have isNil := (List.append_eq_nil_iff.mp isStart.symm).1
        exact absurd (String.toList_eq_nil_iff.mp isNil) nonempty
  · intro none
    rw [none, String.intercalate_nil]

/-- A joined name is kept as it is, unless it is empty. -/
theorem keptSegments_dotted (segments : List String) :
    keptSegments [dotted segments] =
      if keptSegments segments = [] then [] else [dotted segments] := by
  rw [keptSegments, List.map_singleton, (isTrimmed_dotted segments).trimDots_eq]
  by_cases none : keptSegments segments = []
  · simp [none, dotted_eq_empty_iff.mpr none]
  · simp [none, mt dotted_eq_empty_iff.mp none]

/-- Joining is idempotent. -/
theorem dotted_dotted (segments : List String) : dotted [dotted segments] = dotted segments := by
  rw [dotted_eq [dotted segments], keptSegments_dotted]
  split
  · next none => rw [dotted_eq_empty_iff.mpr none, String.intercalate_nil]
  · rw [String.intercalate_singleton]

/-- Segments can be joined in two groups, and these joined. -/
theorem dotted_append (segments more : List String) :
    dotted (segments ++ more) = dotted [dotted segments, dotted more] := by
  have groups : keptSegments [dotted segments, dotted more] =
      keptSegments [dotted segments] ++ keptSegments [dotted more] :=
    keptSegments_append [dotted segments] [dotted more]
  rw [dotted_eq (segments ++ more), keptSegments_append, dotted_eq [_, _], groups,
    keptSegments_dotted, keptSegments_dotted]
  by_cases none : keptSegments segments = [] <;> by_cases noMore : keptSegments more = []
  · simp [none, noMore]
  · simp [none, noMore, dotted_eq]
  · simp [none, noMore, dotted_eq]
  · rw [String.intercalate_append_of_ne_nil none noMore]
    simp [none, noMore, dotted_eq]

end ProtoCompanion.Naming
