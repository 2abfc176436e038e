/-
Module: ProtoCompanion.Proofs.SharedPackage
Purpose: The package shared by some files is the longest text that all of their packages begin with,
  as long as no package has two dots in a row.
Main exports: sharedBytes, exists_boundary_of_sharedBytes, SingleDots, LongestInitial,
  namedPackages, exists_longestInitial, sharedPackage?_eq_of_mem_iff,
  shared_package_is_longest_initial
-/
import Mathlib.Data.List.Induction
import ProtoCompanion.Generation.Request

/-!
The shared package is narrowed file by file, and a final dot is dropped each time.  This comes to
the same as dropping one dot in the end: a dot that is missing early would not have been shared, or
it would have been dropped later.  With two dots in a row this fails: of the two only one is
dropped, and what is dropped first depends on the order.
-/

namespace ProtoCompanion

/-! ## Common initial parts -/

section

variable {α : Type} [DecidableEq α]

@[simp] theorem commonInitial_nil_left (ys : List α) : commonInitial [] ys = [] := by
  cases ys <;> rfl

@[simp] theorem commonInitial_nil_right (xs : List α) : commonInitial xs [] = [] := by
  cases xs <;> rfl

/-- What two lists both begin with is what their common part begins with. -/
theorem isPrefix_commonInitial_iff {part xs ys : List α} :
    part <+: commonInitial xs ys ↔ part <+: xs ∧ part <+: ys := by
  induction xs generalizing part ys with
  | nil =>
      rw [commonInitial_nil_left, List.prefix_nil]
      exact ⟨fun isNil => by simp [isNil], And.left⟩
  | cons x xs ih =>
      cases ys with
      | nil =>
          rw [commonInitial_nil_right, List.prefix_nil]
          exact ⟨fun isNil => by simp [isNil], And.right⟩
      | cons y ys =>
          cases part with
          | nil => simp
          | cons first rest =>
              by_cases same : x = y
              · subst same
                simp only [commonInitial, if_true, List.cons_prefix_cons, ih]
                exact and_and_left
              · have apart : ¬ (first = x ∧ first = y) := fun both => same (both.1 ▸ both.2)
                simp only [commonInitial, if_neg same, List.prefix_nil, List.cons_prefix_cons]
                grind

theorem commonInitial_isPrefix (xs ys : List α) :
    commonInitial xs ys <+: xs ∧ commonInitial xs ys <+: ys :=
  isPrefix_commonInitial_iff.mp (List.prefix_refl _)

/-- One more element at the end of a list is in the common part only if all of the list is. -/
theorem commonInitial_concat (xs : List α) (x : α) (ys : List α) :
    commonInitial (xs ++ [x]) ys = commonInitial xs ys ∨
      commonInitial (xs ++ [x]) ys = xs ++ [x] ∧ commonInitial xs ys = xs := by
  induction xs generalizing ys with
  | nil =>
      cases ys with
      | nil => simp
      | cons y ys => by_cases same : x = y <;> simp [commonInitial, same]
  | cons first rest ih =>
      cases ys with
      | nil => simp
      | cons y ys =>
          by_cases same : first = y
          · subst same
            simpa [commonInitial] using ih ys
          · simp [commonInitial, same]

end

/-! ## Shared bytes

Texts are stored as bytes, and what two of them have in common is cut off the first one at a number
of bytes.  The cut is never inside a character.
-/

/-- The characters of a text, each with the number of bytes that stand before it. -/
def charOffsets (start : Nat) : List Char → List (Nat × Char)
  | [] => []
  | c :: cs => (start, c) :: charOffsets (start + c.utf8Size) cs

/-- The number of bytes in front of the first character in which a text differs from another one.
Where there is none, one of the two begins with the other, and all bytes of that one are shared. -/
def sharedBytes (text other : String) : Nat :=
  (((charOffsets 0 text.toList).zip other.toList).find? fun pair => pair.1.2 ≠ pair.2).elim
    (min text.utf8ByteSize other.utf8ByteSize) fun pair => pair.1.1

theorem utf8ByteSize_ofList_cons (c : Char) (cs : List Char) :
    (String.ofList (c :: cs)).utf8ByteSize = c.utf8Size + (String.ofList cs).utf8ByteSize := by
  rw [String.ofList_cons, String.utf8ByteSize_append, String.utf8ByteSize_singleton]

theorem elim_find?_charOffsets (start : Nat) (cs others : List Char) :
    (((charOffsets start cs).zip others).find? fun pair => pair.1.2 ≠ pair.2).elim
        (start + min (String.ofList cs).utf8ByteSize (String.ofList others).utf8ByteSize)
        (fun pair => pair.1.1) =
      start + (String.ofList (commonInitial cs others)).utf8ByteSize := by
  induction cs generalizing start others with
  | nil => simp [charOffsets]
  | cons c cs ih =>
      cases others with
      | nil => simp
      | cons other others =>
          rw [charOffsets, List.zip_cons_cons, List.find?_cons]
          by_cases same : c = other
          · subst same
            have rest := ih (start + c.utf8Size) others
            simp only [commonInitial, if_true, utf8ByteSize_ofList_cons, Nat.add_min_add_left]
            simpa [Nat.add_assoc] using rest
          · simp [commonInitial, same]

theorem sharedBytes_eq (text other : String) :
    sharedBytes text other =
      (String.ofList (commonInitial text.toList other.toList)).utf8ByteSize := by
  have sizes := elim_find?_charOffsets 0 text.toList other.toList
  rw [sharedBytes]
  simpa only [String.ofList_toList, Nat.zero_add] using sizes

/-- The shared bytes end where a character does, and the text up to there is the common initial
part. -/
theorem exists_boundary_of_sharedBytes (text other : String) :
    ∃ boundary : text.Pos, boundary.offset.byteIdx = sharedBytes text other ∧
      (text.sliceTo boundary).copy = String.ofList (commonInitial text.toList other.toList) := by
  obtain ⟨⟨rest, whole⟩, -⟩ := commonInitial_isPrefix text.toList other.toList
  have split : text =
      String.ofList (commonInitial text.toList other.toList) ++ String.ofList rest := by
    rw [← String.ofList_append, whole, String.ofList_toList]
  have valid : String.Pos.Raw.IsValid text
      (String.ofList (commonInitial text.toList other.toList)).rawEndPos :=
    String.Pos.Raw.isValid_iff_exists_append.mpr ⟨_, _, split, rfl⟩
  have splits : (String.Pos.mk _ valid).Splits _ _ := ⟨split, rfl⟩
  exact ⟨⟨_, valid⟩, (sharedBytes_eq text other).symm, splits.copy_sliceTo_eq⟩

/-! ## Final dots -/

/-- Text in which no dot follows a dot. -/
def SingleDots (cs : List Char) : Prop := ¬ ['.', '.'] <:+: cs

instance (cs : List Char) : Decidable (SingleDots cs) :=
  inferInstanceAs (Decidable (¬ ['.', '.'] <:+: cs))

theorem SingleDots.of_isPrefix {cs part : List Char} (single : SingleDots cs)
    (isPrefix : part <+: cs) : SingleDots part := by
  intro double
  exact single (double.trans isPrefix.isInfix)

theorem eq_dropFinalDot_iff {cs rest : List Char} :
    rest = dropFinalDot cs ↔ cs = rest ++ ['.'] ∨ cs = rest ∧ cs.getLast? ≠ some '.' := by
  by_cases final : cs.getLast? = some '.'
  · obtain ⟨front, rfl⟩ := List.getLast?_eq_some_iff.mp final
    have dropped : dropFinalDot (front ++ ['.']) = front := by simp [dropFinalDot]
    rw [dropped, List.append_left_inj, eq_comm]
    simp
  · have undotted : cs ≠ rest ++ ['.'] := by
      rintro rfl
      exact final List.getLast?_concat
    rw [dropFinalDot, if_neg final, eq_comm]
    simp [undotted, final]

/-- A final dot that is dropped before a text is narrowed would be dropped after it. -/
theorem dropFinalDot_commonInitial {cs : List Char} (single : SingleDots cs) (package : List Char) :
    dropFinalDot (commonInitial (dropFinalDot cs) package) =
      dropFinalDot (commonInitial cs package) := by
  by_cases final : cs.getLast? = some '.'
  · obtain ⟨front, rfl⟩ := List.getLast?_eq_some_iff.mp final
    -- The only use of the hypothesis: once the dot is dropped, there is no second one to drop.
    have front_single : front.getLast? ≠ some '.' := by
      intro another
      obtain ⟨before, rfl⟩ := List.getLast?_eq_some_iff.mp another
      apply single
      rw [List.append_assoc]
      exact (List.suffix_append before _).isInfix
    have dropped : dropFinalDot (front ++ ['.']) = front := by
      simp [dropFinalDot]
    rw [dropped]
    rcases commonInitial_concat front '.' package with same | ⟨whole, all⟩
    · rw [same]
    · rw [whole, all, dropped, dropFinalDot, if_neg front_single]
  · have kept : dropFinalDot cs = cs := if_neg final
    rw [kept]

/-! ## The longest part shared -/

/-- The longest list that all of some lists begin with. -/
structure LongestInitial {α : Type} (lists : List (List α)) (whole : List α) : Prop where
  initial : ∀ xs ∈ lists, whole <+: xs
  longest : ∀ other : List α, (∀ xs ∈ lists, other <+: xs) → other.length ≤ whole.length

namespace LongestInitial

variable {α : Type} {lists others : List (List α)} {whole : List α}

theorem singleton (xs : List α) : LongestInitial [xs] xs where
  initial := by simp
  longest := fun other begins => (begins xs List.mem_cons_self).length_le

/-- Where there is a list at all, what all of them begin with is a part of the longest. -/
theorem isPrefix (longest : LongestInitial lists whole) (nonempty : lists ≠ []) {other : List α}
    (begins : ∀ xs ∈ lists, other <+: xs) : other <+: whole := by
  obtain ⟨xs, member⟩ := List.exists_mem_of_ne_nil lists nonempty
  exact List.prefix_of_prefix_length_le (begins xs member) (longest.initial xs member)
    (longest.longest other begins)

theorem unique (longest : LongestInitial lists whole) (nonempty : lists ≠ []) {other : List α}
    (longestToo : LongestInitial lists other) : other = whole :=
  (longest.isPrefix nonempty longestToo.initial).eq_of_length_le
    (longestToo.longest whole longest.initial)

/-- Neither the order of the lists matters nor how often each is among them. -/
theorem of_mem_iff (longest : LongestInitial lists whole)
    (same : ∀ xs, xs ∈ others ↔ xs ∈ lists) : LongestInitial others whole where
  initial := fun xs member => longest.initial xs ((same xs).mp member)
  longest := fun other begins =>
    longest.longest other fun xs member => begins xs ((same xs).mpr member)

theorem concat [DecidableEq α] (longest : LongestInitial lists whole) (nonempty : lists ≠ [])
    (xs : List α) : LongestInitial (lists ++ [xs]) (commonInitial whole xs) where
  initial := by
    have common := commonInitial_isPrefix whole xs
    intro ys member
    rcases List.mem_append.mp member with before | isLast
    · exact common.1.trans (longest.initial ys before)
    · rw [List.mem_singleton.mp isLast]
      exact common.2
  longest := by
    intro other begins
    have inWhole : other <+: whole :=
      longest.isPrefix nonempty fun ys member => begins ys (List.mem_append_left [xs] member)
    exact (isPrefix_commonInitial_iff.mpr
      ⟨inWhole, begins xs (List.mem_append_right lists List.mem_cons_self)⟩).length_le

end LongestInitial

/-! ## Narrowing -/

/-- The output packages of the files that name a package. -/
def namedPackages (files : List FileDecl) : List (List Char) :=
  (files.filter FileDecl.namesPackage).map fun file => file.outputPackage.toList

theorem forall_namedPackages {holds : List Char → Prop} {files : List FileDecl}
    (each : ∀ file ∈ files, holds file.outputPackage.toList) :
    ∀ package ∈ namedPackages files, holds package := by
  intro package member
  obtain ⟨file, isFile, rfl⟩ := List.mem_map.mp member
  exact each file (List.mem_filter.mp isFile).1

theorem namedPackages_eq_nil {files : List FileDecl} :
    namedPackages files = [] ↔
      ∀ file ∈ files, file.javaPackage? = none ∧ file.package? = none := by
  simp [namedPackages, FileDecl.namesPackage]

theorem sharedPackage?_eq (files : List FileDecl) :
    sharedPackage? files =
      ((namedPackages files).foldl (fun shared? package => some (narrow shared? package))
        none).map String.ofList := by
  rw [sharedPackage?, namedPackages, List.foldl_map, List.foldl_filter]

/-- The induction takes the last package away.  What was shared before it has lost its final dot by
then, which makes no difference to the text that is shared with the last package. -/
theorem exists_longestInitial {packages : List (List Char)}
    (single : ∀ package ∈ packages, SingleDots package) (nonempty : packages ≠ []) :
    ∃ whole, LongestInitial packages whole ∧
      packages.foldl (fun shared? package => some (narrow shared? package)) none =
        some (dropFinalDot whole) := by
  induction packages using List.reverseRecOn with
  | nil => exact absurd rfl nonempty
  | append_singleton packages last ih =>
      by_cases isFirst : packages = []
      · subst isFirst
        exact ⟨last, .singleton last, rfl⟩
      · obtain ⟨whole, longest, narrowed⟩ :=
          ih (fun package member => single package (List.mem_append_left [last] member)) isFirst
        obtain ⟨package, member⟩ := List.exists_mem_of_ne_nil packages isFirst
        have wholeSingle : SingleDots whole :=
          (single package (List.mem_append_left [last] member)).of_isPrefix
            (longest.initial package member)
        refine ⟨commonInitial whole last, longest.concat isFirst last, ?_⟩
        rw [List.foldl_append, narrowed]
        exact congrArg some (dropFinalDot_commonInitial wholeSingle last)

theorem sharedPackage?_of_named {files : List FileDecl}
    (single : ∀ file ∈ files, SingleDots file.outputPackage.toList)
    (named : namedPackages files ≠ []) :
    ∃ whole, LongestInitial (namedPackages files) whole ∧
      sharedPackage? files = some (String.ofList (dropFinalDot whole)) := by
  obtain ⟨whole, longest, narrowed⟩ := exists_longestInitial (forall_namedPackages single) named
  exact ⟨whole, longest, by rw [sharedPackage?_eq, narrowed, Option.map_some]⟩

theorem sharedPackage?_of_unnamed {files : List FileDecl} (unnamed : namedPackages files = []) :
    sharedPackage? files = none := by
  rw [sharedPackage?_eq, unnamed, List.foldl_nil, Option.map_none]

/-! ## Which files there are -/

/-- The same files share the same package, in whatever order and however often they are given. -/
theorem sharedPackage?_eq_of_mem_iff {files others : List FileDecl}
    (same : ∀ file, file ∈ others ↔ file ∈ files)
    (single : ∀ file ∈ files, SingleDots file.outputPackage.toList) :
    sharedPackage? others = sharedPackage? files := by
  have samePackages : ∀ package,
      package ∈ namedPackages others ↔ package ∈ namedPackages files := by
    simp only [namedPackages, List.mem_map, List.mem_filter, same, implies_true]
  by_cases named : namedPackages files = []
  · have unnamedToo : namedPackages others = [] :=
      List.eq_nil_iff_forall_not_mem.mpr fun package member =>
        List.not_mem_nil (named ▸ (samePackages package).mp member)
    rw [sharedPackage?_of_unnamed named, sharedPackage?_of_unnamed unnamedToo]
  · have namedToo : namedPackages others ≠ [] := by
      obtain ⟨package, member⟩ := List.exists_mem_of_ne_nil _ named
      exact List.ne_nil_of_mem ((samePackages package).mpr member)
    obtain ⟨whole, longest, shared⟩ := sharedPackage?_of_named single named
    obtain ⟨other, longestToo, sharedToo⟩ :=
      sharedPackage?_of_named (fun file member => single file ((same file).mp member)) namedToo
    rw [shared, sharedToo, (longest.of_mem_iff samePackages).unique namedToo longestToo]

/-- Files in another order share the same package. -/
theorem sharedPackage?_perm {files others : List FileDecl} (reordered : files.Perm others)
    (single : ∀ file ∈ files, SingleDots file.outputPackage.toList) :
    sharedPackage? files = sharedPackage? others :=
  (sharedPackage?_eq_of_mem_iff (fun _ => reordered.symm.mem_iff) single).symm

example :
    let first : FileDecl := { package? := some "a.." }
    let second : FileDecl := { package? := some "a..b" }
    sharedPackage? [first, second] = some "a" ∧ sharedPackage? [second, first] = some "a." := by
  decide

/-- No package is shared exactly if no file names one.  Otherwise let no package have two dots in a
row: then the package shared is the longest text that the output packages of all files which name a
package begin with, less one final dot if it ends in a dot.  So it depends on which files there are,
and not on their order or on how often each of them is given. -/
theorem shared_package_is_longest_initial {files : List FileDecl}
    (single : ∀ file ∈ files, SingleDots file.outputPackage.toList) :
    (sharedPackage? files = none ↔
        ∀ file ∈ files, file.javaPackage? = none ∧ file.package? = none) ∧
      (∀ shared, sharedPackage? files = some shared ↔
        namedPackages files ≠ [] ∧
          ∃ whole, LongestInitial (namedPackages files) whole ∧
            (whole = shared.toList ++ ['.'] ∨
              whole = shared.toList ∧ whole.getLast? ≠ some '.')) ∧
      ∀ others, (∀ file, file ∈ others ↔ file ∈ files) →
        sharedPackage? others = sharedPackage? files := by
  refine ⟨?none, ?some, fun others same => sharedPackage?_eq_of_mem_iff same single⟩
  case none =>
    rw [← namedPackages_eq_nil]
    refine ⟨fun isNone => ?_, sharedPackage?_of_unnamed⟩
    by_contra named
    obtain ⟨whole, -, isSome⟩ := sharedPackage?_of_named single named
    rw [isNone] at isSome
    cases isSome
  case some =>
    intro shared
    constructor
    · intro isShared
      have named : namedPackages files ≠ [] := by
        intro unnamed
        rw [sharedPackage?_of_unnamed unnamed] at isShared
        cases isShared
      obtain ⟨whole, longest, isText⟩ := sharedPackage?_of_named single named
      rw [isText] at isShared
      refine ⟨named, whole, longest, eq_dropFinalDot_iff.mp ?_⟩
      rw [← Option.some.inj isShared, String.toList_ofList]
    · rintro ⟨named, whole, longest, dropped⟩
      obtain ⟨other, longestToo, isText⟩ := sharedPackage?_of_named single named
      rw [isText, longest.unique named longestToo, ← eq_dropFinalDot_iff.mpr dropped,
        String.ofList_toList]

/-- Two packages that differ in an accented letter share what stands before it, without the dot;
so they do when the file without a package comes twice and the order is reversed. -/
theorem shared_package_of_accented_names :
    let files : List FileDecl := [
      { package? := some "com.école.a." }, { name? := some "bare.proto" },
      { package? := some "com.ècole", options? := some {} }]
    let others : List FileDecl := [files[2], files[1], files[0], files[1]]
    (∀ file ∈ files, SingleDots file.outputPackage.toList) ∧
      LongestInitial (namedPackages files) "com.".toList ∧
      sharedPackage? files = some "com" ∧ sharedPackage? others = some "com" := by
  intro files others
  have single : ∀ file ∈ files, SingleDots file.outputPackage.toList := by
    decide +kernel
  have shared : sharedPackage? files = some "com" := by decide +kernel
  obtain ⟨-, isShared, same⟩ := shared_package_is_longest_initial single
  obtain ⟨-, whole, longest, dropped⟩ := (isShared "com").mp shared
  have dotted : ∀ package ∈ namedPackages files, "com.".toList <+: package := by
    decide +kernel
  have isWhole : whole = "com.".toList := by
    rcases dropped with isDotted | ⟨rfl, -⟩
    · exact isDotted
    · exact absurd (longest.longest "com.".toList dotted) (by decide)
  refine ⟨single, isWhole ▸ longest, shared, ?_⟩
  rw [same others, shared]
  intro file
  simp only [others, files, List.mem_cons, List.not_mem_nil, List.getElem_cons_zero,
    List.getElem_cons_succ]
  tauto

end ProtoCompanion
