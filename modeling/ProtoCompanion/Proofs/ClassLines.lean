/-
Module: ProtoCompanion.Proofs.ClassLines
Purpose: The lines of code that open and close classes, and blocks of lines that close what they
  open.
Main exports: Outline.opensClass, Outline.closesClass, Outline.readLine, Outline.classLine,
  Outline.Block, Outline.Block.nested, Outline.Writes, Outline.Writes.classBlock
-/
import Mathlib.Data.List.Basic
import ProtoCompanion.Proofs.WrittenLines

/-!
A reader who looks only at the beginnings of lines can tell where a class is opened and where one is
closed.  The code of a declaration is written into that of the message around it, where it is
indented line by line.  So what such a reader sees of a block of lines is carried along: which
classes are opened, in order, and that each is closed again.
-/

namespace ProtoCompanion

namespace Outline

/-! ## Reading classes off lines -/

/-- How the line begins that opens a class. -/
def classOpening : String := "public static final class "

/-- The number of spaces in front of a line. -/
def indentation (line : String) : Nat := (line.toList.takeWhile (· == ' ')).length

/-- A line without the spaces in front of it. -/
def unindented (line : String) : List Char := line.toList.dropWhile (· == ' ')

/-- After the spaces in front of it, the line begins like one that opens a class. -/
def opensClass (line : String) : Bool := classOpening.toList.isPrefixOf (unindented line)

/-- After the spaces in front of it, the line is a closing brace. -/
def closesClass (line : String) : Bool := unindented line == ['\x7d']

/-- Close the innermost of the classes that are open, if it is indented as given. -/
def closeClass (closing : Nat) : List Nat → Option (List Nat)
  | [] => none
  | innermost :: others => if closing = innermost then some others else none

/-- Read a line, given the indentations of the classes that are open, the innermost first.  What
closes a class has to be indented like the line that opened it. -/
def readLine (opened : List Nat) (line : String) : Option (List Nat) :=
  if opensClass line then some (indentation line :: opened)
  else if closesClass line then closeClass (indentation line) opened
  else some opened

/-- The line that opens a class with a name at a level. -/
def classLine : Nat × String → String
  | (level, name) =>
      String.ofList (List.replicate (4 * level) ' ') ++ (classOpening ++ (name ++ " \x7b"))

/-! ### Indented lines -/

section

variable (line : String)

theorem indentation_append : indentation ("    " ++ line) = 4 + indentation line := by
  have spaces : ("    " ++ line).toList = ' ' :: ' ' :: ' ' :: ' ' :: line.toList := by simp
  rw [indentation, spaces, indentation]
  simp only [beq_self_eq_true, List.takeWhile_cons_of_pos, List.length_cons]
  omega

theorem unindented_append : unindented ("    " ++ line) = unindented line := by
  have spaces : ("    " ++ line).toList = ' ' :: ' ' :: ' ' :: ' ' :: line.toList := by simp
  rw [unindented, spaces, unindented]
  simp only [beq_self_eq_true, List.dropWhile_cons_of_pos]

theorem opensClass_append : opensClass ("    " ++ line) = opensClass line := by
  rw [opensClass, unindented_append, opensClass]

theorem closesClass_append : closesClass ("    " ++ line) = closesClass line := by
  rw [closesClass, unindented_append, closesClass]

end

theorem opensClass_indentLine {line : String} (isLine : IsLine line) :
    opensClass (indentLine line) = opensClass line := by
  by_cases empty : line = ""
  · rw [empty, indentLine_empty]
  · rw [isLine.indentLine_eq empty, opensClass_append]

theorem closeClass_map (closing : Nat) (opened : List Nat) :
    closeClass (4 + closing) (opened.map (4 + ·)) =
      (closeClass closing opened).map (List.map (4 + ·)) := by
  cases opened with
  | nil => rfl
  | cons innermost others =>
      simp only [List.map_cons, closeClass, Nat.add_left_cancel_iff]
      split <;> rfl

/-- What is open is indented like the lines that are read. -/
theorem readLine_indentLine {line : String} (isLine : IsLine line) (opened : List Nat) :
    readLine (opened.map (4 + ·)) (indentLine line) =
      (readLine opened line).map (List.map (4 + ·)) := by
  by_cases empty : line = ""
  · rw [empty, indentLine_empty]
    rfl
  · rw [isLine.indentLine_eq empty, readLine, readLine, opensClass_append, closesClass_append,
      indentation_append, closeClass_map]
    split
    · rfl
    · split <;> rfl

theorem readLines_indentLine {lines : List String} (each : ∀ line ∈ lines, IsLine line)
    (opened : List Nat) :
    (lines.map indentLine).foldlM readLine (opened.map (4 + ·)) =
      (lines.foldlM readLine opened).map (List.map (4 + ·)) := by
  induction lines generalizing opened with
  | nil => rfl
  | cons line rest ih =>
      rw [List.map_cons, List.foldlM_cons, List.foldlM_cons,
        readLine_indentLine (each line List.mem_cons_self)]
      cases readLine opened line with
      | none => rfl
      | some left =>
          exact ih (fun other member => each other (List.mem_cons_of_mem line member)) left

theorem closeClass_append {closing : Nat} {opened left : List Nat}
    (closes : closeClass closing opened = some left) (around : List Nat) :
    closeClass closing (opened ++ around) = some (left ++ around) := by
  cases opened with
  | nil => cases closes
  | cons innermost others =>
      rw [closeClass] at closes
      rw [List.cons_append, closeClass]
      split at closes
      case isTrue same => rw [if_pos same, Option.some.inj closes]
      case isFalse => cases closes

/-- Classes that are open around a line do not matter. -/
theorem readLine_append {opened left : List Nat} {line : String}
    (reads : readLine opened line = some left) (around : List Nat) :
    readLine (opened ++ around) line = some (left ++ around) := by
  rw [readLine] at reads ⊢
  split at reads
  case isTrue opens =>
    rw [if_pos opens, ← Option.some.inj reads]
    rfl
  case isFalse noOpening =>
    rw [if_neg noOpening]
    split at reads
    case isTrue closes =>
      rw [if_pos closes, closeClass_append reads]
    case isFalse noClosing =>
      rw [if_neg noClosing, Option.some.inj reads]

theorem readLines_append {opened left : List Nat} {lines : List String}
    (reads : lines.foldlM readLine opened = some left) (around : List Nat) :
    lines.foldlM readLine (opened ++ around) = some (left ++ around) := by
  induction lines generalizing opened with
  | nil =>
      obtain rfl := Option.some.inj reads
      rfl
  | cons line rest ih =>
      rw [List.foldlM_cons] at reads ⊢
      obtain ⟨middle, first, later⟩ := Option.bind_eq_some_iff.mp reads
      rw [readLine_append first around]
      exact ih later

/-! ### The lines that open and close classes -/

theorem indentLine_classLine (level : Nat) (name : String) :
    indentLine (classLine (level, name)) = classLine (level + 1, name) := by
  have visible : Text.isBlankText (classLine (level, name)) = false := by
    rw [Text.isBlankText, List.all_eq_false]
    exact ⟨'p', by simp [classLine, classOpening], by decide⟩
  have spaces : "    " ++ String.ofList (List.replicate (4 * level) ' ') =
      String.ofList (List.replicate (4 * (level + 1)) ' ') := by
    rw [Nat.mul_succ, Nat.add_comm, List.replicate_add, String.ofList_append]
    rfl
  rw [indentLine, if_neg (by simp [visible]), classLine, classLine, ← String.append_assoc, spaces]

section

variable (name : String)

theorem classLine_zero : classLine (0, name) = classOpening ++ (name ++ " \x7b") :=
  String.empty_append

theorem unindented_classLine_zero :
    unindented (classLine (0, name)) = classOpening.toList ++ (name ++ " \x7b").toList := by
  have start : classOpening.toList = 'p' :: "ublic static final class ".toList := rfl
  rw [classLine_zero, unindented, String.toList_append, start, List.cons_append,
    List.dropWhile_cons_of_neg (by decide)]

theorem opensClass_classLine_zero : opensClass (classLine (0, name)) = true := by
  rw [opensClass, unindented_classLine_zero, List.isPrefixOf_iff_prefix]
  exact List.prefix_append _ _

theorem readLine_classLine_zero (opened : List Nat) :
    readLine opened (classLine (0, name)) = some (0 :: opened) := by
  have start : classOpening.toList = 'p' :: "ublic static final class ".toList := rfl
  have unindented : indentation (classLine (0, name)) = 0 := by
    rw [classLine_zero, indentation, String.toList_append, start, List.cons_append,
      List.takeWhile_cons_of_neg (by decide), List.length_nil]
  rw [readLine, if_pos (opensClass_classLine_zero name), unindented]

end

/-- A line that neither opens nor closes a class. -/
structure IsPlain (line : String) : Prop where
  isLine : IsLine line
  noOpening : opensClass line = false
  noClosing : closesClass line = false

/-- The first characters decide: neither do they go on like the opening of a class, nor is the first
one a space or a closing brace. -/
def Deciding (start : String) : Prop :=
  ¬ start.toList <+: classOpening.toList ∧ ¬ classOpening.toList <+: start.toList ∧
    ∃ c ∈ start.toList.head?, c ≠ ' ' ∧ c ≠ '\x7d'

instance : DecidablePred Deciding := fun start =>
  letI : Decidable (∃ c ∈ start.toList.head?, c ≠ ' ' ∧ c ≠ '\x7d') := Option.decidableExistsMem _
  inferInstanceAs (Decidable (¬ start.toList <+: classOpening.toList ∧
    ¬ classOpening.toList <+: start.toList ∧ ∃ c ∈ start.toList.head?, c ≠ ' ' ∧ c ≠ '\x7d'))

theorem Deciding.unindented_append {start : String} (deciding : Deciding start) (rest : String) :
    unindented (start ++ rest) = start.toList ++ rest.toList := by
  obtain ⟨-, -, c, isFirst, noSpace, -⟩ := deciding
  obtain ⟨more, isStart⟩ := List.head?_eq_some_iff.mp isFirst
  rw [unindented, String.toList_append, isStart, List.cons_append,
    List.dropWhile_cons_of_neg (by simpa using noSpace)]

theorem Deciding.isPlain {start rest : String} (deciding : Deciding start)
    (oneLine : OneLine start) (isLine : IsLine rest) (nonempty : rest ≠ "") :
    IsPlain (start ++ rest) := by
  have whole := deciding.unindented_append rest
  obtain ⟨noStart, noOpening, c, isFirst, -, noBrace⟩ := deciding
  refine ⟨.append oneLine isLine nonempty, ?_, ?_⟩
  · rw [opensClass, whole, Bool.eq_false_iff, Ne, List.isPrefixOf_iff_prefix]
    intro opens
    rcases List.prefix_or_prefix_of_prefix opens (List.prefix_append _ _) with long | short
    · exact noOpening long
    · exact noStart short
  · obtain ⟨more, isStart⟩ := List.head?_eq_some_iff.mp isFirst
    rw [closesClass, whole, isStart, List.cons_append, beq_eq_false_iff_ne]
    intro same
    exact noBrace (List.cons.inj same).1

theorem IsPlain.indented {line : String} (plain : IsPlain line) (nonempty : line ≠ "") :
    IsPlain ("    " ++ line) where
  isLine := .append (by decide) plain.isLine nonempty
  noOpening := (opensClass_append line).trans plain.noOpening
  noClosing := (closesClass_append line).trans plain.noClosing

theorem IsPlain.readLine_eq {line : String} (plain : IsPlain line) (opened : List Nat) :
    readLine opened line = some opened := by
  rw [readLine, plain.noOpening, plain.noClosing]
  rfl

/-! ## Blocks of lines -/

/-- Lines in which certain classes are opened, in this order, and each is closed again.  The last
line is not empty. -/
structure Block (lines : List String) (classes : List (Nat × String)) : Prop where
  isLine : ∀ line ∈ lines, IsLine line
  last : ∀ line ∈ lines.getLast?, line ≠ ""
  opened : lines.filter opensClass = classes.map classLine
  closed : lines.foldlM readLine [] = some []

/-- A class one level further inside. -/
def deeper : Nat × String → Nat × String
  | (level, name) => (level + 1, name)

theorem indentLine_comp_classLine : indentLine ∘ classLine = classLine ∘ deeper :=
  funext fun (level, name) => indentLine_classLine level name

namespace Block

variable {lines others : List String} {classes more : List (Nat × String)}

theorem nil : Block [] [] := ⟨by simp, by simp, rfl, rfl⟩

theorem append (first : Block lines classes) (second : Block others more) :
    Block (lines ++ others) (classes ++ more) where
  isLine := List.forall_mem_append.mpr ⟨first.isLine, second.isLine⟩
  last := by
    rw [List.getLast?_append]
    intro line isLast
    rcases Option.or_eq_some_iff.mp isLast with isLater | ⟨-, isEarlier⟩
    · exact second.last line isLater
    · exact first.last line isEarlier
  opened := by rw [List.filter_append, first.opened, second.opened, List.map_append]
  closed := by
    rw [List.foldlM_append, first.closed]
    exact second.closed

theorem plain {line : String} (plain : IsPlain line) (nonempty : line ≠ "") : Block [line] [] where
  isLine := List.forall_mem_singleton.mpr plain.isLine
  last := by
    rintro other ⟨⟩
    exact nonempty
  opened := by
    rw [List.filter_cons, plain.noOpening]
    rfl
  closed := by
    rw [List.foldlM_cons, plain.readLine_eq]
    rfl

theorem afterEmptyLine (block : Block lines classes) (nonempty : lines ≠ []) :
    Block ("" :: lines) classes where
  isLine := List.forall_mem_cons.mpr ⟨isLine_empty, block.isLine⟩
  last := by
    rw [List.getLast?_cons_of_ne_nil nonempty]
    exact block.last
  opened := block.opened
  closed := block.closed

/-- What is opened in a body is opened one level further inside the class. -/
theorem opened_indented (block : Block lines classes) :
    (lines.map indentLine).filter opensClass = (classes.map deeper).map classLine := by
  have sameLines : lines.filter (opensClass ∘ indentLine) = lines.filter opensClass :=
    List.filter_congr fun line member => opensClass_indentLine (block.isLine line member)
  rw [List.filter_map, sameLines, block.opened, List.map_map, indentLine_comp_classLine,
    List.map_map]

/-- A body is read with its class open around it. -/
theorem closed_indented (block : Block lines classes) (opened : List Nat) :
    (lines.map indentLine).foldlM readLine opened = some opened := by
  have inside := readLines_indentLine block.isLine []
  rw [block.closed] at inside
  exact readLines_append inside opened

/-- The lines of a class whose body is a block. -/
theorem nested (block : Block lines classes) {name : String} (oneLine : OneLine name) :
    Block (classLines "public static final class" name lines)
      ((0, name) :: classes.map deeper) := by
  have opening : "public static final class" ++ " " ++ name ++ " \x7b" = classLine (0, name) := by
    rw [classLine_zero, String.append_assoc]
    rfl
  have created : IsPlain ("    private " ++ name ++ "() \x7b\x7d") := by
    have deciding : Deciding "private " := by decide
    have ending : IsLine (name ++ "() \x7b\x7d") := .append oneLine (by decide) (by decide)
    have indented := (deciding.isPlain (by decide) ending (by simp)).indented (by simp)
    rwa [← String.append_assoc, ← String.append_assoc] at indented
  rw [classLines, opening]
  constructor
  case isLine =>
    rw [← opening]
    exact isLine_classLines (by decide) oneLine block.isLine
  case last =>
    rw [List.getLast?_concat]
    rintro line ⟨⟩
    decide
  case opened =>
    have closing : ["\x7d"].filter opensClass = [] := by decide
    rw [List.filter_append, List.filter_append, block.opened_indented, closing, List.filter_cons,
      if_pos (opensClass_classLine_zero name), List.filter_cons, created.noOpening, List.append_nil]
    rfl
  case closed =>
    have closing : ["\x7d"].foldlM readLine [0] = some [] := by decide
    rw [List.foldlM_append, List.foldlM_append, List.foldlM_cons, readLine_classLine_zero,
      Option.bind_eq_bind, Option.bind_some, List.foldlM_cons, created.readLine_eq]
    change (List.foldlM readLine [0] (lines.map indentLine) >>= fun left =>
      ["\x7d"].foldlM readLine left) = some []
    rw [block.closed_indented]
    exact closing

end Block

/-! ## Code that is written as a block -/

/-- A text consists of the lines of a block, each ended by a line feed. -/
def Writes (text : String) (classes : List (Nat × String)) : Prop :=
  ∃ lines, text = unlines lines ∧ Block lines classes

namespace Writes

variable {text rest : String} {classes more : List (Nat × String)}

theorem empty : Writes "" [] := ⟨[], rfl, .nil⟩

theorem append (first : Writes text classes) (second : Writes rest more) :
    Writes (text ++ rest) (classes ++ more) := by
  obtain ⟨lines, rfl, block⟩ := first
  obtain ⟨others, rfl, other⟩ := second
  exact ⟨lines ++ others, (unlines_append lines others).symm, block.append other⟩

/-- What is written without a class may stand anywhere. -/
theorem append_plain (first : Writes text classes) (second : Writes rest []) :
    Writes (text ++ rest) classes := by
  rw [← List.append_nil classes]
  exact first.append second

theorem join {parts : List String} (each : ∀ part ∈ parts, Writes part []) :
    Writes (String.join parts) [] := by
  induction parts with
  | nil => exact .empty
  | cons part parts ih =>
      obtain ⟨first, later⟩ := List.forall_mem_cons.mp each
      rw [String.join_cons]
      exact first.append (ih later)

theorem afterEmptyLine (writes : Writes text classes) (nonempty : text ≠ "") :
    Writes ("\n" ++ text) classes := by
  obtain ⟨lines, rfl, block⟩ := writes
  have some : lines ≠ [] := by
    rintro rfl
    exact nonempty rfl
  exact ⟨"" :: lines, (unlines_cons "" lines).symm, block.afterEmptyLine some⟩

/-- A text with a final line feed of its own is read back as the lines of the block. -/
theorem block (writes : Writes (text ++ "\n") classes) : Block (Text.lines text) classes := by
  obtain ⟨lines, isText, block⟩ := writes
  rwa [Text.lines_of_append_lineFeed block.isLine block.last isText]

theorem line {line : String} (plain : IsPlain line) (nonempty : line ≠ "") :
    Writes (line ++ "\n") [] := by
  refine ⟨[line], ?_, .plain plain nonempty⟩
  rw [unlines_cons, unlines_nil, String.append_empty]

/-- A class is opened before those in its body. -/
theorem classBlock {name body : String} (writes : Writes body classes) (nonempty : body ≠ "")
    (oneLine : OneLine name) :
    Writes (Outline.classBlock "public static final class" name body ++ "\n")
      ((0, name) :: classes.map deeper) := by
  obtain ⟨lines, rfl, block⟩ := writes
  refine ⟨_, ?_, block.nested oneLine⟩
  cases isLast : lines.getLast? with
  | none =>
      rw [List.getLast?_eq_none_iff] at isLast
      exact absurd (congrArg unlines isLast) nonempty
  | some last =>
      exact classBlock_eq_unlines _ name block.isLine isLast (block.last last isLast)

end Writes

end Outline

end ProtoCompanion
