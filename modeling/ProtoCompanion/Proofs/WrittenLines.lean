/-
Module: ProtoCompanion.Proofs.WrittenLines
Purpose: Code that is written line by line is read back as the same lines, also inside a class.
Main exports: OneLine, IsLine, unlines, Text.lines_unlines_concat, Outline.nest_unlines,
  Outline.classLines, Outline.classBlock_eq_unlines
-/
import ProtoCompanion.Outline.Java

/-!
A class indents its body line by line.  For this the body is trimmed at its end and cut into lines,
and the lines are joined again without a final line feed.  Nothing is lost on this way as long as
the lines hold no line feed of their own and do not end with blanks.
-/

namespace ProtoCompanion

/-! ## Texts without line feeds -/

theorem not_mem_intercalate {α : Type} {x : α} {separator : List α} {parts : List (List α)}
    (isSeparator : x ∉ separator) (each : ∀ part ∈ parts, x ∉ part) :
    x ∉ List.intercalate separator parts := by
  induction parts with
  | nil => simp
  | cons part rest ih =>
      have own := each part List.mem_cons_self
      have later := ih fun other member => each other (List.mem_cons_of_mem part member)
      cases rest with
      | nil => simpa using own
      | cons next others =>
          rw [List.intercalate_cons_of_ne_nil (List.cons_ne_nil next others)]
          simp [own, isSeparator, later]

/-- A text that does not go over to another line. -/
def OneLine (text : String) : Prop := '\n' ∉ text.toList

instance : DecidablePred OneLine := fun text =>
  inferInstanceAs (Decidable ('\n' ∉ text.toList))

section

variable {text rest : String}

@[simp] theorem oneLine_append_iff : OneLine (text ++ rest) ↔ OneLine text ∧ OneLine rest := by
  rw [OneLine, String.toList_append, List.mem_append, not_or, OneLine, OneLine]

theorem OneLine.intercalate {separator : String} {parts : List String}
    (isSeparator : OneLine separator) (each : ∀ part ∈ parts, OneLine part) :
    OneLine (separator.intercalate parts) := by
  rw [OneLine, String.toList_intercalate]
  apply not_mem_intercalate isSeparator
  rw [List.forall_mem_map]
  exact each

theorem OneLine.quote (oneLine : OneLine text) : OneLine (Text.quote text) := by
  have escaped : OneLine (Text.escapeQuotes text) := by
    rw [OneLine, Text.escapeQuotes, Text.toList_onChars, escapeQuotes, List.mem_flatMap]
    rintro ⟨c, member, isEscaped⟩
    split at isEscaped
    · simp at isEscaped
    · rw [List.mem_singleton] at isEscaped
      exact oneLine (isEscaped ▸ member)
  have delimiter : OneLine "\"" := by decide
  rw [Text.quote]
  simp [escaped, delimiter]

end

/-! ## Lines -/

/-- A line that is written as it is: nothing in it would be cut or trimmed off. -/
structure IsLine (line : String) : Prop where
  oneLine : OneLine line
  last : ∀ c ∈ line.toList.getLast?, isBlank c = false

-- The quantifier is over an option.  Another instance would try all characters.
instance : DecidablePred IsLine := fun line =>
  letI : Decidable (∀ c ∈ line.toList.getLast?, isBlank c = false) := Option.decidableForallMem _
  decidable_of_iff (OneLine line ∧ ∀ c ∈ line.toList.getLast?, isBlank c = false)
    ⟨fun ⟨oneLine, last⟩ => ⟨oneLine, last⟩, fun ⟨oneLine, last⟩ => ⟨oneLine, last⟩⟩

theorem isLine_empty : IsLine "" := by decide

/-- What comes first on a line may be any text on one line. -/
theorem IsLine.append {text ending : String} (oneLine : OneLine text) (isLine : IsLine ending)
    (nonempty : ending ≠ "") : IsLine (text ++ ending) := by
  refine ⟨oneLine_append_iff.mpr ⟨oneLine, isLine.oneLine⟩, ?_⟩
  have some : ending.toList.getLast?.isSome := by
    simpa [List.getLast?_isSome] using nonempty
  rw [String.toList_append, List.getLast?_append, Option.or_of_isSome some]
  exact isLine.last

/-- The text of some lines, each ended by a line feed. -/
def unlines (lines : List String) : String := String.join (lines.map (· ++ "\n"))

section

variable (line last : String) (lines others : List String)

@[simp] theorem unlines_nil : unlines [] = "" := rfl

@[simp] theorem unlines_cons : unlines (line :: lines) = line ++ ("\n" ++ unlines lines) := by
  rw [unlines, List.map_cons, String.join_cons, String.append_assoc, unlines]

theorem unlines_append : unlines (lines ++ others) = unlines lines ++ unlines others := by
  rw [unlines, List.map_append, String.join_append, unlines, unlines]

theorem intercalate_lineFeed : "\n".intercalate (lines ++ [last]) = unlines lines ++ last := by
  induction lines with
  | nil => simp
  | cons line rest ih =>
      rw [List.cons_append, String.intercalate_cons_of_ne_nil (by simp), ih, unlines_cons]
      simp only [String.append_assoc]

end

/-! ## Reading lines -/

theorem lines_append_cons {line : List Char} (oneLine : '\n' ∉ line) (rest : List Char) :
    lines (line ++ '\n' :: rest) = dropReturn line :: lines rest := by
  rw [lines, split_append_cons, split_of_not_mem oneLine, List.singleton_append,
    lines]
  cases pieces : split '\n' rest with
  | nil => exact absurd pieces (split_ne_nil rest)
  | cons piece others => rw [linesOfPieces]

section

variable {line last : String} {lines : List String}

theorem IsLine.not_returned (isLine : IsLine line) : line.toList.getLast? ≠ some '\r' := by
  intro isReturn
  exact absurd (isLine.last _ isReturn) (by decide)

theorem Text.lines_cons (oneLine : OneLine line) (notReturned : line.toList.getLast? ≠ some '\r')
    (rest : String) : Text.lines (line ++ ("\n" ++ rest)) = line :: Text.lines rest := by
  have chars : (line ++ ("\n" ++ rest)).toList = line.toList ++ '\n' :: rest.toList := by simp
  rw [Text.lines, chars, lines_append_cons oneLine, dropReturn, if_neg notReturned, List.map_cons,
    String.ofList_toList, Text.lines]

theorem Text.lines_of_oneLine (oneLine : OneLine last) (nonempty : last ≠ "") :
    Text.lines last = [last] := by
  have some : last.toList ≠ [] := by simpa using nonempty
  rw [Text.lines, ProtoCompanion.lines, split_of_not_mem oneLine, linesOfPieces, if_neg some,
    List.map_singleton, String.ofList_toList]

theorem Text.lines_unlines_append (each : ∀ line ∈ lines, IsLine line) (rest : String) :
    Text.lines (unlines lines ++ rest) = lines ++ Text.lines rest := by
  induction lines with
  | nil => rw [unlines_nil, String.empty_append, List.nil_append]
  | cons line others ih =>
      have own := each line List.mem_cons_self
      rw [unlines_cons, String.append_assoc, String.append_assoc,
        Text.lines_cons own.oneLine own.not_returned,
        ih fun other member => each other (List.mem_cons_of_mem line member), List.cons_append]

/-- Lines that were written are read back.  The last of them need not be ended. -/
theorem Text.lines_unlines_concat (each : ∀ line ∈ lines, IsLine line) (oneLine : OneLine last)
    (nonempty : last ≠ "") : Text.lines (unlines lines ++ last) = lines ++ [last] := by
  rw [Text.lines_unlines_append each, Text.lines_of_oneLine oneLine nonempty]

/-- A text is read back as the lines that it consists of when its last line is ended too. -/
theorem Text.lines_of_append_lineFeed {text : String} (each : ∀ line ∈ lines, IsLine line)
    (nonempty : ∀ line ∈ lines.getLast?, line ≠ "") (isText : text ++ "\n" = unlines lines) :
    Text.lines text = lines := by
  cases isLast : lines.getLast? with
  | none =>
      rw [List.getLast?_eq_none_iff.mp isLast] at isText
      simp at isText
  | some last =>
      obtain ⟨front, rfl⟩ := List.getLast?_eq_some_iff.mp isLast
      rw [unlines_append, unlines_cons, unlines_nil, String.append_empty, ← String.append_assoc,
        String.append_left_inj] at isText
      obtain ⟨before, own⟩ := List.forall_mem_append.mp each
      have ending := (own last List.mem_cons_self).oneLine
      rw [isText, Text.lines_unlines_concat before ending (nonempty last isLast)]

/-- Trimming takes away no more than the final line feed. -/
theorem Text.trimEnd_unlines (isLine : IsLine last) (nonempty : last ≠ "") :
    Text.trimEnd (unlines (lines ++ [last])) = unlines lines ++ last := by
  have ended : (unlines (lines ++ [last])).toList = (unlines lines ++ last).toList ++ ['\n'] := by
    simp [unlines_append]
  have dropped : ∀ c ∈ ['\n'], isBlank c = true := List.forall_mem_singleton.mpr (by decide)
  have some : last.toList.getLast?.isSome := by
    simpa [List.getLast?_isSome] using nonempty
  have kept : ∀ c ∈ (unlines lines ++ last).toList.getLast?, isBlank c = false := by
    rw [String.toList_append, List.getLast?_append, Option.or_of_isSome some]
    exact isLine.last
  rw [Text.trimEnd, Text.onChars, ended, stripEnd_append_of_all dropped, stripEnd_eq_self kept,
    String.ofList_toList]

end

/-! ## Indentation -/

theorem indentLine_empty : indentLine "" = "" := rfl

theorem IsLine.not_isBlankText {line : String} (isLine : IsLine line) (nonempty : line ≠ "") :
    Text.isBlankText line = false := by
  have some : line.toList ≠ [] := by simpa using nonempty
  rw [Text.isBlankText, List.all_eq_false]
  refine ⟨line.toList.getLast some, List.getLast_mem some, ?_⟩
  rw [isLine.last _ (List.getLast_mem_getLast? some)]
  decide

theorem IsLine.indentLine_eq {line : String} (isLine : IsLine line) (nonempty : line ≠ "") :
    indentLine line = "    " ++ line := by
  rw [indentLine, if_neg (by simp [isLine.not_isBlankText nonempty])]

theorem IsLine.indentLine {line : String} (isLine : IsLine line) : IsLine (indentLine line) := by
  by_cases empty : line = ""
  · rw [empty, indentLine_empty]
    exact isLine_empty
  · rw [isLine.indentLine_eq empty]
    exact .append (by decide) isLine empty

namespace Outline

variable {last : String} {lines : List String}

/-- What is nested is indented line by line. -/
theorem nest_unlines (each : ∀ line ∈ lines, IsLine line) (oneLine : OneLine last)
    (nonempty : last ≠ "") :
    nest (unlines lines ++ last) = unlines (lines.map indentLine) ++ indentLine last := by
  rw [nest, Text.lines_unlines_concat each oneLine nonempty, List.map_append, List.map_singleton,
    intercalate_lineFeed]

/-- The lines of a class with the lines of its body. -/
def classLines (declaration name : String) (body : List String) : List String :=
  [declaration ++ " " ++ name ++ " \x7b", "    private " ++ name ++ "() \x7b\x7d", ""] ++
    body.map indentLine ++ ["\x7d"]

theorem isLine_classLines {declaration name : String} {body : List String}
    (isDeclaration : OneLine declaration) (isName : OneLine name)
    (each : ∀ line ∈ body, IsLine line) :
    ∀ line ∈ classLines declaration name body, IsLine line := by
  have space : OneLine " " := by decide
  have modifier : OneLine "    private " := by decide
  have opening : IsLine (declaration ++ " " ++ name ++ " \x7b") :=
    .append (by simp [isDeclaration, space, isName]) (by decide) (by decide)
  have created : IsLine ("    private " ++ name ++ "() \x7b\x7d") :=
    .append (by simp [modifier, isName]) (by decide) (by decide)
  have nested : ∀ line ∈ body.map indentLine, IsLine line :=
    List.forall_mem_map.mpr fun line member => (each line member).indentLine
  have closing : IsLine "\x7d" := by decide
  simp only [classLines, List.forall_mem_append, List.forall_mem_cons]
  exact ⟨⟨⟨opening, created, isLine_empty, List.forall_mem_nil _⟩, nested⟩, closing,
    List.forall_mem_nil _⟩

/-- A class is written line by line if its body is. -/
theorem classBlock_eq_unlines (declaration name : String) {body : List String} {last : String}
    (each : ∀ line ∈ body, IsLine line) (isLast : body.getLast? = some last)
    (nonempty : last ≠ "") :
    classBlock declaration name (unlines body) ++ "\n" =
      unlines (classLines declaration name body) := by
  obtain ⟨lines, rfl⟩ := List.getLast?_eq_some_iff.mp isLast
  have isLine := each last (by simp)
  have before : ∀ line ∈ lines, IsLine line := fun line member => each line (by simp [member])
  have opening : " \x7b\n    private " = " \x7b" ++ "\n" ++ "    private " := rfl
  have created : "() \x7b\x7d\n\n" = "() \x7b\x7d" ++ "\n" ++ "\n" := rfl
  have closing : "\n\x7d" = "\n" ++ "\x7d" := rfl
  rw [classBlock, Text.trimEnd_unlines isLine nonempty,
    nest_unlines before isLine.oneLine nonempty, opening, created, closing, classLines]
  simp only [List.map_append, List.map_singleton, unlines_append, unlines_cons, unlines_nil,
    String.append_assoc, String.append_empty, String.empty_append]

end Outline

end ProtoCompanion
