/-
Module: ProtoCompanion.Text.Blank
Purpose: Blank characters, and stripping characters from the two ends of a text.
Main exports: isBlank, strip, stripEnd, Text.trim, Text.trimEnd, Text.isBlankText
-/

namespace ProtoCompanion

/-- The characters with the Unicode property `White_Space`.  Zero-width spaces and the byte order
mark do not have it. -/
def isBlank (c : Char) : Bool :=
  let code := c.toNat
  (0x9 ≤ code && code ≤ 0xD) || code == 0x20 || code == 0x85 || code == 0xA0 || code == 0x1680 ||
    (0x2000 ≤ code && code ≤ 0x200A) || code == 0x2028 || code == 0x2029 || code == 0x202F ||
    code == 0x205F || code == 0x3000

/-- Drop the longest final part whose elements all satisfy `drop`. -/
def stripEnd {α : Type} (drop : α → Bool) (xs : List α) : List α :=
  (xs.reverse.dropWhile drop).reverse

/-- Drop the elements satisfying `drop` from both ends, up to the first that does not. -/
def strip {α : Type} (drop : α → Bool) (xs : List α) : List α :=
  stripEnd drop (xs.dropWhile drop)

section

variable {α : Type} {drop : α → Bool} {xs ys : List α}

theorem stripEnd_append_of_all (dropped : ∀ y ∈ ys, drop y = true) :
    stripEnd drop (xs ++ ys) = stripEnd drop xs := by
  rw [stripEnd, List.reverse_append, List.dropWhile_append_of_pos (by simpa using dropped),
    stripEnd]

theorem stripEnd_eq_self (last : ∀ x ∈ xs.getLast?, drop x = false) : stripEnd drop xs = xs := by
  have back : xs.reverse.dropWhile drop = xs.reverse := by
    cases reversed : xs.reverse with
    | nil => rfl
    | cons x rest =>
        have isLast : xs.getLast? = some x := by
          rw [← List.head?_reverse, reversed]
          rfl
        rw [List.dropWhile_cons_of_neg (by simp [last x isLast])]
  rw [stripEnd, back, List.reverse_reverse]

theorem stripEnd_cons_of_kept {x : α} (kept : drop x = false) :
    stripEnd drop (x :: xs) = x :: stripEnd drop xs := by
  rw [stripEnd, List.reverse_cons, List.dropWhile_append, stripEnd]
  split <;> simp_all

theorem getLast?_stripEnd : ∀ x ∈ (stripEnd drop xs).getLast?, drop x = false := by
  intro x isLast
  rw [stripEnd, List.getLast?_reverse] at isLast
  have kept := List.head?_dropWhile_not drop xs.reverse
  rw [isLast] at kept
  exact kept

theorem head?_strip : ∀ x ∈ (strip drop xs).head?, drop x = false := by
  intro x isFirst
  have kept := List.head?_dropWhile_not drop xs
  rw [strip] at isFirst
  cases rest : xs.dropWhile drop with
  | nil => simp [rest, stripEnd] at isFirst
  | cons y ys =>
      rw [rest] at isFirst kept
      rw [stripEnd_cons_of_kept kept] at isFirst
      rw [← Option.some.inj isFirst]
      exact kept

theorem mem_of_mem_strip {x : α} (member : x ∈ strip drop xs) : x ∈ xs := by
  rw [strip, stripEnd, List.mem_reverse] at member
  have inFront := (List.dropWhile_sublist drop).mem member
  rw [List.mem_reverse] at inFront
  exact (List.dropWhile_sublist drop).mem inFront

theorem strip_of_head (first : ∀ x ∈ xs.head?, drop x = false) :
    strip drop xs = stripEnd drop xs := by
  rw [strip]
  cases xs with
  | nil => rfl
  | cons x rest => rw [List.dropWhile_cons_of_neg (by simp [first x rfl])]

theorem strip_eq_self (first : ∀ x ∈ xs.head?, drop x = false)
    (last : ∀ x ∈ xs.getLast?, drop x = false) : strip drop xs = xs := by
  rw [strip_of_head first, stripEnd_eq_self last]

end

namespace Text

/-- A string operation given on the list of characters. -/
def onChars (f : List Char → List Char) (s : String) : String :=
  String.ofList (f s.toList)

@[simp] theorem toList_onChars (f : List Char → List Char) (s : String) :
    (onChars f s).toList = f s.toList :=
  String.toList_ofList

/-- The text without blanks at either end. -/
def trim : String → String := onChars (strip isBlank)

/-- The text without blanks at its end. -/
def trimEnd : String → String := onChars (stripEnd isBlank)

/-- A text of blanks only, the empty text included. -/
def isBlankText (s : String) : Bool := s.toList.all isBlank

end Text

end ProtoCompanion
