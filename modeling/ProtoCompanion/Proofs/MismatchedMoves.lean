/-
Module: ProtoCompanion.Proofs.MismatchedMoves
Purpose: What moves of a cursor do when the failures before them are ignored.
Main exports: Cursor.Covers, Cursor.Covers.run, Move.faults, Move.mismatches,
  Session.cursorAfter_covers, Session.map_result_transcript, moves_fail_for_mismatches_only
-/
import ProtoCompanion.Proofs.BracketedMoves

/-!
A move that ends a place of the wrong sort takes the innermost record away and leaves the path and
the names as they are.  From then on these hold more than the places that are still to be left, and
a move may take away a number that another place has added.  They never hold less.  So a move fails
for the record that it finds, and never because the path or the names have run out.
-/

namespace ProtoCompanion

/-! ## Long enough paths and names -/

/-- The record of a list that has added a name. -/
def Scope.isNested : Scope → Bool
  | .list nested => nested
  | .element => false

/-- There is a number in the path for every record, and a name for every record of a nested list. -/
structure Cursor.Covers (cursor : Cursor) : Prop where
  path : cursor.scopes.length ≤ cursor.path.length
  names : cursor.scopes.countP Scope.isNested ≤ cursor.outers.length

namespace Cursor

variable {cursor : Cursor} {scope : Scope} {scopes : List Scope}

theorem covers_empty : Covers {} where
  path := Nat.le_refl 0
  names := Nat.le_refl 0

theorem length_path_enter (cursor : Cursor) (place : Place) :
    (cursor.enter place).path.length = cursor.path.length + 1 := by
  cases place <;> simp [enter, Position.within, Position.inList, Position.element]

theorem length_outers_enter (cursor : Cursor) (place : Place) :
    (cursor.enter place).outers.length =
      cursor.outers.length + if (Scope.ofPlace place).isNested then 1 else 0 := by
  cases place with
  | element index => rfl
  | list kind =>
      cases named : kind.enclosing? <;>
        simp [enter, Position.within, Position.inList, Scope.ofPlace, Scope.isNested, named]

theorem Covers.enter (covers : cursor.Covers) (place : Place) : (cursor.enter place).Covers where
  path := by
    rw [length_path_enter]
    exact Nat.succ_le_succ covers.path
  names := by
    rw [length_outers_enter, Cursor.enter, List.countP_cons]
    exact Nat.add_le_add_right covers.names _

/-- What the innermost record takes away is there, beside what the others will take away. -/
theorem Covers.of_innermost (covers : cursor.Covers) (innermost : cursor.scopes = scope :: scopes) :
    scopes.length + 1 ≤ cursor.path.length ∧
      scopes.countP Scope.isNested + (if scope.isNested then 1 else 0) ≤ cursor.outers.length := by
  obtain ⟨path, names⟩ := covers
  rw [innermost] at path names
  rw [List.countP_cons] at names
  exact ⟨path, names⟩

/-- A failure that takes a record away leaves more than the others need. -/
theorem Covers.discard (covers : cursor.Covers) (innermost : cursor.scopes = scope :: scopes) :
    Covers { cursor with scopes } := by
  obtain ⟨path, names⟩ := covers.of_innermost innermost
  exact ⟨Nat.le_of_succ_le path, Nat.le_trans (Nat.le_add_right _ _) names⟩

theorem Covers.path_ne_nil (covers : cursor.Covers) (innermost : cursor.scopes = scope :: scopes) :
    cursor.path ≠ [] :=
  List.ne_nil_of_length_pos
    (Nat.lt_of_lt_of_le (Nat.succ_pos _) (covers.of_innermost innermost).1)

theorem Covers.outers_ne_nil (covers : cursor.Covers)
    (innermost : cursor.scopes = .list true :: scopes) : cursor.outers ≠ [] :=
  List.ne_nil_of_length_pos
    (Nat.lt_of_lt_of_le (Nat.succ_pos _) (covers.of_innermost innermost).2)

/-- The cursor without its innermost record, and without what that record takes away. -/
def without (cursor : Cursor) (scope : Scope) (scopes : List Scope) : Cursor where
  path := cursor.path.dropLast
  outers := if scope.isNested then cursor.outers.dropLast else cursor.outers
  scopes := scopes

theorem Covers.without (covers : cursor.Covers) (innermost : cursor.scopes = scope :: scopes) :
    (cursor.without scope scopes).Covers := by
  obtain ⟨path, names⟩ := covers.of_innermost innermost
  constructor
  · rw [Cursor.without, List.length_dropLast]
    exact Nat.le_sub_one_of_lt path
  · rw [Cursor.without]
    cases nested : scope.isNested with
    | false => simpa [nested] using names
    | true =>
        rw [nested, if_pos rfl] at names
        rw [if_pos rfl, List.length_dropLast]
        exact Nat.le_sub_one_of_lt names

theorem Covers.leaveElement_eq (covers : cursor.Covers)
    (innermost : cursor.scopes = .element :: scopes) :
    cursor.leaveElement = (.ok (), cursor.without .element scopes) := by
  have numbered := covers.path_ne_nil innermost
  simp [leaveElement, innermost, popPath, numbered, Cursor.without, Scope.isNested]

theorem Covers.leaveList_eq {nested : Bool} (covers : cursor.Covers)
    (innermost : cursor.scopes = .list nested :: scopes) :
    cursor.leaveList = (.ok (), cursor.without (.list nested) scopes) := by
  have numbered := covers.path_ne_nil innermost
  cases nested with
  | false => simp [leaveList, innermost, popPath, numbered, Cursor.without, Scope.isNested]
  | true =>
      have named := covers.outers_ne_nil innermost
      simp [leaveList, innermost, popPath, numbered, named, Cursor.without, Scope.isNested]

end Cursor

/-! ## What a move answers -/

namespace Move

/-- What is wrong with a move when these records are kept, the innermost first. -/
def mismatch? : Move → List Scope → Option TraversalFault
  | .enter _, _ => none
  | .leaveList, [] => some .listEndWithoutStart
  | .leaveList, .element :: _ => some .listEndInElement
  | .leaveList, .list _ :: _ => none
  | .leaveElement, [] => some .elementEndWithoutStart
  | .leaveElement, .list _ :: _ => some .elementEndInList
  | .leaveElement, .element :: _ => none

/-- The records after a move, whether or not it fails. -/
def scopesAfter : Move → List Scope → List Scope
  | .enter place, scopes => .ofPlace place :: scopes
  | .leaveList, scopes => scopes.tail
  | .leaveElement, scopes => scopes.tail

/-- The records after some moves, when the failures among them are ignored. -/
def scopesAfterAll (scopes : List Scope) (moves : List Move) : List Scope :=
  moves.foldl (fun scopes move => move.scopesAfter scopes) scopes

/-- What is wrong with each of some moves, when the failures among them are ignored. -/
def faults : List Scope → List Move → List (Option TraversalFault)
  | _, [] => []
  | scopes, move :: moves => move.mismatch? scopes :: faults (move.scopesAfter scopes) moves

/-- The faults of moves that do not match what they find. -/
def mismatches : List TraversalFault :=
  [.listEndInElement, .listEndWithoutStart, .elementEndInList, .elementEndWithoutStart]

theorem mem_mismatches {move : Move} {scopes : List Scope} {fault : TraversalFault}
    (isWrong : move.mismatch? scopes = some fault) : fault ∈ mismatches := by
  unfold mismatch? at isWrong
  split at isWrong <;> cases isWrong <;> decide

theorem mem_mismatches_of_mem_faults {scopes : List Scope} {moves : List Move}
    {fault : TraversalFault} (member : some fault ∈ faults scopes moves) : fault ∈ mismatches := by
  induction moves generalizing scopes with
  | nil => cases member
  | cons move moves ih =>
      rcases List.mem_cons.mp member with first | later
      · exact mem_mismatches first.symm
      · exact ih later

/-- The result of a move with which this is wrong. -/
def answer : Option TraversalFault → Except Error Unit
  | none => .ok ()
  | some fault => .error (.traversal fault)

end Move

/-- The records alone decide what a move answers and which records it leaves, as long as they are
covered; and they still are after it. -/
theorem Cursor.Covers.run {cursor : Cursor} (covers : cursor.Covers) (move : Move) :
    ∃ next, move.run cursor = (Move.answer (move.mismatch? cursor.scopes), next) ∧
      next.scopes = move.scopesAfter cursor.scopes ∧ next.Covers := by
  cases move with
  | enter place => exact ⟨_, rfl, rfl, covers.enter place⟩
  | leaveList =>
      cases innermost : cursor.scopes with
      | nil =>
          refine ⟨cursor, ?_, innermost, covers⟩
          rw [Move.run, Cursor.leaveList, innermost]
          rfl
      | cons scope scopes =>
          cases scope with
          | list nested => exact ⟨_, covers.leaveList_eq innermost, rfl, covers.without innermost⟩
          | element =>
              refine ⟨{ cursor with scopes }, ?_, rfl, covers.discard innermost⟩
              rw [Move.run, Cursor.leaveList, innermost]
              rfl
  | leaveElement =>
      cases innermost : cursor.scopes with
      | nil =>
          refine ⟨cursor, ?_, innermost, covers⟩
          rw [Move.run, Cursor.leaveElement, innermost]
          rfl
      | cons scope scopes =>
          cases scope with
          | list nested =>
              refine ⟨{ cursor with scopes }, ?_, rfl, covers.discard innermost⟩
              rw [Move.run, Cursor.leaveElement, innermost]
              rfl
          | element => exact ⟨_, covers.leaveElement_eq innermost, rfl, covers.without innermost⟩

/-! ## Sessions that go on after failures -/

namespace Session

variable {session : Session}

theorem cursorAfter_covers (covers : session.cursor.Covers) (moves : List Move) :
    (session.cursorAfter moves).Covers := by
  induction moves generalizing session with
  | nil => exact covers
  | cons move moves ih =>
      obtain ⟨next, made, -, coversNext⟩ := covers.run move
      rw [cursorAfter_cons, made]
      exact ih coversNext

theorem scopes_cursorAfter (covers : session.cursor.Covers) (moves : List Move) :
    (session.cursorAfter moves).scopes = Move.scopesAfterAll session.cursor.scopes moves := by
  induction moves generalizing session with
  | nil => rfl
  | cons move moves ih =>
      obtain ⟨next, made, scopes, coversNext⟩ := covers.run move
      rw [cursorAfter_cons, made, ih coversNext, scopes]
      rfl

/-- What moves answer in a session depends on the records alone. -/
theorem map_result_transcript (covers : session.cursor.Covers) (moves : List Move) :
    (session.transcript moves).map Entry.result =
      (Move.faults session.cursor.scopes moves).map fun fault? =>
        (Move.answer fault?).map fun _ => .done := by
  induction moves generalizing session with
  | nil => rfl
  | cons move moves ih =>
      obtain ⟨next, made, scopes, coversNext⟩ := covers.run move
      rw [transcript_cons, made, List.map_cons, ih coversNext, Move.faults, List.map_cons, scopes]
      rfl

/-- A move that fails has not matched the record that it found. -/
theorem exists_mismatch (covers : session.cursor.Covers) {moves : List Move} {entry : Entry Unit}
    (member : entry ∈ session.transcript moves) {error : Error}
    (failed : entry.result = .error error) :
    ∃ fault ∈ Move.mismatches, error = .traversal fault := by
  have isAnswer := List.mem_map_of_mem (f := Entry.result) member
  rw [map_result_transcript covers] at isAnswer
  obtain ⟨fault?, isFault, isResult⟩ := List.mem_map.mp isAnswer
  cases fault? with
  | none => cases isResult.trans failed
  | some fault =>
      refine ⟨fault, Move.mem_mismatches_of_mem_faults isFault, ?_⟩
      exact (Except.error.inj (isResult.trans failed)).symm

end Session

/-- Whatever moves are made in a file that has just been opened, and however many of them fail and
are ignored: the path is at least as long as the records, and there is a name for each record of a
nested list.  So what a move answers is decided by the innermost record: it fails if that one is
missing or of the other sort, and for no other reason. -/
theorem moves_fail_for_mismatches_only (registry : Registry) (file : FileDecl)
    (settings : UnitSettings) (moves : List Move) :
    let opened := Session.openFile registry file settings
    (opened.cursorAfter moves).scopes = Move.scopesAfterAll [] moves ∧
      (opened.cursorAfter moves).scopes.length ≤ (opened.cursorAfter moves).path.length ∧
      (opened.cursorAfter moves).scopes.countP Scope.isNested ≤
        (opened.cursorAfter moves).outers.length ∧
      (opened.transcript moves).map Entry.result =
        (Move.faults [] moves).map (fun fault? => (Move.answer fault?).map fun _ => .done) ∧
      ∀ entry ∈ opened.transcript moves,
        entry.result ≠ .error (.traversal .emptyPath) ∧
          entry.result ≠ .error (.traversal .emptyNames) ∧
          ∀ error, entry.result = .error error →
            ∃ fault ∈ Move.mismatches, error = .traversal fault := by
  intro opened
  have fresh : opened.cursor.Covers := Cursor.covers_empty
  have covers := Session.cursorAfter_covers fresh moves
  refine ⟨Session.scopes_cursorAfter fresh moves, covers.path, covers.names,
    Session.map_result_transcript fresh moves, ?_⟩
  intro entry member
  refine ⟨?path, ?names, fun error failed => Session.exists_mismatch fresh member failed⟩
  case path =>
    intro emptyPath
    obtain ⟨fault, isMismatch, isFault⟩ := Session.exists_mismatch fresh member emptyPath
    cases isFault
    exact absurd isMismatch (by decide)
  case names =>
    intro emptyNames
    obtain ⟨fault, isMismatch, isFault⟩ := Session.exists_mismatch fresh member emptyNames
    cases isFault
    exact absurd isMismatch (by decide)

/-- A list in a nested message is ended as an element, so that the next two moves take away what the
list and the message have added.  Nothing is left to be ended then, although the path and the names
are not empty. -/
theorem leftovers_of_list_ended_as_element :
    let opened := Session.openFile {} {} { companionClass := "Companion" }
    let moves : List Move :=
      [.enter (.list (.nestedMessages "Outer")), .enter (.element 7),
        .enter (.list (.nestedEnums "Inner")), .leaveElement, .leaveElement, .leaveList,
        .leaveList]
    (opened.transcript moves).map Entry.result =
        [.ok .done, .ok .done, .ok .done, .error (.traversal .elementEndInList), .ok .done,
          .ok .done, .error (.traversal .listEndWithoutStart)] ∧
      (opened.cursorAfter moves).scopes = [] ∧ (opened.cursorAfter moves).path = [3] ∧
      (opened.cursorAfter moves).outers = ["Outer"] ∧
      ∃ entry fault, (opened.transcript moves)[3]? = some entry ∧ fault ∈ Move.mismatches ∧
        entry.result = .error (.traversal fault) := by
  intro opened moves
  obtain ⟨scopes, -, -, answers, fails⟩ :=
    moves_fail_for_mismatches_only {} {} { companionClass := "Companion" } moves
  have failing : (opened.transcript moves)[3]?.map Entry.result =
      some (.error (.traversal .elementEndInList)) := rfl
  obtain ⟨entry, isFourth, failed⟩ := Option.map_eq_some_iff.mp failing
  obtain ⟨fault, isMismatch, isFault⟩ :=
    (fails entry (List.mem_of_getElem? isFourth)).2.2 _ failed
  rw [isFault] at failed
  exact ⟨answers, scopes, rfl, rfl, entry, fault, isFourth, isMismatch, failed⟩

end ProtoCompanion
