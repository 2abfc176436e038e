/-
Module: ProtoCompanion.Proofs.BracketedMoves
Purpose: Which moves of a cursor succeed, and where they lead.
Main exports: Move, Bracketed, LeavesOpen, Follows, Session.Succeeds, Session.cursorAfter,
  moves_succeed_while_bracketed
-/
import Mathlib.Data.List.Induction
import ProtoCompanion.Proofs.RegistrationReads
import ProtoCompanion.Registry.Session

/-!
To enter a list or an element is to open a bracket, and to leave it is to close one.  There are two
sorts of brackets, and the sort is all that a closing bracket has to match.

What is still open after some moves is said without a cursor: the moves are cut at the places that
were entered and never left, so that everything between two cuts is well bracketed.
-/

namespace ProtoCompanion

/-! ## Places and moves -/

/-- What a place adds to the location path. -/
def Place.number : Place → Int32
  | .list kind => kind.fieldNumber
  | .element index => Int32.ofNat index

/-- The name that a place adds to the names around a declaration, if it is a nested list. -/
def Place.enclosing? : Place → Option String
  | .list kind => kind.enclosing?
  | .element _ => none

/-- A call that moves the cursor of a session. -/
inductive Move where
  | enter (place : Place)
  | leaveList
  | leaveElement
deriving Repr, DecidableEq, Inhabited

/-- The move that leaves a place of this sort. -/
def Place.closing : Place → Move
  | .list _ => .leaveList
  | .element _ => .leaveElement

namespace Move

/-- Make a move with a cursor. -/
def run : Move → Cursor → Except Error Unit × Cursor
  | .enter place, cursor => (.ok (), cursor.enter place)
  | .leaveList, cursor => cursor.leaveList
  | .leaveElement, cursor => cursor.leaveElement

/-- The step of a session that makes a move. -/
def step : Move → Step Unit
  | .enter place => .act (.enter place)
  | .leaveList => .act .leaveList
  | .leaveElement => .act .leaveElement

theorem run_closing (place : Place) (cursor : Cursor) :
    place.closing.run cursor = cursor.leave place := by
  cases place <;> rfl

theorem run_closing_enter (place : Place) (cursor : Cursor) :
    place.closing.run (cursor.enter place) = (.ok (), cursor) := by
  rw [run_closing, Cursor.leave_enter]

end Move

/-! ## Bracketed moves -/

/-- Words in which each place that is entered is left later, in reverse order, by the closing move
of its sort. -/
inductive Bracketed : List Move → Prop where
  | nil : Bracketed []
  | cons (place : Place) {inside after : List Move} (within : Bracketed inside)
      (rest : Bracketed after) :
      Bracketed (.enter place :: inside ++ place.closing :: after)

theorem Bracketed.append {moves more : List Move} (first : Bracketed moves)
    (second : Bracketed more) : Bracketed (moves ++ more) := by
  induction first with
  | nil => exact second
  | cons place within _ _ ih =>
      rw [List.append_assoc, List.cons_append]
      exact .cons place within ih

/-- The places that are entered and not left by the end of the moves, the outermost first. -/
inductive LeavesOpen : List Move → List Place → Prop where
  | closed {moves : List Move} (bracketed : Bracketed moves) : LeavesOpen moves []
  | within (place : Place) {before inside : List Move} {places : List Place}
      (bracketed : Bracketed before) (rest : LeavesOpen inside places) :
      LeavesOpen (before ++ .enter place :: inside) (place :: places)

namespace LeavesOpen

variable {moves : List Move} {places : List Place}

theorem enter (opened : LeavesOpen moves places) (place : Place) :
    LeavesOpen (moves ++ [.enter place]) (places ++ [place]) := by
  induction opened with
  | closed bracketed => exact .within place bracketed (.closed .nil)
  | within outer bracketed _ ih =>
      rw [List.append_assoc, List.cons_append, List.cons_append]
      exact .within outer bracketed ih

/-- Leaving the innermost place closes its bracket. -/
theorem leave {place : Place} (opened : LeavesOpen moves (places ++ [place])) :
    LeavesOpen (moves ++ [place.closing]) places := by
  induction places generalizing moves with
  | nil =>
      cases opened with
      | within _ bracketed rest =>
          cases rest with
          | closed inside =>
              rw [List.append_assoc]
              exact .closed (bracketed.append (.cons place inside .nil))
  | cons outer places ih =>
      cases opened with
      | within _ bracketed rest =>
          rw [List.append_assoc, List.cons_append]
          exact .within outer bracketed (ih rest)

/-- What is open can be closed, the innermost place first. -/
theorem exists_bracketed (opened : LeavesOpen moves places) :
    ∃ rest, Bracketed (moves ++ rest) := by
  induction opened with
  | closed bracketed => exact ⟨[], by rwa [List.append_nil]⟩
  | @within place before inside _ bracketed _ ih =>
      obtain ⟨rest, inner⟩ := ih
      refine ⟨rest ++ [place.closing], ?_⟩
      have closed := bracketed.append (.cons place inner .nil)
      simpa using closed

end LeavesOpen

/-! ## Moves that succeed -/

/-- Moves that all succeed, from one cursor to another. -/
inductive Follows : Cursor → List Move → Cursor → Prop where
  | nil {cursor : Cursor} : Follows cursor [] cursor
  | cons {cursor next last : Cursor} {move : Move} {moves : List Move}
      (made : move.run cursor = (.ok (), next)) (rest : Follows next moves last) :
      Follows cursor (move :: moves) last

namespace Follows

variable {cursor next last : Cursor} {moves more : List Move}

theorem append (first : Follows cursor moves next) (second : Follows next more last) :
    Follows cursor (moves ++ more) last := by
  induction first with
  | nil => exact second
  | cons made _ ih => exact .cons made (ih second)

theorem of_append (follows : Follows cursor (moves ++ more) last) :
    ∃ next, Follows cursor moves next ∧ Follows next more last := by
  induction moves generalizing cursor with
  | nil => exact ⟨cursor, .nil, follows⟩
  | cons move moves ih =>
      cases follows with
      | cons made rest =>
          obtain ⟨next, first, second⟩ := ih rest
          exact ⟨next, .cons made first, second⟩

end Follows

/-- A bracketed word leads back to where it started, whatever is open there. -/
theorem Bracketed.follows {moves : List Move} (bracketed : Bracketed moves) (cursor : Cursor) :
    Follows cursor moves cursor := by
  induction bracketed generalizing cursor with
  | nil => exact .nil
  | cons place _ _ within rest =>
      have inside := within (cursor.enter place)
      have after := Follows.cons (Move.run_closing_enter place cursor) (rest cursor)
      exact .cons rfl (inside.append after)

theorem LeavesOpen.follows {moves : List Move} {places : List Place}
    (opened : LeavesOpen moves places) (cursor : Cursor) :
    Follows cursor moves (places.foldl Cursor.enter cursor) := by
  induction opened generalizing cursor with
  | closed bracketed => exact bracketed.follows cursor
  | within place bracketed _ ih =>
      exact (bracketed.follows cursor).append (.cons rfl (ih (cursor.enter place)))

/-! ## The cursor inside open places -/

namespace Cursor

/-- The cursor in a file whose only open places are the given ones, the outermost first. -/
def inside (places : List Place) : Cursor := places.foldl Cursor.enter {}

theorem inside_concat (places : List Place) (place : Place) :
    inside (places ++ [place]) = (inside places).enter place := by
  simp [inside]

theorem path_foldl_enter (cursor : Cursor) (places : List Place) :
    (places.foldl Cursor.enter cursor).path = cursor.path ++ places.map Place.number := by
  induction places generalizing cursor with
  | nil => simp
  | cons place places ih =>
      rw [List.foldl_cons, ih]
      cases place <;>
        simp [enter, Position.within, Position.inList, Position.element, Place.number]

theorem outers_foldl_enter (cursor : Cursor) (places : List Place) :
    (places.foldl Cursor.enter cursor).outers =
      cursor.outers ++ places.filterMap Place.enclosing? := by
  induction places generalizing cursor with
  | nil => simp
  | cons place places ih =>
      rw [List.foldl_cons, ih]
      cases place with
      | element index =>
          rw [List.filterMap_cons_none rfl]
          rfl
      | list kind =>
          cases named : kind.enclosing? <;>
            simp [enter, Position.within, Position.inList, Place.enclosing?, named]

end Cursor

/-- Inside a place, a move that succeeds enters another place or is the closing move of this one. -/
theorem Move.enters_or_closes {move : Move} {place : Place} {cursor next : Cursor}
    (made : move.run (cursor.enter place) = (.ok (), next)) :
    (∃ inner, move = .enter inner) ∨ move = place.closing ∧ next = cursor := by
  have back : move = place.closing → next = cursor := by
    rintro rfl
    exact (Prod.mk.inj (made.symm.trans (run_closing_enter place cursor))).2
  cases move with
  | enter inner => exact .inl ⟨inner, rfl⟩
  | leaveList =>
      cases place with
      | list kind => exact .inr ⟨rfl, back rfl⟩
      | element index => cases made
  | leaveElement =>
      cases place with
      | list kind => cases made
      | element index => exact .inr ⟨rfl, back rfl⟩

/-- A move that succeeds either enters a place or leaves the innermost open one. -/
theorem Move.run_inside_eq_ok {move : Move} {places : List Place} {next : Cursor}
    (made : move.run (.inside places) = (.ok (), next)) :
    (∃ place, move = .enter place) ∨
      ∃ outer place, places = outer ++ [place] ∧ move = place.closing ∧ next = .inside outer := by
  rcases places.eq_nil_or_concat' with rfl | ⟨outer, place, rfl⟩
  · cases move with
    | enter place => exact .inl ⟨place, rfl⟩
    | leaveList => cases made
    | leaveElement => cases made
  · rw [Cursor.inside_concat] at made
    rcases enters_or_closes made with enters | ⟨closes, back⟩
    · exact .inl enters
    · exact .inr ⟨outer, place, rfl, closes, back⟩

/-- Moves that succeed from the root of a file can be cut at the places that are still open.  The
induction takes the last move away, since only that one depends on all places that are open. -/
theorem Follows.exists_open {moves : List Move} {last : Cursor} (follows : Follows {} moves last) :
    ∃ places, LeavesOpen moves places ∧ last = .inside places := by
  induction moves using List.reverseRecOn generalizing last with
  | nil =>
      cases follows
      exact ⟨[], .closed .nil, rfl⟩
  | append_singleton moves move ih =>
      obtain ⟨next, first, second⟩ := follows.of_append
      obtain ⟨places, opened, rfl⟩ := ih first
      cases second with
      | cons made rest =>
          cases rest
          rcases Move.run_inside_eq_ok made with ⟨place, rfl⟩ | ⟨outer, place, rfl, rfl, rfl⟩
          · refine ⟨places ++ [place], opened.enter place, ?_⟩
            rw [Cursor.inside_concat]
            exact (Prod.mk.inj made).2.symm
          · exact ⟨outer, opened.leave, rfl⟩

theorem exists_follows_iff_bracketed {moves : List Move} :
    (∃ last, Follows {} moves last) ↔ ∃ rest, Bracketed (moves ++ rest) := by
  constructor
  · intro ⟨last, follows⟩
    obtain ⟨places, opened, -⟩ := follows.exists_open
    exact opened.exists_bracketed
  · intro ⟨rest, bracketed⟩
    obtain ⟨last, first, -⟩ := (bracketed.follows {}).of_append
    exact ⟨last, first⟩

/-! ## Sessions -/

namespace Session

/-- The transcript of moves that are made one after the other, also after failures. -/
def transcript (session : Session) (moves : List Move) : List (Entry Unit) :=
  Step.performAll session (moves.map Move.step)

/-- All moves succeed. -/
def Succeeds (session : Session) (moves : List Move) : Prop :=
  ∀ entry ∈ session.transcript moves, entry.result.isOk

/-- The cursor after moves, as the last entry of their transcript has it. -/
def cursorAfter (session : Session) (moves : List Move) : Cursor :=
  ((session.transcript moves).getLast?.map fun entry => entry.after.cursor).getD session.cursor

theorem transcript_cons (session : Session) (move : Move) (moves : List Move) :
    session.transcript (move :: moves) =
      .mk ((move.run session.cursor).1.map fun _ => .done) none
          { session with cursor := (move.run session.cursor).2 } ::
        transcript { session with cursor := (move.run session.cursor).2 } moves := by
  cases move <;> rfl

theorem succeeds_iff (session : Session) (moves : List Move) :
    session.Succeeds moves ↔ ∃ last, Follows session.cursor moves last := by
  induction moves generalizing session with
  | nil => exact ⟨fun _ => ⟨_, .nil⟩, fun _ _ member => absurd member List.not_mem_nil⟩
  | cons move moves ih =>
      rw [Succeeds, transcript_cons, List.forall_mem_cons]
      change _ ∧ Succeeds _ moves ↔ _
      rw [ih]
      constructor
      · intro ⟨isOk, last, rest⟩
        cases result : move.run session.cursor with
        | mk answer next =>
            rw [result] at isOk rest
            cases answer with
            | error error => cases isOk
            | ok done => exact ⟨last, .cons result rest⟩
      · intro ⟨last, follows⟩
        cases follows with
        | cons made rest =>
            rw [made]
            exact ⟨rfl, last, rest⟩

theorem cursorAfter_cons (session : Session) (move : Move) (moves : List Move) :
    session.cursorAfter (move :: moves) =
      cursorAfter { session with cursor := (move.run session.cursor).2 } moves := by
  rw [cursorAfter, transcript_cons, List.getLast?_cons, Option.map_some, Option.getD_some]
  exact (Option.getD_map (fun entry : Entry Unit => entry.after.cursor) _ _).symm

theorem cursorAfter_eq {session : Session} {moves : List Move} {last : Cursor}
    (follows : Follows session.cursor moves last) : session.cursorAfter moves = last := by
  induction moves generalizing session with
  | nil =>
      cases follows
      rfl
  | cons move moves ih =>
      cases follows with
      | cons made rest =>
          rw [cursorAfter_cons, made]
          exact ih rest

end Session

/-- The moves of a session in a file that has just been opened all succeed exactly if they can be
continued to a bracketed word.  As long as they do, they leave some places open; the location path
is made of the numbers of these places, and the names around the cursor are those of the nested
lists among them. -/
theorem moves_succeed_while_bracketed (registry : Registry) (file : FileDecl)
    (settings : UnitSettings) (moves : List Move) :
    ((Session.openFile registry file settings).Succeeds moves ↔
        ∃ rest, Bracketed (moves ++ rest)) ∧
      ((Session.openFile registry file settings).Succeeds moves ↔
        ∃ places, LeavesOpen moves places) ∧
      ∀ places, LeavesOpen moves places →
        ((Session.openFile registry file settings).cursorAfter moves).path =
            places.map Place.number ∧
          ((Session.openFile registry file settings).cursorAfter moves).outers =
            places.filterMap Place.enclosing? := by
  have fresh : (Session.openFile registry file settings).cursor = {} := rfl
  rw [Session.succeeds_iff, fresh]
  refine ⟨exists_follows_iff_bracketed, ⟨?_, ?_⟩, ?_⟩
  · intro ⟨last, follows⟩
    obtain ⟨places, opened, -⟩ := follows.exists_open
    exact ⟨places, opened⟩
  · intro ⟨places, opened⟩
    exact ⟨_, opened.follows {}⟩
  · intro places opened
    rw [Session.cursorAfter_eq (opened.follows _), fresh, Cursor.path_foldl_enter,
      Cursor.outers_foldl_enter]
    exact ⟨rfl, rfl⟩

/-- To the messages inside the first message, by way of a list of enums. -/
def movesToNestedMessages : List Move :=
  [.enter (.list .enums), .leaveList, .enter (.list .messages), .enter (.element 0),
    .enter (.list (.nestedMessages "Outer"))]

/-- What is open there is a list, so it cannot be left as an element. -/
theorem element_not_left_in_nested_messages :
    let opened := Session.openFile {} {} { companionClass := "Companion" }
    opened.Succeeds movesToNestedMessages ∧
      (opened.cursorAfter movesToNestedMessages).path = [4, 0, 3] ∧
      (opened.cursorAfter movesToNestedMessages).outers = ["Outer"] ∧
      ¬ opened.Succeeds (movesToNestedMessages ++ [.leaveElement]) := by
  intro opened
  have enums : Bracketed [.enter (.list .enums), .leaveList] := .cons _ .nil .nil
  have leavesOpen : LeavesOpen movesToNestedMessages
      [.list .messages, .element 0, .list (.nestedMessages "Outer")] :=
    .within _ enums (.within _ .nil (.within _ .nil (.closed .nil)))
  obtain ⟨-, succeeds_iff_open, reached⟩ := moves_succeed_while_bracketed {} {}
    { companionClass := "Companion" } movesToNestedMessages
  obtain ⟨path, outers⟩ := reached _ leavesOpen
  refine ⟨succeeds_iff_open.mpr ⟨_, leavesOpen⟩, path, outers, ?_⟩
  intro succeeds
  have last : (opened.transcript (movesToNestedMessages ++ [.leaveElement]))[5].result.isOk :=
    succeeds _ (List.getElem_mem (by decide))
  exact Bool.false_ne_true last

end ProtoCompanion
