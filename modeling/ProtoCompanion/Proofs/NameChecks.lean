/-
Module: ProtoCompanion.Proofs.NameChecks
Purpose: What the check of declared names against the outer classes comes to, for one name and for
  a sequence of names.
Main exports: OuterClass.collidedAfter, OuterClass.Clashes, OuterClass.Accepts,
  OuterClass.collidedAfter_eq, OuterClass.accept_after, OuterClass.Accepts.effective_iff
-/
import Mathlib.Data.List.Induction
import ProtoCompanion.Naming.OuterClass

/-!
The check is a machine with one bit of state.  It goes on after a name that was rejected, and the
bit says no more than whether the name of protobuf-java's class has occurred.  What happens to a
name therefore depends on the set of names before it, and not on their order.
-/

namespace ProtoCompanion

namespace OuterClass

/-! ## One name -/

/-- Whether a declaration collides after the check of a name, be it accepted or rejected. -/
def next (outer : OuterClass) (collided : Bool) (name : String) : Bool :=
  match outer.accept name collided with
  | .ok () collided => collided
  | .error _ collided => collided

theorem suffixed_ne_javaClass (outer : OuterClass) : outer.suffixed ≠ outer.javaClass := by
  intro same
  have lengths := congrArg String.length same
  rw [suffixed, String.length_append] at lengths
  exact absurd (Nat.left_eq_add.mp lengths.symm) (by decide)

theorem accept_eq (outer : OuterClass) (name : String) (collided : Bool) :
    outer.accept name collided =
      if collided ∧ name = outer.suffixed then .error (.nameClash name .suffixedOuterClass) collided
      else if name = outer.javaClass then .ok () true
      else if name = outer.companionClass then .error (.nameClash name .wrapperClass) collided
      else .ok () collided := by
  have branches : outer.accept name collided =
      (if collided ∧ name = outer.effective collided then
        throw (.nameClash name .suffixedOuterClass)
      else if name = outer.javaClass then set true
      else if name = outer.companionClass then throw (.nameClash name .wrapperClass)
      else pure () : EStateM Error Bool Unit) collided := rfl
  rw [branches]
  cases collided with
  | false =>
      simp only [Bool.false_eq_true, false_and, if_false]
      split_ifs <;> rfl
  | true =>
      simp only [effective, if_true, true_and]
      split_ifs <;> rfl

/-- A name that is not accepted is reported as a clash. -/
theorem accept_error {outer : OuterClass} {name : String} {collided after : Bool}
    {error : Error} (rejected : outer.accept name collided = .error error after) :
    ∃ clash, error = .nameClash name clash := by
  rw [accept_eq] at rejected
  split_ifs at rejected <;> cases rejected <;> exact ⟨_, rfl⟩

theorem next_eq (outer : OuterClass) (collided : Bool) (name : String) :
    outer.next collided name = (collided || decide (name = outer.javaClass)) := by
  rw [next, accept_eq]
  by_cases own : name = outer.javaClass
  · have notSuffixed : ¬ (collided = true ∧ name = outer.suffixed) := by
      intro both
      exact outer.suffixed_ne_javaClass (both.2.symm.trans own)
    rw [if_neg notSuffixed, if_pos own]
    simp [own]
  · simp only [own, if_false, decide_false, Bool.or_false]
    split_ifs <;> rfl

/-! ## Sequences of names -/

/-- Whether a declaration collides after the check of a sequence of names. -/
def collidedAfter (outer : OuterClass) (names : List String) : Bool :=
  names.foldl outer.next false

/-- A name clashes after others when it is that of the suffixed class and the suffix is in use, or
when it is that of the wrapper and not the one that brings the suffix about. -/
def Clashes (outer : OuterClass) (before : List String) (name : String) : Prop :=
  (name = outer.suffixed ∧ outer.javaClass ∈ before) ∨
    (name = outer.companionClass ∧ name ≠ outer.javaClass)

instance (outer : OuterClass) (before : List String) (name : String) :
    Decidable (outer.Clashes before name) :=
  inferInstanceAs (Decidable ((_ ∧ _) ∨ (_ ∧ _)))

/-- No name of a sequence clashes after those before it. -/
def Accepts (outer : OuterClass) (names : List String) : Prop :=
  ∀ before name after, names = before ++ name :: after → ¬ outer.Clashes before name

theorem collidedAfter_concat (outer : OuterClass) (names : List String) (name : String) :
    outer.collidedAfter (names ++ [name]) = outer.next (outer.collidedAfter names) name := by
  rw [collidedAfter, List.foldl_append]
  rfl

/-- The bit is set exactly when the name of protobuf-java's class is among the names. -/
theorem collidedAfter_eq (outer : OuterClass) (names : List String) :
    outer.collidedAfter names = decide (outer.javaClass ∈ names) := by
  induction names using List.reverseRecOn with
  | nil => rfl
  | append_singleton names name ih =>
      rw [collidedAfter_concat, next_eq, ih, ← Bool.decide_or]
      apply decide_eq_decide.mpr
      rw [List.mem_append, List.mem_singleton, eq_comm]

/-- A name that is checked after others is rejected when it clashes, with an error about that name,
and a rejected name leaves the state as it was. -/
theorem accept_after (outer : OuterClass) (before : List String) (name : String) :
    match outer.accept name (outer.collidedAfter before) with
    | .ok () after =>
        ¬ outer.Clashes before name ∧ after = outer.collidedAfter (before ++ [name])
    | .error error after =>
        outer.Clashes before name ∧ after = outer.collidedAfter before ∧
          ∃ clash, error = .nameClash name clash := by
  rw [collidedAfter_concat, next_eq, accept_eq, collidedAfter_eq, Clashes]
  simp only [decide_eq_true_eq]
  by_cases suffixed : outer.javaClass ∈ before ∧ name = outer.suffixed
  · rw [if_pos suffixed]
    exact ⟨.inl suffixed.symm, rfl, _, rfl⟩
  · rw [if_neg suffixed]
    by_cases own : name = outer.javaClass
    · rw [if_pos own]
      refine ⟨?_, by simp [own]⟩
      intro clash
      rcases clash with both | wrapper
      · exact suffixed both.symm
      · exact wrapper.2 own
    · rw [if_neg own]
      by_cases wrapper : name = outer.companionClass
      · rw [if_pos wrapper]
        exact ⟨.inr ⟨wrapper, own⟩, rfl, _, rfl⟩
      · rw [if_neg wrapper]
        refine ⟨?_, by simp [own]⟩
        intro clash
        rcases clash with both | both
        · exact suffixed both.symm
        · exact wrapper both.1

theorem accept_fails_iff (outer : OuterClass) (before : List String) (name : String) :
    (∃ error after, outer.accept name (outer.collidedAfter before) = .error error after) ↔
      outer.Clashes before name := by
  have checked := outer.accept_after before name
  cases result : outer.accept name (outer.collidedAfter before) with
  | ok value after =>
      rw [result] at checked
      constructor
      · intro fails
        obtain ⟨error, other, impossible⟩ := fails
        cases impossible
      · intro clashes
        exact absurd clashes checked.1
  | error error after =>
      rw [result] at checked
      constructor
      · intro _
        exact checked.1
      · intro _
        exact ⟨error, after, rfl⟩

theorem accept_error_state {outer : OuterClass} {before : List String} {name : String}
    {error : Error} {after : Bool}
    (rejected : outer.accept name (outer.collidedAfter before) = .error error after) :
    after = outer.collidedAfter before := by
  have checked := outer.accept_after before name
  rw [rejected] at checked
  exact checked.2.1

theorem accepts_nil (outer : OuterClass) : outer.Accepts [] := by
  intro before name after impossible
  exact absurd impossible (List.append_ne_nil_of_right_ne_nil before (List.cons_ne_nil _ _)).symm

theorem Accepts.concat {outer : OuterClass} {names : List String} {name : String}
    (accepts : outer.Accepts names) (fits : ¬ outer.Clashes names name) :
    outer.Accepts (names ++ [name]) := by
  intro before other after split
  rcases List.eq_nil_or_concat after with last | ⟨init, final, rfl⟩
  · subst last
    obtain ⟨sameBefore, sameName⟩ := List.append_inj' split rfl
    rw [← sameBefore, ← List.head_eq_of_cons_eq sameName]
    exact fits
  · rw [List.concat_eq_append, ← List.cons_append, ← List.append_assoc] at split
    exact accepts before other init (List.append_inj_left' split rfl)

/-- In an accepted sequence, the name of protobuf-java's class as it is in the end can only be found
where it was not in use yet: before the first name that brings the suffix about. -/
theorem Accepts.effective_iff {outer : OuterClass} {before after : List String} {name : String}
    (accepts : outer.Accepts (before ++ name :: after)) :
    name = outer.effective (outer.collidedAfter (before ++ name :: after)) ↔
      name = outer.suffixed ∧ outer.javaClass ∉ before ∧ outer.javaClass ∈ after := by
  have fits := accepts before name after rfl
  rw [collidedAfter_eq]
  by_cases occurs : outer.javaClass ∈ before ++ name :: after
  · rw [decide_eq_true occurs, effective, if_pos rfl]
    constructor
    · intro suffixed
      -- After the suffix had come into use, the name would have been rejected.
      have early : outer.javaClass ∉ before := fun earlier => fits (.inl ⟨suffixed, earlier⟩)
      have later : outer.javaClass ∈ name :: after := (List.mem_append.mp occurs).resolve_left early
      refine ⟨suffixed, early, ?_⟩
      rcases List.mem_cons.mp later with own | later
      · exact absurd (suffixed.symm.trans own.symm) outer.suffixed_ne_javaClass
      · exact later
    · intro suffixedEarly
      exact suffixedEarly.1
  · rw [decide_eq_false occurs, effective, if_neg Bool.false_ne_true]
    constructor
    · intro own
      exact absurd (by simp [own]) occurs
    · intro suffixedEarly
      exact absurd (by simp [suffixedEarly.2.2]) occurs

/-- In an accepted sequence, the name of the wrapper is only found where protobuf-java's class has
that name as well. -/
theorem Accepts.companion_eq {outer : OuterClass} {before after : List String} {name : String}
    (accepts : outer.Accepts (before ++ name :: after)) (wrapper : name = outer.companionClass) :
    name = outer.javaClass := by
  by_contra other
  exact accepts before name after rfl (.inr ⟨wrapper, other⟩)

end OuterClass

end ProtoCompanion
