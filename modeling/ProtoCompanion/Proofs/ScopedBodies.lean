/-
Module: ProtoCompanion.Proofs.ScopedBodies
Purpose: What runs inside a list or an element by way of the scoped helpers ends where it began.
Main exports: Registering.looking, Scoped, Restores, Restores.within_eq, Scoped.restores,
  Step.Scoped, scopes_closed_after_any_body
-/
import ProtoCompanion.Proofs.BracketedMoves
import ProtoCompanion.Proofs.NameChecks
import ProtoCompanion.Proofs.RegistrationWalk

/-!
A scoped helper leaves what it has entered, also when its body fails.  This puts the cursor back
only if the body has left it where it found it, so the law is about bodies: whatever is built of
scoped helpers, registrations and steps that only look around.  Since nothing is ever left in the
wrong order, the helpers and the registrations have no traversal fault to report; a body can still
fail with one of its own accord, like with any other error.
-/

namespace ProtoCompanion

/-! ## Bodies -/

/-- Look at a walk without changing it: a lookup, a value, or a failure. -/
def Registering.looking {α : Type} (question : Walk → Except Error α) : Registering α :=
  fun walk =>
    match question walk with
    | .ok value => .ok value walk
    | .error error => .error error walk

/-- Bodies that move the cursor by scoped helpers and registrations only, in any nesting.  A body
may depend on what came out before, and may go on after a failure.  The traversal faults that it
fails with of its own accord are among the reported ones. -/
inductive Scoped (reported : TraversalFault → Prop) : {α : Type} → Registering α → Prop where
  | looking {α : Type} (question : Walk → Except Error α)
      (own : ∀ walk fault, question walk = .error (.traversal fault) → reported fault) :
      Scoped reported (Registering.looking question)
  | file (unit : FileUnit) (decl : FileDecl) : Scoped reported (Registering.file unit decl)
  | message (unit : FileUnit) (decl : MessageDecl) :
      Scoped reported (Registering.message unit decl)
  | enum (unit : FileUnit) (decl : EnumDecl) : Scoped reported (Registering.enum unit decl)
  | oneof (unit : FileUnit) (index : Nat) (decl : OneofDecl) :
      Scoped reported (Registering.oneof unit index decl)
  | service (unit : FileUnit) (decl : ServiceDecl) :
      Scoped reported (Registering.service unit decl)
  | within {α : Type} (place : Place) {body : Registering α} (inside : Scoped reported body) :
      Scoped reported (Registering.within place body)
  | bind {α β : Type} {first : Registering α} {next : α → Registering β}
      (start : Scoped reported first) (rest : ∀ value, Scoped reported (next value)) :
      Scoped reported (first >>= next)
  | recover {α : Type} {body : Registering α} {handler : Error → Registering α}
      (start : Scoped reported body) (rest : ∀ error, Scoped reported (handler error)) :
      Scoped reported (tryCatch body handler)

/-! ## Steps that put the cursor back -/

/-- A step ends with the cursor where it was, also when it fails.  A traversal fault that it fails
with is among the reported ones. -/
def Restores {α : Type} (reported : TraversalFault → Prop) (step : Registering α) : Prop :=
  ∀ walk : Walk,
    match step walk with
    | .ok _ after => after.cursor = walk.cursor
    | .error error after =>
        after.cursor = walk.cursor ∧ ∀ fault, error = .traversal fault → reported fault

theorem Registry.resolveMessage_ne_traversal (registry : Registry) (reference : String)
    (fault : TraversalFault) : registry.resolveMessage reference ≠ .error (.traversal fault) := by
  rw [resolveMessage, resolve]
  cases registry.resolve? reference with
  | none => simp
  | some descriptor => cases descriptor <;> simp

/-- A declaration is refused for its name or for a reference. -/
theorem Refuses.ne_traversal {unit : FileUnit} {before after : Registry} {site : Site}
    {error : Error} (refused : Refuses unit before site error after) (fault : TraversalFault) :
    error ≠ .traversal fault := by
  rintro rfl
  cases refused with
  | name collided rejected =>
      obtain ⟨clash, impossible⟩ := OuterClass.accept_error rejected
      cases impossible
  | reference collided reference accepted member unresolved =>
      exact before.resolveMessage_ne_traversal reference fault unresolved

namespace Restores

variable {α β : Type} {reported : TraversalFault → Prop}

/-- What goes over sites ends where it began, and can only be stopped by a refusal. -/
theorem of_covers {unit : FileUnit} {step : Registering α} {sites : Walk → List Site}
    {post : Walk → α → List Descriptor → Prop}
    (covers : ∀ walk : Walk, Covers unit walk (sites walk) (post walk) (step walk)) :
    Restores reported step := by
  intro walk
  have covered := covers walk
  cases result : step walk with
  | ok value after =>
      rw [result] at covered
      exact covered.1
  | error error after =>
      rw [result] at covered
      obtain ⟨_, _, _, _, _, _, _, refused⟩ := covered.2.split
      exact ⟨covered.1, fun fault isFault => absurd isFault (refused.ne_traversal fault)⟩

theorem looking {question : Walk → Except Error α}
    (own : ∀ walk fault, question walk = .error (.traversal fault) → reported fault) :
    Restores reported (Registering.looking question) := by
  intro walk
  rw [Registering.looking]
  cases answer : question walk with
  | ok value => rfl
  | error error =>
      refine ⟨rfl, ?_⟩
      rintro fault rfl
      exact own walk fault answer

theorem bind {first : Registering α} {next : α → Registering β} (start : Restores reported first)
    (rest : ∀ value, Restores reported (next value)) : Restores reported (first >>= next) := by
  intro walk
  have started := start walk
  simp only [Bind.bind, EStateM.bind]
  cases result : first walk with
  | error error after =>
      rw [result] at started
      exact started
  | ok value after =>
      rw [result] at started
      have ended := rest value after
      dsimp only at started ⊢
      rw [started] at ended
      exact ended

/-- The handler goes on where the failure has left the cursor, which is where the body began. -/
theorem recover {body : Registering α} {handler : Error → Registering α}
    (start : Restores reported body) (rest : ∀ error, Restores reported (handler error)) :
    Restores reported (tryCatch body handler) := by
  intro walk
  have started := start walk
  have branches : tryCatch body handler walk =
      match body walk with
      | .ok value after => .ok value after
      | .error error after => handler error after := by
    cases result : body walk with
    | ok value after =>
        simp [tryCatch, tryCatchThe, MonadExceptOf.tryCatch, EStateM.tryCatch, result]
    | error error after =>
        simp [tryCatch, tryCatchThe, MonadExceptOf.tryCatch, EStateM.tryCatch, result]
        rfl
  rw [branches]
  cases result : body walk with
  | ok value after =>
      rw [result] at started
      exact started
  | error error after =>
      rw [result] at started
      have ended := rest error after
      dsimp only at started ⊢
      rw [started.1] at ended
      exact ended

/-- The scoped helper gives what its body gives, with the cursor where it was. -/
theorem within_eq {body : Registering α} (restores : Restores reported body) (place : Place)
    (walk : Walk) :
    Registering.within place body walk =
      match body { walk with cursor := walk.cursor.enter place } with
      | .ok value inside => .ok value { inside with cursor := walk.cursor }
      | .error error inside => .error error { inside with cursor := walk.cursor } := by
  have ended := restores { walk with cursor := walk.cursor.enter place }
  rw [Registering.within]
  cases result : body { walk with cursor := walk.cursor.enter place } with
  | ok value inside =>
      rw [result] at ended
      dsimp only at ended ⊢
      rw [ended, Cursor.leave_enter]
  | error error inside =>
      rw [result] at ended
      dsimp only at ended ⊢
      rw [ended.1, Cursor.leave_enter]

theorem within {body : Registering α} (restores : Restores reported body) (place : Place) :
    Restores reported (Registering.within place body) := by
  intro walk
  have ended := restores { walk with cursor := walk.cursor.enter place }
  rw [restores.within_eq]
  cases result : body { walk with cursor := walk.cursor.enter place } with
  | ok value inside => rfl
  | error error inside =>
      rw [result] at ended
      exact ⟨rfl, ended.2⟩

theorem pure (value : α) : Restores reported (Pure.pure value : Registering α) := fun _ => rfl

/-- The file may be registered anywhere: its lists are entered from where the cursor is. -/
theorem file (unit : FileUnit) (decl : FileDecl) :
    Restores reported (Registering.file unit decl) := by
  have enums : Restores reported (Registering.inList .enums (fun _ => Registering.enum unit)
      decl.enums) :=
    of_covers fun walk => Registering.inList_covers
      (fun _ enumDecl _ => Registering.enum_registers unit enumDecl) .enums walk
  have messages : Restores reported
      (Registering.within (.list .messages) (Registering.messages unit 0 decl.messages)) :=
    of_covers fun walk => Registering.messages_covers
      (fun messageDecl _ => Registering.message_registers unit messageDecl) .messages walk
  have services : Restores reported (Registering.inList .services
      (fun _ => Registering.service unit) decl.services) :=
    of_covers fun walk => Registering.inList_covers
      (fun _ serviceDecl _ => Registering.service_registers unit serviceDecl) .services walk
  rw [Registering.file]
  exact enums.bind fun _ => messages.bind fun _ => services.bind fun _ => pure _

end Restores

/-- The induction follows the way in which the body is built. -/
theorem Scoped.restores {α : Type} {reported : TraversalFault → Prop} {body : Registering α}
    (built : Scoped reported body) : Restores reported body := by
  induction built with
  | looking question own => exact .looking own
  | file unit decl => exact .file unit decl
  | message unit decl => exact .of_covers (Registering.message_registers unit decl)
  | enum unit decl => exact .of_covers (Registering.enum_registers unit decl)
  | oneof unit index decl => exact .of_covers (Registering.oneof_registers unit index decl)
  | service unit decl => exact .of_covers (Registering.service_registers unit decl)
  | within place _ ih => exact ih.within place
  | bind _ _ first others => exact first.bind others
  | recover _ _ first others => exact first.recover others

/-! ## Bodies of sessions -/

namespace Step

variable {β : Type} {reported : TraversalFault → Prop}

/-- Steps of a session that move the cursor by scoped steps and registrations only, in any nesting.
Questions are the lookups, and they may fail. -/
inductive Scoped (reported : TraversalFault → Prop) : Step β → Prop where
  | addFile : Scoped reported (.act .addFile)
  | addMessage (decl : MessageDecl) : Scoped reported (.act (.addMessage decl))
  | addEnum (decl : EnumDecl) : Scoped reported (.act (.addEnum decl))
  | addOneof (decl : OneofDecl) (index : Nat) : Scoped reported (.act (.addOneof decl index))
  | addService (decl : ServiceDecl) : Scoped reported (.act (.addService decl))
  | ask (question : Session → Except Error β)
      (own : ∀ session fault, question session = .error (.traversal fault) → reported fault) :
      Scoped reported (.act (.ask question))
  | within (place : Place) {body : List (Step β)}
      (inside : ∀ step ∈ body, Scoped reported step) : Scoped reported (.within place body)

/-- What a step or a body has come to: the cursor is where it was, and a traversal fault is among
the reported ones. -/
def Ended (reported : TraversalFault → Prop) (session : Session)
    (result : Except Error (Outcome β)) (after : Session) : Prop :=
  after.cursor = session.cursor ∧ ∀ fault, result = .error (.traversal fault) → reported fault

/-- A registration at the cursor of a session ends like one of a walk. -/
theorem ended_of_registering {α : Type} (registration : FileUnit → Registering α)
    (restores : ∀ unit, Restores reported (registration unit)) (outcome : α → Outcome β)
    (session : Session) :
    Ended reported session (Action.registering outcome registration session).1
      (Action.registering outcome registration session).2 := by
  have ended := restores session.unit session.toWalk
  rw [Action.registering, Session.register]
  cases result : registration session.unit session.toWalk with
  | ok value after =>
      rw [result] at ended
      exact ⟨ended, fun fault isFault => by cases isFault⟩
  | error error after =>
      rw [result] at ended
      refine ⟨ended.1, ?_⟩
      intro fault isFault
      cases isFault
      exact ended.2 fault rfl

/-- A body of steps that put the cursor back puts it back, wherever it stops. -/
theorem performBody_ended {body : List (Step β)}
    (each : ∀ step ∈ body, ∀ session,
      Ended reported session (step.perform session).result (step.perform session).after)
    (session : Session) :
    Ended reported session (performBody session body).1 (performBody session body).2.2 := by
  induction body generalizing session with
  | nil => exact ⟨rfl, fun fault isFault => by cases isFault⟩
  | cons step rest ih =>
      have first := each step List.mem_cons_self session
      have others := ih (fun other member => each other (List.mem_cons_of_mem step member))
        (step.perform session).after
      rw [performBody]
      cases result : (step.perform session).result with
      | error error =>
          rw [result] at first
          exact first
      | ok outcome => exact ⟨others.1.trans first.1, others.2⟩

theorem perform_act (action : Action β) (session : Session) :
    (Step.act action).perform session = .mk (action.run session).1 none (action.run session).2 := by
  rw [perform]

/-- A scoped step gives what its body gives, with the cursor where it was. -/
theorem perform_within_eq {body : List (Step β)} {session : Session} {place : Place}
    (kept : (performBody (session.enter place) body).2.2.cursor = (session.enter place).cursor) :
    (Step.within place body).perform session =
      .mk (performBody (session.enter place) body).1
        (some (performBody (session.enter place) body).2.1)
        { (performBody (session.enter place) body).2.2 with cursor := session.cursor } := by
  have left : (performBody (session.enter place) body).2.2.cursor.leave place =
      (.ok (), session.cursor) := by
    rw [kept]
    exact Cursor.leave_enter session.cursor place
  simp only [perform, Session.leave, left]
  cases (performBody (session.enter place) body).1 <;> rfl

/-- The induction follows the nesting of the steps. -/
theorem Scoped.ended {step : Step β} (built : Scoped reported step) (session : Session) :
    Ended reported session (step.perform session).result (step.perform session).after := by
  induction built generalizing session with
  | addFile =>
      exact ended_of_registering (fun unit => Registering.file unit session.file)
        (fun unit => .file unit session.file) .added session
  | addMessage decl =>
      exact ended_of_registering (fun unit => Registering.message unit decl)
        (fun unit => .of_covers (Registering.message_registers unit decl)) .registered session
  | addEnum decl =>
      exact ended_of_registering (fun unit => Registering.enum unit decl)
        (fun unit => .of_covers (Registering.enum_registers unit decl)) .registered session
  | addOneof decl index =>
      exact ended_of_registering (fun unit => Registering.oneof unit index decl)
        (fun unit => .of_covers (Registering.oneof_registers unit index decl)) .registered session
  | addService decl =>
      exact ended_of_registering (fun unit => Registering.service unit decl)
        (fun unit => .of_covers (Registering.service_registers unit decl)) .registered session
  | ask question own =>
      rw [perform_act, Action.run]
      refine ⟨rfl, ?_⟩
      intro fault isFault
      apply own session fault
      cases answer : question session with
      | ok value => simp [Entry.result, answer, Except.map] at isFault
      | error error =>
          simp only [Entry.result, answer, Except.map] at isFault
          rw [Except.error.inj isFault]
  | within place _ ih =>
      have ended := performBody_ended ih (session.enter place)
      rw [perform_within_eq ended.1]
      exact ⟨rfl, ended.2⟩

/-- The result of a body, as its entries have it: the first failure, which is the last entry, or
success when each step of the body has an entry and none of them is a failure. -/
def FirstFailure (body : List (Step β)) (entries : List (Entry β)) :
    Except Error (Outcome β) → Prop
  | .ok _ => entries.length = body.length ∧ ∀ entry ∈ entries, entry.result.isOk
  | .error error =>
      ∃ before last, entries = before ++ [last] ∧ (∀ entry ∈ before, entry.result.isOk) ∧
        last.result = .error error

theorem performBody_firstFailure (session : Session) (body : List (Step β)) :
    FirstFailure body (performBody session body).2.1 (performBody session body).1 := by
  induction body generalizing session with
  | nil => exact ⟨rfl, fun entry member => absurd member List.not_mem_nil⟩
  | cons step rest ih =>
      rw [performBody]
      cases first : (step.perform session).result with
      | error error =>
          exact ⟨[], step.perform session, rfl, fun entry member => absurd member List.not_mem_nil,
            first⟩
      | ok outcome =>
          have isOk : (step.perform session).result.isOk := by rw [first]; rfl
          have others := ih (step.perform session).after
          cases result : (performBody (step.perform session).after rest).1 with
          | ok _ =>
              rw [result] at others
              exact ⟨congrArg (· + 1) others.1, List.forall_mem_cons.mpr ⟨isOk, others.2⟩⟩
          | error error =>
              rw [result] at others
              obtain ⟨before, last, isSplit, succeeded, failed⟩ := others
              exact ⟨step.perform session :: before, last,
                congrArg (step.perform session :: ·) isSplit,
                List.forall_mem_cons.mpr ⟨isOk, succeeded⟩, failed⟩

end Step

/-! ## Scopes are closed -/

/-- Whatever is open, and whatever is done inside a list or an element by scoped helpers,
registrations, lookups and failures, the cursor is back where it was when the place is left: its
path, the names around it and the open scopes.  What comes out is what the body has come to, with
its first failure unchanged.  No traversal fault comes out that the body has not failed with of its
own accord.  The first part is on bodies that may depend on what they have found, the second on the
scripted bodies of a session. -/
theorem scopes_closed_after_any_body (reported : TraversalFault → Prop) (place : Place) :
    (∀ {α : Type} {body : Registering α}, Scoped reported body → ∀ walk : Walk,
      (∀ value inside, body { walk with cursor := walk.cursor.enter place } = .ok value inside →
        Registering.within place body walk = .ok value { inside with cursor := walk.cursor }) ∧
      ∀ error inside, body { walk with cursor := walk.cursor.enter place } = .error error inside →
        Registering.within place body walk = .error error { inside with cursor := walk.cursor } ∧
          ∀ fault, error = .traversal fault → reported fault) ∧
    (∀ {β : Type} {body : List (Step β)}, (∀ step ∈ body, Step.Scoped reported step) →
      ∀ session : Session,
        ∃ result entries inside, Step.performBody (session.enter place) body =
            (result, entries, inside) ∧
          (Step.within place body).perform session =
            .mk result (some entries) { inside with cursor := session.cursor } ∧
          Step.FirstFailure body entries result ∧
          ∀ fault, result = .error (.traversal fault) → reported fault) := by
  constructor
  · intro α body built walk
    constructor
    · intro value inside result
      rw [built.restores.within_eq, result]
    · intro error inside result
      have ended := built.restores { walk with cursor := walk.cursor.enter place }
      rw [result] at ended
      refine ⟨?_, ended.2⟩
      rw [built.restores.within_eq, result]
  · intro β body built session
    have ended := Step.performBody_ended (fun step member => (built step member).ended)
      (session.enter place)
    exact ⟨_, _, _, rfl, Step.perform_within_eq ended.1, Step.performBody_firstFailure _ _,
      ended.2⟩

/-- The error of a step that fails, with the names that are registered then. -/
def Registering.failure? {α : Type} (step : Registering α) (walk : Walk) :
    Option (Error × List String) :=
  match step walk with
  | .ok _ _ => none
  | .error error inside => some (error, inside.registry.names)

/-- Inside a message, its first nested message is registered and a lookup fails at the second one.
What was registered stays, and the cursor is back at the message, in a walk as in a session. -/
theorem nested_messages_left_after_failed_lookup :
    let unit : FileUnit := .ofFile 0 {} { companionClass := "Companion" }
    let inner : MessageDecl := .mk { name? := some "Inner" } []
    let place : Place := .list (.nestedMessages "Outer")
    let outside : Walk := { cursor := .inside [.list .messages, .element 0] }
    let body : Registering Descriptor := do
      let _ ← Registering.within (.element 0) (Registering.message unit inner)
      Registering.within (.element 1)
        (Registering.looking fun walk => walk.registry.resolve "Missing")
    let session : Session := { outside with unit, file := {} }
    let steps : List (Step Descriptor) := [
      .within (.element 0) [.act (.addMessage inner)],
      .within (.element 1) [.act (.ask fun session => session.registry.resolve "Missing")]]
    (∃ after, Registering.within place body outside = .error (.unresolved "Missing") after ∧
        after.cursor = outside.cursor ∧ after.registry.names = ["Outer.Inner"]) ∧
      ∃ entries after, (Step.within place steps).perform session =
          .mk (.error (.unresolved "Missing")) (some entries) after ∧
        after.cursor = session.cursor ∧ after.registry.names = ["Outer.Inner"] := by
  intro unit inner place outside body session steps
  have noFault : ∀ (registry : Registry) (fault : TraversalFault),
      registry.resolve "Missing" ≠ .error (.traversal fault) := by
    intro registry fault
    rw [Registry.resolve]
    cases registry.resolve? "Missing" <;> simp
  have built : Scoped (fun _ => False) body :=
    .bind (.within _ (.message unit inner)) fun _ =>
      .within _ (.looking _ fun walk fault => noFault walk.registry fault)
  have stepsBuilt : ∀ step ∈ steps, Step.Scoped (fun _ => False) step := by
    intro step member
    rcases List.mem_cons.mp member with rfl | member
    · refine .within _ ?_
      intro step member
      rw [List.mem_singleton.mp member]
      exact .addMessage inner
    · rw [List.mem_singleton.mp member]
      refine .within _ ?_
      intro step member
      rw [List.mem_singleton.mp member]
      exact .ask _ fun session fault => noFault session.registry fault
  have bodyFails : body.failure? { outside with cursor := outside.cursor.enter place } =
      some (.unresolved "Missing", ["Outer.Inner"]) := by
    decide +kernel
  have stepsFail :
      (Step.performBody (session.enter place) steps).1.map (fun _ => ()) =
          .error (.unresolved "Missing") ∧
        (Step.performBody (session.enter place) steps).2.2.registry.names = ["Outer.Inner"] := by
    decide +kernel
  obtain ⟨inWalk, inSession⟩ := scopes_closed_after_any_body (fun _ => False) place
  obtain ⟨-, failing⟩ := inWalk built outside
  obtain ⟨result, entries, inside, isBody, isEntry, -⟩ := inSession stepsBuilt session
  constructor
  · rw [Registering.failure?] at bodyFails
    cases result : body { outside with cursor := outside.cursor.enter place } with
    | ok value inside => simp [result] at bodyFails
    | error error inside =>
        rw [result] at bodyFails
        obtain ⟨rfl, registered⟩ := Prod.mk.inj (Option.some.inj bodyFails)
        exact ⟨_, (failing _ inside result).1, rfl, registered⟩
  · rw [isBody] at stepsFail
    obtain ⟨failed, registered⟩ := stepsFail
    cases result with
    | ok outcome => cases failed
    | error error =>
        obtain rfl := Except.error.inj failed
        exact ⟨entries, _, isEntry, rfl, registered⟩

end ProtoCompanion
