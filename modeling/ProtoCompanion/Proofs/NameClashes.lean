/-
Module: ProtoCompanion.Proofs.NameClashes
Purpose: Which names of a file are rejected when it is registered, and which clashes remain when it
  was registered with success.
Main exports: Tracks, EntersAll.tracks, Refuses.cause, registerFile_checks,
  names_checked_in_registration_order, registered_names_clash_only_before_collision
-/
import ProtoCompanion.Proofs.NameChecks
import ProtoCompanion.Proofs.RegistrationWalk

/-!
A run over the declarations of a file passes each of their names to the check once, in order, and
the flag that the registry keeps for the file is the state of the check.  So the laws of the check
for a sequence of names are laws of whole files.
-/

namespace ProtoCompanion

/-! ## Flags of files -/

namespace Registry

theorem hasCollision_setCollision {registry : Registry} {unit : FileUnit}
    (opened : unit.identity < registry.collided.length) (collided : Bool) :
    (registry.setCollision unit collided).hasCollision unit = collided := by
  rw [hasCollision, setCollision, List.getD_eq_getElem?_getD, List.getElem?_set_self opened]
  rfl

theorem hasCollision_setCollision_of_ne (registry : Registry) {unit other : FileUnit}
    (different : other.identity ≠ unit.identity) (collided : Bool) :
    (registry.setCollision unit collided).hasCollision other = registry.hasCollision other := by
  rw [hasCollision, setCollision, List.getD_eq_getElem?_getD,
    List.getElem?_set_ne different.symm, ← List.getD_eq_getElem?_getD]
  rfl

end Registry

/-- The registry has kept the state of the check for a file, after a sequence of names. -/
structure Tracks (unit : FileUnit) (registry : Registry) (names : List String) : Prop where
  opened : unit.identity < registry.collided.length
  flag : registry.hasCollision unit = unit.outerClass.collidedAfter names

theorem tracks_openFile (registry : Registry) (file : FileDecl) (settings : UnitSettings) :
    Tracks (registry.openFile file settings).1 (registry.openFile file settings).2 [] := by
  constructor
  · simp [Registry.openFile, FileUnit.ofFile]
  · simp [Registry.openFile, FileUnit.ofFile, Registry.hasCollision, OuterClass.collidedAfter]

/-! ## Names in a run -/

variable {unit : FileUnit}

theorem Enters.tracks {before after : Registry} {site : Site} {descriptor : Descriptor}
    {names : List String} (enters : Enters unit before site descriptor after)
    (tracks : Tracks unit before names) :
    ¬ unit.outerClass.Clashes names site.name ∧ Tracks unit after (names ++ [site.name]) := by
  obtain ⟨collided, accepted, rfl⟩ := enters.accepted
  have checked := unit.outerClass.accept_after names site.name
  rw [← tracks.flag, accepted] at checked
  obtain ⟨fits, rfl⟩ := checked
  refine ⟨fits, ?_, ?_⟩
  · simpa [Registry.setCollision, Registry.insert] using tracks.opened
  · exact Registry.hasCollision_setCollision tracks.opened _

/-- The induction is on the run; the names that were checked before it grow from step to step. -/
theorem EntersAll.tracks {before after : Registry} {sites : List Site}
    {descriptors : List Descriptor} {names : List String}
    (entered : EntersAll unit before sites descriptors after)
    (tracks : Tracks unit before names) (accepts : unit.outerClass.Accepts names) :
    unit.outerClass.Accepts (names ++ sites.map Site.name) ∧
      Tracks unit after (names ++ sites.map Site.name) := by
  induction entered generalizing names with
  | nil =>
      rw [List.map_nil, List.append_nil]
      exact ⟨accepts, tracks⟩
  | cons first _ ih =>
      obtain ⟨fits, tracksNext⟩ := first.tracks tracks
      rw [List.map_cons, List.append_cons]
      exact ih tracksNext (accepts.concat fits)

/-- Why the declaration at a site is refused: its name clashes with the error to show for it, or a
reference of it does not resolve to a message. -/
inductive Cause (unit : FileUnit) (names : List String) (site : Site) (final : Registry) :
    Error → Prop where
  | name (clash : NamingClash) (clashes : unit.outerClass.Clashes names site.name) :
      Cause unit names site final (.nameClash site.name clash)
  | reference {error : Error} (reference : String)
      (fits : ¬ unit.outerClass.Clashes names site.name)
      (member : reference ∈ site.decl.references)
      (unresolved : final.resolveMessage reference = .error error) :
      Cause unit names site final error

theorem Refuses.cause {before after : Registry} {site : Site} {error : Error}
    {names : List String} (refused : Refuses unit before site error after)
    (tracks : Tracks unit before names) : Cause unit names site after error := by
  have checked := unit.outerClass.accept_after names site.name
  rw [← tracks.flag] at checked
  cases refused with
  | name collided rejected =>
      rw [rejected] at checked
      obtain ⟨clashes, _, clash, rfl⟩ := checked
      exact .name clash clashes
  | reference collided reference accepted member unresolved =>
      rw [accepted] at checked
      exact .reference reference checked.1 member unresolved

/-! ## Whole files -/

/-- How the names of a file have fared in its registration. -/
def NamesChecked (file : FileDecl) (unit : FileUnit) :
    EStateM.Result Error Registry (FileUnit × TopLevel) → Prop
  | .ok (answered, _) final =>
      answered = unit ∧ unit.outerClass.Accepts (file.sites.map Site.name) ∧
        Tracks unit final (file.sites.map Site.name)
  | .error error final =>
      ∃ done refused rest, file.sites = done ++ refused :: rest ∧
        unit.outerClass.Accepts (done.map Site.name) ∧
        Cause unit (done.map Site.name) refused final error

theorem registerFile_checks (file : FileDecl) (settings : UnitSettings) (start : Registry) :
    NamesChecked file (start.openFile file settings).1 (registerFile file settings start) := by
  have run := registerFile_run file settings start
  have opened := tracks_openFile start file settings
  cases result : registerFile file settings start with
  | ok answer final =>
      rw [result] at run
      exact ⟨run.1, run.2.1.tracks opened (OuterClass.accepts_nil _)⟩
  | error error final =>
      rw [result] at run
      obtain ⟨done, refused, rest, inserted, middle, split, entered, refuses⟩ := Stops.split run
      obtain ⟨accepts, tracks⟩ := entered.tracks opened (OuterClass.accepts_nil _)
      exact ⟨done, refused, rest, split, accepts, refuses.cause tracks⟩

/-- Of two places in a list, one is before the other unless they are the same. -/
theorem split_cases {α : Type} {done others rest more : List α} {x y : α}
    (same : done ++ x :: rest = others ++ y :: more) :
    (done = others ∧ x = y) ∨ (∃ between, others = done ++ x :: between) ∨
      ∃ between, done = others ++ y :: between := by
  rcases List.append_eq_append_iff.mp same with ⟨between, longer, tails⟩ | ⟨between, longer, tails⟩
  · cases between with
    | nil =>
        rw [List.append_nil] at longer
        exact .inl ⟨longer.symm, List.head_eq_of_cons_eq tails⟩
    | cons first between =>
        rw [List.cons_append] at tails
        rw [← List.head_eq_of_cons_eq tails] at longer
        exact .inr (.inl ⟨between, longer⟩)
  · cases between with
    | nil =>
        rw [List.append_nil] at longer
        exact .inl ⟨longer, (List.head_eq_of_cons_eq tails).symm⟩
    | cons first between =>
        rw [List.cons_append] at tails
        rw [← List.head_eq_of_cons_eq tails] at longer
        exact .inr (.inr ⟨between, longer⟩)

/-- A declaration fits where it stands when the names up to it, and perhaps more, are accepted. -/
theorem OuterClass.Accepts.fits {outer : OuterClass} {done more : List Site} {site : Site}
    (accepts : outer.Accepts ((done ++ site :: more).map Site.name)) :
    ¬ outer.Clashes (done.map Site.name) site.name := by
  apply accepts (done.map Site.name) site.name (more.map Site.name)
  rw [List.map_append, List.map_cons]

/-- Where the name of a declaration is the first to clash, the registration of the file fails for
that name, or for a reference of a declaration before it. -/
theorem registerFile_fails_at_first_clash {file : FileDecl} (settings : UnitSettings)
    (start : Registry) {done rest : List Site} {refused : Site}
    (split : file.sites = done ++ refused :: rest)
    (accepts : (start.openFile file settings).1.outerClass.Accepts (done.map Site.name))
    (clashes : (start.openFile file settings).1.outerClass.Clashes (done.map Site.name)
      refused.name) :
    ∃ error final, registerFile file settings start = .error error final ∧
      ((∃ clash, error = .nameClash refused.name clash) ∨
        ∃ earlier ∈ done, ∃ reference ∈ earlier.decl.references,
          final.resolveMessage reference = .error error) := by
  have checks := registerFile_checks file settings start
  cases result : registerFile file settings start with
  | ok answer final =>
      rw [result] at checks
      obtain ⟨_, acceptsAll, _⟩ := checks
      rw [split] at acceptsAll
      exact absurd clashes acceptsAll.fits
  | error error final =>
      rw [result] at checks
      obtain ⟨others, stopped, more, otherSplit, othersAccepted, cause⟩ := checks
      refine ⟨error, final, rfl, ?_⟩
      -- The walk has stopped at the clash, after it or before it.
      rcases split_cases (split.symm.trans otherSplit) with
        ⟨sameBefore, sameSite⟩ | ⟨between, afterClash⟩ | ⟨between, beforeClash⟩
      · subst sameBefore sameSite
        cases cause with
        | name clash _ => exact .inl ⟨clash, rfl⟩
        | reference reference fits member unresolved => exact absurd clashes fits
      · rw [afterClash] at othersAccepted
        exact absurd clashes othersAccepted.fits
      · rw [beforeClash] at accepts
        cases cause with
        | name clash clashesThere => exact absurd clashesThere accepts.fits
        | reference reference fits member unresolved =>
            have isEarlier : stopped ∈ done := by simp [beforeClash]
            exact .inr ⟨stopped, isEarlier, reference, member, unresolved⟩

/-- Where no name clashes, the registration of the file can only fail for a reference. -/
theorem registerFile_error_of_accepts {file : FileDecl} {settings : UnitSettings}
    {start final : Registry} {error : Error}
    (accepts : (start.openFile file settings).1.outerClass.Accepts (file.sites.map Site.name))
    (fails : registerFile file settings start = .error error final) :
    ∃ site ∈ file.sites, ∃ reference ∈ site.decl.references,
      final.resolveMessage reference = .error error := by
  have checks := registerFile_checks file settings start
  rw [fails] at checks
  obtain ⟨done, refused, rest, split, _, cause⟩ := checks
  have isSite : refused ∈ file.sites := by simp [split]
  rw [split] at accepts
  cases cause with
  | name clash clashes => exact absurd clashes accepts.fits
  | reference reference fits member unresolved =>
      exact ⟨refused, isSite, reference, member, unresolved⟩

/-- For a sequence of names: the flag is set when the name of protobuf-java's class has occurred; a
name is rejected exactly when it clashes with those before it, and then nothing changes.  For a
file, with the names in the order of registration: the first name that is rejected is the one that
the registration fails with, unless a method type of an earlier service does not resolve to a
message; and where no name is rejected, a method type is all that the registration can fail for. -/
theorem names_checked_in_registration_order :
    (∀ (outer : OuterClass) (names : List String),
      (∀ count, outer.collidedAfter (names.take count) =
        decide (outer.javaClass ∈ names.take count)) ∧
      ∀ step : Fin names.length,
        ((∃ error after,
            outer.accept names[step] (outer.collidedAfter (names.take step)) =
              .error error after) ↔
          (names[step] = outer.suffixed ∧ outer.javaClass ∈ names.take step) ∨
            (names[step] = outer.companionClass ∧ names[step] ≠ outer.javaClass)) ∧
        ∀ error after,
          outer.accept names[step] (outer.collidedAfter (names.take step)) = .error error after →
            after = outer.collidedAfter (names.take step)) ∧
    ∀ (file : FileDecl) (settings : UnitSettings) (start : Registry),
      (∀ done refused rest, file.sites = done ++ refused :: rest →
        (start.openFile file settings).1.outerClass.Accepts (done.map Site.name) →
        (start.openFile file settings).1.outerClass.Clashes (done.map Site.name) refused.name →
        ∃ error final, registerFile file settings start = .error error final ∧
          ((∃ clash, error = .nameClash refused.name clash) ∨
            ∃ earlier ∈ done, ∃ reference ∈ earlier.decl.references,
              final.resolveMessage reference = .error error)) ∧
      ((start.openFile file settings).1.outerClass.Accepts (file.sites.map Site.name) →
        ∀ error final, registerFile file settings start = .error error final →
          ∃ site ∈ file.sites, ∃ reference ∈ site.decl.references,
            final.resolveMessage reference = .error error) := by
  constructor
  · intro outer names
    constructor
    · intro count
      exact outer.collidedAfter_eq (names.take count)
    · intro step
      constructor
      · exact outer.accept_fails_iff (names.take step) names[step]
      · intro error after rejected
        exact OuterClass.accept_error_state rejected
  · intro file settings start
    constructor
    · intro done refused rest split accepts clashes
      exact registerFile_fails_at_first_clash settings start split accepts clashes
    · intro accepts error final fails
      exact registerFile_error_of_accepts accepts fails

/-- In a file with the message `Proto` before `ProtoOuterClass`, the second name clashes. -/
theorem suffixed_name_rejected_after_collision :
    let file : FileDecl := {
      name? := some "proto.proto"
      messages := [.mk { name? := some "Proto" } [], .mk { name? := some "ProtoOuterClass" } []] }
    let first : Site := ⟨⟨[4, 0], []⟩, .message (.mk { name? := some "Proto" } [])⟩
    ∃ error final, registerFile file { companionClass := "ProtoRest" } {} = .error error final ∧
      ((∃ clash, error = .nameClash "ProtoOuterClass" clash) ∨
        ∃ earlier ∈ [first], ∃ reference ∈ earlier.decl.references,
          final.resolveMessage reference = .error error) := by
  intro file first
  let refused : Site := ⟨⟨[4, 1], []⟩, .message (.mk { name? := some "ProtoOuterClass" } [])⟩
  have accepts : (Registry.openFile {} file { companionClass := "ProtoRest" }).1.outerClass.Accepts
      ([first].map Site.name) :=
    (OuterClass.accepts_nil _).concat (by decide +kernel)
  have clashes : (Registry.openFile {} file { companionClass := "ProtoRest" }).1.outerClass.Clashes
      ([first].map Site.name) refused.name := by
    decide +kernel
  exact (names_checked_in_registration_order.2 file { companionClass := "ProtoRest" } {}).1
    [first] refused [] rfl accepts clashes

/-! ## Clashes that remain -/

/-- In a file that was registered, a declaration has the name of protobuf-java's class only where it
came before the first declaration that brings the suffix about, and the suffixed name was therefore
not in use yet.  No declaration has the name of the wrapper, unless this is the name that
protobuf-java's class starts from. -/
theorem registered_names_clash_only_before_collision (file : FileDecl) (settings : UnitSettings)
    (start : Registry) :
    match registerFile file settings start with
    | .ok (unit, _) final =>
        unit.outerClass = .ofFile file settings.companionClass ∧
          (∀ before site after, file.sites = before ++ site :: after →
            (site.name = final.outerClassName unit ↔
              site.name = unit.outerClass.suffixed ∧
                unit.outerClass.javaClass ∉ before.map Site.name ∧
                unit.outerClass.javaClass ∈ after.map Site.name)) ∧
          ∀ site ∈ file.sites, site.name = unit.outerClass.companionClass →
            site.name = unit.outerClass.javaClass
    | .error _ _ => True := by
  have checks := registerFile_checks file settings start
  cases result : registerFile file settings start with
  | error error final => trivial
  | ok answer final =>
      rw [result] at checks
      obtain ⟨sameUnit, accepts, tracks⟩ := checks
      rw [← sameUnit] at accepts tracks
      refine ⟨by rw [sameUnit]; rfl, ?_, ?_⟩
      · intro before site after split
        rw [split, List.map_append, List.map_cons] at accepts tracks
        rw [Registry.outerClassName, tracks.flag]
        exact accepts.effective_iff
      · intro site member wrapper
        obtain ⟨before, after, split⟩ := List.append_of_mem member
        rw [split, List.map_append, List.map_cons] at accepts
        exact accepts.companion_eq wrapper

/-- In a file with the message `ProtoOuterClass` before `Proto`, the first name is that of the outer
class in the end. -/
theorem suffixed_name_remains_before_collision :
    let file : FileDecl := {
      name? := some "proto.proto"
      messages := [.mk { name? := some "ProtoOuterClass" } [], .mk { name? := some "Proto" } []] }
    match registerFile file { companionClass := "ProtoRest" } {} with
    | .ok (unit, _) final => final.outerClassName unit = "ProtoOuterClass"
    | .error _ _ => False := by
  intro file
  have remains := registered_names_clash_only_before_collision file
    { companionClass := "ProtoRest" } {}
  have succeeds : (match registerFile file { companionClass := "ProtoRest" } {} with
      | .ok _ _ => true
      | .error _ _ => false) = true := by
    decide +kernel
  cases result : registerFile file { companionClass := "ProtoRest" } {} with
  | error error final =>
      rw [result] at succeeds
      cases succeeds
  | ok answer final =>
      rw [result] at remains
      obtain ⟨outerClass, clash, _⟩ := remains
      let early : Site := ⟨⟨[4, 0], []⟩, .message (.mk { name? := some "ProtoOuterClass" } [])⟩
      let colliding : Site := ⟨⟨[4, 1], []⟩, .message (.mk { name? := some "Proto" } [])⟩
      refine ((clash [] early [colliding] rfl).mpr ?_).symm
      rw [outerClass]
      decide +kernel

/-- No declaration of a file has the name of one of its two outer classes, as these are called after
the registration. -/
def ClashFree (file : FileDecl) : EStateM.Result Error Registry (FileUnit × TopLevel) → Prop
  | .ok (unit, _) final =>
      ∀ site ∈ file.sites,
        site.name ≠ final.outerClassName unit ∧ site.name ≠ unit.outerClass.companionClass
  | .error _ _ => True

instance (file : FileDecl) : DecidablePred (ClashFree file)
  | .ok (unit, _) final =>
      inferInstanceAs (Decidable (∀ site ∈ file.sites,
        site.name ≠ final.outerClassName unit ∧ site.name ≠ unit.outerClass.companionClass))
  | .error _ _ => instDecidableTrue

/-- Both clashes do remain: that of a suffixed name which comes first, and that of a wrapper with
the name that protobuf-java's class starts from. -/
theorem registered_names_can_clash :
    (let file : FileDecl := {
       name? := some "proto.proto"
       messages := [.mk { name? := some "ProtoOuterClass" } [], .mk { name? := some "Proto" } []] }
     ¬ ClashFree file (registerFile file { companionClass := "ProtoRest" } {})) ∧
    (let file : FileDecl := {
       name? := some "proto.proto"
       messages := [.mk { name? := some "Proto" } []] }
     ¬ ClashFree file (registerFile file { companionClass := "Proto" } {})) := by
  decide +kernel

end ProtoCompanion
