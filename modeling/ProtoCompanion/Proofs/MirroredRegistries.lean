/-
Module: ProtoCompanion.Proofs.MirroredRegistries
Purpose: Registries of two runs side by side, and steps that are taken in both runs.
Main exports: Mirrors, Mirrors.answersLike, Parallel
-/
import ProtoCompanion.Proofs.GeneratedFiles
import ProtoCompanion.Proofs.RepeatedCode

/-!
The registry of a second run mirrors that of the first: it may have opened some files before, and it
has an alike descriptor wherever the first has a descriptor.  What can be done to both registries
keeps this so.  A step that is taken in both runs is compared by what it answers and by what it
leaves behind.
-/

namespace ProtoCompanion

/-! ## Registries side by side -/

/-- A file of the first run and the same file in the other run, where some files were opened before.
Only their number matters; the list has their flags. -/
def Shifted (front : List Bool) (identity other : Nat) : Prop := other = front.length + identity

/-- The other registry has opened some files before those of the first one, and what the first one
holds is held by it under the same name. -/
structure Mirrors (exact : Prop) (front : List Bool) (registry other : Registry) : Prop where
  collided : other.collided = front ++ registry.collided
  byName : ∀ name : String, Found exact (Shifted front) registry.byName[name]? other.byName[name]?
  byRelativeName : ∀ name : String,
    Found exact (Shifted front) registry.byRelativeName[name]? other.byRelativeName[name]?
  undotted : exact ∨ registry.Undotted

variable {exact : Prop} {front : List Bool}

theorem Found.insert {same : Nat → Nat → Prop} {names others : Std.TreeMap String Descriptor}
    (found : ∀ name : String, Found exact same names[name]? others[name]?) {key otherKey : String}
    {descriptor like : Descriptor} (keys : otherKey = key)
    (alike : descriptor.Alike exact same like) (name : String) :
    Found exact same (names.insert key descriptor)[name]? (others.insert otherKey like)[name]? := by
  rw [keys, Std.TreeMap.getElem?_insert, Std.TreeMap.getElem?_insert]
  split
  · exact .some alike
  · exact found name

namespace Mirrors

variable {registry other : Registry}

theorem flags (mirrors : Mirrors exact front registry other) (identity belonging : Nat)
    (belongs : Shifted front identity belonging) :
    other.collided.getD belonging false = registry.collided.getD identity false := by
  rw [mirrors.collided, belongs, List.getD_eq_getElem?_getD, List.getD_eq_getElem?_getD,
    List.getElem?_append_right (Nat.le_add_right _ _), Nat.add_sub_cancel_left]

theorem hasCollision_eq (mirrors : Mirrors exact front registry other) {unit like : FileUnit}
    (units : unit.Alike (Shifted front) like) :
    other.hasCollision like = registry.hasCollision unit := by
  obtain ⟨identity, shared?, belongs⟩ := units
  exact mirrors.flags _ _ belongs

/-- In an exact comparison all three ways to read a reference lead to the same on both sides.
Otherwise the reference starts with a dot, and the first registry knows it as a qualified name. -/
theorem answersLike (mirrors : Mirrors exact front registry other) :
    registry.AnswersLike exact (Shifted front) other where
  flags := mirrors.flags
  found := by
    intro reference asked
    by_cases isExact : exact
    · apply Found.or isExact
      · cases Registry.undotted? reference with
        | none => exact .none exact _
        | some name => exact mirrors.byName name
      · exact .or isExact (mirrors.byRelativeName reference) (mirrors.byName reference)
    · exact (mirrors.undotted.resolve_left isExact).found isExact
        (fun name => (mirrors.byName name).found) (asked.resolve_left isExact)

theorem insert (mirrors : Mirrors exact front registry other) {descriptor like : Descriptor}
    (alike : descriptor.Alike exact (Shifted front) like)
    (relative : exact ∨ ¬ IsQualified descriptor.relativeName) :
    Mirrors exact front (registry.insert descriptor) (other.insert like) where
  collided := mirrors.collided
  byName := Found.insert mirrors.byName alike.schemaName_eq alike
  byRelativeName := Found.insert mirrors.byRelativeName alike.relativeName_eq alike
  undotted := by
    rcases mirrors.undotted with isExact | undotted
    · exact .inl isExact
    · exact relative.imp_right undotted.insert

theorem setCollision (mirrors : Mirrors exact front registry other) {unit like : FileUnit}
    (units : unit.Alike (Shifted front) like) (collided : Bool) :
    Mirrors exact front (registry.setCollision unit collided)
      (other.setCollision like collided) where
  collided := by
    obtain ⟨identity, shared?, belongs⟩ := units
    rw [Registry.setCollision, mirrors.collided, belongs,
      List.set_append_right _ _ (Nat.le_add_right _ _), Nat.add_sub_cancel_left]
    rfl
  byName := mirrors.byName
  byRelativeName := mirrors.byRelativeName
  undotted := mirrors.undotted.imp_right fun undotted => ⟨undotted.byName, undotted.byRelativeName⟩

theorem openFile (mirrors : Mirrors exact front registry other) (file : FileDecl)
    (settings : UnitSettings) (shared? : Option String) :
    (registry.openFile file settings).1.Alike (Shifted front)
        (other.openFile file { settings with sharedPackage? := shared? }).1 ∧
      Mirrors exact front (registry.openFile file settings).2
        (other.openFile file { settings with sharedPackage? := shared? }).2 := by
  constructor
  · have belongs : Shifted front registry.collided.length other.collided.length := by
      rw [mirrors.collided, List.length_append, Shifted]
    exact .intro other.collided.length shared? belongs
  · constructor
    · rw [Registry.openFile, Registry.openFile, mirrors.collided, List.append_assoc]
    · exact mirrors.byName
    · exact mirrors.byRelativeName
    · exact mirrors.undotted.imp_right fun undotted =>
        ⟨undotted.byName, undotted.byRelativeName⟩

end Mirrors

/-! ## Steps side by side -/

section

variable {σ τ α β γ δ : Type} {states : σ → τ → Prop} {post : α → β → Prop}
  {nextPost : γ → δ → Prop}

/-- From states that belong together, the second step repeats the first one, and the states belong
together again. -/
def Parallel (exact : Prop) (states : σ → τ → Prop) (post : α → β → Prop)
    (step : EStateM Error σ α) (other : EStateM Error τ β) : Prop :=
  ∀ before like, states before like →
    Repeats exact (fun result likeResult => post result.1 likeResult.1 ∧
      states result.2 likeResult.2) (outcome (step before)) (outcome (other like))

namespace Parallel

theorem pure {value : α} {like : β} (holds : post value like) :
    Parallel exact states post (Pure.pure value) (Pure.pure like) := by
  intro before other together
  exact .ok ⟨holds, together⟩

theorem bind {step : EStateM Error σ α} {other : EStateM Error τ β}
    {next : α → EStateM Error σ γ} {otherNext : β → EStateM Error τ δ}
    (first : Parallel exact states post step other)
    (second : ∀ value like, post value like →
      Parallel exact states nextPost (next value) (otherNext like)) :
    Parallel exact states nextPost (step >>= next) (other >>= otherNext) := by
  intro before like together
  rw [outcome_bind, outcome_bind]
  apply (first before like together).bind
  rintro result likeResult ⟨holds, after⟩
  exact second _ _ holds _ _ after

theorem mono {weaker : α → β → Prop} {step : EStateM Error σ α} {other : EStateM Error τ β}
    (parallel : Parallel exact states post step other)
    (weaken : ∀ value like, post value like → weaker value like) :
    Parallel exact states weaker step other := by
  intro before like together
  have repeated := parallel before like together
  generalize outcome (step before) = result, outcome (other like) = likeResult at repeated ⊢
  cases repeated with
  | ok holds => exact .ok ⟨weaken _ _ holds.1, holds.2⟩
  | error error => exact .error error
  | gained inexact error result => exact .gained inexact error _

/-- A last step that only builds a value. -/
theorem map {step : EStateM Error σ α} {other : EStateM Error τ β} {build : α → γ}
    {otherBuild : β → δ} (parallel : Parallel exact states post step other)
    (holds : ∀ value like, post value like → nextPost (build value) (otherBuild like)) :
    Parallel exact states nextPost (step >>= fun value => Pure.pure (build value))
      (other >>= fun value => Pure.pure (otherBuild value)) :=
  parallel.bind fun value like related => .pure (holds value like related)

end Parallel

end

end ProtoCompanion
