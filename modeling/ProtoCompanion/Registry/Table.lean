/-
Module: ProtoCompanion.Registry.Table
Purpose: The symbol table of a run.
Main exports: Registry, Registry.resolve, Registry.resolveMessage, Registry.insert,
  Registry.openFile
-/
import Std.Data.TreeMap
import ProtoCompanion.Registry.Descriptor

/-!
A declaration can be reached by two names: its qualified name in the schema, and its name relative
to the outer class of its file, written in the style of that file.  Relative names of different
files may be equal; the declaration that was registered last is found.
-/

namespace ProtoCompanion

/-- The declarations registered so far, under their qualified and under their relative names; the
number of registrations; and, for each file that was opened, whether a declaration of it has the
name of protobuf-java's outer class. -/
structure Registry where
  byName : Std.TreeMap String Descriptor := ∅
  byRelativeName : Std.TreeMap String Descriptor := ∅
  registrations : Nat := 0
  collided : List Bool := []

namespace Registry

/-! ## Files -/

/-- Open a file for registration, under an identity not used before.  No declaration of it collides
with its outer class yet. -/
def openFile (registry : Registry) (file : FileDecl) (settings : UnitSettings) :
    FileUnit × Registry :=
  (.ofFile registry.collided.length file settings,
    { registry with collided := registry.collided ++ [false] })

/-- Whether a declaration of the file has the name of protobuf-java's outer class. -/
def hasCollision (registry : Registry) (unit : FileUnit) : Bool :=
  registry.collided.getD unit.identity false

/-- Note whether a declaration of the file has the name of protobuf-java's outer class. -/
def setCollision (registry : Registry) (unit : FileUnit) (collided : Bool) : Registry :=
  { registry with collided := registry.collided.set unit.identity collided }

/-- The name of protobuf-java's outer class for a file, as far as the file has been registered. -/
def outerClassName (registry : Registry) (unit : FileUnit) : String :=
  unit.outerClass.effective (registry.hasCollision unit)

/-- The class that protobuf-java has for a symbol. -/
def symbolClass (registry : Registry) (symbol : Symbol) : String :=
  symbol.javaName (registry.hasCollision symbol.unit)

/-- The class that protobuf-java has for a declaration. -/
def javaName (registry : Registry) (descriptor : Descriptor) : String :=
  descriptor.javaName (registry.hasCollision descriptor.symbol.unit)

/-! ## Declarations -/

/-- Enter a declaration under both of its names. -/
def insert (registry : Registry) (descriptor : Descriptor) : Registry :=
  { registry with
    byName := registry.byName.insert descriptor.schemaName descriptor
    byRelativeName := registry.byRelativeName.insert descriptor.relativeName descriptor
    registrations := registry.registrations + 1 }

/-- The qualified name in a reference that starts with a dot. -/
def undotted? (reference : String) : Option String :=
  match reference.toList with
  | '.' :: rest => some (String.ofList rest)
  | _ => none

/-- Resolve a reference.  A reference that starts with a dot is first taken as a qualified name.
Then the reference as it stands is taken as a relative name and, last, as a qualified one. -/
def resolve? (registry : Registry) (reference : String) : Option Descriptor :=
  ((undotted? reference).bind fun name => registry.byName[name]?).or
    (registry.byRelativeName[reference]?.or registry.byName[reference]?)

/-- Resolve a reference to something that has to be registered. -/
def resolve (registry : Registry) (reference : String) : Except Error Descriptor :=
  match registry.resolve? reference with
  | some descriptor => .ok descriptor
  | none => .error (.unresolved reference)

theorem resolve_eq_ok {registry : Registry} {reference : String}
    {descriptor : Descriptor} :
    registry.resolve reference = .ok descriptor ↔
      registry.resolve? reference = some descriptor := by
  rw [resolve]
  cases registry.resolve? reference <;> simp

/-- Resolve a reference to something that has to be a message. -/
def resolveMessage (registry : Registry) (reference : String) :
    Except Error MessageDescriptor :=
  match registry.resolve reference with
  | .ok (.message message _) => .ok message
  | .ok other => .error (.wrongKind reference .message other.kind)
  | .error error => .error error

/-- Whether a reference can be resolved. -/
def resolves (registry : Registry) (reference : String) : Bool :=
  (registry.resolve? reference).isSome

/-- The number of qualified names. -/
def size (registry : Registry) : Nat := registry.byName.size

/-- The declarations with their qualified names, in the order of the names. -/
def entries (registry : Registry) : List (String × Descriptor) := registry.byName.toList

/-- The qualified names in order. -/
def names (registry : Registry) : List String := registry.byName.keys

end Registry

end ProtoCompanion
