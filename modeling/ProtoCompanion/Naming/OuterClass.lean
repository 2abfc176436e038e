/-
Module: ProtoCompanion.Naming.OuterClass
Purpose: The outer classes of a file, and the rule by which declared names are checked against them.
Main exports: OuterClass, OuterClass.ofFile, OuterClass.effective, OuterClass.accept
-/
import ProtoCompanion.Error
import ProtoCompanion.Naming.Case

/-!
protobuf-java wraps the declarations of a file in an outer class.  When a declaration has the name
of that class, the class gets a suffix, which holds for the whole file: also for the declarations
that were seen before.  The generated companion code has a wrapper class of its own, whose name no
declaration may have.
-/

namespace ProtoCompanion

/-- The name that protobuf-java starts from for the outer class of a file. -/
def FileDecl.outerClassName (file : FileDecl) : String :=
  (file.options?.bind (·.javaOuterClass?)).getD (Naming.outerClassOfFile file.name)

/-- The outer classes of a file: that of protobuf-java, as long as no declaration collides with it,
and the wrapper of the companion code. -/
structure OuterClass where
  javaClass : String
  companionClass : String
  multipleFiles : Bool
deriving Repr, DecidableEq, Inhabited

namespace OuterClass

/-- The outer classes of a file.  The wrapper's name is made from that of protobuf-java's class. -/
def ofFile (file : FileDecl) (companionClass : String) : OuterClass where
  javaClass := file.outerClassName
  companionClass := companionClass
  multipleFiles := file.multipleFiles

/-- What protobuf-java's outer class is called after a collision. -/
def suffixed (outer : OuterClass) : String := outer.javaClass ++ "OuterClass"

/-- The name of protobuf-java's outer class, given whether a declaration collides with it. -/
def effective (outer : OuterClass) (collided : Bool) : String :=
  if collided then outer.suffixed else outer.javaClass

/-- Check a declared name.  The state says whether a declaration collides with protobuf-java's
outer class; it is set by a name that does. -/
def accept (outer : OuterClass) (name : String) : EStateM Error Bool Unit := do
  let collided ← get
  if collided ∧ name = outer.effective collided then
    throw (.nameClash name .suffixedOuterClass)
  else if name = outer.javaClass then set true
  else if name = outer.companionClass then throw (.nameClash name .wrapperClass)

end OuterClass

end ProtoCompanion
