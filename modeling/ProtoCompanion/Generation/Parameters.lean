/-
Module: ProtoCompanion.Generation.Parameters
Purpose: The options that a user passes to a plugin.
Main exports: Parameters, Parameters.parse, Parameters.get?, Parameters.getAll
-/
import ProtoCompanion.Text.Split

namespace ProtoCompanion

/-- The options of a run with their values, in the order given.  A flag has the empty value. -/
structure Parameters where
  entries : List (String × String) := []
deriving Repr, DecidableEq, Inhabited

namespace Parameters

/-- The key and the value of one option: what stands before and after the first equals sign. -/
def parseEntry (entry : String) : String × String :=
  match Text.splitOnce? '=' entry with
  | some (key, value) => (Text.trim key, Text.trim value)
  | none => (entry, "")

/-- The options in a text such as `flag,key=value,key=other`.  Blank options are passed over. -/
def parse (text : String) : Parameters :=
  ⟨(((Text.split ',' text).map Text.trim).filter (· ≠ "")).map parseEntry⟩

/-- Every value of a key, in the order given. -/
def getAll (parameters : Parameters) (key : String) : List String :=
  (parameters.entries.filter (·.1 = key)).map (·.2)

/-- The first value of a key. -/
def get? (parameters : Parameters) (key : String) : Option String :=
  parameters.entries.lookup key

/-- Whether a key was passed, with or without a value. -/
def contains (parameters : Parameters) (key : String) : Bool :=
  parameters.entries.any (·.1 = key)

def isEmpty (parameters : Parameters) : Bool := parameters.entries.isEmpty

end Parameters

end ProtoCompanion
