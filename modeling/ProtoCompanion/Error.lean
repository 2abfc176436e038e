/-
Module: ProtoCompanion.Error
Purpose: The causes for which a run can fail, and their wording.
Main exports: Error, Error.message, DescriptorKind, TraversalFault
-/
import ProtoCompanion.Schema.ElementType

namespace ProtoCompanion

/-- The kinds of declarations that are kept in the registry. -/
inductive DescriptorKind where
  | message
  | enum
  | oneof
  | service
deriving Repr, DecidableEq, Inhabited

/-- The kind with its article. -/
def DescriptorKind.phrase : DescriptorKind → String
  | message => "a message"
  | enum => "an enum"
  | oneof => "a oneof"
  | service => "a service"

/-- Why a declared name cannot be accepted. -/
inductive NamingClash where
  /-- The name is that of the outer class, which got a suffix to make way for a declaration. -/
  | suffixedOuterClass
  /-- The name is that of the class which wraps the generated code. -/
  | wrapperClass
deriving Repr, DecidableEq, Inhabited

/-- What is wrong with the order in which lists and elements are entered and left. -/
inductive TraversalFault where
  | listEndInElement
  | listEndWithoutStart
  | elementEndInList
  | elementEndWithoutStart
  | emptyNames
  | emptyPath
  /-- A fault described by a generator. -/
  | reported (text : String)
deriving Repr, DecidableEq, Inhabited

def TraversalFault.message : TraversalFault → String
  | listEndInElement => "end of list inside a list element"
  | listEndWithoutStart => "end of list without a matching start"
  | elementEndInList => "end of list element inside a list"
  | elementEndWithoutStart => "end of list element without a matching start"
  | emptyNames => "enclosing name stack is empty"
  | emptyPath => "location path is empty"
  | reported text => text

/-- The two fields of a map entry. -/
inductive MapEntryPart where
  | key
  | value
deriving Repr, DecidableEq, Inhabited

/-- The name of the field that holds a part of a map entry. -/
def MapEntryPart.fieldName : MapEntryPart → String
  | key => "key"
  | value => "value"

/-- The causes of failure. -/
inductive Error where
  /-- A reference to a name that nothing was registered under. -/
  | unresolved (name : String)
  /-- A reference to a declaration of another kind than the one needed. -/
  | wrongKind (name : String) (expected actual : DescriptorKind)
  /-- A declaration whose Java class would clash with another class of the file. -/
  | nameClash (name : String) (clash : NamingClash)
  /-- Lists and elements that were not left in the order in which they were entered. -/
  | traversal (fault : TraversalFault)
  /-- A field whose type has no Java scalar, where a scalar is needed. -/
  | notScalar (field : String) (type : ProtoType)
  /-- A map entry without one of its two fields. -/
  | incompleteMapEntry (name : String) (missing : MapEntryPart)
  /-- Generated code that could not be formatted, with what the formatter had to say. -/
  | unformatted (file content report : String)
  /-- Bytes that are no serialized request. -/
  | malformedRequest
  /-- A failure to read the request or to write the response. -/
  | transfer (report : String)
deriving Repr, DecidableEq, Inhabited

/-- The wording of an error. -/
def Error.message : Error → String
  | unresolved name => "descriptor " ++ name ++ " is not present in the registry"
  | wrongKind name expected actual =>
      "descriptor " ++ name ++ " is " ++ actual.phrase ++ ", expected " ++ expected.phrase
  | nameClash name clash =>
      "descriptor name " ++ name ++ " not allowed: " ++
        match clash with
        | .suffixedOuterClass => "clashes with the suffixed protobuf-java outer class"
        | .wrapperClass => "reserved for the generated " ++ name ++ " wrapper class"
  | traversal fault => "traversal consistency failure: " ++ fault.message
  | notScalar field type =>
      "field " ++ field ++ " has unexpected non-scalar type " ++ type.name
  | incompleteMapEntry name missing =>
      "map entry " ++ name ++ " has no " ++ missing.fieldName ++ " field"
  | unformatted file content report =>
      "got error " ++ report ++ " when formatting " ++ file ++ ":\n" ++ content
  | malformedRequest => "invalid CodeGeneratorRequest: malformed protobuf message"
  | transfer report => report

/-- Two computations that succeed one after the other. -/
theorem exists_of_bind_eq_ok {α β : Type} {step : Except Error α} {next : α → Except Error β}
    {result : β} (succeeds : step >>= next = .ok result) :
    ∃ value, step = .ok value ∧ next value = .ok result := by
  cases step with
  | error error => cases succeeds
  | ok value => exact ⟨value, rfl, succeeds⟩

theorem exists_of_map_eq_ok {α β : Type} {step : Except Error α} {f : α → β} {result : β}
    (succeeds : step.map f = .ok result) : ∃ value, step = .ok value ∧ f value = result := by
  cases step with
  | error error => cases succeeds
  | ok value => exact ⟨value, rfl, Except.ok.inj succeeds⟩

theorem eq_ok_of_toOption {α : Type} {step : Except Error α} {value : α}
    (succeeds : step.toOption = some value) : step = .ok value := by
  cases step with
  | error error => cases succeeds
  | ok found => rw [Option.some.inj succeeds]

end ProtoCompanion
