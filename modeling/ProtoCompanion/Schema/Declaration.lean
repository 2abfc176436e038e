/-
Module: ProtoCompanion.Schema.Declaration
Purpose: What protoc says about one file: its declarations as they were parsed, with every optional
  part kept optional, and the values that absent parts are read as.
Main exports: FileDecl, MessageDecl, FieldDecl, EnumDecl, OneofDecl, ServiceDecl, MethodDecl,
  SourceInfo, Dialect
-/

namespace ProtoCompanion

/-- A oneof of a message.  Its fields are listed with the other fields of the message. -/
structure OneofDecl where
  name? : Option String := none
deriving Repr, DecidableEq, Inhabited

/-- A field of a message.  The label and the type are numbers whose meaning is given by
`FieldLabel` and `ProtoType`. -/
structure FieldDecl where
  name? : Option String := none
  number? : Option Int32 := none
  label? : Option Int32 := none
  type? : Option Int32 := none
  typeName? : Option String := none
  oneofIndex? : Option Int32 := none
deriving Repr, DecidableEq, Inhabited

/-- A named number of an enum. -/
structure EnumValueDecl where
  name? : Option String := none
  number? : Option Int32 := none
deriving Repr, DecidableEq, Inhabited

/-- An enum with its values in order. -/
structure EnumDecl where
  name? : Option String := none
  values : List EnumValueDecl := []
deriving Repr, DecidableEq, Inhabited

/-- The options of a message that matter here. -/
structure MessageOptions where
  mapEntryFlag? : Option Bool := none
deriving Repr, DecidableEq, Inhabited

/-- A message apart from the messages nested in it. -/
structure MessageHead where
  name? : Option String := none
  fields : List FieldDecl := []
  enums : List EnumDecl := []
  oneofs : List OneofDecl := []
  options? : Option MessageOptions := none
deriving Repr, DecidableEq, Inhabited

/-- A message with the messages nested in it. -/
inductive MessageDecl where
  | mk (head : MessageHead) (nested : List MessageDecl)
deriving Repr, Inhabited

/-- A method of a service, with the references to its two message types. -/
structure MethodDecl where
  name? : Option String := none
  input? : Option String := none
  output? : Option String := none
  clientStreaming? : Option Bool := none
  serverStreaming? : Option Bool := none
deriving Repr, DecidableEq, Inhabited

/-- A service with its methods in order. -/
structure ServiceDecl where
  name? : Option String := none
  methods : List MethodDecl := []
deriving Repr, DecidableEq, Inhabited

/-- The options of a file that choose Java names. -/
structure FileOptions where
  javaPackage? : Option String := none
  javaOuterClass? : Option String := none
  javaMultipleFiles? : Option Bool := none
deriving Repr, DecidableEq, Inhabited

/-- The comments that stand at one place of the source.  The path leads from the file to the
element by field numbers and list indices. -/
structure SourceLocation where
  path : List Int32 := []
  leading? : Option String := none
  trailing? : Option String := none
  detached : List String := []
deriving Repr, DecidableEq, Inhabited

/-- The places of a file that were recorded, in order. -/
structure SourceInfo where
  locations : List SourceLocation := []
deriving Repr, DecidableEq, Inhabited

/-- One parsed file. -/
structure FileDecl where
  name? : Option String := none
  package? : Option String := none
  dialect? : Option String := none
  messages : List MessageDecl := []
  enums : List EnumDecl := []
  services : List ServiceDecl := []
  options? : Option FileOptions := none
  sourceInfo? : Option SourceInfo := none
deriving Repr, Inhabited

/-! ## Reading absent parts

An absent text reads as the empty text, an absent number as zero and an absent flag as false.
-/

def OneofDecl.name (oneof : OneofDecl) : String := oneof.name?.getD ""

def FieldDecl.name (field : FieldDecl) : String := field.name?.getD ""

def FieldDecl.number (field : FieldDecl) : Int32 := field.number?.getD 0

def FieldDecl.typeName (field : FieldDecl) : String := field.typeName?.getD ""

def EnumValueDecl.name (value : EnumValueDecl) : String := value.name?.getD ""

def EnumValueDecl.number (value : EnumValueDecl) : Int32 := value.number?.getD 0

def EnumDecl.name (decl : EnumDecl) : String := decl.name?.getD ""

def MessageHead.name (head : MessageHead) : String := head.name?.getD ""

/-- The messages that stand for the entries of a map field are marked by an option. -/
def MessageHead.isMapEntry (head : MessageHead) : Bool :=
  (head.options?.bind (·.mapEntryFlag?)).getD false

def MessageDecl.head : MessageDecl → MessageHead
  | .mk head _ => head

def MessageDecl.nested : MessageDecl → List MessageDecl
  | .mk _ nested => nested

def MethodDecl.name (method : MethodDecl) : String := method.name?.getD ""

def MethodDecl.input (method : MethodDecl) : String := method.input?.getD ""

def MethodDecl.output (method : MethodDecl) : String := method.output?.getD ""

def MethodDecl.clientStreaming (method : MethodDecl) : Bool := method.clientStreaming?.getD false

def MethodDecl.serverStreaming (method : MethodDecl) : Bool := method.serverStreaming?.getD false

def ServiceDecl.name (service : ServiceDecl) : String := service.name?.getD ""

def FileDecl.name (file : FileDecl) : String := file.name?.getD ""

def FileDecl.package (file : FileDecl) : String := file.package?.getD ""

/-- Whether every top-level message of the file gets a Java file of its own. -/
def FileDecl.multipleFiles (file : FileDecl) : Bool :=
  (file.options?.bind (·.javaMultipleFiles?)).getD false

/-- The Java package chosen by the file, if it chooses one. -/
def FileDecl.javaPackage? (file : FileDecl) : Option String :=
  file.options?.bind (·.javaPackage?)

/-- The package that generated code goes into: the Java package of the file, and its own package if
it chooses none. -/
def FileDecl.outputPackage (file : FileDecl) : String :=
  file.javaPackage?.getD file.package

/-! ## Dialects -/

/-- The dialects of the schema language. -/
inductive Dialect where
  | proto2
  | proto3
  | editions
deriving Repr, DecidableEq, Inhabited

/-- The dialect named by a file.  A file that names none, or an unknown one, is read as proto2. -/
def Dialect.ofName : Option String → Dialect
  | some "proto3" => .proto3
  | some "editions" => .editions
  | _ => .proto2

def FileDecl.dialect (file : FileDecl) : Dialect := Dialect.ofName file.dialect?

end ProtoCompanion
