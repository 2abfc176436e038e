/-
Module: ProtoCompanion.Proofs.ElementComments
Purpose: The comments that are stored with the elements of a file when it is registered.
Main exports: FileDecl.commentedLocation?, FileUnit.commentAt_ofFile, Part, TopLevel.part?,
  Represents, Represents.listed, registered_comments_match_paths
-/
import ProtoCompanion.Proofs.CommentTables
import ProtoCompanion.Proofs.ElementPaths
import ProtoCompanion.Proofs.RegistrationWalk

/-!
A comment is looked up by the path at which the cursor stands when a descriptor is built.
Registered parts are therefore found again by address: at each address there is a part exactly when
there is an element, and the part has the comment of the path that belongs to the address.  The step
is from an element to the lists in it; the address says how often it is taken.
-/

namespace ProtoCompanion

/-! ## Comments of a file by path -/

/-- The locations in the source information of a file, in order. -/
def FileDecl.locations (file : FileDecl) : List SourceLocation :=
  (file.sourceInfo?.map (·.locations)).getD []

/-- The first location of a path at which there is a comment. -/
def FileDecl.commentedLocation? (file : FileDecl) (path : LocationPath) : Option SourceLocation :=
  file.locations.find? fun location => location.isCommented && location.path = path

theorem FileUnit.commentAt_ofFile (identity : Nat) (file : FileDecl) (settings : UnitSettings)
    (path : LocationPath) :
    (FileUnit.ofFile identity file settings).commentAt path =
      commentExpression ((file.commentedLocation? path).map SourceLocation.text) := by
  rw [FileDecl.commentedLocation?, ← CommentTable.get?_ofLocations]
  rfl

/-! ## Registered parts by address -/

/-- A part of what a file was registered as that has a comment. -/
inductive Part where
  | descriptor (descriptor : Descriptor)
  | field (descriptor : FieldDescriptor)
  | enumValue (descriptor : EnumValueDescriptor)
  | method (descriptor : MethodDescriptor)

namespace Part

/-- The declared name of a part. -/
def name : Part → String
  | .descriptor found => found.name
  | .field found => found.decl.name
  | .enumValue found => found.name
  | .method found => found.name

def comment : Part → String
  | .descriptor found => found.comment
  | .field found => found.comment
  | .enumValue found => found.comment
  | .method found => found.comment

/-- The parts of a list in a part.  Nested messages, nested enums and oneofs are the children of the
three kinds. -/
def listed : Part → InnerList → List Part
  | .descriptor (.message message _), .fields => message.fields.map .field
  | .descriptor (.message _ children), .nestedMessages =>
      (children.filter (·.kind = .message)).map .descriptor
  | .descriptor (.message _ children), .nestedEnums =>
      (children.filter (·.kind = .enum)).map .descriptor
  | .descriptor (.message _ children), .oneofs =>
      (children.filter (·.kind = .oneof)).map .descriptor
  | .descriptor (.enum enum), .enumValues => enum.values.map .enumValue
  | .descriptor (.service service), .methods => service.methods.map .method
  | _, _ => []

end Part

namespace TopLevel

def listed (declared : TopLevel) : FileList → List Part
  | .messages => declared.messages.map .descriptor
  | .enums => declared.enums.map .descriptor
  | .services => declared.services.map .descriptor

/-- The part at an address, if there is one. -/
def part? (declared : TopLevel) : Address → Option Part
  | .top list index => (declared.listed list)[index]?
  | .inner outer list index =>
      (declared.part? outer).bind fun part => (part.listed list)[index]?

end TopLevel

/-! ## Elements and the parts made of them -/

/-- A declaration as an element of its file. -/
def Declaration.element : Declaration → Element
  | .message decl => .message decl
  | .enum decl => .enum decl
  | .oneof _ decl => .oneof decl
  | .service decl => .service decl

/-- A part is what registration makes of the element with a location path. -/
inductive Represents (unit : FileUnit) : LocationPath → Element → Part → Prop where
  | descriptor {site : Site} {descriptor : Descriptor}
      (describes : Describes unit site descriptor) :
      Represents unit site.position.path site.decl.element (.descriptor descriptor)
  | field (path : LocationPath) (head : MessageHead) (decl : FieldDecl) :
      Represents unit path (.field decl) (.field (.ofDecl unit head decl (unit.commentAt path)))
  | enumValue (path : LocationPath) (decl : EnumValueDecl) :
      Represents unit path (.enumValue decl)
        (.enumValue { name := decl.name, number := decl.number, comment := unit.commentAt path })
  | method (position : Position) (decl : MethodDecl) (input output : MessageDescriptor) :
      Represents unit position.path (.method decl)
        (.method (methodAt unit position decl input output))

section

variable {unit : FileUnit}

theorem Represents.name_eq {path : LocationPath} {element : Element} {part : Part}
    (represents : Represents unit path element part) : part.name = element.name := by
  cases represents with
  | descriptor describes => cases describes <;> rfl
  | field path head decl => rfl
  | enumValue path decl => rfl
  | method position decl input output => rfl

theorem Represents.comment_eq {path : LocationPath} {element : Element} {part : Part}
    (represents : Represents unit path element part) : part.comment = unit.commentAt path := by
  cases represents with
  | descriptor describes => cases describes <;> rfl
  | field path head decl => rfl
  | enumValue path decl => rfl
  | method position decl input output => rfl

/-! ### Lists by index -/

theorem Position.path_element_inList (position : Position) (kind : ElementList) (index : Nat) :
    ((position.inList kind).element index).path =
      position.path ++ [kind.fieldNumber, Int32.ofNat index] := by
  simp [Position.element, Position.inList]

/-- If what is made of the elements of a list goes with some values, and such values represent the
elements that they go with, then they do so at the path of the list and the index. -/
theorem represents_list {α β γ : Type} {position : Position} (kind : ElementList)
    (goesWith : γ → β → Prop) {make : Nat → Position → α → γ} {element : α → Element}
    {part : β → Part} {xs : List α} {values : List β}
    (related : List.Forall₂ goesWith ((position.inList kind).elements make 0 xs) values)
    (represents : ∀ index position x value, goesWith (make index position x) value →
      Represents unit position.path (element x) (part value)) (index : Nat) :
    Option.Rel (Represents unit (position.path ++ [kind.fieldNumber, Int32.ofNat index]))
      (xs.map element)[index]? (values.map part)[index]? := by
  have found := rel_getElem? related index
  rw [Position.getElem?_elements, Nat.zero_add] at found
  rw [List.getElem?_map, List.getElem?_map, ← Position.path_element_inList]
  generalize values[index]? = value? at found ⊢
  cases isElement : xs[index]? with
  | none =>
      rw [isElement] at found
      cases found
      exact .none
  | some x =>
      rw [isElement] at found
      cases found with
      | some holds => exact .some (represents index _ x _ holds)

/-- Descriptors of the declarations in a list represent these. -/
theorem represents_sites {α : Type} {position : Position} {kind : ElementList}
    {declaration : Nat → α → Declaration} {element : α → Element} {xs : List α}
    {descriptors : List Descriptor}
    (describe : List.Forall₂ (Describes unit) (position.sites kind declaration xs) descriptors)
    (same : ∀ index x, (declaration index x).element = element x) (index : Nat) :
    Option.Rel (Represents unit (position.path ++ [kind.fieldNumber, Int32.ofNat index]))
      (xs.map element)[index]? (descriptors.map Part.descriptor)[index]? := by
  apply represents_list kind (Describes unit) describe
  intro number position x descriptor describes
  rw [← same number x]
  exact .descriptor describes

/-! ### Children of a kind -/

/-- The children of a message that are of one kind describe what is nested in it of that kind. -/
theorem describes_children {position : Position} {head : MessageHead} {nested : List MessageDecl}
    {children : List Descriptor}
    (describe : List.Forall₂ (Describes unit)
      (Site.children ⟨position, .message (.mk head nested)⟩) children) (wanted : DescriptorKind) :
    List.Forall₂ (Describes unit)
      ((if .message = wanted then
          position.sites (.nestedMessages head.name) (fun _ => .message) nested else []) ++
        (if .enum = wanted then
          position.sites (.nestedEnums head.name) (fun _ => .enum) head.enums else []) ++
        (if .oneof = wanted then
          position.sites (.nestedOneofs head.name) .oneof head.oneofs else []))
      (children.filter (·.kind = wanted)) := by
  have ofKind : List.Forall₂ (Describes unit)
      ((Site.children ⟨position, .message (.mk head nested)⟩).filter fun child =>
        child.decl.kind = wanted)
      (children.filter (·.kind = wanted)) := by
    refine List.rel_filter ?_ describe
    intro child descriptor describes
    simp only [describes.kind_eq]
  rw [Site.children, List.filter_append, List.filter_append,
    position.filter_sites _ .message (fun _ _ => rfl),
    position.filter_sites _ .enum (fun _ _ => rfl),
    position.filter_sites _ .oneof (fun _ _ => rfl)] at ofKind
  exact ofKind

/-! ### From an element to the lists in it -/

theorem Describes.listed {site : Site} {descriptor : Descriptor}
    (describes : Describes unit site descriptor) (list : InnerList) (index : Nat) :
    Option.Rel (Represents unit (site.position.path ++ [list.number, Int32.ofNat index]))
      (site.decl.element.listed list)[index]?
      ((Part.descriptor descriptor).listed list)[index]? := by
  cases describes with
  | oneof serial position number decl => cases list <;> exact .none
  | enum serial position decl =>
      cases list with
      | enumValues =>
          apply represents_list .enumValues Eq (List.forall₂_refl _)
          intro number position value made isMade
          subst isMade
          exact .enumValue position.path value
      | fields | nestedMessages | nestedEnums | oneofs | methods => exact .none
  | service serial position decl methods describe =>
      cases list with
      | methods =>
          apply represents_list .methods _ describe
          intro number position method made isMade
          rw [isMade]
          exact .method position method made.input made.output
      | fields | nestedMessages | nestedEnums | oneofs | enumValues => exact .none
  | message serial position head nested children describe =>
      cases list with
      | enumValues | methods => exact .none
      | fields =>
          apply represents_list .fields Eq (List.forall₂_refl _)
          intro number position field made isMade
          subst isMade
          exact .field position.path head field
      | nestedMessages =>
          have inner := describes_children describe .message
          simp only [if_true, reduceCtorEq, if_false, List.append_nil] at inner
          exact represents_sites inner (fun _ _ => rfl) index
      | nestedEnums =>
          have inner := describes_children describe .enum
          simp only [if_true, reduceCtorEq, if_false, List.append_nil, List.nil_append] at inner
          exact represents_sites inner (fun _ _ => rfl) index
      | oneofs =>
          have inner := describes_children describe .oneof
          simp only [if_true, reduceCtorEq, if_false, List.nil_append] at inner
          exact represents_sites inner (fun _ _ => rfl) index

theorem Represents.listed {path : LocationPath} {element : Element} {part : Part}
    (represents : Represents unit path element part) (list : InnerList) (index : Nat) :
    Option.Rel (Represents unit (path ++ [list.number, Int32.ofNat index]))
      (element.listed list)[index]? (part.listed list)[index]? := by
  cases represents with
  | descriptor describes => exact describes.listed list index
  | field path head decl => cases list <;> exact .none
  | enumValue path decl => cases list <;> exact .none
  | method position decl input output => cases list <;> exact .none

/-! ## Whole files -/

/-- The induction is on the address: each list on the way leads from an element to an element and
from its part to a part. -/
theorem represents_at {file : FileDecl} {declared : TopLevel}
    (enums : List.Forall₂ (Describes unit) file.enumSites declared.enums)
    (messages : List.Forall₂ (Describes unit) file.messageSites declared.messages)
    (services : List.Forall₂ (Describes unit) file.serviceSites declared.services)
    (address : Address) :
    Option.Rel (Represents unit address.path) (file.element? address) (declared.part? address) := by
  induction address with
  | top list index =>
      cases list with
      | messages => exact represents_sites messages (fun _ _ => rfl) index
      | enums => exact represents_sites enums (fun _ _ => rfl) index
      | services => exact represents_sites services (fun _ _ => rfl) index
  | inner outer list index ih =>
      rw [FileDecl.element?, TopLevel.part?]
      generalize file.element? outer = element? at ih ⊢
      generalize declared.part? outer = part? at ih ⊢
      cases ih with
      | none => exact .none
      | some represents => exact represents.listed list index

end

/-- When a file was registered, there is a part at an address exactly when there is an element, and
the comment stored with it is that of the first location that has the element's path and a comment,
or the empty one if there is no such location.  Different elements have different paths, unless a
list in the file is longer than indices can be, so no location gives its comment to two of them. -/
theorem registered_comments_match_paths (file : FileDecl) (settings : UnitSettings)
    (start : Registry) :
    (match registerFile file settings start with
    | .ok (_, declared) _ => ∀ address : Address,
        Option.Rel
          (fun element part => part.name = element.name ∧
            part.comment = commentExpression
              ((file.commentedLocation? address.path).map SourceLocation.text))
          (file.element? address) (declared.part? address)
    | .error _ _ => True) ∧
    (file.ListsBelow (2 ^ 31) → ∀ a b : Address,
      (file.element? a).isSome → (file.element? b).isSome → a ≠ b →
        a.path ≠ b.path ∧
          ∀ location, file.commentedLocation? a.path = some location →
            file.commentedLocation? b.path ≠ some location) := by
  constructor
  · have run := registerFile_run file settings start
    cases result : registerFile file settings start with
    | error error final => trivial
    | ok answer final =>
        obtain ⟨answered, declared⟩ := answer
        rw [result] at run
        obtain ⟨_, _, enums, messages, services⟩ := run
        intro address
        have found := represents_at enums messages services address
        generalize file.element? address = element? at found ⊢
        generalize declared.part? address = part? at found ⊢
        cases found with
        | none => exact .none
        | some represents =>
            refine .some ⟨represents.name_eq, ?_⟩
            rw [represents.comment_eq]
            exact FileUnit.commentAt_ofFile _ file settings address.path
  · intro short a b here there different
    obtain ⟨first, isFirst⟩ := Option.isSome_iff_exists.mp here
    obtain ⟨second, isSecond⟩ := Option.isSome_iff_exists.mp there
    have apart : a.path ≠ b.path := fun same =>
      different (FileDecl.eq_of_path_eq short isFirst isSecond same)
    refine ⟨apart, ?_⟩
    intro location found foundToo
    have atFirst := List.find?_some found
    have atSecond := List.find?_some foundToo
    simp only [Bool.and_eq_true, decide_eq_true_eq] at atFirst atSecond
    exact apart (atFirst.2.symm.trans atSecond.2)

/-- An enum in the second message of a file and the first enum of the file have different paths. -/
theorem nested_enum_path_differs :
    let decl : MessageDecl := .mk { enums := [{}] } []
    let file : FileDecl := { messages := [decl, decl], enums := [{}] }
    file.ListsBelow (2 ^ 31) ∧
      (Address.inner (.top .messages 1) .nestedEnums 0).path ≠ (Address.top .enums 0).path := by
  intro decl file
  have known : ∀ address element, file.element? address = some element →
      element = .message decl ∨ element = .enum {} := by
    intro address
    induction address with
    | top list index =>
        intro element found
        have member := List.mem_of_getElem? found
        cases list <;> simp [FileDecl.listed, file] at member <;> simp [member]
    | inner outer list index ih =>
        intro element found
        obtain ⟨holder, isHolder, foundIn⟩ := Option.bind_eq_some_iff.mp found
        have member := List.mem_of_getElem? foundIn
        rcases ih holder isHolder with isMessage | isEnum
        · rw [isMessage] at member
          cases list <;>
            simp [Element.listed, decl, MessageDecl.head, MessageDecl.nested] at member
          exact .inr member
        · rw [isEnum] at member
          cases list <;> simp [Element.listed] at member
  have short : file.ListsBelow (2 ^ 31) := by
    constructor
    · intro list
      cases list <;> decide
    · intro address element found list
      rcases known address element found with isMessage | isEnum
      · rw [isMessage]
        cases list <;> decide
      · rw [isEnum]
        cases list <;> decide
  refine ⟨short, ?_⟩
  exact ((registered_comments_match_paths file { companionClass := "Companion" } {}).2 short
    (.inner (.top .messages 1) .nestedEnums 0) (.top .enums 0) rfl rfl (by decide)).1

end ProtoCompanion
