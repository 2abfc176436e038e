/-
Module: ProtoCompanion.Proofs.ElementPaths
Purpose: The elements of a file, the lists that lead to them, and their location paths.
Main exports: Element, FileList, InnerList, Address, Address.path, FileDecl.element?,
  FileDecl.ListsBelow, FileDecl.eq_of_path_eq
-/
import Mathlib.Algebra.Ring.Nat
import ProtoCompanion.Schema.Comment

/-!
An address names an element by the lists that lead to it, with an index in each of them.  Its
location path is made of the numbers that `descriptor.proto` gives to these lists.  The numbers of
lists of different elements coincide, and so do indices that differ by a multiple of 2^32; so it has
to be shown that a path leads to one element only.
-/

namespace ProtoCompanion

/-! ## Elements and lists -/

/-- A part of a file that can have a comment of its own. -/
inductive Element where
  | message (decl : MessageDecl)
  | field (decl : FieldDecl)
  | enum (decl : EnumDecl)
  | enumValue (decl : EnumValueDecl)
  | oneof (decl : OneofDecl)
  | service (decl : ServiceDecl)
  | method (decl : MethodDecl)

def Element.name : Element → String
  | message decl => decl.head.name
  | field decl => decl.name
  | enum decl => decl.name
  | enumValue decl => decl.name
  | oneof decl => decl.name
  | service decl => decl.name
  | method decl => decl.name

/-- The lists of elements in a file. -/
inductive FileList where
  | messages
  | enums
  | services
deriving Repr, DecidableEq

/-- The number of a list among the fields of a file in `descriptor.proto`. -/
def FileList.number : FileList → Int32
  | messages => 4
  | enums => 5
  | services => 6

/-- The lists of elements in an element: four of them in a message, one in an enum and one in a
service. -/
inductive InnerList where
  | fields
  | nestedMessages
  | nestedEnums
  | oneofs
  | enumValues
  | methods
deriving Repr, DecidableEq

/-- The number of a list among the fields of the element that holds it. -/
def InnerList.number : InnerList → Int32
  | fields => 2
  | nestedMessages => 3
  | nestedEnums => 4
  | oneofs => 8
  | enumValues => 2
  | methods => 2

def FileDecl.listed (file : FileDecl) : FileList → List Element
  | .messages => file.messages.map .message
  | .enums => file.enums.map .enum
  | .services => file.services.map .service

/-- The elements of a list in an element; there are none in a list that it does not have. -/
def Element.listed : Element → InnerList → List Element
  | .message decl, .fields => decl.head.fields.map .field
  | .message decl, .nestedMessages => decl.nested.map .message
  | .message decl, .nestedEnums => decl.head.enums.map .enum
  | .message decl, .oneofs => decl.head.oneofs.map .oneof
  | .enum decl, .enumValues => decl.values.map .enumValue
  | .service decl, .methods => decl.methods.map .method
  | _, _ => []

/-! ## Addresses -/

/-- The way to an element: a list of the file, or a list of another element, with an index. -/
inductive Address where
  | top (list : FileList) (index : Nat)
  | inner (outer : Address) (list : InnerList) (index : Nat)
deriving Repr, DecidableEq

/-- The location path of an address: for each list on the way its number and the index in it. -/
def Address.path : Address → LocationPath
  | top list index => [list.number, Int32.ofNat index]
  | inner outer list index => outer.path ++ [list.number, Int32.ofNat index]

/-- The element at an address, if there is one. -/
def FileDecl.element? (file : FileDecl) : Address → Option Element
  | .top list index => (file.listed list)[index]?
  | .inner outer list index =>
      (file.element? outer).bind fun element => (element.listed list)[index]?

/-- All lists in a file, at every depth, are shorter than a bound. -/
structure FileDecl.ListsBelow (file : FileDecl) (bound : Nat) : Prop where
  top : ∀ list, (file.listed list).length < bound
  inner : ∀ address element, file.element? address = some element →
    ∀ list, (element.listed list).length < bound

/-! ## A path leads to one element -/

theorem ofNat_eq_ofNat_iff {i j : Nat} (hi : i < 2 ^ 31) (hj : j < 2 ^ 31) :
    Int32.ofNat i = Int32.ofNat j ↔ i = j := by
  constructor
  · intro same
    have ints := congrArg Int32.toInt same
    rw [Int32.toInt_ofNat_of_lt hi, Int32.toInt_ofNat_of_lt hj] at ints
    exact Int.ofNat_inj.mp ints
  · intro same
    rw [same]

/-- Indices in a short list are told apart by what they are cut to. -/
theorem index_eq_of_ofNat_eq {α : Type} {xs : List α} {i j : Nat} {x y : α}
    (short : xs.length < 2 ^ 31) (here : xs[i]? = some x) (there : xs[j]? = some y)
    (same : Int32.ofNat i = Int32.ofNat j) : i = j := by
  obtain ⟨hi, -⟩ := List.getElem?_eq_some_iff.mp here
  obtain ⟨hj, -⟩ := List.getElem?_eq_some_iff.mp there
  exact (ofNat_eq_ofNat_iff (Nat.lt_trans hi short) (Nat.lt_trans hj short)).mp same

theorem FileList.eq_of_number_eq {list other : FileList} (same : list.number = other.number) :
    list = other := by
  revert same
  cases list <;> cases other <;> decide

/-- The lists that one element has are told apart by their numbers. -/
theorem InnerList.eq_of_number_eq {element : Element} {list other : InnerList} {i j : Nat}
    {first second : Element} (here : (element.listed list)[i]? = some first)
    (there : (element.listed other)[j]? = some second) (same : list.number = other.number) :
    list = other := by
  -- A list that the element does not have is empty, which leaves the lists of its own kind.
  cases element <;> cases list <;> simp [Element.listed] at here <;>
    cases other <;> simp [Element.listed] at there <;>
    first
      | rfl
      | exact absurd same (by decide)

theorem Address.inner_path_ne_top (outer : Address) (list : InnerList) (other : FileList)
    (i j : Nat) : (Address.inner outer list i).path ≠ (Address.top other j).path := by
  intro same
  have lengths := congrArg List.length same
  simp [Address.path] at lengths
  cases outer <;> simp [Address.path] at lengths

/-- The induction is on the first address.  The last two numbers of the path say in which list of
the element before it the element is found, and where; that element is the same by induction. -/
theorem FileDecl.eq_of_path_eq {file : FileDecl} (short : file.ListsBelow (2 ^ 31))
    {a b : Address} {first second : Element} (here : file.element? a = some first)
    (there : file.element? b = some second) (same : a.path = b.path) : a = b := by
  induction a generalizing b first second with
  | top list i =>
      cases b with
      | inner around other j => exact absurd same.symm (around.inner_path_ne_top other list j i)
      | top other j =>
          simp only [Address.path, List.cons.injEq, and_true] at same
          have sameList := FileList.eq_of_number_eq same.1
          subst sameList
          rw [index_eq_of_ofNat_eq (short.top list) here there same.2]
  | inner outer list i ih =>
      cases b with
      | top other j => exact absurd same (outer.inner_path_ne_top list other i j)
      | inner around other j =>
          obtain ⟨element, isElement, hereIn⟩ := Option.bind_eq_some_iff.mp here
          obtain ⟨holder, isHolder, thereIn⟩ := Option.bind_eq_some_iff.mp there
          obtain ⟨samePath, sameEnd⟩ := List.append_inj' same rfl
          have sameOuter := ih isElement isHolder samePath
          subst sameOuter
          have sameElement : element = holder := Option.some.inj (isElement.symm.trans isHolder)
          subst sameElement
          simp only [List.cons.injEq, and_true] at sameEnd
          have sameList := InnerList.eq_of_number_eq hereIn thereIn sameEnd.1
          subst sameList
          have bound := short.inner outer element isElement list
          rw [index_eq_of_ofNat_eq bound hereIn thereIn sameEnd.2]

example :
    (FileDecl.element? {
      messages := [.mk {} [.mk { enums := [{ values := [{ name? := some "RED" }] }] } []]] }
        (.inner (.inner (.inner (.top .messages 0) .nestedMessages 0) .nestedEnums 0)
          .enumValues 0)).map (·.name) = some "RED" ∧
    (Address.inner (.inner (.inner (.top .messages 0) .nestedMessages 0) .nestedEnums 0)
      .enumValues 0).path = [4, 0, 3, 0, 4, 0, 2, 0] := by
  decide

end ProtoCompanion
