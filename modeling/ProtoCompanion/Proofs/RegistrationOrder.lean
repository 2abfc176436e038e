/-
Module: ProtoCompanion.Proofs.RegistrationOrder
Purpose: The order in which the declarations of a file are registered, read off the file alone.
Main exports: Declaration, Site, Site.children, Site.postorder, FileDecl.sites,
  Descriptor.postorder, Site.postorder_eq, MessageDecl.nestedInduction,
  Descriptor.nestedInduction
-/
import ProtoCompanion.Registry.Registration

/-!
The order is stated without a walk, a cursor or a registry: it is the postorder of the tree of
declarations, in which a message comes after its nested messages, its nested enums and its oneofs.
Each declaration is listed with its position, which is likewise computed from the tree.
-/

namespace ProtoCompanion

/-! ## Declarations and their sites -/

/-- A declaration that gets a descriptor.  A oneof comes with its index in the message. -/
inductive Declaration where
  | message (decl : MessageDecl)
  | enum (decl : EnumDecl)
  | oneof (index : Nat) (decl : OneofDecl)
  | service (decl : ServiceDecl)

namespace Declaration

def name : Declaration → String
  | message decl => decl.head.name
  | enum decl => decl.name
  | oneof _ decl => decl.name
  | service decl => decl.name

def kind : Declaration → DescriptorKind
  | message _ => .message
  | enum _ => .enum
  | oneof _ _ => .oneof
  | service _ => .service

/-- The references that have to resolve to messages when the declaration is registered: the types
of the methods of a service. -/
def references : Declaration → List String
  | service decl => decl.methods.flatMap fun method => [method.input, method.output]
  | _ => []

end Declaration

/-- A declaration with its position in the file. -/
structure Site where
  position : Position
  decl : Declaration

def Site.name (site : Site) : String := site.decl.name

/-! ## Elements of a list -/

/-- What is made of the elements of a list, each with its index and its position.  The list is at
the given position, and its first element has the given index. -/
def Position.elements {α β : Type} (position : Position) (make : Nat → Position → α → β)
    (start : Nat) : List α → List β
  | [] => []
  | x :: xs =>
      make start (position.element start) x :: position.elements make (start + 1) xs

/-- The declarations in a list, of which the first has the given index. -/
def Position.sitesFrom {α : Type} (position : Position) (declaration : Nat → α → Declaration) :
    Nat → List α → List Site :=
  position.elements fun index position decl => ⟨position, declaration index decl⟩

/-- The declarations in a list of the declaration at a position. -/
def Position.sites {α : Type} (position : Position) (kind : ElementList)
    (declaration : Nat → α → Declaration) : List α → List Site :=
  (position.inList kind).sitesFrom declaration 0

/-! ## Order in a message -/

mutual

/-- A message and all that is nested in it, in the order of registration. -/
def messagePostorder (position : Position) : MessageDecl → List Site
  | .mk head nested =>
      messagesPostorder (position.inList (.nestedMessages head.name)) 0 nested ++
        position.sites (.nestedEnums head.name) (fun _ => .enum) head.enums ++
        position.sites (.nestedOneofs head.name) .oneof head.oneofs ++
        [⟨position, .message (.mk head nested)⟩]

/-- The messages of a list and all that is nested in them, in the order of registration. -/
def messagesPostorder (position : Position) (index : Nat) : List MessageDecl → List Site
  | [] => []
  | decl :: rest =>
      messagePostorder (position.element index) decl ++ messagesPostorder position (index + 1) rest

end

namespace Site

/-- A declaration and all that is nested in it, in the order of registration. -/
def postorder (site : Site) : List Site :=
  match site.decl with
  | .message decl => messagePostorder site.position decl
  | _ => [site]

/-- What is nested directly in a declaration: the messages of a message, then its enums, then its
oneofs. -/
def children (site : Site) : List Site :=
  match site.decl with
  | .message (.mk head nested) =>
      site.position.sites (.nestedMessages head.name) (fun _ => .message) nested ++
        site.position.sites (.nestedEnums head.name) (fun _ => .enum) head.enums ++
        site.position.sites (.nestedOneofs head.name) .oneof head.oneofs
  | _ => []

end Site

/-! ## Order in a file -/

namespace FileDecl

def enumSites (file : FileDecl) : List Site :=
  Position.sites {} .enums (fun _ => .enum) file.enums

def messageSites (file : FileDecl) : List Site :=
  Position.sites {} .messages (fun _ => .message) file.messages

def serviceSites (file : FileDecl) : List Site :=
  Position.sites {} .services (fun _ => .service) file.services

/-- All declarations of a file in the order of registration: its enums, each of its messages after
all that is nested in it, and its services. -/
def sites (file : FileDecl) : List Site :=
  file.enumSites ++ file.messageSites.flatMap Site.postorder ++ file.serviceSites

end FileDecl

/-! ## The same order among descriptors -/

mutual

/-- A descriptor after all of its children, at every depth. -/
def Descriptor.postorder : Descriptor → List Descriptor
  | .message descriptor children =>
      Descriptor.postorders children ++ [.message descriptor children]
  | .enum descriptor => [.enum descriptor]
  | .oneof descriptor => [.oneof descriptor]
  | .service descriptor => [.service descriptor]

/-- The postorders of a list of descriptors, one after the other. -/
def Descriptor.postorders : List Descriptor → List Descriptor
  | [] => []
  | descriptor :: rest => descriptor.postorder ++ Descriptor.postorders rest

end

/-- All descriptors of a file, at every depth, in the order of registration. -/
def TopLevel.descriptors (declared : TopLevel) : List Descriptor :=
  Descriptor.postorders (declared.enums ++ declared.messages ++ declared.services)

/-! ## Laws of the order -/

/-- Induction on messages, with the property at hand for all nested messages. -/
theorem MessageDecl.nestedInduction {motive : MessageDecl → Prop}
    (mk : ∀ head nested, (∀ decl ∈ nested, motive decl) → motive (.mk head nested))
    (decl : MessageDecl) : motive decl := by
  refine @MessageDecl.rec motive (fun nested => ∀ decl ∈ nested, motive decl) mk ?nil ?cons decl
  case nil =>
    intro decl member
    cases member
  case cons =>
    intro first rest firstHolds restHold decl member
    rcases List.mem_cons.mp member with same | later
    · subst same
      exact firstHolds
    · exact restHold decl later

/-- Induction on descriptors, with the property at hand for all children. -/
theorem Descriptor.nestedInduction {motive : Descriptor → Prop}
    (step : ∀ descriptor, (∀ child ∈ descriptor.children, motive child) → motive descriptor)
    (descriptor : Descriptor) : motive descriptor := by
  have childless : ∀ leaf : Descriptor, leaf.children = [] → motive leaf := by
    intro leaf none
    apply step
    rw [none]
    intro child member
    cases member
  refine @Descriptor.rec motive (fun children => ∀ child ∈ children, motive child) ?message
    (fun _ => childless _ rfl) (fun _ => childless _ rfl) (fun _ => childless _ rfl) ?nil ?cons
    descriptor
  case message =>
    intro own children holds
    exact step (.message own children) holds
  case nil =>
    intro child member
    cases member
  case cons =>
    intro first others firstHolds othersHold child member
    rcases List.mem_cons.mp member with same | later
    · subst same
      exact firstHolds
    · exact othersHold child later

theorem Position.sitesFrom_cons {α : Type} (position : Position)
    (declaration : Nat → α → Declaration) (start : Nat) (decl : α) (rest : List α) :
    position.sitesFrom declaration start (decl :: rest) =
      ⟨position.element start, declaration start decl⟩ ::
        position.sitesFrom declaration (start + 1) rest :=
  rfl

/-- The declarations in a list are all of one kind. -/
theorem Position.filter_sites {α : Type} (position : Position) (kind : ElementList)
    {declaration : Nat → α → Declaration} (declared : DescriptorKind)
    (same : ∀ index x, (declaration index x).kind = declared) (xs : List α)
    (wanted : DescriptorKind) :
    (position.sites kind declaration xs).filter (fun site => site.decl.kind = wanted) =
      if declared = wanted then position.sites kind declaration xs else [] := by
  simp only [Position.sites]
  generalize 0 = start
  induction xs generalizing start with
  | nil => split <;> rfl
  | cons x xs ih =>
      rw [Position.sitesFrom_cons, List.filter_cons, ih (start + 1)]
      by_cases isWanted : declared = wanted <;> simp [same, isWanted]

theorem Descriptor.postorders_eq_flatMap (descriptors : List Descriptor) :
    Descriptor.postorders descriptors = descriptors.flatMap Descriptor.postorder := by
  induction descriptors with
  | nil => rfl
  | cons descriptor rest ih => rw [Descriptor.postorders, ih, List.flatMap_cons]

theorem Descriptor.postorder_eq (descriptor : Descriptor) :
    descriptor.postorder = Descriptor.postorders descriptor.children ++ [descriptor] := by
  cases descriptor <;> rfl

theorem Descriptor.mem_postorder_self (descriptor : Descriptor) :
    descriptor ∈ descriptor.postorder := by
  rw [postorder_eq]
  exact List.mem_append_right _ List.mem_cons_self

theorem Descriptor.mem_postorder_of_child {descriptor child inner : Descriptor}
    (member : child ∈ descriptor.children) (below : inner ∈ child.postorder) :
    inner ∈ descriptor.postorder := by
  rw [postorder_eq, postorders_eq_flatMap]
  exact List.mem_append_left _ (List.mem_flatMap.mpr ⟨child, member, below⟩)

theorem messagesPostorder_eq_flatMap (position : Position) (index : Nat)
    (decls : List MessageDecl) :
    messagesPostorder position index decls =
      (position.sitesFrom (fun _ => .message) index decls).flatMap Site.postorder := by
  induction decls generalizing index with
  | nil => rfl
  | cons decl rest ih =>
      rw [messagesPostorder, ih, Position.sitesFrom_cons, List.flatMap_cons]
      rfl

/-- Where nothing can be nested, the order in the list is the order of registration. -/
theorem Position.sitesFrom_flatMap_postorder {α : Type} {declaration : Nat → α → Declaration}
    (leaf : ∀ position index decl,
      Site.postorder ⟨position, declaration index decl⟩ = [⟨position, declaration index decl⟩])
    (position : Position) (start : Nat) (decls : List α) :
    (position.sitesFrom declaration start decls).flatMap Site.postorder =
      position.sitesFrom declaration start decls := by
  induction decls generalizing start with
  | nil => rfl
  | cons decl rest ih =>
      rw [Position.sitesFrom_cons, List.flatMap_cons, leaf, ih]
      rfl

/-- A declaration is registered directly after all that is nested in it. -/
theorem Site.postorder_eq (site : Site) :
    site.postorder = site.children.flatMap Site.postorder ++ [site] := by
  obtain ⟨position, decl⟩ := site
  cases decl with
  | message decl =>
      obtain ⟨head, nested⟩ := decl
      have enums : (position.sites (.nestedEnums head.name) (fun _ => .enum) head.enums).flatMap
          Site.postorder = position.sites (.nestedEnums head.name) (fun _ => .enum) head.enums :=
        Position.sitesFrom_flatMap_postorder (fun _ _ _ => rfl) _ 0 head.enums
      have oneofs : (position.sites (.nestedOneofs head.name) .oneof head.oneofs).flatMap
          Site.postorder = position.sites (.nestedOneofs head.name) .oneof head.oneofs :=
        Position.sitesFrom_flatMap_postorder (fun _ _ _ => rfl) _ 0 head.oneofs
      rw [Site.children, List.flatMap_append, List.flatMap_append, enums, oneofs]
      simp only [Site.postorder, messagePostorder, messagesPostorder_eq_flatMap, Position.sites]
  | enum decl => rfl
  | oneof index decl => rfl
  | service decl => rfl

/-- The order in a file is that of its top-level declarations, each after what is nested in it. -/
theorem FileDecl.sites_eq (file : FileDecl) :
    file.sites =
      (file.enumSites ++ file.messageSites ++ file.serviceSites).flatMap Site.postorder := by
  have enums : file.enumSites.flatMap Site.postorder = file.enumSites :=
    Position.sitesFrom_flatMap_postorder (fun _ _ _ => rfl) _ 0 file.enums
  have services : file.serviceSites.flatMap Site.postorder = file.serviceSites :=
    Position.sitesFrom_flatMap_postorder (fun _ _ _ => rfl) _ 0 file.services
  rw [FileDecl.sites, List.flatMap_append, List.flatMap_append, enums, services]

example :
    (FileDecl.sites {
      enums := [{ name? := some "Color" }]
      messages := [
        .mk { name? := some "Outer", enums := [{ name? := some "Kind" }],
              oneofs := [{ name? := some "choice" }] } [.mk { name? := some "Inner" } []]]
      services := [{ name? := some "Search" }] }).map
        (fun site => (site.name, site.position.outers)) =
      [("Color", []), ("Inner", ["Outer"]), ("Kind", ["Outer"]), ("choice", ["Outer"]),
        ("Outer", []), ("Search", [])] := by
  decide

end ProtoCompanion
