import Pianod.Foundation.Text

/-!
# XML documents

A document is written as elements whose attribute values stand between single quotes, with character
content around and between them.  A reader sees the elements with their values decoded.
-/

namespace Foundation

/-- An element as a reader sees it. -/
inductive XmlElement where
  | mk (name : Text) (attributes : List (Text × Text)) (children : List XmlElement)

namespace XmlElement

def name : XmlElement → Text
  | mk name _ _ => name

def attributes : XmlElement → List (Text × Text)
  | mk _ attributes _ => attributes

def children : XmlElement → List XmlElement
  | mk _ _ children => children

/-- The value of an attribute. -/
def attr (element : XmlElement) (name : Text) : Option Text :=
  (element.attributes.find? fun entry => entry.1 = name).map (·.2)

/-- The children of one name. -/
def childrenNamed (element : XmlElement) (name : Text) : List XmlElement :=
  element.children.filter fun child => child.name = name

/-- The first child of a name. -/
def child (element : XmlElement) (name : Text) : Option XmlElement :=
  element.children.find? fun child => child.name = name

/-! ## Elements of one name -/

variable {elements : List XmlElement} {label : Text}

theorem filter_of_named (named : ∀ element ∈ elements, element.name = label) (name : Text) :
    (elements.filter fun element => element.name = name) =
      if label = name then elements else [] := by
  split
  · rename_i same
    exact List.filter_eq_self.mpr fun element member =>
      decide_eq_true ((named element member).trans same)
  · rename_i other
    refine List.filter_eq_nil_iff.mpr fun element member => ?_
    rw [named element member]
    simpa using other

theorem find?_of_named (named : ∀ element ∈ elements, element.name = label) (name : Text) :
    (elements.find? fun element => element.name = name) =
      if label = name then elements.head? else none := by
  rw [← List.head?_filter, filter_of_named named]
  split <;> rfl

end XmlElement

/-- A piece of a document as it is written; attribute values are already escaped. -/
inductive XmlContent where
  | characters (text : Text)
  | empty (name : Text) (attributes : List (Text × Text))
  | element (name : Text) (attributes : List (Text × Text)) (content : List XmlContent)

namespace XmlContent

/-- The attributes of a tag. -/
def renderAttributes (attributes : List (Text × Text)) : Text :=
  attributes.flatMap fun entry => 32 :: entry.1 ++ ascii "='" ++ entry.2 ++ [39]

mutual

/-- The text of a piece. -/
def render : XmlContent → Text
  | characters text => text
  | empty name attributes => 60 :: name ++ renderAttributes attributes ++ ascii " />"
  | element name attributes content =>
      60 :: name ++ renderAttributes attributes ++ 62 :: renderAll content ++ ascii "</" ++ name ++
        [62]

def renderAll : List XmlContent → Text
  | [] => []
  | piece :: pieces => piece.render ++ renderAll pieces

end

/-- The text of a document with a single root. -/
def document (root : XmlContent) : Text :=
  ascii "<?xml version='1.0' encoding='UTF-8'?>\n" ++ root.render ++ [10]

/-- Attributes with their values decoded. -/
def decodeAttributes (decode : Text → Text) (attributes : List (Text × Text)) :
    List (Text × Text) :=
  attributes.map fun entry => (entry.1, decode entry.2)

mutual

/-- The elements a reader makes of a piece. -/
def elements (decode : Text → Text) : XmlContent → List XmlElement
  | characters _ => []
  | empty name attributes => [.mk name (decodeAttributes decode attributes) []]
  | element name attributes content =>
      [.mk name (decodeAttributes decode attributes) (allElements decode content)]

def allElements (decode : Text → Text) : List XmlContent → List XmlElement
  | [] => []
  | piece :: pieces => piece.elements decode ++ allElements decode pieces

end

/-- A tag or attribute name. -/
def IsName (name : Text) : Prop := name ≠ [] ∧ ∀ byte ∈ name, 97 ≤ byte ∧ byte ≤ 122

/-- Attributes have names and values that do not end early. -/
def AttributesFormed (attributes : List (Text × Text)) : Prop :=
  ∀ entry ∈ attributes, IsName entry.1 ∧ 39 ∉ entry.2 ∧ 60 ∉ entry.2

mutual

/-- Names are names, values do not end early, and character content has no markup. -/
def WellFormed : XmlContent → Prop
  | characters text => ∀ byte ∈ text, isspace byte
  | empty name attributes => IsName name ∧ AttributesFormed attributes
  | element name attributes content =>
      IsName name ∧ AttributesFormed attributes ∧ AllWellFormed content

def AllWellFormed : List XmlContent → Prop
  | [] => True
  | piece :: pieces => piece.WellFormed ∧ AllWellFormed pieces

end

instance (name : Text) : Decidable (IsName name) :=
  @instDecidableAnd _ _ inferInstance (List.decidableBAll _ _)

/-! ## Lists of pieces -/

theorem renderAll_append (first second : List XmlContent) :
    renderAll (first ++ second) = renderAll first ++ renderAll second := by
  induction first with
  | nil => rfl
  | cons piece pieces ih => rw [List.cons_append, renderAll, renderAll, ih, List.append_assoc]

theorem renderAll_flatMap {α : Type*} (items : List α) (pieces : α → List XmlContent) :
    renderAll (items.flatMap pieces) = items.flatMap fun item => renderAll (pieces item) := by
  induction items with
  | nil => rfl
  | cons item items ih => rw [List.flatMap_cons, renderAll_append, ih, List.flatMap_cons]

theorem allElements_append (decode : Text → Text) (first second : List XmlContent) :
    allElements decode (first ++ second) =
      allElements decode first ++ allElements decode second := by
  induction first with
  | nil => rfl
  | cons piece pieces ih => rw [List.cons_append, allElements, allElements, ih, List.append_assoc]

theorem allElements_flatMap {α : Type*} (decode : Text → Text) (items : List α)
    (pieces : α → List XmlContent) :
    allElements decode (items.flatMap pieces) =
      items.flatMap fun item => allElements decode (pieces item) := by
  induction items with
  | nil => rfl
  | cons item items ih => rw [List.flatMap_cons, allElements_append, ih, List.flatMap_cons]

@[simp]
theorem attributesFormed_nil : AttributesFormed [] := fun _ member => nomatch member

@[simp]
theorem attributesFormed_cons {entry : Text × Text} {attributes : List (Text × Text)} :
    AttributesFormed (entry :: attributes) ↔
      (IsName entry.1 ∧ 39 ∉ entry.2 ∧ 60 ∉ entry.2) ∧ AttributesFormed attributes :=
  List.forall_mem_cons

theorem allWellFormed_iff {pieces : List XmlContent} :
    AllWellFormed pieces ↔ ∀ piece ∈ pieces, piece.WellFormed := by
  induction pieces with
  | nil => simp [AllWellFormed]
  | cons piece pieces ih => rw [AllWellFormed, ih, List.forall_mem_cons]

theorem allWellFormed_append {first second : List XmlContent} :
    AllWellFormed (first ++ second) ↔ AllWellFormed first ∧ AllWellFormed second := by
  simp only [allWellFormed_iff, List.mem_append, or_imp, forall_and]

theorem allWellFormed_flatMap {α : Type*} {items : List α} {pieces : α → List XmlContent} :
    AllWellFormed (items.flatMap pieces) ↔ ∀ item ∈ items, AllWellFormed (pieces item) := by
  simp only [allWellFormed_iff, List.mem_flatMap, forall_exists_index, and_imp]
  exact ⟨fun formed item member piece => formed piece item member,
    fun formed piece item member => formed item member piece⟩

end XmlContent

end Foundation
