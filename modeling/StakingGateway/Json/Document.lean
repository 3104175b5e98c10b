import StakingGateway.Json.Value

/-!
# JSON documents

A document is a JSON text as it was written: names of members may repeat, and a part of it may be
`valueless`, which is to say that it is well-formed but stands for no value.  Such a part does no
harm where nobody looks at it.

`value?` reads a document as a value, and `value?_document` says that the document of a value
reads as that value.
-/

namespace StakingGateway.Json

/-- A JSON text as it was written. -/
inductive Document
  | null
  | bool (value : Bool)
  | number (value : Number)
  | string (value : String)
  | array (items : List Document)
  | object (members : List (String × Document))
  | valueless
  deriving Inhabited, Repr

namespace Document

mutual

/-- The value that a document stands for, its members as written. -/
def value? : Document → Option Json
  | .null => some .null
  | .bool value => some (.bool value)
  | .number value => some (.number value)
  | .string value => some (.string value)
  | .array items => (values? items).map .array
  | .object members => (memberValues? members).map .object
  | .valueless => none

def values? : List Document → Option (List Json)
  | [] => some []
  | item :: items => do
    let value ← value? item
    let values ← values? items
    return value :: values

def memberValues? : List (String × Document) → Option (List (String × Json))
  | [] => some []
  | (name, item) :: members => do
    let value ← value? item
    let values ← memberValues? members
    return (name, value) :: values

end

end Document

mutual

def document : Json → Document
  | .null => .null
  | .bool value => .bool value
  | .number value => .number value
  | .string value => .string value
  | .array items => .array (documents items)
  | .object members => .object (memberDocuments members)

def documents : List Json → List Document
  | [] => []
  | item :: items => document item :: documents items

def memberDocuments : List (String × Json) → List (String × Document)
  | [] => []
  | (name, value) :: members => (name, document value) :: memberDocuments members

end

mutual

theorem value?_document : ∀ value : Json, value.document.value? = some value
  | .null => rfl
  | .bool _ => rfl
  | .number _ => rfl
  | .string _ => rfl
  | .array items => by
    simp only [document, Document.value?]
    rw [values?_documents items]
    rfl
  | .object members => by
    simp only [document, Document.value?]
    rw [memberValues?_memberDocuments members]
    rfl

theorem values?_documents :
    ∀ items : List Json, Document.values? (documents items) = some items
  | [] => rfl
  | item :: items => by
    simp only [documents, Document.values?]
    rw [value?_document item, values?_documents items]
    rfl

theorem memberValues?_memberDocuments :
    ∀ members : List (String × Json),
      Document.memberValues? (memberDocuments members) = some members
  | [] => rfl
  | (name, value) :: members => by
    simp only [memberDocuments, Document.memberValues?]
    rw [value?_document value, memberValues?_memberDocuments members]
    rfl

end

theorem documents_eq_map (items : List Json) : documents items = items.map document := by
  induction items with
  | nil => rfl
  | cons item items ih => rw [documents, ih, List.map_cons]

theorem memberDocuments_eq_map (members : List (String × Json)) :
    memberDocuments members = members.map fun (name, value) => (name, value.document) := by
  induction members with
  | nil => rfl
  | cons head rest ih => rw [memberDocuments, ih, List.map_cons]

end StakingGateway.Json
