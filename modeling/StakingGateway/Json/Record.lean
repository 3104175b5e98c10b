import StakingGateway.Json.Document

/-!
# Typed reading of JSON documents

A `Model` is a type whose values are written as JSON and read from a document.

A record is an object or an array of its fields in their order.  An object may hold members that
are no field, but a field once only.  An array may stop early, which leaves the last fields
absent, but holds no more than the fields.  `members?_of_subset` says that an object whose members
are fields, each once, gives its members.
-/

namespace StakingGateway

open Json

/-- A type whose values are written as JSON and read from a document. -/
class Model (α : Type) where
  toJson : α → Json
  ofDocument? : Document → Option α

namespace Json.Document

def collect? (names : List String) :
    List (String × Document) → List (String × Document) → Option (List (String × Document))
  | [], found => some found
  | (name, value) :: rest, found =>
    if name ∈ names then
      if (found.lookup name).isSome then none else collect? names rest (found ++ [(name, value)])
    else collect? names rest found

def members? (names : List String) : Document → Option (List (String × Document))
  | .object members => collect? names members []
  | .array items => if items.length ≤ names.length then some (names.zip items) else none
  | _ => none

/-- The name of one of several cases, alone or as an object that gives it the value null. -/
def caseName? : Document → Option String
  | .string name => some name
  | .object [(name, .null)] => some name
  | _ => none

end Json.Document

namespace Model

def field {α : Type} [Model α] (name : String) (value : α) : String × Option Json :=
  (name, some (toJson value))

/-- A field of a record that is left out if there is no value. -/
def optionalField {α : Type} [Model α] (name : String) (value : Option α) : String × Option Json :=
  (name, value.map toJson)

def required {α : Type} [Model α] (members : List (String × Document)) (name : String) : Option α :=
  (members.lookup name).bind ofDocument?

def defaulted {α : Type} [Model α] (members : List (String × Document)) (name : String)
    (default : α) : Option α :=
  match members.lookup name with
  | none => some default
  | some value => ofDocument? value

def nullable {α : Type} [Model α] : Document → Option (Option α)
  | .null => some none
  | value => (ofDocument? value).map some

def optional {α : Type} [Model α] (members : List (String × Document)) (name : String) :
    Option (Option α) :=
  match members.lookup name with
  | none => some none
  | some value => nullable value

def ofJson? {α : Type} [Model α] (value : Json) : Option α :=
  ofDocument? value.document

end Model

instance : Model String where
  toJson := .string
  ofDocument?
    | .string value => some value
    | _ => none

instance : Model Bool where
  toJson := .bool
  ofDocument?
    | .bool value => some value
    | _ => none

/-- A whole number from -2⁶³ to 2⁶³ - 1. -/
instance : Model Int64 where
  toJson value := .integer value.toInt
  ofDocument?
    | .number (.integer value) =>
      if -0x8000000000000000 ≤ value ∧ value < 0x8000000000000000 then some (Int64.ofInt value)
      else none
    | _ => none

instance : Model UInt32 where
  toJson value := .integer value.toNat
  ofDocument?
    | .number (.integer value) =>
      if 0 ≤ value ∧ value < 0x100000000 then some (UInt32.ofNat value.toNat) else none
    | _ => none

instance : Model Object where
  toJson := Object.toJson
  ofDocument? document :=
    match document.value? with
    | some (.object members) => some (.ofMembers members)
    | _ => none

instance {α : Type} [Model α] : Model (List α) where
  toJson values := .array (values.map Model.toJson)
  ofDocument?
    | .array items => items.mapM Model.ofDocument?
    | _ => none

namespace Json

def given (fields : List (String × Option Json)) : List (String × Json) :=
  fields.filterMap fun (name, value) => value.map fun value => (name, value)

private theorem lookup_none_of_fresh {found : List (String × Document)} {name : String}
    (h : ∀ p ∈ found, p.1 ≠ name) : found.lookup name = none := by
  rw [List.lookup_eq_none_iff]
  intro p hp
  simpa using fun heq => h p hp heq.symm

private theorem collect?_of_distinct {names : List String}
    {members found : List (String × Document)} (hnames : ∀ m ∈ members, m.1 ∈ names)
    (hdistinct : (found ++ members).Pairwise fun a b => a.1 ≠ b.1) :
    Document.collect? names members found = some (found ++ members) := by
  induction members generalizing found with
  | nil => simp [Document.collect?]
  | cons member rest ih =>
    obtain ⟨name, value⟩ := member
    have hmem : name ∈ names := hnames (name, value) (by simp)
    have hfresh : found.lookup name = none := lookup_none_of_fresh fun p hp =>
      (List.pairwise_append.mp hdistinct).2.2 p hp (name, value) (by simp)
    have hnext : ((found ++ [(name, value)]) ++ rest).Pairwise fun a b => a.1 ≠ b.1 := by
      simpa using hdistinct
    have hrest := ih (fun m hm => hnames m (List.mem_cons_of_mem _ hm)) hnext
    simp [Document.collect?, hmem, hfresh, hrest]

theorem names_memberDocuments (members : List (String × Json)) :
    (memberDocuments members).map (·.1) = members.map (·.1) := by
  rw [memberDocuments_eq_map, List.map_map]
  rfl

theorem members?_of_subset {names : List String} {members : List (String × Json)}
    (hdistinct : (members.map (·.1)).Nodup) (hsubset : members.map (·.1) ⊆ names) :
    (object members).document.members? names = some (memberDocuments members) := by
  rw [← names_memberDocuments] at hdistinct hsubset
  exact collect?_of_distinct (fun member hmember => hsubset (List.mem_map_of_mem hmember))
    (List.pairwise_map.mp hdistinct)

theorem names_of_given_sublist (fields : List (String × Option Json)) :
    ((given fields).map (·.1)).Sublist (fields.map (·.1)) := by
  induction fields with
  | nil => exact List.Sublist.slnil
  | cons field rest ih =>
    obtain ⟨name, value⟩ := field
    cases value with
    | none => exact ih.cons name
    | some value => exact ih.cons_cons name

end Json

end StakingGateway
