import StakingGateway.Assoc
import StakingGateway.Bytes.Utf8
import StakingGateway.Double.Basic

/-!
# JSON values

A value keeps whole numbers apart from floating-point ones.  The members of an object are a list;
the normal form of a value lists them by the bytes of their names, each name once, and where a
name was given several times its last value stands.  `Object` is the type of objects in normal
form.
-/

namespace StakingGateway

namespace Json

/-- A number, as a whole number or as a finite double. -/
inductive Number
  | integer (value : Int)
  | float (value : Double)
  deriving DecidableEq, Repr

end Json

inductive Json
  | null
  | bool (value : Bool)
  | number (value : Json.Number)
  | string (value : String)
  | array (items : List Json)
  | object (members : List (String × Json))
  deriving Inhabited, Repr

namespace Json

def integer (value : Int) : Json :=
  .number (.integer value)

mutual

/-- The normal form of a value. -/
def normal : Json → Json
  | .array items => .array (normalItems items)
  | .object members => .object (Assoc.arrange Utf8.encode (normalMembers members))
  | .null => .null
  | .bool value => .bool value
  | .number value => .number value
  | .string value => .string value

def normalItems : List Json → List Json
  | [] => []
  | item :: items => normal item :: normalItems items

/-- The members with their values in normal form, in the order given. -/
def normalMembers : List (String × Json) → List (String × Json)
  | [] => []
  | (name, value) :: members => (name, normal value) :: normalMembers members

end

theorem normalMembers_of_normal {members : List (String × Json)}
    (h : ∀ m ∈ members, normal m.2 = m.2) : normalMembers members = members := by
  induction members with
  | nil => rfl
  | cons head rest ih =>
    obtain ⟨name, value⟩ := head
    have hhead := h (name, value) (by simp)
    simp only at hhead
    rw [normalMembers, hhead, ih fun m hm => h m (by simp [hm])]

mutual

theorem normal_normal : ∀ value : Json, normal (normal value) = normal value
  | .array items => by
    simp only [normal]
    rw [normalItems_normalItems items]
  | .object members => by
    simp only [normal]
    have hall := normal_of_mem_normalMembers members
    rw [normalMembers_of_normal, Assoc.arrange_arrange]
    intro m hm
    obtain ⟨name, hname⟩ := Assoc.value_mem_of_mem_arrange hm
    exact hall (name, m.2) hname
  | .null => rfl
  | .bool _ => rfl
  | .number _ => rfl
  | .string _ => rfl

theorem normalItems_normalItems :
    ∀ items : List Json, normalItems (normalItems items) = normalItems items
  | [] => rfl
  | item :: items => by
    simp only [normalItems]
    rw [normal_normal item, normalItems_normalItems items]

theorem normal_of_mem_normalMembers :
    ∀ (members : List (String × Json)), ∀ m ∈ normalMembers members, normal m.2 = m.2
  | [], m, hm => by simp [normalMembers] at hm
  | (name, value) :: members, m, hm => by
    rcases List.mem_cons.mp hm with rfl | hm
    · exact normal_normal value
    · exact normal_of_mem_normalMembers members m hm

end

/-- An object of the fields that are given, in the order of the list. -/
def record (fields : List (String × Option Json)) : Json :=
  .object (fields.filterMap fun (name, value) => value.map fun value => (name, value))

/-- An object in normal form. -/
structure Object where
  members : List (String × Json)
  normal_eq : (Json.object members).normal = .object members

namespace Object

/-- The object with the members, the last value of each name kept. -/
def ofMembers (members : List (String × Json)) : Object :=
  ⟨Assoc.arrange Utf8.encode (normalMembers members), normal_normal (.object members)⟩

def find? (object : Object) (name : String) : Option Json :=
  Assoc.find? name object.members

def toJson (object : Object) : Json :=
  .object object.members

theorem find?_ofMembers_singleton (name : String) (value : Json) :
    (ofMembers [(name, value)]).find? name = some value.normal := by
  simp [ofMembers, find?, normalMembers, Assoc.arrange, Assoc.insert, Assoc.find?]

end Object

end Json

end StakingGateway
