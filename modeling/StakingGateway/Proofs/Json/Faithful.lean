import Mathlib
import StakingGateway.Json.Record
import StakingGateway.Proofs.Json.Rearrangement

/-!
# Faithful models

A model is faithful if every value is read from the tree that it is written as, in whatever order
the tree lists the members of its objects.  Lists and records are faithful if their parts are.

For a record, one argument serves all: what it was written with is found again under the same names
(`Shows.of_rearranges`), so a reader that asks for each field by the name under which it was written
gets the value back (`Faithful.record`).  A field that is left out is not found, and a field that is
given is no null, so an optional one is told from an absent one.
-/

namespace StakingGateway

open Json

namespace Model

/-- Values are read from the trees that they are written as, and from every rearrangement of them.
The trees are no nulls, and name no member twice. -/
class Faithful (α : Type) [Model α] : Prop where
  distinct_toJson (value : α) : (toJson value).Distinct
  toJson_ne_null (value : α) : toJson value ≠ .null
  ofJson?_of_rearranges {value : α} {tree : Json} (h : tree.Rearranges (toJson value)) :
    ofJson? tree = some value

section

variable {α : Type} [Model α] [Faithful α]

@[simp] theorem distinct_toJson (value : α) : (toJson value).Distinct :=
  Faithful.distinct_toJson value

theorem ofJson?_toJson (value : α) : ofJson? (toJson value) = some value :=
  Faithful.ofJson?_of_rearranges (distinct_toJson value).rearranges

theorem nullable_of_rearranges {value : α} {tree : Json} (h : tree.Rearranges (toJson value)) :
    nullable tree.document = some (some value) := by
  have hread : ofDocument? tree.document = some value := Faithful.ofJson?_of_rearranges h
  cases tree with
  | null =>
      have heq := h.normal_eq
      cases hwritten : toJson value with
      | null => exact absurd hwritten (Faithful.toJson_ne_null value)
      | bool | number | string | array | object => simp [hwritten, normal] at heq
  | bool | number | string | array | object => exact congrArg (Option.map some) hread

end

/-! ## Records -/

def EveryField (P : Json → Prop) (fields : List (String × Option Json)) : Prop :=
  ∀ field ∈ fields, ∀ value ∈ field.2, P value

section

variable {P : Json → Prop} {α : Type} [Model α] {name : String}
  {fields : List (String × Option Json)}

@[simp] theorem everyField_nil : EveryField P [] :=
  nofun

@[simp] theorem everyField_field (value : α) :
    EveryField P (field name value :: fields) ↔ P (toJson value) ∧ EveryField P fields := by
  simp [EveryField, field]

@[simp] theorem everyField_optionalField (value : Option α) :
    EveryField P (optionalField name value :: fields)
      ↔ (∀ given ∈ value, P (toJson given)) ∧ EveryField P fields := by
  cases value <;> simp [EveryField, optionalField]

end

/-- Members that were found show the fields of a record: under the name of a field that is given
stands a rearrangement of its value, and under that of a field that is left out stands nothing. -/
structure Shows (found : List (String × Document)) (fields : List (String × Option Json)) :
    Prop where
  given : ∀ {name value}, fields.lookup name = some (some value) →
    ∃ tree : Json, found.lookup name = some tree.document ∧ tree.Rearranges value
  absent : ∀ {name}, fields.lookup name = some none → found.lookup name = none

end Model

namespace Json

theorem record_eq (fields : List (String × Option Json)) :
    record fields = .object (given fields) :=
  rfl

theorem mem_given_iff {fields : List (String × Option Json)} {member : String × Json} :
    member ∈ given fields ↔ (member.1, some member.2) ∈ fields := by
  simp only [given, List.mem_filterMap, Prod.exists, Option.map_eq_some_iff]
  constructor
  · rintro ⟨name, _, hmem, value, rfl, rfl⟩
    exact hmem
  · exact fun hmem => ⟨member.1, some member.2, hmem, member.2, rfl, rfl⟩

variable {fields : List (String × Option Json)}

theorem nodup_names_given (h : (fields.map (·.1)).Nodup) : ((given fields).map (·.1)).Nodup :=
  (names_of_given_sublist fields).nodup h

theorem find?_given (h : (fields.map (·.1)).Nodup) {name : String} {value : Option Json}
    (hlookup : fields.lookup name = some value) : Assoc.find? name (given fields) = value := by
  rw [Assoc.lookup_eq_find?, Assoc.find?_eq_some_iff h] at hlookup
  cases value with
  | some value =>
      exact (Assoc.find?_eq_some_iff (nodup_names_given h)).mpr (mem_given_iff.mpr hlookup)
  | none =>
      -- What was given under the name would be a second field of that name.
      rw [Assoc.find?_eq_none_iff]
      intro hmem
      obtain ⟨⟨_, value⟩, hgiven, rfl⟩ := List.mem_map.mp hmem
      have hsome := (Assoc.find?_eq_some_iff h).mpr (mem_given_iff.mp hgiven)
      rw [(Assoc.find?_eq_some_iff h).mpr hlookup] at hsome
      cases hsome

/-- A rearranged record has the given fields in another order, and no member else. -/
theorem Rearranges.record {tree : Json} (h : tree.Rearranges (record fields))
    (hnodup : (fields.map (·.1)).Nodup) :
    ∃ others, tree = .object others ∧ (others.map (·.1)).Nodup ∧
      others.map (·.1) ⊆ fields.map (·.1) ∧
      (∀ {name value}, fields.lookup name = some (some value) →
        ∃ item, Assoc.find? name others = some item ∧ item.Rearranges value) ∧
      ∀ {name}, fields.lookup name = some none → Assoc.find? name others = none := by
  rw [record_eq] at h
  obtain ⟨others, rfl, hothers, hgiven, habsent⟩ := h.object (nodup_names_given hnodup)
  refine ⟨others, rfl, hothers, fun name hname => ?_, fun hlookup => ?_, fun hlookup => ?_⟩
  · apply (names_of_given_sublist fields).subset
    by_contra hname'
    exact Assoc.find?_eq_none_iff.mp (habsent (Assoc.find?_eq_none_iff.mpr hname')) hname
  · exact hgiven (find?_given hnodup hlookup)
  · exact habsent (find?_given hnodup hlookup)

theorem lookup_memberDocuments (members : List (String × Json)) (name : String) :
    (memberDocuments members).lookup name = (Assoc.find? name members).map document := by
  induction members with
  | nil => rfl
  | cons member rest ih =>
      obtain ⟨key, value⟩ := member
      rw [Assoc.lookup_eq_find?] at ih ⊢
      rw [memberDocuments, Assoc.find?, Assoc.find?, ih]
      split <;> rfl

end Json

namespace Model

theorem Shows.of_rearranges {names : List String} {fields : List (String × Option Json)}
    {tree : Json} (hnames : fields.map (·.1) = names) (hdistinct : names.Nodup)
    (h : tree.Rearranges (record fields)) :
    ∃ found, tree.document.members? names = some found ∧ Shows found fields := by
  subst hnames
  obtain ⟨others, rfl, hothers, hsubset, hgiven, habsent⟩ := h.record hdistinct
  refine ⟨memberDocuments others, members?_of_subset hothers hsubset, ?_, ?_⟩
  · intro name value hlookup
    obtain ⟨item, hitem, hrearranges⟩ := hgiven hlookup
    exact ⟨item, by rw [lookup_memberDocuments, hitem, Option.map_some], hrearranges⟩
  · intro name hlookup
    rw [lookup_memberDocuments, habsent hlookup, Option.map_none]

namespace Shows

variable {α : Type} [Model α] [Faithful α] {found : List (String × Document)}
  {fields : List (String × Option Json)} {name : String}

theorem required (h : Shows found fields) {value : α}
    (hlookup : fields.lookup name = some (some (toJson value))) :
    Model.required found name = some value := by
  obtain ⟨tree, htree, hrearranges⟩ := h.given hlookup
  rw [Model.required, htree]
  exact Faithful.ofJson?_of_rearranges hrearranges

theorem defaulted (h : Shows found fields) {value default : α}
    (hlookup : fields.lookup name = some (some (toJson value))) :
    Model.defaulted found name default = some value := by
  obtain ⟨tree, htree, hrearranges⟩ := h.given hlookup
  rw [Model.defaulted, htree]
  exact Faithful.ofJson?_of_rearranges hrearranges

theorem optional (h : Shows found fields) {value : Option α}
    (hlookup : fields.lookup name = some (value.map toJson)) :
    Model.optional found name = some value := by
  cases value with
  | none => rw [Model.optional, h.absent hlookup]
  | some value =>
      obtain ⟨tree, htree, hrearranges⟩ := h.given hlookup
      rw [Model.optional, htree]
      exact nullable_of_rearranges hrearranges

end Shows

/-- A record is faithful if its values are read from members that show its fields. -/
theorem Faithful.record {α : Type} [Model α] {names : List String}
    {fields : α → List (String × Option Json)} {build : List (String × Document) → Option α}
    (hbuild : ∀ value found, Shows found (fields value) → build found = some value)
    (hwrite : ∀ value : α, toJson value = .record (fields value) := by exact fun _ => rfl)
    (hread : ∀ document, ofDocument? document = (document.members? names).bind build := by
      exact fun _ => rfl)
    (hnames : ∀ value, (fields value).map (·.1) = names := by exact fun _ => rfl)
    (hdistinct : names.Nodup := by simp)
    (hvalues : ∀ value, EveryField Distinct (fields value) := by simp) :
    Faithful α where
  distinct_toJson value := by
    rw [hwrite, record_eq]
    refine .object (nodup_names_given (hnames value ▸ hdistinct)) fun member hmember => ?_
    exact hvalues value _ (mem_given_iff.mp hmember) member.2 rfl
  toJson_ne_null value := by
    rw [hwrite]
    nofun
  ofJson?_of_rearranges {value tree} h := by
    rw [hwrite] at h
    obtain ⟨found, hfound, hshows⟩ := Shows.of_rearranges (hnames value) hdistinct h
    rw [ofJson?, hread, hfound]
    exact hbuild value found hshows

/-! ## Single values -/

instance : Faithful String where
  distinct_toJson value := .string value
  toJson_ne_null _ := nofun
  ofJson?_of_rearranges h := by
    rw [h.eq_string]
    rfl

instance : Faithful Bool where
  distinct_toJson value := .bool value
  toJson_ne_null _ := nofun
  ofJson?_of_rearranges h := by
    rw [h.eq_bool]
    rfl

theorem ofJson?_integer_int64 (n : Int) :
    ofJson? (.integer n) = if -0x8000000000000000 ≤ n ∧ n < 0x8000000000000000
      then some (Int64.ofInt n) else none :=
  rfl

instance : Faithful Int64 where
  distinct_toJson value := .number (.integer value.toInt)
  toJson_ne_null _ := nofun
  ofJson?_of_rearranges {value _} h := by
    have hrange : -0x8000000000000000 ≤ value.toInt ∧ value.toInt < 0x8000000000000000 :=
      ⟨value.le_toInt, value.toInt_lt⟩
    rw [h.eq_number, ← integer, ofJson?_integer_int64, if_pos hrange, Int64.ofInt_toInt]

theorem ofJson?_integer_uInt32 (n : Int) :
    ofJson? (.integer n)
      = if 0 ≤ n ∧ n < 0x100000000 then some (UInt32.ofNat n.toNat) else none :=
  rfl

instance : Faithful UInt32 where
  distinct_toJson value := .number (.integer value.toNat)
  toJson_ne_null _ := nofun
  ofJson?_of_rearranges {value _} h := by
    have hrange : (0 : Int) ≤ value.toNat ∧ (value.toNat : Int) < 0x100000000 := by
      have hlt := value.toNat_lt
      omega
    rw [h.eq_number, ← integer, ofJson?_integer_uInt32, if_pos hrange, Int.toNat_natCast,
      UInt32.ofNat_toNat]

/-- An object is in normal form, and a rearrangement of it has that normal form. -/
instance : Faithful Object where
  distinct_toJson object := by
    have hdistinct := distinct_normal object.toJson
    rwa [show object.toJson.normal = object.toJson from object.normal_eq] at hdistinct
  toJson_ne_null _ := nofun
  ofJson?_of_rearranges {object tree} h := by
    have heq : tree.normal = .object object.members := h.normal_eq.trans object.normal_eq
    cases tree with
    | null | bool | number | string | array => simp [normal] at heq
    | object others =>
        rw [normal] at heq
        have hsame : Object.ofMembers others = object := by
          obtain ⟨members, _⟩ := object
          obtain rfl := Json.object.inj heq
          rfl
        rw [← hsame, ofJson?]
        simp only [ofDocument?, value?_document]

instance {α : Type} [Model α] [Faithful α] : Faithful (List α) where
  distinct_toJson values := by
    refine .array fun item hitem => ?_
    obtain ⟨value, -, rfl⟩ := List.mem_map.mp hitem
    exact distinct_toJson value
  toJson_ne_null _ := nofun
  ofJson?_of_rearranges {values _} h := by
    obtain ⟨items, rfl, hitems⟩ := h.array
    rw [List.forall₂_map_right_iff] at hitems
    change (documents items).mapM ofDocument? = some values
    rw [documents_eq_map]
    clear h
    induction hitems with
    | nil => rfl
    | cons hitem _ ih =>
        have hread : ofDocument? _ = some _ := Faithful.ofJson?_of_rearranges hitem
        rw [List.map_cons, List.mapM_cons, hread, ih]
        rfl

end Model

end StakingGateway
