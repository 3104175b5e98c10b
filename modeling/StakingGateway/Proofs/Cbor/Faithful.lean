import StakingGateway.Proofs.Cbor.Canonical
import StakingGateway.Proofs.Outcome

/-!
# Faithful data items

A type of values has a way of writing them as data items and a way of reading them, and the two are
faithful if every value is read from the item that it is written as (`Item.Faithful`).  Lists and
records are faithful if their parts are.  Their items are nested one level deeper, and a value is
read from its bytes if that stays within the limit (`Item.Faithful.decodeAs_encode`).
-/

namespace StakingGateway.Cbor.Item

variable {α : Type} {limit : Nat}

/-- Values are read from the items that they are written as.  These are no nulls, so a value is told
from an absent one, and they are nested no deeper than the limit. -/
structure Faithful (limit : Nat) (write : α → Item) (read : Item → Option α) : Prop where
  read_write : ∀ value, read (write value) = some value
  ne_null : ∀ value, write value ≠ .null
  depth_le : ∀ value, (write value).depth ≤ limit

namespace Faithful

variable {write : α → Item} {read : Item → Option α}

theorem decodeAs_encode (h : Faithful limit write read) (hlimit : limit ≤ nestingLimit)
    (value : α) : decodeAs read (write value).encode = .ok value := by
  have hdecode : decode (write value).encode = some (write value) :=
    decode_encode (Nat.le_trans (h.depth_le value) hlimit)
  exact decodeAs_eq_ok_iff.mpr ⟨write value, hdecode, h.read_write value⟩

/-- The limit may be wider than it has to be, as that of a record is for most of its fields. -/
theorem mono {inner : Nat} (h : Faithful inner write read) (hle : inner ≤ limit) :
    Faithful limit write read where
  read_write := h.read_write
  ne_null := h.ne_null
  depth_le value := Nat.le_trans (h.depth_le value) hle

theorem list (h : Faithful limit write read) :
    Faithful (limit + 1) (fun values => .array (values.map write)) (asList? read) where
  read_write values := mapM_map_of_forall h.read_write values
  ne_null _ := nofun
  depth_le values := by
    apply Nat.succ_le_succ
    apply itemsDepth_le
    simpa using fun value _ => h.depth_le value

def FieldsWithin (limit : Nat) (fields : List (String × Option Item)) : Prop :=
  ∀ field ∈ fields, ∀ item ∈ field.2, item.depth ≤ limit

theorem fieldsWithin_nil (limit : Nat) : FieldsWithin limit [] :=
  nofun

theorem field (h : Faithful limit write read) {name : String} {value : α}
    {fields : List (String × Option Item)} (hfields : FieldsWithin limit fields) :
    FieldsWithin limit ((name, some (write value)) :: fields) := by
  refine List.forall_mem_cons.mpr ⟨?_, hfields⟩
  rintro _ ⟨⟩
  exact h.depth_le value

theorem optionalField (h : Faithful limit write read) {name : String} {value : Option α}
    {fields : List (String × Option Item)} (hfields : FieldsWithin limit fields) :
    FieldsWithin limit ((name, value.map write) :: fields) := by
  refine List.forall_mem_cons.mpr ⟨?_, hfields⟩
  cases value with
  | none => nofun
  | some value =>
      rintro _ ⟨⟩
      exact h.depth_le value

/-- A record is faithful if its values are read from the fields that are given. -/
theorem record (names : List String) {fields : α → List (String × Option Item)}
    {build : List (String × Item) → Option α}
    (hnames : ∀ value, (fields value).map (·.1) = names) (hdistinct : names.Nodup)
    (hbuild : ∀ value, ((fields value).map (·.1)).Nodup →
      build (given (fields value)) = some value)
    (hdepth : ∀ value, FieldsWithin limit (fields value)) :
    Faithful (limit + 1) (fun value => Item.record (fields value))
      (fun item => (item.members? names).bind build) where
  read_write value := by
    rw [members?_record (hnames value) hdistinct, Option.bind_some,
      hbuild value ((hnames value).symm ▸ hdistinct)]
  ne_null _ := nofun
  depth_le value := by
    rw [record_eq]
    apply Nat.succ_le_succ
    apply entriesDepth_le
    intro entry hentry
    obtain ⟨member, hmember, rfl⟩ := List.mem_map.mp hentry
    obtain ⟨⟨name, item⟩, hfield, hgiven⟩ := List.mem_filterMap.mp hmember
    obtain ⟨item, rfl, rfl⟩ := Option.map_eq_some_iff.mp hgiven
    exact ⟨Nat.zero_le limit, hdepth value _ hfield item rfl⟩

section

variable {fields : List (String × Option Item)} {name : String}
  (hnames : (fields.map (·.1)).Nodup)

include hnames

theorem required (h : Faithful limit write read) {value : α}
    (hlookup : fields.lookup name = some (some (write value))) :
    Cbor.required (given fields) name read = some value := by
  rw [Cbor.required, lookup_given hnames, hlookup]
  exact h.read_write value

theorem defaulted (h : Faithful limit write read) {value default : α}
    (hlookup : fields.lookup name = some (some (write value))) :
    Cbor.defaulted (given fields) name read default = some value := by
  rw [Cbor.defaulted, lookup_given hnames, hlookup]
  exact h.read_write value

theorem optional (h : Faithful limit write read) {value : Option α}
    (hlookup : fields.lookup name = some (value.map write)) :
    Cbor.optional (given fields) name read = some value :=
  optional_given hnames hlookup (fun v _ => h.ne_null v) fun v _ => h.read_write v

theorem nullDefaulted (h : Faithful limit write read) {value default : α}
    (hlookup : fields.lookup name = some (some (write value))) :
    Cbor.nullDefaulted (given fields) name read default = some value := by
  have hoptional : Cbor.optional (given fields) name read = some (some value) :=
    h.optional hnames hlookup
  rw [Cbor.nullDefaulted, hoptional]
  rfl

end

end Faithful

/-! ## Single values -/

theorem faithful_text : Faithful 0 .text asText? where
  read_write _ := rfl
  ne_null _ := nofun
  depth_le _ := Nat.le_refl 0

theorem faithful_uInt64 : Faithful 0 .unsigned asUInt64? where
  read_write _ := rfl
  ne_null _ := nofun
  depth_le _ := Nat.le_refl 0

theorem faithful_uInt32 : Faithful 0 (fun n : UInt32 => .unsigned n.toUInt64) asUInt32? where
  read_write n := by
    have hlt : n.toNat < 0x100000000 := n.toNat_lt
    simp [asUInt32?, untag, hlt]
  ne_null _ := nofun
  depth_le _ := Nat.le_refl 0

theorem faithful_int64 : Faithful 0 (fun value : Int64 => ofInt value.toInt) asInt64? where
  read_write := asInt64?_ofInt
  ne_null value := by
    unfold ofInt
    split <;> nofun
  depth_le value := (plain_ofInt value.toInt).depth_le

end StakingGateway.Cbor.Item
