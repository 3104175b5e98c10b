import StakingGateway.Cbor.Record
import StakingGateway.Proofs.Cbor.RoundTrip

/-!
# Records in canonical form

A record whose names stand in key order is canonical if its values are.  `Plain limit` is what the
items written by the gateway have in common: they are canonical, and nested no deeper than a limit.
A plain item reads back from its bytes, `decodeAs_encode`, and as a free value it is kept.
-/

namespace StakingGateway.Cbor

namespace Item

/-- An item is canonical and nested no deeper than the limit. -/
structure Plain (limit : Nat) (item : Item) : Prop where
  canonical_eq : item.canonical = item
  depth_le : item.depth ≤ limit

theorem Plain.mono {limit limit' : Nat} {item : Item} (h : item.Plain limit)
    (hle : limit ≤ limit') : item.Plain limit' :=
  ⟨h.canonical_eq, Nat.le_trans h.depth_le hle⟩

theorem plain_bytes (content : List UInt8) : (bytes content).Plain 0 :=
  ⟨rfl, Nat.le_refl 0⟩

theorem plain_text (content : String) : (text content).Plain 0 :=
  ⟨rfl, Nat.le_refl 0⟩

theorem plain_unsigned (n : UInt64) : (unsigned n).Plain 0 :=
  ⟨rfl, Nat.le_refl 0⟩

theorem plain_ofInt (value : Int) : (ofInt value).Plain 0 := by
  unfold ofInt
  split
  · exact ⟨rfl, Nat.le_refl 0⟩
  · exact ⟨rfl, Nat.le_refl 0⟩

theorem asInt64?_ofInt (value : Int64) : (ofInt value.toInt).asInt64? = some value := by
  have hlow := value.le_toInt
  have hhigh := value.toInt_lt
  have hsize : UInt64.size = 2 ^ 64 := rfl
  unfold ofInt
  split
  next hpos =>
    have hnat : (UInt64.ofNat value.toInt.toNat).toNat = value.toInt.toNat :=
      UInt64.toNat_ofNat_of_lt' (by rw [hsize]; omega)
    simp only [asInt64?, untag, hnat]
    rw [if_pos (by omega), Int.toNat_of_nonneg hpos, Int64.ofInt_toInt]
  next hneg =>
    have hnat : (UInt64.ofNat (-1 - value.toInt).toNat).toNat = (-1 - value.toInt).toNat :=
      UInt64.toNat_ofNat_of_lt' (by rw [hsize]; omega)
    simp only [asInt64?, untag, hnat]
    rw [if_pos (by omega), Int.toNat_of_nonneg (by omega), Int.sub_sub_self, Int64.ofInt_toInt]

theorem entriesDepth_le {limit : Nat} {entries : List (Item × Item)}
    (h : ∀ e ∈ entries, e.1.depth ≤ limit ∧ e.2.depth ≤ limit) : entriesDepth entries ≤ limit := by
  induction entries with
  | nil => exact Nat.zero_le limit
  | cons entry entries ih =>
      obtain ⟨hkey, hvalue⟩ := h entry (by simp)
      have hentries := ih fun e he => h e (by simp [he])
      rw [entriesDepth, Nat.max_le, Nat.max_le]
      exact ⟨⟨hkey, hvalue⟩, hentries⟩

theorem lookup_given {fields : List (String × Option Item)} (hnames : (fields.map (·.1)).Nodup)
    (name : String) : (given fields).lookup name = (fields.lookup name).join := by
  induction fields with
  | nil => rfl
  | cons field fields ih =>
      obtain ⟨head, item⟩ := field
      obtain ⟨hfresh, hnames⟩ := List.nodup_cons.mp hnames
      have hrest := ih hnames
      by_cases hname : name = head
      · subst hname
        cases item with
        | none =>
            have habsent : fields.lookup name = none := by
              rw [List.lookup_eq_none_iff]
              intro field hfield
              have hne : field.1 ≠ name := fun h =>
                hfresh (List.mem_map.mpr ⟨field, hfield, h⟩)
              simpa using hne.symm
            rw [habsent] at hrest
            simpa [given, List.lookup] using hrest
        | some item => simp [given, List.lookup]
      · have hbeq : (name == head) = false := by simpa using hname
        cases item with
        | none => simpa [given, List.lookup, hbeq] using hrest
        | some item => simpa [given, List.lookup, hbeq] using hrest

/-- A field that may be left out reads back, if no value of it is written as null. -/
theorem optional_given {α : Type} {fields : List (String × Option Item)} {name : String}
    {read : Item → Option α} {write : α → Item} {value : Option α}
    (hnames : (fields.map (·.1)).Nodup) (hlookup : fields.lookup name = some (value.map write))
    (hnull : ∀ v ∈ value, write v ≠ .null) (hread : ∀ v ∈ value, read (write v) = some v) :
    Cbor.optional (given fields) name read = some value := by
  have hgiven : (given fields).lookup name = value.map write := by
    rw [lookup_given hnames, hlookup, Option.join_some]
  cases value with
  | none => simp [Cbor.optional, hgiven]
  | some v =>
      have hv : write v ≠ .null := hnull v rfl
      have hsome : read (write v) = some v := hread v rfl
      rw [Cbor.optional, hgiven, Option.map_some]
      split
      next heq => cases heq
      next heq => exact absurd (Option.some.inj heq) hv
      next heq => rw [← Option.some.inj heq, hsome, Option.map_some]

def NamesAscend (names : List String) : Prop :=
  names.Pairwise fun a b => encode (.text a) < encode (.text b)

instance (names : List String) : Decidable (NamesAscend names) :=
  inferInstanceAs (Decidable (names.Pairwise _))

theorem plain_map {limit : Nat} {entries : List (Item × Item)}
    (hascend : Assoc.Ascending encode entries)
    (h : ∀ e ∈ entries, e.1.Plain limit ∧ e.2.Plain limit) : (map entries).Plain (limit + 1) := by
  constructor
  · rw [canonical, canonicalEntries_of_canonical, Assoc.arrange_of_ascending hascend]
    intro e he
    exact ⟨(h e he).1.canonical_eq, (h e he).2.canonical_eq⟩
  · apply Nat.succ_le_succ
    apply entriesDepth_le
    intro e he
    exact ⟨(h e he).1.depth_le, (h e he).2.depth_le⟩

/-- A record of plain values is plain, if its names are in key order. -/
theorem plain_record {limit : Nat} (names : List String) {fields : List (String × Option Item)}
    (hnames : fields.map (·.1) = names) (hascend : NamesAscend names)
    (hvalues : ∀ field ∈ fields, ∀ item ∈ field.2, item.Plain limit) :
    (record fields).Plain (limit + 1) := by
  have hgiven : ∀ m ∈ given fields, m.2.Plain limit := by
    intro m hm
    obtain ⟨⟨name, item⟩, hfield, hsome⟩ := List.mem_filterMap.mp hm
    obtain ⟨value, rfl, rfl⟩ := Option.map_eq_some_iff.mp hsome
    exact hvalues _ hfield value rfl
  have hsublist : ((given fields).map (·.1)).Sublist names := hnames ▸ given_names_sublist fields
  have hpairwise := List.pairwise_map.mp (List.Pairwise.sublist hsublist hascend)
  rw [record_eq]
  apply plain_map
  · exact List.pairwise_map.mpr hpairwise
  · intro e he
    obtain ⟨m, hm, rfl⟩ := List.mem_map.mp he
    exact ⟨(plain_text m.1).mono (Nat.zero_le limit), hgiven m hm⟩

theorem Plain.decode_encode {limit : Nat} {item : Item} (h : item.Plain limit)
    (hlimit : limit ≤ nestingLimit) : decode item.encode = some item :=
  Cbor.decode_encode (Nat.le_trans h.depth_le hlimit)

end Item

theorem decodeAs_eq_ok_iff {α : Type} {read : Item → Option α} {bytes : List UInt8} {value : α} :
    decodeAs read bytes = .ok value ↔
      ∃ item, decode bytes = some item ∧ read item = some value := by
  rw [decodeAs]
  cases hdecode : decode bytes with
  | none => simp
  | some item => cases hread : read item <;> simp [hread]

theorem decodeAs_encode {α : Type} {read : Item → Option α} {limit : Nat} {item : Item} {value : α}
    (h : item.Plain limit) (hlimit : limit ≤ nestingLimit) (hread : read item = some value) :
    decodeAs read item.encode = .ok value := by
  rw [decodeAs, h.decode_encode hlimit]
  simp only [hread]

theorem Value.plain (value : Value) : value.item.Plain value.item.depth :=
  ⟨value.canonical_eq, Nat.le_refl _⟩

theorem Value.item_ofItem {limit : Nat} {item : Item} (h : item.Plain limit) :
    (Value.ofItem item).item = item :=
  h.canonical_eq

end StakingGateway.Cbor
