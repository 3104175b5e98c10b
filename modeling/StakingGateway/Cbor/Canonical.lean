import StakingGateway.Assoc
import StakingGateway.Cbor.Decode

/-!
# Canonical data items

The canonical form of an item has no tags, `null` in place of `undefined`, every floating-point
number in the narrowest width that holds it, and the entries of every map in the order of their
encoded keys, each key once.  That order is the usual deterministic one: first by major type, then
by magnitude for integers and by length for everything that has one.

`canonical_canonical` says that the form is reached in one step, and `Value` is the type of the
items that have it: a free value, kept as decoded and written canonically.
-/

namespace StakingGateway.Cbor

namespace Item

/-- The canonical form of a number in half precision: there is one value that is no number. -/
def ofHalf (bits : UInt16) : Item :=
  if halfIsNaN bits then .half 0x7e00 else .half bits

def ofSingle (bits : UInt32) : Item :=
  if singleIsNaN bits then .half 0x7e00
  else
    match halfOfSingle? bits with
    | some narrow => .half narrow
    | none => .single bits

def ofDouble (bits : UInt64) : Item :=
  if doubleIsNaN bits then .half 0x7e00
  else
    match singleOfDouble? bits with
    | some narrow => ofSingle narrow
    | none => .double bits

mutual

def canonical : Item → Item
  | .array items => .array (canonicalItems items)
  | .map entries => .map (Assoc.arrange encode (canonicalEntries entries))
  | .tag _ content => canonical content
  | .undefined => .null
  | .half bits => ofHalf bits
  | .single bits => ofSingle bits
  | .double bits => ofDouble bits
  | .unsigned n => .unsigned n
  | .negative n => .negative n
  | .bytes content => .bytes content
  | .text content => .text content
  | .bool value => .bool value
  | .null => .null

def canonicalItems : List Item → List Item
  | [] => []
  | item :: items => canonical item :: canonicalItems items

/-- The entries with their keys and values in canonical form, in the order given. -/
def canonicalEntries : List (Item × Item) → List (Item × Item)
  | [] => []
  | (key, value) :: entries => (canonical key, canonical value) :: canonicalEntries entries

end

theorem canonical_nan : canonical (.half 0x7e00) = .half 0x7e00 := rfl

theorem canonical_ofHalf (bits : UInt16) : canonical (ofHalf bits) = ofHalf bits := by
  by_cases h : halfIsNaN bits = true
  · simp only [ofHalf, h, if_true]
    exact canonical_nan
  · simp [ofHalf, h, canonical]

theorem canonical_ofSingle (bits : UInt32) : canonical (ofSingle bits) = ofSingle bits := by
  by_cases h : singleIsNaN bits = true
  · simp only [ofSingle, h, if_true]
    exact canonical_nan
  · simp only [ofSingle, h, Bool.false_eq_true, if_false]
    cases hhalf : halfOfSingle? bits with
    | none => simp [canonical, ofSingle, h, hhalf]
    | some narrow =>
      have hnum := (singleOfHalf_of_halfOfSingle? hhalf).1
      simp [canonical, ofHalf, hnum]

theorem canonical_ofDouble (bits : UInt64) : canonical (ofDouble bits) = ofDouble bits := by
  by_cases h : doubleIsNaN bits = true
  · simp only [ofDouble, h, if_true]
    exact canonical_nan
  · simp only [ofDouble, h, Bool.false_eq_true, if_false]
    cases hsingle : singleOfDouble? bits with
    | none => simp [canonical, ofDouble, h, hsingle]
    | some narrow => exact canonical_ofSingle narrow

theorem canonicalEntries_of_canonical {entries : List (Item × Item)}
    (h : ∀ e ∈ entries, canonical e.1 = e.1 ∧ canonical e.2 = e.2) :
    canonicalEntries entries = entries := by
  induction entries with
  | nil => rfl
  | cons head rest ih =>
    obtain ⟨key, value⟩ := head
    have hhead := h (key, value) (by simp)
    simp only at hhead
    rw [canonicalEntries, hhead.1, hhead.2, ih fun e he => h e (by simp [he])]

mutual

theorem canonical_canonical : ∀ item : Item, canonical (canonical item) = canonical item
  | .array items => by
    simp only [canonical]
    rw [canonicalItems_canonicalItems items]
  | .map entries => by
    simp only [canonical]
    have hall := canonical_of_mem_canonicalEntries entries
    rw [canonicalEntries_of_canonical, Assoc.arrange_arrange]
    intro e he
    obtain ⟨v, hv⟩ := Assoc.key_mem_of_mem_arrange he
    obtain ⟨k, hk⟩ := Assoc.value_mem_of_mem_arrange he
    exact ⟨(hall _ hv).1, (hall _ hk).2⟩
  | .tag _ content => by
    simp only [canonical]
    exact canonical_canonical content
  | .half bits => canonical_ofHalf bits
  | .single bits => canonical_ofSingle bits
  | .double bits => canonical_ofDouble bits
  | .undefined => rfl
  | .unsigned _ => rfl
  | .negative _ => rfl
  | .bytes _ => rfl
  | .text _ => rfl
  | .bool _ => rfl
  | .null => rfl

theorem canonicalItems_canonicalItems :
    ∀ items : List Item, canonicalItems (canonicalItems items) = canonicalItems items
  | [] => rfl
  | item :: items => by
    simp only [canonicalItems]
    rw [canonical_canonical item, canonicalItems_canonicalItems items]

theorem canonical_of_mem_canonicalEntries :
    ∀ (entries : List (Item × Item)), ∀ e ∈ canonicalEntries entries,
      canonical e.1 = e.1 ∧ canonical e.2 = e.2
  | [], e, he => by simp [canonicalEntries] at he
  | (key, value) :: entries, e, he => by
    rcases List.mem_cons.mp he with rfl | he
    · exact ⟨canonical_canonical key, canonical_canonical value⟩
    · exact canonical_of_mem_canonicalEntries entries e he

end

end Item

/-- An item in canonical form. -/
structure Value where
  item : Item
  canonical_eq : item.canonical = item

namespace Value

def ofItem (item : Item) : Value :=
  ⟨item.canonical, item.canonical_canonical⟩

def encode (value : Value) : List UInt8 :=
  value.item.encode

def null : Value :=
  ⟨.null, rfl⟩

theorem ofItem_item (value : Value) : ofItem value.item = value := by
  obtain ⟨item, h⟩ := value
  simp [ofItem, h]

end Value

end StakingGateway.Cbor
