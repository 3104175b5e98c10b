import StakingGateway.Proofs.Cbor.Record

/-!
# Shape of canonical forms

In a canonical form the keys of every map are in order (`keysAscend_canonical`), and it is nested no
deeper than the item it is the form of (`depth_canonical_le`).
-/

namespace StakingGateway.Cbor.Item

/-! ## Floating-point numbers -/

inductive IsFloat : Item → Prop
  | half (bits : UInt16) : IsFloat (.half bits)
  | single (bits : UInt32) : IsFloat (.single bits)
  | double (bits : UInt64) : IsFloat (.double bits)

theorem isFloat_ofHalf (bits : UInt16) : (ofHalf bits).IsFloat := by
  unfold ofHalf
  split
  · exact .half _
  · exact .half bits

theorem isFloat_ofSingle (bits : UInt32) : (ofSingle bits).IsFloat := by
  unfold ofSingle
  split
  · exact .half _
  · split
    · exact .half _
    · exact .single bits

theorem isFloat_ofDouble (bits : UInt64) : (ofDouble bits).IsFloat := by
  unfold ofDouble
  split
  · exact .half _
  · split
    · exact isFloat_ofSingle _
    · exact .double bits

/-! ## The order of keys -/

mutual

/-- In every map inside an item, and in the item itself, the entries stand in the order of their
encoded keys, each key once. -/
def KeysAscend : Item → Prop
  | .array items => ItemsAscend items
  | .map entries => Assoc.Ascending encode entries ∧ EntriesAscend entries
  | .tag _ content => KeysAscend content
  | .unsigned _ => True
  | .negative _ => True
  | .bytes _ => True
  | .text _ => True
  | .bool _ => True
  | .null => True
  | .undefined => True
  | .half _ => True
  | .single _ => True
  | .double _ => True

def ItemsAscend : List Item → Prop
  | [] => True
  | item :: items => KeysAscend item ∧ ItemsAscend items

def EntriesAscend : List (Item × Item) → Prop
  | [] => True
  | (key, value) :: entries => (KeysAscend key ∧ KeysAscend value) ∧ EntriesAscend entries

end

theorem entriesAscend_iff {entries : List (Item × Item)} :
    EntriesAscend entries ↔ ∀ entry ∈ entries, entry.1.KeysAscend ∧ entry.2.KeysAscend := by
  induction entries with
  | nil => simp [EntriesAscend]
  | cons entry entries ih => rw [EntriesAscend, ih, List.forall_mem_cons]

theorem entriesAscend_arrange {entries : List (Item × Item)} (h : EntriesAscend entries) :
    EntriesAscend (Assoc.arrange encode entries) := by
  rw [entriesAscend_iff] at h ⊢
  intro entry hentry
  obtain ⟨value, hkey⟩ := Assoc.key_mem_of_mem_arrange hentry
  obtain ⟨key, hvalue⟩ := Assoc.value_mem_of_mem_arrange hentry
  exact ⟨(h _ hkey).1, (h _ hvalue).2⟩

theorem IsFloat.keysAscend {item : Item} (h : item.IsFloat) : item.KeysAscend := by
  cases h <;> trivial

mutual

theorem keysAscend_canonical : ∀ item : Item, item.canonical.KeysAscend
  | .array items => itemsAscend_canonicalItems items
  | .map entries =>
      ⟨Assoc.arrange_ascending _, entriesAscend_arrange (entriesAscend_canonicalEntries entries)⟩
  | .tag _ content => keysAscend_canonical content
  | .half bits => (isFloat_ofHalf bits).keysAscend
  | .single bits => (isFloat_ofSingle bits).keysAscend
  | .double bits => (isFloat_ofDouble bits).keysAscend
  | .undefined => trivial
  | .unsigned _ => trivial
  | .negative _ => trivial
  | .bytes _ => trivial
  | .text _ => trivial
  | .bool _ => trivial
  | .null => trivial

theorem itemsAscend_canonicalItems : ∀ items : List Item, ItemsAscend (canonicalItems items)
  | [] => trivial
  | item :: items => ⟨keysAscend_canonical item, itemsAscend_canonicalItems items⟩

theorem entriesAscend_canonicalEntries :
    ∀ entries : List (Item × Item), EntriesAscend (canonicalEntries entries)
  | [] => trivial
  | (key, value) :: entries =>
      ⟨⟨keysAscend_canonical key, keysAscend_canonical value⟩,
        entriesAscend_canonicalEntries entries⟩

end

theorem Plain.keysAscend {limit : Nat} {item : Item} (h : item.Plain limit) : item.KeysAscend :=
  h.canonical_eq ▸ item.keysAscend_canonical

/-! ## Depth -/

theorem IsFloat.depth_eq {item : Item} (h : item.IsFloat) : item.depth = 0 := by
  cases h <;> rfl

theorem itemsDepth_le {limit : Nat} {items : List Item} (h : ∀ item ∈ items, item.depth ≤ limit) :
    itemsDepth items ≤ limit := by
  induction items with
  | nil => exact Nat.zero_le limit
  | cons item items ih =>
      obtain ⟨hitem, hitems⟩ := List.forall_mem_cons.mp h
      rw [itemsDepth, Nat.max_le]
      exact ⟨hitem, ih hitems⟩

theorem depth_le_itemsDepth {items : List Item} {item : Item} (h : item ∈ items) :
    item.depth ≤ itemsDepth items := by
  induction items with
  | nil => cases h
  | cons head items ih =>
      rw [itemsDepth]
      rcases List.mem_cons.mp h with rfl | h
      · exact Nat.le_max_left ..
      · exact Nat.le_trans (ih h) (Nat.le_max_right ..)

theorem depth_le_entriesDepth {entries : List (Item × Item)} {entry : Item × Item}
    (h : entry ∈ entries) :
    entry.1.depth ≤ entriesDepth entries ∧ entry.2.depth ≤ entriesDepth entries := by
  induction entries with
  | nil => cases h
  | cons head entries ih =>
      rw [entriesDepth]
      rcases List.mem_cons.mp h with rfl | h
      · omega
      · obtain ⟨hkey, hvalue⟩ := ih h
        omega

theorem entriesDepth_arrange_le (entries : List (Item × Item)) :
    entriesDepth (Assoc.arrange encode entries) ≤ entriesDepth entries := by
  refine entriesDepth_le fun entry hentry => ?_
  obtain ⟨value, hkey⟩ := Assoc.key_mem_of_mem_arrange hentry
  obtain ⟨key, hvalue⟩ := Assoc.value_mem_of_mem_arrange hentry
  exact ⟨(depth_le_entriesDepth hkey).1, (depth_le_entriesDepth hvalue).2⟩

mutual

/-- The canonical form of an item is nested no deeper than the item; tags are left out. -/
theorem depth_canonical_le : ∀ item : Item, item.canonical.depth ≤ item.depth
  | .array items => Nat.succ_le_succ (itemsDepth_canonicalItems_le items)
  | .map entries =>
      Nat.succ_le_succ (Nat.le_trans (entriesDepth_arrange_le (canonicalEntries entries))
        (entriesDepth_canonicalEntries_le entries))
  | .tag _ content => Nat.le_succ_of_le (depth_canonical_le content)
  | .half bits => Nat.le_of_eq (isFloat_ofHalf bits).depth_eq
  | .single bits => Nat.le_of_eq (isFloat_ofSingle bits).depth_eq
  | .double bits => Nat.le_of_eq (isFloat_ofDouble bits).depth_eq
  | .undefined => Nat.le_refl 0
  | .unsigned _ => Nat.le_refl 0
  | .negative _ => Nat.le_refl 0
  | .bytes _ => Nat.le_refl 0
  | .text _ => Nat.le_refl 0
  | .bool _ => Nat.le_refl 0
  | .null => Nat.le_refl 0

theorem itemsDepth_canonicalItems_le :
    ∀ items : List Item, itemsDepth (canonicalItems items) ≤ itemsDepth items
  | [] => Nat.le_refl 0
  | item :: items => by
      have hitem := depth_canonical_le item
      have hitems := itemsDepth_canonicalItems_le items
      simp only [canonicalItems, itemsDepth]
      omega

theorem entriesDepth_canonicalEntries_le :
    ∀ entries : List (Item × Item), entriesDepth (canonicalEntries entries) ≤ entriesDepth entries
  | [] => Nat.le_refl 0
  | (key, value) :: entries => by
      have hkey := depth_canonical_le key
      have hvalue := depth_canonical_le value
      have hentries := entriesDepth_canonicalEntries_le entries
      simp only [canonicalEntries, entriesDepth]
      omega

end

end StakingGateway.Cbor.Item
