import StakingGateway.Cbor.Decode
import StakingGateway.Proofs.Bytes.Positional

/-!
# Data items read back

Every reader takes what was written off the front of a longer byte list and leaves the rest.  The
main statement is `decode_encode`: an item whose arrays, maps and tags are nested no deeper than
the limit is read back from its bytes.
-/

namespace StakingGateway.Cbor

/-- A reader takes exactly these bytes off the front, for the value. -/
def Reader.Reads {α : Type} (read : Reader α) (bytes : List UInt8) (value : α) : Prop :=
  ∀ rest, read (bytes ++ rest) = some (value, rest)

/-- The bytes are an initial byte of the major type and a body, and the body is read given the low
bits of the initial byte. -/
def ReadsAs {α : Type} (major : Nat) (read : Nat → Reader α) (bytes : List UInt8) (value : α) :
    Prop :=
  ∃ initial body, bytes = initial :: body ∧ initial.toNat / 32 = major ∧
    (read (initial.toNat % 32)).Reads body value

/-! ## Heads -/

theorem reads_take (content : List UInt8) : (take content.length).Reads content content := by
  intro rest
  induction content with
  | nil => rfl
  | cons byte content ih => simp [take, ih]

theorem reads_takeNumber (length : Nat) {n : Nat} (h : n < 256 ^ length) :
    (takeNumber length).Reads (BigEndian.bytesOfLength length n) n := by
  intro rest
  have htake := reads_take (BigEndian.bytesOfLength length n) rest
  rw [BigEndian.length_bytesOfLength] at htake
  simp only [takeNumber, htake, BigEndian.toNat_bytesOfLength h]

theorem toNat_initial {major info : Nat} (hmajor : major < 8) (hinfo : info < 32) :
    (UInt8.ofNat (major * 32 + info)).toNat / 32 = major ∧
      (UInt8.ofNat (major * 32 + info)).toNat % 32 = info := by
  rw [UInt8.toNat_ofNat_of_lt' (by simp only [UInt8.size]; omega)]
  constructor
  · omega
  · omega

theorem readsAs_of_info {α : Type} {major info : Nat} {read : Nat → Reader α} {body : List UInt8}
    {value : α} (hmajor : major < 8) (hinfo : info < 32)
    (hread : (read info).Reads body value) :
    ReadsAs major read (UInt8.ofNat (major * 32 + info) :: body) value := by
  obtain ⟨hdiv, hmod⟩ := toNat_initial hmajor hinfo
  exact ⟨_, _, rfl, hdiv, by rwa [hmod]⟩

theorem readsAs_head {major n : Nat} (hmajor : major < 8) (hn : n < 0x10000000000000000) :
    ReadsAs major takeArgument (head major n) n := by
  unfold head
  split
  next h =>
    refine readsAs_of_info hmajor (Nat.lt_of_lt_of_le h (by decide)) fun rest => ?_
    rw [takeArgument, if_pos h, List.nil_append]
  split
  next h => exact readsAs_of_info hmajor (by decide) (reads_takeNumber 1 h)
  split
  next h => exact readsAs_of_info hmajor (by decide) (reads_takeNumber 2 h)
  split
  next h => exact readsAs_of_info hmajor (by decide) (reads_takeNumber 4 h)
  next => exact readsAs_of_info hmajor (by decide) (reads_takeNumber 8 hn)

theorem info_ne_open {info n : Nat} {bytes rest : List UInt8}
    (h : takeArgument info bytes = some (n, rest)) : info ≠ 31 := by
  rintro rfl
  cases h

/-! ## Rows -/

section

variable {α : Type} {read : Reader α} {write : α → List UInt8} {values : List α}

theorem reads_readCount (hread : ∀ v ∈ values, read.Reads (write v) v) :
    Reader.Reads (readCount read values.length) (values.flatMap write) values := by
  intro rest
  induction values with
  | nil => rfl
  | cons value values ih =>
      have hvalue := hread value (by simp) (values.flatMap write ++ rest)
      have hvalues := ih fun v hv => hread v (by simp [hv])
      rw [List.flatMap_cons, List.append_assoc, List.length_cons, readCount, hvalue]
      simp [hvalues]

/-- A reader that needs a byte, and not that of a break. -/
structure Reader.Solid (read : Reader α) : Prop where
  nil : read [] = none
  stop : ∀ rest, read (0xff :: rest) = none

/-- What a solid reader reads begins with a byte, and not with that of a break. -/
theorem Reader.Solid.eq_cons (h : read.Solid) {bytes : List UInt8} {value : α}
    (hread : read.Reads bytes value) :
    ∃ byte tail, bytes = byte :: tail ∧ byte ≠ 0xff := by
  cases bytes with
  | nil =>
      have hnil := hread []
      rw [List.append_nil, h.nil] at hnil
      cases hnil
  | cons byte tail =>
      refine ⟨byte, tail, rfl, ?_⟩
      rintro rfl
      have hstop := hread []
      rw [List.cons_append, h.stop] at hstop
      cases hstop

theorem readUntilBreak_flatMap {fuel : Nat} (hsolid : read.Solid)
    (hread : ∀ v ∈ values, read.Reads (write v) v)
    (hfuel : values.length ≤ fuel) (rest : List UInt8) :
    readUntilBreak read fuel (values.flatMap write ++ 0xff :: rest) = some (values, rest) := by
  induction values generalizing fuel with
  | nil => cases fuel <;> rfl
  | cons value values ih =>
      cases fuel with
      | zero => simp at hfuel
      | succ fuel =>
          obtain ⟨byte, tail, hwrite, hbyte⟩ := hsolid.eq_cons (hread value (by simp))
          have hvalue := hread value (by simp) (values.flatMap write ++ 0xff :: rest)
          have hvalues := ih (fun v hv => hread v (by simp [hv])) (Nat.le_of_succ_le_succ hfuel)
          rw [List.flatMap_cons, List.append_assoc, hwrite, List.cons_append]
          rw [hwrite, List.cons_append] at hvalue
          simp [readUntilBreak, hbyte, hvalue, hvalues]

theorem length_le_length_flatMap (hsolid : read.Solid)
    (hread : ∀ v ∈ values, read.Reads (write v) v) :
    values.length ≤ (values.flatMap write).length := by
  induction values with
  | nil => simp
  | cons value values ih =>
      obtain ⟨byte, tail, hwrite, _⟩ := hsolid.eq_cons (hread value (by simp))
      have hvalues := ih fun v hv => hread v (by simp [hv])
      simp only [List.flatMap_cons, hwrite, List.length_append, List.length_cons]
      omega

theorem readUntilBreak_row (hsolid : read.Solid)
    (hread : ∀ v ∈ values, read.Reads (write v) v) (rest : List UInt8) :
    readUntilBreak read (values.flatMap write ++ 0xff :: rest).length
      (values.flatMap write ++ 0xff :: rest) = some (values, rest) := by
  refine readUntilBreak_flatMap hsolid hread ?_ rest
  have hlength := length_le_length_flatMap hsolid hread
  simp only [List.length_append]
  omega

/-- Values behind their number, or up to a break if their number is too large, read back. -/
theorem readsAs_counted {major : Nat} (hmajor : major < 8) (hsolid : read.Solid)
    (hread : ∀ v ∈ values, read.Reads (write v) v) :
    ReadsAs major (readMany read)
      (counted major values.length (values.flatMap write) (values.flatMap write)) values := by
  by_cases hlength : values.length < 0x10000000000000000
  · obtain ⟨initial, argument, hhead, hinitial, htake⟩ := readsAs_head hmajor hlength
    refine ⟨initial, argument ++ values.flatMap write, ?_, hinitial, fun rest => ?_⟩
    · rw [counted, if_pos hlength, hhead, List.cons_append]
    · rw [readMany, if_neg (info_ne_open (htake [])), List.append_assoc, htake]
      exact reads_readCount hread rest
  · rw [counted, if_neg hlength]
    refine readsAs_of_info hmajor (by decide) fun rest => ?_
    rw [readMany, if_pos rfl, List.append_assoc]
    exact readUntilBreak_row hsolid hread rest

end

/-! ## Strings -/

theorem reads_readChunk {major : Nat} (hmajor : major < 8) (byte : UInt8) :
    (readChunk major).Reads (head major 1 ++ [byte]) [byte] := by
  intro rest
  obtain ⟨initial, argument, hhead, hinitial, htake⟩ :=
    readsAs_head hmajor (show 1 < 0x10000000000000000 by decide)
  rw [hhead, List.cons_append, List.cons_append, readChunk, if_pos hinitial, List.append_assoc,
    htake]
  exact reads_take [byte] rest

theorem solid_readChunk {major : Nat} (hmajor : major < 7) : (readChunk major).Solid := by
  constructor
  · rfl
  · intro rest
    have hne : ¬ (0xff : UInt8).toNat / 32 = major := by
      intro h
      have hseven : (0xff : UInt8).toNat / 32 = 7 := by decide
      omega
    rw [readChunk, if_neg hne]

theorem readsAs_string {major : Nat} (hmajor : major < 7) (content : List UInt8) :
    ReadsAs major (readString major) (string major content) content := by
  by_cases hlength : content.length < 0x10000000000000000
  · obtain ⟨initial, argument, hhead, hinitial, htake⟩ :=
      readsAs_head (Nat.lt_succ_of_lt hmajor) hlength
    refine ⟨initial, argument ++ content, ?_, hinitial, fun rest => ?_⟩
    · rw [string, counted, if_pos hlength, hhead, List.cons_append]
    · rw [readString, if_neg (info_ne_open (htake [])), List.append_assoc, htake]
      exact reads_take content rest
  · rw [string, counted, if_neg hlength]
    refine readsAs_of_info (by omega) (by decide) fun rest => ?_
    have hchunks : readUntilBreak (readChunk major)
        ((content.map ([·])).flatMap (head major 1 ++ ·) ++ 0xff :: rest).length
        ((content.map ([·])).flatMap (head major 1 ++ ·) ++ 0xff :: rest)
          = some (content.map ([·]), rest) := by
      refine readUntilBreak_row (solid_readChunk hmajor) (fun chunk hchunk => ?_) rest
      obtain ⟨byte, _, rfl⟩ := List.mem_map.mp hchunk
      exact reads_readChunk (by omega) byte
    rw [List.flatMap_map] at hchunks
    rw [readString, if_pos rfl, List.append_assoc, List.singleton_append, hchunks]
    calc some (content.flatMap ([·]), rest)
        = some (content, rest) := by rw [List.flatMap_singleton']

/-! ## Items -/

namespace Item

mutual

def depth : Item → Nat
  | .array items => itemsDepth items + 1
  | .map entries => entriesDepth entries + 1
  | .tag _ content => depth content + 1
  | .unsigned _ => 0
  | .negative _ => 0
  | .bytes _ => 0
  | .text _ => 0
  | .bool _ => 0
  | .null => 0
  | .undefined => 0
  | .half _ => 0
  | .single _ => 0
  | .double _ => 0

def itemsDepth : List Item → Nat
  | [] => 0
  | item :: items => max (depth item) (itemsDepth items)

def entriesDepth : List (Item × Item) → Nat
  | [] => 0
  | (key, value) :: entries => max (max (depth key) (depth value)) (entriesDepth entries)

end

def encodeEntry (entry : Item × Item) : List UInt8 :=
  encode entry.1 ++ encode entry.2

theorem encodeItems_eq_flatMap (items : List Item) : encodeItems items = items.flatMap encode := by
  induction items with
  | nil => rfl
  | cons item items ih => rw [encodeItems, ih, List.flatMap_cons]

theorem encodeEntries_eq_flatMap (entries : List (Item × Item)) :
    encodeEntries entries = entries.flatMap encodeEntry := by
  induction entries with
  | nil => rfl
  | cons entry entries ih =>
      rw [encodeEntries, ih, List.flatMap_cons, encodeEntry, List.append_assoc]

end Item

open Item

theorem solid_readItem (depth : Nat) : (readItem depth).Solid := by
  cases depth with
  | zero => exact ⟨rfl, fun _ => rfl⟩
  | succ depth => exact ⟨rfl, fun _ => rfl⟩

theorem solid_readEntry {read : Reader Item} (h : read.Solid) : (readEntry read).Solid := by
  constructor
  · simp [readEntry, h.nil]
  · intro rest
    simp [readEntry, h.stop]

theorem reads_readEntry {read : Reader Item} {entry : Item × Item}
    (hkey : read.Reads (encode entry.1) entry.1) (hvalue : read.Reads (encode entry.2) entry.2) :
    (readEntry read).Reads (encodeEntry entry) entry := by
  intro rest
  simp [readEntry, encodeEntry, hkey (encode entry.2 ++ rest), hvalue rest]

section

variable {depth : Nat}

theorem readItem_eq (depth : Nat) : ∃ nested, readItem depth = readWith nested := by
  cases depth with
  | zero => exact ⟨none, rfl⟩
  | succ depth => exact ⟨some (readItem depth), rfl⟩

theorem reads_unsigned (n : UInt64) :
    (readItem depth).Reads (encode (.unsigned n)) (.unsigned n) := by
  intro rest
  obtain ⟨nested, hnested⟩ := readItem_eq depth
  obtain ⟨initial, body, hbytes, hmajor, hread⟩ := readsAs_head (by decide : 0 < 8) n.toNat_lt
  simp [hnested, encode_unsigned, hbytes, readWith, hmajor, hread rest]

theorem reads_negative (n : UInt64) :
    (readItem depth).Reads (encode (.negative n)) (.negative n) := by
  intro rest
  obtain ⟨nested, hnested⟩ := readItem_eq depth
  obtain ⟨initial, body, hbytes, hmajor, hread⟩ := readsAs_head (by decide : 1 < 8) n.toNat_lt
  simp [hnested, encode_negative, hbytes, readWith, hmajor, hread rest]

theorem reads_bytes (content : List UInt8) :
    (readItem depth).Reads (encode (.bytes content)) (.bytes content) := by
  intro rest
  obtain ⟨nested, hnested⟩ := readItem_eq depth
  obtain ⟨initial, body, hbytes, hmajor, hread⟩ := readsAs_string (by decide : 2 < 7) content
  simp [hnested, encode_bytes, hbytes, readWith, hmajor, hread rest]

theorem reads_text (content : String) :
    (readItem depth).Reads (encode (.text content)) (.text content) := by
  intro rest
  obtain ⟨nested, hnested⟩ := readItem_eq depth
  obtain ⟨initial, body, hbytes, hmajor, hread⟩ :=
    readsAs_string (by decide : 3 < 7) (Utf8.encode content)
  simp [hnested, encode_text, hbytes, readWith, hmajor, hread rest, Utf8.decode?_encode]

theorem reads_array {items : List Item}
    (h : ∀ item ∈ items, (readItem depth).Reads (encode item) item) :
    (readItem (depth + 1)).Reads (encode (.array items)) (.array items) := by
  intro rest
  obtain ⟨initial, body, hbytes, hmajor, hread⟩ :=
    readsAs_counted (by decide : 4 < 8) (solid_readItem depth) h
  rw [encode_array, encodeItems_eq_flatMap, hbytes]
  simp [readItem, readWith, hmajor, hread rest]

theorem reads_map {entries : List (Item × Item)}
    (h : ∀ entry ∈ entries, (readEntry (readItem depth)).Reads (encodeEntry entry) entry) :
    (readItem (depth + 1)).Reads (encode (.map entries)) (.map entries) := by
  intro rest
  obtain ⟨initial, body, hbytes, hmajor, hread⟩ :=
    readsAs_counted (by decide : 5 < 8) (solid_readEntry (solid_readItem depth)) h
  rw [encode_map, encodeEntries_eq_flatMap, hbytes]
  simp [readItem, readWith, hmajor, hread rest]

theorem reads_tag (number : UInt64) {content : Item}
    (h : (readItem depth).Reads (encode content) content) :
    (readItem (depth + 1)).Reads (encode (.tag number content)) (.tag number content) := by
  intro rest
  obtain ⟨initial, argument, hhead, hmajor, htake⟩ :=
    readsAs_head (by decide : 6 < 8) number.toNat_lt
  rw [encode_tag, hhead]
  simp [readItem, readWith, hmajor, htake (encode content ++ rest), h rest]

theorem reads_half (bits : UInt16) : (readItem depth).Reads (encode (.half bits)) (.half bits) := by
  intro rest
  obtain ⟨nested, hnested⟩ := readItem_eq depth
  simp [hnested, encode_half, readWith, readSimple, reads_takeNumber 2 bits.toNat_lt rest]

theorem reads_single (bits : UInt32) :
    (readItem depth).Reads (encode (.single bits)) (.single bits) := by
  intro rest
  obtain ⟨nested, hnested⟩ := readItem_eq depth
  simp [hnested, encode_single, readWith, readSimple, reads_takeNumber 4 bits.toNat_lt rest]

theorem reads_double (bits : UInt64) :
    (readItem depth).Reads (encode (.double bits)) (.double bits) := by
  intro rest
  obtain ⟨nested, hnested⟩ := readItem_eq depth
  simp [hnested, encode_double, readWith, readSimple, reads_takeNumber 8 bits.toNat_lt rest]

theorem reads_bool (value : Bool) :
    (readItem depth).Reads (encode (.bool value)) (.bool value) := by
  intro rest
  obtain ⟨nested, hnested⟩ := readItem_eq depth
  cases value with
  | false => rw [hnested]; rfl
  | true => rw [hnested]; rfl

theorem reads_null : (readItem depth).Reads (encode .null) .null := by
  intro rest
  obtain ⟨nested, hnested⟩ := readItem_eq depth
  rw [hnested]
  rfl

theorem reads_undefined : (readItem depth).Reads (encode .undefined) .undefined := by
  intro rest
  obtain ⟨nested, hnested⟩ := readItem_eq depth
  rw [hnested]
  rfl

end

mutual

/-- An item reads back from its bytes, if the reader goes as deep as the item is nested. -/
theorem reads_readItem : ∀ (item : Item) {depth : Nat}, item.depth ≤ depth →
    (readItem depth).Reads item.encode item
  | .array _, 0, h => nomatch h
  | .array items, _ + 1, h => reads_array (reads_readItem_of_mem items (Nat.le_of_succ_le_succ h))
  | .map _, 0, h => nomatch h
  | .map entries, _ + 1, h => reads_map (reads_readEntry_of_mem entries (Nat.le_of_succ_le_succ h))
  | .tag _ _, 0, h => nomatch h
  | .tag number content, _ + 1, h =>
      reads_tag number (reads_readItem content (Nat.le_of_succ_le_succ h))
  | .unsigned n, _, _ => reads_unsigned n
  | .negative n, _, _ => reads_negative n
  | .bytes content, _, _ => reads_bytes content
  | .text content, _, _ => reads_text content
  | .bool value, _, _ => reads_bool value
  | .null, _, _ => reads_null
  | .undefined, _, _ => reads_undefined
  | .half bits, _, _ => reads_half bits
  | .single bits, _, _ => reads_single bits
  | .double bits, _, _ => reads_double bits

theorem reads_readItem_of_mem : ∀ (items : List Item) {depth : Nat}, itemsDepth items ≤ depth →
    ∀ item ∈ items, (readItem depth).Reads item.encode item
  | [], _, _, _, hmem => nomatch hmem
  | head :: items, depth, h, item, hmem => by
      rw [itemsDepth, Nat.max_le] at h
      rcases List.mem_cons.mp hmem with heq | hmem
      · rw [heq]
        exact reads_readItem head h.1
      · exact reads_readItem_of_mem items h.2 item hmem

theorem reads_readEntry_of_mem : ∀ (entries : List (Item × Item)) {depth : Nat},
    entriesDepth entries ≤ depth →
    ∀ entry ∈ entries, (readEntry (readItem depth)).Reads (encodeEntry entry) entry
  | [], _, _, _, hmem => nomatch hmem
  | (key, value) :: entries, depth, h, entry, hmem => by
      rw [entriesDepth, Nat.max_le, Nat.max_le] at h
      rcases List.mem_cons.mp hmem with heq | hmem
      · rw [heq]
        exact reads_readEntry (reads_readItem key h.1.1) (reads_readItem value h.1.2)
      · exact reads_readEntry_of_mem entries h.2 entry hmem

end

theorem decode_encode {item : Item} (h : item.depth ≤ nestingLimit) :
    decode item.encode = some item := by
  have hread := reads_readItem item h []
  rw [List.append_nil] at hread
  rw [decode, hread]

end StakingGateway.Cbor
