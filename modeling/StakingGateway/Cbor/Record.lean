import StakingGateway.Cbor.Canonical

/-!
# Typed reading of data items

What an item stands for where a certain kind of thing is expected.  Tags are passed over; only an
untagged `null` counts as an absent value.

A record is a map from field names to items or an array of its fields in their order.  A map may
name a field by text, by bytes or by its place, names an unknown field without effect, and names a
known field once.  An array may stop early, which leaves the last fields absent, but holds no more
than the fields.  `members?_record` says that a record written field by field gives its fields
back.
-/

namespace StakingGateway.Cbor

inductive DecodeError
  | malformed
  | unexpected
  deriving DecidableEq, Repr

def DecodeError.message : DecodeError → String
  | .malformed => "not a single well-formed data item"
  | .unexpected => "data item of an unexpected kind"

def decodeAs {α : Type} (read : Item → Option α) (bytes : List UInt8) : Except DecodeError α :=
  match decode bytes with
  | none => .error .malformed
  | some item =>
    match read item with
    | none => .error .unexpected
    | some value => .ok value

namespace Item

def asBytes? (item : Item) : Option (List UInt8) :=
  match item.untag with
  | .bytes content => some content
  | _ => none

/-- A text, or a byte string that holds one. -/
def asText? (item : Item) : Option String :=
  match item.untag with
  | .text content => some content
  | .bytes content => Utf8.decode? content
  | _ => none

def asUInt64? (item : Item) : Option UInt64 :=
  match item.untag with
  | .unsigned n => some n
  | _ => none

def asUInt32? (item : Item) : Option UInt32 :=
  match item.untag with
  | .unsigned n => if n.toNat < 0x100000000 then some n.toUInt32 else none
  | _ => none

def asInt64? (item : Item) : Option Int64 :=
  match item.untag with
  | .unsigned n =>
    if n.toNat < 0x8000000000000000 then some (Int64.ofInt n.toNat) else none
  | .negative n =>
    if n.toNat < 0x8000000000000000 then some (Int64.ofInt (-1 - n.toNat)) else none
  | _ => none

def asUInt8? (item : Item) : Option UInt8 :=
  match item.untag with
  | .unsigned n => if n.toNat < 256 then some n.toUInt8 else none
  | _ => none

def asList? {α : Type} (read : Item → Option α) (item : Item) : Option (List α) :=
  match item.untag with
  | .array items => items.mapM read
  | _ => none

/-- Bytes given as a byte string, as a text or as an array of numbers below 256. -/
def asOctets? (item : Item) : Option (List UInt8) :=
  match item.untag with
  | .bytes content => some content
  | .text content => some (Utf8.encode content)
  | .array items => items.mapM asUInt8?
  | _ => none

def asEntries? {α β : Type} (readKey : Item → Option α) (readValue : Item → Option β)
    (item : Item) : Option (List (α × β)) :=
  match item.untag with
  | .map entries => entries.mapM fun (key, value) => do
      let key ← readKey key
      let value ← readValue value
      return (key, value)
  | _ => none

/-- The field that a key names: `none` if a key cannot name a field, and `some none` if it names
no field of the record. -/
def fieldOfKey? (names : List String) (key : Item) : Option (Option String) :=
  match key.untag with
  | .text name => some (if name ∈ names then some name else none)
  | .bytes content =>
    match Utf8.decode? content with
    | some name => some (if name ∈ names then some name else none)
    | none => some none
  | .unsigned n => some names[n.toNat]?
  | _ => none

/-- Collects the fields that map entries give, after the fields already found. -/
def collect? (names : List String) :
    List (Item × Item) → List (String × Item) → Option (List (String × Item))
  | [], found => some found
  | (key, value) :: rest, found =>
    match fieldOfKey? names key with
    | none => none
    | some none => collect? names rest found
    | some (some name) =>
      if (found.lookup name).isSome then none else collect? names rest (found ++ [(name, value)])

def members? (names : List String) (item : Item) : Option (List (String × Item)) :=
  match item.untag with
  | .map entries => collect? names entries []
  | .array items => if items.length ≤ names.length then some (names.zip items) else none
  | _ => none

end Item

def required {α : Type} (members : List (String × Item)) (name : String)
    (read : Item → Option α) : Option α :=
  (members.lookup name).bind read

def defaulted {α : Type} (members : List (String × Item)) (name : String)
    (read : Item → Option α) (default : α) : Option α :=
  match members.lookup name with
  | none => some default
  | some item => read item

/-- A field that may be absent or null. -/
def optional {α : Type} (members : List (String × Item)) (name : String)
    (read : Item → Option α) : Option (Option α) :=
  match members.lookup name with
  | none => some none
  | some .null => some none
  | some item => (read item).map some

def nullable {α : Type} (read : Item → Option α) : Item → Option (Option α)
  | .null => some none
  | item => (read item).map some

def nullDefaulted {α : Type} (members : List (String × Item)) (name : String)
    (read : Item → Option α) (default : α) : Option α :=
  (optional members name read).map fun value => value.getD default

namespace Item

def given (fields : List (String × Option Item)) : List (String × Item) :=
  fields.filterMap fun (name, item) => item.map fun item => (name, item)

theorem record_eq (fields : List (String × Option Item)) :
    record fields = .map ((given fields).map fun (name, item) => (.text name, item)) := by
  simp [record, given, List.map_filterMap, Function.comp_def]

private theorem collect?_text {names : List String} {members found : List (String × Item)}
    (hnames : ∀ m ∈ members, m.1 ∈ names)
    (hdistinct : (found ++ members).Pairwise fun a b => a.1 ≠ b.1) :
    collect? names (members.map fun (name, item) => (.text name, item)) found
      = some (found ++ members) := by
  induction members generalizing found with
  | nil => simp [collect?]
  | cons member rest ih =>
    obtain ⟨name, item⟩ := member
    have hmem : name ∈ names := hnames (name, item) (by simp)
    have hfresh : found.lookup name = none := by
      rw [List.lookup_eq_none_iff]
      intro p hp
      have := (List.pairwise_append.mp hdistinct).2.2 p hp (name, item) (by simp)
      simpa using fun h => this h.symm
    have hnext : ((found ++ [(name, item)]) ++ rest).Pairwise fun a b => a.1 ≠ b.1 := by
      simpa using hdistinct
    have hrest := ih (fun m hm => hnames m (List.mem_cons_of_mem _ hm)) hnext
    simp [collect?, fieldOfKey?, untag, hmem, hfresh, hrest]

theorem given_names_sublist (fields : List (String × Option Item)) :
    ((given fields).map (·.1)).Sublist (fields.map (·.1)) := by
  induction fields with
  | nil => exact List.Sublist.slnil
  | cons field rest ih =>
    obtain ⟨name, item⟩ := field
    cases item with
    | none => exact ih.cons name
    | some item => exact ih.cons_cons name

/-- A record gives back the fields it was written with. -/
theorem members?_record {names : List String} {fields : List (String × Option Item)}
    (hnames : fields.map (·.1) = names) (hdistinct : names.Nodup) :
    (record fields).members? names = some (given fields) := by
  have hsub : ((given fields).map (·.1)).Sublist names := hnames ▸ given_names_sublist fields
  have hmem : ∀ m ∈ given fields, m.1 ∈ names := fun m hm =>
    hsub.subset (List.mem_map_of_mem hm)
  have hpair : (([] : List (String × Item)) ++ given fields).Pairwise fun a b => a.1 ≠ b.1 :=
    List.pairwise_map.mp (hsub.nodup hdistinct)
  rw [record_eq]
  exact collect?_text hmem hpair

end Item

end StakingGateway.Cbor
