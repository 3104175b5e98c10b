import StakingGateway.Proofs.Json.Strings
import StakingGateway.Proofs.Outcome
import StakingGateway.Proofs.Quantity.Decimal

/-!
# JSON text reads back

The text of a tree is read as the tree if the tree is plain: its numbers are whole and in the range
of 64 bits, and its containers do not stand too deep inside one another.  `Reads` says that a text
is read as a value in front of anything that may stand behind a value; it passes from the parts of a
row to the row, and so from the parts of a tree to the tree.  The main statement is
`parse?_render`.
-/

namespace StakingGateway.Json

def Delimited (rest : List UInt8) : Prop :=
  ∀ byte ∈ rest.head?, byte = 0x2c ∨ byte = 0x5d ∨ byte = 0x7d

/-- The bytes that no value begins with: blanks and closing bytes. -/
def gaps : List UInt8 :=
  [0x20, 0x09, 0x0a, 0x0d, 0x5d, 0x7d]

structure Reads {α : Type} (read : Reader α) (text : List UInt8) (value : α) : Prop where
  starts : ∃ byte rest, text = byte :: rest ∧ byte ∉ gaps
  read_eq {rest : List UInt8} (h : Delimited rest) : read (text ++ rest) = some (value, rest)

theorem skipBlanks_cons {byte : UInt8} (h : byte ∉ gaps) (rest : List UInt8) :
    skipBlanks (byte :: rest) = byte :: rest := by
  simp only [gaps, List.mem_cons, List.not_mem_nil, or_false, not_or] at h
  simp [skipBlanks, h]

/-! ## Numbers -/

def digitBytes (digits : List (Fin 10)) : List UInt8 :=
  digits.map fun digit : Fin 10 => UInt8.ofNat (Nat.digitChar digit.val).toNat

theorem encode_chars (digits : List (Fin 10)) :
    (Decimal.chars digits).flatMap String.utf8EncodeChar = digitBytes digits := by
  have hascii : ∀ c ∈ Decimal.chars digits, c.toNat < 128 := by
    intro c hc
    obtain ⟨digit, -, rfl⟩ := List.mem_map.mp hc
    rw [Nat.toNat_digitChar_of_lt_ten digit.isLt]
    have hzero : '0'.toNat = 48 := rfl
    omega
  rw [← Utf8.encode_ofList, Utf8.encode_ofList_ascii hascii, Decimal.chars, List.map_map]
  rfl

theorem exists_digits (n : Nat) : ∃ digit digits,
    Utf8.encode (toString n) = digitBytes (digit :: digits) ∧
      Decimal.number (digit :: digits) = n ∧ (digit = 0 → digits = []) := by
  obtain ⟨digits, hnil, htext, hnumber⟩ :=
    Quantity.digitsValue?_eq_some_iff.mp (Quantity.digitsValue?_text ⟨n⟩)
  have hchars : (toString n).toList = Decimal.chars digits := htext
  obtain ⟨digit, digits, rfl⟩ := List.exists_cons_of_ne_nil hnil
  refine ⟨digit, digits, ?_, hnumber.symm, ?_⟩
  · rw [Utf8.encode_eq_flatMap, hchars, encode_chars]
  · rintro rfl
    have hdigits : Nat.toDigits 10 n = '0' :: Decimal.chars digits := by
      rw [show '0' :: Decimal.chars digits = (toString n).toList from hchars.symm]
      simp
    obtain rfl := Decimal.eq_zero_of_toDigits hdigits
    exact List.map_eq_nil_iff.mp (List.cons.inj hdigits).2.symm

theorem digit?_digitChar (digit : Fin 10) :
    digit? (UInt8.ofNat (Nat.digitChar digit.val).toNat) = some digit.val := by
  revert digit
  decide

section

variable {rest : List UInt8} (hrest : Delimited rest)
include hrest

theorem splitDigits_digitBytes (digits : List (Fin 10)) (found : List Nat) :
    splitDigits found (digitBytes digits ++ rest)
      = (found.reverse ++ digits.map Fin.val, rest) := by
  induction digits generalizing found with
  | nil =>
      cases rest with
      | nil => simp [digitBytes, splitDigits]
      | cons byte rest =>
          have hdigit : digit? byte = none := by
            rcases hrest byte rfl with rfl | rfl | rfl <;> rfl
          simp [digitBytes, splitDigits, hdigit]
  | cons digit digits ih =>
      rw [digitBytes, List.map_cons, List.cons_append, splitDigits, digit?_digitChar]
      change splitDigits _ (digitBytes digits ++ rest) = _
      rw [ih, List.reverse_cons, List.append_assoc, List.singleton_append, List.map_cons]

theorem takeFraction_of_delimited : takeFraction rest = some (none, rest) := by
  cases rest with
  | nil => rfl
  | cons byte rest => rcases hrest byte rfl with rfl | rfl | rfl <;> rfl

theorem takeExponent_of_delimited : takeExponent rest = some (none, rest) := by
  cases rest with
  | nil => rfl
  | cons byte rest => rcases hrest byte rfl with rfl | rfl | rfl <;> rfl

theorem takeWhole_encode (n : Nat) :
    ∃ digits : List (Fin 10), Decimal.number digits = n ∧
      takeWhole (Utf8.encode (toString n) ++ rest) = some (digits.map Fin.val, rest) := by
  obtain ⟨digit, digits, htext, hnumber, hzero⟩ := exists_digits n
  refine ⟨digit :: digits, hnumber, ?_⟩
  rw [takeWhole, takeDigits, htext, splitDigits_digitBytes hrest]
  obtain ⟨_ | value, hlt⟩ := digit
  · obtain rfl := hzero rfl
    rfl
  · rfl

theorem readNumber_encode {negative : Bool} {n : Nat} {number : Number}
    (h : ∀ {digits : List (Fin 10)}, Decimal.number digits = n →
      number? negative (digits.map Fin.val) none none = some number) :
    readNumber negative (Utf8.encode (toString n) ++ rest) = some (.number number, rest) := by
  obtain ⟨digits, hnumber, hwhole⟩ := takeWhole_encode hrest n
  simp only [readNumber, hwhole, takeFraction_of_delimited hrest, takeExponent_of_delimited hrest,
    h hnumber, Option.bind_eq_bind, Option.bind_some]
  rfl

end

theorem le_foldl (digits : List Nat) (n : Nat) :
    n ≤ digits.foldl (fun n digit => n * 10 + digit) n := by
  induction digits generalizing n with
  | nil => exact Nat.le_refl n
  | cons digit digits ih => exact Nat.le_trans (by omega) (ih (n * 10 + digit))

/-- No digit is left over from a number below 2⁶⁴. -/
theorem extend_eq {digits : List Nat} {significand : Nat}
    (h : digits.foldl (fun n digit => n * 10 + digit) significand < 0x10000000000000000) :
    extend significand digits
      = (digits.foldl (fun n digit => n * 10 + digit) significand, []) := by
  induction digits generalizing significand with
  | nil => rfl
  | cons digit digits ih =>
      rw [List.foldl_cons] at h ⊢
      rw [extend, if_pos (Nat.lt_of_le_of_lt (le_foldl ..) h), ih h]

theorem number_eq_foldl (digits : List (Fin 10)) :
    Decimal.number digits = (digits.map Fin.val).foldl (fun n digit => n * 10 + digit) 0 := by
  induction digits using List.reverseRecOn with
  | nil => rfl
  | append_singleton digits digit ih =>
      rw [Decimal.number_append_singleton, ih, List.map_append, List.foldl_append, Nat.mul_comm]
      rfl

section

variable {digits : List (Fin 10)} {n : Nat} (hnumber : Decimal.number digits = n)
include hnumber

theorem number?_eq (hlt : n < 0x10000000000000000) :
    number? false (digits.map Fin.val) none none = some (.integer n) := by
  rw [number_eq_foldl] at hnumber
  rw [number?, extend_eq (by rwa [hnumber]), hnumber]
  rfl

theorem number?_neg_eq (hzero : n ≠ 0) (hle : n ≤ 0x8000000000000000) :
    number? true (digits.map Fin.val) none none = some (.integer (-(n : Int))) := by
  rw [number_eq_foldl] at hnumber
  rw [number?, extend_eq (by omega), hnumber]
  simp [hzero]
  omega

end

/-! ## Rows -/

section

variable {α : Type} {read : Reader α} {close : UInt8} {texts : List (List UInt8)} {values : List α}

theorem readRow_intercalate (hclose : close = 0x5d ∨ close = 0x7d) {text : List UInt8} {value : α}
    (hfirst : Reads read text value) (h : List.Forall₂ (Reads read) texts values)
    {fuel : Nat} (hfuel : texts.length < fuel) (found : List α) (rest : List UInt8) :
    readRow close read fuel found ([0x2c].intercalate (text :: texts) ++ close :: rest)
      = some (found.reverse ++ value :: values, rest) := by
  -- Along the row: each comma costs one unit of fuel, and the value before it joins those found.
  induction h generalizing text value fuel found with
  | nil =>
      obtain ⟨fuel, rfl⟩ := Nat.exists_eq_succ_of_ne_zero (Nat.ne_zero_of_lt hfuel)
      have hread : read (text ++ close :: rest) = some (value, close :: rest) :=
        hfirst.read_eq (by rcases hclose with rfl | rfl <;> simp [Delimited])
      rw [List.intercalate_singleton, readRow, hread]
      rcases hclose with rfl | rfl <;> simp [skipBlanks]
  | @cons next nextValue texts values hnext _ ih =>
      obtain ⟨fuel, rfl⟩ := Nat.exists_eq_succ_of_ne_zero (Nat.ne_zero_of_lt hfuel)
      rw [List.intercalate_cons_cons, List.append_assoc, List.append_assoc, readRow,
        hfirst.read_eq (by simp [Delimited])]
      change readRow close read fuel (value :: found)
        ([0x2c].intercalate (next :: texts) ++ close :: rest) = _
      rw [ih hnext (Nat.lt_of_succ_lt_succ hfuel), List.reverse_cons, List.append_assoc,
        List.singleton_append]

/-- A row has a byte at least for each of its commas. -/
theorem length_le_length_intercalate (text : List UInt8) (texts : List (List UInt8)) :
    texts.length ≤ ([0x2c].intercalate (text :: texts)).length := by
  induction texts generalizing text with
  | nil => exact Nat.zero_le _
  | cons next texts ih =>
      have hnext := ih next
      rw [List.intercalate_cons_cons, List.length_append, List.length_append, List.length_cons,
        List.length_singleton]
      omega

theorem length_le_of_mem_intercalate {text : List UInt8} (h : text ∈ texts) :
    text.length ≤ ([0x2c].intercalate texts).length := by
  induction texts with
  | nil => cases h
  | cons first texts ih =>
      cases texts with
      | nil =>
          obtain rfl := List.mem_singleton.mp h
          simp
      | cons next texts =>
          rw [List.intercalate_cons_cons, List.length_append, List.length_append]
          rcases List.mem_cons.mp h with rfl | h
          · omega
          · have hnext := ih h
            omega

theorem readMany_intercalate (hclose : close = 0x5d ∨ close = 0x7d)
    (h : List.Forall₂ (Reads read) texts values) (rest : List UInt8) :
    readMany close read ([0x2c].intercalate texts ++ close :: rest) = some (values, rest) := by
  cases h with
  | nil => rcases hclose with rfl | rfl <;> rfl
  | @cons text value texts values hfirst h =>
      have hfuel : texts.length
          < ([0x2c].intercalate (text :: texts) ++ close :: rest).length := by
        have hlength := length_le_length_intercalate text texts
        rw [List.length_append, List.length_cons]
        omega
      have hrow := readRow_intercalate hclose hfirst h hfuel [] rest
      obtain ⟨byte, tail, rfl, hgap⟩ := hfirst.starts
      have hbyte : byte ≠ close := by
        rintro rfl
        rcases hclose with rfl | rfl <;> exact hgap (by decide)
      obtain ⟨others, hothers⟩ : ∃ others,
          [0x2c].intercalate ((byte :: tail) :: texts) = byte :: others := by
        cases texts <;> simp
      rw [hothers, List.cons_append] at hrow ⊢
      rw [readMany, skipBlanks_cons hgap]
      simp only [if_neg hbyte, hrow, List.reverse_nil, List.nil_append]

end

/-! ## Documents -/

theorem Reads.member {read : Reader Document} {text : List UInt8} {value : Document}
    (h : Reads read text value) (name : String) :
    Reads (readMember read) (Utf8.encode (quoted name) ++ 0x3a :: text) (some name, value) := by
  obtain ⟨written, hquoted, hname⟩ := readString_quoted name
  rw [hquoted]
  refine ⟨⟨_, _, rfl, by decide⟩, fun hrest => ?_⟩
  rw [readMember, List.append_assoc, List.cons_append]
  simp [skipBlanks, hname, h.read_eq hrest]

section

variable {nested : Reader Document} {room : Bool}

theorem readWith_digit (digit : Fin 10) (rest : List UInt8) :
    readWith nested room (UInt8.ofNat (Nat.digitChar digit.val).toNat :: rest)
      = readNumber false (UInt8.ofNat (Nat.digitChar digit.val).toNat :: rest) := by
  fin_cases digit <;> rfl

theorem digit_not_mem_gaps (digit : Fin 10) :
    UInt8.ofNat (Nat.digitChar digit.val).toNat ∉ gaps := by
  revert digit
  decide

theorem reads_integer {value : Int} (hle : -0x8000000000000000 ≤ value)
    (hlt : value < 0x10000000000000000) :
    Reads (readWith nested room) (Utf8.encode (integer value).render)
      (.number (.integer value)) := by
  cases value with
  | ofNat n =>
      change Reads _ (Utf8.encode (toString n)) _
      obtain ⟨digit, digits, htext, -, -⟩ := exists_digits n
      refine ⟨⟨_, _, htext, digit_not_mem_gaps digit⟩, fun hrest => ?_⟩
      have hread := readNumber_encode hrest fun h => number?_eq (n := n) h (Int.ofNat_lt.mp hlt)
      rw [htext] at hread ⊢
      exact (readWith_digit digit _).trans hread
  | negSucc n =>
      have hminus : Utf8.encode (integer (.negSucc n)).render
          = 0x2d :: Utf8.encode (toString (n + 1)) := Utf8.encode_append "-" (toString (n + 1))
      rw [hminus]
      refine ⟨⟨_, _, rfl, by decide⟩, fun hrest => ?_⟩
      exact readNumber_encode hrest fun h => number?_neg_eq h (Nat.succ_ne_zero n) (by omega)

theorem reads_string (value : String) :
    Reads (readWith nested room) (Utf8.encode (quoted value)) (.string value) := by
  obtain ⟨written, hquoted, hread⟩ := readString_quoted value
  rw [hquoted]
  refine ⟨⟨_, _, rfl, by decide⟩, fun hrest => ?_⟩
  simp [readWith, skipBlanks, hread]

theorem reads_array {texts : List (List UInt8)} {items : List Document}
    (h : List.Forall₂ (Reads nested) texts items) :
    Reads (readWith nested true) (0x5b :: ([0x2c].intercalate texts ++ [0x5d])) (.array items) where
  starts := ⟨_, _, rfl, by decide⟩
  read_eq {rest} _ := by
    have hmany := readMany_intercalate (.inl rfl) h rest
    simp [readWith, skipBlanks, hmany]

theorem ofMembers_map_some (members : List (String × Document)) :
    Document.ofMembers (members.map fun member => (some member.1, member.2))
      = .object members := by
  rw [Document.ofMembers, mapM_map_of_forall]
  exact fun _ => rfl

theorem reads_object {texts : List (List UInt8)} {members : List (String × Document)}
    (h : List.Forall₂ (Reads (readMember nested)) texts
      (members.map fun member => (some member.1, member.2))) :
    Reads (readWith nested true) (0x7b :: ([0x2c].intercalate texts ++ [0x7d]))
      (.object members) where
  starts := ⟨_, _, rfl, by decide⟩
  read_eq {rest} _ := by
    have hmany := readMany_intercalate (.inr rfl) h rest
    simp [readWith, skipBlanks, hmany, ofMembers_map_some]

end

theorem Reads.readDocument {fuel room : Nat} {text : List UInt8} {value : Document}
    (hfuel : text.length ≤ fuel)
    (h : Reads (readWith (readDocument (fuel - 1) (room - 1)) (0 < room)) text value) :
    Reads (Json.readDocument fuel room) text value := by
  cases fuel with
  | zero =>
      obtain ⟨byte, rest, rfl, -⟩ := h.starts
      cases hfuel
  | succ fuel => exact h

/-! ## Trees -/

theorem renderItems_eq_map (items : List Json) : renderItems items = items.map render := by
  induction items with
  | nil => rfl
  | cons item items ih => rw [renderItems, ih, List.map_cons]

theorem renderMembers_eq_map (members : List (String × Json)) :
    renderMembers members
      = members.map fun (name, value) => quoted name ++ ":" ++ value.render := by
  induction members with
  | nil => rfl
  | cons member members ih => rw [renderMembers, ih, List.map_cons]

theorem encode_render_array (items : List Json) :
    Utf8.encode (render (.array items))
      = 0x5b :: ([0x2c].intercalate (items.map fun item => Utf8.encode item.render) ++ [0x5d]) := by
  have hopen : Utf8.encode "[" = [0x5b] := rfl
  have hcomma : Utf8.encode "," = [0x2c] := rfl
  have hclose : Utf8.encode "]" = [0x5d] := rfl
  rw [render, Utf8.encode_append, Utf8.encode_append, Utf8.encode_intercalate, renderItems_eq_map,
    List.map_map, hopen, hcomma, hclose, List.singleton_append, List.cons_append]
  rfl

def memberText (member : String × Json) : List UInt8 :=
  Utf8.encode (quoted member.1) ++ 0x3a :: Utf8.encode member.2.render

theorem encode_render_object (members : List (String × Json)) :
    Utf8.encode (render (.object members))
      = 0x7b :: ([0x2c].intercalate (members.map memberText) ++ [0x7d]) := by
  have hopen : Utf8.encode "\x7b" = [0x7b] := rfl
  have hcomma : Utf8.encode "," = [0x2c] := rfl
  have hclose : Utf8.encode "\x7d" = [0x7d] := rfl
  have hmember : ∀ member : String × Json,
      Utf8.encode (quoted member.1 ++ ":" ++ member.2.render) = memberText member := by
    intro member
    rw [Utf8.encode_append, Utf8.encode_append, List.append_assoc]
    rfl
  rw [render, Utf8.encode_append, Utf8.encode_append, Utf8.encode_intercalate,
    renderMembers_eq_map, List.map_map, hopen, hcomma, hclose, List.singleton_append,
    List.cons_append]
  simp only [Function.comp_def, hmember]

/-- The numbers in a tree are whole and from -2⁶³ to 2⁶⁴ - 1, and no more than so many containers
stand inside one another. -/
inductive Plain : Nat → Json → Prop
  | null (room : Nat) : Plain room .null
  | bool (room : Nat) (value : Bool) : Plain room (.bool value)
  | number (room : Nat) {value : Int} (le_value : -0x8000000000000000 ≤ value)
      (value_lt : value < 0x10000000000000000) : Plain room (.number (.integer value))
  | string (room : Nat) (value : String) : Plain room (.string value)
  | array {room : Nat} {items : List Json} (items_plain : ∀ item ∈ items, Plain room item) :
      Plain (room + 1) (.array items)
  | object {room : Nat} {members : List (String × Json)}
      (values_plain : ∀ member ∈ members, Plain room member.2) : Plain (room + 1) (.object members)

theorem Plain.reads {room : Nat} {tree : Json} (h : Plain room tree) {fuel : Nat}
    (hfuel : (Utf8.encode tree.render).length ≤ fuel) :
    Reads (readDocument fuel room) (Utf8.encode tree.render) tree.document := by
  induction h generalizing fuel with
  | null room => exact .readDocument hfuel ⟨⟨_, _, rfl, by decide⟩, fun _ => rfl⟩
  | bool room value =>
      refine .readDocument hfuel ?_
      cases value with
      | false => exact ⟨⟨_, _, rfl, by decide⟩, fun _ => rfl⟩
      | true => exact ⟨⟨_, _, rfl, by decide⟩, fun _ => rfl⟩
  | number room le_value value_lt => exact .readDocument hfuel (reads_integer le_value value_lt)
  | string room value => exact .readDocument hfuel (reads_string value)
  | @array room items hitems ih =>
      refine .readDocument hfuel ?_
      rw [encode_render_array] at hfuel ⊢
      rw [document, documents_eq_map]
      refine reads_array ?_
      rw [List.forall₂_map_left_iff, List.forall₂_map_right_iff, List.forall₂_same]
      intro item hitem
      refine ih item hitem ?_
      -- The brackets pay for the step into the array, so the fuel that is left covers its items.
      have hlength := length_le_of_mem_intercalate
        (List.mem_map_of_mem (f := fun item => Utf8.encode (render item)) hitem)
      rw [List.length_cons, List.length_append, List.length_singleton] at hfuel
      omega
  | @object room members hmembers ih =>
      refine .readDocument hfuel ?_
      rw [encode_render_object] at hfuel ⊢
      rw [document, memberDocuments_eq_map]
      refine reads_object ?_
      rw [List.map_map, List.forall₂_map_left_iff, List.forall₂_map_right_iff, List.forall₂_same]
      intro member hmember
      refine (ih member hmember ?_).member member.1
      have hlength := length_le_of_mem_intercalate (List.mem_map_of_mem (f := memberText) hmember)
      rw [List.length_cons, List.length_append, List.length_singleton] at hfuel
      rw [memberText, List.length_append, List.length_cons] at hlength
      omega

/-- The text of a plain tree reads back. -/
theorem parse?_render {tree : Json} (h : Plain nestingLimit tree) :
    parse? (Utf8.encode tree.render) = some tree.document := by
  have hread := (h.reads (Nat.le_refl _)).read_eq (show Delimited [] from nofun)
  rw [List.append_nil] at hread
  simp [parse?, hread, skipBlanks]

end StakingGateway.Json
