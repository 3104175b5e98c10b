import StakingGateway.Bytes.Bech32
import StakingGateway.Proofs.Bytes.Positional

/-!
# Bech32 texts read back

The checksum is linear over bit vectors: a state that is a sum goes on as the sum of the states,
and six symbols that follow the empty state are a number of thirty bits.  So the six symbols that
are written turn the state of the text into the residue of its variant.

`decode_encode` reads back the prefix, the data and the variant, `decode_upper_encode` does so from
the text in upper case, and `toBytes_ofBytes` reads back the bytes that the data stands for.
-/

namespace StakingGateway.Bech32

/-! ## The checksum -/

theorem ite_xor (p q : Bool) (c : BitVec 30) :
    (if p ^^ q then c else 0#30) = (if p then c else 0#30) ^^^ (if q then c else 0#30) := by
  cases p <;> cases q <;> simp

theorem feedback_xor (s t : BitVec 30) : feedback (s ^^^ t) = feedback s ^^^ feedback t := by
  simp only [feedback, BitVec.getLsbD_xor, ite_xor]
  ac_rfl

theorem feedback_zero : feedback 0#30 = 0#30 := by
  simp [feedback]

/-- A step takes a sum of states to the sum of their steps; the symbol counts once. -/
theorem step_xor (s t : BitVec 30) (value : Nat) :
    step (s ^^^ t) value = step s 0 ^^^ step t value := by
  simp only [step, BitVec.shiftLeft_xor_distrib, BitVec.ushiftRight_xor_distrib, feedback_xor,
    BitVec.xor_zero]
  ac_rfl

theorem foldl_step_xor (values : List Nat) (s t : BitVec 30) :
    values.foldl step (s ^^^ t)
      = (List.replicate values.length 0).foldl step s ^^^ values.foldl step t := by
  induction values generalizing s t with
  | nil => rfl
  | cons value rest ih =>
      rw [List.foldl_cons, step_xor, ih, List.length_cons, List.replicate_succ, List.foldl_cons,
        List.foldl_cons]

/-- Bits below a multiple of thirty-two are added without a carry. -/
theorem mul_xor {n value : Nat} (h : value < 32) : (n * 32) ^^^ value = n * 32 + value := by
  apply Nat.eq_of_testBit_eq
  intro i
  rw [Nat.mul_comm, show (32 : Nat) = 2 ^ 5 from rfl, Nat.testBit_xor, Nat.testBit_two_pow_mul,
    Nat.testBit_two_pow_mul_add n h]
  by_cases hi : i < 5
  · simp [hi, Nat.not_le_of_lt hi]
  · have hle : 5 ≤ i := Nat.le_of_not_lt hi
    have hpow : 2 ^ 5 ≤ 2 ^ i := Nat.pow_le_pow_right (by decide) hle
    have hbit : value.testBit i = false := Nat.testBit_lt_two_pow (Nat.lt_of_lt_of_le h hpow)
    simp [hi, hle, hbit]

theorem step_ofNat {n value : Nat} (hn : n < 2 ^ 25) (hvalue : value < 32) :
    step (BitVec.ofNat 30 n) value = BitVec.ofNat 30 (n * 32 + value) := by
  have hmod : n % 2 ^ 30 = n := Nat.mod_eq_of_lt (by omega)
  have htop : BitVec.ofNat 30 n >>> 25 = 0#30 := by
    apply BitVec.eq_of_toNat_eq
    rw [BitVec.toNat_ushiftRight, BitVec.toNat_ofNat, hmod, Nat.shiftRight_eq_div_pow,
      Nat.div_eq_of_lt hn]
    rfl
  apply BitVec.eq_of_toNat_eq
  rw [step, htop, feedback_zero, BitVec.xor_zero, BitVec.toNat_xor, BitVec.toNat_shiftLeft,
    BitVec.toNat_ofNat, BitVec.toNat_ofNat, BitVec.toNat_ofNat, hmod, Nat.shiftLeft_eq,
    Nat.mod_eq_of_lt (a := n * 2 ^ 5) (by omega), Nat.mod_eq_of_lt (a := value) (by omega),
    Nat.mod_eq_of_lt (a := n * 32 + value) (by omega)]
  exact mul_xor hvalue

theorem foldl_step_ofNat {values : List Nat} (places : Nat) {n : Nat}
    (hplaces : places + values.length = checksumLength) (hn : n < 32 ^ places)
    (hvalues : ∀ v ∈ values, v < 32) :
    values.foldl step (BitVec.ofNat 30 n)
      = BitVec.ofNat 30 (values.foldl (fun n d => n * 32 + d) n) := by
  induction values generalizing places n with
  | nil => rfl
  | cons value rest ih =>
      have hvalue : value < 32 := hvalues value (by simp)
      rw [List.length_cons, checksumLength] at hplaces
      have hroom : n < 2 ^ 25 := by
        have hpow : 32 ^ places ≤ 32 ^ 5 := Nat.pow_le_pow_right (by decide) (by omega)
        omega
      have hnext : n * 32 + value < 32 ^ (places + 1) := by
        rw [Nat.pow_succ]
        omega
      rw [List.foldl_cons, List.foldl_cons, step_ofNat hroom hvalue]
      refine ih (places + 1) ?_ hnext fun v hv => hvalues v (by simp [hv])
      rw [checksumLength]
      omega

theorem length_checksum (variant : Variant) (hrp : List Char) (data : List Nat) :
    (checksum variant hrp data).length = checksumLength :=
  Positional.length_digits _ _ _

theorem lt_of_mem_checksum {variant : Variant} {hrp : List Char} {data : List Nat} {v : Nat}
    (h : v ∈ checksum variant hrp data) : v < 32 :=
  Positional.lt_of_mem_digits (by decide) h

theorem reduce_append (hrp : List Char) (data : List Nat) {sum : List Nat}
    (hlength : sum.length = checksumLength) (hsum : ∀ v ∈ sum, v < 32) :
    reduce (expandPrefix hrp ++ (data ++ sum))
      = (List.replicate checksumLength 0).foldl step (reduce (expandPrefix hrp ++ data))
        ^^^ BitVec.ofNat 30 (Positional.value 32 sum) := by
  have hnumber : sum.foldl step (BitVec.ofNat 30 0) = BitVec.ofNat 30 (Positional.value 32 sum) :=
    foldl_step_ofNat 0 (by rw [hlength]; rfl) (by decide) hsum
  rw [← hnumber, ← hlength, ← foldl_step_xor, ← List.append_assoc, reduce, List.foldl_append]
  simp [reduce]

/-- Behind its data the checksum leads to the residue of the variant. -/
theorem reduce_checksum (variant : Variant) (hrp : List Char) (data : List Nat) :
    reduce (expandPrefix hrp ++ (data ++ checksum variant hrp data)) = variant.residue := by
  let state := reduce (expandPrefix hrp ++ data)
  let zeros := (List.replicate checksumLength 0).foldl step state
  have hchecksum : checksum variant hrp data
      = Positional.digits 32 checksumLength (zeros ^^^ variant.residue).toNat := by
    rw [checksum, reduce, List.foldl_append]
    rfl
  have hnumber : BitVec.ofNat 30 (Positional.value 32 (checksum variant hrp data))
      = zeros ^^^ variant.residue := by
    have hlt : (zeros ^^^ variant.residue).toNat < Nat.pow 32 checksumLength :=
      (zeros ^^^ variant.residue).isLt
    rw [hchecksum, Positional.value_digits, Nat.mod_eq_of_lt hlt, BitVec.ofNat_toNat,
      BitVec.setWidth_eq]
  calc reduce (expandPrefix hrp ++ (data ++ checksum variant hrp data))
      = zeros ^^^ (zeros ^^^ variant.residue) := by
        rw [reduce_append hrp data (length_checksum ..) fun v hv => lt_of_mem_checksum hv, hnumber]
    _ = variant.residue := by
        rw [← BitVec.xor_assoc, BitVec.xor_self, BitVec.zero_xor]

theorem variantOf?_checksum (variant : Variant) (hrp : List Char) (data : List Nat) :
    variantOf? hrp (data ++ checksum variant hrp data) = some variant := by
  rw [variantOf?, reduce_checksum]
  cases variant <;> decide

/-! ## The text -/

theorem splitLast_append {separator : Char} (before : List Char) {after : List Char}
    (h : ∀ c ∈ after, c ≠ separator) :
    splitLast separator (before ++ separator :: after) = some (before, after) := by
  have hrev : ∀ c ∈ after.reverse, (decide (c ≠ separator)) = true := by
    intro c hc
    simpa using h c (List.mem_reverse.mp hc)
  have hsplit : (before ++ separator :: after).reverse
      = after.reverse ++ separator :: before.reverse := by simp
  simp only [splitLast, hsplit]
  rw [List.takeWhile_append_of_pos hrev, List.dropWhile_append_of_pos hrev]
  simp

/-- How a lower-case character is written in a text of a case. -/
def Case.write : Case → Char → Char
  | .upper, c => c.toUpper
  | _, c => c

def Case.opposite : Case → Case
  | .upper => .lower
  | _ => .upper

theorem symbol_spec (case : Case) {value : Nat} (h : value < 32) :
    case.write (symbol value) ≠ '1' ∧ ¬ 127 < (case.write (symbol value)).toNat
      ∧ symbolValue? (case.write (symbol value)).toLower = some value := by
  revert value
  cases case <;> decide

theorem join?_symbol {case seen : Case} {value : Nat} (hseen : seen ≠ case.opposite)
    (h : value < 32) :
    ∃ next, seen.join? (case.write (symbol value)) = some next ∧ next ≠ case.opposite := by
  have hany : seen ≠ case.opposite → ∀ v < 32,
      (seen.join? (case.write (symbol v))).any (· ≠ case.opposite) := by
    cases case <;> cases seen <;> decide
  simpa [Option.any_eq_true] using hany hseen value h

theorem readData_map_symbol (case : Case) {seen : Case} {data : List Nat}
    (hseen : seen ≠ case.opposite) (hdata : ∀ v ∈ data, v < 32) :
    readData seen ((data.map symbol).map case.write) = .ok data := by
  induction data generalizing seen with
  | nil => rfl
  | cons value rest ih =>
      have hvalue : value < 32 := hdata value (by simp)
      obtain ⟨-, hascii, hsymbol⟩ := symbol_spec case hvalue
      obtain ⟨next, hjoin, hnext⟩ := join?_symbol hseen hvalue
      have hrest : readData next ((rest.map symbol).map case.write) = .ok rest :=
        ih hnext fun v hv => hdata v (by simp [hv])
      rw [List.map_cons, List.map_cons, readData, if_neg hascii, hjoin]
      simp only [hsymbol, hrest]
      rfl

structure LowerPrefix (hrp : String) : Prop where
  nonempty : hrp.toList ≠ []
  short : hrp.utf8ByteSize ≤ 83
  lower : hrp.toList.map Char.toLower = hrp.toList
  readable : ∃ seen, checkPrefix .unseen hrp.toList = .ok seen ∧ seen ≠ .upper

/-- A text is read if what stands before its last separator spells the prefix, in whatever case, and
what stands behind it the data and the checksum. -/
theorem decode_of_parts (variant : Variant) {text : String} {before after hrp : List Char}
    {seen : Case} {data symbols : List Nat}
    (hsplit : splitLast '1' text.toList = some (before, after))
    (hnonempty : before ≠ []) (hshort : (String.ofList before).utf8ByteSize ≤ 83)
    (hcheck : checkPrefix .unseen before = .ok seen) (hlower : before.map Char.toLower = hrp)
    (hread : readData seen after = .ok symbols)
    (hsymbols : symbols = data ++ checksum variant hrp data) :
    decode text = .ok (String.ofList hrp, data, variant) := by
  have hlength : symbols.length = data.length + checksumLength := by
    rw [hsymbols, List.length_append, length_checksum]
  have hprefix : ¬ (before.isEmpty ∨ 83 < (String.ofList before).utf8ByteSize) := by
    rw [List.isEmpty_iff, not_or, Nat.not_lt]
    exact ⟨hnonempty, hshort⟩
  have htake : symbols.take (symbols.length - checksumLength) = data := by
    rw [hlength, Nat.add_sub_cancel, hsymbols]
    exact List.take_left
  have hvariant : variantOf? hrp symbols = some variant := by rw [hsymbols, variantOf?_checksum]
  have hlong : ¬ symbols.length < checksumLength := by omega
  simp only [decode, hsplit, hcheck, hread, hlower, bind, Except.bind, if_neg hlong, htake,
    hvariant]
  rw [if_neg hprefix]

def upper (text : String) : String :=
  String.ofList (text.toList.map Char.toUpper)

structure UpperPrefix (hrp : String) : Prop where
  nonempty : (upper hrp).toList ≠ []
  short : (upper hrp).utf8ByteSize ≤ 83
  lower : (upper hrp).toList.map Char.toLower = hrp.toList
  readable : ∃ seen, checkPrefix .unseen (upper hrp).toList = .ok seen ∧ seen ≠ .lower

section

variable (variant : Variant) {hrp : String} {data : List Nat}

theorem lt_of_mem_append_checksum (hrp : List Char) (hdata : ∀ v ∈ data, v < 32) :
    ∀ v ∈ data ++ checksum variant hrp data, v < 32 := by
  intro v hv
  rcases List.mem_append.mp hv with hv | hv
  · exact hdata v hv
  · exact lt_of_mem_checksum hv

theorem splitLast_write (case : Case) (before hrp : List Char) (hdata : ∀ v ∈ data, v < 32) :
    splitLast '1' (before ++ '1' :: ((data ++ checksum variant hrp data).map symbol).map case.write)
      = some (before, ((data ++ checksum variant hrp data).map symbol).map case.write) := by
  apply splitLast_append
  intro c hc
  obtain ⟨s, hs, rfl⟩ := List.mem_map.mp hc
  obtain ⟨v, hv, rfl⟩ := List.mem_map.mp hs
  exact (symbol_spec case (lt_of_mem_append_checksum variant hrp hdata v hv)).1

theorem decode_encode (hhrp : LowerPrefix hrp) (hdata : ∀ v ∈ data, v < 32) :
    decode (encode variant hrp data) = .ok (hrp, data, variant) := by
  obtain ⟨seen, hcheck, hseen⟩ := hhrp.readable
  have hsplit := splitLast_write variant .lower hrp.toList hrp.toList hdata
  have hread := readData_map_symbol .lower hseen
    (lt_of_mem_append_checksum variant hrp.toList hdata)
  rw [show Case.write .lower = id from rfl, List.map_id] at hsplit hread
  have htext : (encode variant hrp data).toList
      = hrp.toList ++ '1' :: (data ++ checksum variant hrp.toList data).map symbol :=
    String.toList_ofList
  rw [← htext] at hsplit
  have hdecode := decode_of_parts variant hsplit hhrp.nonempty
    (by rw [String.ofList_toList]; exact hhrp.short) hcheck hhrp.lower hread rfl
  rwa [String.ofList_toList] at hdecode

theorem decode_upper_encode (hhrp : UpperPrefix hrp) (hdata : ∀ v ∈ data, v < 32) :
    decode (upper (encode variant hrp data)) = .ok (hrp, data, variant) := by
  obtain ⟨seen, hcheck, hseen⟩ := hhrp.readable
  have htext : (upper (encode variant hrp data)).toList = (upper hrp).toList ++
      '1' :: ((data ++ checksum variant hrp.toList data).map symbol).map (Case.write .upper) := by
    simp only [upper, encode, String.toList_ofList, List.map_append, List.map_cons]
    rfl
  have hdecode := decode_of_parts variant
    (by rw [htext]; exact splitLast_write variant .upper _ _ hdata) hhrp.nonempty
    (by rw [String.ofList_toList]; exact hhrp.short) hcheck hhrp.lower
    (readData_map_symbol .upper hseen (lt_of_mem_append_checksum variant _ hdata)) rfl
  rwa [String.ofList_toList] at hdecode

end

/-! ## The data -/

theorem lt_of_mem_ofBytes {bytes : List UInt8} {v : Nat} (h : v ∈ ofBytes bytes) : v < 32 :=
  Positional.lt_of_mem_digits (by decide) h

theorem toBytes_ofBytes (bytes : List UInt8) : toBytes (ofBytes bytes) = .ok bytes := by
  let bits := 8 * bytes.length
  let count := (bits + 4) / 5
  let fill := 5 * count - bits
  have hfill : 5 * count = bits + fill ∧ fill < 5 := by omega
  have hlength : (ofBytes bytes).length = count := Positional.length_digits _ _ _
  have hmod : 5 * count % 8 = fill := by omega
  have hdiv : 5 * count / 8 = bytes.length := by omega
  have hlt : BigEndian.toNat bytes * 2 ^ fill < 32 ^ count := by
    have hbytes : BigEndian.toNat bytes < 2 ^ bits := by
      rw [Nat.pow_mul]
      exact BigEndian.toNat_lt bytes
    rw [show (32 : Nat) = 2 ^ 5 from rfl, ← Nat.pow_mul, hfill.1, Nat.pow_add]
    exact Nat.mul_lt_mul_of_pos_right hbytes (Nat.two_pow_pos fill)
  have hvalue : Positional.value 32 (ofBytes bytes) = BigEndian.toNat bytes * 2 ^ fill := by
    rw [ofBytes, Positional.value_digits, Nat.shiftLeft_eq, Nat.pow_eq]
    exact Nat.mod_eq_of_lt hlt
  have hpow : Nat.shiftLeft 1 fill = 2 ^ fill := by
    rw [← Nat.one_shiftLeft]
    rfl
  simp only [toBytes, hlength, hmod, hdiv, hvalue, hpow, Nat.shiftRight_eq_div_pow]
  rw [if_neg, Nat.mul_div_cancel _ (Nat.two_pow_pos fill), BigEndian.bytesOfLength_toNat]
  rw [Nat.mul_mod_left]
  omega

end StakingGateway.Bech32
