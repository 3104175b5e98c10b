import StakingGateway.Operation.Replay
import StakingGateway.Proofs.Bytes.Text

/-!
# Replays as operations under hashes

A replay keeps its transactions in one list and finds them through an index.  `Keyed replay hashes`
says that the index is right: the transactions are those of `hashes`, in this order and each once,
and the index tells the place of each.  `Replay.put` keeps it so (`Keyed.put`), and under that
condition it changes what stands under one hash and nothing else (`Keyed.operations?_put`).
-/

namespace StakingGateway

open Api (Operation)

theorem Hash.text_inj {a b : Hash} : a.text = b.text ↔ a = b := by
  constructor
  · intro h
    have hbytes := Hex.decode_encode a.bytes
    rw [show Hex.encode a.bytes = Hex.encode b.bytes from h, Hex.decode_encode] at hbytes
    exact Hash.ext_bytes (Except.ok.inj hbytes).symm
  · rintro rfl
    rfl

theorem map_modify_eq_map {α β : Type} {f : α → α} {g : α → β} (h : ∀ a, g (f a) = g a)
    (list : List α) (place : Nat) : (list.modify place f).map g = list.map g := by
  induction list generalizing place with
  | nil => simp
  | cons a rest ih =>
      cases place with
      | zero => simp [h]
      | succ place => simp [ih]

theorem modify_length_append {α : Type} (list : List α) (a : α) (f : α → α) :
    (list ++ [a]).modify list.length f = list ++ [f a] := by
  induction list with
  | nil => simp
  | cons b rest ih => simp [ih]

theorem getElem?_append_singleton_eq_some_iff {α : Type} {list : List α} {a b : α} {place : Nat} :
    (list ++ [a])[place]? = some b ↔ list[place]? = some b ∨ place = list.length ∧ a = b := by
  rcases Nat.lt_trichotomy place list.length with hlt | heq | hgt
  · rw [List.getElem?_append_left hlt]
    simp [hlt.ne]
  · subst heq
    simp
  · have hout : list.length ≤ place := hgt.le
    have hlong : (list ++ [a]).length ≤ place := by simpa using hgt
    simp [List.getElem?_eq_none hout, List.getElem?_eq_none hlong, hgt.ne']

namespace Replay

variable {replay : Replay} {hashes : List Hash}

/-- The transactions of a replay are those of the hashes, each hash occurs once, and the index
tells the place of each. -/
structure Keyed (replay : Replay) (hashes : List Hash) : Prop where
  nodup : hashes.Nodup
  identifiers_eq :
    replay.transactions.map (·.transactionIdentifier) = hashes.map fun hash => ⟨hash.text⟩
  place?_iff : ∀ hash place, replay.place? hash = some place ↔ hashes[place]? = some hash

theorem keyed_empty : Replay.empty.Keyed [] := by
  refine ⟨List.nodup_nil, rfl, ?_⟩
  intro hash place
  simp [place?, empty, Assoc.find?]

namespace Keyed

theorem length_eq (h : replay.Keyed hashes) : replay.transactions.length = hashes.length := by
  have hlength := congrArg List.length h.identifiers_eq
  rwa [List.length_map, List.length_map] at hlength

theorem place_lt (h : replay.Keyed hashes) {hash : Hash} {place : Nat}
    (hplace : replay.place? hash = some place) : place < replay.transactions.length := by
  rw [h.length_eq]
  exact (List.getElem?_eq_some_iff.mp ((h.place?_iff hash place).mp hplace)).1

theorem mem_of_place (h : replay.Keyed hashes) {hash : Hash} {place : Nat}
    (hplace : replay.place? hash = some place) : hash ∈ hashes :=
  List.mem_of_getElem? ((h.place?_iff hash place).mp hplace)

theorem not_mem_of_place_none (h : replay.Keyed hashes) {hash : Hash}
    (hplace : replay.place? hash = none) : hash ∉ hashes := by
  intro hmem
  obtain ⟨place, hplace'⟩ := List.mem_iff_getElem?.mp hmem
  rw [(h.place?_iff hash place).mpr hplace'] at hplace
  cases hplace

theorem place_inj (h : replay.Keyed hashes) {hash other : Hash} {place : Nat}
    (hplace : replay.place? hash = some place) (hother : replay.place? other = some place) :
    hash = other := by
  rw [h.place?_iff] at hplace hother
  rw [hplace] at hother
  exact Option.some.inj hother

theorem nodup_identifiers (h : replay.Keyed hashes) :
    (replay.transactions.map (·.transactionIdentifier)).Nodup := by
  rw [h.identifiers_eq]
  refine h.nodup.map ?_
  intro a b hab
  exact Hash.text_inj.mp (Api.TransactionIdentifier.mk.inj hab)

theorem place?_eq_some_iff (h : replay.Keyed hashes) {hash : Hash} {place : Nat} :
    replay.place? hash = some place ↔
      ∃ tx, replay.transactions[place]? = some tx ∧ tx.transactionIdentifier = ⟨hash.text⟩ := by
  have hidentifier := congrArg (·[place]?) h.identifiers_eq
  simp only [List.getElem?_map] at hidentifier
  rw [h.place?_iff]
  constructor
  · intro hhash
    rw [hhash] at hidentifier
    obtain ⟨tx, htx, htext⟩ := Option.map_eq_some_iff.mp hidentifier
    exact ⟨tx, htx, htext⟩
  · rintro ⟨tx, htx, htext⟩
    rw [htx, Option.map_some, htext] at hidentifier
    obtain ⟨found, hfound, hsame⟩ := Option.map_eq_some_iff.mp hidentifier.symm
    rw [hfound, Hash.text_inj.mp (Api.TransactionIdentifier.mk.inj hsame)]

theorem exists_hash (h : replay.Keyed hashes) {tx : Api.Transaction}
    (htx : tx ∈ replay.transactions) : ∃ hash : Hash, tx.transactionIdentifier = ⟨hash.text⟩ := by
  have hmem := List.mem_map_of_mem (f := (·.transactionIdentifier)) htx
  rw [h.identifiers_eq] at hmem
  obtain ⟨hash, _, htext⟩ := List.mem_map.mp hmem
  exact ⟨hash, htext.symm⟩

end Keyed

/-! ## Putting operations -/

theorem put_of_place {hash : Hash} {place : Nat} (hplace : replay.place? hash = some place)
    (ops : List Operation) :
    replay.put hash ops = ⟨replay.transactions.modify place fun tx => { tx with operations := ops },
      replay.index⟩ := by
  simp only [put, locate, hplace]

theorem put_of_place_none {hash : Hash} (hplace : replay.place? hash = none)
    (ops : List Operation) :
    replay.put hash ops = ⟨replay.transactions ++ [.of ⟨hash.text⟩ ops],
      (hash, replay.transactions.length) :: replay.index⟩ := by
  simp only [put, locate, hplace, modify_length_append, Api.Transaction.of]

theorem place?_cons (transactions : List Api.Transaction) (hash other : Hash) (place : Nat) :
    place? ⟨transactions, (hash, place) :: replay.index⟩ other
      = if hash = other then some place else replay.place? other :=
  rfl

/-- The hashes that occurred, once a hash occurs. -/
def note (hashes : List Hash) (hash : Hash) : List Hash :=
  if hash ∈ hashes then hashes else hashes ++ [hash]

theorem Keyed.put (h : replay.Keyed hashes) (hash : Hash) (ops : List Operation) :
    (replay.put hash ops).Keyed (note hashes hash) := by
  cases hplace : replay.place? hash with
  | some place =>
      rw [put_of_place hplace, note, if_pos (h.mem_of_place hplace)]
      refine ⟨h.nodup, ?_, h.place?_iff⟩
      refine (map_modify_eq_map ?_ _ place).trans h.identifiers_eq
      intro tx
      rfl
  | none =>
      have hnew := h.not_mem_of_place_none hplace
      rw [put_of_place_none hplace, note, if_neg hnew]
      refine ⟨?_, ?_, ?_⟩
      · rw [← List.concat_eq_append]
        exact h.nodup.concat hnew
      · rw [List.map_append, List.map_append, h.identifiers_eq]
        rfl
      · intro other place
        rw [place?_cons, getElem?_append_singleton_eq_some_iff, ← h.place?_iff, h.length_eq]
        by_cases hother : hash = other
        · subst hother
          simp [hplace, eq_comm]
        · simp [hother]

/-- Operations that are put under a hash stand there, and under no other hash is anything
changed. -/
theorem Keyed.operations?_put (h : replay.Keyed hashes) (hash : Hash) (ops : List Operation)
    (other : Hash) :
    (replay.put hash ops).operations? other
      = if other = hash then some ops else replay.operations? other := by
  cases hplace : replay.place? hash with
  | some place =>
      rw [put_of_place hplace, operations?, operations?]
      change (replay.place? other).bind _ = _
      by_cases hother : other = hash
      · subst hother
        rw [if_pos rfl, hplace]
        simp [h.place_lt hplace]
      · rw [if_neg hother]
        cases hfound : replay.place? other with
        | none => rfl
        | some found =>
            have hne : place ≠ found := by
              rintro rfl
              exact hother (h.place_inj hfound hplace)
            simp [hne]
  | none =>
      rw [put_of_place_none hplace, operations?, operations?, place?_cons]
      by_cases hother : other = hash
      · subst hother
        simp [Api.Transaction.of]
      · rw [if_neg hother, if_neg (Ne.symm hother)]
        cases hfound : replay.place? other with
        | none => rfl
        | some found =>
            simp [List.getElem?_append_left (h.place_lt hfound)]

theorem Keyed.operations_put_self (h : replay.Keyed hashes) (hash : Hash) (ops : List Operation) :
    (replay.put hash ops).operations hash = ops := by
  rw [operations, h.operations?_put, if_pos rfl, Option.getD_some]

theorem put_put (hash : Hash) (ops ops' : List Operation) :
    (replay.put hash ops).put hash ops' = replay.put hash ops' := by
  cases hplace : replay.place? hash with
  | some place =>
      have hagain : (replay.put hash ops).place? hash = some place := by
        rw [put_of_place hplace]
        exact hplace
      rw [put_of_place hagain, put_of_place hplace, put_of_place hplace]
      simp only [List.modify_modify_eq]
      rfl
  | none =>
      have hagain : (replay.put hash ops).place? hash = some replay.transactions.length := by
        rw [put_of_place_none hplace, place?_cons, if_pos rfl]
      rw [put_of_place hagain, put_of_place_none hplace, put_of_place_none hplace]
      simp only [modify_length_append, Api.Transaction.of]

theorem operations_of_place {hash : Hash} {place : Nat} {tx : Api.Transaction}
    (hplace : replay.place? hash = some place) (htx : replay.transactions[place]? = some tx) :
    replay.operations hash = tx.operations := by
  simp [operations, operations?, hplace, htx]

theorem operations_of_place_none {hash : Hash} (hplace : replay.place? hash = none) :
    replay.operations hash = [] := by
  simp [operations, operations?, hplace]

/-! ## What becomes of the transactions -/

/-- Every transaction keeps its place and all that it has, and operations are only appended to
it. -/
def ExtendedBy (before after : Replay) : Prop :=
  ∀ (place : Nat) (tx : Api.Transaction), before.transactions[place]? = some tx →
    ∃ more, after.transactions[place]? = some { tx with operations := tx.operations ++ more }

theorem ExtendedBy.refl (replay : Replay) : replay.ExtendedBy replay := by
  intro place tx htx
  refine ⟨[], ?_⟩
  rw [List.append_nil]
  exact htx

theorem ExtendedBy.trans {first second third : Replay} (h : first.ExtendedBy second)
    (h' : second.ExtendedBy third) : first.ExtendedBy third := by
  intro place tx htx
  obtain ⟨more, hmore⟩ := h place tx htx
  obtain ⟨rest, hrest⟩ := h' place _ hmore
  refine ⟨more ++ rest, ?_⟩
  rw [← List.append_assoc]
  exact hrest

theorem extendedBy_put (replay : Replay) (hash : Hash) (more : List Operation) :
    replay.ExtendedBy (replay.put hash (replay.operations hash ++ more)) := by
  intro place tx htx
  cases hplace : replay.place? hash with
  | some found =>
      rw [put_of_place hplace]
      by_cases hfound : found = place
      · subst hfound
        refine ⟨more, ?_⟩
        rw [operations_of_place hplace htx]
        simp [htx]
      · refine ⟨[], ?_⟩
        simp [hfound, htx]
  | none =>
      rw [put_of_place_none hplace]
      refine ⟨[], ?_⟩
      have hlt := (List.getElem?_eq_some_iff.mp htx).1
      simp [List.getElem?_append_left hlt, htx]

theorem mem_transactions_put {hash : Hash} {ops : List Operation} {tx : Api.Transaction}
    (htx : tx ∈ (replay.put hash ops).transactions) :
    tx ∈ replay.transactions ∨ tx.operations = ops := by
  cases hplace : replay.place? hash with
  | some place =>
      rw [put_of_place hplace] at htx
      obtain ⟨found, hfound⟩ := List.mem_iff_getElem?.mp htx
      rw [List.getElem?_modify] at hfound
      obtain ⟨old, hold, heq⟩ := Option.map_eq_some_iff.mp hfound
      by_cases hsame : place = found
      · rw [if_pos hsame] at heq
        exact .inr (congrArg Api.Transaction.operations heq).symm
      · rw [if_neg hsame] at heq
        rw [heq] at hold
        exact .inl (List.mem_of_getElem? hold)
  | none =>
      rw [put_of_place_none hplace] at htx
      rcases List.mem_append.mp htx with hold | hnew
      · exact .inl hold
      · rw [List.mem_singleton.mp hnew]
        exact .inr rfl

theorem operations_eq_nil_or_mem (replay : Replay) (hash : Hash) :
    replay.operations hash = [] ∨
      ∃ tx ∈ replay.transactions, replay.operations hash = tx.operations := by
  cases hplace : replay.place? hash with
  | none => exact .inl (operations_of_place_none hplace)
  | some place =>
      cases htx : replay.transactions[place]? with
      | none => exact .inl (by simp [operations, operations?, hplace, htx])
      | some tx =>
          exact .inr ⟨tx, List.mem_of_getElem? htx, operations_of_place hplace htx⟩

def allOperations (replay : Replay) : List Operation :=
  replay.transactions.flatMap (·.operations)

/-- Appending operations under a hash adds them to all operations, wherever they come to stand. -/
theorem Keyed.allOperations_put_perm (h : replay.Keyed hashes) (hash : Hash)
    (more : List Operation) :
    (replay.put hash (replay.operations hash ++ more)).allOperations.Perm
      (replay.allOperations ++ more) := by
  cases hplace : replay.place? hash with
  | some place =>
      obtain ⟨front, tx, back, hsplit, hlength, hmodify⟩ := List.exists_of_modify
        (fun tx : Api.Transaction => { tx with operations := replay.operations hash ++ more })
        (h.place_lt hplace)
      have htx : replay.transactions[place]? = some tx := by simp [hsplit, ← hlength]
      rw [put_of_place hplace, allOperations, allOperations, hmodify, hsplit,
        operations_of_place hplace htx]
      simp only [List.flatMap_append, List.flatMap_cons, List.append_assoc]
      exact (List.perm_append_comm.append_left _).append_left _
  | none =>
      rw [put_of_place_none hplace, operations_of_place_none hplace]
      simp [allOperations, Api.Transaction.of]

end Replay

end StakingGateway
