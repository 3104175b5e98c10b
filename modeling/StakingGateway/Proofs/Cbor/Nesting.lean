import StakingGateway.Proofs.Cbor.Canonical

/-!
# Nesting of what is read

What is read from bytes is nested no deeper than the reader goes (`depth_le_of_decode`), and a member
of a record less deep than the record (`Item.depth_lt_of_mem_members?`).  So what was read, or a
member of it, can be written and read again.
-/

namespace StakingGateway.Cbor

def Reader.Yields {α : Type} (P : α → Prop) (read : Reader α) : Prop :=
  ∀ {bytes rest : List UInt8} {value : α}, read bytes = some (value, rest) → P value

/-! ## Rows -/

section

variable {α : Type} {P : α → Prop} {read : Reader α}

theorem yields_readCount (h : read.Yields P) (count : Nat) :
    Reader.Yields (fun values => ∀ value ∈ values, P value) (readCount read count) := by
  induction count with
  | zero =>
      rintro bytes rest values ⟨⟩
      exact nofun
  | succ count ih =>
      intro bytes rest values hread
      obtain ⟨⟨first, tail⟩, hfirst, hread⟩ := Option.bind_eq_some_iff.mp hread
      obtain ⟨⟨others, tail⟩, hothers, ⟨⟩⟩ := Option.bind_eq_some_iff.mp hread
      exact List.forall_mem_cons.mpr ⟨h hfirst, ih hothers⟩

theorem yields_readUntilBreak (h : read.Yields P) (fuel : Nat) :
    Reader.Yields (fun values => ∀ value ∈ values, P value) (readUntilBreak read fuel) := by
  intro bytes rest values hread
  fun_induction readUntilBreak read fuel bytes generalizing values rest with
  | case1 => cases hread
  | case2 =>
      cases hread
      exact nofun
  | case3 => cases hread
  | case4 fuel _ _ _ ih =>
      obtain ⟨⟨first, tail⟩, hfirst, hread⟩ := Option.bind_eq_some_iff.mp hread
      obtain ⟨⟨others, tail⟩, hothers, ⟨⟩⟩ := Option.bind_eq_some_iff.mp hread
      exact List.forall_mem_cons.mpr ⟨h hfirst, ih _ hothers⟩

theorem yields_readMany (h : read.Yields P) (info : Nat) :
    (readMany read info).Yields fun values => ∀ value ∈ values, P value := by
  intro bytes rest values hread
  rw [readMany] at hread
  split at hread
  next => exact yields_readUntilBreak h _ hread
  next =>
    obtain ⟨⟨count, tail⟩, _, hread⟩ := Option.bind_eq_some_iff.mp hread
    exact yields_readCount h count hread

theorem yields_readEntry (h : read.Yields P) :
    (readEntry read).Yields fun entry => P entry.1 ∧ P entry.2 := by
  intro bytes rest entry hread
  obtain ⟨⟨key, tail⟩, hkey, hread⟩ := Option.bind_eq_some_iff.mp hread
  obtain ⟨⟨value, tail⟩, hvalue, ⟨⟩⟩ := Option.bind_eq_some_iff.mp hread
  exact ⟨h hkey, h hvalue⟩

end

/-! ## Items -/

open Item

theorem yields_readSimple (info : Nat) : (readSimple info).Yields fun item => item.depth = 0 := by
  intro bytes rest item hread
  unfold readSimple at hread
  split at hread
  next => cases hread; rfl
  split at hread
  next => cases hread; rfl
  split at hread
  next => cases hread; rfl
  split at hread
  next => cases hread; rfl
  split at hread
  next => obtain ⟨⟨bits, tail⟩, _, ⟨⟩⟩ := Option.bind_eq_some_iff.mp hread; rfl
  split at hread
  next => obtain ⟨⟨bits, tail⟩, _, ⟨⟩⟩ := Option.bind_eq_some_iff.mp hread; rfl
  split at hread
  next => obtain ⟨⟨bits, tail⟩, _, ⟨⟩⟩ := Option.bind_eq_some_iff.mp hread; rfl
  next => cases hread

/-- An item is nested one deeper than what is read inside it. -/
theorem yields_readWith {nested : Option (Reader Item)} {limit : Nat}
    (h : ∀ read ∈ nested, ∃ inner < limit, read.Yields fun item => item.depth ≤ inner) :
    (readWith nested).Yields fun item => item.depth ≤ limit := by
  intro bytes rest item hread
  cases bytes with
  | nil => cases hread
  | cons initial tail =>
      rw [readWith] at hread
      split at hread
      next =>
        obtain ⟨⟨n, tail⟩, _, ⟨⟩⟩ := Option.bind_eq_some_iff.mp hread
        exact Nat.zero_le limit
      next =>
        obtain ⟨⟨n, tail⟩, _, ⟨⟩⟩ := Option.bind_eq_some_iff.mp hread
        exact Nat.zero_le limit
      next =>
        obtain ⟨⟨content, tail⟩, _, ⟨⟩⟩ := Option.bind_eq_some_iff.mp hread
        exact Nat.zero_le limit
      next =>
        obtain ⟨⟨content, tail⟩, _, hread⟩ := Option.bind_eq_some_iff.mp hread
        obtain ⟨text, _, ⟨⟩⟩ := Option.bind_eq_some_iff.mp hread
        exact Nat.zero_le limit
      next =>
        obtain ⟨read, hnested, hread⟩ := Option.bind_eq_some_iff.mp hread
        obtain ⟨⟨items, tail⟩, hitems, ⟨⟩⟩ := Option.bind_eq_some_iff.mp hread
        obtain ⟨inner, hinner, hyields⟩ := h read hnested
        have hdepth := itemsDepth_le (yields_readMany hyields _ hitems)
        exact Nat.lt_of_le_of_lt hdepth hinner
      next =>
        obtain ⟨read, hnested, hread⟩ := Option.bind_eq_some_iff.mp hread
        obtain ⟨⟨entries, tail⟩, hentries, ⟨⟩⟩ := Option.bind_eq_some_iff.mp hread
        obtain ⟨inner, hinner, hyields⟩ := h read hnested
        have hdepth := entriesDepth_le (yields_readMany (yields_readEntry hyields) _ hentries)
        exact Nat.lt_of_le_of_lt hdepth hinner
      next =>
        obtain ⟨read, hnested, hread⟩ := Option.bind_eq_some_iff.mp hread
        obtain ⟨⟨number, tail⟩, _, hread⟩ := Option.bind_eq_some_iff.mp hread
        obtain ⟨⟨content, tail⟩, hcontent, ⟨⟩⟩ := Option.bind_eq_some_iff.mp hread
        obtain ⟨inner, hinner, hyields⟩ := h read hnested
        exact Nat.lt_of_le_of_lt (hyields hcontent) hinner
      next => exact Nat.le_trans (Nat.le_of_eq (yields_readSimple _ hread)) (Nat.zero_le limit)

theorem yields_readItem (limit : Nat) : (readItem limit).Yields fun item => item.depth ≤ limit := by
  induction limit with
  | zero =>
      refine yields_readWith fun read hread => ?_
      cases hread
  | succ limit ih =>
      refine yields_readWith fun read hread => ⟨limit, Nat.lt_succ_self limit, ?_⟩
      cases hread
      exact ih

theorem depth_le_of_decode {bytes : List UInt8} {item : Item} (h : decode bytes = some item) :
    item.depth ≤ nestingLimit := by
  rw [decode] at h
  split at h
  next hread =>
    cases h
    exact yields_readItem nestingLimit hread
  next => cases h

/-! ## Members of records -/

namespace Item

theorem depth_untag_le (item : Item) : item.untag.depth ≤ item.depth := by
  fun_induction untag item with
  | case1 number content ih => exact Nat.le_succ_of_le ih
  | case2 => exact Nat.le_refl _

theorem mem_of_mem_collect? {names : List String} {entries : List (Item × Item)}
    {found members : List (String × Item)} (h : collect? names entries found = some members)
    {member : String × Item} (hmember : member ∈ members) :
    member ∈ found ∨ ∃ key, (key, member.2) ∈ entries := by
  fun_induction collect? names entries found with
  | case1 found =>
      cases h
      exact .inl hmember
  | case2 => cases h
  | case3 key value rest found _ ih =>
      exact (ih h).imp_right fun ⟨key, hkey⟩ => ⟨key, List.mem_cons_of_mem _ hkey⟩
  | case4 => cases h
  | case5 key value rest found name _ _ ih =>
      rcases ih h with hfound | ⟨key', hkey⟩
      · rcases List.mem_append.mp hfound with hfound | hlast
        · exact .inl hfound
        · rw [List.mem_singleton.mp hlast]
          exact .inr ⟨key, List.mem_cons_self⟩
      · exact .inr ⟨key', List.mem_cons_of_mem _ hkey⟩

/-- A member of a record is nested less deep than the record. -/
theorem depth_lt_of_mem_members? {names : List String} {item : Item}
    {members : List (String × Item)} (h : item.members? names = some members)
    {member : String × Item} (hmember : member ∈ members) : member.2.depth < item.depth := by
  refine Nat.lt_of_lt_of_le ?_ (depth_untag_le item)
  rw [members?] at h
  split at h
  next entries huntag =>
    rw [huntag]
    rcases mem_of_mem_collect? h hmember with hfound | ⟨key, hkey⟩
    · cases hfound
    · exact Nat.lt_succ_of_le (depth_le_entriesDepth hkey).2
  next items huntag =>
    rw [huntag]
    split at h
    next =>
      cases h
      exact Nat.lt_succ_of_le (depth_le_itemsDepth (List.of_mem_zip hmember).2)
    next => cases h
  next => cases h

end Item

theorem mem_of_required {α : Type} {members : List (String × Item)} {name : String}
    {read : Item → Option α} {value : α} (h : required members name read = some value) :
    ∃ item, (name, item) ∈ members ∧ read item = some value := by
  obtain ⟨item, hitem, hread⟩ := Option.bind_eq_some_iff.mp h
  obtain ⟨before, after, rfl, _⟩ := List.lookup_eq_some_iff.mp hitem
  exact ⟨item, by simp, hread⟩

end StakingGateway.Cbor
