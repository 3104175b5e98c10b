/-!
# Association lists in key order

An association list whose entries stand in the order of their keys, where `rank` sends a key
into a linear order.  Keys of equal rank are the same key: an insertion then keeps the entry's
place and key and takes the new value, so of several values for one key the last one stands.

The main statements are `arrange_ascending`, an arranged list is in strictly ascending order,
and `arrange_of_ascending`, a list in that order is left as it is.
-/

namespace StakingGateway.Assoc

variable {κ β ρ : Type} [LT ρ] [DecidableLT ρ]

/-- Every key stands before the keys that follow it. -/
def Ascending (rank : κ → ρ) (entries : List (κ × β)) : Prop :=
  entries.Pairwise fun a b => rank a.1 < rank b.1

/-- Puts a value under a key, replacing the value of a key of equal rank. -/
def insert (rank : κ → ρ) (key : κ) (value : β) : List (κ × β) → List (κ × β)
  | [] => [(key, value)]
  | (k, v) :: rest =>
    if rank key < rank k then
      (key, value) :: (k, v) :: rest
    else if rank k < rank key then
      (k, v) :: insert rank key value rest
    else
      (k, value) :: rest

/-- The entries in key order, the last value of each key kept. -/
def arrange (rank : κ → ρ) (entries : List (κ × β)) : List (κ × β) :=
  entries.foldl (fun arranged entry => insert rank entry.1 entry.2 arranged) []

def find? [DecidableEq κ] (key : κ) : List (κ × β) → Option β
  | [] => none
  | (k, v) :: rest => if k = key then some v else find? key rest

section Members

variable {rank : κ → ρ}

theorem mem_insert {key : κ} {value : β} {entries : List (κ × β)} {entry : κ × β}
    (h : entry ∈ insert rank key value entries) :
    (entry.1 = key ∨ ∃ v, (entry.1, v) ∈ entries) ∧
      (entry.2 = value ∨ ∃ k, (k, entry.2) ∈ entries) := by
  induction entries with
  | nil => simp_all [insert]
  | cons head rest ih =>
    obtain ⟨k, v⟩ := head
    simp only [insert] at h
    split at h
    · rcases List.mem_cons.mp h with rfl | h
      · exact ⟨.inl rfl, .inl rfl⟩
      · exact ⟨.inr ⟨entry.2, h⟩, .inr ⟨entry.1, h⟩⟩
    · split at h
      · rcases List.mem_cons.mp h with rfl | h
        · exact ⟨.inr ⟨v, by simp⟩, .inr ⟨k, by simp⟩⟩
        · obtain ⟨hk, hv⟩ := ih h
          exact ⟨hk.imp_right fun ⟨w, hw⟩ => ⟨w, List.mem_cons_of_mem _ hw⟩,
            hv.imp_right fun ⟨w, hw⟩ => ⟨w, List.mem_cons_of_mem _ hw⟩⟩
      · rcases List.mem_cons.mp h with rfl | h
        · exact ⟨.inr ⟨v, by simp⟩, .inl rfl⟩
        · exact ⟨.inr ⟨entry.2, List.mem_cons_of_mem _ h⟩,
            .inr ⟨entry.1, List.mem_cons_of_mem _ h⟩⟩

private theorem mem_foldl_insert {entries start : List (κ × β)} {entry : κ × β}
    (h : entry ∈ entries.foldl (fun arranged e => insert rank e.1 e.2 arranged) start) :
    (∃ v, (entry.1, v) ∈ start ++ entries) ∧ (∃ k, (k, entry.2) ∈ start ++ entries) := by
  induction entries generalizing start with
  | nil => exact ⟨⟨entry.2, by simpa using h⟩, ⟨entry.1, by simpa using h⟩⟩
  | cons head rest ih =>
    obtain ⟨⟨v, hv⟩, ⟨k, hk⟩⟩ := ih (by simpa using h)
    constructor
    · rcases List.mem_append.mp hv with hv | hv
      · rcases (mem_insert hv).1 with heq | ⟨w, hw⟩
        · exact ⟨head.2, by simp only at heq; simp [heq]⟩
        · exact ⟨w, by simp only at hw; simp [hw]⟩
      · exact ⟨v, by simp [hv]⟩
    · rcases List.mem_append.mp hk with hk | hk
      · rcases (mem_insert hk).2 with heq | ⟨w, hw⟩
        · exact ⟨head.1, by simp only at heq; simp [heq]⟩
        · exact ⟨w, by simp only at hw; simp [hw]⟩
      · exact ⟨k, by simp [hk]⟩

theorem key_mem_of_mem_arrange {entries : List (κ × β)} {entry : κ × β}
    (h : entry ∈ arrange rank entries) : ∃ v, (entry.1, v) ∈ entries := by
  have hmem : ∃ v, (entry.1, v) ∈ [] ++ entries := (mem_foldl_insert h).1
  simpa using hmem

theorem value_mem_of_mem_arrange {entries : List (κ × β)} {entry : κ × β}
    (h : entry ∈ arrange rank entries) : ∃ k, (k, entry.2) ∈ entries := by
  have hmem : ∃ k, (k, entry.2) ∈ [] ++ entries := (mem_foldl_insert h).2
  simpa using hmem

private theorem rank_lt_of_mem_insert {key k : κ} {value : β} {entries : List (κ × β)}
    (hk : rank k < rank key) (h : ∀ e ∈ entries, rank k < rank e.1) {e : κ × β}
    (he : e ∈ insert rank key value entries) : rank k < rank e.1 := by
  rcases (mem_insert he).1 with heq | ⟨v, hv⟩
  · rw [heq]; exact hk
  · exact h (e.1, v) hv

end Members

section Order

variable [LE ρ] [Std.IsLinearOrder ρ] [Std.LawfulOrderLT ρ] {rank : κ → ρ}

theorem ascending_insert {key : κ} {value : β} {entries : List (κ × β)}
    (h : Ascending rank entries) : Ascending rank (insert rank key value entries) := by
  induction entries with
  | nil => simp [insert, Ascending]
  | cons head rest ih =>
    obtain ⟨k, v⟩ := head
    obtain ⟨hhead, hrest⟩ := List.pairwise_cons.mp h
    simp only [insert]
    split
    next hlt =>
      refine List.pairwise_cons.mpr ⟨fun e he => ?_, h⟩
      rcases List.mem_cons.mp he with rfl | he
      · exact hlt
      · exact Std.lt_trans hlt (hhead _ he)
    next hge =>
      split
      next hlt =>
        exact List.pairwise_cons.mpr
          ⟨fun e he => rank_lt_of_mem_insert hlt hhead he, ih hrest⟩
      next => exact List.pairwise_cons.mpr ⟨hhead, hrest⟩

/-- An arranged list stands in key order, each key once. -/
theorem arrange_ascending (entries : List (κ × β)) :
    Ascending rank (arrange rank entries) := by
  have general : ∀ (entries start : List (κ × β)), Ascending rank start →
      Ascending rank
        (entries.foldl (fun arranged e => insert rank e.1 e.2 arranged) start) := by
    intro entries
    induction entries with
    | nil => intro start h; exact h
    | cons head rest ih => intro start h; exact ih _ (ascending_insert h)
  exact general entries [] List.Pairwise.nil

theorem insert_of_above {key : κ} {value : β} {entries : List (κ × β)}
    (h : ∀ e ∈ entries, rank e.1 < rank key) :
    insert rank key value entries = entries ++ [(key, value)] := by
  induction entries with
  | nil => rfl
  | cons head rest ih =>
    obtain ⟨k, v⟩ := head
    have hlt : rank k < rank key := h (k, v) (by simp)
    have hnot : ¬ rank key < rank k := fun hgt => Std.lt_irrefl (Std.lt_trans hlt hgt)
    simp only [insert, if_neg hnot, if_pos hlt, List.cons_append]
    rw [ih fun e he => h e (List.mem_cons_of_mem _ he)]

theorem arrange_of_ascending {entries : List (κ × β)} (h : Ascending rank entries) :
    arrange rank entries = entries := by
  have general : ∀ (entries start : List (κ × β)), Ascending rank (start ++ entries) →
      entries.foldl (fun arranged e => insert rank e.1 e.2 arranged) start
        = start ++ entries := by
    intro entries
    induction entries with
    | nil => intro start _; simp
    | cons head rest ih =>
      intro start h
      have habove : ∀ e ∈ start, rank e.1 < rank head.1 := by
        intro e he
        exact (List.pairwise_append.mp h).2.2 e he head (by simp)
      rw [List.foldl_cons, insert_of_above habove, ih]
      · simp
      · simpa using h
  exact general entries [] h

theorem arrange_arrange (entries : List (κ × β)) :
    arrange rank (arrange rank entries) = arrange rank entries :=
  arrange_of_ascending (arrange_ascending entries)

end Order

end StakingGateway.Assoc
