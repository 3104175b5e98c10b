import Mathlib
import StakingGateway.Proofs.Json.Object

/-!
# Trees in another order

The order of the members of an object carries no meaning, and whoever passes a tree on may list them
in another one.  `Rearranges` says that a tree is the same value as another: it names no member
twice in one object (`Distinct`), and both have one normal form.

A rearrangement is taken apart along the value: a leaf is as it was, an array has rearranged items
in their order, and an object has a rearranged value under each name (`Rearranges.object`).
-/

namespace StakingGateway.Assoc

variable {κ β : Type} [DecidableEq κ]

theorem lookup_eq_find? (key : κ) (entries : List (κ × β)) :
    entries.lookup key = find? key entries := by
  induction entries with
  | nil => rfl
  | cons entry rest ih =>
      obtain ⟨k, value⟩ := entry
      by_cases h : k = key
      · simp [find?, h]
      · have hne : (key == k) = false := beq_false_of_ne (Ne.symm h)
        simp [List.lookup, find?, h, hne, ih]

theorem find?_eq_none_iff {entries : List (κ × β)} {key : κ} :
    find? key entries = none ↔ key ∉ entries.map (·.1) := by
  simp only [← lookup_eq_find?, List.lookup_eq_none_iff, bne_iff_ne, List.mem_map, not_exists,
    not_and]
  exact forall₂_congr fun _ _ => ne_comm

end StakingGateway.Assoc

namespace StakingGateway.Json

/-! ## Names that stand once -/

/-- No object in a tree names a member twice. -/
inductive Distinct : Json → Prop
  | null : Distinct .null
  | bool (value : Bool) : Distinct (.bool value)
  | number (value : Number) : Distinct (.number value)
  | string (value : String) : Distinct (.string value)
  | array {items : List Json} (items_distinct : ∀ item ∈ items, Distinct item) :
      Distinct (.array items)
  | object {members : List (String × Json)} (names_nodup : (members.map (·.1)).Nodup)
      (values_distinct : ∀ member ∈ members, Distinct member.2) : Distinct (.object members)

theorem nodup_names_arrange (members : List (String × Json)) :
    ((Assoc.arrange Utf8.encode members).map (·.1)).Nodup := by
  have hranks : ((Assoc.arrange Utf8.encode members).map fun e => Utf8.encode e.1).Nodup :=
    Assoc.nodup_of_ascending (Assoc.arrange_ascending members)
  rw [← Function.comp_def Utf8.encode, ← List.map_map] at hranks
  exact hranks.of_map

mutual

theorem distinct_normal : ∀ value : Json, value.normal.Distinct
  | .null => .null
  | .bool value => .bool value
  | .number value => .number value
  | .string value => .string value
  | .array items => .array (distinct_of_mem_normalItems items)
  | .object members => by
      refine .object (nodup_names_arrange _) fun member hmember => ?_
      obtain ⟨name, hname⟩ := Assoc.value_mem_of_mem_arrange hmember
      exact distinct_of_mem_normalMembers members (name, member.2) hname

theorem distinct_of_mem_normalItems :
    ∀ (items : List Json), ∀ item ∈ normalItems items, item.Distinct
  | [], _, h => by cases h
  | item :: items, _, h => by
      rcases List.mem_cons.mp h with rfl | h
      · exact distinct_normal item
      · exact distinct_of_mem_normalItems items _ h

theorem distinct_of_mem_normalMembers :
    ∀ (members : List (String × Json)), ∀ member ∈ normalMembers members, member.2.Distinct
  | [], _, h => by cases h
  | (_, value) :: members, _, h => by
      rcases List.mem_cons.mp h with rfl | h
      · exact distinct_normal value
      · exact distinct_of_mem_normalMembers members _ h

end

/-! ## Rearrangements -/

/-- A tree is another one with the members of its objects in any order. -/
structure Rearranges (tree value : Json) : Prop where
  distinct : tree.Distinct
  normal_eq : tree.normal = value.normal

theorem Distinct.rearranges {value : Json} (h : value.Distinct) : value.Rearranges value :=
  ⟨h, rfl⟩

namespace Rearranges

variable {tree value : Json}

theorem eq_bool {value : Bool} (h : tree.Rearranges (.bool value)) : tree = .bool value := by
  have heq := h.normal_eq
  cases tree <;> simp_all [normal]

theorem eq_number {value : Number} (h : tree.Rearranges (.number value)) :
    tree = .number value := by
  have heq := h.normal_eq
  cases tree <;> simp_all [normal]

theorem eq_string {value : String} (h : tree.Rearranges (.string value)) :
    tree = .string value := by
  have heq := h.normal_eq
  cases tree <;> simp_all [normal]

theorem array {values : List Json} (h : tree.Rearranges (.array values)) :
    ∃ items, tree = .array items ∧ List.Forall₂ Rearranges items values := by
  obtain ⟨hdistinct, heq⟩ := h
  cases hdistinct with
  | null | bool | number | string | object => simp [normal] at heq
  | @array items hitems =>
      refine ⟨items, rfl, ?_⟩
      simp only [normal, normalItems_eq_map, Json.array.injEq] at heq
      have hsame : List.Forall₂ Eq (items.map normal) (values.map normal) :=
        List.forall₂_eq_eq_eq ▸ heq
      rw [List.forall₂_map_left_iff, List.forall₂_map_right_iff] at hsame
      exact ((List.forall₂_and_left _ _).mpr ⟨hitems, hsame⟩).imp fun _ _ h => ⟨h.1, h.2⟩

/-- Each member is found under its name, with a rearranged value, and no other is. -/
theorem object {members : List (String × Json)} (h : tree.Rearranges (.object members))
    (hnodup : (members.map (·.1)).Nodup) :
    ∃ others, tree = .object others ∧ (others.map (·.1)).Nodup ∧
      (∀ {name value}, Assoc.find? name members = some value →
        ∃ item, Assoc.find? name others = some item ∧ item.Rearranges value) ∧
      ∀ {name}, Assoc.find? name members = none → Assoc.find? name others = none := by
  obtain ⟨hdistinct, heq⟩ := h
  cases hdistinct with
  | null | bool | number | string | array => simp [normal] at heq
  | @object others hothers hvalues =>
      have hfind : ∀ name, (Assoc.find? name others).map normal
          = (Assoc.find? name members).map normal := by
        intro name
        simp only [normal, Json.object.injEq] at heq
        rw [← find?_arrange_normalMembers hothers, ← find?_arrange_normalMembers hnodup, heq]
      refine ⟨others, rfl, hothers, fun {name value} hfound => ?_, fun {name} habsent => ?_⟩
      · have hsame := hfind name
        rw [hfound, Option.map_some, Option.map_eq_some_iff] at hsame
        obtain ⟨item, hitem, hnormal⟩ := hsame
        exact ⟨item, hitem, hvalues _ ((Assoc.find?_eq_some_iff hothers).mp hitem), hnormal⟩
      · have hsame := hfind name
        rwa [habsent, Option.map_none, Option.map_eq_none_iff] at hsame

end Rearranges

end StakingGateway.Json
