import StakingGateway.Json.Value
import StakingGateway.Proofs.Assoc

/-!
# Objects in normal form

An object whose members have different names loses none of them in its normal form, which lists
them in another order (`arrange_normalMembers_perm`).  So each of them is found by its name
(`Object.find?_ofMembers`).
-/

namespace StakingGateway.Json

variable {members : List (String × Json)}

theorem normalMembers_eq_map (members : List (String × Json)) :
    normalMembers members = members.map fun (name, value) => (name, value.normal) := by
  induction members with
  | nil => rfl
  | cons head rest ih => rw [normalMembers, ih, List.map_cons]

theorem normalItems_eq_map (items : List Json) : normalItems items = items.map normal := by
  induction items with
  | nil => rfl
  | cons head rest ih => rw [normalItems, ih, List.map_cons]

theorem names_normalMembers (members : List (String × Json)) :
    (normalMembers members).map (·.1) = members.map (·.1) := by
  rw [normalMembers_eq_map, List.map_map]
  rfl

/-- Different names keep their members apart: the normal form lists all of them. -/
theorem arrange_normalMembers_perm (h : (members.map (·.1)).Nodup) :
    (Assoc.arrange Utf8.encode (normalMembers members)).Perm
      (members.map fun (name, value) => (name, value.normal)) := by
  rw [← normalMembers_eq_map]
  apply Assoc.arrange_perm
  have hencode : Function.Injective Utf8.encode := fun _ _ => Utf8.encode_inj.mp
  rw [← names_normalMembers] at h
  simpa [Function.comp_def] using h.map hencode

theorem find?_normalMembers (members : List (String × Json)) (name : String) :
    Assoc.find? name (normalMembers members) = (Assoc.find? name members).map normal := by
  induction members with
  | nil => rfl
  | cons head rest ih =>
      obtain ⟨found, value⟩ := head
      rw [normalMembers, Assoc.find?, Assoc.find?, ih]
      split <;> rfl

theorem find?_arrange_normalMembers (h : (members.map (·.1)).Nodup) (name : String) :
    Assoc.find? name (Assoc.arrange Utf8.encode (normalMembers members))
      = (Assoc.find? name members).map normal := by
  have hperm := arrange_normalMembers_perm h
  rw [← normalMembers_eq_map] at hperm
  rw [Assoc.find?_eq_of_perm (by rwa [names_normalMembers]) hperm, find?_normalMembers]

theorem Object.find?_ofMembers (h : (members.map (·.1)).Nodup) {name : String} {value : Json}
    (hmem : (name, value) ∈ members) : (ofMembers members).find? name = some value.normal := by
  change Assoc.find? name (Assoc.arrange Utf8.encode (normalMembers members)) = _
  rw [find?_arrange_normalMembers h, (Assoc.find?_eq_some_iff h).mpr hmem, Option.map_some]

end StakingGateway.Json
