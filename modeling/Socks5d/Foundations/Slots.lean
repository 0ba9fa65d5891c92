import Mathlib.Data.Finmap
import Mathlib.Tactic.Common

namespace Slots

variable {κ α β : Type} {key : β → κ} {value : β → α} {slots front rest : List β} {slot other : β}

theorem nodupKeys_slots (distinct : (slots.map key).Nodup) :
    (slots.map fun slot => (⟨key slot,value slot⟩ : Sigma fun _ : κ => α)).NodupKeys := by
  rw [List.NodupKeys,List.keys,List.map_map]
  exact distinct

theorem apart (distinct : ((front ++ slot::rest).map key).Nodup) :
    key slot ∉ (front ++ rest).map key ∧ ((front ++ rest).map key).Nodup := by
  rw [List.map_append,List.map_cons,List.nodup_middle,List.nodup_cons,← List.map_append] at distinct
  exact distinct

variable [DecidableEq κ]

def contents (key : β → κ) (value : β → α) (slots : List β) : Finmap (fun _ : κ => α) :=
  (slots.map fun slot => (⟨key slot,value slot⟩ : Sigma fun _ : κ => α)).toFinmap

-- A slot is given up by moving the last one into its place.
def fillHole (slots : List β) (pos : Nat) : List β :=
  match slots.getLast? with
  | some last => (slots.set pos last).dropLast
  | none => []

theorem fillHole_perm : (fillHole (front ++ slot::rest) front.length).Perm (front ++ rest) := by
  unfold fillHole
  rcases List.eq_nil_or_concat rest with rfl | ⟨middle,last,rfl⟩
  · simp
  · have ends : (front ++ slot::(middle ++ [last])).getLast? = some last := by
      rw [← List.cons_append,← List.append_assoc]
      exact List.getLast?_concat
    have filled : (front ++ slot::(middle ++ [last])).set front.length last = (front ++ last::middle) ++ [last] := by
      simp
    rw [List.concat_eq_append,ends]
    dsimp only
    rw [filled,List.dropLast_concat]
    exact List.Perm.append_left front (List.perm_append_singleton last middle).symm

theorem modify_middle (change : β → β) :
    (front ++ slot::rest).modify front.length change = front ++ change slot::rest := by
  induction front with
  | nil => rfl
  | cons first front ih =>
      rw [List.cons_append,List.length_cons,List.modify_succ_cons,ih]
      rfl

theorem contents_cons : contents key value (slot::slots) = (contents key value slots).insert (key slot) (value slot) :=
  Finmap.toFinmap_cons _ _ _

theorem mem_contents {k : κ} : k ∈ contents key value slots ↔ k ∈ slots.map key := by
  rw [contents,Finmap.mem_list_toFinmap]
  simp

theorem contents_perm (distinct : (slots.map key).Nodup) (same : slots.Perm rest) :
    contents key value slots = contents key value rest := by
  refine Finmap.ext_lookup fun k => ?_
  rw [contents,contents,Finmap.dlookup_list_toFinmap,Finmap.dlookup_list_toFinmap]
  exact List.perm_dlookup k (nodupKeys_slots distinct) (same.map _)

theorem lookup_contents (distinct : (slots.map key).Nodup) {k : κ} {v : α} :
    (contents key value slots).lookup k = some v ↔ ∃ slot ∈ slots, key slot = k ∧ value slot = v := by
  rw [contents,Finmap.dlookup_list_toFinmap,← Option.mem_def,List.mem_dlookup_iff (nodupKeys_slots distinct),List.mem_map]
  constructor
  · rintro ⟨slot,member,same⟩
    cases same
    exact ⟨slot,member,rfl,rfl⟩
  · rintro ⟨slot,member,rfl,rfl⟩
    exact ⟨slot,member,rfl⟩

theorem card_contents (distinct : (slots.map key).Nodup) : (contents key value slots).keys.card = slots.length := by
  have keys : (contents key value slots).keys = (slots.map key).toFinset := by
    ext k
    rw [Finmap.mem_keys,mem_contents,List.mem_toFinset]
  rw [keys,List.toFinset_card_of_nodup distinct,List.length_map]

theorem contents_middle (distinct : ((front ++ slot::rest).map key).Nodup) :
    contents key value (front ++ slot::rest) =
      (contents key value (front ++ rest)).insert (key slot) (value slot) := by
  rw [contents_perm distinct List.perm_middle,contents_cons]

theorem contents_erase (distinct : ((front ++ slot::rest).map key).Nodup) :
    contents key value (front ++ rest) = (contents key value (front ++ slot::rest)).erase (key slot) := by
  have absent : key slot ∉ contents key value (front ++ rest) := fun member => (apart distinct).1 (mem_contents.mp member)
  rw [contents_middle distinct]
  refine Finmap.ext_lookup fun k => ?_
  by_cases same : k = key slot
  · rw [same,Finmap.lookup_erase,Finmap.lookup_eq_none.mpr absent]
  · rw [Finmap.lookup_erase_ne same,Finmap.lookup_insert_of_ne _ same]

theorem contents_put (distinct : ((front ++ slot::rest).map key).Nodup) (same : key other = key slot) :
    contents key value (front ++ other::rest) =
      (contents key value (front ++ slot::rest)).insert (key slot) (value other) := by
  have again : ((front ++ other::rest).map key).Nodup := by
    rw [List.map_append,List.map_cons,same]
    simpa using distinct
  rw [contents_middle distinct,contents_middle again,same,Finmap.insert_insert]

theorem contents_filled (distinct : ((front ++ slot::rest).map key).Nodup) :
    contents key value (fillHole (front ++ slot::rest) front.length) =
      (contents key value (front ++ slot::rest)).erase (key slot) := by
  rw [← contents_erase distinct]
  refine (contents_perm (apart distinct).2 fillHole_perm.symm).symm

theorem found_parts {test : β → Bool} {pos : Nat} (found : slots.findIdx? test = some pos) :
    ∃ front slot rest, slots = front ++ slot::rest ∧ front.length = pos ∧ test slot = true := by
  obtain ⟨inside,holds,_⟩ := List.findIdx?_eq_some_iff_getElem.mp found
  refine ⟨slots.take pos,slots[pos],slots.drop (pos+1),?_,List.length_take_of_le (Nat.le_of_lt inside),holds⟩
  rw [← List.drop_eq_getElem_cons inside,List.take_append_drop]

end Slots
