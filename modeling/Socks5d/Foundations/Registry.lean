import Mathlib.Data.List.Perm.Subperm
import Mathlib.Data.List.Nodup
import Mathlib.Tactic.Common

namespace Registry

variable {κ : Type} {entries living : List (Nat × κ)} {lost id : Nat} {key : κ}

-- A book of objects and of the keys they go by. Keys are used again, the numbers of the
-- objects are not. `living` are those that live, no two of them under one key, and `lost`
-- counts those that went without being struck from the book.
structure Kept (entries living : List (Nat × κ)) (lost : Nat) : Prop where
  numbers : (living.map Prod.fst).Nodup
  keys : (living.map Prod.snd).Nodup
  count : entries.length = living.length + lost
  covered : ∀ key ∈ living.map Prod.snd, key ∈ entries.map Prod.snd
  exact : lost = 0 → entries.Perm living

theorem kept_start : Kept ([] : List (Nat × κ)) [] 0 :=
  ⟨List.nodup_nil,List.nodup_nil,rfl,fun _ member => member,fun _ => .nil⟩

theorem kept_enrol (kept : Kept entries living lost) (number : id ∉ living.map Prod.fst)
    (free : key ∉ living.map Prod.snd) : Kept (entries ++ [(id,key)]) (living ++ [(id,key)]) lost := by
  refine ⟨?_,?_,?_,?_,?_⟩
  · rw [List.map_append]
    exact kept.numbers.append (List.nodup_singleton id) (by simpa using number)
  · rw [List.map_append]
    exact kept.keys.append (List.nodup_singleton key) (by simpa using free)
  · have count := kept.count
    simp only [List.length_append,List.length_singleton]
    omega
  · intro other member
    rw [List.map_append,List.mem_append] at member ⊢
    rcases member with old | new
    · exact .inl (kept.covered other old)
    · exact .inr new
  · intro none_
    exact (kept.exact none_).append_right _

theorem kept_exact (kept : Kept entries living lost) :
    ((entries.map Prod.fst).Nodup ∧ ∀ id, id ∈ entries.map Prod.fst ↔ id ∈ living.map Prod.fst) ↔ lost = 0 := by
  constructor
  · rintro ⟨once,same⟩
    have perm : (entries.map Prod.fst).Perm (living.map Prod.fst) :=
      (List.perm_ext_iff_of_nodup once kept.numbers).mpr same
    have lengths := perm.length_eq
    rw [List.length_map,List.length_map] at lengths
    have count := kept.count
    omega
  · intro none_
    have perm := (kept.exact none_).map Prod.fst
    exact ⟨perm.nodup_iff.mpr kept.numbers,fun id => perm.mem_iff⟩

theorem nodup_bounded {bound : Nat} {keys : List Int} (distinct : keys.Nodup)
    (inside : ∀ key ∈ keys, 0 ≤ key ∧ key < bound) : keys.length ≤ bound := by
  have numbers : (keys.map Int.toNat).Nodup := by
    refine List.Nodup.map_on ?_ distinct
    intro one first two second same
    have low := (inside one first).1
    have high := (inside two second).1
    omega
  have within : keys.map Int.toNat ⊆ List.range bound := by
    intro number member
    obtain ⟨key,present,rfl⟩ := List.mem_map.mp member
    have range := inside key present
    exact List.mem_range.mpr (by omega)
  have fewer := (numbers.subperm within).length_le
  rwa [List.length_map,List.length_range] at fewer

variable [DecidableEq κ]

def strike (key : κ) (entries : List (Nat × κ)) : List (Nat × κ) := entries.eraseP fun entry => decide (entry.2 = key)

theorem mem_keys : key ∈ entries.map Prod.snd ↔ ∃ entry ∈ entries, decide (entry.2 = key) = true := by
  simp only [List.mem_map,decide_eq_true_eq]

theorem strike_length (present : key ∈ entries.map Prod.snd) : (strike key entries).length + 1 = entries.length := by
  obtain ⟨entry,member,same⟩ := mem_keys.mp present
  have shorter := List.length_eraseP_of_mem (p := fun entry => decide (entry.2 = key)) member same
  have some_ := List.length_pos_of_mem member
  unfold strike
  omega

theorem strike_sublist (key : κ) (entries : List (Nat × κ)) : (strike key entries).Sublist entries :=
  List.eraseP_sublist

theorem mem_strike (distinct : (living.map Prod.snd).Nodup) (entry : Nat × κ) :
    entry ∈ strike key living ↔ entry ∈ living ∧ entry.2 ≠ key := by
  induction living with
  | nil => simp [strike]
  | cons first rest ih =>
      obtain ⟨apart,distinct⟩ := List.nodup_cons.mp distinct
      by_cases same : first.2 = key
      · have struck : strike key (first::rest) = rest := List.eraseP_cons_of_pos (by simpa using same)
        rw [struck,List.mem_cons]
        constructor
        · intro member
          refine ⟨.inr member,?_⟩
          intro other
          exact apart (List.mem_map.mpr ⟨entry,member,other.trans same.symm⟩)
        · rintro ⟨rfl | member,other⟩
          · exact absurd same other
          · exact member
      · have kept : strike key (first::rest) = first::strike key rest := List.eraseP_cons_of_neg (by simpa using same)
        rw [kept,List.mem_cons,List.mem_cons,ih distinct]
        constructor
        · rintro (rfl | ⟨member,other⟩)
          · exact ⟨.inl rfl,same⟩
          · exact ⟨.inr member,other⟩
        · rintro ⟨rfl | member,other⟩
          · exact .inl rfl
          · exact .inr ⟨member,other⟩

theorem strike_others {other : κ} (apart : other ≠ key) (present : other ∈ entries.map Prod.snd) :
    other ∈ (strike key entries).map Prod.snd := by
  obtain ⟨entry,member,rfl⟩ := List.mem_map.mp present
  exact List.mem_map_of_mem ((List.mem_eraseP_of_neg (by simpa using apart)).mpr member)

theorem kept_retire (kept : Kept entries living lost) (present : key ∈ living.map Prod.snd) :
    Kept (strike key entries) (strike key living) lost := by
  have shorter := strike_length present
  have struck := strike_length (kept.covered key present)
  refine ⟨kept.numbers.sublist ((strike_sublist key living).map _),kept.keys.sublist ((strike_sublist key living).map _),
    ?_,?_,?_⟩
  · have count := kept.count
    omega
  · intro other member
    obtain ⟨entry,inside,rfl⟩ := List.mem_map.mp member
    obtain ⟨old,apart⟩ := (mem_strike kept.keys entry).mp inside
    exact strike_others apart (kept.covered _ (List.mem_map_of_mem old))
  · intro none_
    have perm := kept.exact none_
    refine (List.Perm.eraseP _ ?_ perm.symm).symm
    have distinct := List.pairwise_map.mp kept.keys
    refine distinct.imp ?_
    intro one two apart first second
    exact apart ((of_decide_eq_true first).trans (of_decide_eq_true second).symm)

theorem kept_lose (kept : Kept entries living lost) (present : key ∈ living.map Prod.snd) :
    Kept entries (strike key living) (lost+1) := by
  have shorter := strike_length present
  refine ⟨kept.numbers.sublist ((strike_sublist key living).map _),kept.keys.sublist ((strike_sublist key living).map _),
    ?_,?_,by simp⟩
  · have count := kept.count
    omega
  · intro other member
    obtain ⟨entry,inside,rfl⟩ := List.mem_map.mp member
    exact kept.covered _ (List.mem_map_of_mem ((mem_strike kept.keys entry).mp inside).1)

end Registry
