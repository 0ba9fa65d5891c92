import Mathlib.Order.Bounds.Basic
import Mathlib.Order.BoundedOrder.Basic

namespace Peaks

variable {α β : Type} [LinearOrder α] [OrderBot α] {used later : α → Prop} {top new : α}

def Peak (used : α → Prop) (top : α) : Prop := IsGreatest {a | used a} top ∨ (∀ a, ¬ used a) ∧ top = ⊥

theorem peak_bound (peak : Peak used top) {a : α} (member : used a) : a ≤ top := by
  rcases peak with ⟨_,upper⟩ | ⟨none_,_⟩
  · exact upper member
  · exact absurd member (none_ a)

theorem peak_same (peak : Peak used top) (same : ∀ a, later a ↔ used a) : Peak later top := by
  have equal : later = used := funext fun a => propext (same a)
  rw [equal]
  exact peak

theorem peak_taken (peak : Peak used top) (grown : ∀ a, later a ↔ a = new ∨ used a) : Peak later (max top new) := by
  refine .inl ⟨?_,?_⟩
  · rcases le_total top new with above | below
    · rw [max_eq_right above]
      exact (grown new).mpr (.inl rfl)
    · rw [max_eq_left below]
      rcases peak with ⟨member,_⟩ | ⟨_,rfl⟩
      · exact (grown top).mpr (.inr member)
      · exact (grown ⊥).mpr (.inl (le_bot_iff.mp below).symm)
  · intro a member
    rcases (grown a).mp member with rfl | old
    · exact le_max_right _ _
    · exact (peak_bound peak old).trans (le_max_left _ _)

def scanTop (counts : β → Bool) (number : β → α) (items : List β) : α :=
  items.foldl (fun top item => if counts item then max top (number item) else top) ⊥

theorem scan_peak (counts : β → Bool) (number : β → α) (items : List β) :
    Peak (fun a => ∃ item ∈ items, counts item = true ∧ number item = a) (scanTop counts number items) := by
  have walk : ∀ (items earlier : List β) (top : α),
      Peak (fun a => ∃ item ∈ earlier, counts item = true ∧ number item = a) top →
      Peak (fun a => ∃ item ∈ earlier ++ items, counts item = true ∧ number item = a)
        (items.foldl (fun top item => if counts item then max top (number item) else top) top) := by
    intro items
    induction items with
    | nil =>
        intro earlier top peak
        simpa using peak
    | cons item rest ih =>
        intro earlier top peak
        rw [List.foldl_cons,List.append_cons]
        refine ih (earlier ++ [item]) _ ?_
        split
        · rename_i counted
          refine peak_taken peak fun a => ?_
          constructor
          · rintro ⟨one,member,good,same⟩
            rcases List.mem_append.mp member with old | last
            · exact .inr ⟨one,old,good,same⟩
            · rw [List.mem_singleton.mp last] at same
              exact .inl same.symm
          · rintro (same | ⟨one,old,good,same⟩)
            · exact ⟨item,by simp,counted,same.symm⟩
            · exact ⟨one,List.mem_append_left _ old,good,same⟩
        · rename_i skipped
          refine peak_same peak fun a => ?_
          constructor
          · rintro ⟨one,member,good,same⟩
            rcases List.mem_append.mp member with old | last
            · exact ⟨one,old,good,same⟩
            · rw [List.mem_singleton.mp last] at good
              exact absurd good skipped
          · rintro ⟨one,old,good,same⟩
            exact ⟨one,List.mem_append_left _ old,good,same⟩
  exact walk items [] ⊥ (.inr ⟨by simp,rfl⟩)

end Peaks
