import Mathlib.Algebra.BigOperators.Ring.Finset

namespace Shares
open Finset

def share (party : Nat) (log : List (Nat × ε)) : List ε :=
  (log.filter fun entry => decide (entry.1 = party)).map Prod.snd

variable {ε : Type} {log : List (Nat × ε)} {bound : Nat}

theorem share_cons (party : Nat) (entry : Nat × ε) (rest : List (Nat × ε)) :
    share party (entry::rest) = if entry.1 = party then entry.2::share party rest else share party rest := by
  unfold share
  split
  · rename_i same
    rw [List.filter_cons_of_pos (by simpa using same)]
    rfl
  · rename_i differs
    rw [List.filter_cons_of_neg (by simpa using differs)]

theorem shares_total {count : List ε → Int} (empty : count [] = 0)
    (adds : ∀ event rest, count (event::rest) = count [event] + count rest) (within : ∀ entry ∈ log, entry.1 < bound) :
    count (log.map Prod.snd) = ∑ party ∈ range bound, count (share party log) := by
  induction log with
  | nil => exact empty.trans (sum_eq_zero fun _ _ => empty).symm
  | cons entry rest ih =>
      have tail := ih fun other member => within other (List.mem_cons_of_mem entry member)
      have parts : ∀ party, count (share party (entry::rest)) =
          (if entry.1 = party then count [entry.2] else 0) + count (share party rest) := by
        intro party
        rw [share_cons]
        split
        · exact adds _ _
        · rw [Int.zero_add]
      have own : ∑ party ∈ range bound, (if entry.1 = party then count [entry.2] else 0) = count [entry.2] := by
        rw [sum_ite_eq,if_pos (mem_range.mpr (within entry List.mem_cons_self))]
      calc count ((entry::rest).map Prod.snd)
          = count [entry.2] + count (rest.map Prod.snd) := adds _ _
        _ = ∑ party ∈ range bound, count (share party (entry::rest)) := by
            rw [sum_congr rfl fun party _ => parts party,sum_add_distrib,own,tail]

end Shares
