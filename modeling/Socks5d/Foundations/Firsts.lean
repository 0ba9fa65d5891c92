import Mathlib.Tactic.Common

namespace Firsts

def firsts {Entry Key : Type} [DecidableEq Key] (key : Entry → Key) : List Entry → List Entry
  | [] => []
  | entry::rest => entry::(firsts key rest).filter fun other => decide (key other ≠ key entry)

variable {Entry Key : Type} [DecidableEq Key] {key : Entry → Key} {kept entries : List Entry} {n : Nat}

def keep (n : Nat) (key : Entry → Key) (kept : List Entry) (entry : Entry) : List Entry :=
  if kept.length = n then kept
  else if kept.any fun other => decide (key other = key entry) then kept
  else kept ++ [entry]

def fresh (key : Entry → Key) (kept : List Entry) (entry : Entry) : Bool :=
  !kept.any fun other => decide (key other = key entry)

theorem stale_any {entry : Entry} (stale : fresh key kept entry = false) :
    (kept.any fun other => decide (key other = key entry)) = true := by
  rw [fresh] at stale
  simpa using stale

theorem fresh_any {entry : Entry} (new : fresh key kept entry = true) :
    (kept.any fun other => decide (key other = key entry)) = false := by
  rw [fresh] at new
  simpa using new

theorem fresh_later (entry other : Entry) :
    fresh key (kept++[entry]) other = (decide (key other ≠ key entry) && fresh key kept other) := by
  rw [fresh,List.any_append,List.any_cons,List.any_nil,Bool.or_false,Bool.not_or,Bool.and_comm,decide_not,fresh]
  congr 2
  exact decide_eq_decide.mpr eq_comm

theorem fresh_seen {entry : Entry} (seen : fresh key kept entry = false) (other : Entry) :
    (fresh key kept other && decide (key other ≠ key entry)) = fresh key kept other := by
  cases new : fresh key kept other with
  | false => rfl
  | true =>
      obtain ⟨old,member,same⟩ := List.any_eq_true.mp (stale_any seen)
      have same : key old = key entry := of_decide_eq_true same
      rw [Bool.true_and]
      refine decide_eq_true fun clash => ?_
      have known : (kept.any fun other' => decide (key other' = key other)) = true :=
        List.any_eq_true.mpr ⟨old,member,decide_eq_true (same.trans clash.symm)⟩
      rw [fresh,known] at new
      cases new

theorem keep_fold (room : kept.length ≤ n) :
    entries.foldl (keep n key) kept = kept ++ ((firsts key entries).filter (fresh key kept)).take (n-kept.length) := by
  induction entries generalizing kept with
  | nil =>
      rw [firsts,List.filter_nil,List.take_nil,List.append_nil]
      rfl
  | cons entry rest ih =>
      rw [List.foldl_cons,firsts]
      by_cases full : kept.length = n
      · have step : keep n key kept entry = kept := if_pos full
        rw [step,ih room,full,Nat.sub_self,List.take_zero,List.take_zero]
      · cases new : fresh key kept entry with
        | false =>
            have step : keep n key kept entry = kept :=
              (if_neg full).trans (if_pos (stale_any new))
            rw [step,ih room,List.filter_cons_of_neg (by rw [new]; exact Bool.false_ne_true),List.filter_filter]
            congr 2
            exact List.filter_congr fun other _ => (fresh_seen new other).symm
        | true =>
            have step : keep n key kept entry = kept++[entry] :=
              (if_neg full).trans (if_neg (by rw [fresh_any new]; exact Bool.false_ne_true))
            have size : (kept++[entry]).length = kept.length + 1 := List.length_append
            have left_ : n - kept.length = (n - (kept.length+1)) + 1 := by omega
            rw [step,ih (by omega),size,List.filter_cons_of_pos new,List.filter_filter,left_,List.take_succ_cons,
              List.append_assoc,List.singleton_append]
            congr 3
            exact List.filter_congr fun other _ => (fresh_later entry other).trans (Bool.and_comm _ _)

theorem keep_start (n : Nat) (entries : List Entry) : entries.foldl (keep n key) [] = (firsts key entries).take n := by
  rw [keep_fold (Nat.zero_le n),List.nil_append,List.length_nil,Nat.sub_zero]
  congr 1
  exact List.filter_eq_self.mpr fun _ _ => rfl

theorem firsts_snoc (n : Nat) (entries : List Entry) (entry : Entry) :
    (firsts key (entries++[entry])).take n = keep n key ((firsts key entries).take n) entry := by
  rw [← keep_start,← keep_start,List.foldl_append]
  rfl

theorem firsts_some (some_ : (firsts key entries).take n ≠ []) : entries ≠ [] := by
  rintro rfl
  exact some_ List.take_nil

end Firsts
