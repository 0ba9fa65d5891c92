import Socks5d.Foundations.Scan
import Mathlib.Data.List.Induction

namespace Watch
open Scan

-- A machine together with a list of what its steps have touched.
def watched (advance : σ → β → σ) (touches : σ → β → List ι) (watch : σ × List ι) (item : β) : σ × List ι :=
  (advance watch.1 item,watch.2 ++ touches watch.1 item)

variable {σ β ι : Type} {advance : σ → β → σ} {touches : σ → β → List ι} {halted : σ → Bool} {watch : σ × List ι}
  {items : List β} {chunks : List (List β)}

structure Quiet (advance : σ → β → σ) (touches : σ → β → List ι) (halted : σ → Bool) : Prop where
  touches : ∀ state item, halted state = true → touches state item = []
  stays : ∀ state item, halted state = true → halted (advance state item) = true

theorem quiet_over {failed finished : σ → Bool}
    (failing : ∀ state item, failed state = true →
      (failed (advance state item) || finished (advance state item)) = true ∧ touches state item = [])
    (ending : ∀ state item, finished state = true →
      (failed (advance state item) || finished (advance state item)) = true ∧ touches state item = []) :
    Quiet advance touches fun state => failed state || finished state := by
  have both : ∀ state item, (failed state || finished state) = true →
      (failed (advance state item) || finished (advance state item)) = true ∧ touches state item = [] := by
    intro state item stopped
    rcases Bool.or_eq_true_iff.mp stopped with failed_ | finished_
    · exact failing state item failed_
    · exact ending state item finished_
  exact ⟨fun state item stopped => (both state item stopped).2,fun state item stopped => (both state item stopped).1⟩

theorem quiet_fold (quiet : Quiet advance touches halted) (stopped : halted watch.1 = true) :
    halted (items.foldl (watched advance touches) watch).1 = true ∧
    (items.foldl (watched advance touches) watch).2 = watch.2 := by
  induction items generalizing watch with
  | nil => exact ⟨stopped,rfl⟩
  | cons item rest ih =>
      have still : (watched advance touches watch item).2 = watch.2 := by
        rw [watched,quiet.touches _ _ stopped,List.append_nil]
      obtain ⟨stays,same⟩ := @ih (watched advance touches watch item) (quiet.stays _ _ stopped)
      exact ⟨stays,same.trans still⟩

theorem watched_scan (quiet : Quiet advance touches halted) :
    let scanned := scan (watched advance touches) (fun watch => halted watch.1) watch items
    let folded := items.foldl (watched advance touches) watch
    scanned.1 = folded ∨ halted scanned.1.1 = true ∧ halted folded.1 = true ∧ scanned.1.2 = folded.2 := by
  induction items generalizing watch with
  | nil => exact .inl rfl
  | cons item rest ih =>
      dsimp only
      unfold scan
      split
      · rename_i stopped
        obtain ⟨stays,same⟩ := @quiet_fold _ _ _ _ _ _ _ rest quiet stopped
        exact .inr ⟨stopped,stays,same.symm⟩
      · exact ih

theorem quiet_scans (quiet : Quiet advance touches halted) (stopped : halted watch.1 = true) :
    (scans (watched advance touches) (fun watch => halted watch.1) watch chunks).1.2 = watch.2 := by
  induction chunks generalizing watch with
  | nil => rfl
  | cons chunk later ih =>
      obtain ⟨stays,same⟩ := @quiet_fold _ _ _ _ _ _ _ chunk quiet stopped
      rcases @watched_scan _ _ _ _ _ halted watch chunk quiet with all | ⟨still,_,log⟩
      · refine (ih ?_).trans ?_
        · rw [all]
          exact stays
        · rw [all]
          exact same
      · exact (ih still).trans (log.trans same)

theorem watched_scans (quiet : Quiet advance touches halted) :
    (scans (watched advance touches) (fun watch => halted watch.1) watch chunks).1.2 =
      (chunks.flatten.foldl (watched advance touches) watch).2 := by
  induction chunks generalizing watch with
  | nil => rfl
  | cons chunk later ih =>
      rw [List.flatten_cons,List.foldl_append]
      rcases @watched_scan _ _ _ _ _ halted watch chunk quiet with all | ⟨stopped,gone,log⟩
      · refine (@ih _).trans ?_
        rw [all]
      · exact (quiet_scans quiet stopped).trans (log.trans (quiet_fold quiet gone).2.symm)

def Settled (bad : List β → Prop) (taken : List β) : Prop := ∀ rest, bad (taken ++ rest) ↔ bad taken

theorem settled_append {bad : List β → Prop} {taken : List β} (settled : Settled bad taken) (more : List β) :
    Settled bad (taken ++ more) := by
  intro rest
  rw [List.append_assoc,settled,settled]

-- All touches are safe exactly on the items that are not bad, if each step touches something
-- unsafe just when its item makes them bad.
theorem watched_safe {knows : List β → σ → Prop} {bad : List β → Prop} {safe : ι → Prop} {state : σ}
    (start : knows [] state) (clean : ¬ bad [])
    (step : ∀ taken before item, knows taken before → knows (taken++[item]) (advance before item) ∧
      (bad (taken++[item]) ↔ bad taken ∨ ∃ i ∈ touches before item, ¬ safe i)) :
    (∀ i ∈ (items.foldl (watched advance touches) (state,[])).2, safe i) ↔ ¬ bad items := by
  have run : knows items (items.foldl (watched advance touches) (state,[])).1 ∧
      ((∀ i ∈ (items.foldl (watched advance touches) (state,[])).2, safe i) ↔ ¬ bad items) := by
    induction items using List.reverseRecOn with
    | nil => exact ⟨start,fun _ => clean,fun _ i member => by cases member⟩
    | append_singleton taken item ih =>
        obtain ⟨knowsNow,same⟩ := ih
        obtain ⟨next,turns⟩ := step taken _ item knowsNow
        rw [List.foldl_append]
        refine ⟨next,?_⟩
        rw [turns,not_or,← same]
        change (∀ i ∈ _ ++ touches _ item, safe i) ↔ _
        constructor
        · intro all
          refine ⟨fun i member => all i (List.mem_append_left _ member),?_⟩
          rintro ⟨i,member,unsafe_⟩
          exact unsafe_ (all i (List.mem_append_right _ member))
        · rintro ⟨old,new⟩ i member
          rcases List.mem_append.mp member with before | now
          · exact old i before
          · by_contra unsafe_
            exact new ⟨i,now,unsafe_⟩
  exact run.2

end Watch
