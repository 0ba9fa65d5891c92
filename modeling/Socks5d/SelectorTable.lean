import Mathlib.Order.Nat
import Socks5d.SelectPass
import Socks5d.Foundations.Peak
import Socks5d.Foundations.Transitions

namespace Socks5d
open Peaks

inductive TableCall where
  | plain (given : Bool) (call : SelectorCall)
  | setInterestKey (key : Option KeyPointer) (interest : FdInterest)
  deriving DecidableEq, Repr

def Selector.answer (s : Selector) : TableCall → SelectorStatus × Selector
  | .plain given call => if given then s.call call else (.iargs,s)
  | .setInterestKey key interest => selectorSetInterestKey s key interest

abbrev TableRuns := Transitions.Runs fun (s : Selector) call next => (s.answer call).2 = next

def initialN : Nat := 1023

structure Selector.Derived (s : Selector) : Prop where
  numbered : ∀ i, (s.item i).used = true → (s.item i).fd = i
  reads : ∀ i, s.masterR i = true ↔ (s.item i).used = true ∧ (s.item i).interest.read = true
  writes : ∀ i, s.masterW i = true ↔ (s.item i).used = true ∧ (s.item i).interest.write = true
  top : Peak (fun i => (s.item i).used = true) s.maxFd

variable {s t : Selector} {n i : Nat} {fd : Int} {kind : EventKind} {entry : Item} {interest : FdInterest}

-- The two halves of a set bit, and the maximum: what `Synced` leaves open.
structure Selector.Exact (s : Selector) : Prop where
  synced : s.Synced
  set : ∀ kind i, kind.wants (s.item i).interest = true → s.master kind i = true
  top : Peak (fun i => (s.item i).used = true) s.maxFd

theorem exact_derived (exact_ : s.Exact) : s.Derived := by
  have bits : ∀ kind i, s.master kind i = true ↔ (s.item i).used = true ∧ kind.wants (s.item i).interest = true := by
    intro kind i
    constructor
    · intro bit
      have wants := exact_.synced.asked kind i bit
      exact ⟨exact_.synced.idle kind i wants,wants⟩
    · rintro ⟨_,wants⟩
      exact exact_.set kind i wants
  exact ⟨fun i used => (exact_.synced.numbered i used).2,bits .read,bits .write,exact_.top⟩

theorem set_follows (n : Nat) (entry : Item) (set : ∀ kind i, kind.wants (s.item i).interest = true → s.master kind i = true)
    (table : t.fds = s.fds.set n entry) (inside : n < s.fds.length)
    (masters : ∀ kind i, t.master kind i = if i = n then kind.wants entry.interest else s.master kind i)
    (kind : EventKind) (i : Nat) (wants : kind.wants (t.item i).interest = true) : t.master kind i = true := by
  rw [item_set table inside] at wants
  rw [masters]
  by_cases same : i = n
  · rw [if_pos same] at wants ⊢
    exact wants
  · rw [if_neg same] at wants ⊢
    exact set kind i wants

theorem register_exact (exact_ : s.Exact) (fd : Int) (handler : Option FdHandler) (interest : FdInterest)
    (data : Option Nat) : (selectorRegister s fd handler interest data).2.Exact := by
  have synced := register_synced exact_.synced fd handler interest data
  rcases @register_parts s fd interest exact_.synced.roomy handler data with ⟨_,valid,_,made⟩ | ⟨_,same⟩
  · obtain ⟨nonneg,low⟩ := valid_number valid
    have inside := Nat.lt_trans low exact_.synced.roomy
    have used : (⟨fd,interest,handler,data⟩ : Item).used = true := by
      rw [Item.used,fdUnused,decide_eq_true_eq]
      dsimp only
      omega
    rw [made] at synced ⊢
    refine ⟨synced,set_follows fd.toNat ⟨fd,interest,handler,data⟩ exact_.set rfl inside ?_,?_⟩
    · intro kind i
      rw [master_update _ rfl,used,Bool.true_and]
      cases kind <;> rfl
    · refine peak_taken exact_.top fun i => ?_
      rw [@item_set s _ fd.toNat ⟨fd,interest,handler,data⟩ rfl inside]
      by_cases same : i = fd.toNat
      · simp [same,used]
      · simp [same]
  · rw [same]
    exact exact_

theorem setInterest_parts (s : Selector) (fd : Int) (interest : FdInterest) :
    (selectorSetInterest s fd interest).1 = .success ∧ (s.item fd.toNat).used = true ∧
      (selectorSetInterest s fd interest).2 = itemsUpdateFdsetForFd
        {s with fds:=s.fds.set fd.toNat {s.item fd.toNat with interest:=interest}}
        {s.item fd.toNat with interest:=interest} ∨
    (selectorSetInterest s fd interest).1 ≠ .success ∧ (selectorSetInterest s fd interest).2 = s := by
  unfold selectorSetInterest
  split
  · exact .inr ⟨by simp,rfl⟩
  · split
    · exact .inr ⟨by simp,rfl⟩
    · rename_i found
      exact .inl ⟨rfl,by simpa using found,rfl⟩

theorem unregister_parts (s : Selector) (fd : Int) :
    (selectorUnregisterFd s fd).1 = .success ∧ (s.item fd.toNat).used = true ∧
      (∃ cleared, cleared = itemsUpdateFdsetForFd s {s.item fd.toNat with interest:=opNoop} ∧
        (selectorUnregisterFd s fd).2 = {cleared with
          fds:=s.fds.set fd.toNat Item.blank
          maxFd:=itemsMaxFd {cleared with fds:=s.fds.set fd.toNat Item.blank}}) ∨
    (selectorUnregisterFd s fd).1 ≠ .success ∧ (selectorUnregisterFd s fd).2 = s := by
  unfold selectorUnregisterFd
  split
  · exact .inr ⟨by simp,rfl⟩
  · split
    · exact .inr ⟨by simp,rfl⟩
    · rename_i found
      exact .inl ⟨rfl,by simpa using found,_,rfl,rfl⟩

theorem setInterest_exact (exact_ : s.Exact) (fd : Int) (interest : FdInterest) :
    (selectorSetInterest s fd interest).2.Exact := by
  have synced := setInterest_synced exact_.synced fd interest
  rcases setInterest_parts s fd interest with ⟨_,used,made⟩ | ⟨_,same⟩
  · have inside := Nat.lt_trans (exact_.synced.numbered _ used).1 exact_.synced.roomy
    rw [made] at synced ⊢
    refine ⟨synced,set_follows fd.toNat {s.item fd.toNat with interest:=interest} exact_.set rfl inside ?_,?_⟩
    · intro kind i
      refine (master_told exact_.synced used interest _ kind i).trans ?_
      cases kind <;> rfl
    · refine peak_same exact_.top fun i => ?_
      rw [@item_set s _ fd.toNat {s.item fd.toNat with interest:=interest} rfl inside]
      by_cases same : i = fd.toNat
      · rw [if_pos same,same]
        rfl
      · rw [if_neg same]
  · rw [same]
    exact exact_

-- items_max_fd walks up to the old maximum, past which nothing was used.
theorem maxFd_peak (numbered : ∀ i, (t.item i).used = true → (t.item i).fd = i)
    (bounded : ∀ i, (t.item i).used = true → i ≤ t.maxFd) :
    Peak (fun i => (t.item i).used = true) (itemsMaxFd t) := by
  refine peak_same (scan_peak (fun i => (t.item i).used) (fun i => (t.item i).fd.toNat) (List.range (t.maxFd+1))) ?_
  intro i
  constructor
  · intro used
    refine ⟨i,List.mem_range.mpr (Nat.lt_succ_of_le (bounded i used)),used,?_⟩
    rw [numbered i used]
    rfl
  · rintro ⟨j,_,used,same⟩
    rw [numbered j used] at same
    cases same
    exact used

theorem unregister_exact (exact_ : s.Exact) (fd : Int) : (selectorUnregisterFd s fd).2.Exact := by
  have synced := unregister_synced exact_.synced fd
  rcases unregister_parts s fd with ⟨_,used,cleared,clearing,made⟩ | ⟨_,same⟩
  · have inside := Nat.lt_trans (exact_.synced.numbered _ used).1 exact_.synced.roomy
    rw [made] at synced ⊢
    refine ⟨synced,set_follows fd.toNat Item.blank exact_.set rfl inside ?_,?_⟩
    · intro kind i
      have bits := master_told exact_.synced used opNoop s kind i
      rw [wants_noop,← clearing] at bits
      rw [Item.blank,wants_noop]
      refine Eq.trans ?_ bits
      cases kind <;> rfl
    · refine maxFd_peak (t:={cleared with fds:=s.fds.set fd.toNat Item.blank}) (fun i => (synced.numbered i · |>.2)) ?_
      intro i used
      rw [@item_set s _ fd.toNat Item.blank rfl inside] at used
      split at used
      · cases used
      · rw [clearing]
        exact peak_bound exact_.top used
  · rw [same]
    exact exact_

theorem answer_exact (exact_ : s.Exact) (call : TableCall) : (s.answer call).2.Exact := by
  cases call with
  | plain given call =>
      unfold Selector.answer
      dsimp only
      split
      · cases call with
        | register fd handler interest data => exact register_exact exact_ fd handler interest data
        | setInterest fd interest => exact setInterest_exact exact_ fd interest
        | unregister fd => exact unregister_exact exact_ fd
      · exact exact_
  | setInterestKey key interest =>
      unfold Selector.answer selectorSetInterestKey
      dsimp only
      split
      · exact exact_
      · split
        · exact exact_
        · exact setInterest_exact exact_ _ interest

theorem call_refused (exact_ : s.Exact) (call : SelectorCall) (refused : (s.call call).1 ≠ .success) :
    (s.call call).2 = s := by
  cases call with
  | register fd handler interest data =>
      rcases @register_parts s fd interest exact_.synced.roomy handler data with ⟨taken,_⟩ | ⟨_,same⟩
      · exact absurd taken refused
      · exact same
  | setInterest fd interest =>
      rcases setInterest_parts s fd interest with ⟨taken,_⟩ | ⟨_,same⟩
      · exact absurd taken refused
      · exact same
  | unregister fd =>
      rcases unregister_parts s fd with ⟨taken,_⟩ | ⟨_,same⟩
      · exact absurd taken refused
      · exact same

theorem answer_refused (exact_ : s.Exact) (call : TableCall) (refused : (s.answer call).1 ≠ .success) :
    (s.answer call).2 = s := by
  cases call with
  | plain given call =>
      cases given with
      | false => rfl
      | true => exact call_refused exact_ call refused
  | setInterestKey key interest =>
      cases key with
      | none => rfl
      | some key =>
          change (selectorSetInterestKey s (some key) interest).1 ≠ .success at refused
          change (selectorSetInterestKey s (some key) interest).2 = s
          unfold selectorSetInterestKey at refused ⊢
          dsimp only at refused ⊢
          split
          · rfl
          · rename_i known
            rw [if_neg known] at refused
            exact call_refused exact_ (.setInterest key.fd interest) refused

theorem created_exact (created : selectorNew initialN = some s) : s.Exact := by
  rw [initialN,mainSelector_table] at created
  cases created
  refine ⟨mainSelector_synced,?_,.inr ⟨?_,rfl⟩⟩
  · intro kind i wants
    rw [mainSelector_item,Item.blank,wants_noop] at wants
    cases wants
  · intro i used
    rw [mainSelector_item] at used
    cases used

theorem table_derived {first : Selector} {calls : List TableCall} (created : selectorNew initialN = some first)
    (path : TableRuns first calls s) :
    s.Derived ∧ ∀ call, (s.answer call).1 ≠ .success → (s.answer call).2 = s := by
  have exact_ : s.Exact := by
    refine path.invariant (created_exact created) ?_
    rintro before call next exact_ rfl
    exact answer_exact exact_ call
  exact ⟨exact_derived exact_,answer_refused exact_⟩

def Selector.answered (s : Selector) (calls : List TableCall) : Selector :=
  calls.foldl (fun s call => (s.answer call).2) s

theorem answered_runs (s : Selector) (calls : List TableCall) : TableRuns s calls (s.answered calls) := by
  induction calls generalizing s with
  | nil => exact .nil
  | cons call rest ih => exact .cons rfl (ih _)

def tableCalls : List TableCall :=
  [.plain true (.register 5 (some .connActions) opRead (some 1)),
    .plain true (.register 8 (some .cpFd) opRead (some 2)),.plain true (.unregister 8),
    .setInterestKey (some ⟨true,5⟩) opWrite,.plain true (.unregister 8)]

theorem tableCalls_derived : (mainSelector.answered tableCalls).Derived ∧
    (mainSelector.answered tableCalls).maxFd = 5 ∧ (mainSelector.answered tableCalls).masterW 5 = true ∧
    ((mainSelector.answered tableCalls).answer (.plain true (.unregister 8))).1 = .iargs :=
  ⟨(table_derived mainSelector_table (answered_runs mainSelector tableCalls)).1,by decide +kernel,by decide +kernel,
    by decide +kernel⟩

end Socks5d
