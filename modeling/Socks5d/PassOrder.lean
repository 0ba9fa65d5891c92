import Mathlib.Data.List.Infix
import Socks5d.SelectorTable

namespace Socks5d
open Peaks

def SelectorCall.target : SelectorCall → Int
  | .register fd _ _ _ => fd
  | .setInterest fd _ => fd
  | .unregister fd => fd

def Dispatch.Before (d : Dispatch) (kind : EventKind) (fd : Int) : Prop :=
  d.fd < fd ∨ d.fd = fd ∧ d.kind = .read ∧ kind = .write

instance (d : Dispatch) (kind : EventKind) (fd : Int) : Decidable (d.Before kind fd) :=
  inferInstanceAs (Decidable (_ ∨ _))

def InOrder (made : List Dispatch) : Prop := made.Pairwise fun d later => d.Before later.kind later.fd

structure Pass.Sorted (p : Pass) (kind : EventKind) (fd : Int) : Prop where
  order : InOrder p.made
  front : ∀ d ∈ p.made, d.Before kind fd

-- The entry that pselect was called with, for as long as no handler touches it.
structure Pass.Waits (p : Pass) (fd : Int) (item : Item) : Prop where
  entry : p.sel.registered fd = some item
  old : fd ∉ p.again

variable {s : Selector} {n i : Nat} {fd : Int} {kind : EventKind} {item key : Item} {respond : Behaviour}
  {ready : ReadySets} {p : Pass} {bit : Bool} {handler : FdHandler} {calls : List SelectorCall}

theorem dispatch_made (respond : Behaviour) (p : Pass) (d : Dispatch) : (p.dispatch respond d).made = p.made ++ [d] :=
  (calls_grow _ _).1

theorem before_next {d : Dispatch} (earlier : d.Before .write n) : d.Before .read (n+1 : Nat) := by
  rcases earlier with less | ⟨same,_⟩
  · exact .inl (by omega)
  · exact .inl (by omega)

theorem before_write {d : Dispatch} (earlier : d.Before .read fd) : d.Before .write fd := by
  rcases earlier with less | ⟨_,_,wrong⟩
  · exact .inl less
  · cases wrong

theorem offer_sorted (sorted : p.Sorted kind i) (number : key.fd = i) :
    InOrder (p.offer respond kind bit i key).made ∧
    ∀ d ∈ (p.offer respond kind bit i key).made, d.Before kind i ∨ d.fd = i ∧ d.kind = kind := by
  rcases offer_cases respond kind bit i key p with ⟨same,_,_,_⟩ | ⟨handler,_,_,_,_,called⟩
  · rw [same]
    exact ⟨sorted.order,fun d member => .inl (sorted.front d member)⟩
  · rw [called,dispatch_made]
    constructor
    · refine List.pairwise_append.mpr ⟨sorted.order,List.pairwise_singleton _ _,?_⟩
      intro d member later last
      rw [List.mem_singleton.mp last,number]
      exact sorted.front d member
    · intro d member
      rcases List.mem_append.mp member with earlier | new
      · exact .inl (sorted.front d earlier)
      · rw [List.mem_singleton.mp new]
        exact .inr ⟨number,rfl⟩

theorem turn_sorted (synced : p.sel.Synced) (sorted : p.Sorted .read n) :
    (p.turn respond ready n).Sorted .read (n+1 : Nat) := by
  rcases @turn_cases n respond ready p synced with ⟨same,_⟩ | ⟨_,number,both⟩
  · rw [same]
    exact ⟨sorted.order,fun d member => before_next (before_write (sorted.front d member))⟩
  · obtain ⟨order,front⟩ := @offer_sorted n .read (p.sel.item n) respond p (ready.slaveR n) sorted number
    have middle : (p.offer respond .read (ready.slaveR n) n (p.sel.item n)).Sorted .write n := by
      refine ⟨order,?_⟩
      intro d member
      rcases front d member with earlier | ⟨same,read⟩
      · exact before_write earlier
      · exact .inr ⟨same,read,rfl⟩
    obtain ⟨order,front⟩ := @offer_sorted n .write (p.sel.item n) respond _ (ready.slaveW n) middle number
    rw [both]
    refine ⟨order,?_⟩
    intro d member
    rcases front d member with earlier | ⟨same,_⟩
    · exact before_next earlier
    · exact .inl (by omega)

theorem passTo_sorted (start : s.Synced) (within : ready.Within s) (respond : Behaviour) (n : Nat) :
    (passTo respond ready s n).Sorted .read n := by
  induction n with
  | zero => exact ⟨List.Pairwise.nil,fun _ member => by cases member⟩
  | succ n ih => exact turn_sorted (passTo_tracks start within respond n).synced ih

structure Pass.Grows (p after : Pass) : Prop where
  made : p.made <+: after.made
  aborted : p.aborted = true → after.aborted = true

theorem grows_trans {middle after : Pass} (first : p.Grows middle) (second : middle.Grows after) : p.Grows after :=
  ⟨first.made.trans second.made,fun aborted => second.aborted (first.aborted aborted)⟩

theorem calls_aborted (calls : List SelectorCall) (p : Pass) : (calls.foldl Pass.call p).aborted = p.aborted := by
  induction calls generalizing p with
  | nil => rfl
  | cons call rest ih =>
      rw [List.foldl_cons,ih]
      cases call <;> rfl

theorem offer_grows_made : p.Grows (p.offer respond kind bit i key) := by
  unfold Pass.offer
  dsimp only
  split
  · split
    · refine ⟨?_,?_⟩
      · rw [dispatch_made]
        exact List.prefix_append _ _
      · intro aborted
        exact (calls_aborted _ _).trans aborted
    · exact ⟨List.prefix_refl _,fun _ => rfl⟩
  · exact ⟨List.prefix_refl _,id⟩

theorem turn_grows : p.Grows (p.turn respond ready n) := by
  unfold Pass.turn
  dsimp only
  split
  · exact grows_trans offer_grows_made offer_grows_made
  · exact ⟨List.prefix_refl _,id⟩

theorem passTo_grows {m : Nat} (below : n ≤ m) : (passTo respond ready s n).Grows (passTo respond ready s m) := by
  induction below with
  | refl => exact ⟨List.prefix_refl _,id⟩
  | step _ ih => exact grows_trans ih turn_grows

theorem register_waits (synced : p.sel.Synced) (waits : p.Waits fd item) {number : Int} (other : number ≠ fd)
    (handler : Option FdHandler) (interest : FdInterest) (data : Option Nat) :
    (p.call (.register number handler interest data)).Waits fd item := by
  obtain ⟨entry,old⟩ := waits
  unfold Pass.call
  dsimp only
  rcases @register_parts p.sel number interest synced.roomy handler data with ⟨taken,valid,_,made⟩ | ⟨refused,same⟩
  · have inside := Nat.lt_trans (valid_number valid).2 synced.roomy
    rw [if_pos taken,made]
    refine ⟨?_,?_⟩
    · refine (@registered_set p.sel _ number ⟨number,interest,handler,data⟩ rfl valid inside fd).trans ?_
      rw [if_neg (Ne.symm other)]
      exact entry
    · rw [List.mem_cons,not_or]
      exact ⟨Ne.symm other,old⟩
  · rw [if_neg refused,same]
    exact ⟨entry,old⟩

theorem call_waits (synced : p.sel.Synced) (waits : p.Waits fd item) {call : SelectorCall} (other : call.target ≠ fd) :
    (p.call call).Waits fd item := by
  cases call with
  | register number handler interest data => exact register_waits synced waits other handler interest data
  | setInterest number interest =>
      have apart : ¬ fd = number := fun same => other same.symm
      refine ⟨?_,waits.old⟩
      refine (setInterest_registered p.sel number fd interest).trans ?_
      rw [if_neg apart]
      exact waits.entry
  | unregister number =>
      have apart : ¬ fd = number := fun same => other same.symm
      refine ⟨?_,waits.old⟩
      refine (unregister_registered p.sel number fd).trans ?_
      rw [if_neg apart]
      exact waits.entry

theorem calls_synced (synced : p.sel.Synced) (calls : List SelectorCall) : (calls.foldl Pass.call p).sel.Synced := by
  induction calls generalizing p with
  | nil => exact synced
  | cons call rest ih =>
      have kept := call_synced synced call
      refine ih ?_
      cases call <;> exact kept

theorem offer_synced (synced : p.sel.Synced) : (p.offer respond kind bit i key).sel.Synced := by
  rcases offer_cases respond kind bit i key p with ⟨_,sel,_,_⟩ | ⟨handler,_,_,_,_,called⟩
  · rw [sel]
    exact synced
  · rw [called]
    exact @calls_synced {p with made:=p.made ++ [⟨kind,key.fd,key.data,handler,decide (key.fd ∈ p.again)⟩]} synced _

theorem calls_wait (synced : p.sel.Synced) (waits : p.Waits fd item) (others : ∀ call ∈ calls, call.target ≠ fd) :
    (calls.foldl Pass.call p).Waits fd item := by
  induction calls generalizing p with
  | nil => exact waits
  | cons call rest ih =>
      refine ih ?_ (call_waits synced waits (others call List.mem_cons_self)) fun later member =>
        others later (List.mem_cons_of_mem _ member)
      have kept := call_synced synced call
      cases call <;> exact kept

def Untouched (respond : Behaviour) (made : List Dispatch) (kind : EventKind) (fd : Int) : Prop :=
  ∀ earlier d, earlier ++ [d] <+: made → d.Before kind fd → ∀ call ∈ respond (earlier ++ [d]), call.target ≠ fd

theorem offer_waits {asked : EventKind} (synced : p.sel.Synced) (waits : p.Waits fd item) (before : ∀ d : Dispatch,
      d.fd = key.fd → d.kind = kind → d.Before asked fd)
    (untouched : Untouched respond (p.offer respond kind bit i key).made asked fd) :
    (p.offer respond kind bit i key).Waits fd item := by
  rcases offer_cases respond kind bit i key p with ⟨_,sel,again,_⟩ | ⟨handler,_,_,_,_,called⟩
  · exact ⟨by rw [sel]; exact waits.entry,by rw [again]; exact waits.old⟩
  · rw [called] at untouched ⊢
    rw [dispatch_made] at untouched
    refine calls_wait ?_ ?_ ?_
    · exact synced
    · exact ⟨waits.entry,waits.old⟩
    · exact untouched _ _ (List.prefix_refl _) (before _ rfl rfl)

theorem untouched_part {made whole : List Dispatch} (untouched : Untouched respond whole kind fd)
    (front : made <+: whole) : Untouched respond made kind fd :=
  fun earlier d part => untouched earlier d (part.trans front)

theorem turn_waits {asked : EventKind} (synced : p.sel.Synced) (waits : p.Waits fd item) (below : (n : Int) < fd)
    (untouched : Untouched respond (p.turn respond ready n).made asked fd) :
    (p.turn respond ready n).Waits fd item := by
  rcases @turn_cases n respond ready p synced with ⟨same,_⟩ | ⟨_,number,both⟩
  · rw [same]
    exact waits
  · have before : ∀ kind (d : Dispatch), d.fd = (p.sel.item n).fd → d.kind = kind → d.Before asked fd :=
      fun kind d same _ => .inl (by rw [same,number]; exact below)
    rw [both] at untouched ⊢
    have first := @offer_waits n fd .read item (p.sel.item n) respond p (ready.slaveR n) asked synced waits
      (before .read) (untouched_part untouched offer_grows_made.made)
    exact offer_waits (offer_synced synced) first (before .write) untouched

theorem passTo_waits {asked : EventKind} (start : s.Synced) (within : ready.Within s) (entry : s.registered fd = some item)
    (below : (n : Int) ≤ fd) (untouched : Untouched respond (passTo respond ready s n).made asked fd) :
    (passTo respond ready s n).Waits fd item := by
  induction n with
  | zero => exact ⟨entry,List.not_mem_nil⟩
  | succ n ih =>
      have earlier := ih (by omega) (untouched_part untouched turn_grows.made)
      exact turn_waits (passTo_tracks start within respond n).synced earlier (by omega) untouched

theorem offer_serves (waits : p.Waits i item) (running : (p.offer respond kind bit i key).aborted = false)
    (reported : bit = true) (wants : kind.wants item.interest = true) (own : key.fd = i) (data : key.data = item.data) :
    ∃ handler, item.handler = some handler ∧
      ⟨kind,i,item.data,handler,false⟩ ∈ (p.offer respond kind bit i key).made := by
  have stored : p.sel.item i = item := by
    obtain ⟨_,_,found,_⟩ := registered_parts waits.entry
    rwa [Int.toNat_natCast] at found
  have going : p.aborted = false := by
    cases aborted : p.aborted with
    | false => rfl
    | true => rw [offer_grows_made.aborted aborted] at running; cases running
  unfold Pass.offer at running ⊢
  dsimp only at running ⊢
  rw [stored,going,reported,wants] at running ⊢
  cases callee : item.handler.filter (·.handles kind) with
  | none =>
      rw [callee] at running
      cases running
  | some handler =>
      refine ⟨handler,(Option.filter_eq_some_iff.mp callee).1,?_⟩
      have fresh : decide (key.fd ∈ p.again) = false := by
        rw [own]
        exact decide_eq_false waits.old
      change _ ∈ (p.dispatch respond ⟨kind,key.fd,key.data,handler,decide (key.fd ∈ p.again)⟩).made
      rw [dispatch_made,fresh,own,data]
      exact List.mem_append_right _ List.mem_cons_self

theorem turn_serves (synced : p.sel.Synced) (waits : p.Waits n item) (running : (p.turn respond ready n).aborted = false)
    (reported : ready.bit kind n = true) (wants : kind.wants item.interest = true)
    (untouched : Untouched respond (p.turn respond ready n).made kind n) :
    ∃ handler, item.handler = some handler ∧ ⟨kind,n,item.data,handler,false⟩ ∈ (p.turn respond ready n).made := by
  have stored : p.sel.item n = item := by
    obtain ⟨_,_,found,_⟩ := registered_parts waits.entry
    rwa [Int.toNat_natCast] at found
  rcases @turn_cases n respond ready p synced with ⟨_,unused⟩ | ⟨_,number,both⟩
  · obtain ⟨_,used,_⟩ := registered_parts waits.entry
    rw [stored,used] at unused
    cases unused
  · rw [both] at running untouched ⊢
    rw [stored] at number running untouched ⊢
    have going : (p.offer respond .read (ready.slaveR n) n item).aborted = false := by
      cases aborted : (p.offer respond .read (ready.slaveR n) n item).aborted with
      | false => rfl
      | true => rw [offer_grows_made.aborted aborted] at running; cases running
    cases kind with
    | read =>
        obtain ⟨handler,table,called⟩ := offer_serves waits going reported wants number rfl
        exact ⟨handler,table,offer_grows_made.made.subset called⟩
    | write =>
        -- its own read handler comes first, and leaves the entry alone too
        have kept := @offer_waits n n .read item item respond p (ready.slaveR n) .write synced waits
          (fun d same kind => .inr ⟨same.trans number,kind,rfl⟩) (untouched_part untouched offer_grows_made.made)
        exact offer_serves kept running reported wants number rfl
    | block => cases reported

theorem offer_reported (reported : ∀ d ∈ p.made, ready.bit d.kind d.fd.toNat = true) (number : key.fd = i) :
    ∀ d ∈ (p.offer respond kind (ready.bit kind i) i key).made, ready.bit d.kind d.fd.toNat = true := by
  rcases offer_cases respond kind (ready.bit kind i) i key p with ⟨same,_,_,_⟩ | ⟨handler,_,set,_,_,called⟩
  · rw [same]
    exact reported
  · rw [called,dispatch_made]
    intro d member
    rcases List.mem_append.mp member with earlier | new
    · exact reported d earlier
    · rw [List.mem_singleton.mp new,number,Int.toNat_natCast]
      exact set

theorem passTo_reported (start : s.Synced) (within : ready.Within s) (respond : Behaviour) (n : Nat) :
    ∀ d ∈ (passTo respond ready s n).made, ready.bit d.kind d.fd.toNat = true := by
  induction n with
  | zero => exact fun _ member => absurd member List.not_mem_nil
  | succ n ih =>
      rcases @turn_cases n respond ready _ (passTo_tracks start within respond n).synced with ⟨same,_⟩ | ⟨_,number,both⟩
      · rw [passTo,same]
        exact ih
      · rw [passTo,both]
        exact @offer_reported n .write _ respond ready _ (@offer_reported n .read _ respond ready _ ih number) number

theorem order_once {made : List Dispatch} {d : Dispatch} (order : InOrder made) (called : d ∈ made) :
    made.filter (fun other => decide (other.kind = d.kind) && decide (other.fd = d.fd)) = [d] := by
  have sorted : InOrder (made.filter fun other => decide (other.kind = d.kind) && decide (other.fd = d.fd)) :=
    List.Pairwise.filter _ order
  have inside : d ∈ made.filter fun other => decide (other.kind = d.kind) && decide (other.fd = d.fd) := by
    simpa using called
  have alike : ∀ other ∈ made.filter (fun other => decide (other.kind = d.kind) && decide (other.fd = d.fd)),
      other.kind = d.kind ∧ other.fd = d.fd := by
    intro other member
    simpa using (List.mem_filter.mp member).2
  generalize made.filter (fun other => decide (other.kind = d.kind) && decide (other.fd = d.fd)) = same at *
  cases same with
  | nil => cases inside
  | cons first rest =>
      cases rest with
      | nil =>
          cases List.mem_singleton.mp inside
          rfl
      | cons second others =>
          have before := (List.pairwise_cons.mp sorted).1 second List.mem_cons_self
          obtain ⟨kind,fd⟩ := alike first List.mem_cons_self
          obtain ⟨kind',fd'⟩ := alike second (List.mem_cons_of_mem _ List.mem_cons_self)
          rcases before with less | ⟨_,read,write⟩
          · rw [fd,fd'] at less
            exact absurd less (lt_irrefl _)
          · rw [kind] at read
            rw [kind',read] at write
            cases write

theorem reached_exact (calls : List SelectorCall) :
    (calls.foldl (fun s call => (s.call call).2) mainSelector).Exact := by
  have each : ∀ s : Selector, s.Exact → (calls.foldl (fun s call => (s.call call).2) s).Exact := by
    induction calls with
    | nil => exact fun _ exact_ => exact_
    | cons call rest ih => exact fun s exact_ => ih _ (answer_exact exact_ (.plain true call))
  exact each _ (created_exact mainSelector_table)

theorem pass_served (calls : List SelectorCall) (respond : Behaviour)
    (within : ready.Within (calls.foldl (fun s call => (s.call call).2) mainSelector)) :
    let s := calls.foldl (fun s call => (s.call call).2) mainSelector
    let pass := handleIteration respond ready s
    InOrder pass.made ∧ (∀ d ∈ pass.made, ready.bit d.kind d.fd.toNat = true) ∧
    ∀ kind fd item, s.registered fd = some item → ready.bit kind fd.toNat = true → pass.aborted = false →
      Untouched respond pass.made kind fd →
      ∃ handler, item.handler = some handler ∧
        pass.made.filter (fun d => decide (d.kind = kind) && decide (d.fd = fd)) = [⟨kind,fd,item.data,handler,false⟩] := by
  intro s pass
  have exact_ := reached_exact calls
  have order := (passTo_sorted exact_.synced within respond (s.maxFd+1)).order
  refine ⟨order,passTo_reported exact_.synced within respond (s.maxFd+1),?_⟩
  intro kind fd item entry reported running untouched
  obtain ⟨valid,used,stored,_⟩ := registered_parts entry
  obtain ⟨number,rfl⟩ : ∃ n : Nat, fd = n := ⟨fd.toNat,(Int.toNat_of_nonneg (valid_number valid).1).symm⟩
  rw [Int.toNat_natCast] at reported stored
  have wants : kind.wants item.interest = true := by
    rw [← stored]
    exact exact_.synced.asked kind number (within kind number reported)
  have bounded : number ≤ s.maxFd := peak_bound exact_.top (by rw [stored]; exact used)
  have part : (passTo respond ready s (number+1)).Grows pass := passTo_grows (by omega)
  have first := untouched_part untouched part.made
  have waits := passTo_waits exact_.synced within entry (Int.le_refl _) (untouched_part first turn_grows.made)
  have going : (passTo respond ready s (number+1)).aborted = false := by
    cases aborted : (passTo respond ready s (number+1)).aborted with
    | false => rfl
    | true => rw [part.aborted aborted] at running; cases running
  obtain ⟨handler,table,called⟩ := turn_serves (passTo_tracks exact_.synced within respond number).synced waits going
    reported wants first
  exact ⟨handler,table,order_once order (part.made.subset called)⟩

-- The third connection of the crowded selector is not touched by what the first two do.
theorem third_served : (handleIteration crowdedBehaviour crowdedSets crowdedSelector).made.filter
    (fun d => decide (d.kind = .read) && decide (d.fd = 7)) = [⟨.read,7,some 3,.connActions,false⟩] := by
  have made : (handleIteration crowdedBehaviour crowdedSets crowdedSelector).made =
      [⟨.read,5,some 1,.connActions,false⟩,⟨.read,6,some 2,.connActions,false⟩,⟨.read,7,some 3,.connActions,false⟩,
        ⟨.write,8,some 3,.connActions,true⟩] := by
    decide +kernel
  have checked : ∀ history ∈ List.inits [(⟨.read,5,some 1,.connActions,false⟩ : Dispatch),
      ⟨.read,6,some 2,.connActions,false⟩,⟨.read,7,some 3,.connActions,false⟩,⟨.write,8,some 3,.connActions,true⟩],
      ∀ d ∈ history.getLast?, d.Before .read 7 → ∀ call ∈ crowdedBehaviour history, call.target ≠ 7 := by
    decide +kernel
  have untouched : Untouched crowdedBehaviour (handleIteration crowdedBehaviour crowdedSets crowdedSelector).made
      .read 7 := by
    intro earlier d part before
    rw [made] at part
    exact checked _ ((List.mem_inits _ _).mpr part) d (List.getLast?_concat ..) before
  have entry : crowdedSelector.registered 7 = some ⟨7,opRead,some .connActions,some 3⟩ := by decide +kernel
  obtain ⟨_,_,served⟩ := pass_served _ crowdedBehaviour crowdedSets_within
  obtain ⟨handler,table,once⟩ := served .read 7 ⟨7,opRead,some .connActions,some 3⟩ entry (by decide +kernel)
    (by decide +kernel) untouched
  cases table
  exact once

end Socks5d
