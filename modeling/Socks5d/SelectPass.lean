import Socks5d.Handlers

namespace Socks5d

def FdHandler.handles : FdHandler → EventKind → Bool
  | .passiveSocketFd,kind => decide (kind = .read)
  | .passiveSocketFdMng,kind => decide (kind = .read)
  | .connActions,_ => true
  | .cpFd,kind => decide (kind ≠ .block)

structure ReadySets where
  slaveR : Nat → Bool
  slaveW : Nat → Bool

def ReadySets.bit (ready : ReadySets) : EventKind → Nat → Bool
  | .read => ready.slaveR
  | .write => ready.slaveW
  | .block => fun _ => false

def Selector.master (s : Selector) : EventKind → Nat → Bool
  | .read => s.masterR
  | .write => s.masterW
  | .block => fun _ => false

def ReadySets.Within (ready : ReadySets) (s : Selector) : Prop :=
  ∀ kind i, ready.bit kind i = true → s.master kind i = true

inductive SelectorCall where
  | register (fd : Int) (handler : Option FdHandler) (interest : FdInterest) (data : Option Nat)
  | setInterest (fd : Int) (interest : FdInterest)
  | unregister (fd : Int)
  deriving DecidableEq, Repr

def Selector.call (s : Selector) : SelectorCall → SelectorStatus × Selector
  | .register fd handler interest data => selectorRegister s fd handler interest data
  | .setInterest fd interest => selectorSetInterest s fd interest
  | .unregister fd => selectorUnregisterFd s fd

-- One call of handle_read or handle_write: the key and the table that it goes through.
-- `again` marks an entry that selector_register made after pselect returned.
structure Dispatch where
  kind : EventKind
  fd : Int
  data : Option Nat
  handler : FdHandler
  again : Bool
  deriving DecidableEq, Repr

-- handle_iteration under way: the selector, the numbers registered since pselect
-- returned, and the calls made. `aborted` is the assertion on a missing callback.
structure Pass where
  sel : Selector
  again : List Int
  made : List Dispatch
  aborted : Bool

-- The handlers may do anything with the selector, depending on all that happened.
abbrev Behaviour := List Dispatch → List SelectorCall

def Pass.call (p : Pass) : SelectorCall → Pass
  | .register fd handler interest data =>
    let (ret,sel) := selectorRegister p.sel fd handler interest data
    {p with sel:=sel,again:=if ret = .success then fd :: p.again else p.again}
  | .setInterest fd interest => {p with sel:=(selectorSetInterest p.sel fd interest).2}
  | .unregister fd => {p with sel:=(selectorUnregisterFd p.sel fd).2}

def Pass.dispatch (respond : Behaviour) (p : Pass) (d : Dispatch) : Pass :=
  (respond (p.made ++ [d])).foldl Pass.call {p with made:=p.made ++ [d]}

-- One half of the loop's body. The entry is looked at as it is now; the key was filled in
-- before.
def Pass.offer (respond : Behaviour) (kind : EventKind) (bit : Bool) (i : Nat) (key : Item) (p : Pass) : Pass :=
  let item := p.sel.item i
  if !p.aborted && (bit && kind.wants item.interest) then
    match item.handler.filter (·.handles kind) with
    | some handler => p.dispatch respond ⟨kind,key.fd,key.data,handler,decide (key.fd ∈ p.again)⟩
    | none => {p with aborted:=true}
  else p

def Pass.turn (respond : Behaviour) (ready : ReadySets) (i : Nat) (p : Pass) : Pass :=
  let item := p.sel.item i
  if item.used then
    (p.offer respond .read (ready.slaveR item.fd.toNat) i item).offer respond .write (ready.slaveW i) i item
  else p

def passTo (respond : Behaviour) (ready : ReadySets) (s : Selector) : Nat → Pass
  | 0 => ⟨s,[],[],false⟩
  | i+1 => (passTo respond ready s i).turn respond ready i

def handleIteration (respond : Behaviour) (ready : ReadySets) (s : Selector) : Pass :=
  passTo respond ready s (s.maxFd+1)

structure Dispatch.Belongs (s : Selector) (d : Dispatch) : Prop where
  old : d.again = false
  entry : ∃ item, s.registered d.fd = some item ∧ d.kind.wants item.interest = true ∧
    item.handler = some d.handler ∧ item.data = d.data

def Pass.plain (p : Pass) (kind : EventKind) (bit : Bool) (i : Nat) : Prop :=
  (i : Int) ∈ p.again → p.aborted = false → bit = true → kind.wants (p.sel.item i).interest = true →
    (p.sel.item i).handler.filter (·.handles kind) = none

def Pass.unmixed (respond : Behaviour) (ready : ReadySets) (p : Pass) (i : Nat) : Prop :=
  (p.sel.item i).used = true → p.plain .read (ready.slaveR i) i ∧
    (p.offer respond .read (ready.slaveR i) i (p.sel.item i)).plain .write (ready.slaveW i) i

structure Selector.Synced (s : Selector) : Prop where
  roomy : itemsMaxSize < s.fds.length
  numbered : ∀ i, (s.item i).used = true → i < itemsMaxSize ∧ (s.item i).fd = i
  idle : ∀ (kind : EventKind) i, kind.wants (s.item i).interest = true → (s.item i).used = true
  asked : ∀ (kind : EventKind) i, s.master kind i = true → kind.wants (s.item i).interest = true

variable {s t : Selector} {n i : Nat} {fd : Int} {kind : EventKind} {item entry : Item} {interest : FdInterest}
  {respond : Behaviour} {ready : ReadySets} {p : Pass} {bit : Bool} {key : Item}

theorem wants_noop (kind : EventKind) : kind.wants opNoop = false := by cases kind <;> rfl

theorem item_set (table : t.fds = s.fds.set n entry) (inside : n < s.fds.length) (i : Nat) :
    t.item i = if i = n then entry else s.item i := by
  unfold Selector.item
  rw [table,List.getD_eq_getElem?_getD,List.getD_eq_getElem?_getD]
  by_cases same : i = n
  · rw [if_pos same,same,List.getElem?_set_self inside]
    rfl
  · rw [if_neg same,List.getElem?_set_ne (fun equal => same equal.symm)]

theorem synced_set (synced : s.Synced) (valid : n < itemsMaxSize) (own : entry.used = true → entry.fd = n)
    (idle : ∀ kind : EventKind, kind.wants entry.interest = true → entry.used = true)
    (table : t.fds = s.fds.set n entry)
    (masters : ∀ kind i, t.master kind i = if i = n then kind.wants entry.interest else s.master kind i) :
    t.Synced := by
  have entries := @item_set s t n entry table (Nat.lt_trans valid synced.roomy)
  refine ⟨?_,?_,?_,?_⟩
  · rw [table,List.length_set]
    exact synced.roomy
  · intro i used
    rw [entries] at used ⊢
    by_cases same : i = n
    · rw [if_pos same] at used ⊢
      rw [same]
      exact ⟨valid,own used⟩
    · rw [if_neg same] at used ⊢
      exact synced.numbered i used
  · intro kind i wants
    rw [entries] at wants ⊢
    by_cases same : i = n
    · rw [if_pos same] at wants ⊢
      exact idle kind wants
    · rw [if_neg same] at wants ⊢
      exact synced.idle kind i wants
  · intro kind i bit
    rw [masters] at bit
    rw [entries]
    by_cases same : i = n
    · rw [if_pos same] at bit ⊢
      exact bit
    · rw [if_neg same] at bit ⊢
      exact synced.asked kind i bit

theorem master_update (entry : Item) (own : entry.fd.toNat = n) (kind : EventKind) (i : Nat) :
    (itemsUpdateFdsetForFd s entry).master kind i =
      if i = n then entry.used && kind.wants entry.interest else s.master kind i := by
  cases kind with
  | read => rw [← own]; rfl
  | write => rw [← own]; rfl
  | block =>
      change false = _
      split
      · exact (Bool.and_false _).symm
      · rfl

theorem valid_number (valid : invalidFd fd = false) : 0 ≤ fd ∧ fd.toNat < itemsMaxSize := by
  have bounds : 0 ≤ fd ∧ fd < itemsMaxSize := by simpa [invalidFd] using valid
  omega

theorem register_parts (roomy : itemsMaxSize < s.fds.length) (handler : Option FdHandler) (data : Option Nat) :
    (selectorRegister s fd handler interest data).1 = .success ∧ invalidFd fd = false ∧
      (s.item fd.toNat).used = false ∧
      (selectorRegister s fd handler interest data).2 = itemsUpdateFdsetForFd
        {s with fds:=s.fds.set fd.toNat ⟨fd,interest,handler,data⟩,maxFd:=max s.maxFd fd.toNat}
        ⟨fd,interest,handler,data⟩ ∨
    (selectorRegister s fd handler interest data).1 ≠ .success ∧
      (selectorRegister s fd handler interest data).2 = s := by
  unfold selectorRegister
  split
  · exact .inr ⟨by simp,rfl⟩
  · rename_i arguments
    have valid : invalidFd fd = false := by
      rw [Bool.or_eq_true,not_or] at arguments
      simpa using arguments.1
    have fits : ¬ fd.toNat > s.fds.length := by
      have inside := (valid_number valid).2
      omega
    rw [if_neg fits]
    dsimp only
    rw [if_neg (by simp)]
    split
    · exact .inr ⟨by simp,rfl⟩
    · rename_i unused
      exact .inl ⟨rfl,valid,by simpa using unused,rfl⟩

theorem register_synced (synced : s.Synced) (fd : Int) (handler : Option FdHandler) (interest : FdInterest)
    (data : Option Nat) : (selectorRegister s fd handler interest data).2.Synced := by
  rcases @register_parts s fd interest synced.roomy handler data with ⟨_,valid,_,made⟩ | ⟨_,same⟩
  · obtain ⟨nonneg,inside⟩ := valid_number valid
    have used : (⟨fd,interest,handler,data⟩ : Item).used = true := by
      rw [Item.used,fdUnused,decide_eq_true_eq]
      dsimp only
      omega
    rw [made]
    refine @synced_set s _ fd.toNat ⟨fd,interest,handler,data⟩ synced inside (fun _ => ?_) (fun _ _ => used) rfl ?_
    · exact (Int.toNat_of_nonneg nonneg).symm
    · intro kind i
      rw [master_update _ rfl,used,Bool.true_and]
      cases kind <;> rfl
  · rw [same]
    exact synced

theorem master_told (synced : s.Synced) (used : (s.item n).used = true) (interest : FdInterest) (t : Selector)
    (kind : EventKind) (i : Nat) :
    (itemsUpdateFdsetForFd t {s.item n with interest:=interest}).master kind i =
      if i = n then kind.wants interest else t.master kind i := by
  have index : (s.item n).fd.toNat = n := by
    rw [(synced.numbered n used).2]
    rfl
  have told := @master_update t n {s.item n with interest:=interest} index kind i
  rwa [show ({s.item n with interest:=interest} : Item).used = true from used,Bool.true_and] at told

theorem setInterest_synced (synced : s.Synced) (fd : Int) (interest : FdInterest) :
    (selectorSetInterest s fd interest).2.Synced := by
  unfold selectorSetInterest
  split
  · exact synced
  · split
    · exact synced
    · rename_i found
      have used : (s.item fd.toNat).used = true := by simpa using found
      obtain ⟨inside,own⟩ := synced.numbered _ used
      refine @synced_set s _ fd.toNat {s.item fd.toNat with interest:=interest} synced inside (fun _ => own)
        (fun _ _ => used) rfl ?_
      intro kind i
      refine (master_told synced used interest _ kind i).trans ?_
      cases kind <;> rfl

theorem unregister_synced (synced : s.Synced) (fd : Int) : (selectorUnregisterFd s fd).2.Synced := by
  unfold selectorUnregisterFd
  split
  · exact synced
  · split
    · exact synced
    · rename_i found
      have used : (s.item fd.toNat).used = true := by simpa using found
      have inside := (synced.numbered _ used).1
      have blank : Item.blank.used = false := rfl
      refine @synced_set s _ fd.toNat Item.blank synced inside (fun contrary => ?_) (fun kind contrary => ?_) rfl ?_
      · rw [blank] at contrary
        cases contrary
      · rw [Item.blank,wants_noop] at contrary
        cases contrary
      · intro kind i
        have cleared := master_told synced used opNoop s kind i
        rw [wants_noop] at cleared
        rw [Item.blank,wants_noop]
        refine Eq.trans ?_ cleared
        cases kind <;> rfl

theorem call_synced (synced : s.Synced) (call : SelectorCall) : (s.call call).2.Synced := by
  cases call with
  | register fd handler interest data => exact register_synced synced fd handler interest data
  | setInterest fd interest => exact setInterest_synced synced fd interest
  | unregister fd => exact unregister_synced synced fd

-- INITIAL_N is 1023, and gives the table that ITEMS_MAX_SIZE gives.
theorem mainSelector_table : selectorNew 1023 = some mainSelector := rfl

theorem mainSelector_item (i : Nat) : mainSelector.item i = Item.blank := by
  have table : mainSelector.fds = List.replicate (itemsMaxSize+1) Item.blank := rfl
  rw [Selector.item,table,List.getD_eq_getElem?_getD,List.getElem?_replicate]
  split
  · rfl
  · rfl

theorem mainSelector_synced : mainSelector.Synced := by
  have table : mainSelector.fds = List.replicate (itemsMaxSize+1) Item.blank := rfl
  refine ⟨by rw [table,List.length_replicate]; exact Nat.lt_succ_self _,?_,?_,?_⟩
  · intro i used
    rw [mainSelector_item] at used
    cases used
  · intro kind i wants
    rw [mainSelector_item,Item.blank,wants_noop] at wants
    cases wants
  · intro kind i bit
    cases kind with
    | read => cases bit
    | write => cases bit
    | block => cases bit

theorem reached_synced (calls : List SelectorCall) :
    (calls.foldl (fun s call => (s.call call).2) mainSelector).Synced := by
  have each : ∀ s : Selector, s.Synced → (calls.foldl (fun s call => (s.call call).2) s).Synced := by
    induction calls with
    | nil => exact fun _ synced => synced
    | cons call rest ih => exact fun s synced => ih _ (call_synced synced call)
  exact each _ mainSelector_synced

theorem used_registered (synced : s.Synced) (used : (s.item i).used = true) : s.registered i = some (s.item i) := by
  have inside := (synced.numbered i used).1
  have valid : invalidFd i = false := by
    simp only [invalidFd,Bool.or_eq_false_iff,decide_eq_false_iff_not]
    omega
  unfold Selector.registered
  rw [if_neg (by rw [valid]; simp),Int.toNat_natCast,if_pos used]

structure Pass.Tracks (s : Selector) (p : Pass) : Prop where
  synced : p.sel.Synced
  old : ∀ fd item, p.sel.registered fd = some item → fd ∉ p.again →
    ∃ before, s.registered fd = some before ∧ before.handler = item.handler ∧ before.data = item.data
  made : ∀ d ∈ p.made, d.again = false → d.Belongs s

theorem call_tracks (tracks : p.Tracks s) (call : SelectorCall) : (p.call call).Tracks s := by
  obtain ⟨synced,old,made⟩ := tracks
  cases call with
  | register fd handler interest data =>
      refine ⟨register_synced synced fd handler interest data,?_,made⟩
      intro other item found away
      unfold Pass.call at found away
      dsimp only at found away
      rcases @register_parts p.sel fd interest synced.roomy handler data with ⟨taken,_⟩ | ⟨refused,same⟩
      · rw [if_pos taken,List.mem_cons,not_or] at away
        rcases register_registered found with before | ⟨equal,_⟩
        · exact old other item before away.2
        · exact absurd equal away.1
      · rw [if_neg refused] at away
        rw [same] at found
        exact old other item found away
  | setInterest fd interest =>
      refine ⟨setInterest_synced synced fd interest,?_,made⟩
      intro other item found away
      unfold Pass.call at found
      dsimp only at found
      rw [setInterest_registered] at found
      split at found
      · rename_i equal
        obtain ⟨before,held,rfl⟩ := Option.map_eq_some_iff.mp found
        exact old other before (by rw [equal]; exact held) away
      · exact old other item found away
  | unregister fd =>
      refine ⟨unregister_synced synced fd,?_,made⟩
      intro other item found away
      unfold Pass.call at found
      dsimp only at found
      rw [unregister_registered] at found
      split at found
      · cases found
      · exact old other item found away

theorem calls_tracks (calls : List SelectorCall) (tracks : p.Tracks s) : (calls.foldl Pass.call p).Tracks s := by
  induction calls generalizing p with
  | nil => exact tracks
  | cons call rest ih => exact ih (call_tracks tracks call)

theorem calls_grow (calls : List SelectorCall) (p : Pass) :
    (calls.foldl Pass.call p).made = p.made ∧ ∀ fd ∈ p.again, fd ∈ (calls.foldl Pass.call p).again := by
  induction calls generalizing p with
  | nil => exact ⟨rfl,fun _ member => member⟩
  | cons call rest ih =>
      obtain ⟨made,grown⟩ := ih (p.call call)
      cases call with
      | register fd handler interest data =>
          refine ⟨made,fun other member => grown other ?_⟩
          unfold Pass.call
          dsimp only
          split
          · exact List.mem_cons_of_mem fd member
          · exact member
      | setInterest fd interest => exact ⟨made,grown⟩
      | unregister fd => exact ⟨made,grown⟩

theorem offer_cases (respond : Behaviour) (kind : EventKind) (bit : Bool) (i : Nat) (key : Item) (p : Pass) :
    (p.offer respond kind bit i key).made = p.made ∧ (p.offer respond kind bit i key).sel = p.sel ∧
      (p.offer respond kind bit i key).again = p.again ∧ (p.aborted = false → bit = true →
        kind.wants (p.sel.item i).interest = true → (p.sel.item i).handler.filter (·.handles kind) = none) ∨
    ∃ handler, p.aborted = false ∧ bit = true ∧ kind.wants (p.sel.item i).interest = true ∧
      (p.sel.item i).handler.filter (·.handles kind) = some handler ∧
      p.offer respond kind bit i key = p.dispatch respond ⟨kind,key.fd,key.data,handler,decide (key.fd ∈ p.again)⟩ := by
  unfold Pass.offer
  dsimp only
  split
  · rename_i asked
    obtain ⟨running,asked⟩ := Bool.and_eq_true_iff.mp asked
    obtain ⟨bit,wants⟩ := Bool.and_eq_true_iff.mp asked
    cases callee : (p.sel.item i).handler.filter (·.handles kind) with
    | some handler => exact .inr ⟨handler,by simpa using running,bit,wants,rfl,rfl⟩
    | none => exact .inl ⟨rfl,rfl,rfl,fun _ _ _ => rfl⟩
  · rename_i unasked
    refine .inl ⟨rfl,rfl,rfl,fun running bit wants => ?_⟩
    rw [running,bit,wants] at unasked
    exact absurd rfl unasked

theorem offer_tracks (start : s.Synced) (tracks : p.Tracks s) (within : bit = true → s.master kind i = true)
    (number : key.fd = i)
    (owner : (i : Int) ∉ p.again → ∃ before, s.registered i = some before ∧ before.data = key.data) :
    (p.offer respond kind bit i key).Tracks s := by
  rcases offer_cases respond kind bit i key p with ⟨made,sel,again,_⟩ | ⟨handler,_,bit,wants,callee,called⟩
  · refine ⟨by rw [sel]; exact tracks.synced,?_,by rw [made]; exact tracks.made⟩
    rw [sel,again]
    exact tracks.old
  · rw [called]
    refine calls_tracks _ ⟨tracks.synced,tracks.old,?_⟩
    intro d member old
    rcases List.mem_append.mp member with earlier | new
    · exact tracks.made d earlier old
    · cases List.mem_singleton.mp new
      refine ⟨old,?_⟩
      have away : (i : Int) ∉ p.again := by
        rw [← number]
        exact of_decide_eq_false old
      have found := used_registered tracks.synced (tracks.synced.idle kind i wants)
      obtain ⟨before,held,table,_⟩ := tracks.old i _ found away
      obtain ⟨same,owned,data⟩ := owner away
      cases held.symm.trans owned
      have asked := start.asked kind i (within bit)
      cases (used_registered start (start.idle kind i asked)).symm.trans held
      exact ⟨_,by rw [number]; exact held,asked,table.trans (Option.filter_eq_some_iff.mp callee).1,data⟩

theorem offer_grows (fd : Int) (member : fd ∈ p.again) : fd ∈ (p.offer respond kind bit i key).again := by
  rcases offer_cases respond kind bit i key p with ⟨_,_,again,_⟩ | ⟨handler,_,_,_,_,called⟩
  · rw [again]
    exact member
  · rw [called]
    exact (calls_grow _ _).2 fd member

theorem turn_cases (synced : p.sel.Synced) :
    p.turn respond ready i = p ∧ (p.sel.item i).used = false ∨
    (p.sel.item i).used = true ∧ (p.sel.item i).fd = i ∧ p.turn respond ready i =
      (p.offer respond .read (ready.slaveR i) i (p.sel.item i)).offer respond .write (ready.slaveW i) i (p.sel.item i) := by
  unfold Pass.turn
  dsimp only
  split
  · rename_i used
    have number := (synced.numbered i used).2
    refine .inr ⟨used,number,?_⟩
    rw [number,Int.toNat_natCast]
  · rename_i unused
    exact .inl ⟨rfl,by simpa using unused⟩

theorem turn_tracks (start : s.Synced) (within : ready.Within s) (tracks : p.Tracks s) (respond : Behaviour) (i : Nat) :
    (p.turn respond ready i).Tracks s := by
  rcases @turn_cases i respond ready p tracks.synced with ⟨same,_⟩ | ⟨used,number,both⟩
  · rw [same]
    exact tracks
  · have owner : (i : Int) ∉ p.again → ∃ before, s.registered i = some before ∧ before.data = (p.sel.item i).data := by
      intro away
      obtain ⟨before,held,_,data⟩ := tracks.old i _ (used_registered tracks.synced used) away
      exact ⟨before,held,data⟩
    rw [both]
    refine offer_tracks start (offer_tracks start tracks (within .read i) number owner) (within .write i) number ?_
    exact fun away => owner fun member => away (offer_grows _ member)

theorem passTo_tracks (start : s.Synced) (within : ready.Within s) (respond : Behaviour) (n : Nat) :
    (passTo respond ready s n).Tracks s := by
  induction n with
  | zero => exact ⟨start,fun _ item found _ => ⟨item,found,rfl,rfl⟩,fun _ member => by cases member⟩
  | succ n ih => exact turn_tracks start within ih respond n

theorem offer_exact (number : key.fd = i) :
    (∀ d ∈ (p.offer respond kind bit i key).made, d.again = false) ↔
      (∀ d ∈ p.made, d.again = false) ∧ p.plain kind bit i := by
  rcases offer_cases respond kind bit i key p with ⟨same,_,_,silent⟩ | ⟨handler,running,set,wants,callee,called⟩
  · rw [same]
    exact ⟨fun old => ⟨old,fun _ => silent⟩,And.left⟩
  · have made : (p.offer respond kind bit i key).made =
        p.made ++ [⟨kind,key.fd,key.data,handler,decide (key.fd ∈ p.again)⟩] := by
      rw [called]
      exact (calls_grow _ _).1
    rw [made]
    constructor
    · intro old
      refine ⟨fun d member => old d (List.mem_append_left _ member),?_⟩
      intro member
      have last := old _ (List.mem_append_right _ List.mem_cons_self)
      exact absurd (number ▸ member) (of_decide_eq_false last)
    · rintro ⟨old,plain⟩ d member
      rcases List.mem_append.mp member with earlier | new
      · exact old d earlier
      · cases List.mem_singleton.mp new
        refine decide_eq_false ?_
        intro again
        rw [plain (number ▸ again) running set wants] at callee
        cases callee

theorem turn_exact (synced : p.sel.Synced) : (∀ d ∈ (p.turn respond ready i).made, d.again = false) ↔
    (∀ d ∈ p.made, d.again = false) ∧ p.unmixed respond ready i := by
  unfold Pass.unmixed
  rcases @turn_cases i respond ready p synced with ⟨same,unused⟩ | ⟨used,number,both⟩
  · rw [same,unused]
    simp
  · rw [both,offer_exact number,offer_exact number,and_assoc]
    exact and_congr_right fun _ => ⟨fun plain _ => plain,fun plain => plain used⟩

theorem passTo_exact (start : s.Synced) (within : ready.Within s) (n : Nat) :
    (∀ d ∈ (passTo respond ready s n).made, d.again = false) ↔
      ∀ i < n, (passTo respond ready s i).unmixed respond ready i := by
  induction n with
  | zero => exact ⟨fun _ i below => absurd below (Nat.not_lt_zero i),fun _ d member => by cases member⟩
  | succ n ih =>
      refine (turn_exact (passTo_tracks start within respond n).synced).trans ?_
      rw [ih]
      constructor
      · rintro ⟨earlier,last⟩ i below
        rcases Nat.lt_succ_iff_lt_or_eq.mp below with less | rfl
        · exact earlier i less
        · exact last
      · intro all
        exact ⟨fun i below => all i (Nat.lt_succ_of_lt below),all n (Nat.lt_succ_self n)⟩

theorem unmixed_belong {n : Nat} (start : s.Synced) (within : ready.Within s)
    (unmixed : ∀ i < n, (passTo respond ready s i).unmixed respond ready i) :
    ∀ d ∈ (passTo respond ready s n).made, d.Belongs s := by
  intro d member
  have old := (passTo_exact start within n).mpr unmixed d member
  exact (passTo_tracks start within respond n).made d member old

theorem unmixed_exact (start : s.Synced) (within : ready.Within s) :
    (∀ d ∈ (handleIteration respond ready s).made, d.Belongs s) ↔
      ∀ i ≤ s.maxFd, (passTo respond ready s i).unmixed respond ready i := by
  constructor
  · intro belong i below
    refine (passTo_exact start within (s.maxFd+1)).mp ?_ i (Nat.lt_succ_of_le below)
    exact fun d member => (belong d member).old
  · intro unmixed
    exact unmixed_belong start within fun i below => unmixed i (Nat.le_of_lt_succ below)

def SelectorCall.takes : SelectorCall → Option Int
  | .register fd _ _ _ => some fd
  | _ => none

theorem calls_taken (calls : List SelectorCall) (p : Pass) (fd : Int) (member : fd ∈ (calls.foldl Pass.call p).again) :
    fd ∈ p.again ∨ ∃ call ∈ calls, call.takes = some fd := by
  induction calls generalizing p with
  | nil => exact .inl member
  | cons call rest ih =>
      rcases ih (p.call call) member with before | ⟨later,inside,took⟩
      · cases call with
        | register number handler interest data =>
            unfold Pass.call at before
            dsimp only at before
            split at before
            · rcases List.mem_cons.mp before with same | old
              · exact .inr ⟨_,List.mem_cons_self,congrArg some same.symm⟩
              · exact .inl old
            · exact .inl before
        | setInterest number interest => exact .inl before
        | unregister number => exact .inl before
      · exact .inr ⟨later,List.mem_cons_of_mem call inside,took⟩

def SelectorCall.spares (ready : ReadySets) (call : SelectorCall) : Prop :=
  ∀ fd, call.takes = some fd → ∀ kind, ready.bit kind fd.toNat = false

def Pass.Unreported (ready : ReadySets) (p : Pass) : Prop :=
  ∀ fd ∈ p.again, ∀ kind, ready.bit kind fd.toNat = false

theorem unreported_plain (unreported : p.Unreported ready) (kind : EventKind) (i : Nat) :
    p.plain kind (ready.bit kind i) i := by
  intro member _ reported
  have silent := unreported i member kind
  rw [Int.toNat_natCast,reported] at silent
  cases silent

theorem offer_unreported (spares : ∀ history, ∀ call ∈ respond history, call.spares ready)
    (unreported : p.Unreported ready) : (p.offer respond kind bit i key).Unreported ready := by
  intro fd member
  rcases offer_cases respond kind bit i key p with ⟨_,_,again,_⟩ | ⟨handler,_,_,_,_,called⟩
  · rw [again] at member
    exact unreported fd member
  · rw [called] at member
    rcases calls_taken _ _ fd member with old | ⟨call,inside,took⟩
    · exact unreported fd old
    · exact spares _ call inside fd took

theorem unreported_unmixed (start : s.Synced) (within : ready.Within s)
    (spares : ∀ history, ∀ call ∈ respond history, call.spares ready) (n : Nat) :
    (passTo respond ready s n).Unreported ready ∧ (passTo respond ready s n).unmixed respond ready n := by
  have kept : (passTo respond ready s n).Unreported ready := by
    induction n with
    | zero => exact fun _ member => by cases member
    | succ n ih =>
        rcases @turn_cases n respond ready _ (passTo_tracks start within respond n).synced with ⟨same,_⟩ | ⟨_,_,both⟩
        · rw [passTo,same]
          exact ih
        · rw [passTo,both]
          exact offer_unreported spares (offer_unreported spares ih)
  refine ⟨kept,fun _ => ⟨unreported_plain kept .read n,?_⟩⟩
  exact unreported_plain (offer_unreported spares kept) .write n

theorem unreported_belong (start : s.Synced) (within : ready.Within s)
    (spares : ∀ history, ∀ call ∈ respond history, call.spares ready) :
    ∀ d ∈ (handleIteration respond ready s).made, d.Belongs s :=
  unmixed_belong start within fun i _ => (unreported_unmixed start within spares i).2

-- Two connections in REQ_READ on 6 and 7, and one between 5 and 8 that is about to end.
def crowdedSelector : Selector :=
  [SelectorCall.register 5 (some .connActions) opRead (some 1),.register 6 (some .connActions) opRead (some 2),
    .register 7 (some .connActions) opRead (some 3),.register 8 (some .connActions) opWrite (some 1)].foldl
    (fun s call => (s.call call).2) mainSelector

def crowdedSets : ReadySets := ⟨fun fd => decide (fd ∈ [5,6,7]),fun fd => decide (fd = 8)⟩

theorem crowdedSets_within : crowdedSets.Within crowdedSelector := by
  intro kind i reported
  cases kind with
  | read =>
      have member : i ∈ [5,6,7] := of_decide_eq_true reported
      simp only [List.mem_cons,List.not_mem_nil,or_false] at member
      rcases member with rfl | rfl | rfl
      · decide +kernel
      · decide +kernel
      · decide +kernel
  | write =>
      have same : i = 8 := of_decide_eq_true reported
      subst same
      decide +kernel
  | block => cases reported

-- The first connection ends and closes 8 and 5. The next two connect to their origins: their
-- sockets get the numbers 5 and 8 and wait for a connect to finish.
def crowdedBehaviour : Behaviour := fun history => match history.length with
  | 1 => [.unregister 8,.unregister 5]
  | 2 => [.setInterest 6 opNoop,.register 5 (some .connActions) opWrite (some 2)]
  | 3 => [.setInterest 7 opNoop,.register 8 (some .connActions) opWrite (some 3)]
  | _ => []

end Socks5d
