import Socks5d.PassOrder

namespace Socks5d

def afterCalls (s : Selector) (calls : List SelectorCall) : Selector := calls.foldl (fun s call => (s.call call).2) s

-- The numbers that selector_register takes in these calls.
def renewed : Selector → List SelectorCall → List Int
  | _,[] => []
  | s,call::rest => (if (s.call call).1 = .success then call.takes.toList else []) ++ renewed (s.call call).2 rest

def handlerCalls (respond : Behaviour) (made : List Dispatch) : List SelectorCall := made.inits.tail.flatMap respond

-- The handlers that are called before the loop comes to `kind` and `fd`.
def calledBefore (respond : Behaviour) (made : List Dispatch) (kind : EventKind) (fd : Int) : List SelectorCall :=
  handlerCalls respond (made.filter fun d => decide (d.Before kind fd))

def LeftAsking (respond : Behaviour) (ready : ReadySets) (s : Selector) (made : List Dispatch) (kind : EventKind)
    (fd : Int) (item : Item) : Prop :=
  ready.bit kind fd.toNat = true ∧ (afterCalls s (calledBefore respond made kind fd)).registered fd = some item ∧
    kind.wants item.interest = true

-- One of them has registered the number anew, with a callback for the event.
def Mixes (respond : Behaviour) (ready : ReadySets) (s : Selector) (made : List Dispatch) (kind : EventKind)
    (fd : Int) : Prop :=
  fd ∈ renewed s (calledBefore respond made kind fd) ∧ ∃ item handler,
    LeftAsking respond ready s made kind fd item ∧ item.handler.filter (·.handles kind) = some handler

def Asserts (respond : Behaviour) (ready : ReadySets) (s : Selector) (made : List Dispatch) (kind : EventKind)
    (fd : Int) : Prop :=
  ∃ item, LeftAsking respond ready s made kind fd item ∧ item.handler.filter (·.handles kind) = none

def AssertsBefore (respond : Behaviour) (ready : ReadySets) (s : Selector) (made : List Dispatch) (kind : EventKind)
    (fd : Int) : Prop :=
  (∃ earlier, ∃ j : Nat, (j : Int) < fd ∧ Asserts respond ready s made earlier j) ∨
    kind = .write ∧ Asserts respond ready s made .read fd

variable {s : Selector} {n i m : Nat} {fd : Int} {kind : EventKind} {item key : Item} {respond : Behaviour}
  {ready : ReadySets} {p : Pass} {bit : Bool} {made : List Dispatch} {calls : List SelectorCall}

theorem afterCalls_append (s : Selector) (calls later : List SelectorCall) :
    afterCalls s (calls ++ later) = afterCalls (afterCalls s calls) later := List.foldl_append ..

theorem renewed_append (s : Selector) (calls later : List SelectorCall) :
    renewed s (calls ++ later) = renewed s calls ++ renewed (afterCalls s calls) later := by
  induction calls generalizing s with
  | nil => rfl
  | cons call rest ih =>
      rw [List.cons_append,renewed,renewed,ih,List.append_assoc]
      rfl

theorem handlerCalls_concat (respond : Behaviour) (made : List Dispatch) (d : Dispatch) :
    handlerCalls respond (made ++ [d]) = handlerCalls respond made ++ respond (made ++ [d]) := by
  have some_ : made.inits ≠ [] := by
    cases made <;> simp
  unfold handlerCalls
  rw [List.inits_append,List.tail_append_of_ne_nil some_,List.flatMap_append]
  simp

structure Pass.Told (respond : Behaviour) (s : Selector) (p : Pass) : Prop where
  sel : p.sel = afterCalls s (handlerCalls respond p.made)
  again : ∀ fd, fd ∈ p.again ↔ fd ∈ renewed s (handlerCalls respond p.made)

theorem call_told (p : Pass) (call : SelectorCall) : (p.call call).sel = (p.sel.call call).2 ∧
    ∀ fd, fd ∈ (p.call call).again ↔ fd ∈ p.again ∨ fd ∈ if (p.sel.call call).1 = .success then call.takes.toList else [] := by
  cases call with
  | register number handler interest data =>
      refine ⟨rfl,fun fd => ?_⟩
      change fd ∈ (if (selectorRegister p.sel number handler interest data).1 = .success then number::p.again else p.again) ↔
        fd ∈ p.again ∨ fd ∈ if (selectorRegister p.sel number handler interest data).1 = .success then [number] else []
      split
      · rw [List.mem_cons,List.mem_singleton,or_comm]
      · simp
  | setInterest number interest => exact ⟨rfl,fun fd => by simp [SelectorCall.takes,Pass.call]⟩
  | unregister number => exact ⟨rfl,fun fd => by simp [SelectorCall.takes,Pass.call]⟩

theorem calls_told (calls : List SelectorCall) (p : Pass) : (calls.foldl Pass.call p).sel = afterCalls p.sel calls ∧
    ∀ fd, fd ∈ (calls.foldl Pass.call p).again ↔ fd ∈ p.again ∨ fd ∈ renewed p.sel calls := by
  induction calls generalizing p with
  | nil => exact ⟨rfl,fun fd => by simp [renewed]⟩
  | cons call rest ih =>
      obtain ⟨sel,again⟩ := call_told p call
      obtain ⟨last,all⟩ := ih (p.call call)
      rw [sel] at last all
      refine ⟨last,fun fd => ?_⟩
      rw [List.foldl_cons,all,again,renewed,List.mem_append,or_assoc]

theorem offer_told (told : p.Told respond s) : (p.offer respond kind bit i key).Told respond s := by
  rcases offer_cases respond kind bit i key p with ⟨same,sel,again,_⟩ | ⟨handler,_,_,_,_,called⟩
  · exact ⟨by rw [sel,same]; exact told.sel,by rw [again,same]; exact told.again⟩
  · rw [called]
    have made := dispatch_made respond p ⟨kind,key.fd,key.data,handler,decide (key.fd ∈ p.again)⟩
    obtain ⟨sel,again⟩ := calls_told (respond (p.made ++ [⟨kind,key.fd,key.data,handler,decide (key.fd ∈ p.again)⟩]))
      {p with made:=p.made ++ [⟨kind,key.fd,key.data,handler,decide (key.fd ∈ p.again)⟩]}
    constructor
    · rw [made,handlerCalls_concat,afterCalls_append,← told.sel]
      exact sel
    · intro fd
      rw [made,handlerCalls_concat,renewed_append,← told.sel,List.mem_append,← told.again]
      exact again fd

theorem turn_told (told : p.Told respond s) : (p.turn respond ready i).Told respond s := by
  unfold Pass.turn
  dsimp only
  split
  · exact offer_told (offer_told told)
  · exact told

theorem passTo_told (respond : Behaviour) (ready : ReadySets) (s : Selector) (n : Nat) :
    (passTo respond ready s n).Told respond s := by
  induction n with
  | zero => exact ⟨rfl,fun fd => Iff.rfl⟩
  | succ n ih => exact turn_told ih

def Pass.half (respond : Behaviour) (ready : ReadySets) (i : Nat) (p : Pass) : Pass :=
  if (p.sel.item i).used then p.offer respond .read (ready.slaveR i) i (p.sel.item i) else p

theorem offer_later (number : key.fd = i) : ∃ later, (p.offer respond kind bit i key).made = p.made ++ later ∧
    ∀ d ∈ later, d.fd = i ∧ d.kind = kind := by
  rcases offer_cases respond kind bit i key p with ⟨same,_⟩ | ⟨handler,_,_,_,_,called⟩
  · exact ⟨[],by rw [same,List.append_nil],fun _ member => absurd member List.not_mem_nil⟩
  · refine ⟨[_],by rw [called,dispatch_made],?_⟩
    intro d member
    rw [List.mem_singleton.mp member]
    exact ⟨number,rfl⟩

theorem half_later (synced : p.sel.Synced) : ∃ later, (p.half respond ready i).made = p.made ++ later ∧
    ∀ d ∈ later, d.fd = i ∧ d.kind = .read := by
  unfold Pass.half
  split
  · rename_i used
    exact offer_later (synced.numbered i used).2
  · exact ⟨[],(List.append_nil _).symm,fun _ member => absurd member List.not_mem_nil⟩

theorem turn_later (synced : p.sel.Synced) : ∃ later, (p.turn respond ready i).made = (p.half respond ready i).made ++ later ∧
    ∀ d ∈ later, d.fd = i ∧ d.kind = .write := by
  unfold Pass.half
  rcases @turn_cases i respond ready p synced with ⟨same,unused⟩ | ⟨used,number,both⟩
  · rw [same,unused]
    exact ⟨[],(List.append_nil _).symm,fun _ member => absurd member List.not_mem_nil⟩
  · rw [both,if_pos used]
    exact offer_later number

theorem passTo_later (start : s.Synced) (within : ready.Within s) (respond : Behaviour) (below : n ≤ m) :
    ∃ later, (passTo respond ready s m).made = (passTo respond ready s n).made ++ later ∧ ∀ d ∈ later, (n : Int) ≤ d.fd := by
  induction below with
  | refl => exact ⟨[],(List.append_nil _).symm,fun _ member => absurd member List.not_mem_nil⟩
  | @step m below ih =>
      have below : n ≤ m := below
      have synced := (passTo_tracks start within respond m).synced
      obtain ⟨earlier,front,high⟩ := ih
      obtain ⟨reads,half,read⟩ := @half_later m respond ready _ synced
      obtain ⟨writes,whole,write⟩ := @turn_later m respond ready _ synced
      refine ⟨earlier ++ reads ++ writes,?_,?_⟩
      · rw [passTo,whole,half,front]
        simp only [List.append_assoc]
      · intro d member
        rcases List.mem_append.mp member with member | last
        · rcases List.mem_append.mp member with member | next
          · exact high d member
          · rw [(read d next).1]
            exact Int.ofNat_le.mpr below
        · rw [(write d last).1]
          exact Int.ofNat_le.mpr below

theorem filter_front {front back : List Dispatch} (before : ∀ d ∈ front, d.Before kind fd)
    (after : ∀ d ∈ back, ¬ d.Before kind fd) :
    (front ++ back).filter (fun d => decide (d.Before kind fd)) = front := by
  rw [List.filter_append,List.filter_eq_self.mpr (by simpa using before),List.filter_eq_nil_iff.mpr (by simpa using after),
    List.append_nil]

theorem called_read (start : s.Synced) (within : ready.Within s) (below : i ≤ m) :
    (passTo respond ready s m).made.filter (fun d => decide (d.Before .read i)) = (passTo respond ready s i).made := by
  obtain ⟨later,split,high⟩ := passTo_later start within respond below
  rw [split]
  refine filter_front (passTo_sorted start within respond i).front ?_
  rintro d member (less | ⟨_,_,wrong⟩)
  · exact absurd (high d member) (by omega)
  · cases wrong

theorem called_write (start : s.Synced) (within : ready.Within s) (below : i < m) :
    (passTo respond ready s m).made.filter (fun d => decide (d.Before .write i)) =
      ((passTo respond ready s i).half respond ready i).made := by
  have synced := (passTo_tracks start within respond i).synced
  obtain ⟨later,split,high⟩ := passTo_later start within respond (Nat.succ_le_of_lt below)
  obtain ⟨reads,half,read⟩ := @half_later i respond ready _ synced
  obtain ⟨writes,whole,write⟩ := @turn_later i respond ready _ synced
  rw [split,passTo,whole,List.append_assoc]
  refine filter_front ?_ ?_
  · intro d member
    rw [half] at member
    rcases List.mem_append.mp member with earlier | new
    · exact before_write ((passTo_sorted start within respond i).front d earlier)
    · exact .inr ⟨(read d new).1,(read d new).2,rfl⟩
  · intro d member before
    rcases List.mem_append.mp member with last | next
    · obtain ⟨same,kind⟩ := write d last
      rcases before with less | ⟨_,read,_⟩
      · exact absurd less (by omega)
      · rw [kind] at read
        cases read
    · have bound := high d next
      rcases before with less | ⟨same,_⟩
      · omega
      · omega

theorem asking_entry (synced : p.sel.Synced) : p.sel.registered i = some item ∧ kind.wants item.interest = true ↔
    item = p.sel.item i ∧ kind.wants (p.sel.item i).interest = true := by
  constructor
  · rintro ⟨found,wants⟩
    obtain ⟨_,_,stored,_⟩ := registered_parts found
    rw [Int.toNat_natCast] at stored
    subst stored
    exact ⟨rfl,wants⟩
  · rintro ⟨rfl,wants⟩
    exact ⟨used_registered synced (synced.idle kind i wants),wants⟩

structure Pass.At (respond : Behaviour) (s : Selector) (made : List Dispatch) (kind : EventKind) (i : Nat) (p : Pass) :
    Prop where
  told : p.Told respond s
  synced : p.sel.Synced
  called : made.filter (fun d => decide (d.Before kind i)) = p.made

theorem at_asking (here : p.At respond s made kind i) : LeftAsking respond ready s made kind i item ↔
    ready.bit kind i = true ∧ item = p.sel.item i ∧ kind.wants (p.sel.item i).interest = true := by
  unfold LeftAsking calledBefore
  rw [here.called,← here.told.sel,Int.toNat_natCast,asking_entry here.synced]

theorem at_mixes (here : p.At respond s made kind i) : Mixes respond ready s made kind i ↔ (i : Int) ∈ p.again ∧
    ready.bit kind i = true ∧ kind.wants (p.sel.item i).interest = true ∧
    (p.sel.item i).handler.filter (·.handles kind) ≠ none := by
  have again : (i : Int) ∈ renewed s (calledBefore respond made kind i) ↔ (i : Int) ∈ p.again := by
    unfold calledBefore
    rw [here.called]
    exact (here.told.again i).symm
  unfold Mixes
  rw [again]
  refine and_congr_right fun _ => ?_
  constructor
  · rintro ⟨item,handler,asking,callee⟩
    obtain ⟨reported,rfl,wants⟩ := (at_asking here).mp asking
    exact ⟨reported,wants,by rw [callee]; simp⟩
  · rintro ⟨reported,wants,callee⟩
    obtain ⟨handler,callee⟩ := Option.ne_none_iff_exists'.mp callee
    exact ⟨_,handler,(at_asking here).mpr ⟨reported,rfl,wants⟩,callee⟩

theorem at_asserts (here : p.At respond s made kind i) : Asserts respond ready s made kind i ↔
    ready.bit kind i = true ∧ kind.wants (p.sel.item i).interest = true ∧
    (p.sel.item i).handler.filter (·.handles kind) = none := by
  constructor
  · rintro ⟨item,asking,callee⟩
    obtain ⟨reported,rfl,wants⟩ := (at_asking here).mp asking
    exact ⟨reported,wants,callee⟩
  · rintro ⟨reported,wants,callee⟩
    exact ⟨_,(at_asking here).mpr ⟨reported,rfl,wants⟩,callee⟩

theorem offer_aborted : (p.offer respond kind bit i key).aborted = true ↔ p.aborted = true ∨ bit = true ∧
    kind.wants (p.sel.item i).interest = true ∧ (p.sel.item i).handler.filter (·.handles kind) = none := by
  unfold Pass.offer
  dsimp only
  split
  · rename_i asked
    obtain ⟨running,asked⟩ := Bool.and_eq_true_iff.mp asked
    obtain ⟨set,wants⟩ := Bool.and_eq_true_iff.mp asked
    have going : p.aborted ≠ true := by simpa using running
    cases callee : (p.sel.item i).handler.filter (·.handles kind) with
    | some handler =>
        have kept : (p.dispatch respond ⟨kind,key.fd,key.data,handler,decide (key.fd ∈ p.again)⟩).aborted = p.aborted :=
          calls_aborted _ _
        simp [kept,going]
    | none => simp [set,wants]
  · rename_i unasked
    constructor
    · exact .inl
    · rintro (aborted | ⟨set,wants,_⟩)
      · exact aborted
      · rw [set,wants] at unasked
        simpa using unasked

theorem half_synced (synced : p.sel.Synced) : (p.half respond ready i).sel.Synced := by
  unfold Pass.half
  split
  · exact offer_synced synced
  · exact synced

theorem half_told (told : p.Told respond s) : (p.half respond ready i).Told respond s := by
  unfold Pass.half
  split
  · exact offer_told told
  · exact told

theorem reads_at (start : s.Synced) (within : ready.Within s) (respond : Behaviour) (below : i ≤ m) :
    (passTo respond ready s i).At respond s (passTo respond ready s m).made .read i :=
  ⟨passTo_told respond ready s i,(passTo_tracks start within respond i).synced,called_read start within below⟩

theorem writes_at (start : s.Synced) (within : ready.Within s) (respond : Behaviour) (below : i < m) :
    ((passTo respond ready s i).half respond ready i).At respond s (passTo respond ready s m).made .write i :=
  ⟨half_told (passTo_told respond ready s i),half_synced (passTo_tracks start within respond i).synced,
    called_write start within below⟩

theorem unused_silent (here : p.At respond s made kind i) (unused : (p.sel.item i).used = false) :
    ¬ kind.wants (p.sel.item i).interest = true := by
  intro wants
  rw [here.synced.idle kind i wants] at unused
  cases unused

theorem half_aborted (here : p.At respond s made .read i) :
    (p.half respond ready i).aborted = true ↔ p.aborted = true ∨ Asserts respond ready s made .read i := by
  rw [at_asserts here]
  unfold Pass.half
  split
  · exact offer_aborted
  · rename_i unused
    have silent := unused_silent here (by simpa using unused)
    exact ⟨.inl,fun either => either.elim id fun asserts => absurd asserts.2.1 silent⟩

theorem turn_aborted (synced : p.sel.Synced) (here : (p.half respond ready i).At respond s made .write i) :
    (p.turn respond ready i).aborted = true ↔
      (p.half respond ready i).aborted = true ∨ Asserts respond ready s made .write i := by
  rw [at_asserts here]
  rcases @turn_cases i respond ready p synced with ⟨same,unused⟩ | ⟨used,_,both⟩
  · have half : p.half respond ready i = p := by
      rw [Pass.half,unused]
      rfl
    rw [half] at here ⊢
    have silent := unused_silent here unused
    rw [same]
    exact ⟨.inl,fun either => either.elim id fun asserts => absurd asserts.2.1 silent⟩
  · have half : p.half respond ready i = p.offer respond .read (ready.slaveR i) i (p.sel.item i) := by
      rw [Pass.half,if_pos used]
    rw [both,half]
    exact offer_aborted

theorem passTo_aborted (start : s.Synced) (within : ready.Within s) (respond : Behaviour) (below : n ≤ m) :
    (passTo respond ready s n).aborted = true ↔
      ∃ kind, ∃ j < n, Asserts respond ready s (passTo respond ready s m).made kind j := by
  induction n with
  | zero => exact ⟨fun wrong => (by cases wrong),fun ⟨_,_,less,_⟩ => absurd less (Nat.not_lt_zero _)⟩
  | succ n ih =>
      have synced := (passTo_tracks start within respond n).synced
      rw [passTo,turn_aborted synced (writes_at start within respond below),
        half_aborted (reads_at start within respond (Nat.le_of_lt below)),ih (Nat.le_of_lt below)]
      constructor
      · rintro ((⟨kind,j,less,asserts⟩ | read) | write)
        · exact ⟨kind,j,Nat.lt_succ_of_lt less,asserts⟩
        · exact ⟨.read,n,Nat.lt_succ_self n,read⟩
        · exact ⟨.write,n,Nat.lt_succ_self n,write⟩
      · rintro ⟨kind,j,less,asserts⟩
        rcases Nat.lt_succ_iff_lt_or_eq.mp less with less | rfl
        · exact .inl (.inl ⟨kind,j,less,asserts⟩)
        · cases kind with
          | read => exact .inl (.inr asserts)
          | write => exact .inr asserts
          | block =>
              obtain ⟨_,⟨reported,_⟩,_⟩ := asserts
              cases reported

theorem plain_exact (here : p.At respond s made kind i) :
    p.plain kind (ready.bit kind i) i ↔ (Mixes respond ready s made kind i → p.aborted = true) := by
  rw [at_mixes here]
  unfold Pass.plain
  constructor
  · rintro plain ⟨again,reported,wants,callee⟩
    by_contra running
    exact callee (plain again (by simpa using running) reported wants)
  · intro mixes again running reported wants
    by_contra callee
    rw [mixes ⟨again,reported,wants,callee⟩] at running
    cases running

theorem asserts_before (start : s.Synced) (within : ready.Within s) (respond : Behaviour) (below : i < m) :
    ((passTo respond ready s i).aborted = true ↔
      AssertsBefore respond ready s (passTo respond ready s m).made .read i) ∧
    (((passTo respond ready s i).half respond ready i).aborted = true ↔
      AssertsBefore respond ready s (passTo respond ready s m).made .write i) := by
  have earlier : (passTo respond ready s i).aborted = true ↔
      ∃ kind, ∃ j : Nat, (j : Int) < i ∧ Asserts respond ready s (passTo respond ready s m).made kind j := by
    rw [passTo_aborted start within respond (Nat.le_of_lt below)]
    simp only [Int.ofNat_lt]
  constructor
  · rw [earlier]
    exact ⟨.inl,fun either => either.elim id fun wrong => (by cases wrong.1)⟩
  · rw [half_aborted (reads_at start within respond (Nat.le_of_lt below)),earlier]
    exact or_congr_right ⟨fun asserts => ⟨rfl,asserts⟩,And.right⟩

theorem unmixed_told (start : s.Synced) (within : ready.Within s) (respond : Behaviour) (below : i < m) :
    (passTo respond ready s i).unmixed respond ready i ↔ ∀ kind,
      Mixes respond ready s (passTo respond ready s m).made kind i →
      AssertsBefore respond ready s (passTo respond ready s m).made kind i := by
  have reads := reads_at start within respond (Nat.le_of_lt below)
  have writes := writes_at start within respond below
  obtain ⟨stopsRead,stopsWrite⟩ := asserts_before start within respond below
  have read := @plain_exact _ _ _ _ ready _ _ reads
  have write := @plain_exact _ _ _ _ ready _ _ writes
  rw [stopsRead] at read
  rw [stopsWrite] at write
  have both : (∀ kind, Mixes respond ready s (passTo respond ready s m).made kind i →
        AssertsBefore respond ready s (passTo respond ready s m).made kind i) ↔
      (passTo respond ready s i).plain .read (ready.bit .read i) i ∧
      ((passTo respond ready s i).half respond ready i).plain .write (ready.bit .write i) i := by
    rw [read,write]
    refine ⟨fun all => ⟨all .read,all .write⟩,fun ⟨first,second⟩ kind => ?_⟩
    cases kind with
    | read => exact first
    | write => exact second
    | block =>
        rintro ⟨_,_,_,⟨reported,_⟩,_⟩
        cases reported
  rw [both]
  unfold Pass.unmixed
  by_cases used : ((passTo respond ready s i).sel.item i).used = true
  · have half : (passTo respond ready s i).half respond ready i =
        (passTo respond ready s i).offer respond .read (ready.slaveR i) i ((passTo respond ready s i).sel.item i) := by
      rw [Pass.half,if_pos used]
    rw [half]
    exact ⟨fun plain => plain used,fun plain _ => plain⟩
  · have unused : ((passTo respond ready s i).sel.item i).used = false := by simpa using used
    have half : (passTo respond ready s i).half respond ready i = passTo respond ready s i := by
      rw [Pass.half,unused]
      rfl
    rw [half] at writes ⊢
    refine ⟨fun _ => ⟨fun _ _ _ wants => ?_,fun _ _ _ wants => ?_⟩,fun _ wrong => absurd wrong used⟩
    · exact absurd wants (unused_silent reads unused)
    · exact absurd wants (unused_silent writes unused)

theorem dispatches_belong_exact (start : s.Synced) (within : ready.Within s) (respond : Behaviour) :
    (∀ d ∈ (handleIteration respond ready s).made, d.Belongs s) ↔
      ∀ kind, ∀ i ≤ s.maxFd, Mixes respond ready s (handleIteration respond ready s).made kind i →
        AssertsBefore respond ready s (handleIteration respond ready s).made kind i := by
  rw [unmixed_exact start within]
  constructor
  · intro unmixed kind i below
    exact (unmixed_told start within respond (Nat.lt_succ_of_le below)).mp (unmixed i below) kind
  · intro told i below
    exact (unmixed_told start within respond (Nat.lt_succ_of_le below)).mpr fun kind => told kind i below

-- The third connection is told to write by what pselect reported of the first one's origin.
theorem stale_write_dispatched : crowdedSelector.Synced ∧ crowdedSets.Within crowdedSelector ∧
    (handleIteration crowdedBehaviour crowdedSets crowdedSelector).made =
      [⟨.read,5,some 1,.connActions,false⟩,⟨.read,6,some 2,.connActions,false⟩,⟨.read,7,some 3,.connActions,false⟩,
        ⟨.write,8,some 3,.connActions,true⟩] ∧
    ¬ ∀ d ∈ (handleIteration crowdedBehaviour crowdedSets crowdedSelector).made, d.Belongs crowdedSelector := by
  have made : (handleIteration crowdedBehaviour crowdedSets crowdedSelector).made =
      [⟨.read,5,some 1,.connActions,false⟩,⟨.read,6,some 2,.connActions,false⟩,⟨.read,7,some 3,.connActions,false⟩,
        ⟨.write,8,some 3,.connActions,true⟩] := by
    decide +kernel
  refine ⟨reached_synced _,crowdedSets_within,made,?_⟩
  intro belong
  have stale := belong ⟨.write,8,some 3,.connActions,true⟩ (by rw [made]; simp)
  cases stale.old

-- As in `crowdedBehaviour` the first connection ends, and the second connects from 5. The
-- third one's origin gets a number that nothing was reported of.
def tidyBehaviour : Behaviour := fun history => match history.length with
  | 1 => [.unregister 8,.unregister 5]
  | 2 => [.setInterest 6 opNoop,.register 5 (some .connActions) opWrite (some 2)]
  | 3 => [.setInterest 7 opNoop,.register 9 (some .connActions) opWrite (some 3)]
  | _ => []

theorem tidy_pass_belongs :
    (handleIteration tidyBehaviour crowdedSets crowdedSelector).made =
      [⟨.read,5,some 1,.connActions,false⟩,⟨.read,6,some 2,.connActions,false⟩,⟨.read,7,some 3,.connActions,false⟩] ∧
    renewed crowdedSelector (handlerCalls tidyBehaviour (handleIteration tidyBehaviour crowdedSets crowdedSelector).made) =
      [5,9] ∧
    ∀ d ∈ (handleIteration tidyBehaviour crowdedSets crowdedSelector).made, d.Belongs crowdedSelector := by
  have made : (handleIteration tidyBehaviour crowdedSets crowdedSelector).made =
      [⟨.read,5,some 1,.connActions,false⟩,⟨.read,6,some 2,.connActions,false⟩,⟨.read,7,some 3,.connActions,false⟩] := by
    decide +kernel
  have spared : ∀ kind ∈ [EventKind.read,.write], ∀ i ∈ [5,6,7,8], crowdedSets.bit kind i = true →
      (i : Int) ∉ renewed crowdedSelector (calledBefore tidyBehaviour
        [⟨.read,5,some 1,.connActions,false⟩,⟨.read,6,some 2,.connActions,false⟩,⟨.read,7,some 3,.connActions,false⟩]
        kind i) := by
    decide +kernel
  refine ⟨made,by rw [made]; decide +kernel,?_⟩
  refine (@dispatches_belong_exact crowdedSelector crowdedSets (reached_synced _) crowdedSets_within tidyBehaviour).mpr ?_
  rintro kind i _ ⟨again,_,_,⟨reported,_⟩,_⟩
  rw [made] at again
  rw [Int.toNat_natCast] at reported
  refine absurd again (spared kind ?_ i ?_ reported)
  · cases kind with
    | read => simp
    | write => simp
    | block => cases reported
  · cases kind with
    | read =>
        have member : i ∈ [5,6,7] := of_decide_eq_true reported
        exact List.mem_append_left [8] member
    | write =>
        have same : i = 8 := of_decide_eq_true reported
        simp [same]
    | block => cases reported

end Socks5d
