import Socks5d.SelectPass
import Socks5d.Foundations.Chain
import Socks5d.Foundations.Mailbox

namespace Socks5d
open Chains Mailboxes

-- struct blocking_job without the selector. The pointers are the numbers of blocks of malloc.
structure BlockingJob where
  fd : Int
  next : Option Nat
  deriving DecidableEq, Repr

inductive Note where
  | queued (id : Nat) (fd : Int)
  | began
  | visited (id : Nat) (fd : Int) (registered : Bool)
  | handleBlock (id : Nat) (fd : Int) (data : Option Nat)
  | ended
  deriving DecidableEq, Repr

-- `memory` is what the blocks hold, `live` which of them are allocated and `number` the job
-- that each was last used for. `cursor` is the variable j while handle_block_notifications
-- holds the mutex, and `crashed` says that it called a handle_block that is NULL.
structure Notifier where
  sel : Selector
  memory : Nat → BlockingJob
  live : Nat → Bool
  number : Nat → Nat
  resolutionJobs : Option Nat
  cursor : Option (Option Nat)
  nextId : Nat
  crashed : Bool
  trace : List Note

-- `notify` is a call of selector_notify_block by any thread once it has the mutex, with what
-- malloc answers it and the descriptor of its key. `visit` is one turn of the loop, with what
-- handle_block makes of the selector and what the block holds once it is freed, and
-- `elsewhere` the rest of the main loop.
inductive NotifierEvent where
  | notify (block : Option Nat) (fd : Int)
  | drain
  | visit (freed : BlockingJob) (after : Selector)
  | done
  | elsewhere (sel : Selector)

def selectorNotifyBlock (n : Notifier) (block : Option Nat) (fd : Int) : Notifier :=
  match block with
  | none => n
  | some job => {n with
      memory:=Function.update n.memory job ⟨fd,n.resolutionJobs⟩
      live:=Function.update n.live job true
      number:=Function.update n.number job n.nextId
      resolutionJobs:=some job
      nextId:=n.nextId+1
      trace:=n.trace ++ [.queued n.nextId fd]}

def offerJob (n : Notifier) (j : Nat) (after : Selector) : Notifier :=
  let fd := (n.memory j).fd
  match n.sel.registered fd with
  | none => {n with trace:=n.trace ++ [Note.visited (n.number j) fd false]}
  | some item =>
    if item.handler.any (·.handles .block) then {n with
      sel:=after
      trace:=n.trace ++ [Note.visited (n.number j) fd true,.handleBlock (n.number j) item.fd item.data]}
    else {n with crashed:=true,trace:=n.trace ++ [Note.visited (n.number j) fd true]}

-- free(j), and the `j = j->next` that comes behind it.
def visitJob (n : Notifier) (j : Nat) (freed : BlockingJob) (after : Selector) : Notifier :=
  let n := offerJob n j after
  if n.crashed then n
  else
    let n := {n with memory:=Function.update n.memory j freed,live:=Function.update n.live j false}
    {n with cursor:=some (n.memory j).next}

def Notifier.serve (n : Notifier) : NotifierEvent → Option Notifier
  | .notify block fd =>
    if n.cursor.isNone && !invalidFd fd && block.all (fun job => !n.live job) then some (selectorNotifyBlock n block fd)
    else none
  | .drain => if n.cursor.isNone then some {n with cursor:=some n.resolutionJobs,trace:=n.trace ++ [.began]} else none
  | .visit freed after => match n.cursor with
    | some (some j) => some (visitJob n j freed after)
    | _ => none
  | .done => match n.cursor with
    | some none => some {n with resolutionJobs:=none,cursor:=none,trace:=n.trace ++ [.ended]}
    | _ => none
  | .elsewhere sel => if n.cursor.isNone then some {n with sel:=sel} else none

def notifierStep (n : Notifier) (e : NotifierEvent) : Option Notifier := if n.crashed then none else n.serve e

def notifierStart (sel : Selector) (memory : Nat → BlockingJob) : Notifier :=
  ⟨sel,memory,fun _ => false,fun _ => 0,none,none,0,false,[]⟩

abbrev NotifierRuns := Transitions.Runs fun n e next => notifierStep n e = some next

-- The block that is freed still holds its `next` when the loop reads it, and the entry of
-- the job, if it is used, is one of a table that has a handle_block.
def Notifier.keeps (n : Notifier) : NotifierEvent → Bool
  | .visit freed _ => (n.cursor.getD none).all fun j => decide (freed.next = (n.memory j).next) &&
      (n.sel.registered (n.memory j).fd).all fun item => item.handler.any (·.handles .block)
  | _ => true

def keptStep (n : Notifier) (e : NotifierEvent) : Option Notifier := if n.keeps e then notifierStep n e else none

abbrev KeptRuns := Transitions.Runs fun n e next => keptStep n e = some next

def Note.act : Note → Option (Act (Nat × Int))
  | .queued id fd => some (.put (id,fd))
  | .began => some .start
  | .visited id fd _ => some (.take (id,fd))
  | .handleBlock _ _ _ => none
  | .ended => some .stop

def jobActs (trace : List Note) : List (Act (Nat × Int)) := trace.filterMap Note.act

def Note.due : Note → Option Nat
  | .visited id _ true => some id
  | _ => none

def Note.called : Note → Option Nat
  | .handleBlock id _ _ => some id
  | _ => none

def Notifier.link (n : Notifier) (block : Nat) : Option Nat := (n.memory block).next
def Notifier.job (n : Notifier) (block : Nat) : Nat × Int := (n.number block,(n.memory block).fd)

-- Every drain visits all the jobs queued before it, each once, and no job is visited twice;
-- handle_block is called for the visited jobs whose descriptor is registered, once for each;
-- and what was queued since the last drain is what resolution_jobs leads to.
structure Notifier.Delivers (n : Notifier) : Prop where
  drained : Emptied (jobActs n.trace)
  called : n.trace.filterMap Note.called = n.trace.filterMap Note.due
  once : (n.trace.filterMap Note.called).Nodup
  queued : n.cursor = none → ∃ blocks, Chain n.link n.resolutionJobs blocks ∧
    blocks.map n.job = waiting (jobActs n.trace)

structure Notifier.Holds (n : Notifier) (b : Box (Nat × Int)) : Prop where
  going : n.crashed = false
  trace : b.trace = jobActs n.trace
  called : n.trace.filterMap Note.called = n.trace.filterMap Note.due
  known : ∀ job ∈ puts b.trace, job.1 < n.nextId
  numbers : ((puts b.trace).map Prod.fst).Nodup
  phase : n.cursor.isSome = b.left.isSome
  blocks : ∃ blocks, Chain n.link (n.cursor.getD n.resolutionJobs) blocks ∧ blocks.Nodup ∧
    (∀ block ∈ blocks, n.live block = true) ∧ blocks.map n.job = b.left.getD b.waiting

variable {n next last : Notifier} {b : Box (Nat × Int)} {e : NotifierEvent} {sel : Selector} {memory : Nat → BlockingJob}
  {j : Nat} {freed : BlockingJob} {after : Selector} {fd : Int} {events : List NotifierEvent}

theorem jobActs_append (trace more : List Note) : jobActs (trace ++ more) = jobActs trace ++ jobActs more :=
  List.filterMap_append

theorem quiet_known {acts : List (Act (Nat × Int))} {act : Act (Nat × Int)} {bound : Nat}
    (known : ∀ job ∈ puts acts, job.1 < bound) (numbers : ((puts acts).map Prod.fst).Nodup) (quiet : act.putting = none) :
    (∀ job ∈ puts (acts ++ [act]), job.1 < bound) ∧ ((puts (acts ++ [act])).map Prod.fst).Nodup := by
  rw [puts_quiet quiet]
  exact ⟨known,numbers⟩

theorem notify_holds (holds : n.Holds b) (idle : n.cursor = none) (free : n.live j = false) (fd : Int) :
    ∃ box, Moves b (.put (n.nextId,fd)) box ∧ (selectorNotifyBlock n (some j) fd).Holds box := by
  obtain ⟨going,trace,called,known,numbers,phase,blocks,chain,once,live,same⟩ := holds
  obtain ⟨things,left,acts⟩ := b
  cases left with
  | some rest =>
      rw [idle] at phase
      cases phase
  | none =>
      have apart : j ∉ blocks := by
        intro member
        rw [live j member] at free
        cases free
      have fresh : (n.nextId,fd) ∉ puts acts := fun member => Nat.lt_irrefl _ (known _ member)
      refine ⟨_,.put fresh,going,?_,?_,?_,?_,phase,j::blocks,?_,List.nodup_cons.mpr ⟨apart,once⟩,?_,?_⟩
      · exact (congrArg (· ++ [Act.put (n.nextId,fd)]) trace).trans
          (jobActs_append n.trace [.queued n.nextId fd]).symm
      · unfold selectorNotifyBlock
        dsimp only
        rw [List.filterMap_append,List.filterMap_append,called]
        rfl
      · intro job member
        dsimp only at member
        rw [puts_snoc] at member
        rcases List.mem_append.mp member with old | new
        · exact Nat.lt_succ_of_lt (known job old)
        · rw [List.mem_singleton.mp new]
          exact Nat.lt_succ_self n.nextId
      · dsimp only
        rw [puts_snoc,List.map_append]
        apply numbers.append (List.nodup_singleton n.nextId)
        intro number old new
        obtain ⟨job,member,rfl⟩ := List.mem_map.mp old
        have below := known job member
        rw [List.mem_singleton.mp new] at below
        exact Nat.lt_irrefl n.nextId below
      · have pointer : Chain n.link n.resolutionJobs blocks := by
          rw [idle] at chain
          exact chain
        have head : (selectorNotifyBlock n (some j) fd).cursor.getD (some j) = some j := by
          rw [show (selectorNotifyBlock n (some j) fd).cursor = none from idle]
          rfl
        change Chain _ ((selectorNotifyBlock n (some j) fd).cursor.getD (some j)) _
        rw [head]
        apply chain_push pointer apart
        · simp [Notifier.link,selectorNotifyBlock]
        · intro later other
          simp [Notifier.link,selectorNotifyBlock,Function.update_of_ne other]
      · intro block member
        by_cases own : block = j
        · simp [own,selectorNotifyBlock]
        · rcases List.mem_cons.mp member with first | old
          · exact absurd first own
          · simp [selectorNotifyBlock,Function.update_of_ne own,live block old]
      · have kept : blocks.map (selectorNotifyBlock n (some j) fd).job = blocks.map n.job := by
          apply List.map_congr_left
          intro block member
          have own : block ≠ j := fun equal => apart (equal ▸ member)
          simp [Notifier.job,selectorNotifyBlock,Function.update_of_ne own]
        rw [List.map_cons,kept,same]
        simp [Notifier.job,selectorNotifyBlock]

theorem visitJob_parts (open_ : n.crashed = false)
    (handled : (n.sel.registered (n.memory j).fd).all (fun item => item.handler.any (·.handles .block)) = true)
    (freed : BlockingJob) (after : Selector) : ∃ called,
    (visitJob n j freed after).trace = n.trace ++ called ∧ jobActs called = [.take (n.job j)] ∧
    called.filterMap Note.called = called.filterMap Note.due ∧ (visitJob n j freed after).cursor = some freed.next ∧
    (visitJob n j freed after).memory = Function.update n.memory j freed ∧
    (visitJob n j freed after).live = Function.update n.live j false ∧
    (visitJob n j freed after).number = n.number ∧ (visitJob n j freed after).nextId = n.nextId ∧
    (visitJob n j freed after).crashed = false := by
  unfold visitJob offerJob
  dsimp only
  split
  · rw [open_]
    exact ⟨_,rfl,rfl,rfl,by simp,rfl,rfl,rfl,rfl,rfl⟩
  · rename_i item found
    rw [found,Option.all_some] at handled
    rw [if_pos handled,open_]
    exact ⟨_,rfl,rfl,rfl,by simp,rfl,rfl,rfl,rfl,rfl⟩

theorem keeps_visit (keeps : n.keeps (.visit freed after) = true) (at_ : n.cursor = some (some j)) :
    freed.next = (n.memory j).next ∧
    (n.sel.registered (n.memory j).fd).all (fun item => item.handler.any (·.handles .block)) = true := by
  unfold Notifier.keeps at keeps
  dsimp only at keeps
  rw [at_,Option.getD_some,Option.all_some,Bool.and_eq_true] at keeps
  exact ⟨of_decide_eq_true keeps.1,keeps.2⟩

theorem visit_holds (holds : n.Holds b) (at_ : n.cursor = some (some j)) (keeps : n.keeps (.visit freed after) = true) :
    ∃ box rest, Moves b (.take (n.job j)) box ∧ (visitJob n j freed after).Holds box ∧
      b.left = some (n.job j::rest) ∧ box.left = some rest := by
  obtain ⟨kept,handled⟩ := keeps_visit keeps at_
  obtain ⟨going,trace,called,known,numbers,phase,blocks,chain,once,live,same⟩ := holds
  obtain ⟨things,left,acts⟩ := b
  obtain ⟨notes,grown,taken,due,cursor,memory,alive,number,nextId,open_⟩ := visitJob_parts going handled freed after
  rw [at_] at chain
  obtain ⟨others,rfl,onward⟩ := chain_some chain
  obtain ⟨apart,distinct⟩ := List.nodup_cons.mp once
  cases left with
  | none =>
      rw [at_] at phase
      cases phase
  | some jobs =>
      cases same
      obtain ⟨known',numbers'⟩ := quiet_known known numbers (show (Act.take (n.job j)).putting = none from rfl)
      refine ⟨_,others.map n.job,.take,⟨open_,?_,?_,?_,?_,?_,others,?_,distinct,?_,?_⟩,rfl,rfl⟩
      · rw [grown,jobActs_append,taken]
        exact congrArg (· ++ [Act.take (n.job j)]) trace
      · rw [grown,List.filterMap_append,List.filterMap_append,called,due]
      · rw [nextId]
        exact known'
      · exact numbers'
      · rw [cursor]
        rfl
      · rw [cursor,Option.getD_some,kept]
        apply chain_pop chain once
        intro later other
        rw [Notifier.link,memory,Function.update_of_ne other]
        rfl
      · intro block member
        have own : block ≠ j := fun equal => apart (equal ▸ member)
        rw [alive,Function.update_of_ne own]
        exact live block (List.mem_cons_of_mem j member)
      · apply List.map_congr_left
        intro block member
        have own : block ≠ j := fun equal => apart (equal ▸ member)
        rw [Notifier.job,number,memory,Function.update_of_ne own]
        rfl

theorem drain_holds (holds : n.Holds b) (idle : n.cursor = none) :
    ∃ box, Moves b .start box ∧
      Notifier.Holds {n with cursor:=some n.resolutionJobs,trace:=n.trace ++ [.began]} box := by
  obtain ⟨going,trace,called,known,numbers,phase,blocks,chain,once,live,same⟩ := holds
  obtain ⟨things,left,acts⟩ := b
  rw [idle] at phase chain
  cases left with
  | some rest => cases phase
  | none =>
      obtain ⟨known',numbers'⟩ := quiet_known known numbers (show Act.start.putting = none from rfl)
      refine ⟨_,.start,going,?_,?_,?_,?_,rfl,blocks,chain,once,live,same⟩
      · rw [jobActs_append]
        exact congrArg (· ++ [Act.start]) trace
      · rw [List.filterMap_append,List.filterMap_append,called]
        rfl
      · exact known'
      · exact numbers'

theorem done_holds (holds : n.Holds b) (empty : n.cursor = some none) :
    ∃ box, Moves b .stop box ∧
      Notifier.Holds {n with resolutionJobs:=none,cursor:=none,trace:=n.trace ++ [.ended]} box := by
  obtain ⟨going,trace,called,known,numbers,phase,blocks,chain,once,live,same⟩ := holds
  obtain ⟨things,left,acts⟩ := b
  rw [empty] at phase chain
  cases chain_none chain
  cases left with
  | none => cases phase
  | some rest =>
      cases same
      obtain ⟨known',numbers'⟩ := quiet_known known numbers (show Act.stop.putting = none from rfl)
      refine ⟨_,.stop,going,?_,?_,?_,?_,rfl,[],rfl,List.nodup_nil,by simp,rfl⟩
      · rw [jobActs_append]
        exact congrArg (· ++ [Act.stop]) trace
      · rw [List.filterMap_append,List.filterMap_append,called]
        rfl
      · exact known'
      · exact numbers'

theorem kept_served (going : n.crashed = false) (ran : keptStep n e = some next) :
    n.keeps e = true ∧ n.serve e = some next := by
  unfold keptStep at ran
  split at ran
  · rename_i keeps
    unfold notifierStep at ran
    rw [if_neg (by rw [going]; exact Bool.false_ne_true)] at ran
    exact ⟨keeps,ran⟩
  · cases ran

theorem visit_served (served : n.serve (.visit freed after) = some next) :
    ∃ j, n.cursor = some (some j) ∧ visitJob n j freed after = next := by
  unfold Notifier.serve at served
  dsimp only at served
  split at served
  · rename_i j at_
    cases served
    exact ⟨j,at_,rfl⟩
  · cases served

theorem kept_simulated (holds : n.Holds b) (ran : keptStep n e = some next) :
    ∃ moves box, Transitions.Runs Moves b moves box ∧ next.Holds box := by
  obtain ⟨keeps,served⟩ := kept_served holds.going ran
  cases e with
  | notify block fd =>
      unfold Notifier.serve at served
      dsimp only at served
      split at served
      · rename_i allowed
        simp only [Bool.and_eq_true,Option.isNone_iff_eq_none] at allowed
        obtain ⟨⟨idle,_⟩,free⟩ := allowed
        cases served
        cases block with
        | none => exact ⟨[],b,.nil,holds⟩
        | some job =>
            obtain ⟨box,moved,held⟩ := notify_holds holds idle (by simpa using free) fd
            exact ⟨_,box,.snoc .nil moved,held⟩
      · cases served
  | drain =>
      unfold Notifier.serve at served
      dsimp only at served
      split at served
      · rename_i idle
        cases served
        obtain ⟨box,moved,held⟩ := drain_holds holds (Option.isNone_iff_eq_none.mp idle)
        exact ⟨_,box,.snoc .nil moved,held⟩
      · cases served
  | visit freed after =>
      obtain ⟨j,at_,rfl⟩ := visit_served served
      obtain ⟨box,_,moved,held,_⟩ := visit_holds holds at_ keeps
      exact ⟨_,box,.snoc .nil moved,held⟩
  | done =>
      unfold Notifier.serve at served
      dsimp only at served
      split at served
      · rename_i empty
        cases served
        obtain ⟨box,moved,held⟩ := done_holds holds empty
        exact ⟨_,box,.snoc .nil moved,held⟩
      · cases served
  | elsewhere sel =>
      unfold Notifier.serve at served
      dsimp only at served
      split at served
      · cases served
        exact ⟨[],b,.nil,holds.going,holds.trace,holds.called,holds.known,holds.numbers,holds.phase,holds.blocks⟩
      · cases served

theorem start_holds (sel : Selector) (memory : Nat → BlockingJob) : (notifierStart sel memory).Holds ⟨[],none,[]⟩ :=
  ⟨rfl,rfl,rfl,by simp [puts],List.nodup_nil,rfl,[],rfl,List.nodup_nil,by simp,rfl⟩

theorem kept_holds (path : KeptRuns (notifierStart sel memory) events n) : ∃ b : Box (Nat × Int), b.Sound ∧ n.Holds b := by
  obtain ⟨moves,b,reached,holds⟩ := path.simulate (start_holds sel memory)
    (fun _ _ _ _ held ran => kept_simulated held ran)
  exact ⟨b,box_runs reached,holds⟩

theorem due_taken (trace : List Note) :
    (trace.filterMap Note.due).Sublist ((takes (jobActs trace)).map Prod.fst) := by
  induction trace with
  | nil => exact List.nil_sublist _
  | cons note rest ih =>
      cases note with
      | visited id fd registered =>
          cases registered with
          | true => exact ih.cons_cons id
          | false => exact ih.cons id
      | _ => exact ih

theorem holds_delivers (sound : b.Sound) (holds : n.Holds b) : n.Delivers := by
  obtain ⟨_,trace,called,_,numbers,phase,blocks,chain,_,_,same⟩ := holds
  refine ⟨?_,called,?_,?_⟩
  · rw [← trace]
    exact box_emptied sound
  · have account := sound.account.map Prod.fst
    rw [List.map_append] at account
    have distinct := (account.nodup_iff.mp numbers).of_append_left
    rw [trace] at distinct
    rw [called]
    exact (due_taken n.trace).nodup distinct
  · intro idle
    have current := sound.current
    rw [idle] at phase chain
    obtain ⟨things,left,acts⟩ := b
    cases left with
    | some rest => cases phase
    | none => exact ⟨blocks,chain,by rw [same,← trace]; exact current⟩

def NotifierEvent.isVisit : NotifierEvent → Bool
  | .visit _ _ => true
  | _ => false

theorem visits_counted (path : KeptRuns n events last) (holds : n.Holds b) (turns : ∀ e ∈ events, e.isVisit = true) :
    ∃ box, last.Holds box ∧ events.length + (box.left.getD box.waiting).length = (b.left.getD b.waiting).length := by
  induction path with
  | nil => exact ⟨b,holds,Nat.zero_add _⟩
  | @snoc earlier middle label next path ran ih =>
      obtain ⟨box,held,count⟩ := ih (fun e member => turns e (List.mem_append_left _ member))
      have turn := turns label (by simp)
      cases label with
      | visit freed after =>
          obtain ⟨keeps,served⟩ := kept_served held.going ran
          obtain ⟨j,at_,rfl⟩ := visit_served served
          obtain ⟨later,rest,_,kept,were,are⟩ := visit_holds held at_ keeps
          refine ⟨later,kept,?_⟩
          rw [were] at count
          rw [are,List.length_append]
          simp only [Option.getD_some,List.length_cons,List.length_nil] at count ⊢
          omega
      | _ => cases turn

theorem visitJob_sel (n : Notifier) (j : Nat) (freed : BlockingJob) : (visitJob n j freed n.sel).sel = n.sel := by
  unfold visitJob offerJob
  dsimp only
  split
  · split
    · rfl
    · rfl
  · split
    · split
      · rfl
      · rfl
    · rfl

theorem visited_again (going : n.crashed = false) (idle : n.cursor = none) (head : n.resolutionJobs = some j)
    (handled : (n.sel.registered (n.memory j).fd).all (fun item => item.handler.any (·.handles .block)) = true) :
    ∃ events last, NotifierRuns n events last ∧ last.cursor = none ∧ ¬ last.Delivers := by
  let began : Notifier := {n with cursor:=some n.resolutionJobs,trace:=n.trace ++ [.began]}
  let fd := (n.memory j).fd
  let once := visitJob began j ⟨fd,some j⟩ n.sel
  let twice := visitJob once j ⟨fd,none⟩ n.sel
  obtain ⟨first,grown,taken,_,cursor,memory,_,number,_,open_⟩ :=
    @visitJob_parts began j going handled ⟨fd,some j⟩ n.sel
  have kept : once.sel = n.sel := visitJob_sel began j ⟨fd,some j⟩
  have stored : (once.memory j).fd = fd := by
    rw [show once.memory = Function.update n.memory j ⟨fd,some j⟩ from memory,Function.update_self]
  obtain ⟨second,grown',taken',_,cursor',_,_,_,_,open'⟩ :=
    @visitJob_parts once j open_ (by rw [kept,stored]; exact handled) ⟨fd,none⟩ n.sel
  have path : NotifierRuns n [.drain,.visit ⟨fd,some j⟩ n.sel,.visit ⟨fd,none⟩ n.sel,.done]
      {twice with resolutionJobs:=none,cursor:=none,trace:=twice.trace ++ [.ended]} := by
    apply Transitions.exec_runs
    have starts : notifierStep n .drain = some began := by simp [notifierStep,Notifier.serve,going,idle,began]
    have turns : notifierStep began (.visit ⟨fd,some j⟩ n.sel) = some once := by
      simp [notifierStep,Notifier.serve,going,began,head,once]
    have again : notifierStep once (.visit ⟨fd,none⟩ n.sel) = some twice := by
      rw [notifierStep,show once.crashed = false from open_]
      simp only [Notifier.serve]
      rw [show once.cursor = some (some j) from cursor]
      rfl
    have ends : notifierStep twice .done =
        some {twice with resolutionJobs:=none,cursor:=none,trace:=twice.trace ++ [.ended]} := by
      rw [notifierStep,if_neg (by rw [show twice.crashed = false from open']; exact Bool.false_ne_true)]
      simp only [Notifier.serve]
      rw [show twice.cursor = some none from cursor']
    simp only [Transitions.exec,starts,turns,again,ends,Option.bind_some]
  refine ⟨_,_,path,rfl,?_⟩
  intro delivers
  have same : once.job j = n.job j := by
    rw [Notifier.job,number,memory,Function.update_self]
    rfl
  have acts : takes (jobActs (twice.trace ++ [.ended])) = takes (jobActs n.trace) ++ [n.job j,n.job j] := by
    rw [grown',grown,jobActs_append,jobActs_append,jobActs_append,jobActs_append,taken,taken',same]
    simp only [takes,List.filterMap_append]
    simp [jobActs,Note.act,Act.taking]
    rfl
  have distinct := delivers.drained.once
  rw [acts] at distinct
  have pair := distinct.of_append_right
  simp at pair

theorem notifications_exact (path : KeptRuns (notifierStart sel memory) events n) :
    n.Delivers ∧
    (∃ blocks, Chain n.link (n.cursor.getD n.resolutionJobs) blocks ∧
      ∀ more last, KeptRuns n more last → (∀ e ∈ more, e.isVisit = true) → more.length ≤ blocks.length) ∧
    ∀ job, n.cursor = none → n.resolutionJobs = some job →
      (n.sel.registered (n.memory job).fd).all (fun item => item.handler.any (·.handles .block)) = true →
      ∃ more last, NotifierRuns n more last ∧ last.cursor = none ∧ ¬ last.Delivers := by
  obtain ⟨b,sound,holds⟩ := kept_holds path
  refine ⟨holds_delivers sound holds,?_,fun job => visited_again holds.going⟩
  obtain ⟨blocks,chain,_,_,same⟩ := holds.blocks
  refine ⟨blocks,chain,?_⟩
  intro more last onward turns
  obtain ⟨box,_,count⟩ := visits_counted onward holds turns
  rw [← same,List.length_map] at count
  omega

-- Two connections wait for their names; the answer of the second one comes last and is
-- visited first. The first one asks again, and malloc answers with the block it freed.
def notifiedTwice : List NotifierEvent :=
  [.notify (some 1) 6,.notify (some 2) 7,.drain,.visit ⟨7,some 1⟩ crowdedSelector,.visit ⟨6,none⟩ crowdedSelector,.done,
    .notify (some 1) 6]

def notifiedStart : Notifier := notifierStart crowdedSelector fun _ => ⟨0,none⟩

theorem twice_delivered : ∃ n, KeptRuns notifiedStart notifiedTwice n ∧
    n.trace.filterMap Note.called = [1,0] ∧ n.Delivers ∧
    ∃ more last, NotifierRuns n more last ∧ last.cursor = none ∧ ¬ last.Delivers := by
  have read : (Transitions.exec keptStep notifiedStart notifiedTwice).map (fun n => (n.trace.filterMap Note.called,n.cursor,
      n.resolutionJobs,(n.sel.registered (n.memory 1).fd).all fun item => item.handler.any (·.handles .block))) =
      some ([1,0],none,some 1,true) := by
    decide +kernel
  obtain ⟨n,ran,parts⟩ := Option.map_eq_some_iff.mp read
  obtain ⟨delivers,_,refused⟩ := notifications_exact (Transitions.exec_runs ran)
  simp only [Prod.mk.injEq] at parts
  obtain ⟨called,idle,head,handled⟩ := parts
  exact ⟨n,Transitions.exec_runs ran,called,delivers,refused 1 idle head handled⟩

-- The block that is freed first reads as the last of the list: the job behind it is dropped.
theorem first_dropped : ∃ n, NotifierRuns notifiedStart
      [.notify (some 1) 6,.notify (some 2) 7,.drain,.visit ⟨0,none⟩ crowdedSelector,.done] n ∧
    n.cursor = none ∧ n.resolutionJobs = none ∧ n.trace.filterMap Note.called = [1] ∧ ¬ n.Delivers := by
  have read : (Transitions.exec notifierStep notifiedStart
      [.notify (some 1) 6,.notify (some 2) 7,.drain,.visit ⟨0,none⟩ crowdedSelector,.done]).map
      (fun n => (n.cursor,n.resolutionJobs,n.trace)) = some (none,none,[.queued 0 6,.queued 1 7] ++
        [.began,.visited 1 7 true,.handleBlock 1 7 (some 3),.ended]) := by
    decide +kernel
  obtain ⟨n,ran,parts⟩ := Option.map_eq_some_iff.mp read
  simp only [Prod.mk.injEq] at parts
  obtain ⟨idle,head,trace⟩ := parts
  refine ⟨n,Transitions.exec_runs ran,idle,head,by rw [trace]; rfl,?_⟩
  intro delivers
  have whole := delivers.drained.whole [.put (0,6),.put (1,7)] [.take (1,7)] [] (by rw [trace]; rfl) (by decide) (by decide)
  have counted := whole.length_eq
  cases counted

end Socks5d
