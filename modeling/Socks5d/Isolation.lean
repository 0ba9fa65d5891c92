import Socks5d.LogNames
import Socks5d.Foundations.Lanes

namespace Socks5d
open Transitions ControlProtocol

def Daemon.session (d : Daemon) (id : Nat) : Session := ⟨d.mgmt.sel,d.conn id,callsOf id d.log⟩

def Daemon.selAfter (d : Daemon) (e : DaemonEvent) : Selector :=
  ((daemonStep d e).map fun next => next.mgmt.sel).getD d.mgmt.sel

-- What an event of the process is to the connection `id`: its own event, or a change of
-- the selector that something else made.
def Daemon.moves (id : Nat) (d : Daemon) : DaemonEvent → List SessionEvent
  | .event kind fd env =>
    if (d.entry fd).any fun found => decide (found.1 = id) then [.event kind fd (d.sees env)]
    else [.elsewhere (d.selAfter (.event kind fd env))]
  | .resolved number addrs => if number = id then [.resolved addrs] else []
  | e => [.elsewhere (d.selAfter e)]

structure Daemon.Numbered (d : Daemon) : Prop where
  calls : ∀ call ∈ d.log, call.1 < d.nextId
  conns : ∀ id, d.nextId ≤ id → d.conn id = none

variable {d next last opened : Daemon} {id other : Nat} {e : DaemonEvent} {effects : List Effect}
  {sel : Selector} {conn : Option SocksConnModel} {events before : List DaemonEvent} {log : List (Nat × Effect)}

theorem calls_own (id : Nat) (log : List (Nat × Effect)) (effects : List Effect) :
    callsOf id (log ++ effects.map fun effect => (id,effect)) = callsOf id log ++ effects :=
  ownCalls_same id log effects

theorem calls_other (differs : other ≠ id) (log : List (Nat × Effect)) (effects : List Effect) :
    callsOf id (log ++ effects.map fun effect => (other,effect)) = callsOf id log :=
  ownCalls_other differs log effects

theorem after_own (id : Nat) : (d.after id sel conn effects).session id = ⟨sel,conn,callsOf id d.log ++ effects⟩ := by
  unfold Daemon.session Daemon.after
  dsimp only
  rw [calls_own,Function.update_self]

theorem after_other (differs : other ≠ id) :
    (d.after other sel conn effects).session id = {d.session id with sel:=sel} := by
  unfold Daemon.session Daemon.after
  dsimp only
  rw [calls_other differs,Function.update_of_ne (Ne.symm differs)]

theorem step_alive (ran : daemonStep d e = some next) : d.done = false := by
  unfold daemonStep at ran
  split at ran
  · cases ran
  · rename_i goes
    exact Bool.eq_false_iff.mpr goes

theorem elsewhere_moves (moved : d.moves id e = [.elsewhere (d.selAfter e)]) (ran : daemonStep d e = some next)
    (kept : next.session id = {d.session id with sel:=next.mgmt.sel}) :
    exec (servedStep id) (d.session id) (d.moves id e) = some (next.session id) := by
  have sel : d.selAfter e = next.mgmt.sel := by
    rw [Daemon.selAfter,ran]
    rfl
  rw [moved,exec_one,sel,kept]
  rfl

theorem accept_other (differs : d.nextId ≠ id) (socket : Int) (nio : Bool) :
    (d.accept socket nio).session id = {d.session id with sel:=(d.accept socket nio).mgmt.sel} := by
  have made : ∀ sel conn effects, ({d with nextId:=d.nextId+1}.after d.nextId sel conn effects).session id =
      {d.session id with sel:=sel} := fun _ _ _ => after_other differs
  unfold Daemon.accept
  dsimp only
  split
  · exact made _ _ _
  · exact made _ _ _

theorem event_moves {kind : EventKind} {fd : Int} {env : Env} (ran : daemonStep d (.event kind fd env) = some next) :
    exec (servedStep id) (d.session id) (d.moves id (.event kind fd env)) = some (next.session id) := by
  cases daemon_steps ran with
  | @event _ _ _ owner socks served asks found handled =>
      by_cases same : owner = id
      · subst same
        have live := entry_open found
        have moved : d.moves owner (.event kind fd env) = [.event kind fd (d.sees env)] := by
          unfold Daemon.moves
          dsimp only
          rw [found,Option.any_some,decide_eq_true rfl,if_pos rfl]
        have ready : (d.session owner).ready (.event kind fd (d.sees env)) = true := by
          unfold Daemon.asks at asks
          cases kind with
          | block => rfl
          | read => exact asks
          | write => exact asks
        rw [moved,exec_one,servedStep,if_pos ready,sessionStep,after_own]
        unfold Daemon.session
        dsimp only
        rw [live,Option.bind_some,handled,Option.map_some]
      · refine elsewhere_moves ?_ ran ?_
        · unfold Daemon.moves
          dsimp only
          rw [found,Option.any_some,decide_eq_false same,if_neg Bool.false_ne_true]
        · exact after_other same

theorem accept_given (d : Daemon) (socket : Int) (nio : Bool) : (d.accept socket nio).nextId = d.nextId+1 := by
  unfold Daemon.accept
  dsimp only
  split
  · rfl
  · rfl

theorem step_lane (given : id < d.nextId) (alive : next.done = false) (ran : daemonStep d e = some next) :
    id < next.nextId ∧ exec (servedStep id) (d.session id) (d.moves id e) = some (next.session id) := by
  cases e with
  | accept listener socket nio =>
      cases daemon_steps ran with
      | accept _ _ =>
          refine ⟨?_,elsewhere_moves rfl ran (accept_other (Nat.ne_of_gt given) socket nio)⟩
          rw [accept_given]
          exact Nat.lt_succ_of_lt given
  | acceptMgmt listener clientFd nio memory =>
      cases daemon_steps ran with
      | acceptMgmt _ _ => exact ⟨given,elsewhere_moves rfl ran rfl⟩
  | event kind fd env =>
      refine ⟨?_,event_moves ran⟩
      cases daemon_steps ran with
      | event _ _ _ => exact given
  | mgmtEvent kind number env =>
      cases daemon_steps ran with
      | mgmtEvent _ => exact ⟨given,elsewhere_moves rfl ran rfl⟩
  | resolved number addrs =>
      cases daemon_steps ran with
      | @resolved _ _ socks live waits =>
          refine ⟨given,?_⟩
          unfold Daemon.moves Daemon.session
          dsimp only
          by_cases same : number = id
          · subst same
            rw [if_pos rfl,exec_one,Function.update_self]
            unfold servedStep Session.ready sessionStep
            dsimp only
            rw [if_pos rfl,live,Option.bind_some,if_pos waits]
          · rw [if_neg same,Function.update_of_ne (Ne.symm same)]
            rfl
  | sigterm =>
      cases daemon_steps ran with
      | sigterm => cases alive

theorem accept_numbered (numbered : d.Numbered) (socket : Int) (nio : Bool) : (d.accept socket nio).Numbered := by
  obtain ⟨calls,conns⟩ := numbered
  have added : ∀ sel conn effects, ({d with nextId:=d.nextId+1}.after d.nextId sel conn effects).Numbered := by
    intro sel conn effects
    constructor
    · intro call member
      rcases List.mem_append.mp member with earlier | fresh
      · exact Nat.lt_succ_of_lt (calls call earlier)
      · obtain ⟨effect,_,rfl⟩ := List.mem_map.mp fresh
        exact Nat.lt_succ_self _
    · intro id above
      have differs : id ≠ d.nextId := Nat.ne_of_gt above
      exact (Function.update_of_ne differs _ _).trans (conns id (Nat.le_of_succ_le above))
  unfold Daemon.accept
  dsimp only
  split
  · exact added _ _ _
  · obtain ⟨logged,empty⟩ := added (passiveSocksSocketHandler d.mgmt.sel d.nextId socket nio).1
      (some (acceptedConn socket)) []
    exact ⟨logged,empty⟩

theorem after_numbered (numbered : d.Numbered) (given : id < d.nextId) : (d.after id sel conn effects).Numbered := by
  obtain ⟨calls,conns⟩ := numbered
  constructor
  · intro call member
    rcases List.mem_append.mp member with earlier | fresh
    · exact calls call earlier
    · obtain ⟨effect,_,rfl⟩ := List.mem_map.mp fresh
      exact given
  · intro number above
    have differs : number ≠ id := Nat.ne_of_gt (Nat.lt_of_lt_of_le given above)
    exact (Function.update_of_ne differs _ _).trans (conns number above)

theorem live_given (numbered : d.Numbered) {socks : SocksConnModel} (live : d.conn id = some socks) : id < d.nextId := by
  by_contra above
  rw [numbered.conns id (Nat.le_of_not_lt above)] at live
  cases live

theorem step_numbered (numbered : d.Numbered) (alive : next.done = false) (ran : daemonStep d e = some next) :
    next.Numbered := by
  cases daemon_steps ran with
  | @accept listener socket nio _ _ => exact accept_numbered numbered socket nio
  | acceptMgmt _ _ => exact ⟨numbered.calls,numbered.conns⟩
  | event _ found _ => exact after_numbered numbered (live_given numbered (entry_open found))
  | mgmtEvent _ => exact ⟨numbered.calls,numbered.conns⟩
  | @resolved number addrs socks live _ =>
      have given := live_given numbered live
      refine ⟨numbered.calls,?_⟩
      intro id above
      have differs : id ≠ number := Nat.ne_of_gt (Nat.lt_of_lt_of_le given above)
      exact (Function.update_of_ne differs _ _).trans (numbered.conns id above)
  | sigterm => cases alive

theorem run_numbered {socks mng : List Int} {users : UserTable} {sniffer : Bool}
    (path : DaemonRuns (daemonStart socks mng users sniffer) events d) (alive : d.done = false) : d.Numbered := by
  have numbered := @Transitions.Runs.invariant _ _ _ _ _ _ (fun d : Daemon => d.done = false → d.Numbered) path
    (fun _ => ⟨fun _ member => absurd member List.not_mem_nil,fun _ _ => rfl⟩)
    (fun _ _ _ held ran alive => step_numbered (held (step_alive ran)) alive ran)
  exact numbered alive

theorem accept_opened (numbered : d.Numbered) (socket : Int) (nio : Bool) :
    (d.accept socket nio).session d.nextId =
      if (passiveSocksSocketHandler d.mgmt.sel d.nextId socket nio).2 then
        ⟨(d.accept socket nio).mgmt.sel,none,
          (closeSocksConn (passiveSocksSocketHandler d.mgmt.sel d.nextId socket nio).1 (acceptedConn socket)).2⟩
      else newSession (d.accept socket nio).mgmt.sel socket := by
  have silent : callsOf d.nextId d.log = [] :=
    ownCalls_silent fun call member => Nat.ne_of_lt (numbered.calls call member)
  have made : ∀ sel conn effects, ({d with nextId:=d.nextId+1}.after d.nextId sel conn effects).session d.nextId =
      ⟨sel,conn,effects⟩ := by
    intro sel conn effects
    refine (after_own d.nextId).trans ?_
    dsimp only
    rw [silent,List.nil_append]
  unfold Daemon.accept
  dsimp only
  split
  · exact made _ _ _
  · exact made _ _ _

theorem closed_stays {data : Nat} {s after : Session} {moves : List SessionEvent} (closed : s.conn = none)
    (ran : exec (servedStep data) s moves = some after) : after.conn = none ∧ after.trace = s.trace := by
  induction moves generalizing s with
  | nil =>
      cases ran
      exact ⟨closed,rfl⟩
  | cons move rest ih =>
      obtain ⟨middle,first,remaining⟩ := Option.bind_eq_some_iff.mp ran
      unfold servedStep at first
      split at first
      · cases move with
        | event kind fd env =>
            rw [sessionStep,closed] at first
            cases first
        | resolved addrs =>
            rw [sessionStep,closed] at first
            cases first
        | elsewhere sel =>
            cases first
            exact @ih {s with sel:=sel} closed remaining
      · cases first

theorem accepted_lane {socks mng : List Int} {users : UserTable} {sniffer nio : Bool} {listener socket : Int}
    (path : DaemonRuns (daemonStart socks mng users sniffer) before d)
    (accepted : daemonStep d (.accept listener socket nio) = some opened)
    (rest : exec daemonStep opened events = some last) (alive : last.done = false) :
    let refused := passiveSocksSocketHandler d.mgmt.sel d.nextId socket nio
    opened.session d.nextId = (if refused.2 then
      ⟨opened.mgmt.sel,none,(closeSocksConn refused.1 (acceptedConn socket)).2⟩ else newSession opened.mgmt.sel socket) ∧
    exec (servedStep d.nextId) (opened.session d.nextId) (lane daemonStep (Daemon.moves d.nextId) opened events) =
      some (last.session d.nextId) := by
  have numbered := run_numbered path (step_alive accepted)
  cases daemon_steps accepted with
  | accept _ _ =>
      have fresh : d.nextId < (d.accept socket nio).nextId := by
        rw [accept_given]
        exact Nat.lt_succ_self _
      obtain ⟨_,ran⟩ := exec_lane (fun _ _ _ ran => step_alive ran)
        (fun _ _ _ given alive ran => step_lane given alive ran) fresh rest alive
      exact ⟨accept_opened numbered socket nio,ran⟩

theorem connection_isolated {socks mng : List Int} {users : UserTable} {sniffer nio : Bool} {listener socket : Int}
    (path : DaemonRuns (daemonStart socks mng users sniffer) before d)
    (accepted : daemonStep d (.accept listener socket nio) = some opened)
    (rest : exec daemonStep opened events = some last) (alive : last.done = false) :
    let refused := passiveSocksSocketHandler d.mgmt.sel d.nextId socket nio
    (refused.2 = true → last.conn d.nextId = none ∧
      callsOf d.nextId last.log = (closeSocksConn refused.1 (acceptedConn socket)).2) ∧
    (refused.2 = false → exec (servedStep d.nextId) (newSession opened.mgmt.sel socket)
      (lane daemonStep (Daemon.moves d.nextId) opened events) = some (last.session d.nextId)) := by
  obtain ⟨start,ran⟩ := accepted_lane path accepted rest alive
  constructor
  · intro refused
    rw [if_pos refused] at start
    rw [start] at ran
    exact closed_stays rfl ran
  · intro served
    rw [if_neg (by rw [served]; exact Bool.false_ne_true)] at start
    rw [start] at ran
    exact ran

-- Two clients log in, step by step in turn.
def turns : List DaemonEvent :=
  [.accept 3 7 true,writes 5 [0x05,0x01,0x02],writes 7 [0x05,0x01,0x02],drains 7 1,drains 5 2,drains 7 1,
    writes 7 [0x01,0x02,0x62,0x6f,0x02,0x70,0x77],writes 5 [0x01,0x02,0x61,0x6c,0x02,0x73,0x65],drains 5 2]

theorem turns_apart : ∃ opened last, daemonStep (daemonStart [3] [4] twoUsers true) (.accept 3 5 true) = some opened ∧
    exec daemonStep opened turns = some last ∧ last.done = false ∧
    (last.conn 0).map SocksConnModel.current = some .reqRead ∧
    exec (servedStep 0) (newSession opened.mgmt.sel 5) (lane daemonStep (Daemon.moves 0) opened turns) =
      some (last.session 0) := by
  have facts : (daemonStep (daemonStart [3] [4] twoUsers true) (.accept 3 5 true)).bind (fun opened =>
      (exec daemonStep opened turns).map fun last => (last.done,(last.conn 0).map SocksConnModel.current)) =
      some (false,some .reqRead) := by decide +kernel
  obtain ⟨opened,accepted,facts⟩ := Option.bind_eq_some_iff.mp facts
  obtain ⟨last,rest,facts⟩ := Option.map_eq_some_iff.mp facts
  obtain ⟨alive,current⟩ := Prod.mk.inj facts
  have served : (passiveSocksSocketHandler (daemonStart [3] [4] twoUsers true).mgmt.sel 0 5 true).2 = false := by
    decide +kernel
  exact ⟨opened,last,accepted,rest,alive,current,(connection_isolated .nil accepted rest alive).2 served⟩

end Socks5d
