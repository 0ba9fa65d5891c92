import Socks5d.Conversation
import Socks5d.ControlMetering
import Socks5d.Foundations.Shares

namespace Socks5d
open Finset ControlProtocol

-- socket() gives no descriptor that is open, so never that of the connection's client.
def Daemon.grants (d : Daemon) : DaemonEvent → Bool
  | .event _ fd env => (d.entry fd).all fun found => decide (env.socket ≠ found.2.cliConn.socket)
  | _ => true

def grantedStep (d : Daemon) (e : DaemonEvent) : Option Daemon := if d.grants e then daemonStep d e else none

abbrev GrantedRuns := Transitions.Runs fun d e next => grantedStep d e = some next

inductive Relayed (client : Int) (trace : List Effect) : Nat → Prop where
  | nothing (only : OnlyTo client trace) (script : Script trace whole) (told : sentTo client trace <+: whole) :
      Relayed client trace 0
  | bytes (split : trace = before ++ after) (opened : Opened client origin before kept)
      (others : ∀ fd, fd ≠ client → fd ≠ origin → sentTo fd after = []) :
      Relayed client trace ((sentTo client after).length + (sentTo origin after).length)

structure Daemon.Counting (d : Daemon) : Prop where
  talking : ∀ id < d.nextId, ∃ client, (d.session id).Talking client
  total : d.mgmt.globals.metrics.bytesTransferred = transferred (d.log.map Prod.snd)
  numbered : d.Numbered

variable {d next : Daemon} {id : Nat} {e : DaemonEvent} {client : Int} {trace effects : List Effect}
  {sel : Selector} {conn : Option SocksConnModel} {m : Metrics} {s after : MgmtServer}

theorem grantedStep_parts (ran : grantedStep d e = some next) : d.grants e = true ∧ daemonStep d e = some next := by
  unfold grantedStep at ran
  split at ran
  · exact ⟨‹_›,ran⟩
  · cases ran

theorem conversation_relayed (talked : Conversation client trace) :
    ∃ count : Nat, Relayed client trace count ∧ transferred trace = count := by
  cases talked with
  | handshake only uncounted scripted told => exact ⟨0,.nothing only scripted told,uncounted⟩
  | @relay before after origin kept split opened inward outward others counted =>
      refine ⟨_,.bytes split opened others,?_⟩
      rw [split,transferred_append,opened.uncounted,counted,Int.zero_add]
      rfl

theorem transferred_cons (effect : Effect) (rest : List Effect) :
    transferred (effect::rest) = transferred [effect] + transferred rest := by
  rw [← List.singleton_append,transferred_append]

theorem onMetrics_bytes (effects : List Effect) (m : Metrics) :
    (effects.foldl Effect.onMetrics m).bytesTransferred = m.bytesTransferred + transferred effects := by
  induction effects generalizing m with
  | nil => exact (Int.add_zero _).symm
  | cons effect rest ih =>
      rw [List.foldl_cons,ih,transferred_cons,← Int.add_assoc]
      congr 1
      cases effect with
      | addBytesTransferred count => exact congrArg (m.bytesTransferred + ·) (Int.add_zero count).symm
      | _ => exact (Int.add_zero _).symm

theorem after_total (total : d.mgmt.globals.metrics.bytesTransferred = transferred (d.log.map Prod.snd)) (id : Nat)
    (sel : Selector) (conn : Option SocksConnModel) (effects : List Effect) :
    (d.after id sel conn effects).mgmt.globals.metrics.bytesTransferred =
      transferred ((d.after id sel conn effects).log.map Prod.snd) := by
  unfold Daemon.after
  dsimp only
  rw [onMetrics_bytes,total,List.map_append,transferred_append,List.map_map]
  congr 2
  exact (List.map_id effects).symm

theorem accept_total (total : d.mgmt.globals.metrics.bytesTransferred = transferred (d.log.map Prod.snd)) (socket : Int)
    (nio : Bool) : (d.accept socket nio).mgmt.globals.metrics.bytesTransferred =
      transferred ((d.accept socket nio).log.map Prod.snd) := by
  have added : ∀ sel conn effects, ({d with nextId:=d.nextId+1}.after d.nextId sel conn effects).mgmt.globals.metrics.bytesTransferred =
      transferred (({d with nextId:=d.nextId+1}.after d.nextId sel conn effects).log.map Prod.snd) :=
    fun _ _ _ => @after_total {d with nextId:=d.nextId+1} total _ _ _ _
  unfold Daemon.accept
  dsimp only
  split
  · exact added _ _ _
  · exact added _ _ _

theorem mgmt_bytes {event : MgmtEvent} (inside : ∀ sel globals, event ≠ .elsewhere sel globals)
    (ran : mgmtStep s event = some after) :
    after.globals.metrics.bytesTransferred = s.globals.metrics.bytesTransferred := by
  cases event with
  | accept clientFd nio memory =>
      unfold mgmtStep at ran
      dsimp only at ran
      split at ran
      · split at ran
        · cases ran
          rfl
        · cases ran
          unfold passiveCpSocketHandler
          dsimp only
          split
          · rfl
          · rfl
      · cases ran
  | event kind id env =>
      obtain ⟨cpc,live,ran⟩ := Option.bind_eq_some_iff.mp ran
      obtain ⟨session,served,rfl⟩ := Option.map_eq_some_iff.mp ran
      rcases event_metrics live served with ⟨_,_,metrics⟩ | ⟨_,metrics⟩
      · exact congrArg Metrics.bytesTransferred metrics
      · dsimp only
        rw [metrics]
        rfl
  | elsewhere sel globals => exact absurd rfl (inside sel globals)

theorem step_total (total : d.mgmt.globals.metrics.bytesTransferred = transferred (d.log.map Prod.snd))
    (alive : next.done = false) (ran : daemonStep d e = some next) :
    next.mgmt.globals.metrics.bytesTransferred = transferred (next.log.map Prod.snd) := by
  cases daemon_steps ran with
  | @accept listener socket nio _ _ => exact accept_total total socket nio
  | acceptMgmt _ accepted => exact (mgmt_bytes (fun _ _ same => by cases same) accepted).trans total
  | event _ _ _ => exact after_total total _ _ _ _
  | mgmtEvent handled => exact (mgmt_bytes (fun _ _ same => by cases same) handled).trans total
  | resolved _ _ => exact total
  | sigterm => cases alive

theorem moves_spare (talking : (d.session id).Talking client) (granted : d.grants e = true) :
    ∀ move ∈ d.moves id e, move.spares client = true := by
  intro move member
  cases e with
  | event kind fd env =>
      unfold Daemon.moves at member
      dsimp only at member
      split at member
      · rename_i own
        rw [List.mem_singleton.mp member]
        obtain ⟨⟨owner,socks⟩,found,same⟩ := (Option.any_eq_true _ _).mp own
        have same := of_decide_eq_true same
        subst same
        have client_ := (talking.live socks (entry_open found)).1.own
        unfold Daemon.grants at granted
        dsimp only at granted
        rw [found,Option.all_some,client_] at granted
        exact granted
      · rw [List.mem_singleton.mp member]
        rfl
  | resolved number addrs =>
      unfold Daemon.moves at member
      dsimp only at member
      split at member
      · rw [List.mem_singleton.mp member]
        rfl
      · cases member
  | accept listener socket nio =>
      rw [List.mem_singleton.mp member]
      rfl
  | acceptMgmt listener clientFd nio memory =>
      rw [List.mem_singleton.mp member]
      rfl
  | mgmtEvent kind number env =>
      rw [List.mem_singleton.mp member]
      rfl
  | sigterm =>
      rw [List.mem_singleton.mp member]
      rfl

theorem step_counting (counting : d.Counting) (alive : next.done = false) (ran : grantedStep d e = some next) :
    next.Counting := by
  obtain ⟨granted,stepped⟩ := grantedStep_parts ran
  refine ⟨?_,step_total counting.total alive stepped,step_numbered counting.numbered alive stepped⟩
  intro id given
  by_cases earlier : id < d.nextId
  · obtain ⟨client,talking⟩ := counting.talking id earlier
    exact ⟨client,runs_talking talking (moves_spare talking granted) (step_lane earlier alive stepped).2⟩
  · cases daemon_steps stepped with
    | @accept listener socket nio _ _ =>
        rw [accept_given] at given
        obtain rfl : id = d.nextId := by omega
        refine ⟨socket,?_⟩
        rw [accept_opened counting.numbered]
        exact opened_talking _ _ _ socket
    | acceptMgmt _ _ => exact absurd given earlier
    | event _ _ _ => exact absurd given earlier
    | mgmtEvent _ => exact absurd given earlier
    | resolved _ _ => exact absurd given earlier
    | sigterm => cases alive

theorem runs_counting {socks mng : List Int} {users : UserTable} {sniffer : Bool} {events : List DaemonEvent}
    (path : GrantedRuns (daemonStart socks mng users sniffer) events d) (alive : d.done = false) : d.Counting := by
  have counting := @Transitions.Runs.invariant _ _ _ _ _ _ (fun d : Daemon => d.done = false → d.Counting) path
    (fun _ => ⟨fun _ given => absurd given (Nat.not_lt_zero _),rfl,
      fun _ member => absurd member List.not_mem_nil,fun _ _ => rfl⟩)
    (fun _ _ _ held ran alive => step_counting (held (step_alive (grantedStep_parts ran).2)) alive ran)
  exact counting alive

theorem bytes_metered {socks mng : List Int} {users : UserTable} {sniffer : Bool} {events : List DaemonEvent}
    (path : GrantedRuns (daemonStart socks mng users sniffer) events d) (alive : d.done = false) :
    ∃ counts : Nat → Nat, (∀ id < d.nextId, ∃ client, Relayed client (callsOf id d.log) (counts id)) ∧
      d.mgmt.globals.metrics.bytesTransferred = ∑ id ∈ range d.nextId, (counts id : Int) := by
  obtain ⟨talking,total,numbered⟩ := runs_counting path alive
  have counted : ∀ id, ∃ count : Nat, id < d.nextId → (∃ client, Relayed client (callsOf id d.log) count) ∧
      transferred (callsOf id d.log) = count := by
    intro id
    by_cases given : id < d.nextId
    · obtain ⟨client,talks⟩ := talking id given
      obtain ⟨count,relayed,same⟩ := conversation_relayed (talking_conversation talks)
      exact ⟨count,fun _ => ⟨⟨client,relayed⟩,same⟩⟩
    · exact ⟨0,fun below => absurd below given⟩
  choose counts known using counted
  refine ⟨counts,fun id given => (known id given).1,?_⟩
  have parts : transferred (d.log.map Prod.snd) = ∑ id ∈ range d.nextId, transferred (callsOf id d.log) :=
    Shares.shares_total rfl transferred_cons numbered.calls
  rw [total,parts]
  exact sum_congr rfl fun id member => (known id (mem_range.mp member)).2

-- Two clients: what one relays is counted, and what the other is told is not.
theorem visit_metered : ∃ d, Transitions.exec grantedStep (daemonStart [3] [4] .empty true)
      ([.accept 3 5 true,.accept 3 7 true] ++ visit ++ [writes 7 [0x05,0x01,0x02],drains 7 2]) = some d ∧
    d.mgmt.globals.metrics.bytesTransferred = 3 ∧
    ∃ counts : Nat → Nat, (∀ id < d.nextId, ∃ client, Relayed client (callsOf id d.log) (counts id)) ∧
      d.mgmt.globals.metrics.bytesTransferred = ∑ id ∈ range d.nextId, (counts id : Int) := by
  have facts : (Transitions.exec grantedStep (daemonStart [3] [4] .empty true)
      ([.accept 3 5 true,.accept 3 7 true] ++ visit ++ [writes 7 [0x05,0x01,0x02],drains 7 2])).map (fun d =>
        (d.done,d.mgmt.globals.metrics.bytesTransferred)) = some (false,3) := by decide +kernel
  obtain ⟨d,ran,facts⟩ := Option.map_eq_some_iff.mp facts
  obtain ⟨alive,bytes⟩ := Prod.mk.inj facts
  exact ⟨d,ran,bytes,bytes_metered (Transitions.exec_runs ran) alive⟩

end Socks5d
