import Socks5d.Daemon
import Socks5d.Foundations.Gauge

namespace Socks5d.ControlProtocol
open Gauges

def Metrics.socks (m : Metrics) : Gauge := ⟨m.historicSocksConnections,m.currentSocksConnections⟩
def Metrics.mgmt (m : Metrics) : Gauge := ⟨m.historicMgmtConnections,m.currentMgmtConnections⟩

-- The control connections and the gauge kept for them. The list is here for what cleanup
-- makes of it.
structure MgmtMeter (gauge : Gauge) (conns : Nat → Option ControlProtConn) (nodes : List (Nat × Int))
    (nextId strays : Nat) : Prop where
  tracks : gauge.Tracks (living conns nextId) strays
  fresh : ∀ id, nextId ≤ id → conns id = none
  once : (nodes.map Prod.fst).Nodup
  known : ∀ id ∈ nodes.map Prod.fst, id < nextId

def MgmtServer.Metered (s : MgmtServer) (strays : Nat) : Prop :=
  MgmtMeter s.globals.metrics.mgmt s.conns s.connList.nodes s.nextId strays

variable {gauge : Gauge} {conns : Nat → Option ControlProtConn} {nodes : List (Nat × Int)} {nextId strays id : Nat}
  {cpc : ControlProtConn} {fd : Int} {env : CpEnv} {key : SelectorKey} {sel : Selector} {g : Globals} {kind : EventKind}
  {state : ControlProtStmState} {s next : MgmtServer} {session after : ControlSession} {data : Nat}

theorem command_metrics {code : CpCommandCode} {command : Command} (found : commandOf code = some command)
    (malloc : Bool) (g : Globals) (parser : CpCommandParser) : (command malloc g parser).2.metrics = g.metrics := by
  have dissectors : ∀ value, (switchPassDissectors value malloc g parser).2.metrics = g.metrics := by
    intro value
    unfold switchPassDissectors
    split
    · rfl
    · rfl
  cases code with
  | addUser =>
      cases found
      unfold addProxyUser
      split
      · rfl
      · dsimp only
        split
        · rfl
        · rfl
  | remUser =>
      cases found
      unfold removeProxyUser
      split
      · rfl
      · dsimp only
        split
        · rfl
        · rfl
  | changePass =>
      cases found
      unfold changePassword
      split
      · rfl
      · dsimp only
        split
        · split
          · rfl
          · rfl
        · rfl
  | listUsers => cases found; rfl
  | getMetrics =>
      cases found
      unfold getMetrics
      split
      · rfl
      · rfl
  | dissectorOn => cases found; exact dissectors true
  | dissectorOff => cases found; exact dissectors false
  | noCommand => cases found
  | authentication => cases found

theorem executeAnswer_globals (answer : List UInt8) (called : List CpEffect) :
    (executeAnswer env sel g cpc answer called).globals = g := by
  rcases executeAnswer_cases env sel g cpc answer called with ⟨_,ran⟩ | ⟨_,ran⟩
  · rw [ran]
  · rw [ran]

theorem handler_metrics {handler : CpStateHandler} (found : cpStateHandler kind state = some handler)
    (going : state ≠ .error) : (handler env key sel g cpc).globals.metrics = g.metrics := by
  rcases cpStateHandler_cases found with ⟨_,_,rfl⟩ | ⟨_,⟨_,rfl⟩ | ⟨_,rfl⟩⟩ | ⟨_,⟨_,rfl⟩ | ⟨_,rfl⟩⟩ | ⟨error,_⟩
  · rcases helloWrite_cases env key sel g cpc with ⟨_,_,ran⟩ | ⟨_,ran⟩ | ⟨_,_,ran⟩ | ⟨_,ran⟩
    all_goals rw [ran]
  · unfold authRead
    split
    · rfl
    · dsimp only
      split
      · rfl
      · split
        · rfl
        · rfl
  · rcases authWrite_cases env key sel g cpc with ⟨_,_,ran⟩ | ⟨_,_,ran⟩ | ⟨_,_,ran⟩ | ⟨_,_,_,ran⟩ | ⟨_,_,_,ran⟩
    all_goals rw [ran]
  · unfold executeRead
    split
    · rfl
    · dsimp only
      split
      · rfl
      · split
        · rfl
        · rfl
  · rcases executeWrite_cases env key sel g cpc with ⟨_,_,ran⟩ | ⟨_,_,ran⟩ | ⟨answer,_,_,ran⟩ | ⟨_,_,_,ran⟩ |
      ⟨command,_,_,code,ran⟩
    · rw [ran]
    · rw [ran]
    · rw [ran,executeAnswer_globals]
    · rw [ran]
    · rw [ran]
      have same := command_metrics code env.malloc g cpc.commandParser
      cases (command env.malloc g cpc.commandParser).1 with
      | none => exact same
      | some answer =>
          dsimp only
          rw [executeAnswer_globals]
          exact same
  · exact absurd error going

theorem event_metrics (live : session.cpc = some cpc) (ran : controlStep data session (.event kind env) = some after) :
    (∃ left, after.cpc = some left ∧ after.globals.metrics = session.globals.metrics) ∨
    (after.cpc = none ∧ after.globals.metrics = removeCurrentMgmtConnection session.globals.metrics) := by
  obtain ⟨same,found_,_,handled⟩ := controlStep_handled ran
  cases live.symm.trans found_
  cases handled with
  | ended result _ _ _ => exact .inr ⟨rfl,rfl⟩
  | read called buff handler out _ found gave =>
      by_cases error : cpc.current = .error
      · rw [error] at found
        cases found
        subst gave
        exact .inr ⟨rfl,rfl⟩
      · obtain ⟨⟨left,stays,_⟩,_⟩ := @handler_stays (cpc.handed buff) env ⟨cpc.fd,data⟩ session.sel session.globals
          _ _ handler found error
        have kept := @handler_metrics (cpc.handed buff) env ⟨cpc.fd,data⟩ session.sel session.globals _ _ handler found error
        rw [gave] at stays kept
        exact .inl ⟨left.jumped out.next,(congrArg (Option.map _) stays).trans rfl,kept⟩
  | dropped handler out found gave gone =>
      obtain ⟨_,rfl⟩ := dropped_error found ((congrArg _ gave).trans gone)
      subst gave
      exact .inr ⟨rfl,rfl⟩
  | wrote handler out middle served found gave left flushes =>
      have going := kept_sane found ((congrArg _ gave).trans left)
      have kept := @handler_metrics (cpc.handed cpc.readBuffer) env ⟨cpc.fd,data⟩ session.sel session.globals _ _
        handler found going
      rw [gave] at kept
      cases flushes with
      | stopped => exact .inl ⟨_,rfl,kept⟩
      | idle => exact .inl ⟨_,rfl,kept⟩
      | sent bytes => exact .inl ⟨_,rfl,kept⟩
      | broken => exact .inr ⟨rfl,congrArg removeCurrentMgmtConnection kept⟩

end Socks5d.ControlProtocol
