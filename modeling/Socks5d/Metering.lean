import Socks5d.ControlMetering

namespace Socks5d
open Gauges ControlProtocol

structure SocksMeter (gauge : Gauge) (conn : Nat → Option SocksConnModel) (nextId strays : Nat) : Prop where
  tracks : gauge.Tracks (living conn nextId) strays
  fresh : ∀ id, nextId ≤ id → conn id = none
  opened : ∀ id socks, conn id = some socks → socks.cliConn.socket ≠ -1

structure Daemon.Gauged (d : Daemon) (socks mgmt : Nat) : Prop where
  socks : SocksMeter d.mgmt.globals.metrics.socks d.conn d.nextId socks
  mgmt : d.mgmt.Metered mgmt

structure Daemon.Metered (d : Daemon) : Prop where
  socks : d.mgmt.globals.metrics.socks.Counts (living d.conn d.nextId)
  mgmt : d.mgmt.globals.metrics.mgmt.Counts (living d.mgmt.conns d.mgmt.nextId)

structure Meter where
  daemon : Daemon
  refusedSocks : Nat
  refusedMgmt : Nat
  freedAgain : Nat

variable {gauge : Gauge} {conn : Nat → Option SocksConnModel} {nextId strays mgmt id : Nat} {socks after : SocksConnModel}
  {fd : Int} {env : Env} {key : SelectorKey} {sel : Selector} {kind : EventKind} {d next : Daemon} {m : Meter}
  {effects : List Effect} {e : DaemonEvent} {served : Served}

def Meter.Sound (m : Meter) : Prop := m.daemon.Gauged m.refusedSocks (m.refusedMgmt + m.freedAgain)

end Socks5d
