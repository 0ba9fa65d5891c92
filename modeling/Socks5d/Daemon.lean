import Socks5d.ConnList
import Socks5d.HandlerCalls
import Socks5d.Server

namespace Socks5d.ControlProtocol

def cpCloseHandler (s : MgmtServer) (id : Nat) (cpc : ControlProtConn) : MgmtServer :=
  let freed := freeControlProtConn cpc s.sel s.globals []
  {s with
    sel:=freed.sel
    globals:=freed.globals
    conns:=Function.update s.conns id freed.cpc
    connList:=removeFromList s.connList cpc.fd}

-- A node whose connection was freed before is read as it was left, and freed again.
def freeNode (s : MgmtServer) (node : Nat × Int) : MgmtServer :=
  let current := (s.conns node.1).getD (newControlProtConn node.2)
  let freed := freeControlProtConn current s.sel s.globals []
  {s with sel:=freed.sel,globals:=freed.globals,conns:=Function.update s.conns node.1 freed.cpc}

def freeRec (s : MgmtServer) : List (Nat × Int) → MgmtServer
  | [] => s
  | current::nextConn => freeNode (freeRec s nextConn) current

def freeCpConnList (s : MgmtServer) : MgmtServer := freeRec s s.connList.nodes

end Socks5d.ControlProtocol

namespace Socks5d
open ControlProtocol (Metrics MgmtServer CpEnv mgmtStep mgmtStart addSocksConnection cpCloseHandler freeCpConnList)

-- The whole process: the control connections with the selector and the globals, and the
-- SOCKS connections by the number of their creation. `log` lists the calls of the latter,
-- and `done` says that sigterm_handler ran.
structure Daemon where
  mgmt : MgmtServer
  conn : Nat → Option SocksConnModel
  nextId : Nat
  currUser : Option (List UInt8)
  log : List (Nat × Effect)
  done : Bool

inductive DaemonEvent where
  | accept (listener socket : Int) (nio : Bool)
  | acceptMgmt (listener clientFd : Int) (nio memory : Bool)
  | event (kind : EventKind) (fd : Int) (env : Env)
  | mgmtEvent (kind : EventKind) (id : Nat) (env : CpEnv)
  | resolved (id : Nat) (addrs : List AddrInfo)
  | sigterm

def Effect.onMetrics (m : Metrics) : Effect → Metrics
  | .removeCurrentSocksConnection => ControlProtocol.removeCurrentSocksConnection m
  | .addBytesTransferred bytes => ControlProtocol.addBytesTransferred m bytes
  | _ => m

def Effect.onCurrUser (user : Option (List UInt8)) : Effect → Option (List UInt8)
  | .setCurrUser username => some username
  | _ => user

def Daemon.after (d : Daemon) (id : Nat) (sel : Selector) (conn : Option SocksConnModel) (effects : List Effect) :
    Daemon :=
  {d with
    mgmt.sel:=sel
    mgmt.globals.metrics:=effects.foldl Effect.onMetrics d.mgmt.globals.metrics
    conn:=Function.update d.conn id conn
    currUser:=effects.foldl Effect.onCurrUser d.currUser
    log:=d.log ++ effects.map fun effect => (id,effect)}

def Daemon.close (d : Daemon) (id : Nat) (sel : Selector) (socks : SocksConnModel) : Daemon :=
  let closed := closeSocksConn sel socks
  d.after id closed.1 none closed.2

def Daemon.accept (d : Daemon) (socket : Int) (nio : Bool) : Daemon :=
  let (sel,ends) := passiveSocksSocketHandler d.mgmt.sel d.nextId socket nio
  let next := {d with nextId:=d.nextId+1}
  if ends then next.close d.nextId sel (acceptedConn socket)
  else
    let opened := next.after d.nextId sel (some (acceptedConn socket)) []
    {opened with mgmt.globals.metrics:=addSocksConnection opened.mgmt.globals.metrics}

def Daemon.listens (d : Daemon) (handler : FdHandler) (listener : Int) : Bool :=
  (d.mgmt.sel.registered listener).any fun item => decide (item.handler = some handler) && item.interest.read

def Daemon.asks (d : Daemon) (kind : EventKind) (fd : Int) : Bool :=
  decide (kind = .block) || (d.mgmt.sel.registered fd).any fun item => kind.wants item.interest

def Daemon.entry (d : Daemon) (fd : Int) : Option (Nat × SocksConnModel) :=
  (d.mgmt.sel.registered fd).bind fun item =>
    if item.handler = some .connActions then
      item.data.bind fun id => (d.conn id).map fun socks => (id,socks)
    else none

def Daemon.sees (d : Daemon) (env : Env) : Env :=
  {env with users:=d.mgmt.globals.users,currUser:=d.currUser,sniffer:=d.mgmt.globals.sniffer}

def Daemon.handleClose (d : Daemon) (item : Item) : Daemon :=
  match item.handler,item.data with
  | some .connActions,some id => match d.conn id with
    | some socks => d.close id d.mgmt.sel socks
    | none => d
  | some .cpFd,some id => match d.mgmt.conns id with
    | some cpc => {d with mgmt:=cpCloseHandler d.mgmt id cpc}
    | none => d
  | _,_ => d

def Daemon.unregisterClosing (d : Daemon) (fd : Nat) : Daemon :=
  match d.mgmt.sel.registered fd with
  | some item =>
    let closed := d.handleClose item
    {closed with mgmt.sel:=(selectorUnregisterFd closed.mgmt.sel fd).2}
  | none => d

def Daemon.selectorDestroy (d : Daemon) : Daemon :=
  (List.range d.mgmt.sel.fds.length).foldl Daemon.unregisterClosing d

def Daemon.cleanup (d : Daemon) : Daemon := {d with mgmt:=freeCpConnList d.mgmt}.selectorDestroy

def Daemon.serve (d : Daemon) : DaemonEvent → Option Daemon
  | .accept listener socket nio =>
    if d.listens .passiveSocketFd listener && decide (-1 ≤ socket) then some (d.accept socket nio) else none
  | .acceptMgmt listener clientFd nio memory =>
    if d.listens .passiveSocketFdMng listener then
      (mgmtStep d.mgmt (.accept clientFd nio memory)).map fun mgmt => {d with mgmt:=mgmt}
    else none
  | .event kind fd env =>
    if d.asks kind fd then
      (d.entry fd).bind fun (id,socks) => (socksConnEvent kind (d.sees env) ⟨fd,id⟩ d.mgmt.sel socks).map fun served =>
        d.after id served.sel served.socks served.effects
    else none
  | .mgmtEvent kind id env => (mgmtStep d.mgmt (.event kind id env)).map fun mgmt => {d with mgmt:=mgmt}
  | .resolved id addrs => (d.conn id).bind fun socks =>
    if socks.stm = some .reqDns then
      some {d with conn:=Function.update d.conn id (some {socks with resolvedAddr:=addrs,currAddr:=addrs})}
    else none
  | .sigterm => some {d.cleanup with done:=true}

def daemonStep (d : Daemon) (e : DaemonEvent) : Option Daemon := if d.done then none else d.serve e

-- start_server: the listening sockets are registered first.
def startServer (socks mng : List Int) : Selector :=
  let sel := socks.foldl (fun sel fd => (selectorRegister sel fd (some .passiveSocketFd) opRead none).2) mainSelector
  mng.foldl (fun sel fd => (selectorRegister sel fd (some .passiveSocketFdMng) opRead none).2) sel

def daemonStart (socks mng : List Int) (users : UserTable) (sniffer : Bool) : Daemon :=
  ⟨mgmtStart (startServer socks mng) ⟨users,sniffer,.start⟩,fun _ => none,0,none,[],false⟩

abbrev DaemonRuns := Transitions.Runs fun d e next => daemonStep d e = some next

theorem entry_open {d : Daemon} {fd : Int} {id : Nat} {socks : SocksConnModel}
    (found : d.entry fd = some (id,socks)) : d.conn id = some socks := by
  obtain ⟨item,_,found⟩ := Option.bind_eq_some_iff.mp found
  split at found
  · obtain ⟨number,_,found⟩ := Option.bind_eq_some_iff.mp found
    obtain ⟨stored,live,same⟩ := Option.map_eq_some_iff.mp found
    cases same
    exact live
  · cases found

inductive Daemon.Steps (d : Daemon) : DaemonEvent → Daemon → Prop where
  | accept {listener socket nio} : d.listens .passiveSocketFd listener = true → -1 ≤ socket →
      d.Steps (.accept listener socket nio) (d.accept socket nio)
  | acceptMgmt {listener clientFd nio memory mgmt} : d.listens .passiveSocketFdMng listener = true →
      mgmtStep d.mgmt (.accept clientFd nio memory) = some mgmt →
      d.Steps (.acceptMgmt listener clientFd nio memory) {d with mgmt:=mgmt}
  | event {kind fd env id socks served} : d.asks kind fd = true → d.entry fd = some (id,socks) →
      socksConnEvent kind (d.sees env) ⟨fd,id⟩ d.mgmt.sel socks = some served →
      d.Steps (.event kind fd env) (d.after id served.sel served.socks served.effects)
  | mgmtEvent {kind id env mgmt} : mgmtStep d.mgmt (.event kind id env) = some mgmt →
      d.Steps (.mgmtEvent kind id env) {d with mgmt:=mgmt}
  | resolved {id addrs socks} : d.conn id = some socks → socks.stm = some .reqDns →
      d.Steps (.resolved id addrs)
        {d with conn:=Function.update d.conn id (some {socks with resolvedAddr:=addrs,currAddr:=addrs})}
  | sigterm : d.Steps .sigterm {d.cleanup with done:=true}

theorem daemon_steps {d next : Daemon} {e : DaemonEvent} (ran : daemonStep d e = some next) : d.Steps e next := by
  unfold daemonStep at ran
  split at ran
  · cases ran
  · cases e with
    | accept listener socket nio =>
        unfold Daemon.serve at ran
        dsimp only at ran
        split at ran
        · rename_i allowed
          obtain ⟨listens,made⟩ := Bool.and_eq_true_iff.mp allowed
          cases ran
          exact .accept listens (of_decide_eq_true made)
        · cases ran
    | acceptMgmt listener clientFd nio memory =>
        unfold Daemon.serve at ran
        dsimp only at ran
        split at ran
        · rename_i listens
          obtain ⟨mgmt,accepted,rfl⟩ := Option.map_eq_some_iff.mp ran
          exact .acceptMgmt listens accepted
        · cases ran
    | event kind fd env =>
        unfold Daemon.serve at ran
        dsimp only at ran
        split at ran
        · rename_i asks
          obtain ⟨⟨id,socks⟩,found,ran⟩ := Option.bind_eq_some_iff.mp ran
          obtain ⟨served,handled,rfl⟩ := Option.map_eq_some_iff.mp ran
          exact .event asks found handled
        · cases ran
    | mgmtEvent kind id env =>
        obtain ⟨mgmt,handled,rfl⟩ := Option.map_eq_some_iff.mp ran
        exact .mgmtEvent handled
    | resolved id addrs =>
        obtain ⟨socks,live,ran⟩ := Option.bind_eq_some_iff.mp ran
        split at ran
        · rename_i waits
          cases ran
          exact .resolved live waits
        · cases ran
    | sigterm =>
        cases ran
        exact .sigterm

end Socks5d
