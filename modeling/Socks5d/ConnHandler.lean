import Socks5d.Copy

namespace Socks5d

inductive EventKind where
  | read
  | write
  | block
  deriving DecidableEq, Repr

def EventKind.wants : EventKind → FdInterest → Bool
  | .read,i => i.read
  | .write,i => i.write
  | .block,_ => false

abbrev StateHandler := Env → SelectorKey → Selector → SocksConnModel → Outcome

def stateHandler : EventKind → SocksState → Option StateHandler
  | .read,.helloRead => some helloRead
  | .write,.helloWrite => some helloWrite
  | .read,.authRead => some authRead
  | .write,.authWrite => some authWrite
  | .read,.reqRead => some reqRead
  | .write,.reqWrite => some reqWrite
  | .block,.reqDns => some (fun env key sel socks => reqDns env key sel socks [])
  | .write,.reqConnect => some reqConnect
  | .read,.copy => some copyRead
  | .write,.copy => some copyWrite
  | _,_ => none

def onArrival (env : Env) (state : SocksState) (socks : SocksConnModel) : SocksConnModel :=
  match state with
  | .copy => copyOnArrival env socks
  | _ => socks

-- DONE is the last state of the enumeration, so next > max_state is impossible.
def jump (env : Env) (out : Outcome) : Outcome :=
  if out.socks.stm = some out.next then out
  else {out with socks:=onArrival env out.next {out.socks with stm:=some out.next}}

def handleFirst (socks : SocksConnModel) : SocksConnModel :=
  {socks with stm:=some (socks.stm.getD .helloRead)}

-- `none` is the abort() for an event that the current state has no handler for.
def stmHandler (kind : EventKind) (env : Env) (key : SelectorKey) (sel : Selector)
    (socks : SocksConnModel) : Option Outcome :=
  (stateHandler kind (socks.stm.getD .helloRead)).map fun handler =>
    jump env (handler env key sel (handleFirst socks))

def closeSocksConn (sel : Selector) (socks : SocksConnModel) : Selector × List Effect :=
  let clientSocket := socks.cliConn.socket
  let serverSocket := socks.srcConn.socket
  let server := if serverSocket ≠ -1 then
      ((selectorUnregisterFd sel serverSocket).2,[Effect.close serverSocket])
    else (sel,[])
  let client := if clientSocket ≠ -1 then
      ((selectorUnregisterFd server.1 clientSocket).2,
        [Effect.removeCurrentSocksConnection,.close clientSocket])
    else (server.1,[])
  (client.1,server.2 ++ client.2 ++ (if socks.resolvedAddr ≠ [] then [.freeAddrInfo] else []))

-- socks_conn_read, socks_conn_write and socks_conn_block; the connection is freed
-- when check_state closes it.
structure Served where
  sel : Selector
  socks : Option SocksConnModel
  effects : List Effect
  next : SocksState

def checkState (out : Outcome) : Served :=
  if out.next = .error || out.next = .done then
    let closed := closeSocksConn out.sel out.socks
    ⟨closed.1,none,out.effects ++ closed.2,out.next⟩
  else ⟨out.sel,some out.socks,out.effects,out.next⟩

def socksConnEvent (kind : EventKind) (env : Env) (key : SelectorKey) (sel : Selector)
    (socks : SocksConnModel) : Option Served :=
  (stmHandler kind env key sel socks).map checkState

end Socks5d
