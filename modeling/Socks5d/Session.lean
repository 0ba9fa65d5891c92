import Socks5d.Handlers
import Socks5d.Foundations.Transitions

namespace Socks5d

structure Session where
  sel : Selector
  conn : Option SocksConnModel
  trace : List Effect

-- `resolved` is the DNS thread storing its result; `elsewhere` is whatever the other
-- connections do to the selector between two events of this one.
inductive SessionEvent where
  | event (kind : EventKind) (fd : Int) (env : Env)
  | resolved (addrs : List AddrInfo)
  | elsewhere (sel : Selector)

def acceptedConn (fd : Int) : SocksConnModel := {newSocksConn with cliConn.socket:=fd}

def newSession (sel : Selector) (fd : Int) : Session := ⟨sel,some (acceptedConn fd),[]⟩

def sessionStep (data : Nat) (s : Session) : SessionEvent → Option Session
  | .event kind fd env => s.conn.bind fun socks =>
    (socksConnEvent kind env ⟨fd,data⟩ s.sel socks).map fun served =>
      ⟨served.sel,served.socks,s.trace ++ served.effects⟩
  | .resolved addrs => s.conn.bind fun socks =>
    if socks.stm = some .reqDns then
      some {s with conn:=some {socks with resolvedAddr:=addrs,currAddr:=addrs}}
    else none
  | .elsewhere sel => some {s with sel:=sel}

-- handle_iteration calls a handler only for what the entry asks for now.
def Session.ready (s : Session) : SessionEvent → Bool
  | .event .block _ _ => true
  | .event kind fd _ => (s.sel.registered fd).any fun item => kind.wants item.interest
  | .resolved _ => true
  | .elsewhere _ => true

def servedStep (data : Nat) (s : Session) (e : SessionEvent) : Option Session :=
  if s.ready e then sessionStep data s e else none

def SocksConnModel.current (socks : SocksConnModel) : SocksState := socks.stm.getD .helloRead

variable {data : Nat} {s next : Session} {socks after : SocksConnModel} {env : Env} {fd : Int} {kind : EventKind}

theorem event_parts (ran : sessionStep data s (.event kind fd env) = some next)
    (live : s.conn = some socks) (going : next.conn = some after) :
    ∃ handler, stateHandler kind socks.current = some handler ∧
      let out := handler env ⟨fd,data⟩ s.sel (handleFirst socks)
      after = (jump env out).socks ∧ after.stm = some out.next ∧ next.trace = s.trace ++ out.effects ∧
      next.sel = out.sel ∧ out.next ≠ .error ∧ out.next ≠ .done := by
  unfold sessionStep socksConnEvent stmHandler at ran
  rw [live] at ran
  simp only [Option.bind_some,Option.map_map,Option.map_eq_some_iff] at ran
  obtain ⟨handler,found,served⟩ := ran
  refine ⟨handler,found,?_⟩
  obtain ⟨selector,effects,kept,stm,_⟩ := jump_parts env (handler env ⟨fd,data⟩ s.sel (handleFirst socks))
  subst served
  unfold Function.comp checkState at going ⊢
  dsimp only at going ⊢
  split at going
  · cases going
  · rename_i open_
    rw [if_neg open_]
    cases going
    refine ⟨rfl,stm,by rw [effects],selector,?_,?_⟩
    · intro error
      exact open_ (by rw [kept,error]; rfl)
    · intro done
      exact open_ (by rw [kept,done]; rfl)

theorem stateHandler_cases {handler : StateHandler} {state : SocksState}
    (found : stateHandler kind state = some handler) :
    (state = .helloRead ∧ kind = .read ∧ handler = helloRead) ∨
    (state = .helloWrite ∧ kind = .write ∧ handler = helloWrite) ∨
    (state = .authRead ∧ kind = .read ∧ handler = authRead) ∨
    (state = .authWrite ∧ kind = .write ∧ handler = authWrite) ∨
    (state = .reqRead ∧ kind = .read ∧ handler = reqRead) ∨
    (state = .reqWrite ∧ kind = .write ∧ handler = reqWrite) ∨
    (state = .reqDns ∧ kind = .block ∧ handler = fun env key sel socks => reqDns env key sel socks []) ∨
    (state = .reqConnect ∧ kind = .write ∧ handler = reqConnect) ∨
    (state = .copy ∧ (kind = .read ∧ handler = copyRead ∨ kind = .write ∧ handler = copyWrite)) := by
  cases state <;> cases kind <;> first | (cases found; done) | (cases found; simp)

-- A connection accepted on descriptor 5 by a server with one user, and what its client and its origin on
-- descriptor 6 may do.
def oneUser : UserTable := (addUser .empty [0x61,0x6c] [0x73,0x65]).2

def acceptedSelector : Selector := (selectorRegister mainSelector 5 (some .connActions) opRead (some 1)).2

def clientSends (users : UserTable) (bytes : List UInt8) : SessionEvent :=
  .event .read 5 {quiet with recv:=.data bytes,users:=users,socket:=6,connect:=.failed einprogress}

def clientTakes (users : UserTable) (count : Nat) : SessionEvent :=
  .event .write 5 {quiet with send:=.sent count,users:=users}

def originConnects : SessionEvent := .event .write 6 {quiet with soError:=some 0}
def originSends (bytes : List UInt8) : SessionEvent := .event .read 6 {quiet with recv:=.data bytes}

def opening (more : List UInt8) : List SessionEvent :=
  [clientSends .empty [0x05,0x01,0x00],clientTakes .empty 2,
    clientSends .empty ([0x05,0x01,0x00,0x01,10,0,0,1,0,80] ++ more)]

end Socks5d
