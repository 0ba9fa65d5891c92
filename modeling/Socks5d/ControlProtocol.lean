import Socks5d.CpCommands
import Socks5d.ConnHandler
import Socks5d.Foundations.Transitions

namespace Socks5d.ControlProtocol

inductive ControlProtStmState where
  | hello
  | auth
  | execute
  | ok
  | error
  deriving DecidableEq, Repr

def ControlProtStmState.number : ControlProtStmState → Nat
  | .hello => 0
  | .auth => 1
  | .execute => 2
  | .ok => 3
  | .error => 4

def ControlProtStmState.maxState : Nat := ControlProtStmState.error.number

-- `connStm` is the current state of the machine, `none` before the first event.
structure ControlProtConn where
  fd : Int
  interests : FdInterest
  readBuffer : CertifiedBuffer
  writeBuffer : CertifiedBuffer
  connStm : Option ControlProtStmState
  currentState : ControlProtStmState
  authParser : CpAuthParser
  commandParser : CpCommandParser
  validPassword : Bool
  helloWritten : Bool
  authAnsWritten : Bool
  execAnsWritten : Bool
  execAnswer : Option (List UInt8)
  deriving DecidableEq

def bufferSize : Nat := 1024

def newControlProtConn (fd : Int) : ControlProtConn where
  fd := fd
  interests := opWrite
  readBuffer := .init bufferSize
  writeBuffer := .init bufferSize
  connStm := none
  currentState := .hello
  authParser := initCpAuthParser .zeroed
  commandParser := initCpCommandParser .zeroed
  validPassword := false
  helloWritten := false
  authAnsWritten := false
  execAnsWritten := false
  execAnswer := none

-- The answers of the calls that one event makes; `malloc` is for the answer's block, and
-- `behind` is what stands in memory behind what is stored there. `freed` is what stands
-- where a connection had its max_state once it is freed.
structure CpEnv where
  recv : Recv
  send : Send
  malloc : Bool
  behind : List UInt8
  freed : Nat
  deriving DecidableEq, Repr

-- `typed` and `parsed` list the bytes that authRead and executeRead take out of the read
-- buffer, `queued` those that a message adds to the write buffer. `verdict` is a call of
-- validatePassword, `run` a call of a command function, and `enter` a change of the
-- machine's state.
inductive CpEffect where
  | recv (result : Recv)
  | send (bytes : List UInt8)
  | typed (bytes : List UInt8)
  | parsed (bytes : List UInt8)
  | queued (bytes : List UInt8)
  | verdict (valid : Bool)
  | run (parser : CpCommandParser)
  | enter (state : ControlProtStmState)
  | removeFromList
  | close (fd : Int)
  deriving DecidableEq, Repr

-- The connection is `none` once it is freed.
structure CpOutcome where
  sel : Selector
  globals : Globals
  cpc : Option ControlProtConn
  effects : List CpEffect
  next : ControlProtStmState

structure CpServed where
  sel : Selector
  globals : Globals
  cpc : Option ControlProtConn
  effects : List CpEffect

abbrev CpStateHandler := CpEnv → SelectorKey → Selector → Globals → ControlProtConn → CpOutcome

def adminPassword : List UInt8 := ascii "pass1234"
def controlProtVersion : List UInt8 := ascii "0.1"

def validatePassword (authParser : CpAuthParser) : Bool := decide (adminPassword = cString authParser.inputPassword)

def freeControlProtConn (cpc : ControlProtConn) (sel : Selector) (g : Globals) (called : List CpEffect) : CpServed :=
  ⟨(selectorUnregisterFd sel cpc.fd).2,{g with metrics:=removeCurrentMgmtConnection g.metrics},none,
    called ++ [.close cpc.fd]⟩

def cpError : CpStateHandler := fun _ _ sel g cpc =>
  let freed := freeControlProtConn cpc sel g []
  ⟨freed.sel,freed.globals,none,freed.effects,.error⟩

-- totalLen counts the terminator of sprintf, which is sent along.
def helloMsg : List UInt8 := [statusSuccess,1] ++ controlProtVersion ++ [newline,0]

def helloWrite : CpStateHandler := fun _ key sel g cpc =>
  if cpc.helloWritten && !bufferCanRead cpc.writeBuffer.raw then
    ⟨(selectorSetInterest sel key.fd opRead).2,g,some {cpc with interests:=opRead},[],.auth⟩
  else if !cpc.helloWritten then
    if !bufferCanWrite cpc.writeBuffer.raw then ⟨sel,g,some cpc,[],.error⟩
    else if helloMsg.length > cpc.writeBuffer.space then ⟨sel,g,some cpc,[],.error⟩
    else ⟨sel,g,some {cpc with writeBuffer:=cpc.writeBuffer.fill helloMsg,helloWritten:=true},[.queued helloMsg],.hello⟩
  else ⟨sel,g,some cpc,[],.hello⟩

def authRead : CpStateHandler := fun _ key sel g cpc =>
  if !bufferCanRead cpc.readBuffer.raw then ⟨sel,g,some cpc,[],.error⟩
  else
    let unread := cpc.readBuffer.unread
    let (parser,buff) := parseBytes cpapParseByte CpAuthParser.failed CpAuthParser.finished unread.length
      cpc.authParser cpc.readBuffer
    let cpc := {cpc with authParser:=parser,readBuffer:=buff}
    let called := [CpEffect.typed (unread.take (unread.length - buff.unread.length))]
    if parser.failed then ⟨sel,g,some cpc,called,.error⟩
    else if parser.finished then
      ⟨(selectorSetInterest sel key.fd opWrite).2,g,
        some {cpc with validPassword:=validatePassword parser,authParser:=initCpAuthParser parser},
        called ++ [.verdict (validatePassword parser)],.auth⟩
    else ⟨sel,g,some cpc,called,.auth⟩

def authResult (validPassword : Bool) : List UInt8 :=
  if validPassword then [statusSuccess,0]
  else [statusError,1,ControlProtErrorCode.invalidPassword.byte,newline]

def authWrite : CpStateHandler := fun _ key sel g cpc =>
  if cpc.authAnsWritten && !bufferCanRead cpc.writeBuffer.raw then
    ⟨(selectorSetInterest sel key.fd opRead).2,g,some {cpc with interests:=opRead},[],.execute⟩
  else if cpc.authAnsWritten then ⟨sel,g,some cpc,[],.auth⟩
  else if !bufferCanWrite cpc.writeBuffer.raw then ⟨sel,g,some cpc,[],.auth⟩
  else if (authResult cpc.validPassword).length > cpc.writeBuffer.space then ⟨sel,g,some cpc,[],.auth⟩
  else
    let called := [CpEffect.queued (authResult cpc.validPassword)]
    let cpc := {cpc with writeBuffer:=cpc.writeBuffer.fill (authResult cpc.validPassword)}
    if !cpc.validPassword then
      ⟨(selectorSetInterest sel key.fd opRead).2,g,some {cpc with interests:=opRead},called,.auth⟩
    else ⟨sel,g,some {cpc with authAnsWritten:=true},called,.auth⟩

def executeRead : CpStateHandler := fun _ key sel g cpc =>
  if !bufferCanRead cpc.readBuffer.raw then ⟨sel,g,some cpc,[],.auth⟩
  else
    let unread := cpc.readBuffer.unread
    let (parser,buff) := parseBytes cpcpParseByte CpCommandParser.failed CpCommandParser.finished unread.length
      cpc.commandParser cpc.readBuffer
    let cpc := {cpc with commandParser:=parser,readBuffer:=buff}
    let called := [CpEffect.parsed (unread.take (unread.length - buff.unread.length))]
    if parser.failed then ⟨sel,g,some cpc,called,.error⟩
    else if parser.finished then
      ⟨(selectorSetInterest sel key.fd opWrite).2,g,
        some {cpc with commandParser:={parser with data:=parser.data.set parser.dataSize 0},interests:=opWrite},
        called,.execute⟩
    else ⟨sel,g,some cpc,called,.execute⟩

-- The answer goes out as a string: strlen finds its length.
def executeAnswer (env : CpEnv) (sel : Selector) (g : Globals) (cpc : ControlProtConn) (answer : List UInt8)
    (called : List CpEffect) : CpOutcome :=
  let ans := cString (answer ++ env.behind)
  if ans.length > cpc.writeBuffer.space then ⟨sel,g,some {cpc with execAnswer:=some answer},called,.execute⟩
  else
    ⟨sel,g,some {cpc with
      execAnswer:=some answer
      writeBuffer:=cpc.writeBuffer.fill ans
      execAnsWritten:=true
      commandParser:=initCpCommandParser cpc.commandParser},called ++ [.queued ans],.execute⟩

def executeWrite : CpStateHandler := fun env key sel g cpc =>
  if cpc.execAnsWritten && !bufferCanRead cpc.writeBuffer.raw then
    ⟨(selectorSetInterest sel key.fd opRead).2,g,
      some {cpc with execAnsWritten:=false,interests:=opRead,execAnswer:=none},[],.execute⟩
  else if cpc.execAnsWritten then ⟨sel,g,some cpc,[],.execute⟩
  else
    match cpc.execAnswer with
    | some answer => executeAnswer env sel g cpc answer []
    | none =>
      match commandOf cpc.commandParser.code with
      | none => ⟨sel,g,some cpc,[],.error⟩
      | some command =>
        let (answer,g) := command env.malloc g cpc.commandParser
        match answer with
        | none => ⟨sel,g,some cpc,[.run cpc.commandParser],.error⟩
        | some answer => executeAnswer env sel g cpc answer [.run cpc.commandParser]

def cpStateHandler : EventKind → ControlProtStmState → Option CpStateHandler
  | .write,.hello => some helloWrite
  | .read,.auth => some authRead
  | .write,.auth => some authWrite
  | .read,.execute => some executeRead
  | .write,.execute => some executeWrite
  | .read,.error => some cpError
  | .write,.error => some cpError
  | _,_ => none

def ControlProtConn.current (cpc : ControlProtConn) : ControlProtStmState := cpc.connStm.getD .hello

-- The machine and the assignment to currentState. No state of this table has an arrival
-- or a departure function.
def cpJumped (was : ControlProtStmState) (out : CpOutcome) : CpOutcome :=
  {out with
    cpc:=out.cpc.map fun cpc => {cpc with connStm:=some out.next,currentState:=out.next}
    effects:=out.effects ++ (if was = out.next then [] else [.enter out.next])}

-- A handler that frees the connection has freed the machine too, and jump goes by what is
-- left of it. `none` is the call of abort.
def cpJump (freed : Nat) (was : ControlProtStmState) (out : CpOutcome) : Option CpOutcome :=
  let maxState := if out.cpc.isSome then ControlProtStmState.maxState else freed
  if out.next.number > maxState then none else some (cpJumped was out)

def cpStmHandler (kind : EventKind) (env : CpEnv) (key : SelectorKey) (sel : Selector) (g : Globals)
    (cpc : ControlProtConn) : Option CpOutcome :=
  (cpStateHandler kind cpc.current).bind fun handler =>
    cpJump env.freed cpc.current (handler env key sel g {cpc with connStm:=some cpc.current})

def cpReadHandler (env : CpEnv) (key : SelectorKey) (sel : Selector) (g : Globals) (cpc : ControlProtConn) :
    Option CpServed :=
  if bufferCanWrite cpc.readBuffer.raw then
    match env.recv.clip cpc.readBuffer.space with
    | .data bytes =>
      (cpStmHandler .read env key sel g {cpc with readBuffer:=cpc.readBuffer.fill bytes}).map fun out =>
        ⟨out.sel,out.globals,out.cpc,[.recv (.data bytes)] ++ out.effects⟩
    | ended => some (freeControlProtConn cpc sel g [.recv ended,.removeFromList])
  else (cpStmHandler .read env key sel g cpc).map fun out => ⟨out.sel,out.globals,out.cpc,out.effects⟩

def cpFlush (env : CpEnv) (sel : Selector) (g : Globals) (cpc : ControlProtConn) (called : List CpEffect) : CpServed :=
  if bufferCanRead cpc.writeBuffer.raw then
    let bytes := env.send.bytes cpc.writeBuffer
    if bytes = [] then freeControlProtConn cpc sel g (called ++ [.send [],.removeFromList])
    else ⟨sel,g,some {cpc with writeBuffer:=cpc.writeBuffer.consume bytes.length},called ++ [.send bytes]⟩
  else ⟨sel,g,some cpc,called⟩

def cpWriteHandler (env : CpEnv) (key : SelectorKey) (sel : Selector) (g : Globals) (cpc : ControlProtConn) :
    Option CpServed :=
  (cpStmHandler .write env key sel g cpc).map fun out =>
    match out.cpc with
    | none => ⟨out.sel,out.globals,none,out.effects⟩
    | some cpc =>
      if cpc.currentState = .error then ⟨out.sel,out.globals,some cpc,out.effects⟩
      else cpFlush env out.sel out.globals cpc out.effects

-- cpFdHandler has no handle_block.
def cpEvent : EventKind → CpEnv → SelectorKey → Selector → Globals → ControlProtConn → Option CpServed
  | .read => cpReadHandler
  | .write => cpWriteHandler
  | .block => fun _ _ _ _ _ => none

structure ControlSession where
  sel : Selector
  globals : Globals
  cpc : Option ControlProtConn
  trace : List CpEffect

-- `elsewhere` is whatever the rest of the server does between two events.
inductive ControlEvent where
  | event (kind : EventKind) (env : CpEnv)
  | elsewhere (sel : Selector) (globals : Globals)

def ownEntry (data : Nat) (cpc : ControlProtConn) (sel : Selector) : Option Item :=
  (sel.registered cpc.fd).filter fun item => decide (item.handler = some .cpFd) && decide (item.data = some data)

-- The rest of the server may take the entry of this connection away, but does not
-- register it anew and does not change it.
def ControlSession.spares (data : Nat) (s : ControlSession) (sel : Selector) : Bool :=
  s.cpc.all fun cpc => decide (ownEntry data cpc sel = none) || decide (ownEntry data cpc sel = ownEntry data cpc s.sel)

def controlStep (data : Nat) (s : ControlSession) : ControlEvent → Option ControlSession
  | .event kind env => s.cpc.bind fun cpc =>
    if (ownEntry data cpc s.sel).any fun item => kind.wants item.interest then
      (cpEvent kind env ⟨cpc.fd,data⟩ s.sel s.globals cpc).map fun served =>
        ⟨served.sel,served.globals,served.cpc,s.trace ++ served.effects⟩
    else none
  | .elsewhere sel globals => if s.spares data sel then some {s with sel:=sel,globals:=globals} else none

def passiveCpSocketHandler (data : Nat) (sel : Selector) (g : Globals) (clientFd : Int) : ControlSession :=
  let new := newControlProtConn clientFd
  let (status,sel) := selectorRegister sel new.fd (some .cpFd) new.interests (some data)
  if status ≠ .success then
    let freed := freeControlProtConn new sel g []
    ⟨freed.sel,freed.globals,freed.cpc,freed.effects⟩
  else ⟨sel,{g with metrics:=addMgmtConnection g.metrics},some new,[]⟩

theorem cp_state_bounded (state : ControlProtStmState) : state.number ≤ ControlProtStmState.maxState := by
  cases state <;> decide

theorem cpJump_kept {freed : Nat} {was : ControlProtStmState} {out : CpOutcome} (kept : out.cpc.isSome = true) :
    cpJump freed was out = some (cpJumped was out) := by
  have bounded := cp_state_bounded out.next
  rw [cpJump,if_pos kept,if_neg (by omega)]

theorem cpJump_some {freed : Nat} {was : ControlProtStmState} {out after : CpOutcome}
    (jumps : cpJump freed was out = some after) : after = cpJumped was out :=
  (Option.some.inj (Option.ite_none_left_eq_some.mp jumps).2).symm

theorem cpStm_some {kind : EventKind} {env : CpEnv} {key : SelectorKey} {sel : Selector} {g : Globals}
    {cpc : ControlProtConn} {out : CpOutcome} (ran : cpStmHandler kind env key sel g cpc = some out) :
    ∃ handler, cpStateHandler kind cpc.current = some handler ∧
      cpJumped cpc.current (handler env key sel g {cpc with connStm:=some cpc.current}) = out := by
  obtain ⟨handler,found,jumps⟩ := Option.bind_eq_some_iff.mp ran
  exact ⟨handler,found,(cpJump_some jumps).symm⟩

abbrev ControlRuns (data : Nat) := Transitions.Runs fun s e next => controlStep data s e = some next

theorem spares_entry {data : Nat} {s : ControlSession} {sel : Selector} {cpc : ControlProtConn}
    (spared : s.spares data sel = true) (live : s.cpc = some cpc) :
    ownEntry data cpc sel = none ∨ ownEntry data cpc sel = ownEntry data cpc s.sel := by
  rw [ControlSession.spares,live,Option.all_some,Bool.or_eq_true] at spared
  exact spared.imp of_decide_eq_true of_decide_eq_true

theorem elsewhere_spares {data : Nat} {s next : ControlSession} {sel : Selector} {globals : Globals}
    (ran : controlStep data s (.elsewhere sel globals) = some next) :
    s.spares data sel = true ∧ {s with sel:=sel,globals:=globals} = next := by
  unfold controlStep at ran
  dsimp only at ran
  split at ran
  · rename_i spared
    cases ran
    exact ⟨spared,rfl⟩
  · cases ran

end Socks5d.ControlProtocol
