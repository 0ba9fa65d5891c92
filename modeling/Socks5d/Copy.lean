import Socks5d.Socks5

namespace Socks5d

def SocksConnModel.copyOf (socks : SocksConnModel) : Side → CopyModel
  | .cli => socks.cliCopy
  | .src => socks.srcCopy

def SocksConnModel.setCopy (socks : SocksConnModel) (side : Side) (copy : CopyModel) : SocksConnModel :=
  match side with
  | .cli => {socks with cliCopy:=copy}
  | .src => {socks with srcCopy:=copy}

-- The pointers read_buff and write_buff of a copy_model_t, as init_copy_structure
-- wires them: what one side writes is what the other side reads.
def SocksConnModel.copyReadBuff (socks : SocksConnModel) : Side → CertifiedBuffer
  | .cli => socks.readBuff
  | .src => socks.writeBuff

def SocksConnModel.copyWriteBuff (socks : SocksConnModel) : Side → CertifiedBuffer
  | .cli => socks.writeBuff
  | .src => socks.readBuff

def SocksConnModel.setReadBuff (socks : SocksConnModel) (side : Side) (buff : CertifiedBuffer) :
    SocksConnModel :=
  match side with
  | .cli => {socks with readBuff:=buff}
  | .src => {socks with writeBuff:=buff}

def SocksConnModel.setWriteBuff (socks : SocksConnModel) (side : Side) (buff : CertifiedBuffer) :
    SocksConnModel :=
  match side with
  | .cli => {socks with writeBuff:=buff}
  | .src => {socks with readBuff:=buff}

def initCopyStructure (socks : SocksConnModel) : Side → CopyModel
  | .cli => ⟨socks.cliConn.socket,opRead,opRead ||| opWrite⟩
  | .src => ⟨socks.srcConn.socket,opRead,opRead ||| opWrite⟩

def copyOnArrival (env : Env) (socks : SocksConnModel) : SocksConnModel :=
  let socks := {socks with cliCopy:=initCopyStructure socks .cli}
  let socks := {socks with srcCopy:=initCopyStructure socks .src}
  if env.sniffer then {socks with pop3Parser:=some (pop3ParserInit .raw)} else socks

def getCopy (fd : Int) (socks : SocksConnModel) : Option Side :=
  if fd = socks.cliConn.socket then some .cli
  else if fd = socks.srcConn.socket then some .src
  else none

def portNumber (port : List UInt8) : Nat := (port.getD 0 0).toNat*256+(port.getD 1 0).toNat

def copySniff (env : Env) (side : Side) (socks : SocksConnModel) : SocksConnModel × List Effect :=
  match socks.pop3Parser with
  | none => (socks,[])
  | some parser =>
    if portNumber socks.parsers.reqParser.port = pop3Port && env.sniffer then
      let parsed := pop3Parse parser (socks.copyWriteBuff side)
      let socks := {socks.setWriteBuff side parsed.2.2 with pop3Parser:=some parsed.2.1}
      (socks,if parsed.1 = .done then [passInformation env socks parsed.2.1] else [])
    else (socks,[])

def copyReceived (env : Env) (side : Side) (sel : Selector) (socks : SocksConnModel)
    (called : List Effect) : Outcome :=
  let aux := socks.copyOf side.aux
  let interests := (aux.interests ||| opWrite) &&& aux.intConnection
  let socks := socks.setCopy side.aux {aux with interests:=interests}
  let sel := (selectorSetInterest sel aux.fd interests).2
  let sniffed := copySniff env side socks
  ⟨sel,sniffed.1,called ++ sniffed.2,.copy⟩

-- copy_read after an end of stream, or an error taken for one.
def copyEnded (side : Side) (sel : Selector) (socks : SocksConnModel) (called : List Effect) : Outcome :=
  let copy := socks.copyOf side
  let intConnection := copy.intConnection &&& ~~~opRead
  let interests := copy.interests &&& intConnection
  let socks := socks.setCopy side {copy with interests:=interests,intConnection:=intConnection}
  let sel := (selectorSetInterest sel copy.fd interests).2
  let called := called ++ [.shutdown copy.fd .shutRd]
  let aux := socks.copyOf side.aux
  let aux := {aux with intConnection:=aux.intConnection &&& opRead}
  let socks := socks.setCopy side.aux aux
  let next := if intConnection = opNoop then (if aux.intConnection = opNoop then .done else .copy) else .copy
  if !bufferCanRead (socks.copyWriteBuff side).raw then
    let interests := aux.interests &&& aux.intConnection
    let socks := socks.setCopy side.aux {aux with interests:=interests}
    let sel := (selectorSetInterest sel aux.fd interests).2
    ⟨sel,socks,called ++ [.shutdown aux.fd .shutWr],next⟩
  else ⟨sel,socks,called,next⟩

def copyFull (key : SelectorKey) (side : Side) (sel : Selector) (socks : SocksConnModel) : Outcome :=
  let copy := socks.copyOf side
  let interests := (copy.interests &&& opWrite) &&& copy.intConnection
  let socks := socks.setCopy side {copy with interests:=interests}
  ⟨(selectorSetInterest sel key.fd interests).2,socks,[],.copy⟩

-- errno after recv: a recv that returns 0 leaves it as it was.
def Recv.errno (earlier : Nat) : Recv → Nat
  | .failed e => e
  | .data _ => earlier
  | .closed => earlier

def copyRead (env : Env) (key : SelectorKey) (sel : Selector) (socks : SocksConnModel) : Outcome :=
  match getCopy key.fd socks with
  | none => ⟨sel,socks,[],.error⟩
  | some side =>
    let buff := socks.copyWriteBuff side
    if bufferCanWrite buff.raw then
      let got := env.recv.clip buff.space
      let received := checkBuffAndReceive buff got
      let errno := got.errno env.errno
      let socks := socks.setWriteBuff side received.1
      let called := [Effect.recv key.fd got]
      if received.2 = -1 && (errno = eagain || errno = ewouldblock) then ⟨sel,socks,called,.copy⟩
      else if received.2 > 0 then copyReceived env side sel socks called
      else copyEnded side sel socks called
    else copyFull key side sel socks

def Send.errno (earlier : Nat) : Send → Nat
  | .failed e => e
  | .sent _ => earlier

def copyWrite (env : Env) (key : SelectorKey) (sel : Selector) (socks : SocksConnModel) : Outcome :=
  match getCopy key.fd socks with
  | none => ⟨sel,socks,[],.error⟩
  | some side =>
    let buff := socks.copyReadBuff side
    let sent := checkBuffAndSend buff env.send
    let errno := env.send.errno env.errno
    let called := [Effect.send key.fd (env.send.bytes buff)]
    let socks := socks.setReadBuff side sent.1
    if sent.2 = -1 then
      if errno = ewouldblock || errno = eagain then ⟨sel,socks,called,.copy⟩
      else ⟨sel,socks,called,.error⟩
    else
      let called := called ++ [.addBytesTransferred sent.2]
      let aux := socks.copyOf side.aux
      let interests := (aux.interests ||| opRead) &&& aux.intConnection
      let socks := socks.setCopy side.aux {aux with interests:=interests}
      let sel := (selectorSetInterest sel aux.fd interests).2
      if !bufferCanRead sent.1.raw then
        let copy := socks.copyOf side
        let interests := (copy.interests &&& opRead) &&& copy.intConnection
        let socks := socks.setCopy side {copy with interests:=interests}
        let sel := (selectorSetInterest sel copy.fd interests).2
        let stillWrite := copy.intConnection &&& opWrite
        ⟨sel,socks,called ++ (if stillWrite = opNoop then [.shutdown copy.fd .shutWr] else []),.copy⟩
      else ⟨sel,socks,called,.copy⟩

variable (socks : SocksConnModel) (side other : Side) (copy : CopyModel) (buff : CertifiedBuffer)

theorem copyWriteBuff_aux : socks.copyWriteBuff side = socks.copyReadBuff side.aux := by
  cases side <;> rfl

theorem setWriteBuff_aux : socks.setWriteBuff side buff = socks.setReadBuff side.aux buff := by
  cases side <;> rfl

@[simp] theorem copyOf_setCopy :
    (socks.setCopy side copy).copyOf other = if other = side then copy else socks.copyOf other := by
  cases side <;> cases other <;> rfl

@[simp] theorem copyReadBuff_setCopy :
    (socks.setCopy side copy).copyReadBuff other = socks.copyReadBuff other := by
  cases side <;> cases other <;> rfl

@[simp] theorem copyOf_setReadBuff : (socks.setReadBuff side buff).copyOf other = socks.copyOf other := by
  cases side <;> cases other <;> rfl

@[simp] theorem copyReadBuff_setReadBuff :
    (socks.setReadBuff side buff).copyReadBuff other =
      if other = side then buff else socks.copyReadBuff other := by
  cases side <;> cases other <;> rfl

@[simp] theorem cliConn_setCopy : (socks.setCopy side copy).cliConn = socks.cliConn := by cases side <;> rfl
@[simp] theorem srcConn_setCopy : (socks.setCopy side copy).srcConn = socks.srcConn := by cases side <;> rfl
@[simp] theorem stm_setCopy : (socks.setCopy side copy).stm = socks.stm := by cases side <;> rfl
@[simp] theorem cliConn_setReadBuff : (socks.setReadBuff side buff).cliConn = socks.cliConn := by
  cases side <;> rfl
@[simp] theorem srcConn_setReadBuff : (socks.setReadBuff side buff).srcConn = socks.srcConn := by
  cases side <;> rfl
@[simp] theorem stm_setReadBuff : (socks.setReadBuff side buff).stm = socks.stm := by cases side <;> rfl

@[simp] theorem copyWriteBuff_setCopy :
    (socks.setCopy side copy).copyWriteBuff other = socks.copyWriteBuff other := by
  cases side <;> cases other <;> rfl

@[simp] theorem copyOf_setWriteBuff : (socks.setWriteBuff side buff).copyOf other = socks.copyOf other := by
  cases side <;> cases other <;> rfl

@[simp] theorem copyWriteBuff_setWriteBuff :
    (socks.setWriteBuff side buff).copyWriteBuff other =
      if other = side then buff else socks.copyWriteBuff other := by
  cases side <;> cases other <;> rfl

@[simp] theorem setCopy_setCopy (last : CopyModel) :
    (socks.setCopy side copy).setCopy side last = socks.setCopy side last := by
  cases side <;> rfl

theorem setReadBuff_same : socks.setReadBuff side (socks.copyReadBuff side) = socks := by
  cases side <;> rfl

theorem setWriteBuff_same : socks.setWriteBuff side (socks.copyWriteBuff side) = socks := by
  cases side <;> rfl

end Socks5d
