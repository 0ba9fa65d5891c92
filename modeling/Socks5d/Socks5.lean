import Socks5d.Selector
import Socks5d.ConnParser
import Socks5d.AuthParser
import Socks5d.ReqParser
import Socks5d.Pop3Sniffer

namespace Socks5d

inductive SocksState where
  | helloRead
  | helloWrite
  | authRead
  | authWrite
  | reqRead
  | reqWrite
  | reqDns
  | reqConnect
  | copy
  | error
  | done
  deriving DecidableEq, Repr

structure StdConnModel where
  addr : SockAddr
  addrLen : Nat
  socket : Int
  interests : FdInterest
  deriving DecidableEq, Repr

inductive Side where
  | cli
  | src
  deriving DecidableEq, Repr

def Side.aux : Side → Side
  | .cli => .src
  | .src => .cli

@[simp] theorem aux_aux (side : Side) : side.aux.aux = side := by cases side <;> rfl
@[simp] theorem aux_ne (side : Side) : side.aux ≠ side := by cases side <;> decide
@[simp] theorem ne_aux (side : Side) : side ≠ side.aux := by cases side <;> decide

structure CopyModel where
  fd : Int
  interests : FdInterest
  intConnection : FdInterest
  deriving DecidableEq, Repr

-- getaddrinfo states the family of every address that it returns.
structure AddrInfo where
  family : Nat
  addr : SockAddr
  addrlen : Nat
  stated : family ≠ afUnspec
  deriving DecidableEq, Repr

structure Parsers where
  connectParser : ConnParser
  authParser : AuthParser
  reqParser : ReqParser
  deriving DecidableEq, Repr

-- A list pointer is the list it leads to, NULL the empty one. `stm` is the
-- current state, `none` before the first event.
structure SocksConnModel where
  cliConn : StdConnModel
  srcConn : StdConnModel
  srcAddrFamily : Nat
  readBuff : CertifiedBuffer
  writeBuff : CertifiedBuffer
  parsers : Parsers
  resolvedAddr : List AddrInfo
  currAddr : List AddrInfo
  stm : Option SocksState
  pop3Parser : Option Pop3Parser
  cliCopy : CopyModel
  srcCopy : CopyModel

def buffSize : Nat := 2048

-- memset leaves descriptor 0, not -1, in both sockets.
def newSocksConn : SocksConnModel where
  cliConn := ⟨.zeroed ipv4Bytes,0,0,opRead⟩
  srcConn := ⟨.zeroed ipv4Bytes,0,0,opNoop⟩
  srcAddrFamily := afUnspec
  readBuff := .init buffSize
  writeBuff := .init buffSize
  parsers := ⟨⟨0,.version,0⟩,.zeroed,.zeroed⟩
  resolvedAddr := []
  currAddr := []
  stm := none
  pop3Parser := none
  cliCopy := ⟨0,opNoop,opNoop⟩
  srcCopy := ⟨0,opNoop,opNoop⟩

-- What the kernel answers. `closed` is a recv that returns 0.
inductive Recv where
  | data (bytes : List UInt8)
  | closed
  | failed (errno : Nat)
  deriving DecidableEq, Repr

inductive Send where
  | sent (count : Nat)
  | failed (errno : Nat)
  deriving DecidableEq, Repr

inductive Connect where
  | connected
  | failed (errno : Nat)
  deriving DecidableEq, Repr

-- Everything a handler reads that is not the connection's own: the results of
-- the calls it may make, errno as earlier calls left it, and the globals.
structure Env where
  recv : Recv
  send : Send
  errno : Nat
  socket : Int
  connect : Connect
  soError : Option Nat
  malloc : Bool
  pthreadCreate : Bool
  users : UserTable
  currUser : Option (List UInt8)
  sniffer : Bool
  deriving DecidableEq, Repr

structure SelectorKey where
  fd : Int
  data : Nat
  deriving DecidableEq, Repr

inductive ShutHow where
  | shutRd
  | shutWr
  deriving DecidableEq, Repr

structure AccessRecord where
  user : Option (List UInt8)
  client : SockAddr
  type : UInt8
  dest : List UInt8
  port : List UInt8
  status : UInt8
  deriving DecidableEq, Repr

structure PassRecord where
  user : Option (List UInt8)
  client : SockAddr
  type : UInt8
  dest : List UInt8
  port : List UInt8
  name : List UInt8
  pass : List UInt8
  deriving DecidableEq, Repr

inductive Effect where
  | recv (fd : Int) (result : Recv)
  | send (fd : Int) (bytes : List UInt8)
  | shutdown (fd : Int) (how : ShutHow)
  | socket (fd : Int)
  | connect (fd : Int) (addr : SockAddr)
  | close (fd : Int)
  | resolve (name port : List UInt8)
  | freeAddrInfo
  | verdict (username password : List UInt8) (result : Int)
  | setCurrUser (username : List UInt8)
  | addBytesTransferred (bytes : Int)
  | connInformation (record : AccessRecord)
  | passInformation (record : PassRecord)
  | removeCurrentSocksConnection
  deriving DecidableEq, Repr

structure Outcome where
  sel : Selector
  socks : SocksConnModel
  effects : List Effect
  next : SocksState

-- recv with room for `room` bytes: a longer segment stays in the kernel.
def Recv.clip (room : Nat) : Recv → Recv
  | .data bytes => if bytes.take room = [] then .closed else .data (bytes.take room)
  | .closed => .closed
  | .failed e => .failed e

def checkBuffAndReceive (buff : CertifiedBuffer) : Recv → CertifiedBuffer × Int
  | .data bytes => (buff.fill bytes,bytes.length)
  | .closed => (buff,-1)
  | .failed _ => (buff,-1)

def checkBuffAndSend (buff : CertifiedBuffer) : Send → CertifiedBuffer × Int
  | .sent count => (buff.consume count,(min count buff.available : Nat))
  | .failed _ => (buff,-1)

def Send.bytes (buff : CertifiedBuffer) : Send → List UInt8
  | .sent count => buff.unread.take count
  | .failed _ => []

-- hello_read, auth_read and req_read are one function over these values: the state
-- that waits for more bytes, the parser and where the connection keeps it.
structure Reader (π : Type) where
  stay : SocksState
  get : Parsers → π
  put : Parsers → π → Parsers
  init : π → π
  advance : Bool → π → UInt8 → π
  failed : π → Bool
  finished : π → Bool
  put_put : ∀ parsers first second, put (put parsers first) second = put parsers second

def Reader.halted (r : Reader π) (parser : π) : Bool := r.failed parser || r.finished parser

-- The parser is initialised on every read event, before recv.
def readMessage (r : Reader π)
    (finish : Env → SelectorKey → Selector → SocksConnModel → List Effect → Outcome)
    (env : Env) (key : SelectorKey) (sel : Selector) (socks : SocksConnModel) : Outcome :=
  let parser := r.init (r.get socks.parsers)
  let socks := {socks with parsers:=r.put socks.parsers parser}
  let got := env.recv.clip socks.readBuff.space
  let received := checkBuffAndReceive socks.readBuff got
  let called := [Effect.recv socks.cliConn.socket got]
  if received.2 = -1 then ⟨sel,socks,called,.error⟩
  else
    let parsed := parseFull (r.advance env.users.requireAuth) r.halted parser received.1
    let socks := {socks with parsers:=r.put socks.parsers parsed.1,readBuff:=parsed.2}
    if r.failed parsed.1 then ⟨sel,socks,called,.error⟩
    else if r.finished parsed.1 then finish env key sel socks called
    else ⟨sel,socks,called,r.stay⟩

-- hello_write, auth_write and req_write likewise; req_write logs before it looks at
-- what is left to send.
def writeReply (stay : SocksState) (logged : Env → SocksConnModel → List Effect)
    (finish : SelectorKey → Selector → SocksConnModel → List Effect → Outcome)
    (env : Env) (key : SelectorKey) (sel : Selector) (socks : SocksConnModel) : Outcome :=
  let called := [Effect.send socks.cliConn.socket (env.send.bytes socks.writeBuff)]
  let sent := checkBuffAndSend socks.writeBuff env.send
  let socks := {socks with writeBuff:=sent.1}
  if sent.2 = -1 then ⟨sel,socks,called,.error⟩
  else
    let called := called ++ logged env socks
    if bufferCanRead socks.writeBuff.raw then ⟨sel,socks,called,stay⟩
    else finish key sel socks called

def replyTwo (next : SocksState) (reply : List UInt8) (key : SelectorKey) (sel : Selector)
    (socks : SocksConnModel) (called : List Effect) : Outcome :=
  let ret := selectorSetInterest sel key.fd opWrite
  if ret.1 ≠ .success then ⟨ret.2,socks,called,.error⟩
  else if socks.writeBuff.space < 2 then ⟨ret.2,socks,called,.error⟩
  else ⟨ret.2,{socks with writeBuff:=socks.writeBuff.fill reply},called,next⟩

def helloReader : Reader ConnParser where
  stay := .helloRead
  get := Parsers.connectParser
  put := fun parsers parser => {parsers with connectParser:=parser}
  init := startConnectionParser
  advance := connParseByte
  failed := fun parser => decide (parser.state = .error)
  finished := fun parser => decide (parser.state = .done)
  put_put := fun _ _ _ => rfl

def helloFinish (_ : Env) (key : SelectorKey) (sel : Selector) (socks : SocksConnModel)
    (called : List Effect) : Outcome :=
  replyTwo .helloWrite [socksVersion,socks.parsers.connectParser.auth] key sel socks called

def helloRead : Env → SelectorKey → Selector → SocksConnModel → Outcome :=
  readMessage helloReader helloFinish

def helloSent (key : SelectorKey) (sel : Selector) (socks : SocksConnModel)
    (called : List Effect) : Outcome :=
  let auth := socks.parsers.connectParser.auth
  let ret := selectorSetInterest sel key.fd opRead
  if ret.1 ≠ .success then ⟨ret.2,socks,called,.error⟩
  else if auth = noAuth then ⟨ret.2,socks,called,.reqRead⟩
  else if auth = userPass then ⟨ret.2,socks,called,.authRead⟩
  else if auth = gssapi then ⟨ret.2,socks,called,.done⟩
  else if auth = noMethods then ⟨ret.2,socks,called,.done⟩
  else ⟨ret.2,socks,called,.error⟩

def helloWrite : Env → SelectorKey → Selector → SocksConnModel → Outcome :=
  writeReply .helloWrite (fun _ _ => []) helloSent

def authReader : Reader AuthParser where
  stay := .authRead
  get := Parsers.authParser
  put := fun parsers parser => {parsers with authParser:=parser}
  init := authParserInit
  advance := fun _ => authParseByte
  failed := fun parser => decide (parser.state = .error)
  finished := fun parser => decide (parser.state = .done)
  put_put := fun _ _ _ => rfl

def authFinish (env : Env) (key : SelectorKey) (sel : Selector) (socks : SocksConnModel)
    (called : List Effect) : Outcome :=
  let parser := socks.parsers.authParser
  let isAuthenticated := processAuthenticationRequest env.users parser.username parser.password
  let called := called ++ [.verdict parser.username parser.password isAuthenticated] ++
    (if isAuthenticated ≠ -1 then [.setCurrUser parser.username] else [])
  replyTwo .authWrite [authVersion,UInt8.ofNat (isAuthenticated % 256).toNat] key sel socks called

def authRead : Env → SelectorKey → Selector → SocksConnModel → Outcome :=
  readMessage authReader authFinish

def authSent (key : SelectorKey) (sel : Selector) (socks : SocksConnModel)
    (called : List Effect) : Outcome :=
  let ret := selectorSetInterest sel key.fd opRead
  ⟨ret.2,socks,called,if ret.1 = .success then .reqRead else .error⟩

def authWrite : Env → SelectorKey → Selector → SocksConnModel → Outcome :=
  writeReply .authWrite (fun _ _ => []) authSent

def fixedResBytes : Nat := 6

-- strncpy stops at the first NUL of the source and fills up with NULs.
def strncpy (source : List UInt8) (n : Nat) : List UInt8 :=
  let copied := cString (source.take n)
  copied ++ List.replicate (n - copied.length) 0

-- `none` is the return value -1.
def reqResponseMessage (writeBuff : CertifiedBuffer) (parser : ResParser) :
    Option (CertifiedBuffer × Nat) :=
  let length := if parser.type = ipv4 then ipv4Bytes
    else if parser.type = ipv6 then ipv6Bytes
    else if parser.type = fqdn then (cString parser.addr.fqdn).length
    else 0
  let addr := if parser.type = ipv4 then parser.addr.ipv4.addr
    else if parser.type = ipv6 then parser.addr.ipv6.addr
    else if parser.type = fqdn then parser.addr.fqdn
    else []
  if length = 0 then none
  else
    let spaceNeeded := length + fixedResBytes + (if parser.type = fqdn then 1 else 0)
    if writeBuff.space < spaceNeeded then none
    else
      let message := [socksVersion,parser.state,0x00,parser.type] ++
        (if parser.type = fqdn then [UInt8.ofNat length] else []) ++ strncpy addr length ++ parser.port
      some (writeBuff.fill message,spaceNeeded)

def setResParser (parser : ReqParser) (state : UInt8) : ReqParser :=
  {parser with resParser:=⟨state,parser.type,parser.addr,parser.port⟩}

def manageReqError (state : UInt8) (sel : Selector) (socks : SocksConnModel)
    (called : List Effect) : Outcome :=
  let socks := {socks with parsers.reqParser:=setResParser socks.parsers.reqParser state}
  let ret := selectorSetInterest sel socks.cliConn.socket opWrite
  match reqResponseMessage socks.writeBuff socks.parsers.reqParser.resParser with
  | none => ⟨ret.2,socks,called,.error⟩
  | some (buff,_) =>
    ⟨ret.2,{socks with writeBuff:=buff},called,if ret.1 = .success then .reqWrite else .error⟩

def Connect.pending : Connect → Bool
  | .connected => true
  | .failed e => decide (e = einprogress)

def Connect.errno : Connect → Nat
  | .connected => 0
  | .failed e => e

def initConnection (env : Env) (key : SelectorKey) (sel : Selector) (socks : SocksConnModel)
    (called : List Effect) : Outcome :=
  let socks := {socks with srcConn.socket:=env.socket}
  if env.socket = -1 then ⟨sel,socks,called,.error⟩
  else
    let called := called ++ [.socket env.socket,.connect env.socket socks.srcConn.addr]
    if env.connect.pending then
      let ret := selectorSetInterest sel socks.cliConn.socket opNoop
      if ret.1 ≠ .success then ⟨ret.2,socks,called,.error⟩
      else
        let ret := selectorRegister ret.2 env.socket (some .connActions) opWrite (some key.data)
        if ret.1 ≠ .success then ⟨ret.2,socks,called,.error⟩
        else ⟨ret.2,socks,called,.reqConnect⟩
    else manageReqError (errnoToReqResponseState env.connect.errno) sel socks called

def sizeofSockaddrIn : Nat := 16
def sizeofSockaddrIn6 : Nat := 28

def setConnection (env : Env) (key : SelectorKey) (sel : Selector) (socks : SocksConnModel)
    (called : List Effect) : Outcome :=
  let parser := socks.parsers.reqParser
  if parser.type = ipv4 then
    let target := {parser.addr.ipv4 with port:=parser.port}
    initConnection env key sel {socks with
      srcAddrFamily:=afInet
      parsers.reqParser:={parser with addr.ipv4:=target}
      srcConn:={socks.srcConn with addr:=target,addrLen:=sizeofSockaddrIn}} called
  else if parser.type = ipv6 then
    let target := {parser.addr.ipv6 with port:=parser.port}
    initConnection env key sel {socks with
      srcAddrFamily:=afInet6
      parsers.reqParser:={parser with addr.ipv6:=target}
      srcConn:={socks.srcConn with addr:=target,addrLen:=sizeofSockaddrIn6}} called
  else if parser.type = fqdn then
    if !env.malloc then manageReqError resSocksFail sel socks called
    else if !env.pthreadCreate then manageReqError resSocksFail sel socks called
    else
      let called := called ++ [.resolve (cString parser.addr.fqdn) parser.port]
      let ret := selectorSetInterest sel key.fd opNoop
      ⟨ret.2,socks,called,if ret.1 = .success then .reqDns else .error⟩
  else ⟨sel,socks,called,.error⟩

def reqReader : Reader ReqParser where
  stay := .reqRead
  get := Parsers.reqParser
  put := fun parsers parser => {parsers with reqParser:=parser}
  init := reqParserInit
  advance := fun _ => reqParseByte
  failed := fun parser => decide (parser.state = .error)
  finished := fun parser => decide (parser.state = .done)
  put_put := fun _ _ _ => rfl

def reqFinish (env : Env) (key : SelectorKey) (sel : Selector) (socks : SocksConnModel)
    (called : List Effect) : Outcome :=
  let cmd := socks.parsers.reqParser.cmd
  if cmd = reqCmdConnect then setConnection env key sel socks called
  else if cmd = reqCmdBind || cmd = reqCmdUdp then manageReqError resCmdUnsupported sel socks called
  else if cmd = reqCmdNone then ⟨sel,socks,called,.done⟩
  else ⟨sel,socks,called,.error⟩

def reqRead : Env → SelectorKey → Selector → SocksConnModel → Outcome :=
  readMessage reqReader reqFinish

def reqDns (env : Env) (key : SelectorKey) (sel : Selector) (socks : SocksConnModel)
    (called : List Effect) : Outcome :=
  match socks.currAddr with
  | [] =>
    if socks.resolvedAddr ≠ [] then
      manageReqError resHostUnreachable sel {socks with resolvedAddr:=[],currAddr:=[]}
        (called ++ [.freeAddrInfo])
    else manageReqError resHostUnreachable sel socks called
  | current::rest =>
    initConnection env key sel {socks with
      srcAddrFamily:=current.family
      srcConn:={socks.srcConn with addr:=current.addr,addrLen:=current.addrlen}
      currAddr:=rest} called

def setResponse (socks : SocksConnModel) : Option ReqParser :=
  let parser := {socks.parsers.reqParser with
    resParser.state:=resSuccess
    resParser.port:=socks.parsers.reqParser.port}
  if socks.srcAddrFamily = afInet then
    some {parser with resParser.type:=ipv4,resParser.addr.ipv4:=socks.srcConn.addr}
  else if socks.srcAddrFamily = afInet6 then
    some {parser with resParser.type:=ipv6,resParser.addr.ipv6:=socks.srcConn.addr}
  else none

def cleanResolvedAddr (socks : SocksConnModel) : SocksConnModel × List Effect :=
  if socks.parsers.reqParser.type = fqdn then ({socks with resolvedAddr:=[]},[.freeAddrInfo]) else (socks,[])

def reqConnect (env : Env) (key : SelectorKey) (sel : Selector) (socks : SocksConnModel) : Outcome :=
  match env.soError with
  | some optval =>
    if optval ≠ 0 then
      if socks.parsers.reqParser.type = fqdn then
        let sel := (selectorUnregisterFd sel socks.srcConn.socket).2
        reqDns env key sel socks [.close socks.srcConn.socket]
      else manageReqError (errnoToReqResponseState optval) sel socks []
    else
      let cleaned := cleanResolvedAddr socks
      match setResponse cleaned.1 with
      | none => manageReqError resSocksFail sel {cleaned.1 with
          parsers.reqParser.resParser.state:=resSuccess
          parsers.reqParser.resParser.port:=cleaned.1.parsers.reqParser.port} cleaned.2
      | some parser =>
        let socks := {cleaned.1 with parsers.reqParser:=parser}
        let ret := selectorSetInterest sel key.fd opNoop
        if ret.1 = .success then
          let ret := selectorSetInterest ret.2 socks.cliConn.socket opWrite
          if ret.1 = .success then
            match reqResponseMessage socks.writeBuff parser.resParser with
            | some (buff,_) => ⟨ret.2,{socks with writeBuff:=buff},cleaned.2,.reqWrite⟩
            | none => ⟨ret.2,socks,cleaned.2,.error⟩
          else ⟨ret.2,socks,cleaned.2,.error⟩
        else ⟨ret.2,socks,cleaned.2,.error⟩
  | none =>
    let cleaned := cleanResolvedAddr socks
    manageReqError resSocksFail sel cleaned.1 cleaned.2

def ReqParser.dest (parser : ReqParser) : List UInt8 :=
  if parser.type = fqdn then cString parser.addr.fqdn
  else if parser.type = ipv4 then parser.addr.ipv4.addr
  else parser.addr.ipv6.addr

def connInformation (env : Env) (socks : SocksConnModel) : Effect :=
  .connInformation ⟨env.currUser,socks.cliConn.addr,socks.parsers.reqParser.type,socks.parsers.reqParser.dest,
    socks.parsers.reqParser.port,socks.parsers.reqParser.resParser.state⟩

def passInformation (env : Env) (socks : SocksConnModel) (parser : Pop3Parser) : Effect :=
  .passInformation ⟨env.currUser,socks.cliConn.addr,socks.parsers.reqParser.type,socks.parsers.reqParser.dest,
    socks.parsers.reqParser.port,cString parser.user,cString parser.pass⟩

def reqSent (key : SelectorKey) (sel : Selector) (socks : SocksConnModel)
    (called : List Effect) : Outcome :=
  if socks.parsers.reqParser.resParser.state ≠ resSuccess then ⟨sel,socks,called,.done⟩
  else
    let ret := selectorSetInterest sel key.fd opRead
    if ret.1 ≠ .success then ⟨ret.2,socks,called,.error⟩
    else
      let ret := selectorSetInterest ret.2 socks.srcConn.socket opRead
      ⟨ret.2,socks,called,if ret.1 = .success then .copy else .error⟩

def reqWrite : Env → SelectorKey → Selector → SocksConnModel → Outcome :=
  writeReply .reqWrite (fun env socks => [connInformation env socks]) reqSent

end Socks5d
