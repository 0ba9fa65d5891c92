import Socks5d.Session

namespace Socks5d

-- What comes of connect on one address: it fails at once, or the socket becomes
-- writable and SO_ERROR tells.
inductive Attempt where
  | connected
  | refused (errno : Nat) (real : errno ≠ 0 ∧ errno ≠ einprogress)
  | deferred (code : Nat)

def Attempt.connect : Attempt → Connect
  | .connected => .connected
  | .refused errno _ => .failed errno
  | .deferred _ => .failed einprogress

def Attempt.soError : Attempt → Nat
  | .connected => 0
  | .refused errno _ => errno
  | .deferred code => code

def Attempt.atOnce : Attempt → Bool
  | .refused _ _ => true
  | _ => false

def Attempt.succeeds : Attempt → Bool
  | .connected => true
  | .refused _ _ => false
  | .deferred code => decide (code = 0)

structure Candidate where
  info : AddrInfo
  socket : Int
  attempt : Attempt

def dialEnv (env : Env) : List Candidate → Env
  | [] => env
  | c::_ => {env with socket:=c.socket,connect:=c.attempt.connect}

def dialling (data : Nat) (env : Env) : Candidate → List Candidate → Session → Option Session
  | c,[],s =>
    if s.conn.any fun socks => decide (socks.current = .reqConnect) then
      sessionStep data s (.event .write c.socket {env with soError:=some c.attempt.soError})
    else some s
  | c,n::later,s =>
    if s.conn.any fun socks => decide (socks.current = .reqConnect) then
      (sessionStep data s (.event .write c.socket {dialEnv env (n::later) with
        soError:=some c.attempt.soError})).bind (dialling data env n later)
    else some s

def resolveName (data : Nat) (env : Env) (cli : Int) : List Candidate → Session → Option Session
  | [],s => some s
  | c::rest,s => (sessionStep data s (.event .block cli (dialEnv env (c::rest)))).bind (dialling data env c rest)

def Session.reply (s : Session) : Option UInt8 :=
  s.conn.bind fun socks => if socks.current = .reqWrite then socks.writeBuff.unread[1]? else none

def tried (trace : List Effect) : List SockAddr :=
  trace.filterMap fun effect => match effect with
    | .connect _ addr => some addr
    | _ => none

variable {data : Nat} {env : Env} {key : SelectorKey} {sel : Selector} {socks : SocksConnModel} {s : Session}
  {kind : EventKind} {fd cli : Int} {c : Candidate} {rest candidates : List Candidate} {called : List Effect}

structure Named (sel : Selector) (socks : SocksConnModel) : Prop where
  type : socks.parsers.reqParser.type = fqdn
  name : cString socks.parsers.reqParser.addr.fqdn ≠ []
  size : socks.parsers.reqParser.addr.fqdn.length = maxFqdnSize+1
  empty : socks.writeBuff.unread = []
  room : socks.writeBuff.capacity = buffSize
  table : itemsMaxSize ≤ sel.fds.length
  client : ∃ item, sel.registered socks.cliConn.socket = some item

structure Ready (sel : Selector) (socks : SocksConnModel) (rest : List Candidate) : Prop where
  named : Named sel socks
  listed : socks.currAddr = rest.map Candidate.info
  families : ∀ c ∈ rest, c.info.family = afInet ∨ c.info.family = afInet6
  fresh : ∀ c ∈ rest, invalidFd c.socket = false ∧ c.socket ≠ socks.cliConn.socket ∧ sel.registered c.socket = none

structure Pending (sel : Selector) (socks : SocksConnModel) (c : Candidate) (rest : List Candidate) : Prop where
  named : Named sel socks
  listed : socks.currAddr = rest.map Candidate.info
  families : ∀ n ∈ c::rest, n.info.family = afInet ∨ n.info.family = afInet6
  fresh : ∀ n ∈ rest, invalidFd n.socket = false ∧ n.socket ≠ socks.cliConn.socket ∧
    (n.socket = c.socket ∨ sel.registered n.socket = none)
  socket : socks.srcConn.socket = c.socket
  addr : socks.srcConn.addr = c.info.addr
  family : socks.srcAddrFamily = c.info.family
  origin : c.socket ≠ socks.cliConn.socket ∧ ∃ item, sel.registered c.socket = some item

theorem cString_length (bytes : List UInt8) : (cString bytes).length ≤ bytes.length :=
  List.Sublist.length_le (List.takeWhile_sublist _)

theorem reqResponse_made {buff : CertifiedBuffer} {parser : ResParser} (empty : buff.unread = [])
    (room : buff.capacity = buffSize)
    (known : parser.type = ipv4 ∨ parser.type = ipv6 ∨
      parser.type = fqdn ∧ cString parser.addr.fqdn ≠ [] ∧ parser.addr.fqdn.length = maxFqdnSize+1) :
    ∃ filled n, reqResponseMessage buff parser = some (filled,n) ∧ filled.unread[1]? = some parser.state := by
  have space : buff.space = 2048 := (buff.empty_space empty).trans room
  have start : ∀ rest : List UInt8, (buff.fill ([socksVersion,parser.state,0x00,parser.type] ++ rest)).unread[1]? =
      some parser.state := by
    intro rest
    rw [CertifiedBuffer.fill_unread,empty,space]
    rfl
  unfold reqResponseMessage
  dsimp only
  generalize size : (if parser.type = ipv4 then ipv4Bytes else if parser.type = ipv6 then ipv6Bytes
    else if parser.type = fqdn then (cString parser.addr.fqdn).length else 0) = length
  have bounds : length ≠ 0 ∧ length ≤ 256 := by
    rcases known with four | six | ⟨named,some_,whole⟩
    · rw [four] at size
      change ipv4Bytes = length at size
      rw [← size]
      decide
    · rw [six] at size
      change ipv6Bytes = length at size
      rw [← size]
      decide
    · rw [named] at size
      have short := cString_length parser.addr.fqdn
      rw [whole] at short
      have positive := List.length_pos_iff.mpr some_
      change (cString parser.addr.fqdn).length = length at size
      unfold maxFqdnSize at short
      omega
  have fits : ¬ buff.space < length + fixedResBytes + (if parser.type = fqdn then 1 else 0) := by
    rw [space]
    unfold fixedResBytes
    split
    · omega
    · omega
  rw [if_neg bounds.1,if_neg fits]
  refine ⟨_,_,rfl,?_⟩
  rw [List.append_assoc,List.append_assoc]
  exact start _

theorem client_told (client : ∃ item, sel.registered fd = some item) (i : FdInterest) :
    (selectorSetInterest sel fd i).1 = .success := by
  obtain ⟨item,found⟩ := client
  exact (setInterest_found found i).1

theorem manageReqError_replies (named : Named sel socks) (state : UInt8) :
    (manageReqError state sel socks called).next = .reqWrite ∧
    (manageReqError state sel socks called).socks.writeBuff.unread[1]? = some state := by
  obtain ⟨filled,n,made,stated⟩ := @reqResponse_made socks.writeBuff (setResParser socks.parsers.reqParser state).resParser
    named.empty named.room (.inr (.inr ⟨named.type,named.name,named.size⟩))
  unfold manageReqError
  dsimp only
  rw [made]
  dsimp only
  rw [if_pos (client_told named.client opWrite)]
  exact ⟨rfl,stated⟩

theorem pending_connect (later : c.attempt.atOnce = false) : c.attempt.connect.pending = true := by
  cases kind : c.attempt with
  | connected => rfl
  | refused errno real => rw [kind] at later; cases later
  | deferred code => rfl

theorem refused_state (now : c.attempt.atOnce = true) :
    c.attempt.connect.pending = false ∧ errnoToReqResponseState c.attempt.connect.errno ≠ resSuccess := by
  cases kind : c.attempt with
  | connected => rw [kind] at now; cases now
  | deferred code => rw [kind] at now; cases now
  | refused errno real =>
      refine ⟨decide_eq_false real.2,?_⟩
      change errnoToReqResponseState errno ≠ resSuccess
      unfold errnoToReqResponseState
      rw [if_neg real.1]
      split
      · decide
      · split
        · decide
        · split
          · decide
          · split
            · decide
            · decide

theorem valid_socket (valid : invalidFd fd = false) : fd ≠ -1 := by
  rintro rfl
  cases valid

theorem initConnection_dials_one (named : Named sel socks) (valid : invalidFd env.socket = false)
    (unused : sel.registered env.socket = none) (pending : env.connect.pending = true) :
    let out := initConnection env key sel socks called
    out.next = .reqConnect ∧ out.socks = {socks with srcConn.socket:=env.socket} ∧
    out.effects = called ++ [.socket env.socket,.connect env.socket socks.srcConn.addr] ∧
    itemsMaxSize ≤ out.sel.fds.length ∧
    ∀ other, out.sel.registered other = if other = env.socket then some ⟨env.socket,opWrite,some .connActions,some key.data⟩
      else if other = socks.cliConn.socket then (sel.registered other).map fun item => {item with interest:=opNoop}
      else sel.registered other := by
  have table : itemsMaxSize ≤ (selectorSetInterest sel socks.cliConn.socket opNoop).2.fds.length := by
    rw [setInterest_length]
    exact named.table
  have noop : ∀ other, (selectorSetInterest sel socks.cliConn.socket opNoop).2.registered other =
      if other = socks.cliConn.socket then (sel.registered other).map fun item => {item with interest:=opNoop}
      else sel.registered other := by
    intro other
    rw [setInterest_registered]
    split
    · rename_i same
      rw [same]
    · rfl
  have absent : (selectorSetInterest sel socks.cliConn.socket opNoop).2.registered env.socket = none := by
    rw [noop,unused]
    split
    · rfl
    · rfl
  obtain ⟨registered,entries⟩ := register_fresh table valid absent .connActions opWrite (some key.data)
  unfold initConnection
  dsimp only
  rw [if_neg (valid_socket valid),if_pos pending,if_neg (by rw [client_told named.client opNoop]; simp),
    if_neg (by rw [registered]; simp)]
  refine ⟨rfl,rfl,rfl,Nat.le_trans table (register_length _ _ _ _ _),?_⟩
  intro other
  rw [entries,noop]

theorem initConnection_refused (named : Named sel socks) (valid : invalidFd env.socket = false)
    (refused : env.connect.pending = false) :
    let out := initConnection env key sel socks called
    out.next = .reqWrite ∧
    out.socks.writeBuff.unread[1]? = some (errnoToReqResponseState env.connect.errno) ∧
    out.effects = called ++ [.socket env.socket,.connect env.socket socks.srcConn.addr] := by
  have still : Named sel {socks with srcConn.socket:=env.socket} :=
    ⟨named.type,named.name,named.size,named.empty,named.room,named.table,named.client⟩
  unfold initConnection
  dsimp only
  rw [if_neg (valid_socket valid),if_neg (by rw [refused]; simp)]
  obtain ⟨next,stated⟩ := @manageReqError_replies sel _ (called ++
    [.socket env.socket,.connect env.socket socks.srcConn.addr]) still (errnoToReqResponseState env.connect.errno)
  exact ⟨next,stated,manageReqError_effects _⟩

def SocksConnModel.aims (socks : SocksConnModel) (current : AddrInfo) (rest : List AddrInfo) : SocksConnModel :=
  {socks with
    srcAddrFamily:=current.family
    srcConn:={socks.srcConn with addr:=current.addr,addrLen:=current.addrlen}
    currAddr:=rest}

theorem named_aims (named : Named sel socks) (current : AddrInfo) (list : List AddrInfo) :
    Named sel (socks.aims current list) :=
  ⟨named.type,named.name,named.size,named.empty,named.room,named.table,named.client⟩

theorem aimed_pending (ready : Ready sel socks (c::rest)) {out : Outcome}
    (after : out.socks = {socks.aims c.info (rest.map Candidate.info) with srcConn.socket:=c.socket})
    (table : itemsMaxSize ≤ out.sel.fds.length)
    (entries : ∀ other, out.sel.registered other = if other = c.socket then
        some ⟨c.socket,opWrite,some .connActions,some data⟩
      else if other = socks.cliConn.socket then (sel.registered other).map fun item => {item with interest:=opNoop}
      else sel.registered other) : Pending out.sel out.socks c rest := by
  obtain ⟨valid,apart,unused⟩ := ready.fresh c List.mem_cons_self
  have named := ready.named
  rw [after]
  have client : ∃ item, out.sel.registered socks.cliConn.socket = some item := by
    obtain ⟨item,found⟩ := named.client
    rw [entries,if_neg (fun same => apart same.symm),if_pos rfl,found]
    exact ⟨_,rfl⟩
  refine ⟨⟨named.type,named.name,named.size,named.empty,named.room,table,client⟩,rfl,ready.families,?_,rfl,rfl,rfl,
    apart,_,(entries c.socket).trans (if_pos rfl)⟩
  intro n member
  obtain ⟨valid,apart,unused⟩ := ready.fresh n (List.mem_cons_of_mem c member)
  refine ⟨valid,apart,?_⟩
  by_cases same : n.socket = c.socket
  · exact .inl same
  · right
    rw [entries,if_neg same,if_neg apart,unused]

theorem reqDns_dials (ready : Ready sel socks (c::rest)) (socket : env.socket = c.socket)
    (connect : env.connect = c.attempt.connect) :
    (reqDns env key sel socks called).effects = called ++ [.socket c.socket,.connect c.socket c.info.addr] ∧
    (c.attempt.atOnce = true → (reqDns env key sel socks called).next = .reqWrite ∧
      ∃ state, state ≠ resSuccess ∧ (reqDns env key sel socks called).socks.writeBuff.unread[1]? = some state) ∧
    (c.attempt.atOnce = false → (reqDns env key sel socks called).next = .reqConnect ∧
      Pending (reqDns env key sel socks called).sel (reqDns env key sel socks called).socks c rest) := by
  obtain ⟨valid,_,unused⟩ := ready.fresh c List.mem_cons_self
  have listed : socks.currAddr = c.info::rest.map Candidate.info := ready.listed
  have dialled : reqDns env key sel socks called =
      initConnection env key sel (socks.aims c.info (rest.map Candidate.info)) called := by
    unfold reqDns
    rw [listed]
    rfl
  have named := named_aims ready.named c.info (rest.map Candidate.info)
  rw [dialled]
  rw [← socket] at valid unused
  cases now : c.attempt.atOnce with
  | true =>
      obtain ⟨refused,state⟩ := refused_state now
      rw [← connect] at refused state
      obtain ⟨next,stated,effects⟩ := @initConnection_refused env key sel _ called named valid refused
      refine ⟨by rw [effects,socket]; rfl,fun _ => ⟨next,_,state,stated⟩,?_⟩
      intro contrary
      cases contrary
  | false =>
      have pending := pending_connect now
      rw [← connect] at pending
      obtain ⟨next,after,effects,table,entries⟩ := @initConnection_dials_one env key sel _ called named valid unused
        pending
      rw [socket] at after entries
      refine ⟨by rw [effects,socket]; rfl,?_,fun _ => ⟨next,aimed_pending ready after table entries⟩⟩
      intro contrary
      cases contrary

theorem reqDns_exhausted (ready : Ready sel socks []) :
    (reqDns env key sel socks called).next = .reqWrite ∧
    (reqDns env key sel socks called).socks.writeBuff.unread[1]? = some resHostUnreachable ∧
    tried (reqDns env key sel socks called).effects = tried called := by
  have named := ready.named
  have empty : socks.currAddr = [] := ready.listed
  unfold reqDns
  rw [empty]
  dsimp only
  split
  · have still : Named sel {socks with resolvedAddr:=[],currAddr:=[]} :=
      ⟨named.type,named.name,named.size,named.empty,named.room,named.table,named.client⟩
    obtain ⟨next,stated⟩ := @manageReqError_replies sel _ (called ++ [.freeAddrInfo]) still resHostUnreachable
    refine ⟨next,stated,?_⟩
    rw [manageReqError_effects]
    simp [tried]
  · obtain ⟨next,stated⟩ := @manageReqError_replies sel socks called named resHostUnreachable
    exact ⟨next,stated,by rw [manageReqError_effects]⟩

theorem reqConnect_fails (pending : Pending sel socks c rest) {code : Nat} (failed : env.soError = some code)
    (some_ : code ≠ 0) :
    Ready (selectorUnregisterFd sel c.socket).2 socks rest ∧
    reqConnect env key sel socks = reqDns env key (selectorUnregisterFd sel c.socket).2 socks [.close c.socket] := by
  have named := pending.named
  refine ⟨⟨⟨named.type,named.name,named.size,named.empty,named.room,?_,?_⟩,pending.listed,
    fun n member => pending.families n (List.mem_cons_of_mem c member),?_⟩,?_⟩
  · rw [unregister_length]
    exact named.table
  · rw [unregister_registered,if_neg (fun same => pending.origin.1 same.symm)]
    exact named.client
  · intro n member
    obtain ⟨valid,apart,unused⟩ := pending.fresh n member
    refine ⟨valid,apart,?_⟩
    rw [unregister_registered]
    split
    · rfl
    · rename_i other
      exact unused.resolve_left other
  · unfold reqConnect
    rw [failed]
    dsimp only
    rw [if_pos some_,if_pos named.type,pending.socket]

theorem reqConnect_succeeds (pending : Pending sel socks c rest) (succeeded : env.soError = some 0)
    (fd : key.fd = c.socket) :
    (reqConnect env key sel socks).next = .reqWrite ∧
    (reqConnect env key sel socks).socks.writeBuff.unread[1]? = some resSuccess ∧
    (reqConnect env key sel socks).socks.srcConn = socks.srcConn ∧
    tried (reqConnect env key sel socks).effects = [] := by
  have named := pending.named
  have cleaned : cleanResolvedAddr socks = ({socks with resolvedAddr:=[]},[.freeAddrInfo]) := if_pos named.type
  have response : ∃ parser, setResponse {socks with resolvedAddr:=[]} = some parser ∧
      parser.resParser.state = resSuccess ∧ (parser.resParser.type = ipv4 ∨ parser.resParser.type = ipv6) := by
    unfold setResponse
    dsimp only
    rw [pending.family]
    rcases pending.families c List.mem_cons_self with four | six
    · rw [if_pos four]
      exact ⟨_,rfl,rfl,.inl rfl⟩
    · rw [six,if_neg (by decide),if_pos rfl]
      exact ⟨_,rfl,rfl,.inr rfl⟩
  obtain ⟨parser,responds,success,typed⟩ := response
  obtain ⟨filled,n,made,stated⟩ := reqResponse_made named.empty named.room
    (typed.imp_right Or.inl : parser.resParser.type = ipv4 ∨ parser.resParser.type = ipv6 ∨ _)
  have origin := client_told pending.origin.2 opNoop
  have client : (selectorSetInterest (selectorSetInterest sel c.socket opNoop).2 socks.cliConn.socket opWrite).1 =
      .success := by
    refine client_told ?_ opWrite
    rw [setInterest_registered,if_neg (fun same => pending.origin.1 same.symm)]
    exact named.client
  unfold reqConnect
  rw [succeeded]
  dsimp only
  rw [if_neg (fun wrong => wrong rfl),cleaned]
  dsimp only
  rw [responds]
  dsimp only
  rw [fd,if_pos origin,if_pos client,made]
  rw [success] at stated
  exact ⟨rfl,stated,rfl,rfl⟩

-- The same search on the addresses alone: which ones are dialled, and which one is used.
def settle : List Candidate → List Candidate × Option Candidate
  | [] => ([],none)
  | c::rest =>
    if c.attempt.atOnce then ([c],none)
    else if c.attempt.succeeds then ([c],some c)
    else (c::(settle rest).1,(settle rest).2)

def Session.uses (s : Session) (c : Candidate) : Prop :=
  ∃ socks, s.conn = some socks ∧ socks.srcConn.socket = c.socket ∧ socks.srcConn.addr = c.info.addr

def Session.answers (s : Session) : Option Candidate → Prop
  | some c => s.reply = some resSuccess ∧ s.uses c
  | none => ∃ state, state ≠ resSuccess ∧ s.reply = some state

structure Settles (candidates : List Candidate) (past : List SockAddr) (last : Session) : Prop where
  dialled : tried last.trace = past ++ (settle candidates).1.map fun c => c.info.addr
  answered : last.answers (settle candidates).2

theorem tried_append (trace effects : List Effect) : tried (trace++effects) = tried trace ++ tried effects :=
  List.filterMap_append

theorem event_served {state : SocksState} {handler : StateHandler} (live : s.conn = some socks)
    (stm : socks.stm = some state) (serves : stateHandler kind state = some handler)
    (going : (handler env ⟨fd,data⟩ s.sel socks).next = .reqWrite ∨
      (handler env ⟨fd,data⟩ s.sel socks).next = .reqConnect) :
    let out := handler env ⟨fd,data⟩ s.sel socks
    sessionStep data s (.event kind fd env) =
      some ⟨out.sel,some {out.socks with stm:=some out.next},s.trace ++ out.effects⟩ := by
  have first : handleFirst socks = socks := by
    rw [handleFirst,stm]
    exact congrArg (fun stm => {socks with stm:=stm}) stm.symm
  dsimp only
  unfold sessionStep socksConnEvent stmHandler
  rw [live]
  dsimp only
  rw [Option.bind_some,stm,Option.getD_some,serves,first]
  simp only [Option.map_some]
  generalize handler env ⟨fd,data⟩ s.sel socks = out at going ⊢
  have arrival : jump env out = {out with socks:={out.socks with stm:=some out.next}} := by
    unfold jump
    split
    · rename_i same
      rw [← same]
    · unfold onArrival
      rcases going with next | next
      · rw [next]
      · rw [next]
  rw [arrival]
  unfold checkState
  rcases going with next | next
  · rw [next]
    rfl
  · rw [next]
    rfl

theorem writing_stays (live : s.conn = some socks) (writing : socks.stm = some .reqWrite) :
    dialling data env c rest s = some s := by
  have idle : (s.conn.any fun socks => decide (socks.current = .reqConnect)) = false := by
    rw [live]
    simp [SocksConnModel.current,writing]
  cases rest with
  | nil => rw [dialling,idle]; rfl
  | cons n later => rw [dialling,idle]; rfl

theorem deferred_error (later : c.attempt.atOnce = false) :
    c.attempt.succeeds = true ↔ c.attempt.soError = 0 := by
  cases kind : c.attempt with
  | connected => simp [Attempt.succeeds,Attempt.soError]
  | refused errno real => rw [kind] at later; cases later
  | deferred code => simp [Attempt.succeeds,Attempt.soError]

theorem reply_waiting {last : Session} {state : UInt8} (live : last.conn = some socks)
    (writing : socks.stm = some .reqWrite) (stated : socks.writeBuff.unread[1]? = some state) :
    last.reply = some state := by
  rw [Session.reply,live,Option.bind_some,SocksConnModel.current,writing]
  exact (if_pos rfl).trans stated

theorem answers_failure {last : Session} {state : UInt8} (live : last.conn = some socks)
    (writing : socks.stm = some .reqWrite) (stated : socks.writeBuff.unread[1]? = some state)
    (failure : state ≠ resSuccess) : last.answers none :=
  ⟨state,failure,reply_waiting live writing stated⟩

theorem waits_connect (live : s.conn = some socks) (waits : socks.stm = some .reqConnect) :
    (s.conn.any fun socks => decide (socks.current = .reqConnect)) = true := by
  rw [live]
  simp [SocksConnModel.current,waits]

def Dialled (data : Nat) (env : Env) (rest : List Candidate) (past : List SockAddr) (next : Session) : Prop :=
  match rest with
  | [] => next.answers none ∧ tried next.trace = past
  | c::later => tried next.trace = past ++ [c.info.addr] ∧
      (c.attempt.atOnce = true → next.answers none ∧ dialling data env c later next = some next) ∧
      (c.attempt.atOnce = false → ∃ socks, next.conn = some socks ∧ socks.stm = some .reqConnect ∧
        Pending next.sel socks c later)

theorem pending_stm (pending : Pending sel socks c rest) (state : SocksState) :
    Pending sel {socks with stm:=some state} c rest :=
  ⟨⟨pending.named.type,pending.named.name,pending.named.size,pending.named.empty,pending.named.room,
    pending.named.table,pending.named.client⟩,pending.listed,pending.families,pending.fresh,pending.socket,
    pending.addr,pending.family,pending.origin⟩

theorem reqDns_dialled (ready : Ready sel socks rest) {past : List SockAddr} {trace : List Effect}
    (before : tried trace ++ tried called = past) {served : Env}
    (aimed : ∀ c later, rest = c::later → served.socket = c.socket ∧ served.connect = c.attempt.connect) :
    ((reqDns served key sel socks called).next = .reqWrite ∨ (reqDns served key sel socks called).next = .reqConnect) ∧
    Dialled data env rest past ⟨(reqDns served key sel socks called).sel,some {(reqDns served key sel socks called).socks
      with stm:=some (reqDns served key sel socks called).next},
      trace ++ (reqDns served key sel socks called).effects⟩ := by
  cases rest with
  | nil =>
      obtain ⟨next,stated,effects⟩ := @reqDns_exhausted served key sel socks called ready
      refine ⟨.inl next,answers_failure rfl (congrArg some next) stated (by decide),?_⟩
      rw [tried_append,effects]
      exact before
  | cons c later =>
      obtain ⟨socket,connect⟩ := aimed c later rfl
      obtain ⟨effects,now,deferred⟩ := @reqDns_dials served key sel socks c later called ready socket connect
      have dialled : tried (trace ++ (reqDns served key sel socks called).effects) = past ++ [c.info.addr] := by
        rw [effects,tried_append,tried_append,← List.append_assoc,before]
        rfl
      cases atOnce : c.attempt.atOnce with
      | true =>
          obtain ⟨next,state,failure,stated⟩ := now atOnce
          refine ⟨.inl next,dialled,fun _ => ⟨answers_failure rfl (congrArg some next) stated failure,?_⟩,?_⟩
          · exact writing_stays rfl (congrArg some next)
          · intro contrary
            rw [atOnce] at contrary
            cases contrary
      | false =>
          obtain ⟨next,pending⟩ := deferred atOnce
          refine ⟨.inr next,dialled,?_,fun _ => ⟨_,rfl,congrArg some next,pending_stm pending _⟩⟩
          intro contrary
          rw [atOnce] at contrary
          cases contrary

theorem settle_deferred (later : c.attempt.atOnce = false) (fails : c.attempt.succeeds = false) :
    settle (c::rest) = (c::(settle rest).1,(settle rest).2) := by
  rw [settle,later,fails]
  rfl

theorem pending_event (live : s.conn = some socks) (waits : socks.stm = some .reqConnect)
    (pending : Pending s.sel socks c rest) (deferred : c.attempt.atOnce = false) {past : List SockAddr}
    (before : tried s.trace = past) {served : Env} (told : served.soError = some c.attempt.soError)
    (aimed : ∀ n later, rest = n::later → served.socket = n.socket ∧ served.connect = n.attempt.connect) :
    ∃ next, sessionStep data s (.event .write c.socket served) = some next ∧
      ((c.attempt.succeeds = true ∧ tried next.trace = past ∧ next.answers (some c) ∧
        ∀ n later, dialling data env n later next = some next) ∨
      (c.attempt.succeeds = false ∧ Dialled data env rest past next)) := by
  cases succeeds : c.attempt.succeeds with
  | true =>
      rw [(deferred_error deferred).mp succeeds] at told
      obtain ⟨next,stated,origin,effects⟩ := @reqConnect_succeeds served ⟨c.socket,data⟩ _ _ _ _ pending told rfl
      have ran := @event_served data served socks s .write c.socket .reqConnect reqConnect live waits rfl (.inl next)
      refine ⟨_,ran,.inl ⟨rfl,?_,⟨reply_waiting rfl (congrArg some next) stated,_,rfl,?_,?_⟩,?_⟩⟩
      · rw [tried_append,effects,List.append_nil]
        exact before
      · exact (congrArg StdConnModel.socket origin).trans pending.socket
      · exact (congrArg StdConnModel.addr origin).trans pending.addr
      · intro n later
        exact writing_stays rfl (congrArg some next)
  | false =>
      have some_ : c.attempt.soError ≠ 0 := by
        intro zero
        rw [(deferred_error deferred).mpr zero] at succeeds
        cases succeeds
      obtain ⟨ready,handed⟩ := @reqConnect_fails served ⟨c.socket,data⟩ _ _ _ _ pending _ told some_
      obtain ⟨going,dialled⟩ := @reqDns_dialled data env ⟨c.socket,data⟩ _ _ _ [.close c.socket] ready past s.trace
        (by rw [before]; simp [tried]) served aimed
      rw [← handed] at going dialled
      exact ⟨_,event_served live waits rfl going,.inr ⟨rfl,dialled⟩⟩

theorem settle_succeeds (later : c.attempt.atOnce = false) (succeeds : c.attempt.succeeds = true) :
    settle (c::rest) = ([c],some c) := by
  rw [settle,later,succeeds]
  rfl

theorem settle_atOnce (now : c.attempt.atOnce = true) : settle (c::rest) = ([c],none) := by
  rw [settle,now]
  rfl

-- Induction on the addresses that are left when `c` is being dialled.
theorem dialling_settles {past : List SockAddr} (live : s.conn = some socks) (waits : socks.stm = some .reqConnect)
    (pending : Pending s.sel socks c rest) (deferred : c.attempt.atOnce = false)
    (before : tried s.trace = past ++ [c.info.addr]) :
    ∃ last, dialling data env c rest s = some last ∧ Settles (c::rest) past last := by
  induction rest generalizing c s socks past with
  | nil =>
      obtain ⟨next,ran,⟨succeeds,dialled,answers,_⟩ | ⟨fails,answers,dialled⟩⟩ := @pending_event data env socks s c []
        live waits pending deferred _ before {env with soError:=some c.attempt.soError} rfl (fun n later none => by cases none)
      · refine ⟨next,by rw [dialling,if_pos (waits_connect live waits),ran],?_,?_⟩
        · rw [settle_succeeds deferred succeeds]
          exact dialled
        · rw [settle_succeeds deferred succeeds]
          exact answers
      · refine ⟨next,by rw [dialling,if_pos (waits_connect live waits),ran],?_,?_⟩
        · rw [settle_deferred deferred fails]
          exact dialled
        · rw [settle_deferred deferred fails]
          exact answers
  | cons n later ih =>
      obtain ⟨next,ran,⟨succeeds,dialled,answers,stays⟩ | ⟨fails,dialled,now,further⟩⟩ := @pending_event data env socks s
        c (n::later) live waits pending deferred _ before {dialEnv env (n::later) with soError:=some c.attempt.soError}
        rfl (by rintro _ _ ⟨rfl,rfl⟩; exact ⟨rfl,rfl⟩)
      · refine ⟨next,?_,?_,?_⟩
        · rw [dialling,if_pos (waits_connect live waits),ran,Option.bind_some,stays]
        · rw [settle_succeeds deferred succeeds]
          exact dialled
        · rw [settle_succeeds deferred succeeds]
          exact answers
      · cases atOnce : n.attempt.atOnce with
        | true =>
            obtain ⟨answers,stays⟩ := now atOnce
            refine ⟨next,?_,?_,?_⟩
            · rw [dialling,if_pos (waits_connect live waits),ran,Option.bind_some,stays]
            · rw [settle_deferred deferred fails,settle_atOnce atOnce,dialled,List.append_assoc]
              rfl
            · rw [settle_deferred deferred fails,settle_atOnce atOnce]
              exact answers
        | false =>
            obtain ⟨after,open_,going,left_⟩ := further atOnce
            obtain ⟨last,rest,settled⟩ := ih open_ going left_ atOnce dialled
            refine ⟨last,?_,?_,?_⟩
            · rw [dialling,if_pos (waits_connect live waits),ran,Option.bind_some,rest]
            · rw [settle_deferred deferred fails,settled.dialled,List.append_assoc]
              rfl
            · rw [settle_deferred deferred fails]
              exact settled.answered

structure Resolved (s : Session) (cli : Int) (candidates : List Candidate) : Prop where
  some_ : candidates ≠ []
  waiting : ∃ socks, s.conn = some socks ∧ socks.stm = some .reqDns ∧ socks.cliConn.socket = cli ∧
    Ready s.sel socks candidates
  unused : tried s.trace = []

theorem resolve_settles (resolved : Resolved s cli candidates) :
    ∃ last, resolveName data env cli candidates s = some last ∧ Settles candidates [] last := by
  obtain ⟨socks,live,waits,_,ready⟩ := resolved.waiting
  cases shape : candidates with
  | nil => exact absurd shape resolved.some_
  | cons c rest =>
      rw [shape] at ready
      obtain ⟨going,dialled,now,further⟩ := @reqDns_dialled data env ⟨cli,data⟩ s.sel socks (c::rest) [] ready []
        s.trace (by rw [resolved.unused]; rfl) (dialEnv env (c::rest)) (by rintro _ _ ⟨rfl,rfl⟩; exact ⟨rfl,rfl⟩)
      have ran := @event_served data (dialEnv env (c::rest)) socks s .block cli .reqDns
        (fun env key sel socks => reqDns env key sel socks []) live waits rfl going
      dsimp only at ran
      cases atOnce : c.attempt.atOnce with
      | true =>
          obtain ⟨answers,stays⟩ := now atOnce
          refine ⟨_,by rw [resolveName,ran,Option.bind_some,stays],?_,?_⟩
          · rw [settle_atOnce atOnce]
            exact dialled
          · rw [settle_atOnce atOnce]
            exact answers
      | false =>
          obtain ⟨after,open_,going,pending⟩ := further atOnce
          obtain ⟨last,rest,settled⟩ := @dialling_settles data env after _ c rest [] open_ going pending atOnce dialled
          exact ⟨last,by rw [resolveName,ran,Option.bind_some,rest],settled⟩

def Attempt.lost (attempt : Attempt) : Bool := !attempt.atOnce && !attempt.succeeds

theorem lost_parts {attempt : Attempt} : attempt.lost = true ↔ attempt.atOnce = false ∧ attempt.succeeds = false := by
  simp [Attempt.lost]

theorem atOnce_fails {attempt : Attempt} (now : attempt.atOnce = true) : attempt.succeeds = false := by
  cases attempt with
  | connected => cases now
  | refused errno real => rfl
  | deferred code => cases now

inductive Stops : List Candidate → Prop where
  | used (before : List Candidate) (c : Candidate) (after : List Candidate)
      (lost : ∀ b ∈ before, b.attempt.lost = true) (deferred : c.attempt.atOnce = false)
      (succeeds : c.attempt.succeeds = true)
      (settled : settle (before ++ c::after) = (before ++ [c],some c)) : Stops (before ++ c::after)
  | refused (before : List Candidate) (c : Candidate) (after : List Candidate)
      (lost : ∀ b ∈ before, b.attempt.lost = true) (now : c.attempt.atOnce = true)
      (settled : settle (before ++ c::after) = (before ++ [c],none)) : Stops (before ++ c::after)
  | exhausted (lost : ∀ b ∈ all, b.attempt.lost = true) (settled : settle all = (all,none)) : Stops all

theorem settle_stops (candidates : List Candidate) : Stops candidates := by
  induction candidates with
  | nil => exact .exhausted (by simp) rfl
  | cons c rest ih =>
      cases atOnce : c.attempt.atOnce with
      | true => exact .refused [] c rest (by simp) atOnce (settle_atOnce atOnce)
      | false =>
          cases succeeds : c.attempt.succeeds with
          | true => exact .used [] c rest (by simp) atOnce succeeds (settle_succeeds atOnce succeeds)
          | false =>
              have mine : c.attempt.lost = true := lost_parts.mpr ⟨atOnce,succeeds⟩
              cases ih with
              | used before d after lost deferred found settled =>
                  refine .used (c::before) d after (List.forall_mem_cons.mpr ⟨mine,lost⟩) deferred found ?_
                  rw [List.cons_append,settle_deferred atOnce succeeds,settled]
                  rfl
              | refused before d after lost now settled =>
                  refine .refused (c::before) d after (List.forall_mem_cons.mpr ⟨mine,lost⟩) now ?_
                  rw [List.cons_append,settle_deferred atOnce succeeds,settled]
                  rfl
              | exhausted lost settled =>
                  refine .exhausted (List.forall_mem_cons.mpr ⟨mine,lost⟩) ?_
                  rw [settle_deferred atOnce succeeds,settled]

theorem first_unique {p : β → Bool} {before other : List β} {x y : β} {after later : List β}
    (same : before ++ x::after = other ++ y::later) (left : ∀ b ∈ before, p b = true) (stop : p x = false)
    (right : ∀ b ∈ other, p b = true) (halt : p y = false) : before = other ∧ x = y ∧ after = later := by
  induction before generalizing other with
  | nil =>
      cases other with
      | nil => cases same; exact ⟨rfl,rfl,rfl⟩
      | cons b rest =>
          cases same
          rw [right _ List.mem_cons_self] at stop
          cases stop
  | cons b rest ih =>
      cases other with
      | nil =>
          cases same
          rw [left _ List.mem_cons_self] at halt
          cases halt
      | cons d others =>
          injection same with head tail
          obtain ⟨equal,item,rest_⟩ := ih tail (fun b member => left b (List.mem_cons_of_mem _ member))
            (fun b member => right b (List.mem_cons_of_mem _ member))
          exact ⟨by rw [head,equal],item,rest_⟩

structure TriesAll (candidates : List Candidate) (last : Session) : Prop where
  replies : ∃ state, last.reply = some state
  success : last.reply = some resSuccess ↔ ∃ c ∈ candidates, c.attempt.succeeds = true
  used : last.reply = some resSuccess → ∃ before c after, candidates = before ++ c::after ∧
    (∀ b ∈ before, b.attempt.succeeds = false) ∧ c.attempt.succeeds = true ∧ last.uses c
  failure : ∀ state, last.reply = some state → state ≠ resSuccess →
    tried last.trace = candidates.map fun c => c.info.addr

def Persistent (candidates : List Candidate) : Prop :=
  ∀ before c after, candidates = before ++ c::after → (∀ b ∈ before, b.attempt.lost = true) →
    c.attempt.atOnce = true → after = []

theorem refused_lost {attempt : Attempt} (now : attempt.atOnce = true) : attempt.lost = false := by
  simp [Attempt.lost,now]

theorem used_lost {attempt : Attempt} (succeeds : attempt.succeeds = true) : attempt.lost = false := by
  simp [Attempt.lost,succeeds]

theorem failing_reply {last : Session} (answers : last.answers none) : last.reply ≠ some resSuccess := by
  obtain ⟨state,failure,stated⟩ := answers
  rw [stated]
  exact fun same => failure (Option.some.inj same)

theorem exhausted_tries {last : Session} (settles : Settles candidates [] last)
    (settled : settle candidates = (candidates,none)) (fails : ∀ c ∈ candidates, c.attempt.succeeds = false) :
    TriesAll candidates last := by
  have answers := settles.answered
  have dialled := settles.dialled
  rw [settled] at answers dialled
  refine ⟨?_,?_,?_,?_⟩
  · obtain ⟨state,_,stated⟩ := answers
    exact ⟨state,stated⟩
  · refine ⟨fun success => absurd success (failing_reply answers),?_⟩
    rintro ⟨c,member,succeeds⟩
    rw [fails c member] at succeeds
    cases succeeds
  · exact fun success => absurd success (failing_reply answers)
  · intro _ _ _
    exact dialled

theorem used_tries {last : Session} {before after : List Candidate} (settles : Settles (before ++ c::after) [] last)
    (settled : settle (before ++ c::after) = (before ++ [c],some c)) (lost : ∀ b ∈ before, b.attempt.lost = true)
    (succeeds : c.attempt.succeeds = true) : TriesAll (before ++ c::after) last := by
  have answers := settles.answered
  rw [settled] at answers
  obtain ⟨success,uses⟩ := answers
  refine ⟨⟨_,success⟩,?_,?_,?_⟩
  · exact ⟨fun _ => ⟨c,by simp,succeeds⟩,fun _ => success⟩
  · intro _
    exact ⟨before,c,after,rfl,fun b member => (lost_parts.mp (lost b member)).2,succeeds,uses⟩
  · intro state stated failure
    rw [success] at stated
    exact absurd (Option.some.inj stated).symm failure

-- A connect that fails at once sends its failure reply straight from init_connection and
-- leaves the rest of the list untried.
theorem every_address_exact (resolved : Resolved s cli candidates) :
    ∃ last, resolveName data env cli candidates s = some last ∧
      (TriesAll candidates last ↔ Persistent candidates) := by
  obtain ⟨last,ran,settles⟩ := @resolve_settles data env s cli candidates resolved
  refine ⟨last,ran,?_⟩
  cases settle_stops candidates with
  | used before c after lost deferred succeeds settled =>
      refine iff_of_true (used_tries settles settled lost succeeds) ?_
      intro other d later same lostOther now
      obtain ⟨_,rfl,_⟩ := first_unique same lost (used_lost succeeds) lostOther (refused_lost now)
      rw [now] at deferred
      cases deferred
  | refused before c after lost now settled =>
      by_cases final : after = []
      · subst final
        refine iff_of_true (exhausted_tries settles settled ?_) ?_
        · intro b member
          rcases List.mem_append.mp member with earlier | here
          · exact (lost_parts.mp (lost b earlier)).2
          · rw [List.mem_singleton.mp here]
            exact atOnce_fails now
        · intro other d later same lostOther nowOther
          exact (first_unique same lost (refused_lost now) lostOther (refused_lost nowOther)).2.2.symm
      · refine iff_of_false ?_ fun persistent => final (persistent before c after rfl lost now)
        intro tries
        have answers := settles.answered
        have dialled := settles.dialled
        rw [settled] at answers dialled
        obtain ⟨state,failure,stated⟩ := answers
        have whole := congrArg List.length ((tries.failure state stated failure).symm.trans dialled)
        have some_ := List.length_pos_iff.mpr final
        simp only [List.nil_append,List.length_map,List.length_append,List.length_cons,List.length_nil] at whole
        omega
  | exhausted lost settled =>
      refine iff_of_true (exhausted_tries settles settled fun c member => (lost_parts.mp (lost c member)).2) ?_
      intro before c after same _ now
      have here := lost c (by rw [same]; simp)
      rw [refused_lost now] at here
      cases here

def hostAt (host : UInt8) : AddrInfo := ⟨afInet,⟨afInet,[0,80],[10,0,0,host]⟩,sizeofSockaddrIn,by decide⟩

def slowThenGood : List Candidate := [⟨hostAt 1,6,.deferred etimedout⟩,⟨hostAt 2,6,.connected⟩]
def refusedThenGood : List Candidate := [⟨hostAt 1,6,.refused enetunreach (by decide)⟩,⟨hostAt 2,7,.connected⟩]

def asksName (addrs : List AddrInfo) : List SessionEvent :=
  [clientSends .empty [0x05,0x01,0x00],clientTakes .empty 2,
    clientSends .empty [0x05,0x01,0x00,0x03,0x01,0x61,0,80],.resolved addrs]

def nameConn (addrs : List AddrInfo) : SocksConnModel :=
  {acceptedConn 5 with
    stm:=some .reqDns
    resolvedAddr:=addrs
    currAddr:=addrs
    parsers.reqParser:={ReqParser.zeroed with
      cmd:=reqCmdConnect,type:=fqdn,addr.fqdn:=0x61::List.replicate maxFqdnSize 0}}

theorem nameConn_resolved : Resolved ⟨acceptedSelector,some (nameConn (slowThenGood.map Candidate.info)),[]⟩ 5
    slowThenGood := by
  refine ⟨by simp [slowThenGood],⟨_,rfl,rfl,rfl,⟨rfl,?_,?_,?_,rfl,?_,?_⟩,rfl,?_,?_⟩,rfl⟩
  · decide +kernel
  · decide +kernel
  · exact CertifiedBuffer.init_unread _
  · decide +kernel
  · exact Option.isSome_iff_exists.mp (by decide +kernel)
  · decide +kernel
  · decide +kernel

theorem slow_address_passed :
    ∃ last, resolveName 1 quiet 5 slowThenGood
        ⟨acceptedSelector,some (nameConn (slowThenGood.map Candidate.info)),[]⟩ = some last ∧
      (TriesAll slowThenGood last ↔ Persistent slowThenGood) :=
  every_address_exact nameConn_resolved

-- The first address has no route; the second would have answered, but is never dialled.
theorem refused_address_ends :
    ∃ s last, Transitions.exec (servedStep 1) (newSession acceptedSelector 5)
        (asksName (refusedThenGood.map Candidate.info)) = some s ∧
      resolveName 1 quiet 5 refusedThenGood s = some last ∧
      last.reply = some resNetUnreachable ∧ tried last.trace = [(hostAt 1).addr] ∧ ¬ TriesAll refusedThenGood last := by
  have facts : ((Transitions.exec (servedStep 1) (newSession acceptedSelector 5)
      (asksName (refusedThenGood.map Candidate.info))).bind fun s =>
        (resolveName 1 quiet 5 refusedThenGood s).map fun last => (last.reply,tried last.trace)) =
      some (some resNetUnreachable,[(hostAt 1).addr]) := by decide +kernel
  obtain ⟨s,ran,rest⟩ := Option.bind_eq_some_iff.mp facts
  obtain ⟨last,resolved,found⟩ := Option.map_eq_some_iff.mp rest
  obtain ⟨reply,dialled⟩ := Prod.mk.inj found
  refine ⟨s,last,ran,resolved,reply,dialled,?_⟩
  intro tries
  have success := tries.success.mpr ⟨⟨hostAt 2,7,.connected⟩,by simp [refusedThenGood],rfl⟩
  rw [reply] at success
  exact absurd (Option.some.inj success) (by decide)

end Socks5d
