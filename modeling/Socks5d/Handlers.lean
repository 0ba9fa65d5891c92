import Socks5d.ConnHandler

namespace Socks5d
open Scan

variable {π : Type} {env : Env} {key : SelectorKey} {sel : Selector} {socks : SocksConnModel}
  {called : List Effect} {state : UInt8}

def Recv.bytes : Recv → List UInt8
  | .data bytes => bytes
  | .closed => []
  | .failed _ => []

theorem clip_data {recv : Recv} (got : recv.clip room = .data bytes) :
    bytes ≠ [] ∧ bytes.length ≤ room := by
  unfold Recv.clip at got
  split at got
  · split at got
    · cases got
    · rename_i some
      cases got
      exact ⟨some,by rw [List.length_take]; exact Nat.min_le_left _ _⟩
  · cases got
  · cases got

theorem readMessage_cases (r : Reader π)
    (finish : Env → SelectorKey → Selector → SocksConnModel → List Effect → Outcome)
    (env : Env) (key : SelectorKey) (sel : Selector) (socks : SocksConnModel) :
    ((∀ bytes, env.recv.clip socks.readBuff.space ≠ .data bytes) ∧ readMessage r finish env key sel socks =
      ⟨sel,{socks with parsers:=r.put socks.parsers (r.init (r.get socks.parsers))},
        [.recv socks.cliConn.socket (env.recv.clip socks.readBuff.space)],.error⟩) ∨
    ∃ bytes buff, env.recv.clip socks.readBuff.space = .data bytes ∧
      buff.unread = (scan (r.advance env.users.requireAuth) r.halted (r.init (r.get socks.parsers))
        (socks.readBuff.unread ++ bytes)).2 ∧
      buff.capacity = socks.readBuff.capacity ∧
      let parser := (scan (r.advance env.users.requireAuth) r.halted (r.init (r.get socks.parsers))
        (socks.readBuff.unread ++ bytes)).1
      let parsed := {socks with parsers:=r.put socks.parsers parser,readBuff:=buff}
      let called := [Effect.recv socks.cliConn.socket (.data bytes)]
      readMessage r finish env key sel socks =
        if r.failed parser then ⟨sel,parsed,called,.error⟩
        else if r.finished parser then finish env key sel parsed called
        else ⟨sel,parsed,called,r.stay⟩ := by
  cases got : env.recv.clip socks.readBuff.space with
  | data bytes =>
      obtain ⟨some,fits⟩ := clip_data got
      have filled : (socks.readBuff.fill bytes).unread = socks.readBuff.unread ++ bytes := by
        rw [CertifiedBuffer.fill_unread,List.take_of_length_le fits]
      have amount : (checkBuffAndReceive socks.readBuff (.data bytes)).2 ≠ -1 := by
        simp only [checkBuffAndReceive]
        omega
      refine .inr ⟨bytes,(parseFull (r.advance env.users.requireAuth) r.halted (r.init (r.get socks.parsers))
        (socks.readBuff.fill bytes)).2,rfl,?_,?_,?_⟩
      · rw [parseFull_unread,filled]
      · rw [parseFull_capacity,CertifiedBuffer.fill_capacity]
      · simp only [readMessage,got]
        rw [if_neg amount]
        simp only [checkBuffAndReceive,parseFull_state,filled,r.put_put]
  | closed =>
      refine .inl ⟨by simp,?_⟩
      simp [readMessage,got,checkBuffAndReceive]
  | failed code =>
      refine .inl ⟨by simp,?_⟩
      simp [readMessage,got,checkBuffAndReceive]

theorem writeReply_sent (stay : SocksState) (logged : Env → SocksConnModel → List Effect)
    (finish : SelectorKey → Selector → SocksConnModel → List Effect → Outcome)
    (env : Env) (key : SelectorKey) (sel : Selector) (socks : SocksConnModel) {count : Nat}
    (gave : env.send = .sent count) :
    let sent := {socks with writeBuff:=socks.writeBuff.consume count}
    let called := [Effect.send socks.cliConn.socket (socks.writeBuff.unread.take count)] ++ logged env sent
    writeReply stay logged finish env key sel socks =
      if (socks.writeBuff.consume count).unread ≠ [] then ⟨sel,sent,called,stay⟩
      else finish key sel sent called := by
  have amount : (checkBuffAndSend socks.writeBuff (.sent count)).2 ≠ -1 := by
    simp only [checkBuffAndSend]
    omega
  simp only [writeReply,gave]
  rw [if_neg amount]
  simp only [checkBuffAndSend,Send.bytes,CertifiedBuffer.canRead_unread]

theorem writeReply_cases (stay : SocksState) (logged : Env → SocksConnModel → List Effect)
    (finish : SelectorKey → Selector → SocksConnModel → List Effect → Outcome)
    (env : Env) (key : SelectorKey) (sel : Selector) (socks : SocksConnModel) :
    (writeReply stay logged finish env key sel socks =
      ⟨sel,socks,[.send socks.cliConn.socket []],.error⟩) ∨
    ∃ count, env.send = .sent count ∧
      let sent := {socks with writeBuff:=socks.writeBuff.consume count}
      let called := [Effect.send socks.cliConn.socket (socks.writeBuff.unread.take count)] ++ logged env sent
      writeReply stay logged finish env key sel socks =
        if (socks.writeBuff.consume count).unread ≠ [] then ⟨sel,sent,called,stay⟩
        else finish key sel sent called := by
  cases gave : env.send with
  | sent count => exact .inr ⟨count,rfl,writeReply_sent stay logged finish env key sel socks gave⟩
  | failed code =>
      left
      simp [writeReply,gave,checkBuffAndSend,Send.bytes]

def Effect.plain : Effect → Bool
  | .socket _ => false
  | .close _ => false
  | _ => true

-- A continuation that leaves the descriptors and the unread input of the connection
-- as they are, and adds only plain calls.
structure Inert (socks : SocksConnModel) (called : List Effect) (out : Outcome) : Prop where
  client : out.socks.cliConn = socks.cliConn
  origin : out.socks.srcConn.socket = socks.srcConn.socket
  family : out.socks.srcAddrFamily = socks.srcAddrFamily
  input : out.socks.readBuff = socks.readBuff
  room : out.socks.writeBuff.capacity = socks.writeBuff.capacity
  stm : out.socks.stm = socks.stm
  grown : ∃ more, out.effects = called ++ more ∧ ∀ effect ∈ more, effect.plain = true

theorem inert_same (sel : Selector) (socks : SocksConnModel) (called : List Effect) (next : SocksState) :
    Inert socks called ⟨sel,socks,called,next⟩ :=
  ⟨rfl,rfl,rfl,rfl,rfl,rfl,[],by simp,by simp⟩

theorem replyTwo_inert (next : SocksState) (reply : List UInt8) :
    Inert socks called (replyTwo next reply key sel socks called) ∧
    ((replyTwo next reply key sel socks called).next = next ∨
      (replyTwo next reply key sel socks called).next = .error) ∧
    (replyTwo next reply key sel socks called).effects = called ∧
    (replyTwo next reply key sel socks called).socks.parsers = socks.parsers := by
  unfold replyTwo
  dsimp only
  split
  · exact ⟨inert_same _ _ _ _,.inr rfl,rfl,rfl⟩
  · split
    · exact ⟨inert_same _ _ _ _,.inr rfl,rfl,rfl⟩
    · exact ⟨⟨rfl,rfl,rfl,rfl,CertifiedBuffer.fill_capacity _ _,rfl,[],by simp,by simp⟩,.inl rfl,rfl,rfl⟩

theorem reqResponse_cases (buff : CertifiedBuffer) (parser : ResParser) :
    reqResponseMessage buff parser = none ∨
    ∃ message n, reqResponseMessage buff parser = some (buff.fill message,n) := by
  unfold reqResponseMessage
  dsimp only
  generalize (if parser.type = ipv4 then ipv4Bytes else if parser.type = ipv6 then ipv6Bytes
    else if parser.type = fqdn then (cString parser.addr.fqdn).length else 0) = length
  by_cases empty : length = 0
  · exact .inl (if_pos empty)
  · rw [if_neg empty]
    by_cases short : buff.space < length + fixedResBytes + (if parser.type = fqdn then 1 else 0)
    · exact .inl (if_pos short)
    · exact .inr ⟨_,_,if_neg short⟩

theorem manageReqError_inert (state : UInt8) :
    Inert socks called (manageReqError state sel socks called) ∧
    ((manageReqError state sel socks called).next = .reqWrite ∨
      (manageReqError state sel socks called).next = .error) := by
  unfold manageReqError
  dsimp only
  rcases reqResponse_cases socks.writeBuff (setResParser socks.parsers.reqParser state).resParser with
    none | ⟨message,n,made⟩
  · rw [none]
    exact ⟨⟨rfl,rfl,rfl,rfl,rfl,rfl,[],by simp,by simp⟩,.inr rfl⟩
  · rw [made]
    refine ⟨⟨rfl,rfl,rfl,rfl,CertifiedBuffer.fill_capacity _ _,rfl,[],by simp,by simp⟩,?_⟩
    dsimp only
    split
    · exact .inl rfl
    · exact .inr rfl

theorem helloSent_inert :
    Inert socks called (helloSent key sel socks called) ∧
    (helloSent key sel socks called).effects = called ∧
    (helloSent key sel socks called).socks = socks ∧
    ((helloSent key sel socks called).next = .reqRead ∧ socks.parsers.connectParser.auth = noAuth ∨
      (helloSent key sel socks called).next = .authRead ∧ socks.parsers.connectParser.auth = userPass ∨
      (helloSent key sel socks called).next = .done ∨ (helloSent key sel socks called).next = .error) := by
  unfold helloSent
  dsimp only
  split
  · exact ⟨inert_same _ _ _ _,rfl,rfl,.inr (.inr (.inr rfl))⟩
  · split
    · rename_i auth
      exact ⟨inert_same _ _ _ _,rfl,rfl,.inl ⟨rfl,auth⟩⟩
    · split
      · rename_i auth
        exact ⟨inert_same _ _ _ _,rfl,rfl,.inr (.inl ⟨rfl,auth⟩)⟩
      · split
        · exact ⟨inert_same _ _ _ _,rfl,rfl,.inr (.inr (.inl rfl))⟩
        · split
          · exact ⟨inert_same _ _ _ _,rfl,rfl,.inr (.inr (.inl rfl))⟩
          · exact ⟨inert_same _ _ _ _,rfl,rfl,.inr (.inr (.inr rfl))⟩

theorem authSent_inert :
    Inert socks called (authSent key sel socks called) ∧
    ((authSent key sel socks called).next = .reqRead ∨ (authSent key sel socks called).next = .error) := by
  unfold authSent
  refine ⟨inert_same _ _ _ _,?_⟩
  dsimp only
  split
  · exact .inl rfl
  · exact .inr rfl

theorem reqSent_inert :
    Inert socks called (reqSent key sel socks called) ∧
    ((reqSent key sel socks called).next = .copy ∨ (reqSent key sel socks called).next = .done ∨
      (reqSent key sel socks called).next = .error) := by
  unfold reqSent
  dsimp only
  split
  · exact ⟨inert_same _ _ _ _,.inr (.inl rfl)⟩
  · split
    · exact ⟨inert_same _ _ _ _,.inr (.inr rfl)⟩
    · refine ⟨inert_same _ _ _ _,?_⟩
      dsimp only
      split
      · exact .inl rfl
      · exact .inr (.inr rfl)

theorem manageReqError_effects (state : UInt8) : (manageReqError state sel socks called).effects = called := by
  unfold manageReqError
  dsimp only
  split
  · rfl
  · rfl

-- init_connection is the one place where a connection gets a descriptor: the calls it
-- adds are socket() and connect(), unless socket() failed.
structure Dials (env : Env) (socks : SocksConnModel) (called : List Effect) (family : Nat)
    (out : Outcome) : Prop where
  client : out.socks.cliConn = socks.cliConn
  origin : out.socks.srcConn.socket = env.socket
  family : out.socks.srcAddrFamily = family
  input : out.socks.readBuff = socks.readBuff
  room : out.socks.writeBuff.capacity = socks.writeBuff.capacity
  stm : out.socks.stm = socks.stm
  opened : ∃ addr, out.effects = called ++ (if env.socket = -1 then [] else
    [.socket env.socket,.connect env.socket addr])
  next : out.next = .reqConnect ∨ out.next = .reqWrite ∨ out.next = .error
  went : out.next = .reqConnect → env.socket ≠ -1

theorem initConnection_dials :
    Dials env socks called socks.srcAddrFamily (initConnection env key sel socks called) := by
  unfold initConnection
  dsimp only
  split
  · rename_i failed
    exact ⟨rfl,rfl,rfl,rfl,rfl,rfl,⟨socks.srcConn.addr,by rw [if_pos failed]; simp⟩,.inr (.inr rfl),
      fun connects => by cases connects⟩
  · rename_i opened
    have added : ∃ addr, called ++ [.socket env.socket,.connect env.socket socks.srcConn.addr] =
        called ++ (if env.socket = -1 then [] else [.socket env.socket,.connect env.socket addr]) :=
      ⟨socks.srcConn.addr,by rw [if_neg opened]⟩
    split
    · split
      · exact ⟨rfl,rfl,rfl,rfl,rfl,rfl,added,.inr (.inr rfl),fun _ => opened⟩
      · split
        · exact ⟨rfl,rfl,rfl,rfl,rfl,rfl,added,.inr (.inr rfl),fun _ => opened⟩
        · exact ⟨rfl,rfl,rfl,rfl,rfl,rfl,added,.inl rfl,fun _ => opened⟩
    · obtain ⟨inert,next⟩ := @manageReqError_inert sel {socks with srcConn.socket:=env.socket}
        (called ++ [.socket env.socket,.connect env.socket socks.srcConn.addr])
        (errnoToReqResponseState env.connect.errno)
      obtain ⟨addr,added⟩ := added
      exact ⟨inert.client,inert.origin,inert.family,inert.input,inert.room,inert.stm,
        ⟨addr,(manageReqError_effects _).trans added⟩,.inr next,fun _ => opened⟩

theorem setConnection_cases :
    (Inert socks called (setConnection env key sel socks called) ∧
      ((setConnection env key sel socks called).next = .reqWrite ∨
        (setConnection env key sel socks called).next = .reqDns ∨
        (setConnection env key sel socks called).next = .error)) ∨
    ∃ family, family ≠ afUnspec ∧ Dials env socks called family (setConnection env key sel socks called) := by
  unfold setConnection
  dsimp only
  split
  · obtain ⟨client,origin,family,input,room,stm,opened,next,went⟩ := @initConnection_dials env key sel _ called
    exact .inr ⟨afInet,by decide,client,origin,family,input,room,stm,opened,next,went⟩
  · split
    · obtain ⟨client,origin,family,input,room,stm,opened,next,went⟩ := @initConnection_dials env key sel _ called
      exact .inr ⟨afInet6,by decide,client,origin,family,input,room,stm,opened,next,went⟩
    · split
      · split
        · obtain ⟨inert,next⟩ := @manageReqError_inert sel socks called resSocksFail
          exact .inl ⟨inert,next.imp_right .inr⟩
        · split
          · obtain ⟨inert,next⟩ := @manageReqError_inert sel socks called resSocksFail
            exact .inl ⟨inert,next.imp_right .inr⟩
          · refine .inl ⟨⟨rfl,rfl,rfl,rfl,rfl,rfl,_,rfl,by simp [Effect.plain]⟩,?_⟩
            dsimp only
            split
            · exact .inr (.inl rfl)
            · exact .inr (.inr rfl)
      · exact .inl ⟨inert_same _ _ _ _,.inr (.inr rfl)⟩

theorem reqDns_cases :
    (socks.currAddr = [] ∧ Inert socks called (reqDns env key sel socks called) ∧
      ((reqDns env key sel socks called).next = .reqWrite ∨ (reqDns env key sel socks called).next = .error)) ∨
    ∃ current rest, socks.currAddr = current::rest ∧
      Dials env socks called current.family (reqDns env key sel socks called) := by
  unfold reqDns
  split
  · rename_i empty
    refine .inl ⟨empty,?_⟩
    split
    · obtain ⟨inert,next⟩ := @manageReqError_inert sel {socks with resolvedAddr:=[],currAddr:=[]}
        (called ++ [.freeAddrInfo]) resHostUnreachable
      refine ⟨⟨inert.client,inert.origin,inert.family,inert.input,inert.room,inert.stm,?_⟩,next⟩
      obtain ⟨more,grown,plain⟩ := inert.grown
      refine ⟨.freeAddrInfo::more,by rw [grown,List.append_assoc]; rfl,?_⟩
      intro effect member
      rcases List.mem_cons.mp member with rfl | rest
      · rfl
      · exact plain effect rest
    · exact manageReqError_inert resHostUnreachable
  · rename_i current rest listed
    obtain ⟨client,origin,family,input,room,stm,opened,next,went⟩ := @initConnection_dials env key sel {socks with
      srcAddrFamily:=current.family
      srcConn:={socks.srcConn with addr:=current.addr,addrLen:=current.addrlen}
      currAddr:=rest} called
    exact .inr ⟨current,rest,listed,client,origin,family,input,room,stm,opened,next,went⟩

theorem cleanResolvedAddr_parts (socks : SocksConnModel) :
    ∃ resolved freed, cleanResolvedAddr socks = ({socks with resolvedAddr:=resolved},freed) ∧
      ∀ effect ∈ freed, effect.plain = true := by
  unfold cleanResolvedAddr
  split
  · exact ⟨[],_,rfl,by simp [Effect.plain]⟩
  · exact ⟨socks.resolvedAddr,[],rfl,by simp⟩

theorem inert_plain {socks : SocksConnModel} {out : Outcome} (plain : ∀ effect ∈ called, effect.plain = true)
    (inert : Inert socks called out) : Inert socks [] out := by
  obtain ⟨more,grown,rest⟩ := inert.grown
  refine ⟨inert.client,inert.origin,inert.family,inert.input,inert.room,inert.stm,called++more,grown,?_⟩
  intro effect member
  rcases List.mem_append.mp member with first | last
  · exact plain effect first
  · exact rest effect last

-- req_connect hands over to req_dns when a name is being tried and the address at
-- hand failed; every other outcome answers the client.
theorem reqConnect_cases :
    (∃ code, env.soError = some code ∧ code ≠ 0 ∧ socks.parsers.reqParser.type = fqdn ∧
      reqConnect env key sel socks =
        reqDns env key (selectorUnregisterFd sel socks.srcConn.socket).2 socks [.close socks.srcConn.socket]) ∨
    (Inert socks [] (reqConnect env key sel socks) ∧
      ((reqConnect env key sel socks).next = .reqWrite ∨ (reqConnect env key sel socks).next = .error)) := by
  obtain ⟨resolved,freed,cleaned,plain⟩ := cleanResolvedAddr_parts socks
  cases optval : env.soError with
  | none =>
      right
      unfold reqConnect
      rw [optval]
      dsimp only
      rw [cleaned]
      obtain ⟨inert,next⟩ := @manageReqError_inert sel {socks with resolvedAddr:=resolved} freed resSocksFail
      have plainly := inert_plain plain inert
      exact ⟨⟨plainly.client,plainly.origin,plainly.family,plainly.input,plainly.room,plainly.stm,plainly.grown⟩,next⟩
  | some code =>
      by_cases failed : code ≠ 0
      · by_cases named : socks.parsers.reqParser.type = fqdn
        · left
          refine ⟨code,rfl,failed,named,?_⟩
          unfold reqConnect
          rw [optval]
          dsimp only
          rw [if_pos failed,if_pos named]
        · right
          unfold reqConnect
          rw [optval]
          dsimp only
          rw [if_pos failed,if_neg named]
          exact manageReqError_inert _
      · right
        unfold reqConnect
        rw [optval]
        dsimp only
        rw [if_neg failed,cleaned]
        dsimp only
        split
        · obtain ⟨inert,next⟩ := @manageReqError_inert sel {socks with
            resolvedAddr:=resolved
            parsers.reqParser.resParser.state:=resSuccess
            parsers.reqParser.resParser.port:=socks.parsers.reqParser.port} freed resSocksFail
          have plainly := inert_plain plain inert
          exact ⟨⟨plainly.client,plainly.origin,plainly.family,plainly.input,plainly.room,plainly.stm,
            plainly.grown⟩,next⟩
        · rename_i parser _
          have still : ∀ sel buff next, buff.capacity = socks.writeBuff.capacity →
              Inert socks [] ⟨sel,{socks with
                resolvedAddr:=resolved,parsers.reqParser:=parser,writeBuff:=buff},freed,next⟩ :=
            fun _ _ _ room => ⟨rfl,rfl,rfl,rfl,room,rfl,freed,rfl,plain⟩
          split
          · split
            · rcases reqResponse_cases socks.writeBuff parser.resParser with none | ⟨message,n,made⟩
              · rw [none]
                exact ⟨still _ socks.writeBuff _ rfl,.inr rfl⟩
              · rw [made]
                exact ⟨still _ _ _ (CertifiedBuffer.fill_capacity _ _),.inl rfl⟩
            · exact ⟨still _ socks.writeBuff _ rfl,.inr rfl⟩
          · exact ⟨still _ socks.writeBuff _ rfl,.inr rfl⟩

theorem reqFinish_cases :
    (Inert socks called (reqFinish env key sel socks called) ∧
      ((reqFinish env key sel socks called).next = .reqWrite ∨ (reqFinish env key sel socks called).next = .reqDns ∨
        (reqFinish env key sel socks called).next = .done ∨ (reqFinish env key sel socks called).next = .error)) ∨
    ∃ family, family ≠ afUnspec ∧ Dials env socks called family (reqFinish env key sel socks called) := by
  unfold reqFinish
  dsimp only
  split
  · rcases @setConnection_cases env key sel socks called with ⟨inert,write | dns | error⟩ | dials
    · exact .inl ⟨inert,.inl write⟩
    · exact .inl ⟨inert,.inr (.inl dns)⟩
    · exact .inl ⟨inert,.inr (.inr (.inr error))⟩
    · exact .inr dials
  · split
    · obtain ⟨inert,write | error⟩ := @manageReqError_inert sel socks called resCmdUnsupported
      · exact .inl ⟨inert,.inl write⟩
      · exact .inl ⟨inert,.inr (.inr (.inr error))⟩
    · split
      · exact .inl ⟨inert_same _ _ _ _,.inr (.inr (.inl rfl))⟩
      · exact .inl ⟨inert_same _ _ _ _,.inr (.inr (.inr rfl))⟩

theorem authFinish_inert :
    let parser := socks.parsers.authParser
    let result := processAuthenticationRequest env.users parser.username parser.password
    Inert socks called (authFinish env key sel socks called) ∧
    .verdict parser.username parser.password result ∈ (authFinish env key sel socks called).effects ∧
    ((authFinish env key sel socks called).next = .authWrite ∨ (authFinish env key sel socks called).next = .error) := by
  dsimp only
  unfold authFinish
  dsimp only
  obtain ⟨inert,next,effects,_⟩ := @replyTwo_inert key sel socks (called ++
    [.verdict socks.parsers.authParser.username socks.parsers.authParser.password
      (processAuthenticationRequest env.users socks.parsers.authParser.username socks.parsers.authParser.password)] ++
    (if processAuthenticationRequest env.users socks.parsers.authParser.username
        socks.parsers.authParser.password ≠ -1 then [.setCurrUser socks.parsers.authParser.username] else []))
    .authWrite [authVersion,UInt8.ofNat (processAuthenticationRequest env.users socks.parsers.authParser.username
      socks.parsers.authParser.password % 256).toNat]
  refine ⟨⟨inert.client,inert.origin,inert.family,inert.input,inert.room,inert.stm,?_⟩,?_,next⟩
  · refine ⟨_,by rw [effects,List.append_assoc],?_⟩
    intro effect member
    rcases List.mem_append.mp member with verdict | user
    · rw [List.mem_singleton.mp verdict]
      rfl
    · split at user
      · rw [List.mem_singleton.mp user]
        rfl
      · cases user
  · rw [effects]
    simp

def Effect.isPass : Effect → Bool
  | .passInformation _ => true
  | _ => false

theorem copySniff_parts (env : Env) (side : Side) (socks : SocksConnModel) :
    ∃ parser notes, copySniff env side socks = ({socks with pop3Parser:=parser},notes) ∧
      ∀ effect ∈ notes, effect.isPass = true := by
  unfold copySniff
  cases held : socks.pop3Parser with
  | none => exact ⟨none,[],by cases socks; cases held; rfl,by simp⟩
  | some parser =>
      dsimp only
      split
      · have kept : socks.setWriteBuff side (socks.copyWriteBuff side) = socks := by
          cases side <;> rfl
        rw [pop3Parse_buffer,kept]
        refine ⟨_,_,rfl,?_⟩
        intro effect member
        split at member
        · rw [List.mem_singleton.mp member]
          rfl
        · cases member
      · exact ⟨some parser,[],by cases socks; cases held; rfl,by simp⟩

theorem copyEnded_kept {side : Side} (sel : Selector) (called : List Effect) :
    (copyEnded side sel socks called).socks.stm = socks.stm ∧
    ((copyEnded side sel socks called).next = .copy ∨ (copyEnded side sel socks called).next = .done) := by
  unfold copyEnded
  dsimp only
  refine ⟨?_,?_⟩
  · split
    · simp
    · simp
  · rw [apply_ite Outcome.next,ite_self]
    split
    · split
      · exact .inr rfl
      · exact .inl rfl
    · exact .inl rfl

structure Keeps (socks : SocksConnModel) (out : Outcome) : Prop where
  client : out.socks.cliConn = socks.cliConn
  origin : out.socks.srcConn.socket = socks.srcConn.socket
  family : out.socks.srcAddrFamily = socks.srcAddrFamily
  plain : ∀ effect ∈ out.effects, effect.plain = true

theorem inert_keeps (plain : ∀ effect ∈ called, effect.plain = true) {out : Outcome} (inert : Inert socks called out) :
    Keeps socks out := by
  obtain ⟨more,grown,rest⟩ := (inert_plain plain inert).grown
  exact ⟨inert.client,inert.origin,inert.family,by rw [grown]; exact rest⟩

theorem keeps_setCopy (socks : SocksConnModel) (side : Side) (copy : CopyModel) :
    (socks.setCopy side copy).cliConn = socks.cliConn ∧ (socks.setCopy side copy).srcConn = socks.srcConn ∧
    (socks.setCopy side copy).srcAddrFamily = socks.srcAddrFamily := by
  cases side <;> exact ⟨rfl,rfl,rfl⟩

theorem keeps_setReadBuff (socks : SocksConnModel) (side : Side) (buff : CertifiedBuffer) :
    (socks.setReadBuff side buff).cliConn = socks.cliConn ∧ (socks.setReadBuff side buff).srcConn = socks.srcConn ∧
    (socks.setReadBuff side buff).srcAddrFamily = socks.srcAddrFamily := by
  cases side <;> exact ⟨rfl,rfl,rfl⟩

theorem copyReceived_keeps (env : Env) (side : Side) (plain : ∀ effect ∈ called, effect.plain = true) :
    Keeps socks (copyReceived env side sel socks called) := by
  unfold copyReceived
  dsimp only
  obtain ⟨parser,notes,sniffed,pass⟩ := copySniff_parts env side (socks.setCopy side.aux {socks.copyOf side.aux with
    interests:=((socks.copyOf side.aux).interests ||| opWrite) &&& (socks.copyOf side.aux).intConnection})
  rw [sniffed]
  obtain ⟨client,origin,family⟩ := keeps_setCopy socks side.aux {socks.copyOf side.aux with
    interests:=((socks.copyOf side.aux).interests ||| opWrite) &&& (socks.copyOf side.aux).intConnection}
  refine ⟨client,congrArg StdConnModel.socket origin,family,?_⟩
  intro effect member
  rcases List.mem_append.mp member with earlier | note
  · exact plain effect earlier
  · have passes := pass effect note
    cases effect with
    | passInformation record => rfl
    | _ => cases passes

theorem copyEnded_keeps (side : Side) (plain : ∀ effect ∈ called, effect.plain = true) :
    Keeps socks (copyEnded side sel socks called) := by
  have shut : ∀ fd how, ∀ effect ∈ called ++ [Effect.shutdown fd how], effect.plain = true := by
    intro fd how effect member
    rcases List.mem_append.mp member with earlier | last
    · exact plain effect earlier
    · rw [List.mem_singleton.mp last]
      rfl
  unfold copyEnded
  dsimp only
  split
  · refine ⟨?_,?_,?_,?_⟩
    · simp
    · simp
    · simp only [keeps_setCopy]
    · intro effect member
      rcases List.mem_append.mp member with earlier | last
      · exact shut _ _ effect earlier
      · rw [List.mem_singleton.mp last]
        rfl
  · refine ⟨?_,?_,?_,shut _ _⟩
    · simp
    · simp
    · simp only [keeps_setCopy]

theorem keeps_trans {first : SocksConnModel} {out : Outcome} (same : first.cliConn = socks.cliConn ∧
    first.srcConn = socks.srcConn ∧ first.srcAddrFamily = socks.srcAddrFamily) (keeps : Keeps first out) :
    Keeps socks out :=
  ⟨keeps.client.trans same.1,keeps.origin.trans (congrArg StdConnModel.socket same.2.1),
    keeps.family.trans same.2.2,keeps.plain⟩

theorem copyRead_keeps : Keeps socks (copyRead env key sel socks) := by
  have filled : ∀ side buff, (socks.setWriteBuff side buff).cliConn = socks.cliConn ∧
      (socks.setWriteBuff side buff).srcConn = socks.srcConn ∧
      (socks.setWriteBuff side buff).srcAddrFamily = socks.srcAddrFamily := by
    intro side buff
    rw [setWriteBuff_aux]
    exact keeps_setReadBuff socks side.aux buff
  have heard : ∀ recv, ∀ effect ∈ [Effect.recv key.fd recv], effect.plain = true := by
    intro recv effect member
    rw [List.mem_singleton.mp member]
    rfl
  unfold copyRead
  split
  · exact ⟨rfl,rfl,rfl,by simp⟩
  · rename_i side _
    dsimp only
    split
    · split
      · obtain ⟨client,origin,family⟩ := filled side (checkBuffAndReceive (socks.copyWriteBuff side)
          (env.recv.clip (socks.copyWriteBuff side).space)).1
        exact ⟨client,congrArg StdConnModel.socket origin,family,heard _⟩
      · split
        · exact keeps_trans (filled side _) (copyReceived_keeps env side (heard _))
        · exact keeps_trans (filled side _) (copyEnded_keeps side (heard _))
    · unfold copyFull
      obtain ⟨client,origin,family⟩ := keeps_setCopy socks side {socks.copyOf side with
        interests:=((socks.copyOf side).interests &&& opWrite) &&& (socks.copyOf side).intConnection}
      exact ⟨client,congrArg StdConnModel.socket origin,family,by simp⟩

theorem copyWrite_keeps : Keeps socks (copyWrite env key sel socks) := by
  unfold copyWrite
  split
  · exact ⟨rfl,rfl,rfl,by simp⟩
  · rename_i side _
    dsimp only
    split
    · have emptied := keeps_setReadBuff socks side (checkBuffAndSend (socks.copyReadBuff side) env.send).1
      split
      · exact ⟨emptied.1,congrArg StdConnModel.socket emptied.2.1,emptied.2.2,by simp [Effect.plain]⟩
      · exact ⟨emptied.1,congrArg StdConnModel.socket emptied.2.1,emptied.2.2,by simp [Effect.plain]⟩
    · split
      · refine ⟨by simp,by simp,by simp only [keeps_setCopy,keeps_setReadBuff],?_⟩
        split
        · simp [Effect.plain]
        · simp [Effect.plain]
      · exact ⟨by simp,by simp,by simp only [keeps_setCopy,keeps_setReadBuff],by simp [Effect.plain]⟩

theorem copyRead_next : (copyRead env key sel socks).next = .copy ∨ (copyRead env key sel socks).next = .done ∨
    (copyRead env key sel socks).next = .error := by
  unfold copyRead
  split
  · exact .inr (.inr rfl)
  · dsimp only
    split
    · split
      · exact .inl rfl
      · split
        · exact .inl rfl
        · exact (copyEnded_kept sel _).2.imp_right .inl
    · exact .inl rfl

theorem copyWrite_next : (copyWrite env key sel socks).next = .copy ∨ (copyWrite env key sel socks).next = .done ∨
    (copyWrite env key sel socks).next = .error := by
  unfold copyWrite
  split
  · exact .inr (.inr rfl)
  · dsimp only
    split
    · split
      · exact .inl rfl
      · exact .inr (.inr rfl)
    · split
      · exact .inl rfl
      · exact .inl rfl

theorem jump_parts (env : Env) (out : Outcome) :
    (jump env out).sel = out.sel ∧ (jump env out).effects = out.effects ∧ (jump env out).next = out.next ∧
    (jump env out).socks.stm = some out.next ∧ (jump env out).socks.parsers = out.socks.parsers ∧
    (jump env out).socks.readBuff = out.socks.readBuff ∧ (jump env out).socks.writeBuff = out.socks.writeBuff ∧
    (jump env out).socks.cliConn = out.socks.cliConn ∧ (jump env out).socks.srcConn = out.socks.srcConn ∧
    (jump env out).socks.srcAddrFamily = out.socks.srcAddrFamily ∧
    (jump env out).socks.resolvedAddr = out.socks.resolvedAddr ∧
    (jump env out).socks.currAddr = out.socks.currAddr := by
  unfold jump
  split
  · rename_i same
    exact ⟨rfl,rfl,rfl,same,rfl,rfl,rfl,rfl,rfl,rfl,rfl,rfl⟩
  · unfold onArrival
    dsimp only
    split
    · rename_i copy
      unfold copyOnArrival
      dsimp only
      rw [copy]
      split
      · exact ⟨rfl,rfl,rfl,rfl,rfl,rfl,rfl,rfl,rfl,rfl,rfl,rfl⟩
      · exact ⟨rfl,rfl,rfl,rfl,rfl,rfl,rfl,rfl,rfl,rfl,rfl,rfl⟩
    · exact ⟨rfl,rfl,rfl,rfl,rfl,rfl,rfl,rfl,rfl,rfl,rfl,rfl⟩

def mainSelector : Selector := (selectorNew itemsMaxSize).getD ⟨[],0,fun _ => false,fun _ => false⟩

def quiet : Env := ⟨.closed,.sent 0,0,0,.connected,none,true,true,.empty,none,false⟩

end Socks5d
