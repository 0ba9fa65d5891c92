import Socks5d.Replies
import Socks5d.SessionAuth
import Socks5d.RelayFifo
import Socks5d.Messages

namespace Socks5d
open Scan

-- What every request parser keeps, however many messages it has read: two bytes of port, and
-- a name that ends inside its array. Index 255 is the byte of padding that follows it.
structure ReqParser.Sound (parser : ReqParser) : Prop where
  port : parser.port.length = 2
  sized : parser.addr.fqdn.length = maxFqdnSize+1
  ended : parser.addr.fqdn[maxFqdnSize]? = some 0
  points : ∀ i, parser.whereTo = .fqdn i → parser.state = .dstAddr ∧ parser.type = fqdn ∧
    (parser.toParse = firstFqdnByteParse ∧ i = 0 ∨ 0 < parser.toParse ∧ i + parser.toParse ≤ maxFqdnSize)

variable {parser : ReqParser} {byte : UInt8} {bytes : List UInt8} {buff : CertifiedBuffer} {res : ResParser}

theorem sound_zeroed : ReqParser.zeroed.Sound := by
  refine ⟨rfl,List.length_replicate,?_,fun _ points => by cases points⟩
  exact List.getElem?_replicate_of_lt (Nat.lt_succ_self _)

theorem sound_init (sound : parser.Sound) : (reqParserInit parser).Sound :=
  ⟨rfl,sound.sized,sound.ended,fun _ points => by cases points⟩

theorem sound_port (sound : parser.Sound) : (setDstPortConfig parser).Sound :=
  ⟨sound.port,sound.sized,sound.ended,fun _ points => by cases points⟩

theorem put_sound (sound : parser.Sound) (inside : ∀ i, parser.whereTo = .fqdn i → 0 < parser.toParse) :
    (parser.put byte).port.length = 2 ∧ (parser.put byte).addr.fqdn.length = maxFqdnSize+1 ∧
    (parser.put byte).addr.fqdn[maxFqdnSize]? = some 0 ∧
    ∀ i, (parser.put byte).whereTo = .fqdn i → (parser.put byte).state = .dstAddr ∧ (parser.put byte).type = fqdn ∧
      0 < (parser.put byte).toParse ∧ i + ((parser.put byte).toParse - 1) ≤ maxFqdnSize := by
  obtain ⟨port,sized,ended,points⟩ := sound
  unfold ReqParser.put
  cases target : parser.whereTo with
  | null =>
      refine ⟨port,sized,ended,?_⟩
      intro i pointed
      dsimp only at pointed
      rw [target] at pointed
      cases pointed
  | ipv4 index => exact ⟨port,sized,ended,fun _ pointed => by cases pointed⟩
  | ipv6 index => exact ⟨port,sized,ended,fun _ pointed => by cases pointed⟩
  | fqdn index =>
      have more := inside index target
      obtain ⟨state,type,⟨first,_⟩ | ⟨_,bound⟩⟩ := points index target
      · rw [first] at more
        cases more
      · refine ⟨port,List.length_set.trans sized,?_,?_⟩
        · rw [List.getElem?_set_ne (by omega)]
          exact ended
        · intro i pointed
          cases pointed
          refine ⟨state,type,more,?_⟩
          push_cast
          omega
  | port index => exact ⟨List.length_set.trans port,sized,ended,fun _ pointed => by cases pointed⟩

theorem addrByte_sound (sound : parser.Sound) (inside : ∀ i, parser.whereTo = .fqdn i → 0 < parser.toParse) :
    (parseAddrByte parser byte).Sound := by
  obtain ⟨port,sized,ended,points⟩ := @put_sound parser byte sound inside
  unfold parseAddrByte
  dsimp only
  split
  · exact ⟨port,sized,ended,fun _ pointed => by cases pointed⟩
  · rename_i going
    refine ⟨port,sized,ended,?_⟩
    intro i pointed
    obtain ⟨state,type,more,bound⟩ := points i pointed
    exact ⟨state,type,.inr ⟨by dsimp only; omega,bound⟩⟩

theorem nameSize_sound (sound : parser.Sound) (type : parser.type = fqdn)
    (some_ : byte ≠ 0) (first : parser.toParse = firstFqdnByteParse) :
    ReqParser.Sound {parser with
      toParse:=byte.toNat,addr.fqdn:=parser.addr.fqdn.set byte.toNat 0,state:=.dstAddr} := by
  obtain ⟨port,sized,ended,points⟩ := sound
  have small := byte.toNat_lt
  have positive := positive_byte some_
  refine ⟨port,List.length_set.trans sized,?_,?_⟩
  · dsimp only
    rw [List.getElem?_set]
    split
    · rw [if_pos (by omega)]
    · exact ended
  · intro i pointed
    obtain ⟨_,_,⟨_,start⟩ | ⟨more,_⟩⟩ := points i pointed
    · refine ⟨rfl,type,.inr ⟨by dsimp only; omega,?_⟩⟩
      dsimp only
      rw [start]
      unfold maxFqdnSize
      omega
    · rw [first] at more
      cases more

theorem sound_moved (sound : parser.Sound) (past : parser.state ≠ .dstAddr) (type cmd : UInt8) (state : ReqState) :
    ReqParser.Sound {parser with type:=type,cmd:=cmd,state:=state} :=
  ⟨sound.port,sound.sized,sound.ended,fun i points => absurd (sound.points i points).1 past⟩

theorem sound_byte (sound : parser.Sound) : (reqParseByte parser byte).Sound := by
  unfold reqParseByte
  cases state : parser.state with
  | ver =>
      have moved := sound_moved sound (by rw [state]; decide) parser.type parser.cmd
      dsimp only
      split
      · exact moved .cmd
      · exact moved .error
  | cmd =>
      have moved := sound_moved sound (by rw [state]; decide) parser.type
      dsimp only
      split
      · exact moved byte .rsv
      · exact moved parser.cmd .error
  | rsv =>
      have moved := sound_moved sound (by rw [state]; decide) parser.type parser.cmd
      dsimp only
      split
      · exact moved .atyp
      · exact moved .error
  | atyp =>
      dsimp only
      split
      · exact ⟨sound.port,sound.sized,sound.ended,fun _ points => by cases points⟩
      · split
        · exact ⟨sound.port,sound.sized,sound.ended,fun _ points => by cases points⟩
        · split
          · rename_i named
            refine ⟨sound.port,sound.sized,sound.ended,?_⟩
            intro i points
            cases points
            exact ⟨rfl,named,.inl ⟨rfl,rfl⟩⟩
          · exact sound_moved sound (by rw [state]; decide) byte parser.cmd .error
  | dstAddr =>
      dsimp only
      split
      · rename_i first
        obtain ⟨named,first⟩ := Bool.and_eq_true_iff.mp first
        split
        · exact sound_port sound
        · rename_i some_
          exact nameSize_sound sound (of_decide_eq_true named) some_ (of_decide_eq_true first)
      · rename_i later
        refine addrByte_sound sound ?_
        intro i points
        obtain ⟨_,type,⟨first,_⟩ | ⟨more,_⟩⟩ := sound.points i points
        · exact absurd (by rw [type,first]; rfl) later
        · exact more
  | dstPort =>
      obtain ⟨port,sized,ended,points⟩ := @put_sound parser byte sound (by
        intro i pointed
        cases (sound.points i pointed).1.symm.trans state)
      have kept := (@put_kept byte parser).1.trans state
      dsimp only
      split
      · exact ⟨port,sized,ended,fun i pointed => by cases (points i pointed).1.symm.trans kept⟩
      · exact ⟨port,sized,ended,fun i pointed => by cases (points i pointed).1.symm.trans kept⟩
  | error => exact sound
  | done => exact sound

theorem string_bound (sound : parser.Sound) : (cString parser.addr.fqdn).length ≤ maxFqdnSize := by
  obtain ⟨inside,zero⟩ := List.getElem?_eq_some_iff.mp sound.ended
  have split : parser.addr.fqdn = parser.addr.fqdn.take maxFqdnSize ++ 0::parser.addr.fqdn.drop (maxFqdnSize+1) := by
    rw [← zero,← List.drop_eq_getElem_cons inside,List.take_append_drop]
  rw [split,ControlProtocol.cString_terminated]
  calc (cString (parser.addr.fqdn.take maxFqdnSize)).length
      ≤ (parser.addr.fqdn.take maxFqdnSize).length := (List.takeWhile_prefix _).length_le
    _ ≤ maxFqdnSize := List.length_take_le _ _

def ResParser.Lays (parser : ResParser) (stored : List UInt8) : Prop :=
  parser.port.length = 2 ∧ ((parser.type = ipv4 ∧ stored.length = ipv4Bytes) ∨
    (parser.type = ipv6 ∧ stored.length = ipv6Bytes) ∨ (parser.type = fqdn ∧ stored.length ≤ maxFqdnSize))

theorem decode_layout {stored : List UInt8} (lays : res.Lays stored) :
    decodeReply (replyMessage res stored) = some (⟨res.state,res.type,stored,res.port⟩,[]) := by
  obtain ⟨port,layout⟩ := lays
  have decoded := @decode_address stored res.state res.type res.port port
  rw [replyMessage,List.append_assoc,List.append_assoc]
  rcases layout with ⟨four,size⟩ | ⟨six,size⟩ | ⟨named,short⟩
  · rw [four] at decoded ⊢
    rw [size] at decoded
    exact decoded
  · rw [six] at decoded ⊢
    rw [size] at decoded
    exact decoded
  · rw [named] at decoded ⊢
    have count : (UInt8.ofNat stored.length).toNat = stored.length := by
      rw [UInt8.toNat_ofNat']
      exact Nat.mod_eq_of_lt (Nat.lt_succ_of_le short)
    refine Eq.trans ?_ decoded
    change decodeAddress _ _ (UInt8.ofNat stored.length).toNat _ = _
    rw [count]
    rfl

theorem strncpy_size (source : List UInt8) (n : Nat) : (strncpy source n).length = n := by
  have short : (cString (source.take n)).length ≤ n :=
    Nat.le_trans (List.takeWhile_prefix _).length_le (List.length_take_le _ _)
  unfold strncpy
  dsimp only
  rw [List.length_append,List.length_replicate]
  omega

theorem response_framed {filled : CertifiedBuffer} {n : Nat} (port : res.port.length = 2)
    (short : res.type = fqdn → (cString res.addr.fqdn).length ≤ maxFqdnSize)
    (made : reqResponseMessage buff res = some (filled,n)) :
    ∃ message address, filled = buff.fill message ∧ message.length ≤ buff.space ∧
      decodeReply message = some (⟨res.state,res.type,address,res.port⟩,[]) := by
  unfold reqResponseMessage at made
  dsimp only at made
  generalize size : (if res.type = ipv4 then ipv4Bytes else if res.type = ipv6 then ipv6Bytes
    else if res.type = fqdn then (cString res.addr.fqdn).length else 0) = length at made
  generalize (if res.type = ipv4 then res.addr.ipv4.addr else if res.type = ipv6 then res.addr.ipv6.addr
    else if res.type = fqdn then res.addr.fqdn else []) = addr at made
  by_cases zero : length = 0
  · rw [if_pos zero] at made
    cases made
  · rw [if_neg zero] at made
    by_cases full : buff.space < length + fixedResBytes + (if res.type = fqdn then 1 else 0)
    · rw [if_pos full] at made
      cases made
    · rw [if_neg full] at made
      have stored := strncpy_size addr length
      have lays : res.Lays (strncpy addr length) := by
        refine ⟨port,?_⟩
        rw [stored,← size]
        split
        · exact .inl ⟨‹_›,rfl⟩
        · split
          · exact .inr (.inl ⟨‹_›,rfl⟩)
          · split
            · rename_i named
              exact .inr (.inr ⟨named,short named⟩)
            · exact absurd (by rw [← size]; simp [*]) zero
      refine ⟨replyMessage res (strncpy addr length),_,?_,?_,decode_layout lays⟩
      · cases made
        rw [replyMessage,stored]
      · rw [replyMessage_length port,replySize,stored]
        exact Nat.le_of_not_lt full

def Unmoved (effects : List Effect) : Prop := Still effects ∧ transferred effects = 0

-- What a handler between the request and the relay leaves in write_buff: one whole reply
-- when the client is to be answered, nothing new when it is to wait. A relay is only
-- promised when the origin has a descriptor of its own.
structure Answers (client : Int) (socks : SocksConnModel) (called : List Effect) (out : Outcome) : Prop where
  kept : out.socks.cliConn = socks.cliConn
  input : out.socks.readBuff = socks.readBuff
  grown : ∃ more, out.effects = called ++ more ∧ Unmoved more
  sound : out.socks.parsers.reqParser.Sound
  waits : out.next = .reqDns ∨ out.next = .reqConnect → out.socks.writeBuff = socks.writeBuff
  replies : out.next = .reqWrite → ∃ message reply, out.socks.writeBuff = socks.writeBuff.fill message ∧
    message.length ≤ socks.writeBuff.space ∧ decodeReply message = some (reply,[]) ∧
    reply.state = out.socks.parsers.reqParser.resParser.state
  reached : out.next = .reqConnect ∨
    (out.next = .reqWrite ∧ out.socks.parsers.reqParser.resParser.state = resSuccess) → out.socks.srcConn.socket ≠ client
  next : out.next = .reqWrite ∨ out.next = .reqDns ∨ out.next = .reqConnect ∨ out.next = .error ∨ out.next = .done

variable {client : Int} {socks first : SocksConnModel} {called : List Effect} {out : Outcome} {env : Env}
  {key : SelectorKey} {sel : Selector} {state : UInt8}

theorem unmoved_none : Unmoved [] := ⟨fun _ => ⟨rfl,rfl⟩,rfl⟩

theorem unmoved_append {one two : List Effect} (left : Unmoved one) (right : Unmoved two) : Unmoved (one ++ two) :=
  ⟨still_append left.1 right.1,by rw [transferred_append,left.2,right.2]; rfl⟩

theorem answers_stop (kept : out.socks.cliConn = socks.cliConn) (input : out.socks.readBuff = socks.readBuff)
    (grown : ∃ more, out.effects = called ++ more ∧ Unmoved more) (sound : out.socks.parsers.reqParser.Sound)
    (stops : out.next = .error ∨ out.next = .done) : Answers client socks called out := by
  have apart : ∀ {state : SocksState}, state ≠ .error → state ≠ .done → out.next ≠ state := by
    intro state open_ going same
    rcases stops with error | done
    · exact open_ (same.symm.trans error)
    · exact going (same.symm.trans done)
  refine ⟨kept,input,grown,sound,?_,fun writes => absurd writes (apart (by decide) (by decide)),?_,
    .inr (.inr (.inr stops))⟩
  · rintro (dns | connects)
    · exact absurd dns (apart (by decide) (by decide))
    · exact absurd connects (apart (by decide) (by decide))
  · rintro (connects | ⟨writes,_⟩)
    · exact absurd connects (apart (by decide) (by decide))
    · exact absurd writes (apart (by decide) (by decide))

theorem grown_none (called : List Effect) : ∃ more, called = called ++ more ∧ Unmoved more :=
  ⟨[],(List.append_nil called).symm,unmoved_none⟩

theorem answers_from (answers : Answers client first called out) (client_ : first.cliConn = socks.cliConn)
    (input : first.readBuff = socks.readBuff) (room : first.writeBuff = socks.writeBuff) :
    Answers client socks called out :=
  ⟨answers.kept.trans client_,answers.input.trans input,answers.grown,answers.sound,
    fun waits => (answers.waits waits).trans room,fun writes => by rw [← room]; exact answers.replies writes,
    answers.reached,answers.next⟩

theorem manageReqError_answers (sound : socks.parsers.reqParser.Sound)
    (dialled : state = resSuccess → socks.srcConn.socket ≠ client) :
    Answers client socks called (manageReqError state sel socks called) := by
  have effects := @manageReqError_effects sel socks called state
  obtain ⟨inert,next⟩ := @manageReqError_inert sel socks called state
  have kept : ReqParser.Sound (setResParser socks.parsers.reqParser state) :=
    ⟨sound.port,sound.sized,sound.ended,sound.points⟩
  have parsers : (manageReqError state sel socks called).socks.parsers.reqParser =
      setResParser socks.parsers.reqParser state := by
    unfold manageReqError
    dsimp only
    split
    · rfl
    · rfl
  refine ⟨inert.client,inert.input,⟨[],by rw [effects,List.append_nil],unmoved_none⟩,by rw [parsers]; exact kept,?_,?_,?_,?_⟩
  · intro waits
    rcases next with next | next
    · rcases waits with waits | waits
      · cases next.symm.trans waits
      · cases next.symm.trans waits
    · rcases waits with waits | waits
      · cases next.symm.trans waits
      · cases next.symm.trans waits
  · intro writes
    rw [parsers]
    unfold manageReqError at writes ⊢
    dsimp only at writes ⊢
    cases made : reqResponseMessage socks.writeBuff (setResParser socks.parsers.reqParser state).resParser with
    | none =>
        rw [made] at writes
        cases writes
    | some filled =>
        obtain ⟨message,address,filled_,room,decoded⟩ := response_framed sound.port (fun _ => string_bound sound) made
        exact ⟨message,_,filled_,room,decoded,rfl⟩
  · rintro (connects | ⟨_,success⟩)
    · rcases next with next | next
      · cases next.symm.trans connects
      · cases next.symm.trans connects
    · rw [inert.origin]
      rw [parsers] at success
      exact dialled success
  · rcases next with next | next
    · exact .inl next
    · exact .inr (.inr (.inr (.inl next)))

theorem answers_later (answers : Answers client socks (called ++ more) out) (still : Unmoved more) :
    Answers client socks called out := by
  obtain ⟨rest,grown,silent⟩ := answers.grown
  exact ⟨answers.kept,answers.input,⟨more ++ rest,by rw [grown,List.append_assoc],unmoved_append still silent⟩,
    answers.sound,answers.waits,answers.replies,answers.reached,answers.next⟩

theorem dialling_unmoved (fd : Int) (addr : SockAddr) : Unmoved [.socket fd,.connect fd addr] := ⟨fun _ => ⟨rfl,rfl⟩,rfl⟩

theorem initConnection_answers (fresh : env.socket ≠ client) (sound : socks.parsers.reqParser.Sound) :
    Answers client socks called (initConnection env key sel socks called) := by
  unfold initConnection
  dsimp only
  split
  · exact answers_stop rfl rfl (grown_none called) sound (.inl rfl)
  · have went := dialling_unmoved env.socket socks.srcConn.addr
    split
    · split
      · exact answers_stop rfl rfl ⟨_,rfl,went⟩ sound (.inl rfl)
      · split
        · exact answers_stop rfl rfl ⟨_,rfl,went⟩ sound (.inl rfl)
        · refine ⟨rfl,rfl,⟨_,rfl,went⟩,sound,fun _ => rfl,?_,fun _ => fresh,.inr (.inr (.inl rfl))⟩
          intro writes
          cases writes
    · refine answers_later ?_ went
      exact answers_from (@manageReqError_answers client {socks with srcConn.socket:=env.socket} _ sel _ sound
        (fun _ => fresh)) rfl rfl rfl

theorem setConnection_answers (fresh : env.socket ≠ client) (sound : socks.parsers.reqParser.Sound) :
    Answers client socks called (setConnection env key sel socks called) := by
  have failed : ∀ sel called, Answers client socks called (manageReqError resSocksFail sel socks called) :=
    fun _ _ => manageReqError_answers sound (fun success => by cases success)
  unfold setConnection
  dsimp only
  split
  · refine answers_from (initConnection_answers fresh ?_) rfl rfl rfl
    exact ⟨sound.port,sound.sized,sound.ended,sound.points⟩
  · split
    · refine answers_from (initConnection_answers fresh ?_) rfl rfl rfl
      exact ⟨sound.port,sound.sized,sound.ended,sound.points⟩
    · split
      · split
        · exact failed sel called
        · split
          · exact failed sel called
          · split
            · refine ⟨rfl,rfl,⟨_,rfl,⟨fun _ => ⟨rfl,rfl⟩,rfl⟩⟩,sound,fun _ => rfl,?_,?_,.inr (.inl rfl)⟩
              · intro writes
                cases writes
              · rintro (connects | ⟨writes,_⟩)
                · cases connects
                · cases writes
            · exact answers_stop rfl rfl ⟨_,rfl,⟨fun _ => ⟨rfl,rfl⟩,rfl⟩⟩ sound (.inl rfl)
      · exact answers_stop rfl rfl (grown_none called) sound (.inl rfl)

theorem reqFinish_answers (fresh : env.socket ≠ client) (sound : socks.parsers.reqParser.Sound) :
    Answers client socks called (reqFinish env key sel socks called) := by
  unfold reqFinish
  dsimp only
  split
  · exact setConnection_answers fresh sound
  · split
    · exact manageReqError_answers sound (fun success => by cases success)
    · split
      · exact answers_stop rfl rfl (grown_none called) sound (.inr rfl)
      · exact answers_stop rfl rfl (grown_none called) sound (.inl rfl)

theorem reqDns_answers (fresh : env.socket ≠ client) (sound : socks.parsers.reqParser.Sound) :
    Answers client socks called (reqDns env key sel socks called) := by
  unfold reqDns
  split
  · split
    · have freed : Unmoved [.freeAddrInfo] := ⟨fun _ => ⟨rfl,rfl⟩,rfl⟩
      refine answers_later ?_ freed
      exact answers_from (@manageReqError_answers client {socks with resolvedAddr:=[],currAddr:=[]} _ sel _ sound
        (fun success => by cases success)) rfl rfl rfl
    · exact manageReqError_answers sound (fun success => by cases success)
  · exact answers_from (initConnection_answers fresh sound) rfl rfl rfl

theorem errno_fails {e : Nat} (failed : e ≠ 0) : errnoToReqResponseState e ≠ resSuccess := by
  unfold errnoToReqResponseState
  rw [if_neg failed]
  split
  · decide
  · split
    · decide
    · split
      · decide
      · split
        · decide
        · decide

theorem cleaned_unmoved (socks : SocksConnModel) : ∃ resolved freed,
    cleanResolvedAddr socks = ({socks with resolvedAddr:=resolved},freed) ∧ Unmoved freed := by
  unfold cleanResolvedAddr
  split
  · exact ⟨[],_,rfl,⟨fun _ => ⟨rfl,rfl⟩,rfl⟩⟩
  · exact ⟨socks.resolvedAddr,[],rfl,unmoved_none⟩

theorem setResponse_keeps {made : ReqParser} (answered : setResponse socks = some made) :
    made.port = socks.parsers.reqParser.port ∧ made.addr = socks.parsers.reqParser.addr ∧
    made.whereTo = socks.parsers.reqParser.whereTo ∧ made.state = socks.parsers.reqParser.state ∧
    made.type = socks.parsers.reqParser.type ∧ made.toParse = socks.parsers.reqParser.toParse ∧
    made.resParser.port = socks.parsers.reqParser.port ∧ made.resParser.type ≠ fqdn := by
  unfold setResponse at answered
  dsimp only at answered
  split at answered
  · cases answered
    exact ⟨rfl,rfl,rfl,rfl,rfl,rfl,rfl,fun named => absurd (show ipv4 = fqdn from named) (by decide)⟩
  · split at answered
    · cases answered
      exact ⟨rfl,rfl,rfl,rfl,rfl,rfl,rfl,fun named => absurd (show ipv6 = fqdn from named) (by decide)⟩
    · cases answered

theorem response_sound {made : ReqParser} (sound : socks.parsers.reqParser.Sound)
    (answered : setResponse socks = some made) : made.Sound := by
  obtain ⟨port,addr,whereTo,state,type,toParse,_⟩ := setResponse_keeps answered
  refine ⟨by rw [port]; exact sound.port,by rw [addr]; exact sound.sized,by rw [addr]; exact sound.ended,?_⟩
  rw [whereTo,state,type,toParse]
  exact sound.points

theorem reqConnect_answers (fresh : env.socket ≠ client) (sound : socks.parsers.reqParser.Sound)
    (dialled : socks.srcConn.socket ≠ client) : Answers client socks [] (reqConnect env key sel socks) := by
  obtain ⟨resolved,freed,cleaned,still⟩ := cleaned_unmoved socks
  have failed : ∀ sel state, state ≠ resSuccess →
      Answers client socks freed (manageReqError state sel {socks with resolvedAddr:=resolved} freed) := by
    intro sel state fails
    exact answers_from (@manageReqError_answers client {socks with resolvedAddr:=resolved} _ sel _ sound
      (fun success => absurd success fails)) rfl rfl rfl
  unfold reqConnect
  split
  · split
    · split
      · exact answers_later (reqDns_answers fresh sound) ⟨fun _ => ⟨rfl,rfl⟩,rfl⟩
      · rename_i failed _
        exact manageReqError_answers sound (fun success => absurd success (errno_fails failed))
    · dsimp only
      rw [cleaned]
      dsimp only
      split
      · refine answers_later ?_ still
        refine answers_from (manageReqError_answers ?_ (fun success => by cases success)) rfl rfl rfl
        exact ⟨sound.port,sound.sized,sound.ended,sound.points⟩
      · rename_i made answered
        have kept := @response_sound {socks with resolvedAddr:=resolved} made sound answered
        have stop : ∀ sel, Answers client socks [] ⟨sel,{socks with resolvedAddr:=resolved,parsers.reqParser:=made},
            freed,.error⟩ := fun sel => answers_stop rfl rfl ⟨freed,rfl,still⟩ kept (.inl rfl)
        split
        · split
          · split
            · rename_i filled n written
              obtain ⟨_,_,_,_,_,_,port,unnamed⟩ := setResponse_keeps answered
              obtain ⟨message,address,filled_,room,decoded⟩ := response_framed (by rw [port]; exact sound.port)
                (fun named => absurd named unnamed) written
              refine ⟨rfl,rfl,⟨freed,rfl,still⟩,kept,?_,fun _ => ⟨message,_,filled_,room,decoded,rfl⟩,fun _ => dialled,
                .inl rfl⟩
              rintro (dns | connects)
              · cases dns
              · cases connects
            · exact stop _
          · exact stop _
        · exact stop _
  · dsimp only
    rw [cleaned]
    exact answers_later (failed sel resSocksFail (by decide)) still

end Socks5d
