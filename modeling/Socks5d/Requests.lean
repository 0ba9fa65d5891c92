import Socks5d.Credentials

namespace Socks5d
open Scan

inductive Address where
  | four (bytes : List UInt8) (whole : bytes.length = 4)
  | six (bytes : List UInt8) (whole : bytes.length = 16)
  | name (bytes : List UInt8) (short : bytes.length ≤ 255)

def Address.type : Address → UInt8
  | .four _ _ => 1
  | .six _ _ => 4
  | .name _ _ => 3

def Address.bytes : Address → List UInt8
  | .four bytes _ => bytes
  | .six bytes _ => bytes
  | .name bytes _ => bytes

def Address.encode : Address → List UInt8
  | .four bytes _ => bytes
  | .six bytes _ => bytes
  | .name bytes _ => UInt8.ofNat bytes.length :: bytes

structure Request where
  cmd : UInt8
  address : Address
  high : UInt8
  low : UInt8
  known : cmd = 1 ∨ cmd = 2 ∨ cmd = 3

def Request.encode (r : Request) : List UInt8 :=
  [5,r.cmd,0,r.address.type] ++ (r.address.encode ++ [r.high,r.low])

def Hopeless (bytes : List UInt8) : Prop := ∀ later, ∀ r : Request, ¬ r.encode <+: bytes ++ later

def reqCalls (parser : ReqParser) (buffs : List CertifiedBuffer) : ReqParser × List CertifiedBuffer :=
  parseCalls reqParseFull parser buffs

def ReqParser.holds (parser : ReqParser) : Address → List UInt8
  | .four _ _ => parser.addr.ipv4.addr
  | .six _ _ => parser.addr.ipv6.addr
  | .name bytes _ => parser.addr.fqdn.take bytes.length

structure ReqParser.Decoded (parser : ReqParser) (r : Request) : Prop where
  cmd : parser.cmd = r.cmd
  type : parser.type = r.address.type
  addr : parser.holds r.address = r.address.bytes
  port : parser.port = [r.high,r.low]

variable {bytes front : List UInt8} {parser prior : ReqParser} {r : Request}

theorem octet_size (short : bytes.length ≤ 255) : (UInt8.ofNat bytes.length).toNat = bytes.length := by
  rw [UInt8.toNat_ofNat']
  exact Nat.mod_eq_of_lt (by omega)

theorem request_allowed (r : Request) : requestRefused [5,r.cmd,0,r.address.type] = false := by
  have command := (command_known r.cmd).mpr r.known
  apply request_header command
  cases r.address with
  | four => rfl
  | six => rfl
  | name => rfl

theorem request_length (r : Request) : requestLength r.encode = some r.encode.length := by
  have cons := requestLength_cons (request_allowed r) (r.address.encode ++ [r.high,r.low])
  refine cons.trans ?_
  have size : r.encode.length = 4 + (r.address.encode.length + 2) := by
    rw [Request.encode,List.length_append,List.length_append]
    rfl
  rw [size]
  cases r.address with
  | four bytes whole =>
      rw [Address.encode,whole]
      rfl
  | six bytes whole =>
      rw [Address.encode,whole]
      rfl
  | name bytes short =>
      rw [Address.encode,List.length_cons]
      change some (7 + (UInt8.ofNat bytes.length).toNat) = _
      rw [octet_size short]
      congr 1
      omega

theorem prefix_whole (front : r.encode <+: bytes) : requestFormat.length bytes = some r.encode.length ∧
    requestFormat.whole bytes = true := by
  obtain ⟨rest,rfl⟩ := front
  have length : requestFormat.length r.encode = some r.encode.length := request_length r
  have known := requestFormat.length_append _ rest _ length
  exact ⟨known,whole_exact.mpr ⟨_,known,by rw [List.length_append]; omega⟩⟩

theorem whole_request (n : Nat) (known : requestLength bytes = some n) (reached : n ≤ bytes.length) :
    ∃ r : Request, r.encode = bytes.take n := by
  obtain ⟨ver,cmd,rsv,atyp,addr,rfl,allowed⟩ := requestLength_parts known
  rw [requestLength_cons allowed] at known
  simp only [requestRefused,List.getElem?_cons_zero,List.getElem?_cons_succ,Option.any_some,Bool.or_eq_false_iff,
    Bool.not_eq_false',decide_eq_false_iff_not,not_not] at allowed
  obtain ⟨⟨⟨rfl,command⟩,rfl⟩,typed⟩ := allowed
  have ends : ∀ size, size + 2 ≤ addr.length → ∃ high low, addr.take (size+2) = addr.take size ++ [high,low] := by
    intro size enough
    have high : size < addr.length := by omega
    have low : size + 1 < addr.length := by omega
    refine ⟨addr[size],addr[size+1],?_⟩
    rw [List.take_add_one,List.take_add_one,List.getElem?_eq_getElem low,List.getElem?_eq_getElem high,List.append_assoc]
    rfl
  simp only [List.length_cons] at reached
  split at known
  · rename_i four
    cases known
    obtain ⟨high,low,split_⟩ := ends 4 (by unfold ipv4Bytes at reached; omega)
    refine ⟨⟨cmd,.four (addr.take 4) (by rw [List.length_take]; unfold ipv4Bytes at reached; omega),high,low,
      (command_known cmd).mp command⟩,?_⟩
    rw [four]
    change _ = socksVersion::cmd::0x00::ipv4::addr.take (4+2)
    rw [split_]
    rfl
  · rename_i notFour
    split at known
    · rename_i six
      cases known
      obtain ⟨high,low,split_⟩ := ends 16 (by unfold ipv6Bytes at reached; omega)
      refine ⟨⟨cmd,.six (addr.take 16) (by rw [List.length_take]; unfold ipv6Bytes at reached; omega),high,low,
        (command_known cmd).mp command⟩,?_⟩
      rw [six]
      change _ = socksVersion::cmd::0x00::ipv6::addr.take (16+2)
      rw [split_]
      rfl
    · rename_i notSix
      have named : atyp = fqdn := by simpa [typeByte,notFour,notSix] using typed
      cases addr with
      | nil => cases known
      | cons size name =>
          cases known
          have small := size.toNat_lt
          simp only [List.length_cons] at reached ends
          have length : (name.take size.toNat).length = size.toNat := by rw [List.length_take]; omega
          obtain ⟨high,low,split_⟩ := ends (size.toNat+1) (by omega)
          refine ⟨⟨cmd,.name (name.take size.toNat) (by omega),high,low,(command_known cmd).mp command⟩,?_⟩
          have count : 7 + size.toNat = (size.toNat+1+2)+4 := by omega
          change _ = List.take (7 + size.toNat) _
          rw [named,count]
          change _ = socksVersion::cmd::0x00::fqdn::(size::name).take (size.toNat+1+2)
          rw [split_,List.take_succ_cons]
          simp only [Request.encode,Address.encode,Address.type,length,UInt8.ofNat_toNat]
          rfl

theorem whole_prefix : requestFormat.whole bytes = true ↔ ∃ r : Request, r.encode <+: bytes := by
  constructor
  · intro whole
    obtain ⟨n,known,reached⟩ := whole_exact.mp whole
    obtain ⟨r,encoded⟩ := whole_request n known reached
    exact ⟨r,by rw [encoded]; exact List.take_prefix _ _⟩
  · rintro ⟨r,front⟩
    exact (prefix_whole front).2

theorem allowed_completes (allowed : requestRefused bytes = false) : ∃ later, requestFormat.whole (bytes ++ later) = true := by
  have completes : ∀ cmd atyp addr, requestRefused [socksVersion,cmd,0x00,atyp] = false →
      requestFormat.whole (socksVersion::cmd::0x00::atyp::(addr ++ List.replicate 262 0)) = true := by
    intro cmd atyp addr allowed
    have cons := requestLength_cons allowed (addr ++ List.replicate 262 0)
    rw [whole_exact]
    simp only [List.length_cons,List.length_append,List.length_replicate]
    split at cons
    · exact ⟨_,cons,by unfold ipv4Bytes; omega⟩
    · split at cons
      · exact ⟨_,cons,by unfold ipv6Bytes; omega⟩
      · cases addr with
        | nil => exact ⟨_,cons,by decide⟩
        | cons size rest =>
            have small := size.toNat_lt
            exact ⟨_,cons,by simp only [List.length_cons]; omega⟩
  rcases bytes with _ | ⟨ver,_ | ⟨cmd,_ | ⟨rsv,_ | ⟨atyp,addr⟩⟩⟩⟩
  · exact ⟨_,completes reqCmdConnect ipv4 [] rfl⟩
  · have version : ver = socksVersion := by simpa [requestRefused] using allowed
    exact ⟨_,version ▸ completes reqCmdConnect ipv4 [] rfl⟩
  · have parts : ver = socksVersion ∧ commandByte cmd = true := by simpa [requestRefused] using allowed
    exact ⟨_,parts.1 ▸ completes cmd ipv4 [] (request_header parts.2 rfl)⟩
  · have parts : (ver = socksVersion ∧ commandByte cmd = true) ∧ rsv = 0x00 := by simpa [requestRefused] using allowed
    exact ⟨_,parts.1.1 ▸ parts.2 ▸ completes cmd ipv4 [] (request_header parts.1.2 rfl)⟩
  · have parts : ((ver = socksVersion ∧ commandByte cmd = true) ∧ rsv = 0x00) ∧ typeByte atyp = true := by
      simpa [requestRefused] using allowed
    exact ⟨_,parts.1.1.1 ▸ parts.1.2 ▸ completes cmd atyp addr (request_header parts.1.1.2 parts.2)⟩

theorem refused_hopeless : requestRefused bytes = true ↔ Hopeless bytes := by
  constructor
  · intro refused later r front
    have whole := (prefix_whole front).2
    rw [requestFormat.refused_whole (requestFormat.refused_append _ later refused)] at whole
    cases whole
  · intro hopeless
    by_contra allowed
    obtain ⟨later,whole⟩ := allowed_completes (by simpa using allowed)
    obtain ⟨r,front⟩ := whole_prefix.mp whole
    exact hopeless later r front

theorem put_fold {at_ : Nat → List UInt8 → ReqParser}
    (step : ∀ i fields byte, (at_ i fields).put byte = at_ (i+1) (fields.set i byte)) (i : Nat) (fields : List UInt8)
    (room : i + bytes.length ≤ fields.length) :
    bytes.foldl ReqParser.put (at_ i fields) = at_ (i+bytes.length) (splice fields i bytes) := by
  induction bytes generalizing i fields with
  | nil => simp [splice]
  | cons byte rest ih =>
      rw [List.length_cons] at room
      rw [List.foldl_cons,step,ih (i+1) (fields.set i byte) (by rw [List.length_set]; omega),
        splice_set (by omega),List.length_cons,Nat.add_right_comm i 1,Nat.add_assoc]

theorem put_toParse (parser : ReqParser) (byte : UInt8) (count : Int) :
    ({parser with toParse:=count} : ReqParser).put byte = {parser.put byte with toParse:=count} := by
  obtain ⟨state,toParse,whereTo,cmd,type,addr,port,res⟩ := parser
  cases whereTo with
  | null => rfl
  | ipv4 => rfl
  | ipv6 => rfl
  | fqdn => rfl
  | port => rfl

theorem putAll_toParse (parser : ReqParser) (count : Int) :
    bytes.foldl ReqParser.put {parser with toParse:=count} = {bytes.foldl ReqParser.put parser with toParse:=count} := by
  induction bytes generalizing parser with
  | nil => rfl
  | cons byte rest ih => rw [List.foldl_cons,put_toParse,ih,List.foldl_cons]

theorem addr_fold (state : parser.state = .dstAddr) (count : parser.toParse = bytes.length) (some : bytes ≠ []) :
    bytes.foldl reqParseByte parser = setDstPortConfig (bytes.foldl ReqParser.put parser) := by
  induction bytes generalizing parser with
  | nil => exact absurd rfl some
  | cons byte rest ih =>
      obtain ⟨putState,putCount⟩ := @put_kept byte parser
      rw [List.length_cons] at count
      have later : parser.toParse ≠ firstFqdnByteParse := by
        unfold firstFqdnByteParse
        omega
      have parsed : reqParseByte parser byte = parseAddrByte parser byte := by
        simp only [reqParseByte,state]
        rw [if_neg (by simp [later])]
      rw [List.foldl_cons,List.foldl_cons,parsed,parseAddrByte]
      dsimp only
      rw [putCount]
      cases rest with
      | nil =>
          rw [if_pos (by rw [count]; rfl)]
          rfl
      | cons next others =>
          rw [if_neg (by rw [count,List.length_cons]; omega)]
          refine (ih ?_ ?_ (by simp)).trans ?_
          · exact putState.trans state
          · rw [count]
            push_cast
            omega
          · rw [putAll_toParse]
            rfl

def storedAddr (addr : ReqDstAddr) : Address → ReqDstAddr
  | .four bytes _ => {addr with ipv4:=⟨afInet,[0,0],bytes⟩}
  | .six bytes _ => {addr with ipv6:=⟨afInet6,[0,0],bytes⟩}
  | .name bytes _ => {addr with fqdn:=storeField addr.fqdn 0 bytes}

theorem splice_whole {fields : List UInt8} (same : bytes.length = fields.length) : splice fields 0 bytes = bytes := by
  rw [splice,List.take_zero,List.nil_append,Nat.zero_add,same,List.drop_length,List.append_nil]

theorem address_fold (sized : parser.addr.fqdn.length = maxFqdnSize+1) (state : parser.state = .atyp) (address : Address) :
    ∃ count place, (address.type::address.encode).foldl reqParseByte parser =
      setDstPortConfig {parser with
        state:=.dstAddr,type:=address.type,addr:=storedAddr parser.addr address,toParse:=count,whereTo:=place} := by
  have typed : reqParseByte parser address.type = match address with
      | .four _ _ => {parser with
          type:=1,addr.ipv4:={SockAddr.zeroed ipv4Bytes with family:=afInet}
          toParse:=ipv4Bytes,whereTo:=.ipv4 0,state:=.dstAddr}
      | .six _ _ => {parser with
          type:=4,addr.ipv6:={SockAddr.zeroed ipv6Bytes with family:=afInet6}
          toParse:=ipv6Bytes,whereTo:=.ipv6 0,state:=.dstAddr}
      | .name _ _ => {parser with type:=3,whereTo:=.fqdn 0,toParse:=firstFqdnByteParse,state:=.dstAddr} := by
    rw [reqParseByte,state]
    cases address with
    | four => rfl
    | six => rfl
    | name => rfl
  rw [List.foldl_cons,typed]
  cases address with
  | four bytes whole =>
      have stored := @put_fold bytes (fun i fields => {parser with
          type:=1,addr.ipv4:=⟨afInet,[0,0],fields⟩,toParse:=ipv4Bytes,whereTo:=.ipv4 i,state:=.dstAddr})
        (fun _ _ _ => rfl) 0 (List.replicate ipv4Bytes 0) (by rw [whole]; decide)
      rw [splice_whole (by rw [whole]; rfl)] at stored
      rw [Address.encode,addr_fold rfl (by rw [whole]; rfl) (by rintro rfl; cases whole)]
      exact ⟨_,_,congrArg setDstPortConfig stored⟩
  | six bytes whole =>
      have stored := @put_fold bytes (fun i fields => {parser with
          type:=4,addr.ipv6:=⟨afInet6,[0,0],fields⟩,toParse:=ipv6Bytes,whereTo:=.ipv6 i,state:=.dstAddr})
        (fun _ _ _ => rfl) 0 (List.replicate ipv6Bytes 0) (by rw [whole]; decide)
      rw [splice_whole (by rw [whole]; rfl)] at stored
      rw [Address.encode,addr_fold rfl (by rw [whole]; rfl) (by rintro rfl; cases whole)]
      exact ⟨_,_,congrArg setDstPortConfig stored⟩
  | name bytes short =>
      rw [Address.encode,List.foldl_cons]
      by_cases none_ : bytes = []
      · subst none_
        refine ⟨firstFqdnByteParse,.fqdn 0,?_⟩
        rw [storedAddr,storeField,if_pos rfl]
        rfl
      · have positive := List.length_pos_iff.mpr none_
        have size := octet_size short
        have nonzero : UInt8.ofNat bytes.length ≠ 0 := by
          intro zero
          rw [zero] at size
          exact none_ (List.length_eq_zero_iff.mp size.symm)
        have sized' : reqParseByte
            {parser with type:=3,whereTo:=.fqdn 0,toParse:=firstFqdnByteParse,state:=.dstAddr} (UInt8.ofNat bytes.length) =
            {parser with
              type:=3,whereTo:=.fqdn 0,state:=.dstAddr
              toParse:=bytes.length,addr.fqdn:=parser.addr.fqdn.set bytes.length 0} := by
          change (if UInt8.ofNat bytes.length = 0 then _ else _) = _
          rw [if_neg nonzero,size]
        have stored := @put_fold bytes (fun i fields => {parser with
            type:=3,addr.fqdn:=fields,toParse:=bytes.length,whereTo:=.fqdn i,state:=.dstAddr})
          (fun _ _ _ => rfl) 0 (parser.addr.fqdn.set bytes.length 0)
          (by rw [List.length_set,sized,maxFqdnSize]; omega)
        have held : storeField parser.addr.fqdn 0 bytes = splice (parser.addr.fqdn.set bytes.length 0) 0 bytes := by
          rw [storeField,if_neg none_,Nat.zero_add]
        rw [sized',addr_fold rfl rfl none_,storedAddr,held]
        exact ⟨_,_,congrArg setDstPortConfig stored⟩

theorem request_fold (sized : prior.addr.fqdn.length = maxFqdnSize+1) (r : Request) :
    r.encode.foldl reqParseByte (reqParserInit prior) = {reqParserInit prior with
      state:=.done,toParse:=0,whereTo:=.port 2,cmd:=r.cmd,type:=r.address.type
      addr:=storedAddr prior.addr r.address,port:=[r.high,r.low]} := by
  have header : [5,r.cmd,0].foldl reqParseByte (reqParserInit prior) =
      {reqParserInit prior with state:=.atyp,cmd:=r.cmd} := by
    rcases r.known with one | two | three
    · rw [one]
      rfl
    · rw [two]
      rfl
    · rw [three]
      rfl
  obtain ⟨count,place,addressed⟩ :=
    @address_fold {reqParserInit prior with state:=.atyp,cmd:=r.cmd} sized rfl r.address
  have parts : r.encode = [5,r.cmd,0] ++ ((r.address.type::r.address.encode) ++ [r.high,r.low]) := rfl
  rw [parts,List.foldl_append,List.foldl_append,header,addressed]
  rfl

theorem storeField_front (short : bytes.length < front.length) :
    (storeField front 0 bytes).take bytes.length = bytes := by
  by_cases none_ : bytes = []
  · rw [none_]
    rfl
  · rw [storeField_some none_ (by omega),List.take_zero,List.nil_append,List.take_left]

theorem fold_decoded (sized : prior.addr.fqdn.length = maxFqdnSize+1) (r : Request) :
    (r.encode.foldl reqParseByte (reqParserInit prior)).Decoded r := by
  rw [request_fold sized]
  refine ⟨rfl,rfl,?_,rfl⟩
  cases r.address with
  | four => rfl
  | six => rfl
  | name bytes short => exact storeField_front (by rw [sized,maxFqdnSize]; omega)

theorem request_stable (parser : ReqParser) (byte : UInt8) (stopped : parser.halted = true) :
    reqParseByte parser byte = parser := by
  rcases Bool.or_eq_true_iff.mp stopped with error | done
  · rw [reqParseByte,of_decide_eq_true error]
  · rw [reqParseByte,of_decide_eq_true done]

theorem encode_front {taken rest : List UInt8} (ended : requestLength taken = some taken.length)
    (front : r.encode <+: taken ++ rest) : taken = r.encode := by
  have whole := (prefix_whole front).1
  have length := Option.some.inj ((requestLength_append ended rest).symm.trans whole)
  obtain ⟨behind,split⟩ := front
  exact (List.append_inj split length.symm).1.symm

theorem reqReader_stops (parser : ReqParser) :
    parser.halted = (reqReader.failed parser || reqReader.finished parser) := rfl

theorem calls_decoded (prior : ReqParser) (sized : prior.addr.fqdn.length = maxFqdnSize+1) (buffs : List CertifiedBuffer) :
    let called := reqCalls (reqParserInit prior) buffs
    (called.1.state = .done ↔ ∃ r : Request, r.encode <+: unreadBytes buffs) ∧
    (∀ r : Request, r.encode <+: unreadBytes buffs → called.1.Decoded r) ∧
    (called.1.state = .error ↔ Hopeless (unreadBytes buffs)) := by
  have reads := reqReader_parses.reads false
  obtain ⟨state,_⟩ := @parseCalls_scans _ reqParseByte ReqParser.halted (reqParserInit prior) buffs
  obtain ⟨fails,ends,_⟩ := @scans_verdict _ _ reqParseByte ReqParser.halted _ _ _ _ (reqParserInit prior) []
    (buffs.map CertifiedBuffer.unread) reads reqReader_stops request_stable ⟨rfl,rfl,fun _ => rfl⟩
  obtain ⟨taken,rest,split,fold,knows⟩ := @scans_taken _ _ reqParseByte ReqParser.halted _ _ _ _ (reqParserInit prior) []
    (buffs.map CertifiedBuffer.unread) reads reqReader_stops request_stable rfl rfl
  rw [List.nil_append,← unreadBytes_flatten,← state] at fails ends
  rw [List.nil_append,← state] at knows
  rw [← unreadBytes_flatten] at split
  rw [← state] at fold
  have done : (reqCalls (reqParserInit prior) buffs).1.state = .done ↔ ∃ r : Request, r.encode <+: unreadBytes buffs := by
    rw [← whole_prefix,← ends]
    exact decide_eq_true_iff.symm
  refine ⟨done,?_,?_⟩
  · intro r front
    have finished := reads.ends _ _ knows (decide_eq_true (done.mpr ⟨r,front⟩))
    rw [split] at front
    rw [encode_front finished front] at fold
    have decoded := fold_decoded sized r
    rw [← fold] at decoded
    exact decoded
  · rw [← refused_hopeless]
    change _ ↔ requestFormat.refused _ = true
    rw [← fails]
    exact decide_eq_true_iff.symm

theorem running_reads (prior : ReqParser) (earlier : List CertifiedBuffer)
    (waiting : (reqCalls (reqParserInit prior) earlier).1.halted = false) :
    RequestReads (unreadBytes earlier) (reqCalls (reqParserInit prior) earlier).1 ∧
    unreadBytes (reqCalls (reqParserInit prior) earlier).2 = [] := by
  have reads := reqReader_parses.reads false
  obtain ⟨state,rests⟩ := @parseCalls_scans _ reqParseByte ReqParser.halted (reqParserInit prior) earlier
  obtain ⟨_,_,knows⟩ := @scans_verdict _ _ reqParseByte ReqParser.halted _ _ _ _ (reqParserInit prior) []
    (earlier.map CertifiedBuffer.unread) reads reqReader_stops request_stable ⟨rfl,rfl,fun _ => rfl⟩
  rw [← state,List.nil_append,← unreadBytes_flatten] at knows
  have reading := knows waiting
  have open_ := reads.waits _ _ reading waiting
  obtain ⟨_,_,_,cleared⟩ := @scans_waiting _ _ reqParseByte ReqParser.halted _ _ _ _ (reqParserInit prior) []
    (earlier.map CertifiedBuffer.unread) reads reqReader_stops rfl rfl
    (by rw [List.nil_append,← unreadBytes_flatten]; exact open_)
  rw [← rests,← unreadBytes_flatten] at cleared
  exact ⟨reading,cleared⟩

theorem last_call {parser : ReqParser} {sofar : List UInt8} (last : CertifiedBuffer) (waiting : parser.halted = false)
    (reading : RequestReads sofar parser) :
    let ended := reqParseFull parser last
    ∃ taken, last.unread = taken ++ ended.2.unread ∧
      (ended.1.state = .done → ∃ r : Request, r.encode = sofar ++ taken) ∧
      (ended.1.state = .error → Hopeless (sofar ++ taken) ∧ taken ≠ [] ∧ ¬ Hopeless (sofar ++ taken.dropLast)) ∧
      (ended.1.halted = false → ended.2.unread = []) := by
  have reads := reqReader_parses.reads false
  have step : ∀ taken before item, before.halted = false → RequestReads taken before →
      RequestReads (taken++[item]) (reqParseByte before item) := fun taken before item running knows =>
    request_reads before running knows
  obtain ⟨taken,split,knows⟩ := @scan_reading _ _ reqParseByte ReqParser.halted _ sofar parser last.unread waiting reading step
  dsimp only
  rw [reqParseFull,parseFull_state,parseFull_unread]
  refine ⟨taken,split,?_,?_,?_⟩
  · intro done
    have length := reads.ends _ _ knows (decide_eq_true done)
    obtain ⟨r,encoded⟩ := whole_request _ length (Nat.le_refl _)
    exact ⟨r,by rw [encoded,List.take_length]⟩
  · intro error
    have refused := reads.fails _ _ knows (decide_eq_true error)
    obtain ⟨front,item,cut,waits⟩ := @scan_stops _ _ reqParseByte ReqParser.halted _ _ _ _ parser last.unread _ reads
      reqReader_stops waiting reading (by rw [ReqParser.halted,error]; rfl)
    have same : taken = front ++ [item] := by
      rw [List.append_cons] at cut
      exact List.append_cancel_right (split.symm.trans cut)
    refine ⟨refused_hopeless.mp refused,by rw [same]; simp,?_⟩
    rw [same,List.dropLast_concat,← refused_hopeless]
    intro hopeless
    rw [Framing.decides,Bool.or_eq_false_iff] at waits
    exact absurd (hopeless.symm.trans waits.1) (by decide)
  · intro running
    exact scan_running running

-- One request parser over any number of calls: its verdict on the whole stream, and what the
-- call that reaches the verdict takes. A call after that takes a byte and changes nothing.
theorem requests_decoded (prior : ReqParser) (sized : prior.addr.fqdn.length = maxFqdnSize+1) :
    (∀ buffs, let called := reqCalls (reqParserInit prior) buffs
      (called.1.state = .done ↔ ∃ r : Request, r.encode <+: unreadBytes buffs) ∧
      (∀ r : Request, r.encode <+: unreadBytes buffs → called.1.Decoded r) ∧
      (called.1.state = .error ↔ Hopeless (unreadBytes buffs))) ∧
    ∀ earlier last, let begun := reqCalls (reqParserInit prior) earlier
      begun.1.halted = false →
      let ended := reqParseFull begun.1 last
      unreadBytes begun.2 = [] ∧ ∃ taken, last.unread = taken ++ ended.2.unread ∧
        (ended.1.state = .done → ∃ r : Request, r.encode = unreadBytes earlier ++ taken) ∧
        (ended.1.state = .error → Hopeless (unreadBytes earlier ++ taken) ∧
          taken ≠ [] ∧ ¬ Hopeless (unreadBytes earlier ++ taken.dropLast)) ∧
        (ended.1.halted = false → ended.2.unread = []) := by
  refine ⟨calls_decoded prior sized,?_⟩
  intro earlier last
  dsimp only
  intro waiting
  obtain ⟨reading,cleared⟩ := running_reads prior earlier waiting
  exact ⟨cleared,last_call last waiting reading⟩

-- A request for 127.0.0.1:80 in two calls, with a byte behind it.
theorem localhost_decoded : (reqCalls (reqParserInit .zeroed)
    [(CertifiedBuffer.init 4).fill [5,1,0,1],(CertifiedBuffer.init 7).fill [127,0,0,1,0,80,9]]).1.state = .done :=
  ((requests_decoded .zeroed List.length_replicate).1
    [(CertifiedBuffer.init 4).fill [5,1,0,1],(CertifiedBuffer.init 7).fill [127,0,0,1,0,80,9]]).1.mpr
    ⟨⟨1,.four [127,0,0,1] rfl,0,80,.inl rfl⟩,by decide +kernel⟩

end Socks5d
