import Socks5d.Fallback
import Socks5d.CpParsers

namespace Socks5d
open ControlProtocol

-- A reply as RFC 1928 lays it out: VER, REP, RSV, ATYP, BND.ADDR, BND.PORT.
structure Reply where
  state : UInt8
  type : UInt8
  address : List UInt8
  port : List UInt8
  deriving DecidableEq, Repr

def decodeAddress (state type : UInt8) (size : Nat) (bytes : List UInt8) : Option (Reply × List UInt8) :=
  if bytes.length < size + 2 then none
  else some (⟨state,type,bytes.take size,(bytes.drop size).take 2⟩,bytes.drop (size+2))

def decodeReply : List UInt8 → Option (Reply × List UInt8)
  | ver::rep::rsv::atyp::bytes =>
    if ver ≠ socksVersion ∨ rsv ≠ 0x00 then none
    else if atyp = ipv4 then decodeAddress rep atyp ipv4Bytes bytes
    else if atyp = ipv6 then decodeAddress rep atyp ipv6Bytes bytes
    else if atyp = fqdn then
      match bytes with
      | size::bytes => decodeAddress rep atyp size.toNat bytes
      | [] => none
    else none
  | _ => none

-- The bytes of the address that a res_parser holds for its type. A name ends with a NUL
-- inside its array.
structure ResParser.Holds (parser : ResParser) (address : List UInt8) : Prop where
  port : parser.port.length = 2
  addr : (parser.type = ipv4 ∧ parser.addr.ipv4.addr = address ∧ address.length = ipv4Bytes) ∨
    (parser.type = ipv6 ∧ parser.addr.ipv6.addr = address ∧ address.length = ipv6Bytes) ∨
    (parser.type = fqdn ∧ (∃ rest, parser.addr.fqdn = address ++ 0::rest) ∧
      (∀ byte ∈ address, byte ≠ 0) ∧ address ≠ [] ∧ address.length ≤ 254)

def replySize (parser : ResParser) (address : List UInt8) : Nat :=
  address.length + fixedResBytes + (if parser.type = fqdn then 1 else 0)

def ReplyDecodes (buff : CertifiedBuffer) (parser : ResParser) (address : List UInt8) : Prop :=
  ∃ filled n message, reqResponseMessage buff parser = some (filled,n) ∧
    filled.unread = buff.unread ++ message ∧ n = message.length ∧
    decodeReply message = some (⟨parser.state,parser.type,address,parser.port⟩,[])

-- The bytes behind the first zero byte are all zero, as strncpy leaves them. A name has no
-- zero byte at all.
def ZerosLast (address : List UInt8) : Prop :=
  ∀ before after, address = before ++ 0::after → ∀ byte ∈ after, byte = 0

variable {buff : CertifiedBuffer} {parser : ResParser} {address front stored : List UInt8}

theorem strncpy_length (source : List UInt8) : (strncpy source source.length).length = source.length := by
  have short := cString_length source
  simp only [strncpy,List.take_length,List.length_append,List.length_replicate]
  omega

theorem strncpy_string (string : ∀ byte ∈ front, byte ≠ 0) (rest : List UInt8) :
    strncpy (front ++ rest) front.length = front := by
  have copied : cString front = front := by
    have whole := cString_front string []
    rwa [List.append_nil,show cString [] = [] from rfl,List.append_nil] at whole
  rw [strncpy,List.take_left,copied,Nat.sub_self,List.replicate_zero,List.append_nil]

theorem strncpy_cons (byte : UInt8) (source : List UInt8) :
    strncpy (byte::source) (byte::source).length =
      if byte = 0 then List.replicate (source.length+1) 0 else byte::strncpy source source.length := by
  by_cases zero : byte = 0
  · simp [strncpy,cString,zero]
  · simp [strncpy,cString,zero]

theorem zerosLast_cons (byte : UInt8) (source : List UInt8) :
    ZerosLast (byte::source) ↔ if byte = 0 then ∀ other ∈ source, other = 0 else ZerosLast source := by
  by_cases zero : byte = 0
  · rw [if_pos zero]
    constructor
    · intro last
      exact last [] source (by rw [zero]; rfl)
    · intro zeros before after split other member
      cases before with
      | nil => exact zeros other (by rw [(List.cons.inj split).2]; exact member)
      | cons first before =>
          refine zeros other ?_
          rw [(List.cons.inj split).2]
          exact List.mem_append_right _ (List.mem_cons_of_mem _ member)
  · rw [if_neg zero]
    constructor
    · intro last before after split
      exact last (byte::before) after (by rw [split]; rfl)
    · intro last before after split
      cases before with
      | nil => exact absurd (List.cons.inj split).1 zero
      | cons first before => exact last before after (List.cons.inj split).2

theorem strncpy_exact (source : List UInt8) : strncpy source source.length = source ↔ ZerosLast source := by
  induction source with
  | nil =>
      refine ⟨fun _ before after split => ?_,fun _ => rfl⟩
      simp at split
  | cons byte source ih =>
      rw [strncpy_cons,zerosLast_cons]
      by_cases zero : byte = 0
      · rw [if_pos zero,if_pos zero,zero,List.replicate_succ,List.cons_inj_right]
        exact eq_comm.trans (List.eq_replicate_iff.trans (and_iff_right rfl))
      · rw [if_neg zero,if_neg zero,List.cons_inj_right]
        exact ih

def replyMessage (parser : ResParser) (stored : List UInt8) : List UInt8 :=
  [socksVersion,parser.state,0x00,parser.type] ++
    (if parser.type = fqdn then [UInt8.ofNat stored.length] else []) ++ stored ++ parser.port

theorem replyMessage_length (port : parser.port.length = 2) :
    (replyMessage parser stored).length = replySize parser stored := by
  simp only [replyMessage,replySize,fixedResBytes,List.length_append,List.length_cons,List.length_nil,port]
  split
  · simp only [List.length_singleton]
    omega
  · simp only [List.length_nil]
    omega

theorem response_message (holds : parser.Holds address) (room : replySize parser address ≤ buff.space) :
    reqResponseMessage buff parser =
      some (buff.fill (replyMessage parser (strncpy address address.length)),replySize parser address) := by
  have parts : (if parser.type = ipv4 then ipv4Bytes else if parser.type = ipv6 then ipv6Bytes
      else if parser.type = fqdn then (cString parser.addr.fqdn).length else 0) = address.length ∧ address.length ≠ 0 ∧
      strncpy (if parser.type = ipv4 then parser.addr.ipv4.addr else if parser.type = ipv6 then parser.addr.ipv6.addr
        else if parser.type = fqdn then parser.addr.fqdn else []) address.length = strncpy address address.length := by
    rcases holds.addr with ⟨four,held,size⟩ | ⟨six,held,size⟩ | ⟨named,⟨rest,held⟩,string,some_,_⟩
    · rw [four,size,held]
      exact ⟨rfl,by decide,rfl⟩
    · rw [six,size,held]
      exact ⟨rfl,by decide,rfl⟩
    · have kept := strncpy_string string []
      rw [List.append_nil] at kept
      rw [named,held]
      refine ⟨?_,fun empty => some_ (List.length_eq_zero_iff.mp empty),(strncpy_string string _).trans kept.symm⟩
      change (cString (address ++ 0::rest)).length = address.length
      rw [cString_whole string]
  obtain ⟨size,some_,copied⟩ := parts
  unfold reqResponseMessage
  dsimp only
  rw [size,if_neg some_,copied]
  refine (if_neg (Nat.not_lt.mpr room)).trans ?_
  rw [replyMessage,strncpy_length]
  rfl

theorem decode_address (state type : UInt8) (port : List UInt8) (two : port.length = 2) :
    decodeAddress state type stored.length (stored ++ port) = some (⟨state,type,stored,port⟩,[]) := by
  have enough : ¬ (stored ++ port).length < stored.length + 2 := by
    rw [List.length_append,two]
    omega
  have whole : port.take 2 = port := List.take_of_length_le (Nat.le_of_eq two)
  have none_ : (stored ++ port).drop (stored.length+2) = [] :=
    List.drop_eq_nil_of_le (Nat.le_of_eq (by rw [List.length_append,two]))
  rw [decodeAddress,if_neg enough,List.take_left,List.drop_left,whole,none_]

theorem decode_message (holds : parser.Holds address) (same : stored.length = address.length) :
    decodeReply (replyMessage parser stored) = some (⟨parser.state,parser.type,stored,parser.port⟩,[]) := by
  have decoded := @decode_address stored parser.state parser.type parser.port holds.port
  have header : ∀ bytes, decodeReply (socksVersion::parser.state::0x00::parser.type::bytes) =
      if parser.type = ipv4 then decodeAddress parser.state parser.type ipv4Bytes bytes
      else if parser.type = ipv6 then decodeAddress parser.state parser.type ipv6Bytes bytes
      else if parser.type = fqdn then
        match bytes with
        | size::bytes => decodeAddress parser.state parser.type size.toNat bytes
        | [] => none
      else none := fun _ => rfl
  rw [replyMessage,List.append_assoc,List.append_assoc]
  refine (header _).trans ?_
  rcases holds.addr with ⟨four,_,size⟩ | ⟨six,_,size⟩ | ⟨named,_,_,_,short⟩
  · rw [four] at decoded ⊢
    rw [same,size] at decoded
    exact decoded
  · rw [six] at decoded ⊢
    rw [same,size] at decoded
    exact decoded
  · rw [named] at decoded ⊢
    have count : (UInt8.ofNat stored.length).toNat = stored.length := by
      rw [UInt8.toNat_ofNat']
      exact Nat.mod_eq_of_lt (by omega)
    refine Eq.trans ?_ decoded
    change decodeAddress _ _ (UInt8.ofNat stored.length).toNat _ = _
    rw [count]
    rfl

theorem reply_copied (holds : parser.Holds address) (room : replySize parser address ≤ buff.space) :
    ReplyDecodes buff parser address ↔ strncpy address address.length = address := by
  have made := response_message holds room
  have size := @replyMessage_length parser (strncpy address address.length) holds.port
  have same := strncpy_length address
  have appended : (buff.fill (replyMessage parser (strncpy address address.length))).unread =
      buff.unread ++ replyMessage parser (strncpy address address.length) := by
    rw [CertifiedBuffer.fill_unread,List.take_of_length_le]
    rw [size,replySize,same]
    exact room
  have decoded := decode_message holds same
  constructor
  · rintro ⟨filled,n,message,ran,unread,_,decodes⟩
    cases made.symm.trans ran
    rw [appended,List.append_cancel_left_eq] at unread
    rw [← unread,decoded] at decodes
    exact congrArg (fun reply => reply.1.address) (Option.some.inj decodes)
  · intro copied
    refine ⟨_,_,_,made,appended,?_,decoded.trans (by rw [copied])⟩
    rw [size,replySize,replySize,same]

theorem reply_exact (buff : CertifiedBuffer) (parser : ResParser) (address : List UInt8)
    (holds : parser.Holds address) (room : replySize parser address ≤ buff.space) :
    ReplyDecodes buff parser address ↔ ZerosLast address :=
  (reply_copied holds room).trans (strncpy_exact address)

theorem fourZeros_decodes : ReplyDecodes (.init buffSize)
    ⟨resSuccess,ipv4,{ReqDstAddr.zeroed with ipv4.addr:=[127,1,0,0]},[0,80]⟩ [127,1,0,0] :=
  (reply_exact (.init buffSize) ⟨resSuccess,ipv4,{ReqDstAddr.zeroed with ipv4.addr:=[127,1,0,0]},[0,80]⟩ [127,1,0,0]
    ⟨rfl,.inl ⟨rfl,rfl,rfl⟩⟩ (by decide)).mpr ((strncpy_exact _).mp rfl)

-- 10.0.0.1 is sent as 10.0.0.0.
theorem tenNet_truncated : ¬ ReplyDecodes (.init buffSize)
    ⟨resSuccess,ipv4,{ReqDstAddr.zeroed with ipv4.addr:=[10,0,0,1]},[0,80]⟩ [10,0,0,1] := by
  intro decodes
  have copied := (@reply_copied (.init buffSize) _ [10,0,0,1] ⟨rfl,.inl ⟨rfl,rfl,rfl⟩⟩ (by decide)).mp decodes
  exact absurd copied (by decide)

end Socks5d
