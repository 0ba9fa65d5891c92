import Socks5d.ConnParser
import Socks5d.UserMgmt

namespace Socks5d
open Scan

def maxFqdnSize : Nat := 255
def ipv4Bytes : Nat := 4
def ipv6Bytes : Nat := 16

inductive ReqState where
  | ver
  | cmd
  | rsv
  | atyp
  | dstAddr
  | dstPort
  | error
  | done
  deriving DecidableEq, Repr

def resSuccess : UInt8 := 0x00
def resSocksFail : UInt8 := 0x01
def resNetUnreachable : UInt8 := 0x03
def resHostUnreachable : UInt8 := 0x04
def resConnRefused : UInt8 := 0x05
def resTtlExpired : UInt8 := 0x06
def resCmdUnsupported : UInt8 := 0x07

def reqCmdNone : UInt8 := 0x00
def reqCmdConnect : UInt8 := 0x01
def reqCmdBind : UInt8 := 0x02
def reqCmdUdp : UInt8 := 0x03

def addrTypeNone : UInt8 := 0x00
def ipv4 : UInt8 := 0x01
def fqdn : UInt8 := 0x03
def ipv6 : UInt8 := 0x04

def afUnspec : Nat := 0
def afInet : Nat := 2
def afInet6 : Nat := 10

-- sockaddr_in and sockaddr_in6 alike; the port bytes are in network order.
structure SockAddr where
  family : Nat
  port : List UInt8
  addr : List UInt8
  deriving DecidableEq, Repr

def SockAddr.zeroed (bytes : Nat) : SockAddr := ⟨0,[0,0],List.replicate bytes 0⟩

-- `fqdn` has the byte of padding that follows the array in the struct.
structure ReqDstAddr where
  ipv4 : SockAddr
  ipv6 : SockAddr
  fqdn : List UInt8
  deriving DecidableEq, Repr

def ReqDstAddr.zeroed : ReqDstAddr :=
  ⟨.zeroed ipv4Bytes,.zeroed ipv6Bytes,List.replicate (maxFqdnSize+1) 0⟩

structure ResParser where
  state : UInt8
  type : UInt8
  addr : ReqDstAddr
  port : List UInt8
  deriving DecidableEq, Repr

inductive WhereTo where
  | null
  | ipv4 (index : Nat)
  | ipv6 (index : Nat)
  | fqdn (index : Nat)
  | port (index : Nat)
  deriving DecidableEq, Repr

structure ReqParser where
  state : ReqState
  toParse : Int
  whereTo : WhereTo
  cmd : UInt8
  type : UInt8
  addr : ReqDstAddr
  port : List UInt8
  resParser : ResParser
  deriving DecidableEq, Repr

def ReqParser.zeroed : ReqParser :=
  ⟨.ver,0,.null,0,0,.zeroed,[0,0],⟨0,0,.zeroed,[0,0]⟩⟩

def reqParserInit (parser : ReqParser) : ReqParser :=
  {parser with
    state:=.ver,toParse:=0,whereTo:=.null
    cmd:=reqCmdNone,type:=addrTypeNone,port:=[0,0]}

def reqDstPortBytes : Int := 2
def firstFqdnByteParse : Int := -2

def setDstPortConfig (parser : ReqParser) : ReqParser :=
  {parser with toParse:=reqDstPortBytes,state:=.dstPort,whereTo:=.port 0}

-- *(parser->where_to++) = to_parse
def ReqParser.put (parser : ReqParser) (byte : UInt8) : ReqParser :=
  match parser.whereTo with
  | .null => parser
  | .ipv4 i => {parser with whereTo:=.ipv4 (i+1)
                            addr.ipv4.addr:=parser.addr.ipv4.addr.set i byte}
  | .ipv6 i => {parser with whereTo:=.ipv6 (i+1)
                            addr.ipv6.addr:=parser.addr.ipv6.addr.set i byte}
  | .fqdn i => {parser with whereTo:=.fqdn (i+1)
                            addr.fqdn:=parser.addr.fqdn.set i byte}
  | .port i => {parser with whereTo:=.port (i+1)
                            port:=parser.port.set i byte}

def parseAddrByte (parser : ReqParser) (toParse : UInt8) : ReqParser :=
  let parser := parser.put toParse
  let parser := {parser with toParse:=parser.toParse - 1}
  if parser.toParse = 0 then setDstPortConfig parser else parser

def reqParseByte (parser : ReqParser) (toParse : UInt8) : ReqParser :=
  match parser.state with
  | .ver => if toParse = socksVersion then {parser with state:=.cmd} else {parser with state:=.error}
  | .cmd =>
    if toParse = reqCmdConnect || toParse = reqCmdBind || toParse = reqCmdUdp then
      {parser with cmd:=toParse,state:=.rsv}
    else {parser with state:=.error}
  | .rsv => if toParse = 0x00 then {parser with state:=.atyp} else {parser with state:=.error}
  | .atyp =>
    let parser := {parser with type:=toParse}
    if toParse = ipv4 then
      {parser with
        addr.ipv4:={SockAddr.zeroed ipv4Bytes with family:=afInet}
        toParse:=ipv4Bytes,whereTo:=.ipv4 0,state:=.dstAddr}
    else if toParse = ipv6 then
      {parser with
        addr.ipv6:={SockAddr.zeroed ipv6Bytes with family:=afInet6}
        toParse:=ipv6Bytes,whereTo:=.ipv6 0,state:=.dstAddr}
    else if toParse = fqdn then
      {parser with whereTo:=.fqdn 0,toParse:=firstFqdnByteParse,state:=.dstAddr}
    else {parser with state:=.error}
  | .dstAddr =>
    if parser.type = fqdn && parser.toParse = firstFqdnByteParse then
      if toParse = 0 then setDstPortConfig parser
      else
        {parser with
          toParse:=toParse.toNat
          addr.fqdn:=parser.addr.fqdn.set toParse.toNat 0
          state:=.dstAddr}
    else parseAddrByte parser toParse
  | .dstPort =>
    let parser := parser.put toParse
    let parser := {parser with toParse:=parser.toParse - 1}
    if parser.toParse = 0 then {parser with state:=.done} else parser
  | .done | .error => parser

def ReqParser.halted (parser : ReqParser) : Bool :=
  decide (parser.state = .error) || decide (parser.state = .done)

def reqParseFull (parser : ReqParser) (buff : CertifiedBuffer) : ReqParser × CertifiedBuffer :=
  parseFull reqParseByte ReqParser.halted parser buff

def eagain : Nat := 11
def ewouldblock : Nat := 11
def enetunreach : Nat := 101
def etimedout : Nat := 110
def econnrefused : Nat := 111
def ehostunreach : Nat := 113
def einprogress : Nat := 115

def errnoToReqResponseState (e : Nat) : UInt8 :=
  if e = 0 then resSuccess
  else if e = econnrefused then resConnRefused
  else if e = ehostunreach then resHostUnreachable
  else if e = enetunreach then resNetUnreachable
  else if e = etimedout then resTtlExpired
  else resCmdUnsupported

end Socks5d
