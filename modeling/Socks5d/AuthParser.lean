import Socks5d.ParseLoop
import Socks5d.UserMgmt

namespace Socks5d
open Scan

def authVersion : UInt8 := 0x01
def maxLen : Nat := 255

inductive AuthState where
  | ver
  | ulen
  | uname
  | plen
  | passwd
  | done
  | error
  deriving DecidableEq, Repr

-- `fields` is the tail of the struct: username, password right behind it, and the
-- two bytes of padding. A pointer into the arrays is an offset into `fields`.
structure AuthParser where
  state : AuthState
  toParse : UInt8
  whereTo : Option Nat
  fields : List UInt8
  deriving DecidableEq, Repr

def AuthParser.zeroed : AuthParser := ⟨.ver,0,none,List.replicate (maxLen+maxLen+2) 0⟩

def usernameAt : Nat := 0
def passwordAt : Nat := maxLen

def AuthParser.username (parser : AuthParser) : List UInt8 := cString (parser.fields.drop usernameAt)
def AuthParser.password (parser : AuthParser) : List UInt8 := cString (parser.fields.drop passwordAt)

def authParserInit (parser : AuthParser) : AuthParser :=
  {parser with state:=.ver,toParse:=0,whereTo:=none}

def plainParseByte (parser : AuthParser) (toParse : UInt8) : AuthParser :=
  match parser.whereTo with
  | none => parser
  | some target =>
    let parser := {parser with
      fields:=parser.fields.set target toParse,toParse:=parser.toParse - 1,whereTo:=some (target+1)}
    if parser.toParse = 0 then
      {parser with state:=if parser.state = .uname then .plen else .done,whereTo:=none}
    else parser

-- The terminator goes to where_to[to_parse], before any byte of the field is known.
def setLenToParse (parser : AuthParser) (toParse : UInt8) : AuthParser :=
  if toParse ≠ 0 then
    let target := if parser.state = .ulen then usernameAt else passwordAt
    {parser with
      toParse:=toParse
      state:=if parser.state = .ulen then .uname else .passwd
      whereTo:=some target
      fields:=parser.fields.set (target+toParse.toNat) 0}
  else if parser.state = .ulen then {parser with state:=.plen}
  else {parser with state:=.done}

def authParseByte (parser : AuthParser) (toParse : UInt8) : AuthParser :=
  match parser.state with
  | .ver => if toParse = authVersion then {parser with state:=.ulen} else {parser with state:=.error}
  | .ulen | .plen => setLenToParse parser toParse
  | .uname | .passwd => plainParseByte parser toParse
  | .done | .error => parser

def AuthParser.halted (parser : AuthParser) : Bool :=
  decide (parser.state = .error) || decide (parser.state = .done)

def authParseFull (parser : AuthParser) (buff : CertifiedBuffer) : AuthParser × CertifiedBuffer :=
  parseFull authParseByte AuthParser.halted parser buff

end Socks5d
