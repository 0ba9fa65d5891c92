import Socks5d.ParseLoop

namespace Socks5d
open Scan

def socksVersion : UInt8 := 0x05

def noAuth : UInt8 := 0x00
def gssapi : UInt8 := 0x01
def userPass : UInt8 := 0x02
def noMethods : UInt8 := 0xFF

inductive ConnState where
  | version
  | nmethods
  | methods
  | done
  | error
  deriving DecidableEq, Repr

structure ConnParser where
  auth : UInt8
  state : ConnState
  toParse : Int
  deriving DecidableEq, Repr

def startConnectionParser (_ : ConnParser) : ConnParser := ⟨noMethods,.version,0⟩

def setNewMethod (needsAuth : Bool) (parser : ConnParser) (toParse : UInt8) : ConnParser :=
  if toParse = userPass || (!needsAuth && toParse = noAuth && parser.auth ≠ userPass) then
    {parser with auth:=toParse}
  else parser

def connParseByte (needsAuth : Bool) (parser : ConnParser) (toParse : UInt8) : ConnParser :=
  match parser.state with
  | .version => if toParse = socksVersion then {parser with state:=.nmethods} else {parser with state:=.error}
  | .nmethods =>
    if toParse = 0x00 then {parser with state:=.done}
    else {parser with toParse:=toParse.toNat,state:=.methods}
  | .methods =>
    let parser := setNewMethod needsAuth parser toParse
    let parser := {parser with toParse:=parser.toParse - 1}
    if parser.toParse = 0 then {parser with state:=.done} else parser
  | .done => parser
  | .error => parser

def ConnParser.halted (parser : ConnParser) : Bool :=
  decide (parser.state = .error) || decide (parser.state = .done)

def connParseFull (needsAuth : Bool) (parser : ConnParser) (buff : CertifiedBuffer) :
    ConnParser × CertifiedBuffer :=
  parseFull (connParseByte needsAuth) ConnParser.halted parser buff

end Socks5d
