import Socks5d.ParseLoop

namespace Socks5d

def argumentLength : Nat := 40
def pop3Port : Nat := 110

inductive Pop3State where
  | userCmd
  | user
  | passCmd
  | pass
  | error
  | done
  deriving DecidableEq, Repr

structure Pop3Parser where
  state : Pop3State
  user : List UInt8
  pass : List UInt8
  readPtr : Nat
  writePtr : Nat
  userDone : Bool
  deriving DecidableEq, Repr

-- "USER " and "PASS "; the index past the last character is the terminator.
def pop3UserCmd : List UInt8 := [0x55,0x53,0x45,0x52,0x20]
def pop3PassCmd : List UInt8 := [0x50,0x41,0x53,0x53,0x20]

def toUpper (c : UInt8) : UInt8 := if 0x61 ≤ c && c ≤ 0x7A then c - 0x20 else c

def newline : UInt8 := 0x0A

def handleError (parser : Pop3Parser) : Pop3State := if parser.userDone then .passCmd else .userCmd

def parseUserCmd (parser : Pop3Parser) (c : UInt8) : Pop3Parser :=
  if toUpper c = pop3UserCmd.getD parser.readPtr 0 then
    let parser := {parser with readPtr:=parser.readPtr+1}
    if pop3UserCmd.getD parser.readPtr 0 = 0 then {parser with readPtr:=0,state:=.user}
    else {parser with state:=.userCmd}
  else {parser with state:=handleError parser}

def parseUser (parser : Pop3Parser) (c : UInt8) : Pop3Parser :=
  if parser.writePtr+1 = argumentLength then {parser with state:=.error}
  else if c = newline then
    {parser with user:=parser.user.set parser.writePtr 0,writePtr:=0,userDone:=true,state:=.passCmd}
  else {parser with user:=parser.user.set parser.writePtr c,writePtr:=parser.writePtr+1,state:=.user}

def parsePassCmd (parser : Pop3Parser) (c : UInt8) : Pop3Parser :=
  if toUpper c = pop3PassCmd.getD parser.readPtr 0 then
    let parser := {parser with readPtr:=parser.readPtr+1}
    if pop3PassCmd.getD parser.readPtr 0 = 0 then {parser with readPtr:=0,state:=.pass}
    else {parser with state:=.passCmd}
  else {parser with state:=handleError parser}

def parsePass (parser : Pop3Parser) (c : UInt8) : Pop3Parser :=
  if parser.writePtr+1 = argumentLength then {parser with state:=.error}
  else if c = newline then
    {parser with pass:=parser.pass.set parser.writePtr 0,writePtr:=0,state:=.done}
  else {parser with pass:=parser.pass.set parser.writePtr c,writePtr:=parser.writePtr+1,state:=.pass}

def pop3ParseByte (parser : Pop3Parser) (c : UInt8) : Pop3Parser :=
  match parser.state with
  | .userCmd => parseUserCmd parser c
  | .user => parseUser parser c
  | .passCmd => parsePassCmd parser c
  | .pass => parsePass parser c
  | .error => {parser with state:=handleError parser}
  | .done => parser

def pop3ParserInit (parser : Pop3Parser) : Pop3Parser :=
  {parser with state:=.userCmd,readPtr:=0,writePtr:=0,userDone:=false}

-- What malloc hands out; no byte of it is read before it is written.
def Pop3Parser.raw : Pop3Parser :=
  ⟨.userCmd,List.replicate argumentLength 0,List.replicate argumentLength 0,0,0,false⟩

def pop3ParseChar (parser : Pop3Parser) (buff : CertifiedBuffer) : Pop3Parser × CertifiedBuffer :=
  if parser.state = .done then (parser,buff)
  else parseFull pop3ParseByte (fun p => decide (p.state = .done)) parser buff

def CertifiedBuffer.share (q : CertifiedBuffer) (mem : List UInt8) : CertifiedBuffer :=
  if sized : mem.length = q.raw.limit then
    ⟨{q.raw with mem:=mem},sized,q.valid.ordered,q.valid.bounded,q.valid.drained⟩
  else q

@[simp] theorem share_same (q : CertifiedBuffer) : q.share q.raw.mem = q := by
  simp [CertifiedBuffer.share,q.valid.sized]

-- The parser walks a copy of the four pointers, so it shares the block with the
-- relay: whatever it stores through its copy shows up in `buff`.
def pop3Parse (parser : Pop3Parser) (buff : CertifiedBuffer) :
    Pop3State × Pop3Parser × CertifiedBuffer :=
  let (parser,copy) := pop3ParseChar parser buff
  (parser.state,if parser.state = .done then pop3ParserInit parser else parser,buff.share copy.raw.mem)

theorem pop3ParseChar_mem (parser : Pop3Parser) (buff : CertifiedBuffer) :
    (pop3ParseChar parser buff).2.raw.mem = buff.raw.mem := by
  unfold pop3ParseChar
  split
  · rfl
  · exact parseFull_mem _ _

theorem pop3Parse_buffer (parser : Pop3Parser) (buff : CertifiedBuffer) :
    (pop3Parse parser buff).2.2 = buff := by
  simp only [pop3Parse,pop3ParseChar_mem,share_same]

end Socks5d
