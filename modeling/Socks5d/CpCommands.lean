import Socks5d.CpParsers

namespace Socks5d.ControlProtocol

structure Metrics where
  historicSocksConnections : Int
  currentSocksConnections : Int
  historicMgmtConnections : Int
  currentMgmtConnections : Int
  bytesTransferred : Int
  deriving DecidableEq, Repr

def Metrics.start : Metrics := ⟨0,0,0,0,0⟩

def addSocksConnection (m : Metrics) : Metrics :=
  {m with
    currentSocksConnections:=m.currentSocksConnections+1
    historicSocksConnections:=m.historicSocksConnections+1}
def addMgmtConnection (m : Metrics) : Metrics :=
  {m with currentMgmtConnections:=m.currentMgmtConnections+1,historicMgmtConnections:=m.historicMgmtConnections+1}
def removeCurrentSocksConnection (m : Metrics) : Metrics :=
  {m with currentSocksConnections:=m.currentSocksConnections - 1}
def removeCurrentMgmtConnection (m : Metrics) : Metrics := {m with currentMgmtConnections:=m.currentMgmtConnections - 1}
def addBytesTransferred (m : Metrics) (bytes : Int) : Metrics := {m with bytesTransferred:=m.bytesTransferred+bytes}
def getCurrentTotal (m : Metrics) : Int := m.currentMgmtConnections + m.currentSocksConnections
def getHistoricTotal (m : Metrics) : Int := m.historicMgmtConnections + m.historicSocksConnections

structure Globals where
  users : UserTable
  sniffer : Bool
  metrics : Metrics
  deriving DecidableEq, Repr

inductive ControlProtErrorCode where
  | invalidPassword
  | commandNeedsData
  | noDataCommand
  | invalidFormat
  | inexistingUser
  | alreadyExists
  | userLimit
  | generalError
  deriving DecidableEq, Repr

def ControlProtErrorCode.byte : ControlProtErrorCode → UInt8
  | .invalidPassword => 0x30
  | .commandNeedsData => 0x31
  | .noDataCommand => 0x32
  | .invalidFormat => 0x33
  | .inexistingUser => 0x34
  | .alreadyExists => 0x35
  | .userLimit => 0x36
  | .generalError => 0x37

def statusError : UInt8 := 0x30
def statusSuccess : UInt8 := 0x31

def tokenDelimiter : UInt8 := 0x3A
def lineDelimiter : UInt8 := newline

-- The token and what strtok(NULL,..) goes on with.
def strtok (delimiter : UInt8) (text : List UInt8) : Option (List UInt8) × List UInt8 :=
  let start := text.dropWhile (· = delimiter)
  if start = [] then (none,[])
  else (some (start.takeWhile (· ≠ delimiter)),(start.dropWhile (· ≠ delimiter)).drop 1)

-- An answer is what is stored from its block on, `none` when there is no block. The
-- second one is a byte longer than the block that calloc was asked for and has no
-- terminator of its own.
def noDataStatusSuccessAnswer (malloc : Bool) : Option (List UInt8) :=
  if malloc then some [statusSuccess,0,newline] else none

def statusFailedAnswer (malloc : Bool) (errorCode : ControlProtErrorCode) : Option (List UInt8) :=
  if malloc then some [statusError,1,errorCode.byte,newline] else none

abbrev Command := Bool → Globals → CpCommandParser → Option (List UInt8) × Globals

def addProxyUser : Command := fun malloc g parser =>
  if parser.hasData = 0 then (statusFailedAnswer malloc .commandNeedsData,g)
  else
    let (user,rest) := strtok tokenDelimiter (cString parser.data)
    let (password,_) := strtok lineDelimiter rest
    match user,password with
    | some user,some password =>
      let (result,users) := addUser g.users user password
      let ret := match result with
        | .addMaxUsers => statusFailedAnswer malloc .userLimit
        | .addUserExists => statusFailedAnswer malloc .alreadyExists
        | .addOk => noDataStatusSuccessAnswer malloc
        | .addError => statusFailedAnswer malloc .generalError
      (ret,{g with users:=users})
    | _,_ => (statusFailedAnswer malloc .invalidFormat,g)

-- The newline that ends the data is overwritten first.
def removeProxyUser : Command := fun malloc g parser =>
  if parser.hasData = 0 then (statusFailedAnswer malloc .commandNeedsData,g)
  else
    let (result,users) := removeUser g.users (cString (parser.data.set (parser.dataSize - 1) 0))
    if result < 0 then (statusFailedAnswer malloc .inexistingUser,{g with users:=users})
    else (noDataStatusSuccessAnswer malloc,{g with users:=users})

def changePassword : Command := fun malloc g parser =>
  if parser.hasData = 0 then (statusFailedAnswer malloc .commandNeedsData,g)
  else
    let (user,rest) := strtok tokenDelimiter (cString parser.data)
    let (newPass,behind) := strtok lineDelimiter rest
    match user,newPass with
    | some user,some newPass =>
      let (result,users) := Socks5d.changePassword g.users user newPass behind
      if result < 0 then (statusFailedAnswer malloc .inexistingUser,{g with users:=users})
      else (noDataStatusSuccessAnswer malloc,{g with users:=users})
    | _,_ => (statusFailedAnswer malloc .invalidFormat,g)

def switchPassDissectors (value : Bool) : Command := fun malloc g parser =>
  if parser.hasData = 1 then (statusFailedAnswer malloc .noDataCommand,g)
  else (noDataStatusSuccessAnswer malloc,{g with sniffer:=value})

def turnOnPassDissectors : Command := switchPassDissectors true
def turnOffPassDissectors : Command := switchPassDissectors false

def metricsCsvTitle : List UInt8 :=
  ascii "curr_socks;hist_socks;curr_control;hist_control;curr_total;hist_total;bytes_trnf\n"

-- %lu of a long, which has 64 bits.
def ulongValues : Int := 18446744073709551616
def lu (n : Int) : List UInt8 := (Nat.toDigits 10 (n % ulongValues).toNat).map fun c => UInt8.ofNat c.toNat

def getMetrics : Command := fun malloc g parser =>
  if parser.hasData = 1 then (statusFailedAnswer malloc .noDataCommand,g)
  else
    let m := g.metrics
    let counters := [m.currentSocksConnections,m.historicSocksConnections,m.currentMgmtConnections,
      m.historicMgmtConnections,getCurrentTotal m,getHistoricTotal m,m.bytesTransferred]
    (if malloc then some ([statusSuccess,2] ++ metricsCsvTitle ++
      List.intercalate [0x3B] (counters.map lu) ++ [newline,0]) else none,g)

def socksUHeader : List UInt8 := ascii "Socks users: \n"

-- This one does not look at what malloc returns. strcat copies strings.
def getSocksUsers : Command := fun _ g _ =>
  (some ([0x31,UInt8.ofNat (g.users.users.length+1)] ++ socksUHeader ++
    (g.users.users.flatMap fun user => cString user.name ++ [newline]) ++ [0]),g)

def commandOf : CpCommandCode → Option Command
  | .addUser => some addProxyUser
  | .remUser => some removeProxyUser
  | .changePass => some changePassword
  | .listUsers => some getSocksUsers
  | .getMetrics => some getMetrics
  | .dissectorOn => some turnOnPassDissectors
  | .dissectorOff => some turnOffPassDissectors
  | .noCommand | .authentication => none

end Socks5d.ControlProtocol
