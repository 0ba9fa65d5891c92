import Socks5d.Pop3Sniffer
import Socks5d.UserMgmt

namespace Socks5d.ControlProtocol
open Scan

def ascii (s : String) : List UInt8 := s.toList.map fun c => UInt8.ofNat c.toNat

-- The loops of authRead and executeRead. The number of turns is the number of unread
-- bytes before the first one.
def parseBytes (advance : σ → UInt8 → σ) (failed finished : σ → Bool) :
    Nat → σ → CertifiedBuffer → σ × CertifiedBuffer
  | 0,parser,buff => (parser,buff)
  | turns+1,parser,buff =>
    if finished parser then (parser,buff)
    else
      let (byte,rest) := buff.readByte
      if failed (advance parser byte) then (advance parser byte,rest)
      else parseBytes advance failed finished turns (advance parser byte) rest

inductive CpAuthParserState where
  | checkAuthCommand
  | hasData
  | readPassword
  | done
  | error
  deriving DecidableEq, Repr

structure CpAuthParser where
  currentState : CpAuthParserState
  inputPassword : List UInt8
  passLen : Nat
  deriving DecidableEq, Repr

def maxPassLen : Nat := 256

inductive CpCommandCode where
  | noCommand
  | authentication
  | addUser
  | remUser
  | changePass
  | listUsers
  | getMetrics
  | dissectorOn
  | dissectorOff
  deriving DecidableEq, Repr

def CpCommandCode.byte : CpCommandCode → UInt8
  | .noCommand => 0
  | .authentication => 0x30
  | .addUser => 0x31
  | .remUser => 0x32
  | .changePass => 0x33
  | .listUsers => 0x34
  | .getMetrics => 0x35
  | .dissectorOn => 0x36
  | .dissectorOff => 0x37

def CpCommandCode.ofByte (byte : UInt8) : Option CpCommandCode :=
  [.addUser,.remUser,.changePass,.listUsers,.getMetrics,.dissectorOn,.dissectorOff].find?
    fun code : CpCommandCode => decide (code.byte = byte)

inductive CpCommandParserState where
  | commandCode
  | hasData
  | readData
  | done
  | error
  deriving DecidableEq, Repr

structure CpCommandParser where
  currentState : CpCommandParserState
  code : CpCommandCode
  hasData : UInt8
  data : List UInt8
  dataSize : Nat
  deriving DecidableEq, Repr

def maxDataSize : Nat := 255

-- The arrays keep what they hold.
def initCpAuthParser (parser : CpAuthParser) : CpAuthParser :=
  {parser with currentState:=.checkAuthCommand,passLen:=0}

def initCpCommandParser (parser : CpCommandParser) : CpCommandParser :=
  {parser with currentState:=.commandCode,dataSize:=0,code:=.noCommand,hasData:=0}

def CpAuthParser.zeroed : CpAuthParser := ⟨.checkAuthCommand,List.replicate maxPassLen 0,0⟩
def CpCommandParser.zeroed : CpCommandParser := ⟨.commandCode,.noCommand,0,List.replicate (maxDataSize+1) 0,0⟩

-- The callers store the state that comes back. A terminator at index maxPassLen misses
-- the array; it falls on passLen, which is not read again before it is reset.
def cpapParseByte (parser : CpAuthParser) (byte : UInt8) : CpAuthParser :=
  match parser.currentState with
  | .checkAuthCommand =>
    if byte = CpCommandCode.authentication.byte then {parser with currentState:=.hasData}
    else {parser with currentState:=.error}
  | .hasData =>
    if byte = 0x01 then {parser with currentState:=.readPassword} else {parser with currentState:=.error}
  | .readPassword =>
    if byte = newline then
      {parser with
        inputPassword:=parser.inputPassword.set parser.passLen 0,passLen:=parser.passLen+1,currentState:=.done}
    else if parser.passLen = maxPassLen then {parser with currentState:=.error}
    else {parser with
      inputPassword:=parser.inputPassword.set parser.passLen byte,passLen:=parser.passLen+1,currentState:=.readPassword}
  | .done | .error => {parser with currentState:=.error}

def cpcpParseByte (parser : CpCommandParser) (byte : UInt8) : CpCommandParser :=
  match parser.currentState with
  | .commandCode =>
    match CpCommandCode.ofByte byte with
    | none => {parser with currentState:=.error}
    | some code => {parser with code:=code,currentState:=.hasData}
  | .hasData =>
    if byte = 0x00 then {parser with currentState:=.done}
    else if byte = 0x01 then {parser with hasData:=1,currentState:=.readData}
    else {parser with currentState:=.error}
  | .readData =>
    if parser.dataSize = maxDataSize then {parser with currentState:=.error}
    else {parser with
      data:=parser.data.set parser.dataSize byte
      dataSize:=parser.dataSize+1
      currentState:=if byte = newline then .done else .readData}
  | .done | .error => {parser with currentState:=.error}

def CpAuthParser.failed (parser : CpAuthParser) : Bool := decide (parser.currentState = .error)
def CpAuthParser.finished (parser : CpAuthParser) : Bool := decide (parser.currentState = .done)
def CpCommandParser.failed (parser : CpCommandParser) : Bool := decide (parser.currentState = .error)
def CpCommandParser.finished (parser : CpCommandParser) : Bool := decide (parser.currentState = .done)

variable {σ : Type} {advance : σ → UInt8 → σ} {failed finished : σ → Bool} {taken line : List UInt8}

theorem parseBytes_finished {parser : σ} (stopped : finished parser = true) (turns : Nat) (buff : CertifiedBuffer) :
    parseBytes advance failed finished turns parser buff = (parser,buff) := by
  cases turns with
  | zero => rfl
  | succ turns => rw [parseBytes,if_pos stopped]

theorem parseBytes_scan (parser : σ) (buff : CertifiedBuffer) (bytes : List UInt8) (same : buff.unread = bytes)
    (running : finished parser = false) :
    let last := scan advance (fun state => failed state || finished state) parser bytes
    let parsed := parseBytes advance failed finished bytes.length parser buff
    parsed.1 = last.1 ∧ parsed.2.unread = last.2 ∧ parsed.2.capacity = buff.capacity := by
  induction bytes generalizing parser buff with
  | nil => exact ⟨rfl,same,rfl⟩
  | cons byte rest ih =>
      have tail : (buff.consume 1).unread = rest := by rw [CertifiedBuffer.consume_unread,same]; rfl
      rw [List.length_cons,parseBytes,running,if_neg Bool.false_ne_true,readByte_cons same]
      unfold scan
      dsimp only
      by_cases failing : failed (advance parser byte) = true
      · rw [if_pos failing,failing,Bool.true_or,if_pos rfl]
        exact ⟨rfl,tail,buff.consume_capacity 1⟩
      · rw [if_neg failing,Bool.not_eq_true _ |>.mp failing,Bool.false_or]
        by_cases stopped : finished (advance parser byte) = true
        · rw [parseBytes_finished stopped,if_pos stopped]
          exact ⟨rfl,tail,buff.consume_capacity 1⟩
        · rw [if_neg stopped]
          obtain ⟨state,left,room⟩ := ih (advance parser byte) (buff.consume 1) tail (by simpa using stopped)
          exact ⟨state,left,room.trans (buff.consume_capacity 1)⟩

theorem cString_terminated (line rest : List UInt8) : cString (line ++ 0::rest) = cString line := by
  induction line with
  | nil => rfl
  | cons byte line ih =>
      by_cases zero : byte = 0
      · simp [cString,zero]
      · simp only [cString,List.cons_append,List.takeWhile_cons,decide_not,zero,decide_false,Bool.not_false,if_true]
        exact congrArg (byte::·) (by simpa only [cString,decide_not] using ih)

theorem cString_front {front : List UInt8} (string : ∀ byte ∈ front, byte ≠ 0) (rest : List UInt8) :
    cString (front ++ rest) = front ++ cString rest :=
  List.takeWhile_append_of_pos fun byte member => decide_eq_true (string byte member)

theorem cString_whole {front : List UInt8} (string : ∀ byte ∈ front, byte ≠ 0) (rest : List UInt8) :
    cString (front ++ 0::rest) = front := by
  rw [cString_front string]
  exact List.append_nil _

theorem string_nonzero (bytes : List UInt8) : ∀ byte ∈ cString bytes, byte ≠ 0 := by
  intro byte member
  exact of_decide_eq_true (List.all_eq_true.mp (@List.all_takeWhile _ (fun c : UInt8 => decide (c ≠ 0)) bytes) byte member)

def passwordLine (line : List UInt8) : List UInt8 := [CpCommandCode.authentication.byte,0x01] ++ line ++ [newline]

def CpAuthParser.Typed (taken : List UInt8) (parser : CpAuthParser) : Prop :=
  parser.inputPassword.length = maxPassLen ∧
  match parser.currentState with
  | .checkAuthCommand => taken = [] ∧ parser.passLen = 0
  | .hasData => taken = [CpCommandCode.authentication.byte] ∧ parser.passLen = 0
  | .readPassword => ∃ line, taken = [CpCommandCode.authentication.byte,0x01] ++ line ∧ newline ∉ line ∧
      parser.passLen = line.length ∧ line.length ≤ maxPassLen ∧ parser.inputPassword.take line.length = line
  | .done => ∃ line, taken = passwordLine line ∧ newline ∉ line ∧ cString parser.inputPassword = cString line
  | .error => True

theorem zeroed_typed : CpAuthParser.Typed [] .zeroed := ⟨List.length_replicate,rfl,rfl⟩

theorem init_typed {parser : CpAuthParser} (typed : parser.Typed taken) : (initCpAuthParser parser).Typed [] :=
  ⟨typed.1,rfl,rfl⟩

theorem set_line {array : List UInt8} (sized : array.length = maxPassLen) (kept : array.take line.length = line)
    (room : line.length < maxPassLen) (byte : UInt8) :
    array.set line.length byte = line ++ byte::array.drop (line.length+1) := by
  rw [List.set_eq_take_append_cons_drop,if_pos (by omega),kept]

theorem cpapParseByte_typed {parser : CpAuthParser} (typed : parser.Typed taken) (byte : UInt8) :
    (cpapParseByte parser byte).Typed (taken++[byte]) := by
  obtain ⟨sized,reads⟩ := typed
  unfold cpapParseByte
  cases state : parser.currentState with
  | checkAuthCommand =>
      rw [state] at reads
      obtain ⟨none_,start⟩ := reads
      dsimp only
      split
      · rename_i command
        exact ⟨sized,by rw [none_,command]; rfl,start⟩
      · exact ⟨sized,trivial⟩
  | hasData =>
      rw [state] at reads
      obtain ⟨command,start⟩ := reads
      dsimp only
      split
      · rename_i one
        exact ⟨sized,[],by rw [command,one]; rfl,by simp,start,Nat.zero_le _,rfl⟩
      · exact ⟨sized,trivial⟩
  | readPassword =>
      rw [state] at reads
      obtain ⟨line,command,inside,length,fits,kept⟩ := reads
      dsimp only
      split
      · rename_i ends
        refine ⟨List.length_set.trans sized,line,by rw [command,ends]; rfl,inside,?_⟩
        rw [length]
        by_cases room : line.length < maxPassLen
        · rw [set_line sized kept room,cString_terminated]
        · rw [List.set_eq_of_length_le (by omega)]
          rw [List.take_of_length_le (by omega)] at kept
          rw [kept]
      · rename_i more
        split
        · exact ⟨sized,trivial⟩
        · rename_i short
          have room : line.length < maxPassLen := by omega
          refine ⟨List.length_set.trans sized,line++[byte],by rw [command,List.append_assoc],?_,?_,?_,?_⟩
          · rw [List.mem_append,not_or,List.mem_singleton]
            exact ⟨inside,fun same => more same.symm⟩
          · rw [length,List.length_append,List.length_singleton]
          · rw [List.length_append,List.length_singleton]
            omega
          · rw [length,set_line sized kept room]
            change (line ++ byte::_).take (line++[byte]).length = _
            rw [List.append_cons line byte (parser.inputPassword.drop (line.length+1)),List.take_left]
  | done => exact ⟨sized,trivial⟩
  | error => exact ⟨sized,trivial⟩

theorem foldl_typed {parser : CpAuthParser} (typed : parser.Typed taken) (bytes : List UInt8) :
    (bytes.foldl cpapParseByte parser).Typed (taken++bytes) := by
  induction bytes generalizing parser taken with
  | nil => rw [List.append_nil]; exact typed
  | cons byte rest ih =>
      rw [List.append_cons]
      exact ih (cpapParseByte_typed typed byte)

theorem parseBytes_parts {parser : σ} (running : (failed parser || finished parser) = false) (buff : CertifiedBuffer) :
    ∃ last rest taken, parseBytes advance failed finished buff.unread.length parser buff = (last,rest) ∧
      buff.unread = taken ++ rest.unread ∧ rest.capacity = buff.capacity ∧
      scan advance (fun state => failed state || finished state) parser buff.unread = (last,rest.unread) ∧
      ((failed last || finished last) = false → rest.unread = []) := by
  obtain ⟨state,rest,room⟩ := @parseBytes_scan _ advance failed finished parser buff buff.unread rfl
    (Bool.or_eq_false_iff.mp running).2
  obtain ⟨taken,split,_⟩ := @scan_split _ _ advance (fun state => failed state || finished state) parser buff.unread
  refine ⟨_,_,taken,rfl,?_,room,?_,?_⟩
  · rw [rest]
    exact split
  · rw [state,rest]
  · intro open_
    rw [state] at open_
    rw [rest]
    exact scan_running open_

theorem parseBytes_typed {parser : CpAuthParser} (typed : parser.Typed taken) (running : parser.finished = false)
    (buff : CertifiedBuffer) :
    let parsed := parseBytes cpapParseByte CpAuthParser.failed CpAuthParser.finished buff.unread.length parser buff
    parsed.1.Typed (taken ++ buff.unread.take (buff.unread.length - parsed.2.unread.length)) ∧
    parsed.2.capacity = buff.capacity := by
  obtain ⟨state,rest,room⟩ := @parseBytes_scan _ cpapParseByte CpAuthParser.failed _ parser buff buff.unread rfl running
  obtain ⟨bytes,split,fold⟩ := @scan_split _ _ cpapParseByte
    (fun parser => CpAuthParser.failed parser || CpAuthParser.finished parser) parser buff.unread
  refine ⟨?_,room⟩
  rw [state,rest,take_front split,fold]
  exact foldl_typed typed bytes

end Socks5d.ControlProtocol
