import Socks5d.CpParsers

namespace Socks5d.ControlProtocol
open Scan

-- A whole command as the client sends it. Its data is one line, which with its newline
-- fits the field of the parser.
structure CommandMessage where
  code : CpCommandCode
  line : Option (List UInt8)
  ordered : CpCommandCode.ofByte code.byte = some code
  ended : ∀ text ∈ line, newline ∉ text
  fits : ∀ text ∈ line, text.length < maxDataSize

def commandLine : Option (List UInt8) → List UInt8
  | none => [0x00]
  | some text => [0x01] ++ text ++ [newline]

def CommandMessage.bytes (message : CommandMessage) : List UInt8 := message.code.byte::commandLine message.line

def Unfinished (bytes : List UInt8) : Prop :=
  ∀ (message : CommandMessage) (rest : List UInt8), bytes ≠ message.bytes ++ rest

def Carries (message : CommandMessage) (parser : CpCommandParser) : Prop :=
  parser.code = message.code ∧ parser.currentState = .done ∧
  match message.line with
  | none => parser.hasData = 0
  | some text => parser.hasData = 1 ∧ parser.dataSize = text.length+1 ∧
      ∃ rest, parser.data = text ++ newline::0::rest

variable {taken text : List UInt8} {parser : CpCommandParser} {byte : UInt8} {code : CpCommandCode}

theorem ofByte_byte (found : CpCommandCode.ofByte byte = some code) : code.byte = byte := by
  unfold CpCommandCode.ofByte at found
  exact of_decide_eq_true (List.find?_some (p := fun code : CpCommandCode => decide (code.byte = byte)) found)

theorem ofByte_ordered (found : CpCommandCode.ofByte byte = some code) : CpCommandCode.ofByte code.byte = some code := by
  rwa [ofByte_byte found]

theorem unfinished_nil : Unfinished [] := by
  intro message rest same
  cases same

theorem unfinished_code : Unfinished [byte] := by
  intro message rest same
  have tail := (List.cons.inj same).2
  cases line : message.line with
  | none => rw [line] at tail; cases tail
  | some text => rw [line] at tail; cases tail

theorem unfinished_wrong (wrong : CpCommandCode.ofByte byte = none) (rest : List UInt8) : Unfinished (byte::rest) := by
  intro message more same
  have ordered := message.ordered
  rw [← (List.cons.inj same).1,wrong] at ordered
  cases ordered

theorem unfinished_flag {flag : UInt8} (empty : flag ≠ 0x00) (data : flag ≠ 0x01) (first : UInt8) (rest : List UInt8) :
    Unfinished (first::flag::rest) := by
  intro message more same
  have tail := (List.cons.inj same).2
  cases line : message.line with
  | none => rw [line] at tail; exact empty (List.cons.inj tail).1
  | some text => rw [line] at tail; exact data (List.cons.inj tail).1

theorem unfinished_line (inside : newline ∉ text) (rest : List UInt8) (short : rest = [] ∨ maxDataSize ≤ text.length)
    (first : UInt8) : Unfinished (first::0x01::(text ++ rest)) := by
  intro message more same
  have tail := (List.cons.inj same).2
  cases line : message.line with
  | none => rw [line] at tail; cases (List.cons.inj tail).1
  | some other =>
      rw [line] at tail
      have fits := message.fits other (by rw [line]; rfl)
      have body : text ++ rest = other ++ newline::more := by
        simpa [commandLine] using (List.cons.inj tail).2
      have early : other.length < text.length := by
        rcases short with rfl | long
        · have lengths := congrArg List.length body
          simp only [List.length_append,List.length_cons,List.length_nil] at lengths
          omega
        · omega
      have at_ : (text ++ rest)[other.length]? = some newline := by
        rw [body,List.getElem?_append_right (Nat.le_refl _),Nat.sub_self]
        rfl
      rw [List.getElem?_append_left early] at at_
      exact inside (List.mem_of_getElem? at_)

def CpCommandParser.Taken (taken : List UInt8) (parser : CpCommandParser) : Prop :=
  parser.data.length = maxDataSize+1 ∧
  match parser.currentState with
  | .commandCode => taken = [] ∧ parser.dataSize = 0 ∧ parser.hasData = 0
  | .hasData => taken = [parser.code.byte] ∧ CpCommandCode.ofByte parser.code.byte = some parser.code ∧
      parser.dataSize = 0 ∧ parser.hasData = 0
  | .readData => ∃ text, taken = [parser.code.byte,0x01] ++ text ∧
      CpCommandCode.ofByte parser.code.byte = some parser.code ∧ newline ∉ text ∧
      parser.dataSize = text.length ∧ text.length ≤ maxDataSize ∧ parser.data.take text.length = text ∧
      parser.hasData = 1
  | .done => ∃ message : CommandMessage, taken = message.bytes ∧ parser.dataSize ≤ maxDataSize ∧
      Carries message {parser with data:=parser.data.set parser.dataSize 0}
  | .error => Unfinished taken

theorem zeroed_taken : CpCommandParser.Taken [] .zeroed := ⟨List.length_replicate,rfl,rfl,rfl⟩

theorem initCommand_taken (sized : parser.data.length = maxDataSize+1) : (initCpCommandParser parser).Taken [] :=
  ⟨sized,rfl,rfl,rfl⟩

theorem taken_unfinished (known : parser.Taken taken) (running : parser.finished = false) : Unfinished taken := by
  obtain ⟨_,reads⟩ := known
  have going := of_decide_eq_false running
  cases state : parser.currentState with
  | commandCode =>
      rw [state] at reads
      rw [reads.1]
      exact unfinished_nil
  | hasData =>
      rw [state] at reads
      rw [reads.1]
      exact unfinished_code
  | readData =>
      rw [state] at reads
      obtain ⟨text,same,_,inside,_⟩ := reads
      have whole := unfinished_line inside [] (.inl rfl) parser.code.byte
      rw [List.append_nil] at whole
      rw [same]
      exact whole
  | done => exact absurd state going
  | error =>
      rw [state] at reads
      exact reads

theorem taken_done (known : parser.Taken taken) (ended : parser.finished = true) :
    ∃ message : CommandMessage, taken = message.bytes ∧
      Carries message {parser with data:=parser.data.set parser.dataSize 0} := by
  obtain ⟨_,reads⟩ := known
  have state : parser.currentState = .done := of_decide_eq_true ended
  rw [state] at reads
  obtain ⟨message,whole,_,code,_,line⟩ := reads
  exact ⟨message,whole,code,state,line⟩

theorem set_text {array : List UInt8} (sized : array.length = maxDataSize+1) (kept : array.take text.length = text)
    (room : text.length ≤ maxDataSize) (byte : UInt8) :
    array.set text.length byte = text ++ byte::array.drop (text.length+1) := by
  rw [List.set_eq_take_append_cons_drop,if_pos (by omega),kept]

theorem cpcpParseByte_taken (known : parser.Taken taken) (running : (parser.failed || parser.finished) = false)
    (byte : UInt8) : (cpcpParseByte parser byte).Taken (taken++[byte]) := by
  obtain ⟨sound,unfinished⟩ := Bool.or_eq_false_iff.mp running
  obtain ⟨sized,reads⟩ := known
  unfold cpcpParseByte
  cases state : parser.currentState with
  | commandCode =>
      rw [state] at reads
      obtain ⟨none_,size,data⟩ := reads
      rw [none_]
      dsimp only
      split
      · rename_i wrong
        exact ⟨sized,unfinished_wrong wrong []⟩
      · rename_i code found
        refine ⟨sized,?_,ofByte_ordered found,size,data⟩
        rw [ofByte_byte found]
        rfl
  | hasData =>
      rw [state] at reads
      obtain ⟨command,ordered,size,data⟩ := reads
      rw [command]
      dsimp only
      split
      · rename_i none_
        refine ⟨sized,⟨parser.code,none,ordered,by simp,by simp⟩,by rw [none_]; rfl,by rw [size]; exact Nat.zero_le _,
          rfl,rfl,data⟩
      · split
        · rename_i one
          exact ⟨sized,[],by rw [one]; rfl,ordered,by simp,size,Nat.zero_le _,rfl,rfl⟩
        · rename_i empty full
          exact ⟨sized,unfinished_flag empty full _ []⟩
  | readData =>
      rw [state] at reads
      obtain ⟨text,command,ordered,inside,size,fits,kept,data⟩ := reads
      dsimp only
      split
      · rename_i full
        refine ⟨sized,?_⟩
        rw [command,List.append_assoc]
        exact unfinished_line inside [byte] (.inr (by omega)) _
      · rename_i room
        have short : text.length < maxDataSize := by omega
        have stored := set_text sized kept fits byte
        refine ⟨List.length_set.trans sized,?_⟩
        by_cases ends : byte = newline
        · rw [if_pos ends]
          refine ⟨⟨parser.code,some text,ordered,by simpa using inside,by simpa using short⟩,?_,?_,rfl,rfl,data,?_,?_⟩
          · rw [command,ends]
            rfl
          · dsimp only
            omega
          · dsimp only
            rw [size]
          · refine ⟨parser.data.drop (text.length+2),?_⟩
            have slot : (parser.data.drop (text.length+1)).set 0 0 = 0::parser.data.drop (text.length+2) := by
              rw [List.set_eq_take_append_cons_drop,if_pos (by rw [List.length_drop]; omega),List.take_zero,
                List.drop_drop]
              rfl
            dsimp only
            rw [size,stored,ends,List.set_append_right _ _ (by omega),Nat.add_sub_cancel_left,List.set_cons_succ,slot]
        · rw [if_neg ends]
          refine ⟨text++[byte],by rw [command,List.append_assoc],ordered,?_,?_,?_,?_,data⟩
          · rw [List.mem_append,not_or,List.mem_singleton]
            exact ⟨inside,fun same => ends same.symm⟩
          · dsimp only
            rw [size,List.length_append,List.length_singleton]
          · rw [List.length_append,List.length_singleton]
            omega
          · dsimp only
            rw [size,stored,List.append_cons text byte (parser.data.drop (text.length+1)),List.take_left]
  | done => exact absurd state (of_decide_eq_false unfinished)
  | error => exact absurd state (of_decide_eq_false sound)

end Socks5d.ControlProtocol
