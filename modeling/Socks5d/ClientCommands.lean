import Socks5d.CpMessages
import Socks5d.CpCommands
import Socks5d.UserTable

namespace Socks5d.ControlProtocol

def commandAddUser : UInt8 := 0x31
def commandDeleteUser : UInt8 := 0x32
def commandEditPassword : UInt8 := 0x33
def hasDataFlag : UInt8 := 1
def maxLen : Nat := 1024

-- strcat on a block: the text and its terminator go where the first terminator stood.
def strcat (dest text : List UInt8) : List UInt8 :=
  dest.take (cString dest).length ++ cString text ++ [0] ++
    dest.drop ((cString dest).length + (cString text).length + 1)

def singleArgCommand (command : UInt8) (username : List UInt8) : List UInt8 :=
  let len := (cString username).length + 3
  let toSend := ((List.replicate maxLen 0).set 0 command).set 1 hasDataFlag
  let toSend := strcat toSend username
  (toSend.set (len-1) newline).take len

def doubleArgCommand (command : UInt8) (username pass : List UInt8) : List UInt8 :=
  let len := (cString username).length + (cString pass).length + 4
  let toSend := ((List.replicate maxLen 0).set 0 command).set 1 hasDataFlag
  let toSend := strcat toSend username
  let toSend := strcat toSend [tokenDelimiter]
  let toSend := strcat toSend pass
  (toSend.set (len-1) newline).take len

def CpCommandParser.tableCall (parser : CpCommandParser) : Option TableOp :=
  if parser.hasData = 0 then none
  else
    let (first,rest) := strtok tokenDelimiter (cString parser.data)
    let (second,behind) := strtok lineDelimiter rest
    match parser.code with
    | .addUser => first.bind fun user => second.map (.addUser user ·)
    | .changePass => first.bind fun user => second.map (.changePassword user · behind)
    | .remUser => some (.removeUser (cString (parser.data.set (parser.dataSize - 1) 0)))
    | _ => none

variable {user pass text front : List UInt8} {byte : UInt8} {parser : CpCommandParser} {message : CommandMessage}

theorem command_calls {command : Command} (found : commandOf parser.code = some command) (malloc : Bool) (g : Globals) :
    (command malloc g parser).2.users = match parser.tableCall with
      | some op => (op.apply g.users).2
      | none => g.users := by
  unfold CpCommandParser.tableCall
  cases code : parser.code with
  | noCommand => rw [code] at found; cases found
  | authentication => rw [code] at found; cases found
  | addUser =>
      rw [code] at found
      cases found
      unfold addProxyUser
      split
      · rfl
      · dsimp only
        cases (strtok tokenDelimiter (cString parser.data)).1 with
        | none => rfl
        | some user =>
            cases (strtok lineDelimiter (strtok tokenDelimiter (cString parser.data)).2).1 with
            | none => rfl
            | some password => rfl
  | remUser =>
      rw [code] at found
      cases found
      unfold removeProxyUser
      split
      · rfl
      · dsimp only
        split <;> rfl
  | changePass =>
      rw [code] at found
      cases found
      unfold changePassword
      split
      · rfl
      · dsimp only
        cases (strtok tokenDelimiter (cString parser.data)).1 with
        | none => rfl
        | some user =>
            cases (strtok lineDelimiter (strtok tokenDelimiter (cString parser.data)).2).1 with
            | none => rfl
            | some password =>
                dsimp only
                split <;> rfl
  | listUsers =>
      rw [code] at found
      cases found
      simp [getSocksUsers]
  | getMetrics =>
      rw [code] at found
      cases found
      unfold getMetrics
      simp only [ite_self]
      split <;> rfl
  | dissectorOn =>
      rw [code] at found
      cases found
      unfold turnOnPassDissectors switchPassDissectors
      simp only [ite_self]
      split <;> rfl
  | dissectorOff =>
      rw [code] at found
      cases found
      unfold turnOffPassDissectors switchPassDissectors
      simp only [ite_self]
      split <;> rfl

theorem cString_ends (string : 0 ∉ text) (rest : List UInt8) : cString (text ++ 0::rest) = text :=
  cString_whole (fun _ member zero => string (zero ▸ member)) rest

theorem cString_string (string : 0 ∉ text) : cString text = text := by
  rw [← cString_terminated text [],cString_ends string]

theorem strcat_zeros {room : Nat} (string : 0 ∉ front) (appended : 0 ∉ text) (fits : text.length < room) :
    strcat (front ++ List.replicate room 0) text = (front ++ text) ++ List.replicate (room - text.length) 0 := by
  obtain ⟨more,rfl⟩ : ∃ more, room = text.length+1+more := ⟨room - (text.length+1),by omega⟩
  have front_ : cString (front ++ List.replicate (text.length+1+more) 0) = front := by
    rw [show text.length+1+more = (text.length+more)+1 by omega,List.replicate_succ]
    exact cString_ends string _
  unfold strcat
  rw [front_,cString_string appended,List.take_left,Nat.add_assoc,List.drop_append,
    List.drop_eq_nil_of_le (by omega),List.nil_append,List.drop_replicate]
  have left : text.length+1+more - (front.length + (text.length+1) - front.length) = more := by omega
  have right : text.length+1+more - text.length = more+1 := by omega
  rw [left,right,List.replicate_succ]
  simp

theorem header_zeros (command : UInt8) :
    ((List.replicate maxLen (0 : UInt8)).set 0 command).set 1 hasDataFlag =
      [command,hasDataFlag] ++ List.replicate (maxLen - 2) 0 := by
  have split : List.replicate maxLen (0 : UInt8) = [0,0] ++ List.replicate (maxLen - 2) 0 := by
    rw [show ([0,0] : List UInt8) = List.replicate 2 0 from rfl,List.replicate_append_replicate]
    rfl
  rw [split]
  rfl

theorem ends_line {room : Nat} (some_ : 0 < room) :
    ((front ++ List.replicate room 0).set front.length newline).take (front.length+1) = front ++ [newline] := by
  obtain ⟨more,rfl⟩ : ∃ more, room = more+1 := ⟨room - 1,by omega⟩
  rw [List.replicate_succ,List.set_append_right _ _ (Nat.le_refl _),Nat.sub_self,List.set_cons_zero,
    List.append_cons,show front.length+1 = (front ++ [newline]).length by simp,List.take_left]

theorem singleArg_bytes {command : UInt8} (some_ : command ≠ 0) (string : 0 ∉ user) (fits : user.length + 3 < maxLen) :
    singleArgCommand command user = [command,hasDataFlag] ++ user ++ [newline] := by
  have header : (0 : UInt8) ∉ [command,hasDataFlag] := by
    simp only [List.mem_cons,List.not_mem_nil,or_false,not_or]
    exact ⟨some_.symm,by decide⟩
  unfold singleArgCommand
  dsimp only
  rw [cString_string string,header_zeros,strcat_zeros header string (by omega)]
  have ended := @ends_line ([command,hasDataFlag] ++ user) (maxLen - 2 - user.length) (by omega)
  rw [List.length_append] at ended
  have size : [command,hasDataFlag].length + user.length = user.length + 3 - 1 := by simp; omega
  rw [size] at ended
  exact ended

theorem doubleArg_bytes {command : UInt8} (some_ : command ≠ 0) (string : 0 ∉ user) (appended : 0 ∉ pass)
    (fits : user.length + pass.length + 4 < maxLen) :
    doubleArgCommand command user pass = [command,hasDataFlag] ++ (user ++ [tokenDelimiter] ++ pass) ++ [newline] := by
  have header : (0 : UInt8) ∉ [command,hasDataFlag] := by
    simp only [List.mem_cons,List.not_mem_nil,or_false,not_or]
    exact ⟨some_.symm,by decide⟩
  have delimiter : (0 : UInt8) ∉ [tokenDelimiter] := by decide
  have first : (0 : UInt8) ∉ [command,hasDataFlag] ++ user := by
    rw [List.mem_append,not_or]
    exact ⟨header,string⟩
  have second : (0 : UInt8) ∉ [command,hasDataFlag] ++ user ++ [tokenDelimiter] := by
    rw [List.mem_append,not_or]
    exact ⟨first,delimiter⟩
  unfold doubleArgCommand
  dsimp only
  rw [cString_string string,cString_string appended,header_zeros,strcat_zeros header string (by omega),
    strcat_zeros first delimiter (by simp; omega),strcat_zeros second appended (by simp; omega)]
  have ended := @ends_line ([command,hasDataFlag] ++ user ++ [tokenDelimiter] ++ pass)
    (maxLen - 2 - user.length - [tokenDelimiter].length - pass.length) (by simp; omega)
  have size : ([command,hasDataFlag] ++ user ++ [tokenDelimiter] ++ pass).length = user.length + pass.length + 4 - 1 := by
    simp
    omega
  rw [size] at ended
  simpa using ended

theorem strtok_first {delimiter : UInt8} (some_ : text ≠ []) (inside : delimiter ∉ text) (rest : List UInt8) :
    strtok delimiter (text ++ delimiter::rest) = (some text,rest) := by
  have other : ∀ byte ∈ text, byte ≠ delimiter := fun byte member same => inside (same ▸ member)
  cases text with
  | nil => exact absurd rfl some_
  | cons first more =>
      have start : (first::more ++ delimiter::rest).dropWhile (· = delimiter) = first::more ++ delimiter::rest := by
        rw [List.cons_append,List.dropWhile_cons_of_neg (by simpa using other first List.mem_cons_self)]
      have token : (first::more ++ delimiter::rest).takeWhile (· ≠ delimiter) = first::more := by
        rw [List.takeWhile_append_of_pos (by simpa using other),List.takeWhile_cons_of_neg (by simp),List.append_nil]
      have left : (first::more ++ delimiter::rest).dropWhile (· ≠ delimiter) = delimiter::rest := by
        rw [List.dropWhile_append_of_pos (by simpa using other),List.dropWhile_cons_of_neg (by simp)]
      unfold strtok
      dsimp only
      rw [start,token,left]
      simp

theorem credentials_call (carries : Carries message parser) (line : message.line = some (user ++ [tokenDelimiter] ++ pass))
    (name : user ≠ [] ∧ tokenDelimiter ∉ user ∧ 0 ∉ user) (word : pass ≠ [] ∧ newline ∉ pass ∧ 0 ∉ pass) :
    (message.code = .addUser → parser.tableCall = some (.addUser user pass)) ∧
    (message.code = .changePass → parser.tableCall = some (.changePassword user pass [])) := by
  obtain ⟨code,_,fields⟩ := carries
  rw [line] at fields
  obtain ⟨flag,_,rest,stored⟩ := fields
  have string : (0 : UInt8) ∉ user ++ [tokenDelimiter] ++ pass ++ [newline] := by
    simp only [List.mem_append,List.mem_singleton,not_or]
    exact ⟨⟨⟨name.2.2,by decide⟩,word.2.2⟩,by decide⟩
  have whole : cString parser.data = user ++ tokenDelimiter::(pass ++ [newline]) := by
    rw [stored,List.append_cons,cString_ends string]
    simp
  have first := strtok_first name.1 name.2.1 (pass ++ [newline])
  have second := strtok_first word.1 word.2.1 []
  unfold CpCommandParser.tableCall
  rw [flag,whole,first]
  dsimp only
  rw [show lineDelimiter = newline from rfl,second,code]
  constructor
  · intro add
    rw [add]
    rfl
  · intro change
    rw [change]
    rfl

theorem name_call (carries : Carries message parser) (line : message.line = some user) (remove : message.code = .remUser)
    (string : 0 ∉ user) : parser.tableCall = some (.removeUser user) := by
  obtain ⟨code,_,fields⟩ := carries
  rw [line] at fields
  obtain ⟨flag,size,rest,stored⟩ := fields
  have cut : cString (parser.data.set (parser.dataSize - 1) 0) = user := by
    rw [stored,size,Nat.add_sub_cancel,List.set_append_right _ _ (Nat.le_refl _),Nat.sub_self,List.set_cons_zero]
    exact cString_ends string _
  unfold CpCommandParser.tableCall
  rw [flag,code,remove,cut]
  dsimp only
  simp

end Socks5d.ControlProtocol
