import Socks5d.AccessHistory
import Socks5d.AdminService
import Socks5d.ClientListing
import Socks5d.ServerMessages

namespace Socks5d.ControlProtocol
open Transitions

def commandListUsers : UInt8 := 0x34
def commandObtainMetrics : UInt8 := 0x35
def commandDissectorOn : UInt8 := 0x36
def commandDissectorOff : UInt8 := 0x37
def hasNotData : UInt8 := 0
def blank : UInt8 := 0x20

def commandStr : List (List UInt8) :=
  ["help","adduser","deleteuser","editpass","list","metrics","dis","disoff","exit"].map ascii

def sendSimple (command : UInt8) : List UInt8 := (((List.replicate maxLen 0).set 0 command).set 1 hasNotData).take 2

def dissectorCommand (on : Bool) : UInt8 := if on then commandDissectorOn else commandDissectorOff

-- How the answer to a command is read: receive_simple_response, parse_metrics_message or
-- parse_users_message.
inductive AnswerReader where
  | simple
  | metrics
  | users
  deriving DecidableEq, Repr

-- What a line comes to before anything is received. `crashes` is a strcmp of NULL.
inductive ClientMove where
  | crashes
  | helps
  | leaves
  | refuses (text : List UInt8)
  | sends (message : List UInt8) (reader : AnswerReader)
  deriving DecidableEq, Repr

def enterValid : List UInt8 := ascii "Please, enter a valid command"
def notEnoughArgs : List UInt8 := ascii "Not enough arguments. Check out \"help\"!"
def tooManyArgs : List UInt8 := ascii "Too many arguments. Check out \"help\"!"

-- The command as it is retained, counted from 1, and -1 for none.
def commandOfWord (word : List UInt8) : Int :=
  match commandStr.findIdx? fun known => decide (known = word) with
  | some i => (i : Int)+1
  | none => -1

def bare (rest : List UInt8) (move : ClientMove) : ClientMove :=
  match (strtok blank rest).1 with
  | some _ => .refuses enterValid
  | none => move

def doubleArg (command : UInt8) (tooMany rest : List UInt8) : ClientMove :=
  let (arg,rest) := strtok blank rest
  match arg with
  | none => .refuses notEnoughArgs
  | some arg =>
    let (arg2,rest) := strtok blank rest
    match arg2 with
    | none => .refuses notEnoughArgs
    | some arg2 =>
      match (strtok blank rest).1 with
      | some _ => .refuses tooMany
      | none => .sends (doubleArgCommand command arg arg2) .simple

def singleArg (command : UInt8) (rest : List UInt8) : ClientMove :=
  let (arg,rest) := strtok blank rest
  match arg with
  | none => .refuses notEnoughArgs
  | some arg =>
    match (strtok blank rest).1 with
    | some _ => .refuses tooManyArgs
    | none => .sends (singleArgCommand command arg) .simple

def commandMove (command : Int) (rest : List UInt8) : ClientMove :=
  if command = 1 then .helps
  else if command = 2 then doubleArg commandAddUser tooManyArgs rest
  else if command = 3 then singleArg commandDeleteUser rest
  else if command = 4 then doubleArg commandEditPassword enterValid rest
  else if command = 5 then bare rest (.sends (sendSimple commandListUsers) .users)
  else if command = 6 then bare rest (.sends (sendSimple commandObtainMetrics) .metrics)
  else if command = 7 then bare rest (.sends (sendSimple (dissectorCommand true)) .simple)
  else if command = 8 then bare rest (.sends (sendSimple (dissectorCommand false)) .simple)
  else if command = 9 then .leaves
  else .refuses enterValid

-- What fgets stores of what is typed: a line with its newline, or as much as there is room for.
def fgets (typed : List UInt8) : List UInt8 :=
  (typed.takeWhile (· ≠ newline) ++ (typed.dropWhile (· ≠ newline)).take 1).take (maxLen - 1)

-- The last byte of what fgets stored is overwritten.
def lineCommand (typed : List UInt8) : Int :=
  ((strtok blank (cString (fgets typed)).dropLast).1.map commandOfWord).getD (-1)

def newCommand (typed : List UInt8) : ClientMove :=
  match strtok blank (cString (fgets typed)).dropLast with
  | (none,_) => .crashes
  | (some word,rest) => commandMove (commandOfWord word) rest

-- The array of a receiver: nobody clears it, so behind the segment stands what was there.
def received (stack segment : List UInt8) : List UInt8 := segment.take maxLen ++ stack.drop segment.length

def failureStatus (buf : List UInt8) : Option UInt8 :=
  if buf.getD 0 0 = failure then some (if buf.getD 1 0 ≠ hasDataFlag then 0x78 else buf.getD 2 0) else none

def receiveSimpleResponse (stack : List UInt8) : Recv → UInt8
  | .failed _ => 0x78
  | .closed => 0x6E
  | .data segment => (failureStatus (received stack segment)).getD 0x69

-- `none` is the printf of a token that strtok did not find.
def parseMetricsMessage (stack : List UInt8) : Recv → Option (List (List UInt8) × UInt8)
  | .failed _ => some ([],0x78)
  | .closed => some ([],0x6E)
  | .data segment =>
    let buf := received stack segment
    match failureStatus buf with
    | some status => some ([],status)
    | none =>
      let (title,rest) := strtok newline (cString (buf.drop 2))
      let (row,_) := strtok newline rest
      match title,row with
      | some title,some row => some ([title,row],0x69)
      | _,_ => none

def ControlProtErrorCode.text : ControlProtErrorCode → List UInt8
  | .invalidPassword => []
  | .commandNeedsData => ascii "Error: command needs data"
  | .noDataCommand => ascii "Error: command doesn't allow data"
  | .invalidFormat => ascii "Error: invalid format"
  | .inexistingUser => ascii "Error: user does not exist"
  | .alreadyExists => ascii "Error: user already exists"
  | .userLimit => ascii "Error: user limit reached"
  | .generalError => ascii "Unexpected server error"

def acknowledged : List UInt8 := ascii "OK!"

-- What is printed, and whether the client ends. CPERROR_INVALID_PASSWORD has no case.
def analyzeReturn (cmd : Int) (ret : UInt8) : List (List UInt8) × Bool :=
  if ret = 0x78 then ([ascii "Unexpected server error. Closing..."],true)
  else if ret = 0x69 then (if cmd ≠ 1 ∧ cmd ≠ 6 ∧ cmd ≠ 9 then [acknowledged] else [],false)
  else if ret = 0x6E then ([],true)
  else
    match [ControlProtErrorCode.alreadyExists,.commandNeedsData,.generalError,.inexistingUser,.invalidFormat,
        .noDataCommand,.userLimit].find? fun code => decide (code.byte = ret) with
    | some code => ([code.text],decide (code = .generalError))
    | none => ([],false)

structure ClientTurn where
  sent : List UInt8
  screen : List (List UInt8)
  done : Bool
  deriving DecidableEq, Repr

def analyzed (cmd : Int) (sent : List UInt8) (shown : List (List UInt8)) (ret : UInt8) : Option ClientTurn :=
  some ⟨sent,shown ++ (analyzeReturn cmd ret).1,(analyzeReturn cmd ret).2⟩

def helpText : List (List UInt8) :=
  ["Welcome to SCALO_NET! The available commands are the following:",
    " - adduser <user> <pass>: adds a new user to socks5 server",
    " - deleteuser <user>: delete an existing user from socks5 server",
    " - editpass <user> <newpass>: edits add existing user password's",
    " - list: list all users of socks5 server",
    " - metrics: displays server usage metrics",
    " - dis: turns on the pop3 password dissector",
    " - disoff: turns off the pop3 password dissector",
    " - exit: bye bye!"].map ascii

-- `stack` is what the array of a receiver held before, `stale` what `ret` holds unless an
-- answer sets it.
def clientTurn (stack : List UInt8) (stale : UInt8) (rowCount : Int) (line : List UInt8) (answers : List Recv) :
    Option ClientTurn :=
  match newCommand line with
  | .crashes => none
  | .helps => analyzed (lineCommand line) [] helpText stale
  | .leaves => some ⟨[],[ascii "Bye!"],true⟩
  | .refuses text => some ⟨[],[text],false⟩
  | .sends message .simple => answers.head?.bind fun answer =>
    analyzed (lineCommand line) message [] (receiveSimpleResponse stack answer)
  | .sends message .metrics => answers.head?.bind fun answer => (parseMetricsMessage stack answer).bind fun (shown,ret) =>
    analyzed (lineCommand line) message shown ret
  | .sends message .users =>
    match (parseUsersMessage none rowCount answers).ended with
    | .returned status => analyzed (lineCommand line) message (parseUsersMessage none rowCount answers).printed status
    | _ => none

inductive AdminOrder where
  | add (user pass : List UInt8)
  | remove (user : List UInt8)
  | edit (user pass : List UInt8)
  | metrics
  | dissect (on : Bool)
  deriving DecidableEq, Repr

def AdminOrder.words : AdminOrder → List (List UInt8)
  | .add user pass => [ascii "adduser",user,pass]
  | .remove user => [ascii "deleteuser",user]
  | .edit user pass => [ascii "editpass",user,pass]
  | .metrics => [ascii "metrics"]
  | .dissect true => [ascii "dis"]
  | .dissect false => [ascii "disoff"]

def AdminOrder.tableOp : AdminOrder → Option TableOp
  | .add user pass => some (.addUser user pass)
  | .remove user => some (.removeUser user)
  | .edit user pass => some (.changePassword user pass [])
  | _ => none

def AdminOrder.refusal (order : AdminOrder) (a : AccessControl) : Option ControlProtErrorCode :=
  order.tableOp.bind fun op => op.refusal a.users

def AdminOrder.effect (order : AdminOrder) (a : AccessControl) : AccessControl where
  users := order.tableOp.elim a.users fun op => (op.applyMap a.users).2
  dissecting := match order with
    | .dissect on => on
    | _ => a.dissecting

def AdminOrder.report (order : AdminOrder) (a : AccessControl) (m : Metrics) : List (List UInt8) :=
  match order with
  | .metrics => [metricsCsvTitle.dropLast,metricsRow m]
  | _ => [(order.refusal a).elim acknowledged ControlProtErrorCode.text]

def Word (word : List UInt8) : Prop := word ≠ [] ∧ ∀ byte ∈ word, byte ≠ blank ∧ byte ≠ newline ∧ byte ≠ 0

instance (word : List UInt8) : Decidable (Word word) := inferInstanceAs (Decidable (_ ∧ _))

def AdminOrder.Sane : AdminOrder → Prop
  | .add user pass | .edit user pass =>
    Word user ∧ Word pass ∧ tokenDelimiter ∉ user ∧ user.length + pass.length + 2 ≤ maxDataSize
  | .remove user => Word user ∧ user.length + 1 ≤ maxDataSize
  | _ => True

inductive Spaced : List (List UInt8) → List UInt8 → Prop where
  | nil (gap : Nat) : Spaced [] (List.replicate gap blank)
  | cons {words : List (List UInt8)} {rest : List UInt8} (gap : Nat) (word : List UInt8) : Word word → Spaced words rest →
      rest = [] ∨ rest.head? = some blank → Spaced (word::words) (List.replicate gap blank ++ word ++ rest)

structure TypedOrder where
  order : AdminOrder
  line : List UInt8
  sane : order.Sane
  short : line.length < maxLen
  typed : ∃ text, Spaced order.words text ∧ line = text ++ [newline]

def AdminOrder.code : AdminOrder → CpCommandCode
  | .add _ _ => .addUser
  | .remove _ => .remUser
  | .edit _ _ => .changePass
  | .metrics => .getMetrics
  | .dissect true => .dissectorOn
  | .dissect false => .dissectorOff

def AdminOrder.data : AdminOrder → Option (List UInt8)
  | .add user pass | .edit user pass => some (user ++ [tokenDelimiter] ++ pass)
  | .remove user => some user
  | _ => none

def AdminOrder.reader (order : AdminOrder) : AnswerReader := if order = .metrics then .metrics else .simple

def AdminOrder.number : AdminOrder → Int
  | .add _ _ => 2
  | .remove _ => 3
  | .edit _ _ => 4
  | .metrics => 6
  | .dissect true => 7
  | .dissect false => 8

variable {order : AdminOrder} {typed : TypedOrder} {text word rest line user pass stack : List UInt8}
  {words : List (List UInt8)}

theorem word_ended (said : Word word) : newline ∉ word := fun inside => (said.2 _ inside).2.1 rfl

theorem spaced_line (spaced : Spaced words text) : newline ∉ text := by
  induction spaced with
  | nil gap =>
      intro ended
      cases List.eq_of_mem_replicate ended
  | cons gap word said _ _ ih =>
      simp only [List.mem_append,not_or]
      refine ⟨⟨fun ended => ?_,fun ended => (said.2 _ ended).2.1 rfl⟩,ih⟩
      cases List.eq_of_mem_replicate ended

theorem fgets_line (ends : newline ∉ text) (short : (text ++ [newline]).length < maxLen) :
    fgets (text ++ [newline]) = text ++ [newline] := by
  have plain : ∀ byte ∈ text, decide (byte ≠ newline) = true := fun byte member =>
    decide_eq_true fun same => ends (same ▸ member)
  have front : (text ++ [newline]).takeWhile (· ≠ newline) = text := by
    rw [List.takeWhile_append_of_pos plain]
    simp
  have back : (text ++ [newline]).dropWhile (· ≠ newline) = [newline] := by
    rw [List.dropWhile_append_of_pos plain]
    rfl
  rw [fgets,front,back]
  exact List.take_of_length_le (Nat.le_sub_one_of_lt short)

theorem word_string (said : Word word) : 0 ∉ word := fun zero => (said.2 _ zero).2.2 rfl

theorem pair_ended (name : Word user) (secret : Word pass) : newline ∉ user ++ [tokenDelimiter] ++ pass := by
  intro inside
  rcases List.mem_append.mp inside with front | back
  · rcases List.mem_append.mp front with first | delimiter
    · exact word_ended name first
    · cases List.mem_singleton.mp delimiter
  · exact word_ended secret back

theorem pair_fits (size : user.length + pass.length + 2 ≤ maxDataSize) :
    (user ++ [tokenDelimiter] ++ pass).length < maxDataSize := by
  simp only [List.length_append,List.length_singleton]
  omega

theorem order_ended (sane : order.Sane) : ∀ text ∈ order.data, newline ∉ text := by
  cases order with
  | add user pass =>
      rintro text same
      cases same
      exact pair_ended sane.1 sane.2.1
  | remove user =>
      rintro text same
      cases same
      exact word_ended sane.1
  | edit user pass =>
      rintro text same
      cases same
      exact pair_ended sane.1 sane.2.1
  | metrics => rintro text same; cases same
  | dissect on => rintro text same; cases same

theorem order_fits (sane : order.Sane) : ∀ text ∈ order.data, text.length < maxDataSize := by
  cases order with
  | add user pass =>
      rintro text same
      cases same
      exact pair_fits sane.2.2.2
  | remove user =>
      rintro text same
      cases same
      have size := sane.2
      omega
  | edit user pass =>
      rintro text same
      cases same
      exact pair_fits sane.2.2.2
  | metrics => rintro text same; cases same
  | dissect on => rintro text same; cases same

def TypedOrder.message (typed : TypedOrder) : CommandMessage where
  code := typed.order.code
  line := typed.order.data
  ordered := by
    rcases typed.order with _ | _ | _ | _ | (_ | _)
    all_goals rfl
  ended := order_ended typed.sane
  fits := order_fits typed.sane

theorem blanks_dropped (gap : Nat) (rest : List UInt8) :
    (List.replicate gap blank ++ rest).dropWhile (· = blank) = rest.dropWhile (· = blank) :=
  List.dropWhile_append_of_pos fun _ member => decide_eq_true (List.eq_of_mem_replicate member)

theorem spaced_nil (spaced : Spaced [] text) : (strtok blank text).1 = none := by
  cases spaced with
  | nil gap =>
      have dropped := blanks_dropped gap []
      rw [List.append_nil] at dropped
      rw [strtok,dropped]
      rfl

theorem spaced_rest (spaced : Spaced words (blank::rest)) : Spaced words rest := by
  generalize whole : blank::rest = text at spaced
  cases spaced with
  | nil gap =>
      cases gap with
      | zero => cases whole
      | succ gap =>
          cases whole
          exact .nil gap
  | cons gap word said inner ends =>
      cases gap with
      | zero =>
          obtain ⟨first,more,rfl⟩ := List.exists_cons_of_ne_nil said.1
          cases whole
          exact absurd rfl (said.2 _ List.mem_cons_self).1
      | succ gap =>
          cases whole
          exact .cons gap word said inner ends

theorem spaced_cons (spaced : Spaced (word::words) text) :
    ∃ rest, strtok blank text = (some word,rest) ∧ Spaced words rest := by
  cases spaced with
  | @cons _ rest gap _ said inner ends =>
      obtain ⟨some_,plain⟩ := said
      obtain ⟨first,more,rfl⟩ := List.exists_cons_of_ne_nil some_
      have other : ∀ byte ∈ first::more, byte ≠ blank := fun byte member => (plain byte member).1
      have start : (List.replicate gap blank ++ (first::more) ++ rest).dropWhile (· = blank) = first::more ++ rest := by
        rw [List.append_assoc,blanks_dropped,List.cons_append,
          List.dropWhile_cons_of_neg (by simpa using other first List.mem_cons_self)]
      have token : (first::more ++ rest).takeWhile (· ≠ blank) = first::more := by
        rw [List.takeWhile_append_of_pos (by simpa using other)]
        rcases ends with rfl | head
        · simp
        · obtain ⟨tail,rfl⟩ := List.head?_eq_some_iff.mp head
          rw [List.takeWhile_cons_of_neg (by simp),List.append_nil]
      have left : (first::more ++ rest).dropWhile (· ≠ blank) = rest := by
        rw [List.dropWhile_append_of_pos (by simpa using other)]
        rcases ends with rfl | head
        · rfl
        · obtain ⟨tail,rfl⟩ := List.head?_eq_some_iff.mp head
          rw [List.dropWhile_cons_of_neg (by simp)]
      refine ⟨rest.drop 1,?_,?_⟩
      · rw [strtok,start,if_neg (List.append_ne_nil_of_left_ne_nil some_ _),token,left]
      · rcases ends with rfl | head
        · exact inner
        · obtain ⟨tail,rfl⟩ := List.head?_eq_some_iff.mp head
          exact spaced_rest inner

theorem spaced_string (spaced : Spaced words text) : 0 ∉ text := by
  induction spaced with
  | nil gap =>
      intro zero
      cases List.eq_of_mem_replicate zero
  | cons gap word said _ _ ih =>
      simp only [List.mem_append,not_or]
      refine ⟨⟨fun zero => ?_,fun zero => (said.2 _ zero).2.2 rfl⟩,ih⟩
      cases List.eq_of_mem_replicate zero

theorem doubleArg_sends {command : UInt8} {tooMany : List UInt8} (spaced : Spaced [user,pass] rest) :
    doubleArg command tooMany rest = .sends (doubleArgCommand command user pass) .simple := by
  obtain ⟨middle,first,spaced⟩ := spaced_cons spaced
  obtain ⟨last,second,spaced⟩ := spaced_cons spaced
  have none_ := spaced_nil spaced
  unfold doubleArg
  rw [first]
  dsimp only
  rw [second]
  dsimp only
  rw [none_]

theorem singleArg_sends {command : UInt8} (spaced : Spaced [user] rest) :
    singleArg command rest = .sends (singleArgCommand command user) .simple := by
  obtain ⟨last,first,spaced⟩ := spaced_cons spaced
  have none_ := spaced_nil spaced
  unfold singleArg
  rw [first]
  dsimp only
  rw [none_]

theorem pair_moves {code : CpCommandCode} {tooMany : List UInt8} (some_ : code.byte ≠ 0) (name : Word user)
    (secret : Word pass) (size : user.length + pass.length + 2 ≤ maxDataSize) (spaced : Spaced [user,pass] rest) :
    doubleArg code.byte tooMany rest = .sends (code.byte::commandLine (some (user ++ [tokenDelimiter] ++ pass))) .simple := by
  rw [maxDataSize] at size
  rw [doubleArg_sends spaced,doubleArg_bytes some_ (word_string name) (word_string secret) (by rw [maxLen]; omega)]
  rfl

theorem bare_moves {move : ClientMove} (spaced : Spaced [] rest) : bare rest move = move := by
  rw [bare,spaced_nil spaced]

theorem order_moves (sane : order.Sane) (message : CommandMessage) (code : message.code = order.code)
    (data : message.line = order.data) (spaced : Spaced order.words.tail rest) :
    commandMove order.number rest = .sends message.bytes order.reader := by
  have bytes : message.bytes = order.code.byte::commandLine order.data := by rw [CommandMessage.bytes,code,data]
  rw [bytes]
  cases order with
  | add user pass => exact @pair_moves rest user pass .addUser _ (by decide) sane.1 sane.2.1 sane.2.2.2 spaced
  | remove user =>
      have size := sane.2
      rw [maxDataSize] at size
      refine (singleArg_sends spaced).trans ?_
      rw [singleArg_bytes (by decide) (word_string sane.1) (by rw [maxLen]; omega)]
      rfl
  | edit user pass => exact @pair_moves rest user pass .changePass _ (by decide) sane.1 sane.2.1 sane.2.2.2 spaced
  | metrics => exact (bare_moves spaced).trans (by decide)
  | dissect on =>
      cases on with
      | false => exact (bare_moves spaced).trans (by decide)
      | true => exact (bare_moves spaced).trans (by decide)

theorem order_word (order : AdminOrder) :
    ∃ word, order.words = word::order.words.tail ∧ commandOfWord word = order.number := by
  rcases order with _ | _ | _ | _ | (_ | _)
  all_goals exact ⟨_,rfl,rfl⟩

theorem typed_sends (typed : TypedOrder) : newCommand typed.line = .sends typed.message.bytes typed.order.reader ∧
    lineCommand typed.line = typed.order.number := by
  obtain ⟨text,spaced,same⟩ := typed.typed
  have string : 0 ∉ text ++ [newline] := by
    rw [List.mem_append,not_or]
    exact ⟨spaced_string spaced,by decide⟩
  have stored : (cString (fgets typed.line)).dropLast = text := by
    have short := typed.short
    rw [same] at short ⊢
    rw [fgets_line (spaced_line spaced) short,cString_string string,List.dropLast_concat]
  obtain ⟨word,words,number⟩ := order_word typed.order
  rw [words] at spaced
  obtain ⟨rest,first,spaced⟩ := spaced_cons spaced
  constructor
  · rw [newCommand,stored,first]
    dsimp only
    rw [number]
    exact order_moves typed.sane typed.message rfl rfl spaced
  · rw [lineCommand,stored,first]
    exact number

variable {a : AccessControl} {g after : Globals} {malloc : Bool} {answer behind : List UInt8} {message : CommandMessage}

theorem parsed_carries (message : CommandMessage) : Carries message message.parsed := by
  unfold Carries CommandMessage.parsed
  refine ⟨rfl,rfl,?_⟩
  cases message.line with
  | none => rfl
  | some text => exact ⟨rfl,rfl,[],rfl⟩

theorem parsed_tableCall (sane : order.Sane) (code : message.code = order.code) (data : message.line = order.data) :
    message.parsed.tableCall = order.tableOp := by
  have carries := parsed_carries message
  have name : ∀ {word : List UInt8}, Word word → tokenDelimiter ∉ word → word ≠ [] ∧ tokenDelimiter ∉ word ∧ 0 ∉ word :=
    fun said single => ⟨said.1,single,word_string said⟩
  have secret : ∀ {word : List UInt8}, Word word → word ≠ [] ∧ newline ∉ word ∧ 0 ∉ word :=
    fun said => ⟨said.1,word_ended said,word_string said⟩
  have none_ : message.line = none → message.parsed.tableCall = none := by
    intro empty
    rw [CpCommandParser.tableCall,if_pos]
    rw [CommandMessage.parsed,empty]
    rfl
  cases order with
  | add user pass => exact (credentials_call carries data (name sane.1 sane.2.2.1) (secret sane.2.1)).1 code
  | remove user => exact name_call carries data code (word_string sane.1)
  | edit user pass => exact (credentials_call carries data (name sane.1 sane.2.2.1) (secret sane.2.1)).2 code
  | metrics => exact none_ data
  | dissect on => exact none_ data

theorem parsed_reads (typed : TypedOrder) : typed.message.parsed.tableCall = typed.order.tableOp ∧
    typed.message.parsed.code = typed.order.code ∧
    typed.message.parsed.hasData = if typed.order.data.isSome then 1 else 0 :=
  ⟨parsed_tableCall typed.sane rfl rfl,rfl,rfl⟩

theorem parsed_refusal (typed : TypedOrder) (a : AccessControl) :
    typed.message.parsed.refusal a.users = typed.order.refusal a := by
  obtain ⟨calls,code,flag⟩ := parsed_reads typed
  unfold CpCommandParser.refusal
  rw [calls,code,flag]
  rcases typed.order with _ | _ | _ | _ | (_ | _)
  all_goals rfl

theorem parsed_effect (typed : TypedOrder) (a : AccessControl) :
    typed.message.parsed.effectOn a = typed.order.effect a := by
  obtain ⟨calls,code,flag⟩ := parsed_reads typed
  unfold CpCommandParser.effectOn
  rw [calls,code,flag]
  rcases typed.order with _ | _ | _ | _ | (_ | _)
  all_goals rfl

theorem order_served (typed : TypedOrder) (refines : g.Refines a)
    (serve : typed.message.serve malloc g = (some answer,after)) :
    after.Refines (typed.order.effect a) ∧ Acknowledged (typed.order.refusal a) (cString (answer ++ behind)) := by
  cases found : commandOf typed.message.code with
  | none =>
      rw [CommandMessage.serve,found] at serve
      cases serve
  | some command =>
      rw [CommandMessage.serve,found,Option.elim_some] at serve
      have found : commandOf typed.message.parsed.code = some command := found
      have effect := command_effect found refines malloc
      have tells := @command_tells typed.message.parsed command g a.users malloc answer behind found refines.users
        (by rw [serve])
      rw [serve,parsed_effect] at effect
      refine ⟨effect,?_⟩
      rw [← parsed_refusal]
      exact tells.1

theorem received_whole (short : text.length ≤ maxLen) : received stack text = text ++ stack.drop text.length := by
  rw [received,List.take_of_length_le short]

theorem failure_seen {code : ControlProtErrorCode} (told : text.take 4 = [statusError,1,code.byte,newline])
    (short : text.length ≤ maxLen) : failureStatus (received stack text) = some code.byte := by
  have split := (List.take_append_drop 4 text).symm
  rw [told] at split
  rw [received_whole short,split]
  rfl

theorem success_seen (told : text.head? = some statusSuccess) (short : text.length ≤ maxLen) :
    failureStatus (received stack text) = none := by
  obtain ⟨tail,rfl⟩ := List.head?_eq_some_iff.mp told
  rw [received_whole short]
  rfl

theorem refusal_codes {code : ControlProtErrorCode} (refused : order.refusal a = some code) :
    code = .userLimit ∨ code = .alreadyExists ∨ code = .inexistingUser := by
  have absent : ∀ user, (if user ∈ a.users then none else some ControlProtErrorCode.inexistingUser) = some code →
      code = .inexistingUser := by
    intro user same
    split at same
    · cases same
    · cases same
      rfl
  cases order with
  | add user pass =>
      have refused : (if a.users.keys.card = maxUsers then some ControlProtErrorCode.userLimit
          else if user ∈ a.users then some .alreadyExists else none) = some code := refused
      split at refused
      · cases refused
        exact .inl rfl
      · split at refused
        · cases refused
          exact .inr (.inl rfl)
        · cases refused
  | remove user => exact .inr (.inr (absent user refused))
  | edit user pass => exact .inr (.inr (absent user refused))
  | metrics => cases refused
  | dissect on => cases refused

theorem number_shown (order : AdminOrder) (other : order ≠ .metrics) :
    order.number ≠ 1 ∧ order.number ≠ 6 ∧ order.number ≠ 9 := by
  rcases order with _ | _ | _ | _ | (_ | _)
  case metrics => exact absurd rfl other
  all_goals simp [AdminOrder.number]

theorem simple_shown (other : order ≠ .metrics) (told : Acknowledged (order.refusal a) text) (short : text.length ≤ maxLen) :
    analyzeReturn order.number (receiveSimpleResponse stack (.data text)) =
      ([(order.refusal a).elim acknowledged ControlProtErrorCode.text],false) := by
  rw [receiveSimpleResponse]
  cases refused : order.refusal a with
  | none =>
      rw [success_seen (told.2 refused) short,Option.getD_none]
      have shown := number_shown order other
      unfold analyzeReturn
      rw [if_neg (by decide),if_pos rfl,if_pos shown]
      rfl
  | some code =>
      rw [failure_seen (told.1 code refused) short]
      rcases refusal_codes refused with rfl | rfl | rfl
      · rfl
      · rfl
      · rfl

theorem metricsRow_some (m : Metrics) : metricsRow m ≠ [] := by
  unfold metricsRow
  simp [List.intercalate,List.intersperse]

theorem metrics_string (m : Metrics) :
    ∀ byte ∈ [statusSuccess,2] ++ (metricsCsvTitle ++ metricsRow m ++ [newline]), byte ≠ 0 := by
  have front : ∀ byte ∈ [statusSuccess,2] ++ metricsCsvTitle, byte ≠ 0 := by decide +kernel
  intro byte member
  simp only [← List.append_assoc] at member
  rcases List.mem_append.mp member with earlier | ends
  · rcases List.mem_append.mp earlier with first | row
    · exact front byte first
    · exact (metricsRow_plain _ byte row).1
  · rw [List.mem_singleton.mp ends]
    decide

theorem metrics_answer (flag : message.parsed.hasData = 0) (gave : (getMetrics malloc g message.parsed).1 = some answer) :
    cString (answer ++ behind) = [statusSuccess,2] ++ (metricsCsvTitle ++ metricsRow g.metrics ++ [newline]) := by
  have one : ¬ message.parsed.hasData = 1 := by
    rw [flag]
    decide
  unfold getMetrics at gave
  rw [if_neg one] at gave
  dsimp only at gave
  split at gave
  · cases gave
    refine Eq.trans (congrArg cString ?_) (cString_whole (metrics_string g.metrics) behind)
    simp only [List.append_assoc]
    rfl
  · cases gave

theorem metrics_shown (m : Metrics) (same : text = [statusSuccess,2] ++ (metricsCsvTitle ++ metricsRow m ++ [newline]))
    (short : text.length ≤ maxLen) :
    parseMetricsMessage stack (.data text) = some ([metricsCsvTitle.dropLast,metricsRow m],0x69) := by
  have title : metricsCsvTitle = metricsCsvTitle.dropLast ++ [newline] := by decide
  have plain : newline ∉ metricsCsvTitle.dropLast ∧ metricsCsvTitle.dropLast ≠ [] := by decide
  have string : ∀ byte ∈ metricsCsvTitle ++ metricsRow m ++ [newline], byte ≠ 0 := fun byte member =>
    metrics_string m byte (List.mem_append_right _ member)
  have started : failureStatus (received stack text) = none := success_seen (by rw [same]; rfl) short
  have body : cString ((received stack text).drop 2) = metricsCsvTitle.dropLast ++ newline::(metricsRow m ++
      newline::cString (stack.drop text.length)) := by
    rw [received_whole short]
    generalize stack.drop text.length = left
    have cut : (text ++ left).drop 2 = (metricsCsvTitle ++ metricsRow m ++ [newline]) ++ left := by
      rw [same]
      simp
    rw [cut,cString_front string]
    conv_lhs => rw [title]
    simp
  unfold parseMetricsMessage
  dsimp only
  rw [started]
  dsimp only
  rw [body,strtok_first plain.2 plain.1]
  dsimp only
  rw [strtok_first (metricsRow_some m) fun inside => (metricsRow_plain _ _ inside).2 rfl]

theorem turn_told (typed : TypedOrder) (refines : g.Refines a)
    (serve : typed.message.serve malloc g = (some answer,after)) (short : (cString (answer ++ behind)).length ≤ maxLen)
    (stale : UInt8) (rowCount : Int) :
    clientTurn stack stale rowCount typed.line [.data (cString (answer ++ behind))] =
      some ⟨typed.message.bytes,typed.order.report a g.metrics,false⟩ ∧ after.Refines (typed.order.effect a) := by
  obtain ⟨moves,number⟩ := typed_sends typed
  obtain ⟨effect,told⟩ := @order_served a g after malloc answer behind typed refines serve
  refine ⟨?_,effect⟩
  unfold clientTurn
  rw [moves,number]
  by_cases metrics : typed.order = .metrics
  · have code : typed.message.code = .getMetrics := congrArg AdminOrder.code metrics
    have data : typed.message.line = none := congrArg AdminOrder.data metrics
    have flag : typed.message.parsed.hasData = 0 := by
      rw [CommandMessage.parsed,data]
      rfl
    rw [CommandMessage.serve,code] at serve
    have text := @metrics_answer g malloc answer behind typed.message flag (congrArg Prod.fst serve)
    rw [AdminOrder.reader,if_pos metrics,metrics]
    have shown := @metrics_shown _ stack g.metrics text short
    dsimp only [List.head?_cons,Option.bind_some]
    rw [shown]
    rfl
  · have shown := @simple_shown typed.order _ stack a metrics told short
    have report : typed.order.report a g.metrics = [(typed.order.refusal a).elim acknowledged ControlProtErrorCode.text] := by
      unfold AdminOrder.report
      split
      · rename_i same
        exact absurd same metrics
      · rfl
    rw [AdminOrder.reader,if_neg metrics,report]
    dsimp only [List.head?_cons,Option.bind_some]
    rw [analyzed,shown]
    rfl

def Truthful (stack : List UInt8) (stale : UInt8) (rowCount : Int) (typed : TypedOrder) (told : Exchange) : Prop :=
  ∀ a, told.on.Refines a →
    clientTurn stack stale rowCount typed.line [.data told.text] =
      some ⟨typed.message.bytes,typed.order.report a told.on.metrics,false⟩ ∧
    told.after.Refines (typed.order.effect a)

theorem dialogue_truthful {data : Nat} {fd : Int} {start last : Globals} {events : List ControlEvent}
    {messages : List CommandMessage} {told : List Exchange} {orders : List TypedOrder}
    (dialogue : Dialogue data fd start events messages told last) (same : messages = orders.map TypedOrder.message)
    (stale : UInt8) (rowCount : Int) : List.Forall₂ (Truthful stack stale rowCount) orders told := by
  induction dialogue generalizing orders with
  | idle =>
      rw [List.map_eq_nil_iff.mp same.symm]
      exact .nil
  | command _ serve fits _ _ ih =>
      obtain ⟨typed,rest,rfl,rfl,later⟩ := List.map_eq_cons_iff.mp same.symm
      exact .cons (fun a refines => turn_told typed refines serve fits stale rowCount) (ih later.symm)

theorem screens_truthful {data : Nat} {fd : Int} {sel : Selector} {last : Globals} {opening events : List ControlEvent}
    {told : List Exchange} {orders : List TypedOrder} (roomy : itemsMaxSize ≤ sel.fds.length)
    (valid : invalidFd fd = false) (absent : sel.registered fd = none) (login : LogsIn data fd opening)
    (dialogue : Dialogue data fd (globalsAfter {g with metrics:=addMgmtConnection g.metrics} opening) events
      (orders.map TypedOrder.message) told last) :
    (∃ s, exec (controlStep data) (passiveCpSocketHandler data sel g fd) (opening ++ events) = some s ∧
      sentBytes s.trace = helloMsg ++ authResult true ++ told.flatMap Exchange.text ∧ s.globals = last) ∧
    ∀ stack stale rowCount, List.Forall₂ (Truthful stack stale rowCount) orders told := by
  obtain ⟨s,_,ran,_,_,final,sent,_⟩ := session_run roomy valid absent login dialogue
  exact ⟨⟨s,ran,sent,final⟩,fun stack stale rowCount => dialogue_truthful dialogue rfl stale rowCount⟩

-- A user is added, with some blanks too many, and the counters are asked for.
def addsAl : TypedOrder where
  order := .add (ascii "al") (ascii "pw")
  line := ascii "  adduser al   pw \n"
  sane := ⟨by decide +kernel,by decide +kernel,by decide,by decide +kernel⟩
  short := by decide +kernel
  typed := ⟨_,.cons 2 _ (by decide +kernel) (.cons 1 _ (by decide +kernel)
    (.cons 3 _ (by decide +kernel) (.nil 1) (.inr rfl)) (.inr rfl)) (.inr rfl),by decide +kernel⟩

def asksMetrics : TypedOrder where
  order := .metrics
  line := ascii "metrics\n"
  sane := trivial
  short := by decide +kernel
  typed := ⟨_,.cons 0 _ (by decide +kernel) (.nil 0) (.inl rfl),by decide +kernel⟩

def alAdded : Globals := ⟨(addUser .empty (ascii "al") (ascii "pw")).2,true,addMgmtConnection .start⟩

def countersAnswer : List UInt8 :=
  [statusSuccess,2] ++ metricsCsvTitle ++ metricsRow (addMgmtConnection .start) ++ [newline,0]

theorem al_added_truthfully : ∃ told, (∃ s, exec (controlStep 3) (passiveCpSocketHandler 3 mainSelector ⟨.empty,true,.start⟩ 7)
      (adminOpens ++ ([adminTypes addsAl.message.bytes] ++ [adminTakes 9,adminTakes 0] ++
        ([adminTypes asksMetrics.message.bytes] ++ [adminTakes 999,adminTakes 0] ++ []))) = some s ∧
      sentBytes s.trace = helloMsg ++ authResult true ++ told.flatMap Exchange.text ∧ s.globals = alAdded) ∧
    told.length = 2 ∧ ∀ stack stale rowCount, List.Forall₂ (Truthful stack stale rowCount) [addsAl,asksMetrics] told := by
  have login : LogsIn 3 7 adminOpens := .admitted [] _ _ _ _ _ (by simp)
    (.all 3 [adminTakes 4] _ rfl (by decide) (.send (by decide) rfl (by decide) .taken))
    (gives_whole (by decide) rfl)
    (.all 5 [] _ rfl (by decide) .taken)
  have metrics := @Dialogue.command 3 7 alAdded alAdded _ asksMetrics.message countersAnswer ⟨.closed,.sent 999,true,[],4⟩
    [adminTypes asksMetrics.message.bytes] [adminTakes 999,adminTakes 0] [] _ _ (gives_whole (by decide) rfl) rfl (by decide +kernel)
    (.all 999 [] _ rfl (by decide) .taken) (.idle (by simp))
  have dialogue := @Dialogue.command 3 7 ⟨.empty,true,addMgmtConnection .start⟩ alAdded _ addsAl.message
    [statusSuccess,0,newline] ⟨.closed,.sent 9,true,[],4⟩ [adminTypes addsAl.message.bytes] [adminTakes 9,adminTakes 0] _ _ _
    (gives_whole (by decide) rfl) rfl (by decide) (.all 9 [] _ rfl (by decide) .taken) metrics
  have both := @screens_truthful ⟨.empty,true,.start⟩ 3 7 mainSelector _ _ _ _ [addsAl,asksMetrics] (by decide +kernel) rfl
    (by decide +kernel) login dialogue
  exact ⟨_,both.1,rfl,both.2⟩

end Socks5d.ControlProtocol
