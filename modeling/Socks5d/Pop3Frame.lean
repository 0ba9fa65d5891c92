import Socks5d.Pop3Sniffer

namespace Socks5d
open Scan

-- data <= read <= write <= limit, and nothing else: a drained buffer need not start over.
structure Buffer.Ordered (b : Buffer) : Prop where
  sized : b.mem.length = b.limit
  ordered : b.read ≤ b.write
  bounded : b.write ≤ b.limit

-- The accesses of the parser with their bounds. A command string has its terminator
-- at the index past its last character.
def lookupCmd (cmd : List UInt8) (i : Nat) : Option UInt8 := (cmd++[0])[i]?

def storeArgument (array : List UInt8) (i : Nat) (c : UInt8) : Option (List UInt8) :=
  if i < argumentLength then some (array.set i c) else none

def checkedCommand (cmd : List UInt8) (stay matched : Pop3State) (parser : Pop3Parser) (c : UInt8) :
    Option Pop3Parser := do
  let expected ← lookupCmd cmd parser.readPtr
  if toUpper c = expected then
    let parser := {parser with readPtr:=parser.readPtr+1}
    let next ← lookupCmd cmd parser.readPtr
    if next = 0 then some {parser with readPtr:=0,state:=matched} else some {parser with state:=stay}
  else some {parser with state:=handleError parser}

def checkedUserCmd : Pop3Parser → UInt8 → Option Pop3Parser := checkedCommand pop3UserCmd .userCmd .user
def checkedPassCmd : Pop3Parser → UInt8 → Option Pop3Parser := checkedCommand pop3PassCmd .passCmd .pass

def checkedUser (parser : Pop3Parser) (c : UInt8) : Option Pop3Parser :=
  if parser.writePtr+1 = argumentLength then some {parser with state:=.error}
  else if c = newline then do
    let user ← storeArgument parser.user parser.writePtr 0
    some {parser with user:=user,writePtr:=0,userDone:=true,state:=.passCmd}
  else do
    let user ← storeArgument parser.user parser.writePtr c
    some {parser with user:=user,writePtr:=parser.writePtr+1,state:=.user}

def checkedPass (parser : Pop3Parser) (c : UInt8) : Option Pop3Parser :=
  if parser.writePtr+1 = argumentLength then some {parser with state:=.error}
  else if c = newline then do
    let pass ← storeArgument parser.pass parser.writePtr 0
    some {parser with pass:=pass,writePtr:=0,state:=.done}
  else do
    let pass ← storeArgument parser.pass parser.writePtr c
    some {parser with pass:=pass,writePtr:=parser.writePtr+1,state:=.pass}

def checkedByte (parser : Pop3Parser) (c : UInt8) : Option Pop3Parser :=
  match parser.state with
  | .userCmd => checkedUserCmd parser c
  | .user => checkedUser parser c
  | .passCmd => checkedPassCmd parser c
  | .pass => checkedPass parser c
  | .error => some {parser with state:=handleError parser}
  | .done => some parser

-- pop3_parse_char on plain pointers. `none` is a failed assertion, an access outside its
-- array, or a loop that still turns after `fuel` turns.
def pop3Walk : Nat → Pop3Parser → Buffer → Option (Pop3Parser × Buffer)
  | 0,_,_ => none
  | fuel+1,parser,buff =>
    if bufferCanRead buff && decide (parser.state ≠ .done) then do
      let (c,rest) ← bufferRead buff
      let next ← checkedByte parser c
      pop3Walk fuel next rest
    else some (parser,buff)

-- pop3_parse walks a copy of the header, so the relay sees only what becomes of the block.
def pop3ParseShared (fuel : Nat) (parser : Pop3Parser) (buff : Buffer) : Option (Pop3State × Pop3Parser × Buffer) := do
  let (parsed,copy) ← pop3Walk fuel parser buff
  some (parsed.state,if parsed.state = .done then pop3ParserInit parsed else parsed,{buff with mem:=copy.mem})

inductive Pop3Reached : Pop3Parser → Prop where
  | init : prior.user.length = argumentLength → prior.pass.length = argumentLength → Pop3Reached (pop3ParserInit prior)
  | parsed : Pop3Reached parser → buff.Ordered → buff.write - buff.read < fuel →
      pop3ParseShared fuel parser buff = some (state,next,rest) → Pop3Reached next

def Terminated (array : List UInt8) : Prop := ∃ i < argumentLength, array[i]? = some 0

structure Pop3Parser.Framed (parser : Pop3Parser) : Prop where
  userSize : parser.user.length = argumentLength
  passSize : parser.pass.length = argumentLength
  readPtr : parser.readPtr < 5
  writePtr : parser.writePtr < argumentLength
  named : parser.userDone = true → Terminated parser.user
  turn : match parser.state with
    | .userCmd | .user => parser.userDone = false
    | .passCmd | .pass => parser.userDone = true
    | .error => True
    | .done => parser.userDone = true ∧ Terminated parser.pass

variable {b : Buffer} {parser next prior : Pop3Parser} {cmd array : List UInt8} {stay matched : Pop3State} {c : UInt8}
  {i fuel : Nat}

theorem certified_ordered (q : CertifiedBuffer) : q.raw.Ordered := ⟨q.valid.sized,q.valid.ordered,q.valid.bounded⟩

theorem bufferRead_ordered (ordered : b.Ordered) (readable : bufferCanRead b = true) :
    ∃ c rest, bufferRead b = some (c,rest) ∧ rest.Ordered ∧ rest.mem = b.mem ∧ b.unread = c::rest.unread := by
  obtain ⟨sized,_,bounded⟩ := ordered
  have some_ : b.read < b.write := by
    have positive := of_decide_eq_true readable
    omega
  have front : b.unread = b.mem.getD b.read 0::(b.mem.take b.write).drop (b.read+1) := by
    have inside : b.read < (b.mem.take b.write).length := by
      rw [List.length_take]
      omega
    rw [Buffer.unread,List.drop_eq_getElem_cons inside,List.getElem_take,List.getD_eq_getElem?_getD,
      List.getElem?_eq_getElem (by omega)]
    rfl
  have moved : bufferReadAdv b 1 = some (if b.read+1 = b.write then bufferCompact {b with read:=b.read+1}
      else {b with read:=b.read+1}) := by
    have inside : b.read + 1 ≤ b.write := some_
    rw [bufferReadAdv,if_pos (by decide)]
    exact if_pos inside
  refine ⟨b.mem.getD b.read 0,if b.read+1 = b.write then bufferCompact {b with read:=b.read+1}
    else {b with read:=b.read+1},?_,?_⟩
  · rw [bufferRead,if_pos readable,moved]
    rfl
  · split
    · rename_i empty
      have compacted : bufferCompact {b with read:=b.read+1} = {b with read:=0,write:=0} := by
        rw [bufferCompact,if_neg (Nat.succ_ne_zero _)]
        exact if_pos empty
      rw [compacted]
      refine ⟨⟨sized,Nat.le_refl _,Nat.zero_le _⟩,rfl,front.trans ?_⟩
      rw [empty,List.drop_of_length_le (by rw [List.length_take]; omega)]
      rfl
    · exact ⟨⟨sized,some_,bounded⟩,rfl,front⟩

def parseCommand (cmd : List UInt8) (stay matched : Pop3State) (parser : Pop3Parser) (c : UInt8) : Pop3Parser :=
  if toUpper c = cmd.getD parser.readPtr 0 then
    let parser := {parser with readPtr:=parser.readPtr+1}
    if cmd.getD parser.readPtr 0 = 0 then {parser with readPtr:=0,state:=matched} else {parser with state:=stay}
  else {parser with state:=handleError parser}

theorem parseUserCmd_command : parseUserCmd = parseCommand pop3UserCmd .userCmd .user := rfl
theorem parsePassCmd_command : parsePassCmd = parseCommand pop3PassCmd .passCmd .pass := rfl

theorem lookup_inside (size : cmd.length = 5) (inside : i ≤ 5) : lookupCmd cmd i = some (cmd.getD i 0) := by
  rw [lookupCmd,List.getD_eq_getElem?_getD]
  rcases Nat.lt_or_ge i cmd.length with before | past
  · rw [List.getElem?_append_left before,List.getElem?_eq_getElem before]
    rfl
  · have last : i = 5 := by omega
    rw [List.getElem?_append_right past,List.getElem?_eq_none past,size,last]
    rfl

theorem checkedCommand_exact (size : cmd.length = 5) (small : parser.readPtr < 5) :
    checkedCommand cmd stay matched parser c = some (parseCommand cmd stay matched parser c) := by
  unfold checkedCommand parseCommand
  rw [lookup_inside size (Nat.le_of_lt small)]
  dsimp only [Option.bind_eq_bind,Option.bind_some]
  split
  · rw [lookup_inside size small]
    dsimp only [Option.bind_some]
    split
    · rfl
    · rfl
  · rfl

theorem storeArgument_inside (small : i < argumentLength) : storeArgument array i c = some (array.set i c) := if_pos small

-- Within the frame every access is inside its array, so the checks change nothing.
theorem checkedByte_exact (framed : parser.Framed) : checkedByte parser c = some (pop3ParseByte parser c) := by
  unfold checkedByte pop3ParseByte
  cases parser.state with
  | userCmd => exact checkedCommand_exact rfl framed.readPtr
  | passCmd => exact checkedCommand_exact rfl framed.readPtr
  | user =>
      simp only [checkedUser,parseUser,storeArgument_inside framed.writePtr,Option.bind_eq_bind,Option.bind_some]
      split
      · rfl
      · split
        · rfl
        · rfl
  | pass =>
      simp only [checkedPass,parsePass,storeArgument_inside framed.writePtr,Option.bind_eq_bind,Option.bind_some]
      split
      · rfl
      · split
        · rfl
        · rfl
  | error => rfl
  | done => rfl

structure CommandText (cmd : List UInt8) : Prop where
  size : cmd.length = 5
  plain : ∀ i < 5, cmd.getD i 0 ≠ 0

theorem userCmd_text : CommandText pop3UserCmd := ⟨rfl,by decide⟩
theorem passCmd_text : CommandText pop3PassCmd := ⟨rfl,by decide⟩

theorem parseCommand_cases (text : CommandText cmd) (small : parser.readPtr < 5) :
    (parser.readPtr = 4 ∧ toUpper c = cmd.getD parser.readPtr 0 ∧
      parseCommand cmd stay matched parser c = {parser with readPtr:=0,state:=matched}) ∨
    (parser.readPtr+1 < 5 ∧ toUpper c = cmd.getD parser.readPtr 0 ∧
      parseCommand cmd stay matched parser c = {parser with readPtr:=parser.readPtr+1,state:=stay}) ∨
    (toUpper c ≠ cmd.getD parser.readPtr 0 ∧
      parseCommand cmd stay matched parser c = {parser with state:=handleError parser}) := by
  unfold parseCommand
  by_cases same : toUpper c = cmd.getD parser.readPtr 0
  · rw [if_pos same]
    dsimp only
    by_cases last : parser.readPtr + 1 = 5
    · have ends : cmd.getD (parser.readPtr+1) 0 = 0 := by
        rw [last,List.getD_eq_getElem?_getD,List.getElem?_eq_none (Nat.le_of_eq text.size)]
        rfl
      exact .inl ⟨by omega,same,if_pos ends⟩
    · have inside : parser.readPtr + 1 < 5 := by omega
      exact .inr (.inl ⟨inside,same,if_neg (text.plain _ inside)⟩)
  · exact .inr (.inr ⟨same,if_neg same⟩)

theorem handleError_cases (parser : Pop3Parser) :
    (parser.userDone = true ∧ handleError parser = .passCmd) ∨ (parser.userDone = false ∧ handleError parser = .userCmd) := by
  unfold handleError
  cases parser.userDone with
  | true => exact .inl ⟨rfl,rfl⟩
  | false => exact .inr ⟨rfl,rfl⟩

theorem handleError_framed (framed : parser.Framed) : ({parser with state:=handleError parser} : Pop3Parser).Framed := by
  obtain ⟨userSize,passSize,readPtr,writePtr,named,_⟩ := framed
  refine ⟨userSize,passSize,readPtr,writePtr,named,?_⟩
  rcases handleError_cases parser with ⟨done,next⟩ | ⟨open_,next⟩
  · rw [next]
    exact done
  · rw [next]
    exact open_

theorem parseCommand_framed (text : CommandText cmd) (framed : parser.Framed)
    (turn : (stay = .userCmd ∧ matched = .user ∧ parser.userDone = false) ∨
      (stay = .passCmd ∧ matched = .pass ∧ parser.userDone = true)) :
    (parseCommand cmd stay matched parser c).Framed := by
  have wrong := handleError_framed framed
  obtain ⟨userSize,passSize,readPtr,writePtr,named,_⟩ := framed
  rcases @parseCommand_cases parser cmd stay matched c text readPtr with ⟨_,_,out⟩ | ⟨further,_,out⟩ | ⟨_,out⟩
  · rw [out]
    refine ⟨userSize,passSize,Nat.zero_lt_succ _,writePtr,named,?_⟩
    rcases turn with ⟨_,rfl,open_⟩ | ⟨_,rfl,done⟩
    · exact open_
    · exact done
  · rw [out]
    refine ⟨userSize,passSize,further,writePtr,named,?_⟩
    rcases turn with ⟨rfl,_,open_⟩ | ⟨rfl,_,done⟩
    · exact open_
    · exact done
  · rw [out]
    exact wrong

theorem set_terminated (size : array.length = argumentLength) (small : i < argumentLength) : Terminated (array.set i 0) :=
  ⟨i,small,by rw [List.getElem?_set_self (by omega)]⟩

theorem parseUser_framed (framed : parser.Framed) (state : parser.state = .user) : (parseUser parser c).Framed := by
  obtain ⟨userSize,passSize,readPtr,writePtr,named,turn⟩ := framed
  rw [state] at turn
  unfold parseUser
  split
  · exact ⟨userSize,passSize,readPtr,writePtr,named,trivial⟩
  · rename_i short
    split
    · have ends := set_terminated userSize writePtr
      exact ⟨List.length_set.trans userSize,passSize,readPtr,Nat.zero_lt_succ _,fun _ => ends,rfl⟩
    · refine ⟨List.length_set.trans userSize,passSize,readPtr,by dsimp only; omega,?_,turn⟩
      intro done
      rw [show parser.userDone = false from turn] at done
      cases done

theorem parsePass_framed (framed : parser.Framed) (state : parser.state = .pass) : (parsePass parser c).Framed := by
  obtain ⟨userSize,passSize,readPtr,writePtr,named,turn⟩ := framed
  rw [state] at turn
  unfold parsePass
  split
  · exact ⟨userSize,passSize,readPtr,writePtr,named,trivial⟩
  · rename_i short
    split
    · have ends := set_terminated passSize writePtr
      exact ⟨userSize,List.length_set.trans passSize,readPtr,Nat.zero_lt_succ _,named,turn,ends⟩
    · exact ⟨userSize,List.length_set.trans passSize,readPtr,by dsimp only; omega,named,turn⟩

theorem pop3ParseByte_framed (framed : parser.Framed) : (pop3ParseByte parser c).Framed := by
  unfold pop3ParseByte
  cases state : parser.state with
  | userCmd =>
      have turn := framed.turn
      rw [state] at turn
      dsimp only
      rw [parseUserCmd_command]
      exact parseCommand_framed userCmd_text framed (.inl ⟨rfl,rfl,turn⟩)
  | user => exact parseUser_framed framed state
  | passCmd =>
      have turn := framed.turn
      rw [state] at turn
      dsimp only
      rw [parsePassCmd_command]
      exact parseCommand_framed passCmd_text framed (.inr ⟨rfl,rfl,turn⟩)
  | pass => exact parsePass_framed framed state
  | error => exact handleError_framed framed
  | done => exact framed

theorem init_framed (userSize : prior.user.length = argumentLength) (passSize : prior.pass.length = argumentLength) :
    (pop3ParserInit prior).Framed :=
  ⟨userSize,passSize,Nat.zero_lt_succ _,Nat.zero_lt_succ _,fun done => (by cases done),rfl⟩

def Pop3Parser.done (parser : Pop3Parser) : Bool := decide (parser.state = .done)

theorem ordered_length (ordered : b.Ordered) : b.unread.length = b.write - b.read := by
  obtain ⟨sized,_,bounded⟩ := ordered
  rw [Buffer.unread,List.length_drop,List.length_take,Nat.min_eq_left (by omega)]

theorem walk_stops (stopped : parser.state = .done ∨ b.unread = []) (ordered : b.Ordered) :
    pop3Walk (fuel+1) parser b = some (parser,b) := by
  have out : (bufferCanRead b && decide (parser.state ≠ .done)) = false := by
    rcases stopped with done | empty
    · rw [done]
      exact Bool.and_false _
    · have none_ := ordered_length ordered
      rw [empty] at none_
      have zero : b.write - b.read = 0 := none_.symm
      rw [bufferCanRead,zero]
      rfl
  rw [pop3Walk,out]
  rfl

theorem pop3Walk_exact (framed : parser.Framed) (ordered : b.Ordered) (awake : parser.state ≠ .done)
    (turns : b.unread.length < fuel) :
    (scan pop3ParseByte Pop3Parser.done parser b.unread).1.Framed ∧
    ∃ copy, pop3Walk fuel parser b = some ((scan pop3ParseByte Pop3Parser.done parser b.unread).1,copy) ∧
      copy.mem = b.mem := by
  induction fuel generalizing parser b with
  | zero => exact absurd turns (Nat.not_lt_zero _)
  | succ fuel ih =>
      cases readable : bufferCanRead b with
      | false =>
          have none_ : b.unread = [] := by
            have short := of_decide_eq_false readable
            have size := ordered_length ordered
            exact List.length_eq_zero_iff.mp (by omega)
          rw [none_]
          exact ⟨framed,b,walk_stops (.inr none_) ordered,rfl⟩
      | true =>
          obtain ⟨c,rest,read,left,kept,front⟩ := bufferRead_ordered ordered readable
          have turn : pop3Walk (fuel+1) parser b = pop3Walk fuel (pop3ParseByte parser c) rest := by
            rw [pop3Walk,readable,decide_eq_true awake,read]
            simp only [Bool.and_true,if_true,Option.bind_eq_bind,Option.bind_some,checkedByte_exact framed]
          rw [front,List.length_cons] at turns
          have next := @pop3ParseByte_framed parser c framed
          rw [turn,front,scan]
          by_cases done : (pop3ParseByte parser c).state = .done
          · rw [if_pos (show (pop3ParseByte parser c).done = true from decide_eq_true done)]
            obtain ⟨more,rfl⟩ : ∃ more, fuel = more+1 := ⟨fuel-1,by omega⟩
            exact ⟨next,rest,walk_stops (.inl done) left,kept⟩
          · rw [if_neg (by simpa [Pop3Parser.done] using done)]
            obtain ⟨lastFramed,copy,ran,same⟩ := ih next left done (by omega)
            exact ⟨lastFramed,copy,ran,same.trans kept⟩

theorem pop3ParseShared_exact (framed : parser.Framed) (ordered : b.Ordered) (awake : parser.state ≠ .done)
    (turns : b.unread.length < fuel) :
    let parsed := (scan pop3ParseByte Pop3Parser.done parser b.unread).1
    parsed.Framed ∧ pop3ParseShared fuel parser b =
      some (parsed.state,if parsed.state = .done then pop3ParserInit parsed else parsed,b) := by
  obtain ⟨last,copy,ran,kept⟩ := pop3Walk_exact framed ordered awake turns
  refine ⟨last,?_⟩
  rw [pop3ParseShared,ran]
  dsimp only [Option.bind_eq_bind,Option.bind_some]
  rw [kept]

theorem parsed_framed (framed : parser.Framed) :
    (if parser.state = .done then pop3ParserInit parser else parser).Framed ∧
    (if parser.state = .done then pop3ParserInit parser else parser).state ≠ .done := by
  split
  · exact ⟨init_framed framed.userSize framed.passSize,fun same => by cases same⟩
  · rename_i awake
    exact ⟨framed,awake⟩

theorem reached_framed (reached : Pop3Reached parser) : parser.Framed ∧ parser.state ≠ .done := by
  induction reached with
  | init userSize passSize => exact ⟨init_framed userSize passSize,fun same => by cases same⟩
  | parsed _ ordered turns ran ih =>
      obtain ⟨framed,awake⟩ := ih
      obtain ⟨last,exact_⟩ := pop3ParseShared_exact framed ordered awake (by rw [ordered_length ordered]; exact turns)
      cases exact_.symm.trans ran
      exact parsed_framed last

theorem sniffing_framed (parser : Pop3Parser) (buff : Buffer) (reached : Pop3Reached parser) (ordered : buff.Ordered) :
    ∃ state next, (∀ fuel, buff.write - buff.read < fuel → pop3ParseShared fuel parser buff = some (state,next,buff)) ∧
      Pop3Reached next ∧ (state = .done → Terminated next.user ∧ Terminated next.pass) := by
  obtain ⟨framed,awake⟩ := reached_framed reached
  have exact_ : ∀ fuel, buff.write - buff.read < fuel → _ := fun fuel turns =>
    @pop3ParseShared_exact buff parser fuel framed ordered awake (by rw [ordered_length ordered]; exact turns)
  obtain ⟨last,ran⟩ := exact_ (buff.write - buff.read + 1) (Nat.lt_succ_self _)
  refine ⟨_,_,fun fuel turns => (exact_ fuel turns).2,.parsed reached ordered (Nat.lt_succ_self _) ran,?_⟩
  intro done
  have turn := last.turn
  rw [done] at turn
  rw [if_pos done]
  exact ⟨last.named turn.1,turn.2⟩

-- A login behind a byte that has been read, and the same one cut inside the second command.
def loginBuffer : Buffer := ⟨[0x0A,0x55,0x53,0x45,0x52,0x20,0x61,0x0A,0x50,0x41,0x53,0x53,0x20,0x62,0x0A],15,1,15⟩
def cutLogin : Buffer := ⟨[0x0A,0x55,0x53,0x45,0x52,0x20,0x61,0x0A,0x50,0x41],10,1,10⟩
def loginRest : Buffer := ⟨[0x50,0x41,0x53,0x53,0x20,0x62,0x0A,0x0D],8,2,7⟩

theorem login_framed :
    (∃ next, (∀ fuel, 14 < fuel → pop3ParseShared fuel (pop3ParserInit .raw) loginBuffer = some (.done,next,loginBuffer)) ∧
      Pop3Reached next ∧ Terminated next.user ∧ Terminated next.pass) ∧
    ∃ middle next, (∀ fuel, 9 < fuel → pop3ParseShared fuel (pop3ParserInit .raw) cutLogin = some (.passCmd,middle,cutLogin)) ∧
      middle.readPtr = 2 ∧ Terminated middle.user ∧
      (∀ fuel, 5 < fuel → pop3ParseShared fuel middle loginRest = some (.done,next,loginRest)) ∧
      Pop3Reached next ∧ Terminated next.user ∧ Terminated next.pass := by
  constructor
  · obtain ⟨state,next,ran,reached,ends⟩ := sniffing_framed (pop3ParserInit .raw) loginBuffer (.init rfl rfl)
      ⟨rfl,by decide,by decide⟩
    have known : (pop3ParseShared 15 (pop3ParserInit .raw) loginBuffer).map Prod.fst = some .done := by decide +kernel
    rw [ran 15 (by decide)] at known
    obtain rfl : state = .done := Option.some.inj known
    exact ⟨next,ran,reached,ends rfl⟩
  · obtain ⟨first,middle,ran,reached,_⟩ := sniffing_framed (pop3ParserInit .raw) cutLogin (.init rfl rfl)
      ⟨rfl,by decide,by decide⟩
    obtain ⟨last,next,rest,again,ends⟩ := sniffing_framed middle loginRest reached ⟨rfl,by decide,by decide⟩
    have known : (pop3ParseShared 10 (pop3ParserInit .raw) cutLogin).bind (fun parsed =>
        (pop3ParseShared 6 parsed.2.1 loginRest).map fun second =>
          (parsed.1,parsed.2.1.readPtr,parsed.2.1.userDone,second.1)) = some (.passCmd,2,true,.done) := by
      decide +kernel
    rw [ran 10 (by decide),Option.bind_some,rest 6 (by decide)] at known
    simp only [Option.map_some,Option.some.injEq,Prod.mk.injEq] at known
    obtain ⟨rfl,pointer,named,rfl⟩ := known
    exact ⟨middle,next,ran,pointer,(reached_framed reached).1.named named,rest,again,ends rfl⟩

theorem parseChar_scan (awake : parser.state ≠ .done) (buff : CertifiedBuffer) :
    (pop3ParseChar parser buff).1 = (scan pop3ParseByte Pop3Parser.done parser buff.unread).1 ∧
    (pop3ParseChar parser buff).2.unread = (scan pop3ParseByte Pop3Parser.done parser buff.unread).2 := by
  rw [pop3ParseChar,if_neg awake]
  exact ⟨parseFull_state _ _,parseFull_unread _ _⟩

theorem pop3Parse_scan (awake : parser.state ≠ .done) (buff : CertifiedBuffer) :
    let parsed := (scan pop3ParseByte Pop3Parser.done parser buff.unread).1
    pop3Parse parser buff =
      (parsed.state,if parsed.state = .done then pop3ParserInit parsed else parsed,buff) := by
  have walked := (parseChar_scan awake buff).1
  refine Prod.ext ?_ (Prod.ext ?_ (pop3Parse_buffer parser buff))
  · change (pop3ParseChar parser buff).1.state = _
    rw [walked]
  · change (if (pop3ParseChar parser buff).1.state = .done then pop3ParserInit (pop3ParseChar parser buff).1
      else (pop3ParseChar parser buff).1) = _
    rw [walked]

theorem shared_certified (framed : parser.Framed) (awake : parser.state ≠ .done) (buff : CertifiedBuffer) :
    let parsed := pop3Parse parser buff
    pop3ParseShared (buff.unread.length+1) parser buff.raw = some (parsed.1,parsed.2.1,parsed.2.2.raw) := by
  obtain ⟨_,ran⟩ := pop3ParseShared_exact framed (certified_ordered buff) awake (Nat.lt_succ_self _)
  rw [pop3Parse_scan awake buff]
  exact ran

end Socks5d
