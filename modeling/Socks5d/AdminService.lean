import Socks5d.CommandDecoding
import Socks5d.Foundations.Lanes

namespace Socks5d.ControlProtocol
open Scan Transitions

def cpItem (data : Nat) (fd : Int) (i : FdInterest) : Item := ⟨fd,i,some .cpFd,some data⟩

-- Whatever the rest of the server does, as long as it leaves this entry as it is.
def ControlEvent.Spares (item : Item) : ControlEvent → Prop
  | .event _ _ => False
  | .elsewhere sel _ => sel.registered item.fd = some item

def globalsAfter (g : Globals) (events : List ControlEvent) : Globals := events.foldl (fun g e => match e with
  | .elsewhere _ globals => globals
  | .event _ _ => g) g

inductive Gives (reads writes : Item) : List UInt8 → List ControlEvent → Prop where
  | given : (∀ e ∈ events, e.Spares writes) → Gives reads writes [] events
  | segment {env : CpEnv} {bytes later : List UInt8} {events : List ControlEvent} : bytes ≠ [] →
      env.recv = .data bytes → Gives reads writes later events → Gives reads writes (bytes ++ later) (.event .read env::events)
  | between {e : ControlEvent} {bytes : List UInt8} {events : List ControlEvent} : bytes ≠ [] → e.Spares reads →
      Gives reads writes bytes events → Gives reads writes bytes (e::events)

inductive Takes (writes : Item) : Nat → List ControlEvent → Prop where
  | taken : Takes writes 0 []
  | send {env : CpEnv} {left count : Nat} {events : List ControlEvent} : 0 < left → env.send = .sent count →
      0 < count → Takes writes (left - count) events → Takes writes left (.event .write env::events)
  | between {e : ControlEvent} {left : Nat} {events : List ControlEvent} : e.Spares writes →
      Takes writes left events → Takes writes left (e::events)

-- A message of the server: the event that makes it and sends the first part, those that
-- send the others, and the one that finds nothing left.
inductive Fetches (writes : Item) (size : Nat) (env : CpEnv) : List ControlEvent → Prop where
  | all (count : Nat) (taking : List ControlEvent) (last : CpEnv) : env.send = .sent count → 0 < count →
      Takes writes (size - count) taking → Fetches writes size env (.event .write env::(taking ++ [.event .write last]))

def CommandMessage.parsed (message : CommandMessage) : CpCommandParser where
  currentState := .done
  code := message.code
  hasData := if message.line.isSome then 1 else 0
  data := message.line.elim [] fun text => text ++ [newline,0]
  dataSize := message.line.elim 0 fun text => text.length+1

def CommandMessage.serve (message : CommandMessage) (malloc : Bool) (g : Globals) : Option (List UInt8) × Globals :=
  (commandOf message.code).elim (none,g) fun command => command malloc g message.parsed

inductive LogsIn (data : Nat) (fd : Int) : List ControlEvent → Prop where
  | admitted (waits hello typing answer : List ControlEvent) (first second : CpEnv) :
      (∀ e ∈ waits, e.Spares (cpItem data fd opWrite)) → Fetches (cpItem data fd opWrite) helloMsg.length first hello →
      Gives (cpItem data fd opRead) (cpItem data fd opWrite) (passwordLine adminPassword) typing →
      Fetches (cpItem data fd opWrite) (authResult true).length second answer →
      LogsIn data fd (waits ++ hello ++ typing ++ answer)

structure Exchange where
  on : Globals
  after : Globals
  text : List UInt8

inductive Dialogue (data : Nat) (fd : Int) : Globals → List ControlEvent → List CommandMessage →
    List Exchange → Globals → Prop where
  | idle {g waits} : (∀ e ∈ waits, e.Spares (cpItem data fd opRead)) → Dialogue data fd g waits [] [] (globalsAfter g waits)
  | command {g after last message answer env giving fetching events messages more} :
      Gives (cpItem data fd opRead) (cpItem data fd opWrite) message.bytes giving →
      message.serve env.malloc (globalsAfter g giving) = (some answer,after) →
      (cString (answer ++ env.behind)).length ≤ bufferSize →
      Fetches (cpItem data fd opWrite) (cString (answer ++ env.behind)).length env fetching →
      Dialogue data fd (globalsAfter after fetching) events messages more last →
      Dialogue data fd g (giving ++ fetching ++ events) (message::messages)
        (⟨globalsAfter g giving,after,cString (answer ++ env.behind)⟩::more) last

variable {bytes later : List UInt8} {told : List Exchange} {env : CpEnv} {e : ControlEvent} {events waits : List ControlEvent}
  {left size count data : Nat} {fd : Int} {s next : ControlSession} {cpc after : ControlProtConn} {out : CpOutcome}
  {handler : CpStateHandler} {state : ControlProtStmState} {i : FdInterest} {got : List UInt8}
  {message : CommandMessage} {parser : CpCommandParser} {sel : Selector} {g : Globals} {malloc : Bool}
  {command : Command}

@[simp] theorem globalsAfter_append (g : Globals) (events waits : List ControlEvent) :
    globalsAfter g (events ++ waits) = globalsAfter (globalsAfter g events) waits := List.foldl_append

def CpCommandParser.SameText (parser other : CpCommandParser) : Prop :=
  parser.hasData = other.hasData ∧ (other.hasData ≠ 0 → cString parser.data = cString other.data ∧
    cString (parser.data.set (parser.dataSize - 1) 0) = cString (other.data.set (other.dataSize - 1) 0))

theorem carries_text (carries : Carries message parser) : parser.SameText message.parsed := by
  obtain ⟨_,_,line⟩ := carries
  unfold CpCommandParser.SameText CommandMessage.parsed
  cases said : message.line with
  | none =>
      rw [said] at line
      exact ⟨line,fun data => absurd rfl data⟩
  | some text =>
      rw [said] at line
      obtain ⟨data,size,rest,stored⟩ := line
      have closed : ∀ rest, (text ++ newline::0::rest).set text.length 0 = text ++ 0::0::rest := by
        intro rest
        rw [List.set_append_right _ _ (Nat.le_refl _),Nat.sub_self]
        rfl
      have ended : ∀ rest, text ++ newline::0::rest = (text ++ [newline]) ++ 0::rest := fun rest => by
        rw [List.append_assoc]
        rfl
      refine ⟨data,fun _ => ⟨?_,?_⟩⟩
      · rw [stored,ended,cString_terminated]
        exact ((congrArg cString (ended [])).trans (cString_terminated _ [])).symm
      · rw [stored,size]
        dsimp only [Option.elim_some]
        rw [Nat.add_sub_cancel,closed,closed,cString_terminated,cString_terminated]

theorem command_carried (carries : Carries message parser) (found : commandOf message.code = some command) :
    command malloc g parser = command malloc g message.parsed := by
  obtain ⟨flag,text⟩ := carries_text carries
  have given : ¬ parser.hasData = 0 → message.parsed.hasData ≠ 0 := fun data none_ => data (flag.trans none_)
  cases code : message.code with
  | noCommand => rw [code] at found; cases found
  | authentication => rw [code] at found; cases found
  | listUsers => rw [code] at found; cases found; rfl
  | getMetrics => rw [code] at found; cases found; unfold getMetrics; rw [flag]
  | dissectorOn => rw [code] at found; cases found; unfold turnOnPassDissectors switchPassDissectors; rw [flag]
  | dissectorOff => rw [code] at found; cases found; unfold turnOffPassDissectors switchPassDissectors; rw [flag]
  | addUser =>
      rw [code] at found
      cases found
      unfold addProxyUser
      by_cases empty : parser.hasData = 0
      · rw [if_pos empty,if_pos (flag.symm.trans empty)]
      · rw [if_neg empty,if_neg (given empty),(text (given empty)).1]
  | remUser =>
      rw [code] at found
      cases found
      unfold removeProxyUser
      by_cases empty : parser.hasData = 0
      · rw [if_pos empty,if_pos (flag.symm.trans empty)]
      · rw [if_neg empty,if_neg (given empty),(text (given empty)).2]
  | changePass =>
      rw [code] at found
      cases found
      unfold changePassword
      by_cases empty : parser.hasData = 0
      · rw [if_pos empty,if_pos (flag.symm.trans empty)]
      · rw [if_neg empty,if_neg (given empty),(text (given empty)).1]

structure Waits (item : Item) (cpc : ControlProtConn) (s : ControlSession) : Prop where
  live : s.cpc = some cpc
  own : cpc.fd = item.fd
  entry : s.sel.registered item.fd = some item

theorem waits_own (held : Waits (cpItem data fd i) cpc s) : ownEntry data cpc s.sel = some (cpItem data fd i) := by
  have entry := held.entry
  have own : cpc.fd = fd := held.own
  rw [ownEntry,own]
  rw [show (cpItem data fd i).fd = fd from rfl] at entry
  rw [entry]
  simp [cpItem]

theorem between_step (held : Waits (cpItem data fd i) cpc s) (spared : e.Spares (cpItem data fd i)) :
    ∃ next, controlStep data s e = some next ∧ Waits (cpItem data fd i) cpc next ∧ next.trace = s.trace ∧
      next.globals = globalsAfter s.globals [e] := by
  cases e with
  | event kind env => exact absurd spared id
  | elsewhere sel globals =>
      have own : Waits (cpItem data fd i) cpc {s with sel:=sel,globals:=globals} := ⟨held.live,held.own,spared⟩
      have same : s.spares data sel = true := by
        rw [ControlSession.spares,held.live,Option.all_some,Bool.or_eq_true,decide_eq_true_eq,decide_eq_true_eq]
        exact .inr ((waits_own own).trans (waits_own held).symm)
      exact ⟨_,if_pos same,own,rfl,rfl⟩

theorem between_run (held : Waits (cpItem data fd i) cpc s) (spared : ∀ e ∈ waits, e.Spares (cpItem data fd i)) :
    ∃ next, exec (controlStep data) s waits = some next ∧ Waits (cpItem data fd i) cpc next ∧ next.trace = s.trace ∧
      next.globals = globalsAfter s.globals waits := by
  induction waits generalizing s with
  | nil => exact ⟨s,rfl,held,rfl,rfl⟩
  | cons e waits ih =>
      obtain ⟨middle,ran,kept,trace,globals⟩ := between_step held (spared e List.mem_cons_self)
      obtain ⟨next,rest,last,traces,later⟩ := ih kept fun e member => spared e (List.mem_cons_of_mem _ member)
      refine ⟨next,?_,last,traces.trans trace,?_⟩
      · rw [exec,ran]
        exact rest
      · rw [later,globals]
        rfl

abbrev ControlProtConn.owing (cpc : ControlProtConn) (buff : CertifiedBuffer) : ControlProtConn :=
  {cpc with writeBuffer:=buff}

theorem fill_empty {buff : CertifiedBuffer} (empty : buff.unread = []) (fits : bytes.length ≤ buff.capacity) :
    (buff.fill bytes).unread = bytes := by
  rw [CertifiedBuffer.fill_unread,empty,List.nil_append,buff.empty_space empty,List.take_of_length_le fits]

theorem flush_takes (send : cpc.writeBuffer.unread = [] ∨ env.send = .sent count ∧ 0 < count) (called : List CpEffect) :
    ∃ buff more,
      cpFlush env sel g cpc called = ⟨sel,g,some (cpc.owing buff),called ++ more⟩ ∧
      buff.unread = cpc.writeBuffer.unread.drop count ∧ buff.capacity = cpc.writeBuffer.capacity ∧
      sentBytes more = cpc.writeBuffer.unread.take count ∧ commandRuns more = [] := by
  unfold cpFlush
  by_cases empty : cpc.writeBuffer.unread = []
  · rw [if_neg (by simpa using cpc.writeBuffer.canRead_false.mpr empty)]
    exact ⟨cpc.writeBuffer,[],by rw [List.append_nil],by rw [empty,List.drop_nil],rfl,by rw [empty,List.take_nil]; rfl,rfl⟩
  · obtain ⟨gave,positive⟩ := send.resolve_left empty
    have sends : env.send.bytes cpc.writeBuffer = cpc.writeBuffer.unread.take count := by rw [gave]; rfl
    have taken : cpc.writeBuffer.unread.take count ≠ [] := by
      rw [ne_eq,List.take_eq_nil_iff,not_or]
      exact ⟨by omega,empty⟩
    rw [if_pos (cpc.writeBuffer.canRead_unread.mpr empty)]
    dsimp only
    rw [sends,if_neg taken]
    refine ⟨_,[.send (cpc.writeBuffer.unread.take count)],rfl,?_,CertifiedBuffer.consume_capacity _ _,
      List.append_nil _,rfl⟩
    rw [CertifiedBuffer.consume_unread,List.length_take]
    rcases Nat.le_total count cpc.writeBuffer.unread.length with short | long
    · rw [Nat.min_eq_left short]
    · rw [Nat.min_eq_right long,List.drop_length,List.drop_of_length_le long]

theorem write_step (held : Waits (cpItem data fd opWrite) cpc s) (found : cpStateHandler .write cpc.current = some handler)
    (ran : handler env ⟨cpc.fd,data⟩ s.sel s.globals (cpc.handed cpc.readBuffer) = out) (kept : out.cpc = some after)
    (going : out.next ≠ .error) (send : after.writeBuffer.unread = [] ∨ env.send = .sent count ∧ 0 < count) :
    ∃ buff more, controlStep data s (.event .write env) = some ⟨out.sel,out.globals,
        some ((after.jumped out.next).owing buff),s.trace ++ (out.effects ++ entering cpc.current out.next ++ more)⟩ ∧
      buff.unread = after.writeBuffer.unread.drop count ∧ buff.capacity = after.writeBuffer.capacity ∧
      sentBytes more = after.writeBuffer.unread.take count ∧ commandRuns more = [] := by
  have handled : cpStmHandler .write env ⟨cpc.fd,data⟩ s.sel s.globals cpc = some (cpJumped cpc.current out) := by
    rw [cpStmHandler,found,Option.bind_some,← cpJump_kept (by rw [kept]; rfl),← ran]
  obtain ⟨buff,more,flushed,taken⟩ := @flush_takes env count (after.jumped out.next) out.sel out.globals send
    (out.effects ++ entering cpc.current out.next)
  refine ⟨buff,more,?_,taken⟩
  rw [controlStep,held.live,Option.bind_some,waits_own held,if_pos (by rfl)]
  dsimp only [cpEvent,cpWriteHandler]
  rw [handled,Option.map_some,cpJumped,kept,Option.map_some,Option.map_some]
  dsimp only
  rw [if_neg going]
  exact congrArg (fun served => some (s.served [] served)) flushed

theorem read_step (held : Waits (cpItem data fd opRead) cpc s) (empty : cpc.readBuffer.unread = [])
    (some_ : bytes ≠ []) (fits : bytes.length ≤ cpc.readBuffer.capacity) (recv : env.recv = .data bytes)
    (found : cpStateHandler .read cpc.current = some handler)
    (ran : handler env ⟨cpc.fd,data⟩ s.sel s.globals (cpc.handed (cpc.readBuffer.fill bytes)) = out)
    (kept : out.cpc.isSome = true) :
    controlStep data s (.event .read env) = some ⟨out.sel,out.globals,out.cpc.map (ControlProtConn.jumped out.next),
      s.trace ++ ([.recv (.data bytes)] ++ (out.effects ++ entering cpc.current out.next))⟩ := by
  have space := cpc.readBuffer.empty_space empty
  have room : 0 < cpc.readBuffer.space := by
    have length := List.length_pos_iff.mpr some_
    omega
  have got : env.recv.clip cpc.readBuffer.space = .data bytes := by
    rw [recv,Recv.clip,List.take_of_length_le (by omega),if_neg some_]
  have handled : cpStmHandler .read env ⟨cpc.fd,data⟩ s.sel s.globals {cpc with readBuffer:=cpc.readBuffer.fill bytes} =
      some (cpJumped cpc.current out) := by
    rw [cpStmHandler]
    change (cpStateHandler .read cpc.current).bind _ = _
    rw [found,Option.bind_some,← @cpJump_kept env.freed cpc.current out kept,← ran]
    rfl
  rw [controlStep,held.live,Option.bind_some,waits_own held,if_pos (by rfl)]
  dsimp only [cpEvent,cpReadHandler]
  rw [if_pos (cpc.readBuffer.canWrite_space.mpr room),got]
  dsimp only
  rw [handled]
  rfl

def ControlProtConn.replied (cpc : ControlProtConn) : ControlProtStmState → Bool
  | .hello => cpc.helloWritten
  | .auth => cpc.authAnsWritten
  | .execute => cpc.execAnsWritten
  | _ => false

def ControlProtConn.resumed (cpc : ControlProtConn) : ControlProtStmState → ControlProtConn
  | .execute => {cpc with execAnsWritten:=false,interests:=opRead,execAnswer:=none}
  | _ => {cpc with interests:=opRead}

def ControlProtStmState.behind : ControlProtStmState → ControlProtStmState
  | .hello => .auth
  | _ => .execute

theorem replied_handler (replied : cpc.replied state = true) : ∃ handler, cpStateHandler .write state = some handler ∧
    state ≠ .error ∧ ∀ env key sel g,
    (cpc.writeBuffer.unread ≠ [] → handler env key sel g cpc = ⟨sel,g,some cpc,[],state⟩) ∧
    (cpc.writeBuffer.unread = [] → handler env key sel g cpc =
      ⟨(selectorSetInterest sel key.fd opRead).2,g,some (cpc.resumed state),[],state.behind⟩) := by
  have readable := cpc.writeBuffer.canRead_unread
  have empty := cpc.writeBuffer.canRead_false
  cases state with
  | hello =>
      have written : cpc.helloWritten = true := replied
      refine ⟨helloWrite,rfl,by decide,fun env key sel g => ⟨fun more => ?_,fun none_ => ?_⟩⟩
      · unfold helloWrite
        rw [written,readable.mpr more]
        rfl
      · exact if_pos (by rw [written,empty.mpr none_]; rfl)
  | auth =>
      have written : cpc.authAnsWritten = true := replied
      refine ⟨authWrite,rfl,by decide,fun env key sel g => ⟨fun more => ?_,fun none_ => ?_⟩⟩
      · unfold authWrite
        rw [written,readable.mpr more]
        rfl
      · exact if_pos (by rw [written,empty.mpr none_]; rfl)
  | execute =>
      have written : cpc.execAnsWritten = true := replied
      refine ⟨executeWrite,rfl,by decide,fun env key sel g => ⟨fun more => ?_,fun none_ => ?_⟩⟩
      · unfold executeWrite
        rw [written,readable.mpr more]
        rfl
      · exact if_pos (by rw [written,empty.mpr none_]; rfl)
  | ok => cases replied
  | error => cases replied

structure Sending (data : Nat) (fd : Int) (state : ControlProtStmState) (cpc : ControlProtConn) (s : ControlSession) :
    Prop where
  held : Waits (cpItem data fd opWrite) cpc s
  machine : cpc.connStm = some state
  same : cpc.currentState = state
  replied : cpc.replied state = true

theorem handed_same (machine : cpc.connStm = some state) : cpc.handed cpc.readBuffer = cpc := by
  obtain ⟨_,_,_,_,connStm,_⟩ := cpc
  cases machine
  rfl

theorem current_state (machine : cpc.connStm = some state) : cpc.current = state := by
  rw [ControlProtConn.current,machine]
  rfl

theorem sending_step (sending : Sending data fd state cpc s) (more : cpc.writeBuffer.unread ≠ [])
    (send : env.send = .sent count) (some_ : 0 < count) : ∃ next buff sent,
      controlStep data s (.event .write env) = some next ∧ Sending data fd state (cpc.owing buff) next ∧
      buff.unread = cpc.writeBuffer.unread.drop count ∧ buff.capacity = cpc.writeBuffer.capacity ∧
      next.globals = s.globals ∧ next.trace = s.trace ++ sent ∧
      sentBytes sent = cpc.writeBuffer.unread.take count ∧ commandRuns sent = [] := by
  obtain ⟨held,machine,same,replied⟩ := sending
  obtain ⟨handler,found,sound,does⟩ := replied_handler replied
  have current := current_state machine
  have jumped : cpc.jumped state = cpc := by
    rw [ControlProtConn.jumped,← machine,← same]
  have ran : handler env ⟨cpc.fd,data⟩ s.sel s.globals (cpc.handed cpc.readBuffer) =
      ⟨s.sel,s.globals,some cpc,[],state⟩ := by
    rw [handed_same machine]
    exact (does env _ _ _).1 more
  obtain ⟨buff,sent,step,rest,room,bytes,calm⟩ := write_step held (by rw [current]; exact found) ran rfl sound
    (.inr ⟨send,some_⟩)
  rw [jumped] at step
  refine ⟨_,buff,_,step,⟨⟨rfl,held.own,held.entry⟩,machine,same,?_⟩,rest,room,rfl,rfl,?_,?_⟩
  · cases state with
    | hello => exact replied
    | auth => exact replied
    | execute => exact replied
    | ok => cases replied
    | error => cases replied
  · rw [sentBytes_append,bytes,current,entering_same]
    rfl
  · rw [commandRuns_append,calm,current,entering_same]
    rfl

-- All the sends of a message, by induction on what is left of it.
theorem sending_run (sending : Sending data fd state cpc s) (takes : Takes (cpItem data fd opWrite) left events)
    (owed : cpc.writeBuffer.unread.length = left) : ∃ next buff sent, exec (controlStep data) s events = some next ∧
      Sending data fd state (cpc.owing buff) next ∧ buff.unread = [] ∧
      buff.capacity = cpc.writeBuffer.capacity ∧ next.globals = globalsAfter s.globals events ∧
      next.trace = s.trace ++ sent ∧ sentBytes sent = cpc.writeBuffer.unread ∧ commandRuns sent = [] := by
  induction takes generalizing s cpc with
  | taken =>
      have empty := List.eq_nil_of_length_eq_zero owed
      exact ⟨s,cpc.writeBuffer,[],rfl,sending,empty,rfl,rfl,(List.append_nil _).symm,empty.symm,rfl⟩
  | send more send some_ _ ih =>
      have unsent : cpc.writeBuffer.unread ≠ [] := by
        rintro none_
        rw [none_] at owed
        simp at owed
        omega
      obtain ⟨middle,buff,sent,step,still,rest,room,globals,trace,bytes,calm⟩ := sending_step sending unsent send some_
      obtain ⟨next,last,later,run,done,empty,capacity,final,traces,others,quiet⟩ := ih still
        (by rw [← owed]; simp [rest])
      refine ⟨next,last,sent ++ later,?_,done,empty,capacity.trans room,?_,?_,?_,?_⟩
      · rw [exec,step]
        exact run
      · rw [final,globals]
        rfl
      · rw [traces,trace,List.append_assoc]
      · rw [sentBytes_append,bytes,others]
        dsimp only
        rw [rest,List.take_append_drop]
      · rw [commandRuns_append,calm,quiet]
        rfl
  | between spared _ ih =>
      obtain ⟨middle,step,held,trace,globals⟩ := between_step sending.held spared
      obtain ⟨next,last,later,run,done,empty,capacity,final,traces,others,quiet⟩ := ih
        ⟨held,sending.machine,sending.same,sending.replied⟩ owed
      refine ⟨next,last,later,?_,done,empty,capacity,?_,by rw [traces,trace],others,quiet⟩
      · rw [exec,step]
        exact run
      · rw [final,globals]
        rfl

theorem asked_entry {sel : Selector} (entry : sel.registered fd = some (cpItem data fd i)) (other : FdInterest) :
    (selectorSetInterest sel fd other).2.registered fd = some (cpItem data fd other) := by
  rw [(setInterest_found entry other).2 fd,if_pos rfl]
  rfl

theorem resumed_step (sending : Sending data fd state cpc s) (empty : cpc.writeBuffer.unread = []) : ∃ next buff more,
    controlStep data s (.event .write env) = some next ∧
    Waits (cpItem data fd opRead) (((cpc.owing buff).resumed state).jumped state.behind)
      next ∧ buff.unread = [] ∧ buff.capacity = cpc.writeBuffer.capacity ∧ next.globals = s.globals ∧
    next.trace = s.trace ++ more ∧ sentBytes more = [] ∧ commandRuns more = [] := by
  obtain ⟨held,machine,same,replied⟩ := sending
  obtain ⟨handler,found,_,does⟩ := replied_handler replied
  have current := current_state machine
  have onward : state.behind ≠ .error := by cases state <;> decide
  have kept : (cpc.resumed state).writeBuffer = cpc.writeBuffer ∧ (cpc.resumed state).fd = cpc.fd := by
    cases state <;> exact ⟨rfl,rfl⟩
  have ran : handler env ⟨cpc.fd,data⟩ s.sel s.globals (cpc.handed cpc.readBuffer) =
      ⟨(selectorSetInterest s.sel cpc.fd opRead).2,s.globals,some (cpc.resumed state),[],state.behind⟩ := by
    rw [handed_same machine]
    exact (does env _ _ _).2 empty
  obtain ⟨buff,more,step,rest,room,bytes,calm⟩ := @write_step env 0 data fd s cpc _ _ handler held
    (by rw [current]; exact found) ran rfl onward (.inl (by rw [kept.1]; exact empty))
  rw [kept.1,empty] at rest bytes
  rw [kept.1] at room
  have left : ((cpc.resumed state).jumped state.behind).owing buff =
      ((cpc.owing buff).resumed state).jumped state.behind := by
    cases state <;> rfl
  have own : cpc.fd = fd := held.own
  refine ⟨_,buff,_,step,⟨congrArg some left,?_,?_⟩,by rw [rest]; rfl,room,rfl,rfl,?_,?_⟩
  · rw [← left]
    exact kept.2.trans own
  · have entry := held.entry
    rw [own]
    exact asked_entry entry opRead
  · rw [sentBytes_append,bytes]
    rcases Decidable.em (cpc.current = state.behind) with stays | moves
    · rw [stays,entering_same]
      rfl
    · rw [entering,if_neg moves]
      rfl
  · rw [commandRuns_append,calm,commandRuns_append,(entering_counts _ _).1]
    rfl

theorem fetch_run {effects : List CpEffect} (held : Waits (cpItem data fd opWrite) cpc s) (current : cpc.current = state)
    (found : cpStateHandler .write state = some handler)
    (ran : handler env ⟨cpc.fd,data⟩ s.sel s.globals (cpc.handed cpc.readBuffer) = ⟨s.sel,g,some after,effects,state⟩)
    (own : after.fd = cpc.fd) (replied : after.replied state = true) (silent : sentBytes effects = [])
    (fetches : Fetches (cpItem data fd opWrite) size env events) (owed : after.writeBuffer.unread.length = size) :
    ∃ next buff more, exec (controlStep data) s events = some next ∧
      Waits (cpItem data fd opRead) (((after.owing buff).resumed state).jumped state.behind)
        next ∧ buff.unread = [] ∧ buff.capacity = after.writeBuffer.capacity ∧ next.globals = globalsAfter g events ∧
      next.trace = s.trace ++ more ∧ sentBytes more = after.writeBuffer.unread ∧
      commandRuns more = commandRuns effects := by
  have sound : state ≠ .error := by
    rintro rfl
    cases replied
  cases fetches with
  | all count taking last send some_ takes =>
      obtain ⟨first,sent,step,rest,room,bytes,calm⟩ := write_step held (by rw [current]; exact found) ran rfl sound
        (.inr ⟨send,some_⟩)
      dsimp only at step rest room bytes
      have sending : Sending data fd state ((after.jumped state).owing first)
          ⟨s.sel,g,some ((after.jumped state).owing first),s.trace ++ (effects ++ entering cpc.current state ++ sent)⟩ :=
        ⟨⟨rfl,own.trans held.own,held.entry⟩,rfl,rfl,by cases state <;> exact replied⟩
      obtain ⟨middle,second,later,run,drained,empty,capacity,globals,trace,others,quiet⟩ := sending_run sending takes
        (by rw [← owed]; simp [rest])
      obtain ⟨next,third,final,resumed,waits,clear,space,same,traces,none_,silent_⟩ := @resumed_step last _ _ _ _ _
        drained empty
      refine ⟨next,third,effects ++ entering cpc.current state ++ sent ++ later ++ final,?_,?_,clear,
        space.trans (capacity.trans room),?_,?_,?_,?_⟩
      · rw [exec,step,Option.bind_some,exec_append,run,Option.bind_some,exec_one]
        exact resumed
      · have left : (((((after.jumped state).owing first).owing second).owing third).resumed state).jumped state.behind =
            ((after.owing third).resumed state).jumped state.behind := by
          cases state <;> rfl
        rw [← left]
        exact waits
      · rw [same,globals]
        exact (globalsAfter_append g taking [.event .write last]).symm
      · rw [traces,trace]
        simp only [List.append_assoc]
      · simp only [sentBytes_append,silent,bytes,others,none_,current,entering_same,List.nil_append,List.append_nil]
        rw [rest]
        exact List.take_append_drop _ _
      · simp only [commandRuns_append,calm,quiet,silent_,current,entering_same,List.append_nil]

structure Hears (data : Nat) (fd : Int) (whole : List UInt8) (holds : List UInt8 → ControlProtConn → Prop)
    (done : ControlProtConn → Prop) : Prop where
  segment : ∀ got bytes cpc s env, Waits (cpItem data fd opRead) cpc s → holds got cpc → bytes ≠ [] →
    env.recv = .data bytes → got ++ bytes <+: whole → ∃ after next more,
      controlStep data s (.event .read env) = some next ∧ next.globals = s.globals ∧ next.trace = s.trace ++ more ∧
      sentBytes more = [] ∧ commandRuns more = [] ∧
      (got ++ bytes ≠ whole ∧ Waits (cpItem data fd opRead) after next ∧ holds (got ++ bytes) after ∨
        got ++ bytes = whole ∧ Waits (cpItem data fd opWrite) after next ∧ done after)

theorem gives_run {whole rest : List UInt8} {holds : List UInt8 → ControlProtConn → Prop} {done : ControlProtConn → Prop}
    (hears : Hears data fd whole holds done)
    (gives : Gives (cpItem data fd opRead) (cpItem data fd opWrite) rest events) (split : got ++ rest = whole)
    (before : rest ≠ [] ∧ Waits (cpItem data fd opRead) cpc s ∧ holds got cpc ∨
      rest = [] ∧ Waits (cpItem data fd opWrite) cpc s ∧ done cpc) :
    ∃ next after more, exec (controlStep data) s events = some next ∧ Waits (cpItem data fd opWrite) after next ∧
      done after ∧ next.globals = globalsAfter s.globals events ∧ next.trace = s.trace ++ more ∧ sentBytes more = [] ∧
      commandRuns more = [] := by
  induction gives generalizing s cpc got with
  | given spared =>
      obtain ⟨more,_⟩ | ⟨_,held,finished⟩ := before
      · exact absurd rfl more
      · obtain ⟨next,run,kept,trace,globals⟩ := between_run held spared
        exact ⟨next,cpc,[],run,kept,finished,globals,by rw [trace,List.append_nil],rfl,rfl⟩
  | @segment env bytes later events some_ recv gives ih =>
      obtain ⟨_,held,start⟩ | ⟨none_,_⟩ := before
      · have front : got ++ bytes <+: whole := ⟨later,by rw [← split,List.append_assoc]⟩
        obtain ⟨after,middle,more,step,globals,trace,silent,calm,outcome⟩ :=
          hears.segment got bytes cpc s env held start some_ recv front
        have whole_ : got ++ bytes ++ later = whole := by rw [← split,List.append_assoc]
        have still : later ≠ [] ∧ Waits (cpItem data fd opRead) after middle ∧ holds (got ++ bytes) after ∨
            later = [] ∧ Waits (cpItem data fd opWrite) after middle ∧ done after := by
          rcases outcome with ⟨part,going⟩ | ⟨all,finished⟩
          · refine .inl ⟨?_,going⟩
            rintro rfl
            rw [List.append_nil] at whole_
            exact part whole_
          · rw [all] at whole_
            exact .inr ⟨List.append_right_eq_self.mp whole_,finished⟩
        obtain ⟨next,last,rest,run,kept,finished,final,traces,none_,quiet⟩ := ih whole_ still
        refine ⟨next,last,more ++ rest,?_,kept,finished,?_,?_,?_,?_⟩
        · rw [exec,step]
          exact run
        · rw [final,globals]
          rfl
        · rw [traces,trace,List.append_assoc]
        · rw [sentBytes_append,silent,none_]
          rfl
        · rw [commandRuns_append,calm,quiet]
          rfl
      · exact absurd (List.append_eq_nil_iff.mp none_).1 some_
  | between some_ spared _ ih =>
      obtain ⟨more,held,start⟩ | ⟨none_,_⟩ := before
      · obtain ⟨middle,step,kept,trace,globals⟩ := between_step held spared
        obtain ⟨next,last,rest,run,waits,finished,final,traces,silent,quiet⟩ := ih split (.inl ⟨more,kept,start⟩)
        refine ⟨next,last,rest,?_,waits,finished,?_,by rw [traces,trace],silent,quiet⟩
        · rw [exec,step]
          exact run
        · rw [final,globals]
          rfl
      · exact absurd none_ some_

structure ControlProtConn.Quiet (cpc : ControlProtConn) : Prop where
  unread : cpc.readBuffer.unread = []
  room : cpc.readBuffer.capacity = bufferSize
  unsent : cpc.writeBuffer.unread = []
  space : cpc.writeBuffer.capacity = bufferSize

structure ControlProtConn.Listens (got : List UInt8) (cpc : ControlProtConn) : Prop where
  taken : cpc.commandParser.Taken got
  running : (cpc.commandParser.failed || cpc.commandParser.finished) = false
  clear : cpc.execAnswer = none
  unwritten : cpc.execAnsWritten = false

structure ControlProtConn.Heard (message : CommandMessage) (cpc : ControlProtConn) : Prop where
  machine : cpc.connStm = some .execute
  quiet : cpc.Quiet
  carries : Carries message cpc.commandParser
  sized : cpc.commandParser.data.length = maxDataSize+1
  clear : cpc.execAnswer = none
  unwritten : cpc.execAnsWritten = false

structure ControlProtConn.Hearing (got : List UInt8) (cpc : ControlProtConn) : Prop where
  machine : cpc.connStm = some .execute
  quiet : cpc.Quiet
  listens : cpc.Listens got

theorem parseByte_sized (parser : CpCommandParser) (byte : UInt8) :
    (cpcpParseByte parser byte).data.length = parser.data.length := by
  unfold cpcpParseByte
  cases parser.currentState with
  | commandCode => dsimp only; split <;> rfl
  | hasData => dsimp only; split <;> [rfl; (split <;> rfl)]
  | readData => dsimp only; split <;> [rfl; exact List.length_set]
  | done => rfl
  | error => rfl

theorem executeRead_sizes {key : SelectorKey} (more : cpc.readBuffer.unread ≠ [])
    (running : (cpc.commandParser.failed || cpc.commandParser.finished) = false)
    (left : (executeRead env key sel g cpc).cpc = some after) :
    after.readBuffer.capacity = cpc.readBuffer.capacity ∧
      after.commandParser.data.length = cpc.commandParser.data.length := by
  obtain ⟨parser,buff,taken,_,room,scanned,outcome⟩ := executeRead_cases env key sel g more running
  have sized : parser.data.length = cpc.commandParser.data.length := by
    have kept := @scan_invariant _ _ cpcpParseByte (fun parser => CpCommandParser.failed parser || CpCommandParser.finished parser)
      (fun parser : CpCommandParser => parser.data.length = cpc.commandParser.data.length) cpc.commandParser
      cpc.readBuffer.unread rfl fun before byte same => (parseByte_sized before byte).trans same
    rw [scanned] at kept
    exact kept
  rcases outcome with ⟨_,ran⟩ | ⟨_,_,ran⟩ | ⟨_,_,_,ran⟩
  · rw [ran] at left
    cases left
    exact ⟨room,sized⟩
  · rw [ran] at left
    cases left
    exact ⟨room,List.length_set.trans sized⟩
  · rw [ran] at left
    cases left
    exact ⟨room,sized⟩

theorem message_length (message : CommandMessage) : message.bytes.length ≤ maxDataSize+2 := by
  unfold CommandMessage.bytes commandLine
  cases line : message.line with
  | none => simp [maxDataSize]
  | some text =>
      have fits := message.fits text (by rw [line]; rfl)
      simp only [List.length_cons,List.length_append,List.length_nil,List.singleton_append]
      omega

theorem command_hears (message : CommandMessage) :
    Hears data fd message.bytes ControlProtConn.Hearing (ControlProtConn.Heard message) := by
  refine ⟨fun got bytes cpc s env held hearing some_ recv front => ?_⟩
  obtain ⟨machine,⟨unread,room,unsent,space⟩,⟨known,running,clear,unwritten⟩⟩ := hearing
  have fits : bytes.length ≤ cpc.readBuffer.capacity := by
    have whole := front.length_le
    have short := message_length message
    rw [List.length_append] at whole
    rw [room,bufferSize]
    rw [maxDataSize] at short
    omega
  have filled := fill_empty unread fits
  have more : (cpc.handed (cpc.readBuffer.fill bytes)).readBuffer.unread ≠ [] := by
    change (cpc.readBuffer.fill bytes).unread ≠ []
    rw [filled]
    exact some_
  have current := current_state machine
  have step := @read_step bytes env data fd s cpc _ executeRead held unread some_ fits recv (by rw [current]; rfl) rfl
    (stays_kept executeRead_stays)
  have sizes := fun after left => @executeRead_sizes env (cpc.handed (cpc.readBuffer.fill bytes)) after s.sel s.globals
    ⟨cpc.fd,data⟩ more running left
  have own : cpc.fd = fd := held.own
  obtain ⟨parser,buff,taken,empty,outcome⟩ := @executeRead_decodes (cpc.handed (cpc.readBuffer.fill bytes)) env s.sel
    s.globals message got ⟨cpc.fd,data⟩ known running more (by
      change got ++ (cpc.readBuffer.fill bytes).unread <+: _
      rw [filled]
      exact front)
  rcases outcome with ⟨unfinished,sound,reading,ran⟩ | ⟨whole,carries,ran⟩
  · rw [ran] at step
    obtain ⟨capacity,_⟩ := sizes _ (by rw [ran])
    have reading : parser.Taken (got ++ bytes) := by
      rw [← filled]
      exact reading
    have going : (parser.failed || parser.finished) = false := by rw [sound,unfinished]; rfl
    refine ⟨_,_,_,step,rfl,rfl,?_,?_,.inl ⟨taken_short reading going,⟨rfl,own,held.entry⟩,⟨rfl,⟨empty,?_,unsent,space⟩,
      ⟨reading,going,clear,unwritten⟩⟩⟩⟩
    · rw [current,entering_same]
      rfl
    · rw [current,entering_same]
      rfl
    · exact capacity.trans ((CertifiedBuffer.fill_capacity _ _).trans room)
  · rw [ran] at step
    obtain ⟨capacity,sized⟩ := sizes _ (by rw [ran])
    have whole : got ++ bytes = message.bytes := by
      rw [← filled]
      exact whole
    have entry : (selectorSetInterest s.sel cpc.fd opWrite).2.registered fd = some (cpItem data fd opWrite) := by
      rw [own]
      exact asked_entry held.entry opWrite
    refine ⟨_,_,_,step,rfl,rfl,?_,?_,.inr ⟨whole,⟨rfl,own,entry⟩,⟨rfl,⟨empty,?_,unsent,space⟩,carries,?_,clear,unwritten⟩⟩⟩
    · rw [current,entering_same]
      rfl
    · rw [current,entering_same]
      rfl
    · exact capacity.trans ((CertifiedBuffer.fill_capacity _ _).trans room)
    · exact sized.trans known.1

structure ControlProtConn.Typing (got : List UInt8) (cpc : ControlProtConn) : Prop where
  machine : cpc.connStm = some .auth
  quiet : cpc.Quiet
  typed : cpc.authParser.Typed got
  running : (cpc.authParser.failed || cpc.authParser.finished) = false
  unanswered : cpc.authAnsWritten = false
  listens : cpc.Listens []

structure ControlProtConn.Accepted (cpc : ControlProtConn) : Prop where
  machine : cpc.connStm = some .auth
  quiet : cpc.Quiet
  valid : cpc.validPassword = true
  unanswered : cpc.authAnsWritten = false
  listens : cpc.Listens []

def RightSoFar (taken : List UInt8) (parser : CpAuthParser) : Prop :=
  parser.Typed taken ∧ (taken <+: passwordLine adminPassword → parser.failed = false)

theorem cpapParseByte_right {parser : CpAuthParser} {taken : List UInt8} (right : RightSoFar taken parser)
    (running : (parser.failed || parser.finished) = false) (byte : UInt8) :
    RightSoFar (taken ++ [byte]) (cpapParseByte parser byte) := by
  refine ⟨cpapParseByte_typed right.1 byte,fun front => ?_⟩
  obtain ⟨sound,unfinished⟩ := Bool.or_eq_false_iff.mp running
  obtain ⟨_,reads⟩ := right.1
  have short := front.length_le
  rw [CpAuthParser.failed,decide_eq_false_iff_not]
  unfold cpapParseByte
  cases state : parser.currentState with
  | checkAuthCommand =>
      rw [state] at reads
      rw [reads.1] at front
      obtain ⟨rest,same⟩ := front
      rw [(List.cons.inj same).1]
      simp
  | hasData =>
      rw [state] at reads
      rw [reads.1] at front
      obtain ⟨rest,same⟩ := front
      rw [(List.cons.inj (List.cons.inj same).2).1]
      simp
  | readPassword =>
      rw [state] at reads
      obtain ⟨line,command,_,size,_⟩ := reads
      have room : ¬ parser.passLen = maxPassLen := by
        have whole : (passwordLine adminPassword).length = 11 := by decide
        rw [command,whole] at short
        simp only [List.length_append,List.length_cons,List.length_nil] at short
        rw [size,maxPassLen]
        omega
      dsimp only
      rw [if_neg room]
      split
      · simp
      · simp
  | done => exact absurd state (of_decide_eq_false unfinished)
  | error => exact absurd state (of_decide_eq_false sound)

theorem typed_whole {parser : CpAuthParser} {taken : List UInt8} (typed : parser.Typed taken)
    (front : taken <+: passwordLine adminPassword) (ended : parser.finished = true) :
    taken = passwordLine adminPassword ∧ validatePassword parser = true := by
  obtain ⟨line,same,inside,text⟩ := done_parts typed ended
  obtain ⟨rest,split⟩ := front
  rw [same] at split
  have lines : line ++ newline::rest = adminPassword ++ newline::[] := by
    simpa [passwordLine] using split
  obtain ⟨rfl,_⟩ := line_inj inside (by decide) lines
  refine ⟨same,decide_eq_true ?_⟩
  rw [text]
  decide

theorem typed_part {parser : CpAuthParser} {taken : List UInt8} (typed : parser.Typed taken)
    (running : (parser.failed || parser.finished) = false) : taken ≠ passwordLine adminPassword := by
  obtain ⟨sound,unfinished⟩ := Bool.or_eq_false_iff.mp running
  obtain ⟨_,reads⟩ := typed
  rintro rfl
  cases state : parser.currentState with
  | checkAuthCommand =>
      rw [state] at reads
      cases reads.1
  | hasData =>
      rw [state] at reads
      cases reads.1
  | readPassword =>
      rw [state] at reads
      obtain ⟨line,command,inside,_⟩ := reads
      have same : adminPassword ++ [newline] = line := by simpa [passwordLine] using command
      exact inside (by rw [← same]; simp)
  | done => exact absurd state (of_decide_eq_false unfinished)
  | error => exact absurd state (of_decide_eq_false sound)

theorem password_hears :
    Hears data fd (passwordLine adminPassword) ControlProtConn.Typing ControlProtConn.Accepted := by
  refine ⟨fun got bytes cpc s env held typing some_ recv front => ?_⟩
  obtain ⟨machine,⟨unread,room,unsent,space⟩,typed,running,unanswered,⟨command,ready,clear,unwritten⟩⟩ := typing
  have fits : bytes.length ≤ cpc.readBuffer.capacity := by
    have whole := front.length_le
    have short : (passwordLine adminPassword).length = 11 := by decide
    rw [List.length_append,short] at whole
    rw [room,bufferSize]
    omega
  have filled := fill_empty unread fits
  have more : (cpc.handed (cpc.readBuffer.fill bytes)).readBuffer.unread ≠ [] := by
    change (cpc.readBuffer.fill bytes).unread ≠ []
    rw [filled]
    exact some_
  have current := current_state machine
  have own : cpc.fd = fd := held.own
  have step := @read_step bytes env data fd s cpc _ authRead held unread some_ fits recv (by rw [current]; rfl) rfl
    (stays_kept authRead_stays)
  obtain ⟨parser,buff,part,split,capacity,scanned,outcome⟩ := @authRead_cases (cpc.handed (cpc.readBuffer.fill bytes)) env
    ⟨cpc.fd,data⟩ s.sel s.globals more running
  have split : bytes = part ++ buff.unread := by
    rw [← filled]
    exact split
  have scanned : scan cpapParseByte (fun parser => parser.failed || parser.finished) cpc.authParser bytes =
      (parser,buff.unread) := by
    rw [← filled]
    exact scanned
  have right : RightSoFar got cpc.authParser := ⟨typed,fun _ => (Bool.or_eq_false_iff.mp running).1⟩
  obtain ⟨taken,cut,reads⟩ := @scan_reading _ _ cpapParseByte
    (fun parser => CpAuthParser.failed parser || CpAuthParser.finished parser) RightSoFar got cpc.authParser bytes running
    right fun _ _ byte going right => cpapParseByte_right right going byte
  rw [scanned] at cut reads
  have same : taken = part := List.append_cancel_right (cut.symm.trans split)
  subst same
  have prior : got ++ taken <+: passwordLine adminPassword := by
    rw [split,← List.append_assoc] at front
    exact (List.prefix_append _ _).trans front
  have sound := reads.2 prior
  have space_ := capacity.trans ((CertifiedBuffer.fill_capacity _ _).trans room)
  rcases outcome with ⟨failed,_⟩ | ⟨_,ended,ran⟩ | ⟨_,unfinished,empty,ran⟩
  · rw [sound] at failed
    cases failed
  · obtain ⟨whole,valid⟩ := typed_whole reads.1 prior ended
    have empty : buff.unread = [] := by
      obtain ⟨rest,all⟩ := front
      rw [split,← List.append_assoc,whole,List.append_assoc] at all
      exact (List.append_eq_nil_iff.mp (List.append_right_eq_self.mp all)).1
    have entry : (selectorSetInterest s.sel cpc.fd opWrite).2.registered fd = some (cpItem data fd opWrite) := by
      rw [own]
      exact asked_entry held.entry opWrite
    rw [ran] at step
    refine ⟨_,_,_,step,rfl,rfl,?_,?_,.inr ⟨?_,⟨rfl,own,entry⟩,⟨rfl,⟨empty,space_,unsent,space⟩,valid,unanswered,
      command,ready,clear,unwritten⟩⟩⟩
    · rw [current,entering_same]
      rfl
    · rw [current,entering_same]
      rfl
    · rw [split,empty,List.append_nil,whole]
  · have going : (parser.failed || parser.finished) = false := by rw [sound,unfinished]; rfl
    have all : taken = bytes := by rw [split,empty,List.append_nil]
    have known : parser.Typed (got ++ bytes) := by
      rw [← all]
      exact reads.1
    rw [ran] at step
    refine ⟨_,_,_,step,rfl,rfl,?_,?_,.inl ⟨typed_part known going,⟨rfl,own,held.entry⟩,⟨rfl,⟨empty,space_,unsent,space⟩,
      known,going,unanswered,command,ready,clear,unwritten⟩⟩⟩
    · rw [current,entering_same]
      rfl
    · rw [current,entering_same]
      rfl

theorem helloWrite_makes {key : SelectorKey} (empty : cpc.writeBuffer.unread = [])
    (space : cpc.writeBuffer.capacity = bufferSize) (unwritten : cpc.helloWritten = false) :
    helloWrite env key sel g cpc = ⟨sel,g,some {cpc with writeBuffer:=cpc.writeBuffer.fill helloMsg,helloWritten:=true},
      [.queued helloMsg],.hello⟩ := by
  have room := cpc.writeBuffer.empty_space empty
  have fits : helloMsg.length ≤ bufferSize := by decide
  have positive : 0 < bufferSize := by decide
  have writable : bufferCanWrite cpc.writeBuffer.raw = true := cpc.writeBuffer.canWrite_space.mpr (by omega)
  unfold helloWrite
  rw [if_neg (by rw [unwritten]; exact Bool.false_ne_true),if_pos (by rw [unwritten]; rfl),if_neg (by rw [writable]; decide),
    if_neg (by omega)]

theorem hello_fetched (held : Waits (cpItem data fd opWrite) (newControlProtConn fd) s)
    (fetches : Fetches (cpItem data fd opWrite) helloMsg.length env events) : ∃ next after more,
      exec (controlStep data) s events = some next ∧ Waits (cpItem data fd opRead) after next ∧ after.Typing [] ∧
      next.globals = globalsAfter s.globals events ∧ next.trace = s.trace ++ more ∧ sentBytes more = helloMsg ∧
      commandRuns more = [] := by
  have fits : helloMsg.length ≤ bufferSize := by decide
  have filled := fill_empty (CertifiedBuffer.init_unread bufferSize) fits
  have made := @helloWrite_makes env ((newControlProtConn fd).handed (newControlProtConn fd).readBuffer) s.sel s.globals
    ⟨fd,data⟩ (CertifiedBuffer.init_unread bufferSize) rfl rfl
  obtain ⟨next,buff,more,run,waits,empty,room,globals,trace,bytes,calm⟩ := fetch_run held rfl rfl made rfl rfl rfl fetches
    (congrArg List.length filled)
  refine ⟨next,_,more,run,waits,⟨rfl,⟨CertifiedBuffer.init_unread _,rfl,empty,room.trans (CertifiedBuffer.fill_capacity _ _)⟩,
    zeroed_typed,rfl,rfl,⟨zeroed_taken,rfl,rfl,rfl⟩⟩,globals,trace,bytes.trans filled,calm⟩

theorem welcome_fetched (held : Waits (cpItem data fd opWrite) cpc s) (accepted : cpc.Accepted)
    (fetches : Fetches (cpItem data fd opWrite) (authResult true).length env events) : ∃ next after more,
      exec (controlStep data) s events = some next ∧ Waits (cpItem data fd opRead) after next ∧ after.Hearing [] ∧
      next.globals = globalsAfter s.globals events ∧ next.trace = s.trace ++ more ∧ sentBytes more = authResult true ∧
      commandRuns more = [] := by
  obtain ⟨machine,⟨unread,room,unsent,space⟩,valid,unanswered,⟨command,ready,clear,unwritten⟩⟩ := accepted
  have fits : (authResult true).length ≤ cpc.writeBuffer.capacity := by
    rw [space]
    decide
  have filled := fill_empty unsent fits
  have writable := cpc.writeBuffer.empty_space unsent
  have made : authWrite env ⟨cpc.fd,data⟩ s.sel s.globals (cpc.handed cpc.readBuffer) = ⟨s.sel,s.globals,
      some {cpc with writeBuffer:=cpc.writeBuffer.fill (authResult true),authAnsWritten:=true},
      [.queued (authResult true)],.auth⟩ := by
    rw [handed_same machine]
    rcases authWrite_cases env ⟨cpc.fd,data⟩ s.sel s.globals cpc with ⟨written,_⟩ | ⟨written,_⟩ | ⟨_,narrow,_⟩ |
      ⟨_,wrong,_⟩ | ⟨_,_,_,ran⟩
    · rw [unanswered] at written
      cases written
    · rw [unanswered] at written
      cases written
    · rw [valid] at narrow
      omega
    · rw [valid] at wrong
      cases wrong
    · exact ran
  obtain ⟨next,buff,more,run,waits,empty,capacity,globals,trace,bytes,calm⟩ := fetch_run held (current_state machine) rfl
    made rfl rfl rfl fetches (congrArg List.length filled)
  refine ⟨next,_,more,run,waits,⟨rfl,⟨unread,room,empty,?_⟩,⟨command,ready,clear,unwritten⟩⟩,globals,trace,
    bytes.trans filled,calm⟩
  exact capacity.trans ((CertifiedBuffer.fill_capacity _ _).trans space)

theorem answer_fetched {answer : List UInt8} {served : Globals} (held : Waits (cpItem data fd opWrite) cpc s)
    (heard : cpc.Heard message) (serve : message.serve env.malloc s.globals = (some answer,served))
    (fits : (cString (answer ++ env.behind)).length ≤ bufferSize)
    (fetches : Fetches (cpItem data fd opWrite) (cString (answer ++ env.behind)).length env events) : ∃ next last more,
      exec (controlStep data) s events = some next ∧ Waits (cpItem data fd opRead) last next ∧ last.Hearing [] ∧
      next.globals = globalsAfter served events ∧ next.trace = s.trace ++ more ∧
      sentBytes more = cString (answer ++ env.behind) ∧ commandRuns more = [cpc.commandParser] := by
  obtain ⟨machine,⟨unread,room,unsent,space⟩,carries,sized,clear,unwritten⟩ := heard
  rw [← space] at fits
  have filled := fill_empty unsent fits
  have writable := cpc.writeBuffer.empty_space unsent
  have made : executeWrite env ⟨cpc.fd,data⟩ s.sel s.globals (cpc.handed cpc.readBuffer) = ⟨s.sel,served,
      some {cpc with
        execAnswer:=some answer
        writeBuffer:=cpc.writeBuffer.fill (cString (answer ++ env.behind))
        execAnsWritten:=true
        commandParser:=initCpCommandParser cpc.commandParser},
      [.run cpc.commandParser] ++ [.queued (cString (answer ++ env.behind))],.execute⟩ := by
    rw [handed_same machine]
    cases found : commandOf message.code with
    | none =>
        rw [CommandMessage.serve,found] at serve
        cases serve
    | some command =>
        rw [CommandMessage.serve,found,Option.elim_some,← command_carried carries found] at serve
        rcases executeWrite_cases env ⟨cpc.fd,data⟩ s.sel s.globals cpc with ⟨written,_⟩ | ⟨written,_⟩ | ⟨_,_,stored,_⟩ |
          ⟨_,_,missing,_⟩ | ⟨other,_,_,known,ran⟩
        · rw [unwritten] at written
          cases written
        · rw [unwritten] at written
          cases written
        · rw [clear] at stored
          cases stored
        · rw [carries.1,found] at missing
          cases missing
        · rw [carries.1,found] at known
          cases known
          rw [ran,serve]
          rcases executeAnswer_cases env s.sel served cpc answer [.run cpc.commandParser] with ⟨narrow,_⟩ | ⟨_,ran⟩
          · omega
          · exact ran
  obtain ⟨next,buff,more,run,waits,empty,capacity,globals,trace,bytes,calm⟩ := fetch_run held (current_state machine) rfl
    made rfl rfl rfl fetches (congrArg List.length filled)
  refine ⟨next,_,more,run,waits,⟨rfl,⟨unread,room,empty,?_⟩,⟨initCommand_taken sized,rfl,rfl,rfl⟩⟩,globals,trace,
    bytes.trans filled,calm⟩
  exact capacity.trans ((CertifiedBuffer.fill_capacity _ _).trans space)

-- All the commands, by induction on them: each is run once, on the globals as they are when
-- its answer is asked for, and answered before the next one is given.
theorem dialogue_run {messages : List CommandMessage} {last : Globals} (orders : Dialogue data fd g events messages told last)
    (held : Waits (cpItem data fd opRead) cpc s) (hearing : cpc.Hearing []) (same : s.globals = g) :
    ∃ next after more, exec (controlStep data) s events = some next ∧ Waits (cpItem data fd opRead) after next ∧
      after.Hearing [] ∧ next.globals = last ∧ next.trace = s.trace ++ more ∧ sentBytes more = told.flatMap Exchange.text ∧
      List.Forall₂ Carries messages (commandRuns more) := by
  induction orders generalizing s cpc with
  | idle spared =>
      obtain ⟨next,run,kept,trace,globals⟩ := between_run held spared
      exact ⟨next,cpc,[],run,kept,hearing,by rw [globals,same],by rw [trace,List.append_nil],rfl,.nil⟩
  | @command g served last message answer env giving fetching events messages more gives serve fits fetches _ ih =>
      obtain ⟨given,parsed,read,first,waits,heard,globals,trace,silent,calm⟩ := gives_run (command_hears message) gives
        (List.nil_append _) (.inl ⟨bytes_nonempty.symm,held,hearing⟩)
      obtain ⟨told,resumed,wrote,second,ready,listening,then_,traces,answered,ran⟩ := answer_fetched waits heard
        (by rw [globals,same]; exact serve) fits fetches
      obtain ⟨next,after,rest,run,kept,hearing,final,all,others,carried⟩ := ih ready listening then_
      refine ⟨next,after,read ++ wrote ++ rest,?_,kept,hearing,final,?_,?_,?_⟩
      · rw [exec_append,exec_append,first,Option.bind_some,second,Option.bind_some]
        exact run
      · rw [all,traces,trace]
        simp only [List.append_assoc]
      · rw [sentBytes_append,sentBytes_append,silent,answered,others]
        rfl
      · rw [commandRuns_append,commandRuns_append,calm,ran]
        exact .cons heard.carries carried

theorem login_run (login : LogsIn data fd events) (held : Waits (cpItem data fd opWrite) (newControlProtConn fd) s) :
    ∃ next after more, exec (controlStep data) s events = some next ∧ Waits (cpItem data fd opRead) after next ∧
      after.Hearing [] ∧ next.globals = globalsAfter s.globals events ∧ next.trace = s.trace ++ more ∧
      sentBytes more = helloMsg ++ authResult true ∧ commandRuns more = [] := by
  cases login with
  | admitted waits hello typing answer first second spared greets types fetches =>
      obtain ⟨start,zero,kept,trace,globals⟩ := between_run held spared
      obtain ⟨greeted,waiting,one,hailed,reads,typed,globals₁,trace₁,sent₁,calm₁⟩ := hello_fetched kept greets
      obtain ⟨given,parsed,two,entered,writes,accepted,globals₂,trace₂,sent₂,calm₂⟩ := gives_run password_hears types
        (List.nil_append _) (.inl ⟨by decide,reads,typed⟩)
      obtain ⟨next,after,three,welcomed,last,hearing,globals₃,trace₃,sent₃,calm₃⟩ := welcome_fetched writes accepted fetches
      refine ⟨next,after,one ++ two ++ three,?_,last,hearing,?_,?_,?_,?_⟩
      · rw [exec_append,exec_append,exec_append,zero,Option.bind_some,hailed,Option.bind_some,entered,Option.bind_some]
        exact welcomed
      · rw [globals₃,globals₂,globals₁,globals]
        simp only [globalsAfter_append]
      · rw [trace₃,trace₂,trace₁,trace]
        simp only [List.append_assoc]
      · rw [sentBytes_append,sentBytes_append,sent₁,sent₂,sent₃,List.append_nil]
      · rw [commandRuns_append,commandRuns_append,calm₁,calm₂,calm₃]
        rfl

theorem session_run {opening : List ControlEvent} {messages : List CommandMessage} {last : Globals}
    (roomy : itemsMaxSize ≤ sel.fds.length) (valid : invalidFd fd = false) (absent : sel.registered fd = none)
    (login : LogsIn data fd opening)
    (orders : Dialogue data fd (globalsAfter {g with metrics:=addMgmtConnection g.metrics} opening) events messages told last) :
    ∃ s cpc, exec (controlStep data) (passiveCpSocketHandler data sel g fd) (opening ++ events) = some s ∧
      Waits (cpItem data fd opRead) cpc s ∧ cpc.Hearing [] ∧ s.globals = last ∧
      sentBytes s.trace = helloMsg ++ authResult true ++ told.flatMap Exchange.text ∧
      List.Forall₂ Carries messages (commandRuns s.trace) := by
  obtain ⟨success,entries⟩ := register_fresh roomy valid absent .cpFd opWrite (some data)
  have made : passiveCpSocketHandler data sel g fd = ⟨(selectorRegister sel fd (some .cpFd) opWrite (some data)).2,
      {g with metrics:=addMgmtConnection g.metrics},some (newControlProtConn fd),[]⟩ :=
    if_neg (not_not_intro success)
  rw [made]
  have held : Waits (cpItem data fd opWrite) (newControlProtConn fd)
      ⟨(selectorRegister sel fd (some .cpFd) opWrite (some data)).2,{g with metrics:=addMgmtConnection g.metrics},
        some (newControlProtConn fd),[]⟩ := ⟨rfl,rfl,(entries fd).trans (if_pos rfl)⟩
  obtain ⟨middle,admitted,early,entered,reads,hearing,globals,trace,sent,calm⟩ := login_run login held
  obtain ⟨next,cpc,later,served,waits,ready,final,traces,answers,carried⟩ := dialogue_run orders reads hearing globals
  refine ⟨next,cpc,?_,waits,ready,final,?_,?_⟩
  · rw [exec_append,entered]
    exact served
  · rw [traces,trace,sentBytes_append,sentBytes_append,sent,answers]
    rfl
  · rw [traces,trace,commandRuns_append,commandRuns_append,calm]
    exact carried

theorem admin_served {opening : List ControlEvent} {messages : List CommandMessage} {last : Globals}
    (roomy : itemsMaxSize ≤ sel.fds.length) (valid : invalidFd fd = false) (absent : sel.registered fd = none)
    (login : LogsIn data fd opening)
    (orders : Dialogue data fd (globalsAfter {g with metrics:=addMgmtConnection g.metrics} opening) events messages told last) :
    ∃ s cpc, exec (controlStep data) (passiveCpSocketHandler data sel g fd) (opening ++ events) = some s ∧
      s.cpc = some cpc ∧ cpc.current = .execute ∧ ownReads data cpc s.sel = true ∧ s.globals = last ∧
      sentBytes s.trace = helloMsg ++ authResult true ++ told.flatMap Exchange.text ∧
      List.Forall₂ Carries messages (commandRuns s.trace) := by
  obtain ⟨s,cpc,ran,waits,hearing,final,sent,carried⟩ := session_run roomy valid absent login orders
  refine ⟨s,cpc,ran,waits.live,current_state hearing.machine,?_,final,sent,carried⟩
  rw [ownReads,waits_own waits]
  rfl

theorem gives_whole {reads writes : Item} (some_ : bytes ≠ []) (recv : env.recv = .data bytes) :
    Gives reads writes bytes [.event .read env] := by
  have gives := @Gives.segment reads writes env bytes [] [] some_ recv (.given (by simp))
  rwa [List.append_nil] at gives

-- The hello in two parts, then the list of users, with a client that logs in while it is
-- asked for, and the switch of the dissectors.
def listening : Selector := (selectorSetInterest (selectorRegister mainSelector 7 (some .cpFd) opWrite (some 3)).2 7 opRead).2

def clientComes (dissecting : Bool) : Globals := ⟨.empty,dissecting,addSocksConnection .start⟩

def adminOpens : List ControlEvent :=
  [] ++ [adminTakes 3,adminTakes 4,adminTakes 0] ++ [adminTypes (passwordLine adminPassword)] ++ [adminTakes 5,adminTakes 0]

def listMessage : CommandMessage := ⟨.listUsers,none,rfl,by simp,by simp⟩
def offMessage : CommandMessage := ⟨.dissectorOff,none,rfl,by simp,by simp⟩

def adminLists : List ControlEvent := [adminTypes [0x34],.elsewhere listening (clientComes true),adminTypes [0x00]]

def adminOrders : List ControlEvent :=
  adminLists ++ [adminTakes 16,adminTakes 0] ++ ([adminTypes [0x37,0x00]] ++ [adminTakes 1,adminTakes 0] ++ [])

theorem admin_orders_served : ∃ s cpc,
    exec (controlStep 3) (passiveCpSocketHandler 3 mainSelector ⟨.empty,true,.start⟩ 7) (adminOpens ++ adminOrders) =
      some s ∧ s.cpc = some cpc ∧ cpc.current = .execute ∧ ownReads 3 cpc s.sel = true ∧
    s.globals = clientComes false ∧
    sentBytes s.trace = helloMsg ++ authResult true ++ (([statusSuccess,1] ++ socksUHeader) ++ [statusSuccess]) ∧
    List.Forall₂ Carries [listMessage,offMessage] (commandRuns s.trace) := by
  have login : LogsIn 3 7 adminOpens := .admitted [] _ _ _ _ _ (by simp)
    (.all 3 [adminTakes 4] _ rfl (by decide) (.send (by decide) rfl (by decide) .taken))
    (gives_whole (by decide) rfl)
    (.all 5 [] _ rfl (by decide) .taken)
  have waits : listening.registered 7 = some (cpItem 3 7 opRead) := by decide +kernel
  have lists : Gives (cpItem 3 7 opRead) (cpItem 3 7 opWrite) listMessage.bytes adminLists :=
    @Gives.segment _ _ _ [0x34] [0x00] _ (by decide) rfl (.between (by decide) waits (gives_whole (by decide) rfl))
  have text : cString (([statusSuccess,1] ++ socksUHeader ++ [] ++ [0]) ++ []) = [statusSuccess,1] ++ socksUHeader := by decide
  have ends : Dialogue 3 7 (clientComes true) ([adminTypes [0x37,0x00]] ++ [adminTakes 1,adminTakes 0] ++ []) [offMessage]
      [⟨clientComes true,clientComes false,[statusSuccess]⟩] (clientComes false) :=
    @Dialogue.command 3 7 (clientComes true) (clientComes false) _ offMessage [statusSuccess,0,newline]
      ⟨.closed,.sent 1,true,[],4⟩ _ _ _ _ _ (gives_whole (by decide) rfl) rfl (by decide) (.all 1 [] _ rfl (by decide) .taken)
      (.idle (by simp))
  have orders := @Dialogue.command 3 7 ⟨.empty,true,addMgmtConnection .start⟩ (clientComes true) _ listMessage ([statusSuccess,1] ++ socksUHeader ++ [] ++ [0])
    ⟨.closed,.sent 16,true,[],4⟩ _ [adminTakes 16,adminTakes 0] _ _ _ lists rfl (by decide)
    (.all 16 [] _ rfl (by decide) .taken) ends
  rw [text] at orders
  exact @admin_served _ _ 3 7 mainSelector ⟨.empty,true,.start⟩ _ _ _ (by decide +kernel) rfl (by decide +kernel) login
    orders

end Socks5d.ControlProtocol
