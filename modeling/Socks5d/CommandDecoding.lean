import Socks5d.ClientCommands
import Socks5d.CommandTurns

namespace Socks5d.ControlProtocol
open Scan Trace

variable {data : Nat} {s next : ControlSession} {cpc : ControlProtConn} {env : CpEnv} {sel : Selector} {g : Globals}
  {e : ControlEvent} {trace effects : List CpEffect} {message other : CommandMessage} {parser : CpCommandParser}
  {got taken rest : List UInt8} {runs : List CpCommandParser} {own : Option Item} {buff : CertifiedBuffer}

def receivedBytes (trace : List CpEffect) : List UInt8 := trace.flatMap fun effect => match effect with
  | .recv (.data bytes) => bytes
  | _ => []

@[simp] theorem receivedBytes_append :
    receivedBytes (trace ++ effects) = receivedBytes trace ++ receivedBytes effects := List.flatMap_append

theorem line_front {line : List UInt8} (inside : newline ∉ line) (more : List UInt8) :
    (line ++ newline::more).takeWhile (· ≠ newline) = line := by
  have other : ∀ byte ∈ line, byte ≠ newline := fun byte member same => inside (same ▸ member)
  rw [List.takeWhile_append_of_pos (by simpa using other),List.takeWhile_cons_of_neg (by simp),List.append_nil]

theorem line_inj {line line' more more' : List UInt8} (inside : newline ∉ line) (inside' : newline ∉ line')
    (same : line ++ newline::more = line' ++ newline::more') : line = line' ∧ more = more' := by
  have front : line = line' := by rw [← line_front inside more,same,line_front inside' more']
  subst front
  exact ⟨rfl,(List.cons.inj (List.append_cancel_left same)).2⟩

theorem message_prefix (same : other.bytes ++ rest = message.bytes) : other = message ∧ rest = [] := by
  obtain ⟨code,line,ordered,ended,fits⟩ := message
  obtain ⟨code',line',ordered',ended',fits'⟩ := other
  obtain ⟨first,tail⟩ := List.cons.inj same
  have codes : code' = code := by
    have first : code'.byte = code.byte := first
    rw [first,ordered] at ordered'
    exact (Option.some.inj ordered').symm
  subst codes
  cases line with
  | none =>
      cases line' with
      | none => exact ⟨rfl,(List.cons.inj tail).2⟩
      | some text' => cases (List.cons.inj tail).1
  | some text =>
      cases line' with
      | none => cases (List.cons.inj tail).1
      | some text' =>
          have lines : (text' ++ [newline]) ++ rest = text ++ [newline] := (List.cons.inj tail).2
          rw [List.append_assoc] at lines
          obtain ⟨rfl,none_⟩ := line_inj (ended' text' rfl) (ended text rfl) lines
          exact ⟨rfl,none_⟩

def Fine (message : CommandMessage) (taken : List UInt8) (parser : CpCommandParser) : Prop :=
  parser.Taken taken ∧ (taken <+: message.bytes → parser.failed = false)

theorem code_accepted {byte : UInt8} (fits : [byte] <+: message.bytes) : ∃ code, CpCommandCode.ofByte byte = some code := by
  obtain ⟨rest,same⟩ := fits
  exact ⟨message.code,by rw [(List.cons.inj same).1]; exact message.ordered⟩

theorem flag_accepted {first byte : UInt8} (fits : [first,byte] <+: message.bytes) : byte = 0x00 ∨ byte = 0x01 := by
  obtain ⟨rest,same⟩ := fits
  have tail := (List.cons.inj same).2
  cases line : message.line with
  | none =>
      rw [line] at tail
      exact .inl (List.cons.inj tail).1
  | some text =>
      rw [line] at tail
      exact .inr (List.cons.inj tail).1

theorem text_fits {first byte : UInt8} {text : List UInt8}
    (fits : first::0x01::(text ++ [byte]) <+: message.bytes) : text.length < maxDataSize := by
  obtain ⟨rest,same⟩ := fits
  have tail := (List.cons.inj same).2
  cases line : message.line with
  | none => rw [line] at tail; cases (List.cons.inj tail).1
  | some whole =>
      rw [line] at tail
      have body : (text ++ [byte]) ++ rest = whole ++ [newline] := (List.cons.inj tail).2
      have short := message.fits whole (by rw [line]; rfl)
      have sizes := congrArg List.length body
      simp only [List.length_append,List.length_singleton] at sizes
      omega

theorem cpcpParseByte_fine (fine : Fine message taken parser) (running : (parser.failed || parser.finished) = false)
    (byte : UInt8) : Fine message (taken ++ [byte]) (cpcpParseByte parser byte) := by
  have known := cpcpParseByte_taken fine.1 running byte
  refine ⟨known,?_⟩
  intro fits
  obtain ⟨sound,unfinished⟩ := Bool.or_eq_false_iff.mp running
  obtain ⟨_,reads⟩ := fine.1
  rw [CpCommandParser.failed,decide_eq_false_iff_not]
  unfold cpcpParseByte
  cases state : parser.currentState with
  | commandCode =>
      rw [state] at reads
      rw [reads.1] at fits
      obtain ⟨code,found⟩ := code_accepted fits
      simp [found]
  | hasData =>
      rw [state] at reads
      rw [reads.1] at fits
      rcases flag_accepted fits with zero | one
      · simp [zero]
      · simp [one]
  | readData =>
      rw [state] at reads
      obtain ⟨text,command,_,_,size,_⟩ := reads
      rw [command] at fits
      have short := text_fits (by simpa using fits)
      have room : ¬ parser.dataSize = maxDataSize := by omega
      dsimp only
      rw [if_neg room]
      dsimp only
      split <;> simp
  | done => exact absurd state (of_decide_eq_false unfinished)
  | error => exact absurd state (of_decide_eq_false sound)

theorem executeRead_decodes (key : SelectorKey) (known : cpc.commandParser.Taken got)
    (running : (cpc.commandParser.failed || cpc.commandParser.finished) = false) (more : cpc.readBuffer.unread ≠ [])
    (fits : got ++ cpc.readBuffer.unread <+: message.bytes) :
    ∃ parser buff taken, buff.unread = [] ∧
      ((parser.finished = false ∧ parser.failed = false ∧ parser.Taken (got ++ cpc.readBuffer.unread) ∧
        executeRead env key sel g cpc =
          ⟨sel,g,some {cpc with commandParser:=parser,readBuffer:=buff},[.parsed taken],.execute⟩) ∨
      (got ++ cpc.readBuffer.unread = message.bytes ∧
        Carries message {parser with data:=parser.data.set parser.dataSize 0} ∧
        executeRead env key sel g cpc = ⟨(selectorSetInterest sel key.fd opWrite).2,g,
          some {cpc with
            commandParser:={parser with data:=parser.data.set parser.dataSize 0}
            readBuffer:=buff
            interests:=opWrite},[.parsed taken],.execute⟩)) := by
  obtain ⟨parser,buff,front,split,_,scanned,outcome⟩ := executeRead_cases env key sel g more running
  have start : Fine message got cpc.commandParser := ⟨known,fun _ => (Bool.or_eq_false_iff.mp running).1⟩
  obtain ⟨taken,cut,fine⟩ := @scan_reading _ _ cpcpParseByte
    (fun parser => CpCommandParser.failed parser || CpCommandParser.finished parser) (Fine message) got
    cpc.commandParser cpc.readBuffer.unread running start (fun _ _ byte going fine => cpcpParseByte_fine fine going byte)
  rw [scanned] at cut fine
  have fine : Fine message (got ++ taken) parser := fine
  have same : taken = front := List.append_cancel_right (cut.symm.trans split)
  subst same
  have part : got ++ taken <+: message.bytes := by
    rw [split,← List.append_assoc] at fits
    exact (List.prefix_append _ _).trans fits
  have sound := fine.2 part
  rcases outcome with ⟨failed,_⟩ | ⟨_,ended,ran⟩ | ⟨_,unfinished,none_,ran⟩
  · rw [sound] at failed
    cases failed
  · obtain ⟨whole,same,carries⟩ := taken_done fine.1 ended
    obtain ⟨last,fits⟩ := fits
    rw [split,← List.append_assoc,same,List.append_assoc] at fits
    obtain ⟨rfl,none_⟩ := message_prefix fits
    have none_ := (List.append_eq_nil_iff.mp none_).1
    refine ⟨parser,buff,taken,none_,.inr ⟨?_,carries,ran⟩⟩
    rw [split,none_,List.append_nil,same]
  · refine ⟨parser,buff,taken,none_,.inl ⟨unfinished,sound,?_,ran⟩⟩
    rw [split,none_,List.append_nil]
    exact fine.1

def ControlProtConn.Settled (data : Nat) (sel : Selector) (cpc : ControlProtConn) : Prop :=
  cpc.current = .error ∨ (cpc.current = .execute ∧ cpc.readBuffer.unread = [] ∧
    (cpc.execAnsWritten = true ∨ cpc.execAnswer ≠ none ∨ asks (ownEntry data cpc sel) .write = false))

-- Where the server stands with a message of which it was given the first `got` bytes:
-- still busy with the answer before it, inside it, at its end, or past its command. A
-- connection lost on the way is lost before the end of the message.
inductive Decoding (data : Nat) (message : CommandMessage) (earlier : List CpCommandParser) (got : List UInt8)
    (runs : List CpCommandParser) (sel : Selector) : Option ControlProtConn → Prop where
  | waiting (cpc : ControlProtConn) : cpc.current = .execute → got = [] → runs = earlier → cpc.readBuffer.unread = [] →
      cpc.commandParser.Taken [] → (cpc.commandParser.failed || cpc.commandParser.finished) = false →
      cpc.execAnsWritten = true → asks (ownEntry data cpc sel) .read = false →
      Decoding data message earlier got runs sel (some cpc)
  | reading (cpc : ControlProtConn) : cpc.current = .execute → runs = earlier → cpc.readBuffer.unread = [] →
      cpc.commandParser.Taken got → (cpc.commandParser.failed || cpc.commandParser.finished) = false →
      cpc.execAnswer = none → cpc.execAnsWritten = false → asks (ownEntry data cpc sel) .write = false →
      Decoding data message earlier got runs sel (some cpc)
  | complete (cpc : ControlProtConn) : cpc.current = .execute → got = message.bytes → runs = earlier →
      cpc.readBuffer.unread = [] → Carries message cpc.commandParser → cpc.execAnswer = none →
      cpc.execAnsWritten = false → asks (ownEntry data cpc sel) .read = false →
      (ownEntry data cpc sel).all (fun item => EventKind.write.wants item.interest) = true →
      Decoding data message earlier got runs sel (some cpc)
  | called (parser : CpCommandParser) (cpc : Option ControlProtConn) : Carries message parser →
      got = message.bytes → runs = earlier ++ [parser] → (∀ live, cpc = some live → live.Settled data sel) →
      Decoding data message earlier got runs sel cpc
  | lost : got ≠ message.bytes → runs = earlier → Decoding data message earlier got runs sel none

def ControlSession.Decodes (data : Nat) (message : CommandMessage) (base : List UInt8) (earlier : List CpCommandParser)
    (s : ControlSession) : Prop :=
  ∃ got, receivedBytes s.trace = base ++ got ∧
    (got <+: message.bytes → Decoding data message earlier got (commandRuns s.trace) s.sel s.cpc)

theorem bytes_nonempty : [] ≠ message.bytes := (List.cons_ne_nil _ _).symm

theorem taken_short (known : parser.Taken got) (running : (parser.failed || parser.finished) = false) :
    got ≠ message.bytes := by
  have unfinished := taken_unfinished known (Bool.or_eq_false_iff.mp running).2
  intro whole
  exact unfinished message [] (by rw [whole,List.append_nil])

theorem ordered_command (message : CommandMessage) : commandOf message.code ≠ none := by
  obtain ⟨code,_,ordered,_,_⟩ := message
  intro missing
  cases code with
  | noCommand => cases ordered
  | authentication => cases ordered
  | _ => cases missing

theorem flush_keeps {served : CpServed} (flushes : Flushes env sel g cpc served) :
    commandRuns served.effects = [] ∧ receivedBytes served.effects = [] ∧ (served.cpc = none ∨
      ∃ buff, served.sel = sel ∧ served.cpc = some {cpc with writeBuffer:=buff}) := by
  cases flushes with
  | stopped => exact ⟨rfl,rfl,.inr ⟨_,rfl,rfl⟩⟩
  | idle => exact ⟨rfl,rfl,.inr ⟨_,rfl,rfl⟩⟩
  | sent bytes => exact ⟨rfl,rfl,.inr ⟨_,rfl,rfl⟩⟩
  | broken => exact ⟨rfl,rfl,.inl rfl⟩

theorem flush_decoding {served : CpServed} {earlier : List CpCommandParser}
    (decoding : Decoding data message earlier got runs sel (some cpc)) (ran : got = message.bytes → runs ≠ earlier)
    (flushes : Flushes env sel g cpc served) : Decoding data message earlier got runs served.sel served.cpc := by
  obtain ⟨_,_,gone | ⟨buff,same,live⟩⟩ := flush_keeps flushes
  · rw [gone]
    cases decoding with
    | waiting _ _ none_ kept => exact .lost (by rw [none_]; exact bytes_nonempty) kept
    | reading _ _ kept _ taken running => exact .lost (taken_short taken running) kept
    | complete _ _ whole kept => exact absurd kept (ran whole)
    | called parser _ carries whole once => exact .called parser none carries whole once (by simp)
  · rw [same,live]
    cases decoding with
    | waiting _ state none_ kept empty taken running written quiet =>
        exact .waiting _ state none_ kept empty taken running written quiet
    | reading _ state kept empty taken running clear unwritten quiet =>
        exact .reading _ state kept empty taken running clear unwritten quiet
    | complete _ _ whole kept => exact absurd kept (ran whole)
    | called parser _ carries whole once settled =>
        refine .called parser _ carries whole once ?_
        intro live same
        cases same
        exact settled cpc rfl

theorem entering_counts (was after : ControlProtStmState) :
    commandRuns (entering was after) = [] ∧ receivedBytes (entering was after) = [] := by
  unfold entering
  split
  · exact ⟨rfl,rfl⟩
  · exact ⟨rfl,rfl⟩

theorem executeAnswer_settled (answer : List UInt8) (called : List CpEffect) (empty : cpc.readBuffer.unread = []) :
    ∃ after, (executeAnswer env sel g cpc answer called).cpc = some after ∧
      commandRuns (executeAnswer env sel g cpc answer called).effects = commandRuns called ∧
      receivedBytes (executeAnswer env sel g cpc answer called).effects = receivedBytes called ∧
      (after.jumped (executeAnswer env sel g cpc answer called).next).Settled data
        (executeAnswer env sel g cpc answer called).sel := by
  rcases executeAnswer_cases env sel g cpc answer called with ⟨_,ran⟩ | ⟨_,ran⟩
  · rw [ran]
    exact ⟨_,rfl,rfl,rfl,.inr ⟨rfl,empty,.inr (.inl (by simp [ControlProtConn.jumped]))⟩⟩
  · rw [ran]
    refine ⟨_,rfl,?_,?_,.inr ⟨rfl,empty,.inl rfl⟩⟩
    · rw [commandRuns_append]
      exact List.append_nil _
    · rw [receivedBytes_append]
      exact List.append_nil _

structure Wrote (data : Nat) (message : CommandMessage) (earlier : List CpCommandParser) (got : List UInt8)
    (runs : List CpCommandParser) (out : CpOutcome) (after : ControlProtConn) : Prop where
  left : out.cpc = some after
  silent : receivedBytes out.effects = []
  decoding : Decoding data message earlier got (runs ++ commandRuns out.effects) out.sel (some (after.jumped out.next))
  ran : got = message.bytes → runs ++ commandRuns out.effects ≠ earlier

theorem complete_wrote {earlier : List CpCommandParser} (whole : got = message.bytes) (kept : runs = earlier)
    (empty : cpc.readBuffer.unread = []) (carries : Carries message cpc.commandParser) (clear : cpc.execAnswer = none)
    (unwritten : cpc.execAnsWritten = false) : ∃ after, Wrote data message earlier got runs
      (executeWrite env ⟨cpc.fd,data⟩ sel g (cpc.handed cpc.readBuffer)) after := by
  have outcome := executeWrite_cases env ⟨cpc.fd,data⟩ sel g (cpc.handed cpc.readBuffer)
  have once : ∀ effects, commandRuns effects = [cpc.commandParser] →
      got = message.bytes → runs ++ commandRuns effects ≠ earlier := by
    intro effects ran _ same
    rw [ran,kept] at same
    exact absurd (List.append_right_eq_self.mp same) (by simp)
  rcases outcome with ⟨written,_⟩ | ⟨written,_⟩ | ⟨_,_,stored,_⟩ | ⟨_,_,missing,_⟩ | ⟨command,_,_,found,ran⟩
  · exact absurd (unwritten.symm.trans written) (by simp)
  · exact absurd (unwritten.symm.trans written) (by simp)
  · exact absurd (clear.symm.trans stored) (by simp)
  · rw [show (cpc.handed cpc.readBuffer).commandParser.code = message.code from carries.1] at missing
    exact absurd missing (ordered_command message)
  · rw [ran]
    cases (command env.malloc g (cpc.handed cpc.readBuffer).commandParser).1 with
    | none =>
        refine ⟨_,rfl,rfl,.called _ _ carries whole ?_ ?_,once _ rfl⟩
        · rw [kept]
          rfl
        · intro live same
          cases same
          exact .inl rfl
    | some answer =>
        obtain ⟨after,left,called,silent,settled⟩ := @executeAnswer_settled data (cpc.handed cpc.readBuffer) env sel
          (command env.malloc g (cpc.handed cpc.readBuffer).commandParser).2 answer
          [.run (cpc.handed cpc.readBuffer).commandParser] empty
        refine ⟨after,left,silent,.called _ _ carries whole ?_ ?_,once _ called⟩
        · rw [kept,called]
          rfl
        · intro live same
          cases same
          exact settled

theorem called_wrote {earlier : List CpCommandParser} (current : cpc.current = .execute)
    (wanted : asks (ownEntry data cpc sel) .write = true) (carries : Carries message parser)
    (whole : got = message.bytes) (once : runs = earlier ++ [parser])
    (settled : ∀ live, some cpc = some live → live.Settled data sel) : ∃ after, Wrote data message earlier got runs
      (executeWrite env ⟨cpc.fd,data⟩ sel g (cpc.handed cpc.readBuffer)) after := by
  have outcome := executeWrite_cases env ⟨cpc.fd,data⟩ sel g (cpc.handed cpc.readBuffer)
  have late : got = message.bytes → runs ≠ earlier := by
    intro _ same
    rw [once] at same
    exact absurd (List.append_right_eq_self.mp same) (by simp)
  rcases settled cpc rfl with error | ⟨_,empty,still⟩
  · rw [error] at current; cases current
  have armed : cpc.execAnsWritten = false → cpc.execAnswer ≠ none := by
    intro unwritten
    rcases still with written | stored | quiet
    · exact absurd (written.symm.trans unwritten) (by simp)
    · exact stored
    · rw [quiet] at wanted; cases wanted
  rcases outcome with ⟨_,_,ran⟩ | ⟨written,_,ran⟩ | ⟨answer,_,_,ran⟩ | ⟨unwritten,clear,_⟩ | ⟨_,unwritten,clear,_⟩
  · rw [ran]
    refine ⟨_,rfl,rfl,.called _ _ carries whole ((List.append_nil _).trans once) ?_,?_⟩
    · intro live same
      cases same
      exact .inr ⟨rfl,empty,.inr (.inr (asks_setInterest rfl))⟩
    · exact fun whole same => late whole ((List.append_nil _).symm.trans same)
  · rw [ran]
    refine ⟨_,rfl,rfl,.called _ _ carries whole ((List.append_nil _).trans once) ?_,?_⟩
    · intro live same
      cases same
      exact .inr ⟨rfl,empty,.inl written⟩
    · exact fun whole same => late whole ((List.append_nil _).symm.trans same)
  · rw [ran]
    obtain ⟨after,left,called,silent,settled⟩ := @executeAnswer_settled data (cpc.handed cpc.readBuffer) env sel g
      answer [] empty
    have same : runs ++ commandRuns (executeAnswer env sel g (cpc.handed cpc.readBuffer) answer []).effects = runs := by
      rw [called]
      exact List.append_nil _
    refine ⟨after,left,silent,?_,?_⟩
    · rw [same]
      refine .called _ _ carries whole once ?_
      intro live same
      cases same
      exact settled
    · rw [same]
      exact late
  · exact absurd clear (armed unwritten)
  · exact absurd clear (armed unwritten)

theorem executeWrite_decodes {earlier : List CpCommandParser}
    (decoding : Decoding data message earlier got runs sel (some cpc)) (current : cpc.current = .execute)
    (wanted : asks (ownEntry data cpc sel) .write = true) :
    ∃ after, Wrote data message earlier got runs
      (executeWrite env ⟨cpc.fd,data⟩ sel g (cpc.handed cpc.readBuffer)) after := by
  have outcome := executeWrite_cases env ⟨cpc.fd,data⟩ sel g (cpc.handed cpc.readBuffer)
  cases decoding with
  | waiting _ _ none_ kept empty taken running written quiet =>
      have early : got = message.bytes → runs ++ [] ≠ earlier := by
        intro whole
        rw [none_] at whole
        exact absurd whole bytes_nonempty
      rcases outcome with ⟨_,_,ran⟩ | ⟨_,_,ran⟩ | ⟨_,unwritten,_⟩ | ⟨unwritten,_⟩ | ⟨_,unwritten,_⟩
      · rw [ran]
        refine ⟨_,rfl,rfl,.reading _ rfl ((List.append_nil _).trans kept) empty ?_ running rfl rfl
          (asks_setInterest rfl),early⟩
        rw [none_]
        exact taken
      · rw [ran]
        exact ⟨_,rfl,rfl,.waiting _ rfl none_ ((List.append_nil _).trans kept) empty taken running written quiet,early⟩
      · exact absurd (written.symm.trans unwritten) (by simp)
      · exact absurd (written.symm.trans unwritten) (by simp)
      · exact absurd (written.symm.trans unwritten) (by simp)
  | reading _ _ _ _ _ _ _ _ quiet => rw [quiet] at wanted; cases wanted
  | complete _ _ whole kept empty carries clear unwritten _ _ =>
      exact complete_wrote whole kept empty carries clear unwritten
  | called parser _ carries whole once settled => exact called_wrote current wanted carries whole once settled

theorem executeRead_reading {earlier : List CpCommandParser} (kept : runs = earlier) (known : cpc.commandParser.Taken got)
    (running : (cpc.commandParser.failed || cpc.commandParser.finished) = false) (clear : cpc.execAnswer = none)
    (unwritten : cpc.execAnsWritten = false) (quiet : asks (ownEntry data cpc sel) .write = false)
    (more : buff.unread ≠ []) (fits : got ++ buff.unread <+: message.bytes) :
    let out := executeRead env ⟨cpc.fd,data⟩ sel g (cpc.handed buff)
    receivedBytes out.effects = [] ∧ commandRuns out.effects = [] ∧
      Decoding data message earlier (got ++ buff.unread) runs out.sel (out.cpc.map (ControlProtConn.jumped out.next)) ∧
      out.next = .execute := by
  obtain ⟨parser,rest,taken,empty,⟨unfinished,sound,knows,ran⟩ | ⟨whole,carries,ran⟩⟩ :=
    @executeRead_decodes (cpc.handed buff) env sel g message got ⟨cpc.fd,data⟩ known running more fits
  · have still : (parser.failed || parser.finished) = false := by rw [sound,unfinished]; rfl
    rw [ran]
    refine ⟨rfl,rfl,?_,rfl⟩
    exact .reading _ rfl kept empty knows still clear unwritten quiet
  · rw [ran]
    refine ⟨rfl,rfl,?_,rfl⟩
    refine .complete _ rfl whole kept empty carries clear unwritten (asks_setInterest rfl) ?_
    have own := @own_setInterest data (cpc.handed buff) sel opWrite
    cases entry : ownEntry data (cpc.handed buff) sel with
    | none =>
        rw [entry] at own
        exact (congrArg (Option.all _) own).trans rfl
    | some item =>
        rw [entry] at own
        exact (congrArg (Option.all _) own).trans rfl

theorem decoding_spared {earlier : List CpCommandParser} (decoding : Decoding data message earlier got runs s.sel s.cpc)
    (spared : s.spares data sel = true) : Decoding data message earlier got runs sel s.cpc := by
  generalize live : s.cpc = left at decoding
  cases decoding with
  | waiting _ state none_ kept empty taken running written quiet =>
      exact .waiting _ state none_ kept empty taken running written (asks_spared spared live quiet)
  | reading _ state kept empty taken running clear unwritten quiet =>
      exact .reading _ state kept empty taken running clear unwritten (asks_spared spared live quiet)
  | complete cpc state whole kept empty carries clear unwritten quiet asking =>
      refine .complete _ state whole kept empty carries clear unwritten (asks_spared spared live quiet) ?_
      rcases spares_entry spared live with gone | same
      · rw [gone]
        rfl
      · rw [same]
        exact asking
  | called parser _ carries whole once settled =>
      refine .called parser _ carries whole once ?_
      intro cpc same
      subst same
      rcases settled cpc rfl with error | ⟨state,empty,written | stored | quiet⟩
      · exact .inl error
      · exact .inr ⟨state,empty,.inl written⟩
      · exact .inr ⟨state,empty,.inr (.inl stored)⟩
      · exact .inr ⟨state,empty,.inr (.inr (asks_spared spared live quiet))⟩
  | lost short kept => exact .lost short kept

theorem read_decoding {earlier : List CpCommandParser} {called : List CpEffect} {handler : CpStateHandler}
    {out : CpOutcome} (decoding : Decoding data message earlier got runs s.sel (some cpc))
    (room : cpc.readBuffer.capacity = bufferSize) (wanted : asks (ownEntry data cpc s.sel) .read = true)
    (arrives : Arrives env cpc called buff) (found : cpStateHandler .read cpc.current = some handler)
    (ran : handler env ⟨cpc.fd,data⟩ s.sel s.globals (cpc.handed buff) = out)
    (fits : got ++ receivedBytes called <+: message.bytes) :
    receivedBytes out.effects = [] ∧ Decoding data message earlier (got ++ receivedBytes called)
      (runs ++ commandRuns (called ++ (out.effects ++ entering cpc.current out.next))) out.sel
      (out.cpc.map (ControlProtConn.jumped out.next)) := by
  obtain ⟨more,_,_,_⟩ := arrives_parts arrives room (by decide)
  have silent : commandRuns called = [] := by
    cases arrives with
    | segment => rfl
    | full => rfl
  cases decoding with
  | waiting _ _ _ _ _ _ _ _ quiet => rw [quiet] at wanted; cases wanted
  | complete _ _ _ _ _ _ _ _ quiet => rw [quiet] at wanted; cases wanted
  | reading _ state kept empty taken running clear unwritten quiet =>
      have same : receivedBytes called = buff.unread := by
        cases arrives with
        | segment bytes _ short =>
            rw [CertifiedBuffer.fill_unread,empty,List.take_of_length_le short,List.nil_append]
            exact List.append_nil _
        | full => exact absurd empty more
      rw [same] at fits ⊢
      rw [state] at found
      cases found
      obtain ⟨received,commands,decoding,next⟩ := @executeRead_reading data cpc env s.sel s.globals message got runs buff
        _ kept taken running clear unwritten quiet more fits
      rw [ran] at received commands decoding next
      refine ⟨received,?_⟩
      rw [commandRuns_append,commandRuns_append,silent,commands,(entering_counts _ _).1]
      simpa using decoding
  | called parser _ carries whole once settled =>
      have none_ : receivedBytes called = [] := by
        rw [whole] at fits
        have sizes := fits.length_le
        rw [List.length_append] at sizes
        exact List.length_eq_zero_iff.mp (by omega)
      have error : cpc.current = .error := by
        rcases settled cpc rfl with error | ⟨_,empty,_⟩
        · exact error
        · cases arrives with
          | segment bytes some_ => exact absurd ((List.append_nil bytes).symm.trans none_) some_
          | full => exact absurd empty more
      rw [error] at found
      cases found
      subst ran
      refine ⟨rfl,?_⟩
      rw [none_,List.append_nil,commandRuns_append,commandRuns_append,silent,(entering_counts _ _).1]
      exact .called parser none carries whole ((List.append_nil _).trans once) (by simp)

theorem write_decoding {earlier : List CpCommandParser} {handler : CpStateHandler} {out : CpOutcome}
    {after : ControlProtConn} {served : CpServed} (decoding : Decoding data message earlier got runs s.sel (some cpc))
    (wanted : asks (ownEntry data cpc s.sel) .write = true) (found : cpStateHandler .write cpc.current = some handler)
    (ran : handler env ⟨cpc.fd,data⟩ s.sel s.globals (cpc.handed cpc.readBuffer) = out) (left : out.cpc = some after)
    (flushes : Flushes env out.sel out.globals (after.jumped out.next) served) :
    receivedBytes out.effects = [] ∧
      Decoding data message earlier got (runs ++ commandRuns out.effects) served.sel served.cpc ∧
      (got = message.bytes → runs ++ commandRuns out.effects ≠ earlier) := by
  have execute : cpc.current = .execute := by
    cases decoding with
    | waiting _ state => exact state
    | reading _ state => exact state
    | complete _ state => exact state
    | called parser _ _ _ _ settled =>
        rcases settled cpc rfl with error | ⟨state,_⟩
        · exact absurd error (kept_sane found ((congrArg _ ran).trans left))
        · exact state
  rw [execute] at found
  cases found
  obtain ⟨same,wrote⟩ := @executeWrite_decodes data cpc env s.sel s.globals message got runs _ decoding
    execute wanted
  rw [ran] at wrote
  cases left.symm.trans wrote.left
  exact ⟨wrote.silent,flush_decoding wrote.decoding wrote.ran flushes,wrote.ran⟩

theorem dropped_called {earlier : List CpCommandParser} {handler : CpStateHandler} {out : CpOutcome}
    (decoding : Decoding data message earlier got runs s.sel (some cpc))
    (found : cpStateHandler .write cpc.current = some handler)
    (ran : handler env ⟨cpc.fd,data⟩ s.sel s.globals (cpc.handed cpc.readBuffer) = out) (left : out.cpc = none) :
    receivedBytes out.effects = [] ∧ commandRuns out.effects = [] ∧ got = message.bytes ∧
      ∃ parser, Carries message parser ∧ runs = earlier ++ [parser] := by
  obtain ⟨error,rfl⟩ := dropped_error found ((congrArg _ ran).trans left)
  subst ran
  have outside : cpc.current ≠ .execute := by simp [error]
  cases decoding with
  | waiting _ state => exact absurd state outside
  | reading _ state => exact absurd state outside
  | complete _ state => exact absurd state outside
  | called parser _ carries whole once => exact ⟨rfl,rfl,whole,parser,carries,once⟩

theorem decodes_next {base : List UInt8} {earlier : List CpCommandParser} (effects : List CpEffect)
    (decodes : s.Decodes data message base earlier) (extends_ : next.trace = s.trace ++ effects)
    (step : ∀ got, got ++ receivedBytes effects <+: message.bytes →
      Decoding data message earlier got (commandRuns s.trace) s.sel s.cpc →
      Decoding data message earlier (got ++ receivedBytes effects) (commandRuns s.trace ++ commandRuns effects)
        next.sel next.cpc) : next.Decodes data message base earlier := by
  obtain ⟨got,received,decoding⟩ := decodes
  refine ⟨got ++ receivedBytes effects,?_,?_⟩
  · rw [extends_,receivedBytes_append,received,List.append_assoc]
  · intro fits
    rw [extends_,commandRuns_append]
    exact step got fits (decoding ((List.prefix_append _ _).trans fits))

theorem preserves_decodes {base : List UInt8} {earlier : List CpCommandParser} (guarded : s.Guarded data)
    (decodes : s.Decodes data message base earlier) (ran : controlStep data s e = some next) :
    next.Decodes data message base earlier := by
  cases e with
  | event kind env =>
      obtain ⟨cpc,live,wanted,handled⟩ := controlStep_handled ran
      have room := (guarded.guard cpc live).room
      cases handled with
      | ended result other =>
          refine decodes_next [.recv result,.removeFromList,.close cpc.fd] decodes rfl ?_
          intro got fits decoding
          have none_ : receivedBytes [.recv result,.removeFromList,.close cpc.fd] = [] := by
            cases result with
            | data bytes => exact absurd rfl (other bytes)
            | _ => rfl
          have calm : commandRuns [.recv result,.removeFromList,.close cpc.fd] = [] := rfl
          rw [live] at decoding
          rw [none_,calm,List.append_nil,List.append_nil]
          cases decoding with
          | waiting _ _ _ _ _ _ _ _ quiet => rw [quiet] at wanted; cases wanted
          | complete _ _ _ _ _ _ _ _ quiet => rw [quiet] at wanted; cases wanted
          | reading _ _ kept _ taken running => exact .lost (taken_short taken running) kept
          | called parser _ carries whole once => exact .called parser none carries whole once (by simp)
      | read called buff handler out arrives found gave =>
          refine decodes_next (called ++ (out.effects ++ entering cpc.current out.next)) decodes rfl ?_
          intro got fits decoding
          rw [live] at decoding
          rw [receivedBytes_append,receivedBytes_append,(entering_counts _ _).2,List.append_nil] at fits ⊢
          rw [← List.append_assoc] at fits
          obtain ⟨silent,decoded⟩ := read_decoding decoding room wanted arrives found gave
            ((List.prefix_append _ _).trans fits)
          rw [silent,List.append_nil]
          exact decoded
      | dropped handler out found gave left =>
          refine decodes_next (out.effects ++ entering cpc.current out.next) decodes rfl ?_
          intro got fits decoding
          rw [live] at decoding
          obtain ⟨silent,calm,whole,parser,carries,once⟩ := dropped_called decoding found gave left
          rw [receivedBytes_append,commandRuns_append,(entering_counts _ _).1,(entering_counts _ _).2,silent,calm]
          exact .called parser none carries (by simpa using whole) (by simpa using once) (by simp)
      | wrote handler out after served found gave left flushes =>
          refine decodes_next ((out.effects ++ entering cpc.current out.next) ++ served.effects) decodes rfl ?_
          intro got fits decoding
          rw [live] at decoding
          obtain ⟨silent,decoded,_⟩ := write_decoding decoding wanted found gave left flushes
          obtain ⟨calm,quiet,_⟩ := flush_keeps flushes
          rw [receivedBytes_append,receivedBytes_append,commandRuns_append,commandRuns_append,(entering_counts _ _).1,
            (entering_counts _ _).2,silent,quiet,calm]
          simp only [List.append_nil]
          exact decoded
  | elsewhere sel globals =>
      obtain ⟨spared,rfl⟩ := elsewhere_spares ran
      obtain ⟨got,received,decoding⟩ := decodes
      exact ⟨got,received,fun fits => @decoding_spared data s sel message got _ _ (decoding fits) spared⟩

theorem starts_decodes (turning : s.Turning data) (live : s.cpc = some cpc) (execute : cpc.current = .execute)
    (initial : cpc.commandParser.currentState = .commandCode) (empty : cpc.readBuffer.unread = []) :
    s.Decodes data message (receivedBytes s.trace) (commandRuns s.trace) := by
  refine ⟨[],(List.append_nil _).symm,fun _ => ?_⟩
  have phase := turning.phase live
  obtain ⟨turns,_,stage⟩ := phase.executing execute
  rw [live]
  cases stage with
  | reading _ _ _ taken running clear unwritten quiet =>
      refine .reading cpc execute rfl empty ?_ running clear unwritten quiet
      obtain ⟨sized,reads⟩ := taken
      rw [initial] at reads
      refine ⟨sized,?_⟩
      rw [initial]
      exact ⟨rfl,reads.2⟩
  | parsed _ _ _ _ carries => rw [carries.2.1] at initial; cases initial
  | computed _ _ _ _ ended => rw [ended] at initial; cases initial
  | written _ _ taken running written quiet => exact .waiting cpc execute rfl rfl empty taken running written quiet

theorem write_calls {base : List UInt8} {earlier : List CpCommandParser}
    (decodes : s.Decodes data message base earlier) (received : receivedBytes s.trace = base ++ message.bytes)
    (ran : controlStep data s (.event .write env) = some next) :
    ∃ parser, Carries message parser ∧ commandRuns next.trace = earlier ++ [parser] := by
  obtain ⟨got,same,decoding⟩ := decodes
  have whole : got = message.bytes := List.append_cancel_left (same.symm.trans received)
  have decoding := decoding (by rw [whole])
  obtain ⟨cpc,live,wanted,handled⟩ := controlStep_handled ran
  rw [live] at decoding
  cases handled with
  | dropped handler out found gave left =>
      obtain ⟨_,calm,_,parser,carries,once⟩ := dropped_called decoding found gave left
      refine ⟨parser,carries,?_⟩
      have runs : commandRuns (s.trace ++ (out.effects ++ entering cpc.current out.next)) = earlier ++ [parser] := by
        rw [commandRuns_append,commandRuns_append,calm,(entering_counts _ _).1,once]
        simp
      exact runs
  | wrote handler out after served found gave left flushes =>
      obtain ⟨_,decoded,late⟩ := write_decoding decoding wanted found gave left flushes
      obtain ⟨calm,_,_⟩ := flush_keeps flushes
      have runs : commandRuns (s.trace ++ ((out.effects ++ entering cpc.current out.next) ++ served.effects)) =
          commandRuns s.trace ++ commandRuns out.effects := by
        rw [commandRuns_append,commandRuns_append,commandRuns_append,calm,(entering_counts _ _).1]
        simp
      generalize left_ : served.cpc = live at decoded
      cases decoded with
      | waiting _ _ none_ => exact absurd (none_.symm.trans whole) bytes_nonempty
      | reading _ _ _ _ taken running => exact absurd whole (taken_short taken running)
      | complete _ _ _ kept => exact absurd kept (late whole)
      | called parser _ carries _ once => exact ⟨parser,carries,runs.trans once⟩
      | lost short => exact absurd whole short

def CpCommandParser.Makes (parser : CpCommandParser) (op : TableOp) : Prop :=
  parser.tableCall = some op ∧ ∃ command, commandOf parser.code = some command ∧
    ∀ malloc g, (command malloc g parser).2.users = (op.apply g.users).2

-- The call was made once since `s`, or the next event makes it: the connection asks to
-- write, unless its entry was taken away, and then its command runs.
def CalledOnce (data : Nat) (s last : ControlSession) (op : TableOp) : Prop :=
  (∃ parser, commandRuns last.trace = commandRuns s.trace ++ [parser] ∧ parser.Makes op) ∨
  (commandRuns last.trace = commandRuns s.trace ∧ ∃ cpc, last.cpc = some cpc ∧ cpc.current = .execute ∧
    (ownEntry data cpc last.sel).all (fun item => EventKind.write.wants item.interest) = true ∧
    ∀ env next, controlStep data last (.event .write env) = some next →
      ∃ parser, commandRuns next.trace = commandRuns s.trace ++ [parser] ∧ parser.Makes op)

theorem carries_makes {op : TableOp} (carries : Carries message parser) (calls : parser.tableCall = some op) :
    parser.Makes op := by
  refine ⟨calls,?_⟩
  cases found : commandOf parser.code with
  | none =>
      rw [carries.1] at found
      exact absurd found (ordered_command message)
  | some command =>
      refine ⟨command,rfl,?_⟩
      intro malloc g
      have ran := command_calls found malloc g
      rw [calls] at ran
      exact ran

theorem decodes_once {last : ControlSession} {op : TableOp}
    (decodes : last.Decodes data message (receivedBytes s.trace) (commandRuns s.trace))
    (received : receivedBytes last.trace = receivedBytes s.trace ++ message.bytes)
    (calls : ∀ parser, Carries message parser → parser.tableCall = some op) : CalledOnce data s last op := by
  have next := @write_calls data last
  obtain ⟨got,same,decoding⟩ := decodes
  have whole : got = message.bytes := List.append_cancel_left (same.symm.trans received)
  have decoded := decoding (by rw [whole])
  generalize live : last.cpc = left at decoded
  cases decoded with
  | waiting _ _ none_ => exact absurd (none_.symm.trans whole) bytes_nonempty
  | reading _ _ _ _ taken running => exact absurd whole (taken_short taken running)
  | lost short => exact absurd whole short
  | called parser _ carries _ once => exact .inl ⟨parser,once,carries_makes carries (calls parser carries)⟩
  | complete cpc execute _ kept _ _ _ _ _ asking =>
      refine .inr ⟨kept,cpc,live,execute,asking,?_⟩
      intro env after ran
      obtain ⟨parser,carries,once⟩ := next ⟨got,same,decoding⟩ received ran
      exact ⟨parser,once,carries_makes carries (calls parser carries)⟩

theorem runs_decodes {fd : Int} {events more : List ControlEvent} {last : ControlSession}
    (path : ControlRuns data (passiveCpSocketHandler data sel g fd) events s) (continued : ControlRuns data s more last)
    (live : s.cpc = some cpc) (execute : cpc.current = .execute)
    (initial : cpc.commandParser.currentState = .commandCode) (empty : cpc.readBuffer.unread = [])
    (message : CommandMessage) : last.Decodes data message (receivedBytes s.trace) (commandRuns s.trace) := by
  obtain ⟨guarded,turning⟩ := runs_turning path
  have kept : last.Guarded data ∧ last.Decodes data message (receivedBytes s.trace) (commandRuns s.trace) := by
    apply continued.invariant
    · exact ⟨guarded,starts_decodes turning live execute initial empty⟩
    intro before label next known ran
    exact ⟨preserves_guarded known.1 ran,preserves_decodes known.1 known.2 ran⟩
  exact kept.2

def userMessage (code : CpCommandCode) (ordered : CpCommandCode.ofByte code.byte = some code) (line : List UInt8)
    (ended : newline ∉ line) (fits : line.length < maxDataSize) : CommandMessage where
  code := code
  line := some line
  ordered := ordered
  ended := by simpa using ended
  fits := by simpa using fits

theorem client_commands_decoded {fd : Int} {events more : List ControlEvent} {last : ControlSession}
    (user pass : List UInt8) (path : ControlRuns data (passiveCpSocketHandler data sel g fd) events s)
    (continued : ControlRuns data s more last) (live : s.cpc = some cpc) (execute : cpc.current = .execute)
    (initial : cpc.commandParser.currentState = .commandCode) (empty : cpc.readBuffer.unread = [])
    (name : user ≠ [] ∧ newline ∉ user ∧ 0 ∉ user) :
    (tokenDelimiter ∉ user → pass ≠ [] ∧ newline ∉ pass ∧ 0 ∉ pass → user.length + pass.length + 2 ≤ 255 →
      (receivedBytes last.trace = receivedBytes s.trace ++ doubleArgCommand commandAddUser user pass →
        CalledOnce data s last (.addUser user pass)) ∧
      (receivedBytes last.trace = receivedBytes s.trace ++ doubleArgCommand commandEditPassword user pass →
        CalledOnce data s last (.changePassword user pass []))) ∧
    (user.length ≤ 254 → receivedBytes last.trace = receivedBytes s.trace ++ singleArgCommand commandDeleteUser user →
      CalledOnce data s last (.removeUser user)) := by
  obtain ⟨some_,inside,string⟩ := name
  refine ⟨fun single word size => ?_,fun size received => ?_⟩
  · have ended : newline ∉ user ++ [tokenDelimiter] ++ pass := by
      simp only [List.mem_append,List.mem_singleton,not_or]
      exact ⟨⟨inside,by decide⟩,word.2.1⟩
    have fits : (user ++ [tokenDelimiter] ++ pass).length < maxDataSize := by
      simp only [List.length_append,List.length_singleton,maxDataSize]
      omega
    constructor
    · intro received
      rw [doubleArg_bytes (by decide) string word.2.2 (by simp only [maxLen]; omega)] at received
      have decodes := runs_decodes path continued live execute initial empty (userMessage .addUser rfl _ ended fits)
      refine decodes_once decodes received ?_
      intro parser carries
      exact (credentials_call carries rfl ⟨some_,single,string⟩ word).1 rfl
    · intro received
      rw [doubleArg_bytes (by decide) string word.2.2 (by simp only [maxLen]; omega)] at received
      have decodes := runs_decodes path continued live execute initial empty (userMessage .changePass rfl _ ended fits)
      refine decodes_once decodes received ?_
      intro parser carries
      exact (credentials_call carries rfl ⟨some_,single,string⟩ word).2 rfl
  · rw [singleArg_bytes (by decide) string (by simp only [maxLen]; omega)] at received
    have decodes := runs_decodes path continued live execute initial empty
      (userMessage .remUser rfl user inside (by simp only [maxDataSize]; omega))
    refine decodes_once decodes received ?_
    intro parser carries
    exact name_call carries rfl rfl string

-- A login, and then one command in three segments.
def loginSession : List ControlEvent :=
  [adminTakes 7,adminTakes 0,adminTypes (passwordLine adminPassword),adminTakes 1,adminTakes 1,adminTakes 0]

def cutCommand (bytes : List UInt8) : List ControlEvent :=
  [adminTypes (bytes.take 1),adminTypes ((bytes.drop 1).take 4),adminTypes (bytes.drop 5),adminTakes 2]

theorem cut_commands_decoded : ∃ s, Transitions.exec (controlStep 3)
      (passiveCpSocketHandler 3 mainSelector ⟨.empty,true,.start⟩ 7) loginSession = some s ∧
    (∃ last, Transitions.exec (controlStep 3) s (cutCommand (doubleArgCommand commandAddUser (ascii "ana") (ascii "a:b"))) =
      some last ∧ CalledOnce 3 s last (.addUser (ascii "ana") (ascii "a:b"))) ∧
    (∃ last, Transitions.exec (controlStep 3) s (cutCommand (singleArgCommand commandDeleteUser (ascii "ana"))) =
      some last ∧ CalledOnce 3 s last (.removeUser (ascii "ana"))) := by
  have facts : (Transitions.exec (controlStep 3) (passiveCpSocketHandler 3 mainSelector ⟨.empty,true,.start⟩ 7)
      loginSession).map (fun s => (s.cpc.map fun cpc =>
        (cpc.current,cpc.commandParser.currentState,cpc.readBuffer.unread),
        (Transitions.exec (controlStep 3) s (cutCommand (doubleArgCommand commandAddUser (ascii "ana") (ascii "a:b")))).map
          (fun last => decide (receivedBytes last.trace = receivedBytes s.trace ++
            doubleArgCommand commandAddUser (ascii "ana") (ascii "a:b"))),
        (Transitions.exec (controlStep 3) s (cutCommand (singleArgCommand commandDeleteUser (ascii "ana")))).map
          (fun last => decide (receivedBytes last.trace = receivedBytes s.trace ++
            singleArgCommand commandDeleteUser (ascii "ana"))))) =
      some (some (.execute,.commandCode,[]),some true,some true) := by decide +kernel
  obtain ⟨s,ran,found⟩ := Option.map_eq_some_iff.mp facts
  simp only [Prod.mk.injEq,Option.map_eq_some_iff] at found
  obtain ⟨⟨cpc,live,execute,initial,empty⟩,⟨one,added,got⟩,⟨two,removed,took⟩⟩ := found
  have path := Transitions.exec_runs ran
  have name : ascii "ana" ≠ [] ∧ newline ∉ ascii "ana" ∧ 0 ∉ ascii "ana" := by decide
  refine ⟨s,ran,⟨one,added,?_⟩,⟨two,removed,?_⟩⟩
  · have decoded := client_commands_decoded (ascii "ana") (ascii "a:b") path (Transitions.exec_runs added) live execute initial
      empty name
    exact ((decoded.1 (by decide) (by decide) (by decide)).1 (of_decide_eq_true got))
  · have decoded := client_commands_decoded (ascii "ana") (ascii "a:b") path (Transitions.exec_runs removed) live execute
      initial empty name
    exact decoded.2 (by decide) (of_decide_eq_true took)

end Socks5d.ControlProtocol
