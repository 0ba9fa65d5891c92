import Socks5d.RelayFifo
import Socks5d.Session
import Socks5d.Foundations.Feed

namespace Socks5d
open Feeds Scan

-- A relay to port 110 as copy_on_arrival leaves it with the sniffer on. req_write gets
-- there with all of write_buff sent; read_buff may still hold what came with the request.
structure Relay.Sniffing (r : Relay) : Prop where
  wired : r.Wired
  live : r.socks.stm = some .copy
  fresh : r.socks.pop3Parser = some (pop3ParserInit .raw)
  port : portNumber r.socks.parsers.reqParser.port = pop3Port
  empty : r.socks.writeBuff.unread = []
  silent : r.trace = []

def Flow.brings (f : Flow) (e : RelayEvent) : List UInt8 := match e.kind with
  | .read => (e.env.recv.clip (f.queue e.side).space).bytes
  | _ => []

-- What pop3_parse takes out of write_buff on an event: the bytes of one side from the
-- first unsent one on, and a cut where it gives a report.
def Relay.sniffs (r : Relay) (e : RelayEvent) : List (Mark Side UInt8) :=
  match r.socks.pop3Parser with
  | none => []
  | some parser =>
    if portNumber r.socks.parsers.reqParser.port = pop3Port ∧ e.env.sniffer = true ∧ r.flow.brings e ≠ [] then
      let buff := (r.socks.copyWriteBuff e.side).fill (r.flow.brings e)
      let parsed := pop3ParseChar parser buff
      let consumed := buff.unread.length - parsed.2.unread.length
      stretch e.side (sentTo (r.socks.fdOf e.side.aux) r.trace).length (buff.unread.take consumed) ++
        (if decide (parsed.1.state = .done) then [.cut] else [])
    else []

structure Sniffed where
  relay : Relay
  feed : List (Mark Side UInt8)

def Sniffed.stream (s : Sniffed) : List UInt8 := receivedFrom s.relay.socks.cliConn.socket s.relay.trace
def Sniffed.relayed (s : Sniffed) : List UInt8 := sentTo s.relay.socks.srcConn.socket s.relay.trace

def sniffStep (data : Nat) (s : Sniffed) (e : RelayEvent) : Option Sniffed :=
  if e.env.sniffer then (relayStep data s.relay e).map fun next => ⟨next,s.feed ++ s.relay.sniffs e⟩ else none

abbrev SniffRuns (data : Nat) := Transitions.Runs fun s e next => sniffStep data s e = some next

-- Bytes come from the client alone, and only when the parser has taken nothing that is
-- not sent yet.
def Sniffed.orderly (s : Sniffed) (e : RelayEvent) : Prop := s.relay.flow.brings e ≠ [] →
  e.side = .cli ∧ ∀ place ∈ places s.feed, place < s.relayed.length

abbrev OrderlySniffs (data : Nat) := Transitions.Runs fun s e next => s.orderly e ∧ sniffStep data s e = some next

def pop3Replay (parser : Pop3Parser) : Mark Side UInt8 → Pop3Parser
  | .item _ _ byte => pop3ParseByte parser byte
  | .cut => pop3ParserInit parser

-- The feed is what the parser was given: running it through the parser's own step gives
-- the parser, and it is cut where pass_information was called.
structure Sniffed.Truthful (s : Sniffed) : Prop where
  parser : s.relay.socks.pop3Parser = some (s.feed.foldl pop3Replay (pop3ParserInit .raw))
  reports : s.relay.trace.countP Effect.isPass = s.feed.countP Mark.isCut

structure Sniffed.ClientFed (s : Sniffed) : Prop where
  clean : Clean .cli s.feed
  bytes : ∀ place value, .item .cli place value ∈ s.feed → s.stream[place]? = some value

variable {data : Nat} {r next : Relay} {f g : Flow} {e : RelayEvent} {s after : Sniffed} {side : Side}
  {parser : Pop3Parser} {socks : SocksConnModel} {env : Env} {buff : CertifiedBuffer}

theorem parseChar_takes (awake : parser.state ≠ .done) (some_ : buff.unread ≠ []) :
    ∃ taken, taken ≠ [] ∧ buff.unread = taken ++ (pop3ParseChar parser buff).2.unread ∧
      (pop3ParseChar parser buff).1 = taken.foldl pop3ParseByte parser ∧
      ((pop3ParseChar parser buff).1.state ≠ .done → (pop3ParseChar parser buff).2.unread = []) := by
  unfold pop3ParseChar
  rw [if_neg awake,parseFull_state,parseFull_unread]
  obtain ⟨taken,split,fold⟩ := @scan_split _ _ pop3ParseByte (fun p => decide (p.state = .done)) parser buff.unread
  have running : ((scan pop3ParseByte (fun p => decide (p.state = .done)) parser buff.unread).1.state ≠ .done →
      (scan pop3ParseByte (fun p => decide (p.state = .done)) parser buff.unread).2 = []) :=
    fun going => scan_running (by simpa using going)
  refine ⟨taken,?_,split,fold,running⟩
  rintro rfl
  rw [List.nil_append] at split
  rw [List.foldl_nil] at fold
  rw [fold] at running
  exact some_ (split.trans (running awake))

theorem stretch_replay (first : Nat) (items : List UInt8) :
    (stretch side first items).foldl pop3Replay parser = items.foldl pop3ParseByte parser := by
  induction items generalizing first parser with
  | nil => rfl
  | cons byte rest ih => exact ih (first+1)

@[simp] theorem pop3Parser_setCopy (copy : CopyModel) : (socks.setCopy side copy).pop3Parser = socks.pop3Parser := by
  cases side <;> rfl
@[simp] theorem parsers_setCopy (copy : CopyModel) : (socks.setCopy side copy).parsers = socks.parsers := by
  cases side <;> rfl
@[simp] theorem pop3Parser_setWriteBuff : (socks.setWriteBuff side buff).pop3Parser = socks.pop3Parser := by
  cases side <;> rfl
@[simp] theorem parsers_setWriteBuff : (socks.setWriteBuff side buff).parsers = socks.parsers := by cases side <;> rfl
@[simp] theorem pop3Parser_setReadBuff : (socks.setReadBuff side buff).pop3Parser = socks.pop3Parser := by
  cases side <;> rfl
@[simp] theorem parsers_setReadBuff : (socks.setReadBuff side buff).parsers = socks.parsers := by cases side <;> rfl

structure Outcome.Feeds (socks : SocksConnModel) (fed : List (Mark Side UInt8)) (out : Outcome) : Prop where
  parser : ∀ parser, socks.pop3Parser = some parser → out.socks.pop3Parser = some (fed.foldl pop3Replay parser)
  parsers : out.socks.parsers = socks.parsers
  stm : out.socks.stm = socks.stm
  reports : out.effects.countP Effect.isPass = fed.countP Mark.isCut

theorem copyEnded_feeds (side : Side) (sel : Selector) (fd : Int) (got : Recv) :
    (copyEnded side sel socks [.recv fd got]).Feeds socks [] := by
  unfold copyEnded
  dsimp only
  split
  · exact ⟨fun _ held => by simpa using held,by simp,by simp,rfl⟩
  · exact ⟨fun _ held => by simpa using held,by simp,by simp,rfl⟩

theorem copyWrite_feeds (key : SelectorKey) (sel : Selector) : (copyWrite env key sel socks).Feeds socks [] := by
  unfold copyWrite
  split
  · exact ⟨fun _ held => held,rfl,rfl,rfl⟩
  · dsimp only
    split
    · split
      · exact ⟨fun _ held => by simpa using held,by simp,by simp,rfl⟩
      · exact ⟨fun _ held => by simpa using held,by simp,by simp,rfl⟩
    · split
      · refine ⟨fun _ held => by simpa using held,by simp,by simp,?_⟩
        split
        · rfl
        · rfl
      · exact ⟨fun _ held => by simpa using held,by simp,by simp,rfl⟩

theorem pop3Parse_replay (awake : parser.state ≠ .done) (some_ : buff.unread ≠ []) (first : Nat) :
    let parsed := pop3ParseChar parser buff
    let fed := stretch side first (buff.unread.take (buff.unread.length - parsed.2.unread.length)) ++
      (if decide (parsed.1.state = .done) then [.cut] else [])
    (pop3Parse parser buff).2.1 = fed.foldl pop3Replay parser ∧
    fed.countP Mark.isCut = if (pop3Parse parser buff).1 = .done then 1 else 0 := by
  obtain ⟨taken,_,split,fold,_⟩ := parseChar_takes awake some_
  dsimp only
  rw [take_front split,List.foldl_append,stretch_replay,← fold,List.countP_append,stretch_cuts]
  unfold pop3Parse
  dsimp only
  by_cases done : (pop3ParseChar parser buff).1.state = .done
  · simp [done,pop3Replay,Mark.isCut]
  · simp [done]

theorem brings_read (read : e.kind = .read) : f.brings e = (e.env.recv.clip (f.queue e.side).space).bytes := by
  rw [Flow.brings,read]

theorem brings_other (other : e.kind ≠ .read) : f.brings e = [] := by
  unfold Flow.brings
  split
  · rename_i read
    exact absurd read other
  · rfl

theorem brings_full (full : (f.queue e.side).space = 0) : f.brings e = [] := by
  unfold Flow.brings
  split
  · rw [full]
    cases e.env.recv with
    | data bytes => simp [Recv.clip,Recv.bytes]
    | closed => rfl
    | failed code => rfl
  · rfl

theorem sniffs_quiet (quiet : r.flow.brings e = []) : r.sniffs e = [] := by
  unfold Relay.sniffs
  split
  · rfl
  · rw [if_neg (fun sniffing => sniffing.2.2 quiet)]

theorem sniffs_fed (held : r.socks.pop3Parser = some parser) (port : portNumber r.socks.parsers.reqParser.port = pop3Port)
    (on : e.env.sniffer = true) (some_ : r.flow.brings e ≠ [])
    (filled : (r.socks.copyWriteBuff e.side).fill (r.flow.brings e) = buff) :
    r.sniffs e = stretch e.side (sentTo (r.socks.fdOf e.side.aux) r.trace).length
      (buff.unread.take (buff.unread.length - (pop3ParseChar parser buff).2.unread.length)) ++
      (if decide ((pop3ParseChar parser buff).1.state = .done) then [.cut] else []) := by
  unfold Relay.sniffs
  rw [held]
  dsimp only
  rw [if_pos ⟨port,on,some_⟩,filled]

theorem copySniff_feeds (held : socks.pop3Parser = some parser) (awake : parser.state ≠ .done)
    (port : portNumber socks.parsers.reqParser.port = pop3Port) (on : env.sniffer = true)
    (some_ : (socks.copyWriteBuff side).unread ≠ []) (first : Nat) :
    let parsed := pop3ParseChar parser (socks.copyWriteBuff side)
    let fed := stretch side first ((socks.copyWriteBuff side).unread.take
      ((socks.copyWriteBuff side).unread.length - parsed.2.unread.length)) ++
      (if decide (parsed.1.state = .done) then [.cut] else [])
    (copySniff env side socks).1.pop3Parser = some (fed.foldl pop3Replay parser) ∧
    (copySniff env side socks).1.parsers = socks.parsers ∧ (copySniff env side socks).1.stm = socks.stm ∧
    (copySniff env side socks).2.countP Effect.isPass = fed.countP Mark.isCut := by
  obtain ⟨replayed,cuts⟩ := @pop3Parse_replay side parser (socks.copyWriteBuff side) awake some_ first
  dsimp only at replayed cuts ⊢
  rw [cuts,← replayed]
  unfold copySniff
  rw [held]
  dsimp only
  rw [if_pos (by simp [port,on])]
  refine ⟨rfl,parsers_setWriteBuff,stm_setWriteBuff _,?_⟩
  dsimp only
  split
  · rfl
  · rfl

theorem copyRead_feeds (valid : r.Wired) (held : r.socks.pop3Parser = some parser) (awake : parser.state ≠ .done)
    (port : portNumber r.socks.parsers.reqParser.port = pop3Port) (on : e.env.sniffer = true) (read : e.kind = .read) :
    (copyRead e.env ⟨r.socks.fdOf e.side,data⟩ r.sel r.socks).Feeds r.socks (r.sniffs e) := by
  have same := setWriteBuff_same r.socks e.side
  unfold copyRead
  rw [getCopy_fdOf valid.distinct]
  dsimp only
  split
  · cases got : e.env.recv.clip (r.socks.copyWriteBuff e.side).space with
    | data bytes =>
        obtain ⟨some_,fits⟩ := clip_data got
        have brought : r.flow.brings e = bytes := (brings_read read).trans (congrArg Recv.bytes got)
        have positive := List.length_pos_iff.mpr some_
        have ran : (bytes.length : Int) > 0 := by omega
        have failed : ¬ ((bytes.length : Int) = -1) := by omega
        rw [if_neg (by simp [checkBuffAndReceive,failed]),if_pos (by simpa [checkBuffAndReceive] using ran)]
        dsimp only [checkBuffAndReceive,copyReceived]
        generalize told : (r.socks.setWriteBuff e.side ((r.socks.copyWriteBuff e.side).fill bytes)).setCopy e.side.aux _ = socks
        have filled : socks.copyWriteBuff e.side = (r.socks.copyWriteBuff e.side).fill bytes := by
          rw [← told]
          simp
        have kept : socks.pop3Parser = some parser ∧ socks.parsers = r.socks.parsers ∧ socks.stm = r.socks.stm := by
          rw [← told]
          exact ⟨by simpa using held,by simp,by simp⟩
        have waiting : (socks.copyWriteBuff e.side).unread ≠ [] := by
          rw [filled,CertifiedBuffer.fill_unread,List.take_of_length_le fits]
          exact fun none => some_ (List.append_eq_nil_iff.mp none).2
        obtain ⟨parsed,parsers,stm,reports⟩ := @copySniff_feeds e.side parser socks e.env kept.1 awake
          (by rw [kept.2.1,port]) on waiting (sentTo (r.socks.fdOf e.side.aux) r.trace).length
        have fed := sniffs_fed held port on (by rw [brought]; exact some_) (by rw [brought,← filled])
        rw [← fed] at parsed reports
        refine ⟨?_,parsers.trans kept.2.1,stm.trans kept.2.2,?_⟩
        · intro other found
          cases held.symm.trans found
          exact parsed
        · rw [List.countP_append,reports]
          exact Nat.zero_add _
    | closed =>
        rw [sniffs_quiet ((brings_read read).trans (congrArg Recv.bytes got))]
        simp only [checkBuffAndReceive,same]
        split
        · exact ⟨fun _ held => held,rfl,rfl,rfl⟩
        · exact copyEnded_feeds _ _ _ _
    | failed code =>
        rw [sniffs_quiet ((brings_read read).trans (congrArg Recv.bytes got))]
        simp only [checkBuffAndReceive,same]
        split
        · exact ⟨fun _ held => held,rfl,rfl,rfl⟩
        · exact copyEnded_feeds _ _ _ _
  · rename_i room
    have full : (r.flow.queue e.side).space = 0 := by
      rw [(r.socks.copyWriteBuff e.side).canWrite_space] at room
      exact Nat.eq_zero_of_not_pos room
    rw [sniffs_quiet (brings_full full)]
    exact ⟨fun _ held => by simpa [copyFull] using held,by simp [copyFull],by simp [copyFull],rfl⟩

theorem jump_sniffer {out : Outcome} (kept : out.socks.stm = some .copy) :
    (jump env out).socks.pop3Parser = out.socks.pop3Parser := by
  unfold jump
  split
  · rfl
  · rename_i leaves
    unfold onArrival
    dsimp only
    split
    · rename_i copy
      exact absurd (kept.trans (congrArg some copy.symm)) leaves
    · rfl

theorem relayStep_feeds (valid : r.Wired) (live : r.socks.stm = some .copy) (held : r.socks.pop3Parser = some parser)
    (awake : parser.state ≠ .done) (port : portNumber r.socks.parsers.reqParser.port = pop3Port)
    (on : e.env.sniffer = true) (ran : relayStep data r e = some next) :
    next.socks.pop3Parser = some ((r.sniffs e).foldl pop3Replay parser) ∧
    next.socks.parsers = r.socks.parsers ∧
    next.trace.countP Effect.isPass = r.trace.countP Effect.isPass + (r.sniffs e).countP Mark.isCut := by
  rcases relayStep_cases live ran with ⟨read,rfl⟩ | ⟨write,rfl⟩
  · obtain ⟨parsed,parsers,stm,reports⟩ := @copyRead_feeds data r e parser valid held awake port on read
    obtain ⟨_,effects,_,_,jumped,_⟩ := jump_parts e.env (copyRead e.env ⟨r.socks.fdOf e.side,data⟩ r.sel r.socks)
    refine ⟨?_,jumped.trans parsers,?_⟩
    · exact (jump_sniffer (stm.trans live)).trans (parsed parser held)
    · change (r.trace ++ _).countP _ = _
      rw [effects,List.countP_append,reports]
  · have quiet : r.sniffs e = [] := sniffs_quiet (brings_other (by rw [write]; simp))
    obtain ⟨parsed,parsers,stm,reports⟩ := @copyWrite_feeds r.socks e.env ⟨r.socks.fdOf e.side,data⟩ r.sel
    obtain ⟨_,effects,_,_,jumped,_⟩ := jump_parts e.env (copyWrite e.env ⟨r.socks.fdOf e.side,data⟩ r.sel r.socks)
    rw [quiet]
    refine ⟨?_,jumped.trans parsers,?_⟩
    · exact (jump_sniffer (stm.trans live)).trans (parsed parser held)
    · change (r.trace ++ _).countP _ = _
      rw [effects,List.countP_append,reports]

structure Moved (f g : Flow) (e : RelayEvent) (side : Side) (effects : List Effect) : Prop where
  grown : g.trace = f.trace ++ effects
  received : receivedFrom (f.fd side) effects = if side = e.side then f.brings e else []
  kept : sentTo (f.fd side.aux) effects ++ (g.queue side).unread =
    (f.queue side).unread ++ if side = e.side then f.brings e else []
  either : f.brings e ≠ [] → sentTo (f.fd side.aux) effects = []

theorem moved_still {effects : List Effect} (still : Still effects) (quiet : f.brings e = []) (queues : g.queue = f.queue)
    (grown : g.trace = f.trace ++ effects) : Moved f g e side effects := by
  refine ⟨grown,?_,?_,fun some_ => absurd quiet some_⟩
  · rw [(still _).1,quiet,ite_self]
  · rw [(still _).2,quiet,ite_self,queues,List.nil_append,List.append_nil]

theorem sent_moves (side : Side) (count : Nat) : ∃ rest, Still rest ∧
    (f.sent side count).trace = f.trace ++ ([.send (f.fd side) ((f.queue side.aux).unread.take count)] ++ rest) ∧
    (f.sent side count).queue = Function.update f.queue side.aux ((f.queue side.aux).consume count) := by
  have counted : Still [.addBytesTransferred ((f.queue side.aux).unread.take count).length] := fun _ => ⟨rfl,rfl⟩
  unfold Flow.sent
  dsimp only
  split
  · refine ⟨_,still_append counted ?_,List.append_assoc _ _ _,rfl⟩
    split
    · exact shutdown_still _
    · exact fun _ => ⟨rfl,rfl⟩
  · exact ⟨_,counted,rfl,rfl⟩

theorem step_moves (distinct : ∀ side other, f.fd side = f.fd other → side = other) (step : FlowStep f e g)
    (side : Side) : ∃ effects, Moved f g e side effects := by
  have apart : f.fd e.side ≠ f.fd e.side.aux := fun same => ne_aux _ (distinct _ _ same)
  cases step with
  | starved read room recv nothing =>
      have quiet : f.brings e = [] := by rw [brings_read read,recv,nothing]
      exact ⟨_,moved_still (recv_still nothing) quiet rfl rfl⟩
  | @received bytes notes read room recv some_ fits pass =>
      have brought : f.brings e = bytes := by rw [brings_read read,recv]; rfl
      have silent := pass_still pass
      have nothing : ∀ fd, sentTo fd ([.recv (f.fd e.side) (.data bytes)] ++ notes) = [] := by
        intro fd
        rw [sentTo_append,(silent _).2]
        rfl
      refine ⟨[.recv (f.fd e.side) (.data bytes)] ++ notes,?_,?_,?_,fun _ => nothing _⟩
      · rw [← List.append_assoc]
        rfl
      · rw [receivedFrom_append,(silent _).1,brought,List.append_nil]
        by_cases same : side = e.side
        · rw [if_pos same,same]
          simp [receivedFrom,Recv.bytes]
        · have other : f.fd e.side ≠ f.fd side := fun equal => same (distinct _ _ equal).symm
          rw [if_neg same]
          simp [receivedFrom,other]
      · rw [nothing,brought,List.nil_append]
        by_cases same : side = e.side
        · rw [if_pos same,same]
          simp [List.take_of_length_le fits]
        · rw [if_neg same]
          simp [same]
  | @ended got read room recv nothing =>
      have quiet : f.brings e = [] := by rw [brings_read read,recv,nothing]
      have grown := @ended_trace (f.note [.recv (f.fd e.side) got]) e.side
      rw [trace_note,List.append_assoc] at grown
      refine ⟨_,moved_still (still_append (recv_still nothing) ?_) quiet (ended_queue _) grown⟩
      split
      · exact still_append (shutdown_still .shutRd) (shutdown_still .shutWr)
      · exact shutdown_still .shutRd
  | full read room => exact ⟨[],moved_still (fun _ => ⟨rfl,rfl⟩) (brings_full room) rfl (by simp)⟩
  | blocked write =>
      have quiet : f.brings e = [] := brings_other (by rw [write]; simp)
      exact ⟨_,moved_still (fun other => by simp [receivedFrom,sentTo]) quiet rfl rfl⟩
  | broken write =>
      have quiet : f.brings e = [] := brings_other (by rw [write]; simp)
      exact ⟨_,moved_still (fun other => by simp [receivedFrom,sentTo]) quiet rfl rfl⟩
  | @sent count write =>
      have quiet : f.brings e = [] := brings_other (by rw [write]; simp)
      obtain ⟨rest,silent,grown,queues⟩ := @sent_moves f e.side count
      refine ⟨_,grown,?_,?_,fun some_ => absurd quiet some_⟩
      · rw [receivedFrom_append,(silent _).1,quiet,ite_self]
        rfl
      · rw [sentTo_append,(silent _).2,quiet,ite_self,queues,List.append_nil,List.append_nil]
        rcases side_cases e.side side with rfl | rfl
        · rw [Function.update_of_ne (ne_aux _)]
          simp [sentTo,apart]
        · rw [aux_aux,Function.update_self]
          simp [sentTo]

theorem brings_fits (f : Flow) (e : RelayEvent) : (f.brings e).length ≤ (f.queue e.side).space := by
  unfold Flow.brings
  split
  · cases got : e.env.recv.clip (f.queue e.side).space with
    | data bytes => exact (clip_data got).2
    | closed => exact Nat.zero_le _
    | failed code => exact Nat.zero_le _
  · exact Nat.zero_le _

theorem sniffs_parts (held : r.socks.pop3Parser = some parser) (awake : parser.state ≠ .done)
    (port : portNumber r.socks.parsers.reqParser.port = pop3Port) (on : e.env.sniffer = true)
    (some_ : r.flow.brings e ≠ []) :
    ∃ items ended, items ≠ [] ∧
      r.sniffs e = stretch e.side (sentTo (r.socks.fdOf e.side.aux) r.trace).length items ++
        (if ended then [.cut] else []) ∧
      items <+: (r.flow.queue e.side).unread ++ r.flow.brings e ∧
      (ended = false → items = (r.flow.queue e.side).unread ++ r.flow.brings e) ∧
      ((r.sniffs e).foldl pop3Replay parser).state ≠ .done := by
  have filled : ((r.socks.copyWriteBuff e.side).fill (r.flow.brings e)).unread =
      (r.flow.queue e.side).unread ++ r.flow.brings e := by
    rw [CertifiedBuffer.fill_unread]
    exact congrArg _ (List.take_of_length_le (brings_fits r.flow e))
  have fed := sniffs_fed held port on some_ rfl
  have waiting : ((r.socks.copyWriteBuff e.side).fill (r.flow.brings e)).unread ≠ [] := by
    rw [filled]
    exact fun none => some_ (List.append_eq_nil_iff.mp none).2
  obtain ⟨replayed,_⟩ := @pop3Parse_replay e.side parser _ awake waiting
    (sentTo (r.socks.fdOf e.side.aux) r.trace).length
  rw [← fed] at replayed
  obtain ⟨taken,more,split,_,all⟩ := parseChar_takes awake waiting
  generalize (r.socks.copyWriteBuff e.side).fill (r.flow.brings e) = buff at filled fed replayed split all
  rw [take_front split] at fed
  refine ⟨taken,_,more,fed,?_,?_,?_⟩
  · rw [← filled,split]
    exact List.prefix_append _ _
  · intro open_
    rw [← filled,split,all (of_decide_eq_false open_),List.append_nil]
  · rw [← replayed]
    unfold pop3Parse
    dsimp only
    split
    · simp [pop3ParserInit]
    · assumption

theorem readMessage_away {π : Type} {reader : Reader π} {key : SelectorKey} {sel : Selector}
    {finish : Env → SelectorKey → Selector → SocksConnModel → List Effect → Outcome} (stays : reader.stay ≠ .copy)
    (finishes : ∀ parsed called, (finish env key sel parsed called).next ≠ .copy) :
    (readMessage reader finish env key sel socks).next ≠ .copy := by
  rcases readMessage_cases reader finish env key sel socks with ⟨_,none_⟩ | ⟨_,_,_,_,_,out⟩
  · rw [none_]
    simp
  · rw [out]
    split
    · simp
    · split
      · exact finishes _ _
      · exact stays

theorem writeReply_away {stay : SocksState} {logged : Env → SocksConnModel → List Effect} {key : SelectorKey}
    {sel : Selector} {finish : SelectorKey → Selector → SocksConnModel → List Effect → Outcome} (stays : stay ≠ .copy)
    (finishes : ∀ sent called, (finish key sel sent called).next ≠ .copy) :
    (writeReply stay logged finish env key sel socks).next ≠ .copy := by
  rcases writeReply_cases stay logged finish env key sel socks with none_ | ⟨_,_,out⟩
  · rw [none_]
    simp
  · rw [out]
    split
    · exact stays
    · exact finishes _ _

theorem dials_away {called : List Effect} {family : Nat} {out : Outcome} (dials : Dials env socks called family out) :
    out.next ≠ .copy := by
  rcases dials.next with next | next | next
  all_goals rw [next]; simp

theorem reqDns_away {key : SelectorKey} {sel : Selector} (called : List Effect) :
    (reqDns env key sel socks called).next ≠ .copy := by
  rcases @reqDns_cases env key sel socks called with ⟨_,_,next | next⟩ | ⟨_,_,_,dials⟩
  · rw [next]; simp
  · rw [next]; simp
  · exact dials_away dials

theorem reqSent_socks {key : SelectorKey} {sel : Selector} (called : List Effect) :
    (reqSent key sel socks called).socks = socks := by
  unfold reqSent
  split
  · rfl
  · dsimp only
    split
    · rfl
    · rfl

theorem handler_enters {handler : StateHandler} {kind : EventKind} {key : SelectorKey} {sel : Selector}
    (found : stateHandler kind socks.current = some handler) (outside : socks.current ≠ .copy)
    (enters : (handler env key sel socks).next = .copy) :
    (handler env key sel socks).socks.writeBuff.unread = [] ∧ (handler env key sel socks).socks.stm = socks.stm := by
  rcases stateHandler_cases found with ⟨_,_,rfl⟩ | ⟨_,_,rfl⟩ | ⟨_,_,rfl⟩ | ⟨_,_,rfl⟩ | ⟨_,_,rfl⟩ | ⟨_,_,rfl⟩ |
    ⟨_,_,rfl⟩ | ⟨_,_,rfl⟩ | ⟨copy,_⟩
  · refine absurd enters (readMessage_away (by simp [helloReader]) ?_)
    intro parsed called
    rcases (replyTwo_inert .helloWrite _).2.1 with next | next
    all_goals rw [helloFinish,next]; simp
  · refine absurd enters (writeReply_away (by simp) ?_)
    intro sent called
    rcases helloSent_inert.2.2.2 with ⟨next,_⟩ | ⟨next,_⟩ | next | next
    all_goals rw [next]; simp
  · refine absurd enters (readMessage_away (by simp [authReader]) ?_)
    intro parsed called
    rcases authFinish_inert.2.2 with next | next
    all_goals rw [next]; simp
  · refine absurd enters (writeReply_away (by simp) ?_)
    intro sent called
    rcases authSent_inert.2 with next | next
    all_goals rw [next]; simp
  · refine absurd enters (readMessage_away (by simp [reqReader]) ?_)
    intro parsed called
    rcases reqFinish_cases with ⟨_,next⟩ | ⟨_,_,dials⟩
    · rcases next with next | next | next | next
      all_goals rw [next]; simp
    · exact dials_away dials
  · rcases writeReply_cases .reqWrite (fun env socks => [connInformation env socks]) reqSent env key sel socks with
      none_ | ⟨count,_,out⟩
    · rw [reqWrite,none_] at enters
      cases enters
    · rw [reqWrite,out] at enters ⊢
      split at enters
      · cases enters
      · rename_i drained
        rw [if_neg drained]
        rw [reqSent_socks]
        exact ⟨not_not.mp drained,rfl⟩
  · exact absurd enters (reqDns_away [])
  · refine absurd enters ?_
    rcases @reqConnect_cases env key sel socks with ⟨_,_,_,_,out⟩ | ⟨_,next | next⟩
    · rw [out]
      exact reqDns_away _
    · rw [next]; simp
    · rw [next]; simp
  · exact absurd copy outside

theorem copy_begins_sniffing {before later : Session} {kind : EventKind} {fd : Int} {conn : SocksConnModel}
    (ran : sessionStep data before (.event kind fd env) = some later) (live : before.conn = some socks)
    (going : later.conn = some conn) (outside : socks.current ≠ .copy) (copy : conn.current = .copy)
    (on : env.sniffer = true) (port : portNumber conn.parsers.reqParser.port = pop3Port)
    (distinct : conn.cliConn.socket ≠ conn.srcConn.socket) : (⟨later.sel,conn,[]⟩ : Relay).Sniffing := by
  obtain ⟨handler,found,same,stm,_⟩ := event_parts ran live going
  have enters : (handler env ⟨fd,data⟩ before.sel (handleFirst socks)).next = .copy := by
    rw [SocksConnModel.current,stm] at copy
    exact copy
  obtain ⟨drained,kept⟩ := @handler_enters (handleFirst socks) env handler kind ⟨fd,data⟩ before.sel found outside enters
  have first : (handleFirst socks).stm ≠ some .copy := fun already => outside (Option.some.inj already)
  generalize handler env ⟨fd,data⟩ before.sel (handleFirst socks) = out at same stm enters drained kept
  have arrived : conn = copyOnArrival env {out.socks with stm:=some .copy} := by
    rw [same,jump,if_neg (by rw [kept,enters]; exact first),enters]
    rfl
  rw [copyOnArrival,if_pos on] at arrived
  refine ⟨⟨distinct,?_⟩,by rw [stm,enters],by rw [arrived],port,by rw [arrived]; exact drained,rfl⟩
  intro side
  rw [arrived]
  cases side with
  | cli => rfl
  | src => rfl

structure Sniffed.Watched (s : Sniffed) : Prop where
  wired : s.relay.Wired
  states : s.relay.socks.stm = some .copy ∨ s.relay.socks.stm = some .done ∨ s.relay.socks.stm = some .error
  awake : (s.feed.foldl pop3Replay (pop3ParserInit .raw)).state ≠ .done
  port : portNumber s.relay.socks.parsers.reqParser.port = pop3Port
  balanced : s.relayed ++ s.relay.socks.writeBuff.unread = s.stream
  truthful : s.Truthful
  bytes : ∀ place value, .item .cli place value ∈ s.feed → s.stream[place]? = some value

theorem sniffing_watched (start : r.Sniffing) : (⟨r,[]⟩ : Sniffed).Watched := by
  obtain ⟨wired,live,fresh,port,empty,silent⟩ := start
  refine ⟨wired,.inl live,by simp [pop3ParserInit],port,?_,⟨fresh,?_⟩,by simp⟩
  · rw [Sniffed.relayed,Sniffed.stream,silent,empty]
    rfl
  · rw [silent]
    rfl

structure Watches (data : Nat) (s after : Sniffed) (e : RelayEvent) (gave : List UInt8) : Prop where
  on : e.env.sniffer = true
  live : s.relay.socks.stm = some .copy
  feed : after.feed = s.feed ++ s.relay.sniffs e
  stepped : relayStep data s.relay e = some after.relay
  stream : after.stream = s.stream ++ if .cli = e.side then s.relay.flow.brings e else []
  relayed : after.relayed = s.relayed ++ gave
  kept : gave ++ after.relay.socks.writeBuff.unread =
    s.relay.socks.writeBuff.unread ++ if .cli = e.side then s.relay.flow.brings e else []
  either : s.relay.flow.brings e ≠ [] → gave = []

theorem sniffStep_parts (watched : s.Watched) (ran : sniffStep data s e = some after) :
    ∃ gave, Watches data s after e gave := by
  unfold sniffStep at ran
  split at ran
  · rename_i on
    obtain ⟨next,stepped,rfl⟩ := Option.map_eq_some_iff.mp ran
    have live : s.relay.socks.stm = some .copy := by
      refine watched.states.resolve_right ?_
      intro closed
      rw [closed_no_step closed] at stepped
      cases stepped
    have step := relayStep_flow watched.wired live stepped
    obtain ⟨effects,grown,received,kept,either⟩ := step_moves (fd_inj watched.wired) step .cli
    have sockets := (step_wired step).1
    have client : s.relay.flow.fd .cli = next.socks.cliConn.socket :=
      (watched.wired.wired .cli).trans (congrFun sockets .cli).symm
    have origin : s.relay.flow.fd .src = next.socks.srcConn.socket :=
      (watched.wired.wired .src).trans (congrFun sockets .src).symm
    have trace : next.trace = s.relay.trace ++ effects := grown
    refine ⟨_,on,live,rfl,stepped,?_,?_,kept,either⟩
    · rw [Sniffed.stream,Sniffed.stream,trace,receivedFrom_append,← client,received]
      exact congrArg (receivedFrom · _ ++ _) (watched.wired.wired .cli)
    · rw [Sniffed.relayed,Sniffed.relayed,trace,sentTo_append,← origin]
      exact congrArg (sentTo · _ ++ _) (watched.wired.wired .src)
  · cases ran

theorem preserves_watched (watched : s.Watched) (ran : sniffStep data s e = some after) : after.Watched := by
  obtain ⟨gave,on,live,feed,stepped,stream,relayed,kept,either⟩ := sniffStep_parts watched ran
  obtain ⟨parser,parsers,reports⟩ := relayStep_feeds watched.wired live watched.truthful.parser watched.awake watched.port
    on stepped
  have balanced : after.relayed ++ after.relay.socks.writeBuff.unread = after.stream := by
    rw [relayed,stream,List.append_assoc,kept,← List.append_assoc,watched.balanced]
  refine ⟨relayStep_wired watched.wired live stepped,step_stm live (relayStep_flow watched.wired live stepped),?_,
    by rw [parsers]; exact watched.port,balanced,⟨?_,?_⟩,?_⟩
  · rw [feed,List.foldl_append]
    by_cases quiet : s.relay.flow.brings e = []
    · rw [sniffs_quiet quiet]
      exact watched.awake
    · obtain ⟨_,_,_,_,_,_,awake⟩ := sniffs_parts watched.truthful.parser watched.awake watched.port on quiet
      exact awake
  · rw [parser,feed,List.foldl_append]
  · rw [reports,feed,List.countP_append,watched.truthful.reports]
  · intro place value member
    rw [feed] at member
    rcases List.mem_append.mp member with old | new
    · have found := watched.bytes place value old
      rw [stream]
      exact (List.getElem?_append_left (List.getElem?_eq_some_iff.mp found).1).trans found
    · by_cases quiet : s.relay.flow.brings e = []
      · rw [sniffs_quiet quiet] at new
        cases new
      · obtain ⟨items,ended,_,fed,part,_⟩ := sniffs_parts watched.truthful.parser watched.awake watched.port on quiet
        rw [fed] at new
        rcases List.mem_append.mp new with taken | last
        · obtain ⟨side,from_,found⟩ := stretch_member taken
          obtain ⟨rest,whole⟩ := part
          rw [← side] at from_ found whole
          have reached : s.relayed.length ≤ place := from_
          rw [stream,if_pos side,← watched.balanced,List.append_assoc,List.getElem?_append_right reached]
          exact ((congrArg (·[place - s.relayed.length]?) whole).symm.trans
            (List.getElem?_append_left (List.getElem?_eq_some_iff.mp found).1)).trans found
        · cases ended with
          | true => cases List.mem_singleton.mp last
          | false => cases last

theorem runs_watched {events : List RelayEvent} (start : r.Sniffing) (path : SniffRuns data ⟨r,[]⟩ events s) :
    s.Watched := path.invariant (sniffing_watched start) (fun _ _ _ => preserves_watched)

theorem orderly_runs {events : List RelayEvent} (path : OrderlySniffs data s events after) :
    SniffRuns data s events after := path.weaken (fun _ _ _ ran => ran.2)

abbrev Sniffed.Kept (s : Sniffed) : Prop := Feeds.Kept .cli s.relayed.length s.stream.length s.feed

theorem preserves_kept (watched : s.Watched) (kept : s.Kept) (fair : s.orderly e)
    (ran : sniffStep data s e = some after) : after.Kept := by
  obtain ⟨gave,on,_,feed,_,stream,relayed,_,either⟩ := sniffStep_parts watched ran
  by_cases quiet : s.relay.flow.brings e = []
  · rw [quiet,ite_self,List.append_nil] at stream
    rw [sniffs_quiet quiet,List.append_nil] at feed
    rw [Sniffed.Kept,feed,stream,relayed,List.length_append]
    exact kept_sent kept (Nat.le_add_right _ _)
  · obtain ⟨client,behind⟩ := fair quiet
    obtain ⟨items,ended,some_,fed,_,all,_⟩ := sniffs_parts watched.truthful.parser watched.awake watched.port on quiet
    rw [either quiet,List.append_nil] at relayed
    rw [client] at fed all
    rw [if_pos client.symm] at stream
    have within := congrArg List.length watched.balanced
    rw [List.length_append] at within
    rw [Sniffed.Kept,feed,fed,relayed]
    refine kept_fed kept behind (by omega) some_ ?_
    intro open_
    have length := congrArg List.length (all open_)
    rw [List.length_append] at length
    rw [stream,List.length_append]
    have queued : (s.relay.flow.queue .cli).unread.length = s.relay.socks.writeBuff.unread.length := rfl
    omega

theorem disorderly_unclean (watched : s.Watched) (kept : s.Kept) (unfair : ¬ s.orderly e)
    (ran : sniffStep data s e = some after) : ¬ Clean .cli after.feed := by
  obtain ⟨gave,on,_,feed,_⟩ := sniffStep_parts watched ran
  unfold Sniffed.orderly at unfair
  rw [Classical.not_imp,not_and_or] at unfair
  obtain ⟨brought,wrong⟩ := unfair
  obtain ⟨items,ended,some_,fed,_⟩ := sniffs_parts watched.truthful.parser watched.awake watched.port on brought
  rw [feed,fed]
  by_cases client : e.side = .cli
  · have ahead := wrong.resolve_left (not_not.mpr client)
    push Not at ahead
    rw [client]
    exact fed_again kept ahead some_
  · exact fed_other client some_

theorem orderly_kept {events : List RelayEvent} (start : r.Sniffing) (path : OrderlySniffs data ⟨r,[]⟩ events s) :
    s.Kept := by
  induction path with
  | nil => exact kept_nil
  | snoc earlier last ih => exact preserves_kept (runs_watched start (orderly_runs earlier)) ih last.1 last.2

theorem sniffer_fed_exact {events : List RelayEvent} (start : r.Sniffing) (path : SniffRuns data ⟨r,[]⟩ events s) :
    s.Truthful ∧ (s.ClientFed ↔ OrderlySniffs data ⟨r,[]⟩ events s) := by
  have watched := runs_watched start path
  refine ⟨watched.truthful,?_,?_⟩
  · intro fed
    have clean := fed.clean
    clear fed watched
    induction path with
    | nil => exact .nil
    | @snoc labels middle label last earlier ran ih =>
        have before := runs_watched start earlier
        obtain ⟨gave,parts⟩ := sniffStep_parts before ran
        have orderly := ih (clean_earlier (parts.feed ▸ clean))
        refine .snoc orderly ⟨?_,ran⟩
        by_contra unfair
        exact disorderly_unclean before (orderly_kept start orderly) unfair ran clean
  · intro orderly
    exact ⟨kept_clean (orderly_kept start orderly),watched.bytes⟩

def popRelay : Relay where
  sel := relaySelector
  socks := copyOnArrival {quiet with sniffer:=true}
    {newSocksConn with cliConn.socket:=5,srcConn.socket:=6,stm:=some .copy,parsers.reqParser.port:=[0,110]}
  trace := []

theorem popRelay_sniffing : popRelay.Sniffing := by
  refine ⟨⟨by decide +kernel,?_⟩,rfl,rfl,by decide +kernel,CertifiedBuffer.init_unread _,rfl⟩
  intro side
  cases side <;> rfl

def gives (side : Side) (bytes : List UInt8) : RelayEvent := ⟨.read,side,{quiet with recv:=.data bytes,sniffer:=true}⟩
def takes (side : Side) (count : Nat) : RelayEvent := ⟨.write,side,{quiet with send:=.sent count,sniffer:=true}⟩

theorem popRelay_fed_exact : ∃ s, Transitions.exec (sniffStep 1) ⟨popRelay,[]⟩
      [gives .cli [0x55,0x53],takes .src 2,gives .cli [0x45,0x52]] = some s ∧ places s.feed = [0,1,2,3] ∧
    s.Truthful ∧ (s.ClientFed ↔ OrderlySniffs 1 ⟨popRelay,[]⟩
      [gives .cli [0x55,0x53],takes .src 2,gives .cli [0x45,0x52]] s) := by
  have facts : (Transitions.exec (sniffStep 1) ⟨popRelay,[]⟩
      [gives .cli [0x55,0x53],takes .src 2,gives .cli [0x45,0x52]]).map (places ·.feed) = some [0,1,2,3] := by
    decide +kernel
  obtain ⟨s,ran,fed⟩ := Option.map_eq_some_iff.mp facts
  exact ⟨s,ran,fed,sniffer_fed_exact popRelay_sniffing (Transitions.exec_runs ran)⟩

def servedSniff (data : Nat) (s : Sniffed) (e : RelayEvent) : Option Sniffed :=
  if s.relay.ready e then sniffStep data s e else none

def loginLines : List UInt8 := [0x55,0x53,0x45,0x52,0x20,0x61,0x0A,0x50,0x41,0x53,0x53,0x20,0x62,0x0A]

-- The origin sends a login and the client nothing: there is a report. The client sends
-- "U" and then "S", and nothing of it goes on to the origin yet: the parser gets "UUS".
theorem sniffer_mixes : popRelay.Sniffing ∧
    (∃ s, Transitions.exec (servedSniff 1) ⟨popRelay,[]⟩ [gives .src loginLines] = some s ∧
      s.stream = [] ∧ s.relay.trace.countP Effect.isPass = 1 ∧ ¬ s.ClientFed) ∧
    ∃ s, Transitions.exec (servedSniff 1) ⟨popRelay,[]⟩ [gives .cli [0x55],gives .cli [0x53]] = some s ∧
      s.feed = [.item .cli 0 0x55,.item .cli 0 0x55,.item .cli 1 0x53] ∧ ¬ s.ClientFed := by
  have origin : (Transitions.exec (servedSniff 1) ⟨popRelay,[]⟩ [gives .src loginLines]).map (fun s =>
      (s.stream,s.relay.trace.countP Effect.isPass,s.feed.head?)) = some ([],1,some (.item .src 0 0x55)) := by
    decide +kernel
  have client : (Transitions.exec (servedSniff 1) ⟨popRelay,[]⟩ [gives .cli [0x55],gives .cli [0x53]]).map
      Sniffed.feed = some [.item .cli 0 0x55,.item .cli 0 0x55,.item .cli 1 0x53] := by
    decide +kernel
  obtain ⟨a,ran,facts⟩ := Option.map_eq_some_iff.mp origin
  obtain ⟨nothing,rest⟩ := Prod.mk.inj facts
  obtain ⟨once,first⟩ := Prod.mk.inj rest
  obtain ⟨b,ran',fed⟩ := Option.map_eq_some_iff.mp client
  refine ⟨popRelay_sniffing,⟨a,ran,nothing,once,?_⟩,b,ran',fed,?_⟩
  · intro wrong
    cases wrong.clean.own _ _ _ (List.mem_of_head? first)
  · intro wrong
    have twice := wrong.clean.once
    rw [fed] at twice
    exact absurd twice (by decide)

end Socks5d
