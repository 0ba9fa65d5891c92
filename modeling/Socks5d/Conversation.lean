import Socks5d.ReplyFraming
import Socks5d.HandshakeInput
import Socks5d.Isolation
import Socks5d.Sniffing

namespace Socks5d
open Scan

structure Conserves (f g : Flow) (more : List Effect) : Prop where
  fds : ∀ side, g.fd side = f.fd side
  grown : g.trace = f.trace ++ more
  queues : ∀ side, sentTo (f.fd side.aux) more ++ (g.queue side).unread =
    (f.queue side).unread ++ receivedFrom (f.fd side) more
  others : ∀ fd, (∀ side, fd ≠ f.fd side) → sentTo fd more = []
  counted : Counted f.fd more

-- What the client has to be told before its request counts: the method, and for a login the
-- result of one that was judged.
inductive Admission (trace : List Effect) : List UInt8 → Prop where
  | anonymous : Admission trace [socksVersion,noAuth]
  | login (judged : .verdict username password result ∈ trace) :
      Admission trace [socksVersion,userPass,authVersion,UInt8.ofNat (result % 256).toNat]

inductive Script (trace : List Effect) : List UInt8 → Prop where
  | greeting (method : UInt8) : Script trace [socksVersion,method]
  | admitted (admission : Admission trace prior) : Script trace prior
  | answered (admission : Admission trace prior) (decoded : decodeReply message = some (reply,[])) :
      Script trace (prior ++ message)

def OnlyTo (client : Int) (trace : List Effect) : Prop := ∀ fd, fd ≠ client → sentTo fd trace = []

-- A handshake that ended with a reply of success. `kept` is what lies behind the request in
-- what the client sent, by the three messages that were taken from it.
structure Opened (client origin : Int) (handshake : List Effect) (kept : List UInt8) : Prop where
  only : OnlyTo client handshake
  uncounted : transferred handshake = 0
  script : ∃ prior message reply, Admission handshake prior ∧ decodeReply message = some (reply,[]) ∧
    reply.state = resSuccess ∧ sentTo client handshake = prior ++ message ∧
    RequestHeard prior (segmentsFrom client handshake) kept
  apart : origin ≠ client

inductive Conversation (client : Int) (trace : List Effect) : Prop where
  | handshake (only : OnlyTo client trace) (uncounted : transferred trace = 0) (script : Script trace whole)
      (told : sentTo client trace <+: whole)
  | relay (split : trace = before ++ after) (opened : Opened client origin before kept)
      (inward : sentTo client after <+: kept ++ receivedFrom origin after)
      (outward : sentTo origin after <+: receivedFrom client after)
      (others : ∀ fd, fd ≠ client → fd ≠ origin → sentTo fd after = [])
      (counted : transferred after = (sentTo client after).length + (sentTo origin after).length)

structure Owes (client : Int) (trace : List Effect) (socks : SocksConnModel) (whole : List UInt8) : Prop where
  only : OnlyTo client trace
  total : sentTo client trace ++ socks.writeBuff.unread = whole
  uncounted : transferred trace = 0

def Hears (client : Int) (trace : List Effect) (socks : SocksConnModel) (intake : Intake) : Prop :=
  intake (segmentsFrom client trace) socks.readBuff.unread

structure Carried (client : Int) (trace : List Effect) (socks : SocksConnModel) (before after : List Effect)
    (kept : List UInt8) : Prop where
  split : trace = before ++ after
  opened : Opened client socks.srcConn.socket before kept
  inward : sentTo client after ++ socks.readBuff.unread = kept ++ receivedFrom socks.srcConn.socket after
  outward : sentTo socks.srcConn.socket after ++ socks.writeBuff.unread = receivedFrom client after
  others : ∀ fd, fd ≠ client → fd ≠ socks.srcConn.socket → sentTo fd after = []
  counted : transferred after = (sentTo client after).length + (sentTo socks.srcConn.socket after).length

def Told (client : Int) (trace : List Effect) (socks : SocksConnModel) : SocksState → Prop
  | .helloRead => Owes client trace socks [] ∧ Hears client trace socks (Gathering Unheard helloFormat)
  | .helloWrite => Owes client trace socks [socksVersion,socks.parsers.connectParser.auth] ∧
      Hears client trace socks HelloHeard
  | .authRead => Owes client trace socks [socksVersion,userPass] ∧ socks.writeBuff.unread = [] ∧
      Hears client trace socks (Gathering HelloHeard authFormat)
  | .authWrite => ∃ prior, Admission trace prior ∧ Owes client trace socks prior ∧
      Hears client trace socks (EntryHeard prior)
  | .reqRead => ∃ prior, Admission trace prior ∧ Owes client trace socks prior ∧ socks.writeBuff.unread = [] ∧
      Hears client trace socks (Gathering (EntryHeard prior) requestFormat)
  | .reqDns => ∃ prior, Admission trace prior ∧ Owes client trace socks prior ∧ socks.writeBuff.unread = [] ∧
      Hears client trace socks (RequestHeard prior)
  | .reqConnect => ∃ prior, Admission trace prior ∧ Owes client trace socks prior ∧ socks.writeBuff.unread = [] ∧
      Hears client trace socks (RequestHeard prior) ∧ socks.srcConn.socket ≠ client
  | .reqWrite => ∃ prior message reply, Admission trace prior ∧ decodeReply message = some (reply,[]) ∧
      reply.state = socks.parsers.reqParser.resParser.state ∧ Owes client trace socks (prior ++ message) ∧
      Hears client trace socks (RequestHeard prior) ∧
      (socks.parsers.reqParser.resParser.state = resSuccess → socks.srcConn.socket ≠ client)
  | .copy => ∃ before after kept, Carried client trace socks before after kept
  | .error | .done => Conversation client trace

def SocksState.handshaking : SocksState → Bool
  | .copy | .error | .done => false
  | _ => true

structure Talks (client : Int) (trace : List Effect) (socks : SocksConnModel) (state : SocksState) : Prop where
  own : socks.cliConn.socket = client
  sound : state.handshaking = true → socks.parsers.reqParser.Sound
  told : Told client trace socks state

variable {f g : Flow} {e : RelayEvent} {side : Side} {more called trace : List Effect} {client : Int}
  {socks sent first : SocksConnModel} {whole prior script : List UInt8} {π : Type} {env : Env} {key : SelectorKey} {sel : Selector}
  {out : Outcome} {state : SocksState}

theorem unmoved_counted (fds : Side → Int) (unmoved : Unmoved more) : Counted fds more := by
  rw [Counted,unmoved.2,(unmoved.1 _).2,(unmoved.1 _).2]
  rfl

theorem conserves_still (fds : ∀ side, g.fd side = f.fd side) (grown : g.trace = f.trace ++ more)
    (unmoved : Unmoved more) (queue : g.queue = f.queue) : Conserves f g more := by
  refine ⟨fds,grown,?_,fun fd _ => (unmoved.1 fd).2,unmoved_counted _ unmoved⟩
  intro side
  rw [(unmoved.1 _).1,(unmoved.1 _).2,queue,List.nil_append,List.append_nil]

theorem conserves_later {h : Flow} (conserves : Conserves f g more) (later : List Effect) (unmoved : Unmoved later)
    (fds : ∀ side, h.fd side = f.fd side) (grown : h.trace = g.trace ++ later) (queue : h.queue = g.queue) :
    Conserves f h (more ++ later) := by
  refine ⟨fds,by rw [grown,conserves.grown,List.append_assoc],?_,?_,
    counted_append conserves.counted (unmoved_counted _ unmoved)⟩
  · intro side
    rw [sentTo_append,receivedFrom_append,(unmoved.1 _).1,(unmoved.1 _).2,List.append_nil,List.append_nil,queue]
    exact conserves.queues side
  · intro fd apart
    rw [sentTo_append,(unmoved.1 fd).2,List.append_nil]
    exact conserves.others fd apart

theorem received_conserves (distinct : ∀ side other, f.fd side = f.fd other → side = other)
    (fits : bytes.length ≤ (f.queue side).space) :
    Conserves f ((f.setQueue side ((f.queue side).fill bytes)).note [.recv (f.fd side) (.data bytes)])
      [.recv (f.fd side) (.data bytes)] := by
  refine ⟨fun _ => rfl,rfl,?_,fun _ _ => rfl,rfl⟩
  intro other
  rw [queue_note,queue_setQueue]
  rcases side_cases side other with rfl | rfl
  · simp [receivedFrom,sentTo,Recv.bytes,List.take_of_length_le fits]
  · have apart : f.fd side ≠ f.fd side.aux := fun same => ne_aux _ (distinct _ _ same)
    simp [receivedFrom,sentTo,apart]

theorem taken_conserves (distinct : ∀ side other, f.fd side = f.fd other → side = other) (side : Side)
    (count : Nat) :
    Conserves f ((f.setQueue side.aux ((f.queue side.aux).consume count)).note
      [.send (f.fd side) ((f.queue side.aux).unread.take count),
        .addBytesTransferred ((f.queue side.aux).unread.take count).length])
      [.send (f.fd side) ((f.queue side.aux).unread.take count),
        .addBytesTransferred ((f.queue side.aux).unread.take count).length] := by
  refine ⟨fun _ => rfl,rfl,?_,?_,counted_sent distinct side _⟩
  · intro other
    rw [queue_note,queue_setQueue]
    rcases side_cases side other with rfl | rfl
    · have apart : f.fd side ≠ f.fd side.aux := fun same => ne_aux _ (distinct _ _ same)
      simp [receivedFrom,sentTo,apart]
    · simp [receivedFrom,sentTo]
  · intro fd apart
    simp [sentTo,Ne.symm (apart side)]

theorem recv_unmoved {fd : Int} {got : Recv} (nothing : got.bytes = []) : Unmoved [.recv fd got] := ⟨recv_still nothing,rfl⟩
theorem shutdown_unmoved (fd : Int) (how : ShutHow) : Unmoved [.shutdown fd how] := ⟨shutdown_still how,rfl⟩

theorem idle_unmoved (fd : Int) : Unmoved [.send fd []] := ⟨fun other => by simp [receivedFrom,sentTo],rfl⟩

theorem pass_unmoved {notes : List Effect} (pass : ∀ effect ∈ notes, effect.isPass = true) : Unmoved notes := by
  refine ⟨pass_still pass,?_⟩
  induction notes with
  | nil => rfl
  | cons note rest ih =>
      have counts := ih fun other member => pass other (List.mem_cons_of_mem note member)
      have first := pass note List.mem_cons_self
      cases note with
      | passInformation record => exact counts
      | _ => cases first

theorem step_conserves (distinct : ∀ side other, f.fd side = f.fd other → side = other) (step : FlowStep f e g) :
    ∃ more, Conserves f g more := by
  have fds := (step_wired step).2
  cases step with
  | starved read room recv nothing => exact ⟨_,conserves_still fds rfl (recv_unmoved nothing) rfl⟩
  | @received bytes notes read room recv some fits pass =>
      exact ⟨_,conserves_later (received_conserves distinct fits) notes (pass_unmoved pass) fds rfl rfl⟩
  | @ended got read room recv nothing =>
      have grown := @ended_trace (f.note [.recv (f.fd e.side) got]) e.side
      rw [trace_note,List.append_assoc] at grown
      refine ⟨_,conserves_still fds grown (unmoved_append (recv_unmoved nothing) ?_) (ended_queue _)⟩
      split
      · exact unmoved_append (shutdown_unmoved _ .shutRd) (shutdown_unmoved _ .shutWr)
      · exact shutdown_unmoved _ .shutRd
  | full => exact ⟨[],conserves_still fds (List.append_nil _).symm unmoved_none rfl⟩
  | blocked => exact ⟨_,conserves_still fds rfl (idle_unmoved _) rfl⟩
  | broken => exact ⟨_,conserves_still fds rfl (idle_unmoved _) rfl⟩
  | @sent count =>
      have taken := taken_conserves distinct e.side count
      unfold Flow.sent at fds ⊢
      dsimp only at fds ⊢
      split
      · rename_i empty
        rw [if_pos empty] at fds
        refine ⟨_,conserves_later taken _ ?_ fds rfl rfl⟩
        split
        · exact shutdown_unmoved _ _
        · exact unmoved_none
      · rename_i empty
        rw [if_neg empty] at fds
        exact ⟨_,conserves_later taken [] unmoved_none fds (List.append_nil _).symm rfl⟩

theorem admission_later (admission : Admission trace prior) (more : List Effect) : Admission (trace ++ more) prior := by
  cases admission with
  | anonymous => exact .anonymous
  | login judged => exact .login (List.mem_append_left more judged)

theorem script_later (scripted : Script trace script) (more : List Effect) : Script (trace ++ more) script := by
  cases scripted with
  | greeting method => exact .greeting method
  | admitted admission => exact .admitted (admission_later admission more)
  | answered admission decoded => exact .answered (admission_later admission more) decoded

theorem onlyTo_later (only : OnlyTo client trace) (unmoved : Unmoved more) : OnlyTo client (trace ++ more) := by
  intro fd apart
  rw [sentTo_append,only fd apart,(unmoved.1 fd).2]
  rfl

theorem owes_later (owes : Owes client trace socks whole) (unmoved : Unmoved more)
    (room : sent.writeBuff = socks.writeBuff) : Owes client (trace ++ more) sent whole := by
  refine ⟨onlyTo_later owes.only unmoved,?_,?_⟩
  · rw [sentTo_append,(unmoved.1 client).2,List.append_nil,room]
    exact owes.total
  · rw [transferred_append,owes.uncounted,unmoved.2]
    rfl

theorem owes_same (owes : Owes client trace socks whole) (room : sent.writeBuff = socks.writeBuff) :
    Owes client trace sent whole := by
  have kept := owes_later owes unmoved_none room
  rwa [List.append_nil] at kept

theorem hears_later {intake : Intake} (hears : Hears client trace socks intake) (unmoved : Unmoved more)
    (input : sent.readBuff = socks.readBuff) : Hears client (trace ++ more) sent intake := by
  rw [Hears,segmentsFrom_append,segmentsFrom_none (unmoved.1 client).1,List.append_nil,input]
  exact hears

theorem hears_same {intake : Intake} (hears : Hears client trace socks intake) (input : sent.readBuff = socks.readBuff) :
    Hears client trace sent intake := by
  rw [Hears,input]
  exact hears

theorem owes_conversation (owes : Owes client trace socks whole) (scripted : Script trace script)
    (front : whole <+: script) : Conversation client trace := by
  have told : sentTo client trace <+: whole := ⟨socks.writeBuff.unread,owes.total⟩
  exact .handshake owes.only owes.uncounted scripted (told.trans front)

theorem owes_filled (owes : Owes client trace socks whole) {message : List UInt8}
    (filled : sent.writeBuff = socks.writeBuff.fill message) (room : message.length ≤ socks.writeBuff.space) :
    Owes client trace sent (whole ++ message) := by
  refine ⟨owes.only,?_,owes.uncounted⟩
  rw [filled,CertifiedBuffer.fill_unread,List.take_of_length_le room,← List.append_assoc,owes.total]

theorem readMessage_owes {r : Reader π} {finish : Env → SelectorKey → Selector → SocksConnModel → List Effect → Outcome}
    {format : Framing UInt8} {reading : List UInt8 → π → Prop} {start : Intake} (parses : r.Parses format reading)
    (owes : Owes client trace socks whole) (hears : Hears client trace socks (Gathering start format))
    (own : socks.cliConn.socket = client) :
    ∃ parser buff called, let parsed := {socks with parsers:=r.put socks.parsers parser,readBuff:=buff}
      Owes client (trace ++ called) parsed whole ∧
      (parser = r.init (r.get socks.parsers) ∨ ∃ bytes, parser =
        (scan (r.advance env.users.requireAuth) r.halted (r.init (r.get socks.parsers)) bytes).1) ∧
      (readMessage r finish env key sel socks = ⟨sel,parsed,called,.error⟩ ∨
        Hears client (trace ++ called) parsed (Gathered start format) ∧
          readMessage r finish env key sel socks = finish env key sel parsed called ∨
        Hears client (trace ++ called) parsed (Gathering start format) ∧
          readMessage r finish env key sel socks = ⟨sel,parsed,called,r.stay⟩) := by
  rcases readMessage_cases r finish env key sel socks with ⟨nothing,none⟩ | ⟨bytes,buff,clipped,unread,_,out⟩
  · refine ⟨_,socks.readBuff,_,owes_later owes (recv_unmoved ?_) rfl,.inl rfl,.inl none⟩
    cases got : env.recv.clip socks.readBuff.space with
    | data bytes => exact absurd got (nothing bytes)
    | closed => rfl
    | failed code => rfl
  · refine ⟨_,buff,[.recv socks.cliConn.socket (.data bytes)],⟨?_,?_,?_⟩,.inr ⟨socks.readBuff.unread ++ bytes,rfl⟩,?_⟩
    · intro fd apart
      rw [sentTo_append,owes.only fd apart]
      rfl
    · rw [sentTo_append]
      exact (congrArg (· ++ socks.writeBuff.unread) (List.append_nil _)).trans owes.total
    · rw [transferred_append,owes.uncounted]
      rfl
    · have segments : segmentsFrom client (trace ++ [.recv socks.cliConn.socket (.data bytes)]) =
          segmentsFrom client trace ++ [bytes] := by
        rw [segmentsFrom_append,own,segmentsFrom_data (clip_some clipped)]
      obtain ⟨finishes,waits⟩ := @read_gathers _ r format reading start _ _ bytes _ env.users.requireAuth _ _ parses hears rfl
      rw [out]
      split
      · exact .inl rfl
      · rename_i sound
        split
        · rename_i finished
          refine .inr (.inl ⟨?_,rfl⟩)
          rw [Hears,segments,unread]
          exact finishes finished
        · rename_i unfinished
          refine .inr (.inr ⟨?_,rfl⟩)
          rw [Hears,segments,unread]
          exact waits (by simpa using sound) (by simpa using unfinished)

theorem writeReply_owes {stay : SocksState} {logged : Env → SocksConnModel → List Effect}
    {finish : SelectorKey → Selector → SocksConnModel → List Effect → Outcome}
    (owes : Owes client trace socks whole) (own : socks.cliConn.socket = client)
    (silent : ∀ sent, Unmoved (logged env sent)) :
    ∃ buff called, let sent := {socks with writeBuff:=buff}
      Owes client (trace ++ called) sent whole ∧
      (∀ intake, Hears client trace socks intake → Hears client (trace ++ called) sent intake) ∧
      (writeReply stay logged finish env key sel socks = ⟨sel,sent,called,.error⟩ ∨
        writeReply stay logged finish env key sel socks = ⟨sel,sent,called,stay⟩ ∨
        (buff.unread = [] ∧ writeReply stay logged finish env key sel socks = finish key sel sent called)) := by
  rcases writeReply_cases stay logged finish env key sel socks with failed | ⟨count,_,out⟩
  · exact ⟨socks.writeBuff,_,owes_later owes (idle_unmoved _) rfl,fun _ hears => hears_later hears (idle_unmoved _) rfl,
      .inl failed⟩
  · have gave : sentTo client [Effect.send client (socks.writeBuff.unread.take count)] = socks.writeBuff.unread.take count := by
      simp [sentTo]
    have called := silent {socks with writeBuff:=socks.writeBuff.consume count}
    refine ⟨socks.writeBuff.consume count,[.send socks.cliConn.socket (socks.writeBuff.unread.take count)] ++
      logged env {socks with writeBuff:=socks.writeBuff.consume count},⟨?_,?_,?_⟩,?_,.inr ?_⟩
    · intro fd apart
      rw [sentTo_append,sentTo_append,owes.only fd apart,(called.1 fd).2,own]
      simp [sentTo,Ne.symm apart]
    · rw [sentTo_append,sentTo_append,(called.1 client).2,own,gave,List.append_nil,List.append_assoc,CertifiedBuffer.consume_unread,
        List.take_append_drop]
      exact owes.total
    · rw [transferred_append,transferred_append,owes.uncounted,called.2]
      rfl
    · intro intake hears
      have nothing : receivedFrom client ([.send socks.cliConn.socket (socks.writeBuff.unread.take count)] ++
          logged env {socks with writeBuff:=socks.writeBuff.consume count}) = [] := by
        rw [receivedFrom_append,(called.1 client).1]
        rfl
      rw [Hears,segmentsFrom_append,segmentsFrom_none nothing,List.append_nil]
      exact hears
    · rw [out]
      split
      · exact .inl rfl
      · rename_i empty
        exact .inr ⟨not_not.mp empty,rfl⟩

theorem owes_empty (owes : Owes client trace socks whole) (empty : socks.writeBuff.unread = []) :
    sentTo client trace = whole := by
  rw [← owes.total,empty,List.append_nil]

theorem ended_greeting (owes : Owes client trace socks []) : Conversation client trace :=
  owes_conversation owes (.greeting noAuth) List.nil_prefix

theorem ended_method {method : UInt8} (owes : Owes client trace socks [socksVersion,method]) :
    Conversation client trace := owes_conversation owes (.greeting method) (List.prefix_refl _)

theorem ended_admitted (admission : Admission trace prior) (owes : Owes client trace socks prior) :
    Conversation client trace := owes_conversation owes (.admitted admission) (List.prefix_refl _)

theorem replyTwo_talks {next : SocksState} {reply : List UInt8} {intake : Intake} (two : reply.length = 2)
    (own : socks.cliConn.socket = client) (sound : socks.parsers.reqParser.Sound)
    (owes : Owes client (trace ++ called) socks whole) (hears : Hears client (trace ++ called) socks intake)
    (ends : Conversation client (trace ++ called))
    (tells : ∀ after : SocksConnModel, after.parsers = socks.parsers → Owes client (trace ++ called) after (whole ++ reply) →
      Hears client (trace ++ called) after intake → Told client (trace ++ called) after next) :
    let out := replyTwo next reply key sel socks called
    Talks client (trace ++ out.effects) out.socks out.next := by
  unfold replyTwo
  dsimp only
  split
  · exact ⟨own,fun _ => sound,ends⟩
  · split
    · exact ⟨own,fun _ => sound,ends⟩
    · exact ⟨own,fun _ => sound,tells _ rfl (owes_filled owes rfl (by omega)) (hears_same hears rfl)⟩

theorem helloRead_talks (talks : Talks client trace socks .helloRead) :
    let out := helloRead env key sel socks
    Talks client (trace ++ out.effects) out.socks out.next := by
  obtain ⟨own,sound,told,hears⟩ := talks
  have sound := sound rfl
  obtain ⟨parser,buff,called,owes,_,failed | ⟨heard,done⟩ | ⟨heard,stays⟩⟩ :=
    @readMessage_owes trace client socks [] _ env key sel helloReader helloFinish _ _ _ helloReader_parses told hears own
  · unfold helloRead
    rw [failed]
    exact ⟨own,fun _ => sound,ended_greeting owes⟩
  · unfold helloRead
    rw [done]
    refine replyTwo_talks rfl own sound owes heard (ended_greeting owes) ?_
    intro after parsers owed hearing
    unfold Told
    rw [parsers]
    exact ⟨owed,hearing⟩
  · unfold helloRead
    rw [stays]
    exact ⟨own,fun _ => sound,owes,heard⟩

theorem helloWrite_talks (talks : Talks client trace socks .helloWrite) :
    let out := helloWrite env key sel socks
    Talks client (trace ++ out.effects) out.socks out.next := by
  obtain ⟨own,sound,told,hears⟩ := talks
  have sound := sound rfl
  obtain ⟨buff,called,owes,hearing,failed | stays | ⟨empty,sent⟩⟩ := @writeReply_owes trace client socks _ env key sel
    .helloWrite (fun _ _ => []) helloSent told own (fun _ => unmoved_none)
  · unfold helloWrite
    rw [failed]
    exact ⟨own,fun _ => sound,ended_method owes⟩
  · unfold helloWrite
    rw [stays]
    exact ⟨own,fun _ => sound,owes,hearing _ hears⟩
  · have ends := ended_method owes
    have heard := hearing _ hears
    unfold helloWrite
    rw [sent]
    unfold helloSent
    dsimp only
    split
    · exact ⟨own,fun _ => sound,ends⟩
    · split
      · rename_i none_
        rw [none_] at owes
        exact ⟨own,fun _ => sound,_,.anonymous,owes,empty,.start (.anonymous heard)⟩
      · split
        · rename_i login
          rw [login] at owes
          exact ⟨own,fun _ => sound,owes,empty,.start heard⟩
        · split
          · exact ⟨own,fun _ => sound,ends⟩
          · split
            · exact ⟨own,fun _ => sound,ends⟩
            · exact ⟨own,fun _ => sound,ends⟩

theorem authFinish_talks (own : socks.cliConn.socket = client) (sound : socks.parsers.reqParser.Sound)
    (owes : Owes client (trace ++ called) socks [socksVersion,userPass])
    (hears : Hears client (trace ++ called) socks LoginHeard) :
    let out := authFinish env key sel socks called
    Talks client (trace ++ out.effects) out.socks out.next := by
  unfold authFinish
  dsimp only
  generalize judged : processAuthenticationRequest env.users socks.parsers.authParser.username
    socks.parsers.authParser.password = result
  have unmoved : Unmoved ([.verdict socks.parsers.authParser.username socks.parsers.authParser.password result] ++
      if result ≠ -1 then [.setCurrUser socks.parsers.authParser.username] else []) := by
    split
    · exact ⟨fun _ => ⟨rfl,rfl⟩,rfl⟩
    · exact ⟨fun _ => ⟨rfl,rfl⟩,rfl⟩
  have owed := @owes_later _ _ _ _ socks _ owes unmoved rfl
  have heard := @hears_later _ _ _ socks socks _ hears unmoved rfl
  rw [List.append_assoc] at owed heard
  rw [List.append_assoc]
  refine replyTwo_talks rfl own sound owed heard (ended_method owed) ?_
  intro after _ answered hearing
  have told := List.mem_append_right trace (List.mem_append_right called (List.mem_append_left
    (if result ≠ -1 then [.setCurrUser socks.parsers.authParser.username] else [])
    (List.mem_singleton_self (Effect.verdict socks.parsers.authParser.username socks.parsers.authParser.password result))))
  exact ⟨_,.login told,answered,.login _ hearing⟩

theorem authRead_talks (talks : Talks client trace socks .authRead) :
    let out := authRead env key sel socks
    Talks client (trace ++ out.effects) out.socks out.next := by
  obtain ⟨own,sound,told,empty,hears⟩ := talks
  have sound := sound rfl
  obtain ⟨parser,buff,called,owes,_,failed | ⟨heard,done⟩ | ⟨heard,stays⟩⟩ :=
    @readMessage_owes trace client socks _ _ env key sel authReader authFinish _ _ _ authReader_parses told hears own
  · unfold authRead
    rw [failed]
    exact ⟨own,fun _ => sound,ended_method owes⟩
  · unfold authRead
    rw [done]
    exact authFinish_talks own sound owes heard
  · unfold authRead
    rw [stays]
    exact ⟨own,fun _ => sound,owes,empty,heard⟩

theorem authWrite_talks (talks : Talks client trace socks .authWrite) :
    let out := authWrite env key sel socks
    Talks client (trace ++ out.effects) out.socks out.next := by
  obtain ⟨own,sound,prior,admission,told,hears⟩ := talks
  have sound := sound rfl
  obtain ⟨buff,called,owes,hearing,failed | stays | ⟨empty,sent⟩⟩ := @writeReply_owes trace client socks _ env key sel
    .authWrite (fun _ _ => []) authSent told own (fun _ => unmoved_none)
  · unfold authWrite
    rw [failed]
    exact ⟨own,fun _ => sound,ended_admitted (admission_later admission called) owes⟩
  · unfold authWrite
    rw [stays]
    exact ⟨own,fun _ => sound,prior,admission_later admission called,owes,hearing _ hears⟩
  · unfold authWrite
    rw [sent]
    unfold authSent
    dsimp only
    split
    · exact ⟨own,fun _ => sound,prior,admission_later admission called,owes,empty,.start (hearing _ hears)⟩
    · exact ⟨own,fun _ => sound,ended_admitted (admission_later admission called) owes⟩

theorem answers_talks (own : socks.cliConn.socket = client) (admission : Admission (trace ++ called) prior)
    (owes : Owes client (trace ++ called) socks prior) (empty : socks.writeBuff.unread = [])
    (hears : Hears client (trace ++ called) socks (RequestHeard prior))
    (answers : Answers client socks called out) : Talks client (trace ++ out.effects) out.socks out.next := by
  obtain ⟨more,grown,unmoved⟩ := answers.grown
  have admitted := admission_later admission more
  have ended : Conversation client (trace ++ called ++ more) :=
    ended_admitted admitted (@owes_later _ _ _ _ socks _ owes unmoved rfl)
  have heard := hears_later hears unmoved answers.input
  have waited : out.socks.writeBuff = socks.writeBuff → Owes client (trace ++ called ++ more) out.socks prior ∧
      out.socks.writeBuff.unread = [] := fun same => ⟨owes_later owes unmoved same,by rw [same]; exact empty⟩
  rw [grown,← List.append_assoc]
  refine ⟨by rw [answers.kept]; exact own,fun _ => answers.sound,?_⟩
  rcases answers.next with next | next | next | next | next
  · obtain ⟨message,reply,filled,room,decoded,state⟩ := answers.replies next
    rw [next]
    refine ⟨prior,message,reply,admitted,decoded,state,?_,heard,fun success => answers.reached (.inr ⟨next,success⟩)⟩
    exact owes_filled (@owes_later _ _ _ _ socks _ owes unmoved rfl) filled room
  · obtain ⟨owed,nothing⟩ := waited (answers.waits (.inl next))
    rw [next]
    exact ⟨prior,admitted,owed,nothing,heard⟩
  · obtain ⟨owed,nothing⟩ := waited (answers.waits (.inr next))
    rw [next]
    exact ⟨prior,admitted,owed,nothing,heard,answers.reached (.inl next)⟩
  · rw [next]
    exact ended
  · rw [next]
    exact ended

theorem reqRead_talks (fresh : env.socket ≠ client) (talks : Talks client trace socks .reqRead) :
    let out := reqRead env key sel socks
    Talks client (trace ++ out.effects) out.socks out.next := by
  obtain ⟨own,sound,prior,admission,told,empty,hears⟩ := talks
  have sound := sound rfl
  obtain ⟨parser,buff,called,owes,parsed,read⟩ :=
    @readMessage_owes trace client socks _ _ env key sel reqReader reqFinish _ _ _ reqReader_parses told hears own
  have admitted := admission_later admission called
  have kept : parser.Sound := by
    rcases parsed with rfl | ⟨bytes,rfl⟩
    · exact sound_init sound
    · exact scan_invariant _ _ (sound_init sound) fun _ _ sound => sound_byte sound
  rcases read with failed | ⟨heard,done⟩ | ⟨heard,stays⟩
  · unfold reqRead
    rw [failed]
    exact ⟨own,fun _ => kept,ended_admitted admitted owes⟩
  · unfold reqRead
    rw [done]
    refine @answers_talks _ trace client {socks with parsers:=reqReader.put socks.parsers parser,readBuff:=buff} _ _ own admitted owes
      empty heard (reqFinish_answers fresh kept)
  · unfold reqRead
    rw [stays]
    exact ⟨own,fun _ => kept,prior,admitted,owes,empty,heard⟩

theorem reqDns_talks (fresh : env.socket ≠ client) (talks : Talks client trace socks .reqDns) :
    let out := reqDns env key sel socks []
    Talks client (trace ++ out.effects) out.socks out.next := by
  obtain ⟨own,sound,prior,admission,told,empty,hears⟩ := talks
  have sound := sound rfl
  have owes := @owes_later _ _ _ _ socks _ told unmoved_none rfl
  have heard := @hears_later _ _ _ socks socks _ hears unmoved_none rfl
  exact answers_talks own (admission_later admission []) owes empty heard (reqDns_answers fresh sound)

theorem reqConnect_talks (fresh : env.socket ≠ client) (talks : Talks client trace socks .reqConnect) :
    let out := reqConnect env key sel socks
    Talks client (trace ++ out.effects) out.socks out.next := by
  obtain ⟨own,sound,prior,admission,told,empty,hears,apart⟩ := talks
  have sound := sound rfl
  have owes := @owes_later _ _ _ _ socks _ told unmoved_none rfl
  have heard := @hears_later _ _ _ socks socks _ hears unmoved_none rfl
  exact answers_talks own (admission_later admission []) owes empty heard (reqConnect_answers fresh sound apart)

theorem reqWrite_talks (talks : Talks client trace socks .reqWrite) :
    let out := reqWrite env key sel socks
    Talks client (trace ++ out.effects) out.socks out.next := by
  obtain ⟨own,sound,prior,message,reply,admission,decoded,state,told,hears,apart⟩ := talks
  have sound := sound rfl
  obtain ⟨buff,called,owes,hearing,wrote⟩ := @writeReply_owes trace client socks _ env key sel
    .reqWrite (fun env socks => [connInformation env socks]) reqSent told own (fun _ => ⟨fun _ => ⟨rfl,rfl⟩,rfl⟩)
  have admitted := admission_later admission called
  have ends : Conversation client (trace ++ called) :=
    owes_conversation owes (.answered admitted decoded) (List.prefix_refl _)
  rcases wrote with failed | stays | ⟨empty,sent⟩
  · unfold reqWrite
    rw [failed]
    exact ⟨own,fun _ => sound,ends⟩
  · unfold reqWrite
    rw [stays]
    exact ⟨own,fun _ => sound,prior,message,reply,admitted,decoded,state,owes,hearing _ hears,apart⟩
  · unfold reqWrite
    rw [sent]
    unfold reqSent
    split
    · exact ⟨own,fun _ => sound,ends⟩
    · rename_i success
      have succeeds := not_not.mp success
      dsimp only
      split
      · exact ⟨own,fun _ => sound,ends⟩
      · split
        · refine ⟨own,fun _ => sound,trace ++ called,[],socks.readBuff.unread,(List.append_nil _).symm,?_,?_,?_,fun _ _ _ => rfl,rfl⟩
          · exact ⟨owes.only,owes.uncounted,⟨prior,message,reply,admitted,decoded,state.trans succeeds,
              owes_empty owes empty,hearing _ hears⟩,apart succeeds⟩
          · exact (List.append_nil _).symm
          · exact empty
        · exact ⟨own,fun _ => sound,ends⟩

theorem carried_conversation {before after : List Effect} {kept : List UInt8}
    (carried : Carried client trace socks before after kept) : Conversation client trace :=
  .relay carried.split carried.opened ⟨_,carried.inward⟩ ⟨_,carried.outward⟩ carried.others carried.counted

theorem conversation_later (talked : Conversation client trace) (unmoved : Unmoved more) :
    Conversation client (trace ++ more) := by
  have silent : ∀ fd earlier, sentTo fd (earlier ++ more) = sentTo fd earlier := by
    intro fd earlier
    rw [sentTo_append,(unmoved.1 fd).2,List.append_nil]
  have uncounted : ∀ earlier, transferred (earlier ++ more) = transferred earlier := by
    intro earlier
    rw [transferred_append,unmoved.2,Int.add_zero]
  cases talked with
  | handshake only none_ scripted told =>
      refine .handshake (onlyTo_later only unmoved) ?_ (script_later scripted more) ?_
      · rw [uncounted,none_]
      · rw [silent]
        exact told
  | @relay before after origin kept split opened inward outward others counted =>
      refine @Conversation.relay _ _ before (after ++ more) origin kept ?_ opened ?_ ?_ ?_ ?_
      · rw [split,List.append_assoc]
      · rw [silent,receivedFrom_append,(unmoved.1 _).1,List.append_nil]
        exact inward
      · rw [silent,receivedFrom_append,(unmoved.1 _).1,List.append_nil]
        exact outward
      · intro fd apart far
        rw [silent,others fd apart far]
      · rw [uncounted,silent,silent,counted]

def SocksConnModel.Wired (socks : SocksConnModel) : Prop := ∀ side, (socks.copyOf side).fd = socks.fdOf side

theorem carried_event {before after : List Effect} {kept : List UInt8} {data : Nat} {kind : EventKind}
    (carried : Carried client trace socks before after kept) (own : socks.cliConn.socket = client)
    (wired : socks.Wired) (live : socks.stm = some .copy) (side : Side)
    (ran : stmHandler kind env ⟨socks.fdOf side,data⟩ sel socks = some out) :
    Carried client (trace ++ out.effects) out.socks before (after ++ out.effects) kept ∧ out.socks.Wired := by
  have distinct : socks.cliConn.socket ≠ socks.srcConn.socket := by
    rw [own]
    exact Ne.symm carried.opened.apart
  have valid : Relay.Wired ⟨sel,socks,trace⟩ := ⟨distinct,wired⟩
  have stepped : relayStep data ⟨sel,socks,trace⟩ ⟨kind,side,env⟩ = some ⟨out.sel,out.socks,trace ++ out.effects⟩ := by
    unfold relayStep
    dsimp only
    rw [ran]
    rfl
  have step := relayStep_flow valid live stepped
  have sockets := congrFun (step_wired step).1
  have src : out.socks.srcConn.socket = socks.srcConn.socket := sockets .src
  obtain ⟨more,_,grown,queues,others,counted⟩ := step_conserves (fun one two same => fd_inj valid one two same) step
  obtain rfl : out.effects = more := List.append_cancel_left grown
  have fds : ∀ side, (Relay.flow ⟨sel,socks,trace⟩).fd side = socks.fdOf side := wired
  have toOrigin := queues .cli
  have toClient := queues .src
  rw [fds,fds] at toOrigin toClient
  refine ⟨⟨?_,?_,?_,?_,?_,?_⟩,(relayStep_wired valid live stepped).wired⟩
  · rw [carried.split,List.append_assoc]
  · rw [src]
    exact carried.opened
  · rw [src,sentTo_append,receivedFrom_append,List.append_assoc,← List.append_assoc kept,← carried.inward,List.append_assoc,← own]
    exact congrArg (sentTo socks.cliConn.socket after ++ ·) toClient
  · rw [src,sentTo_append,receivedFrom_append,List.append_assoc,← carried.outward,List.append_assoc,← own]
    exact congrArg (sentTo socks.srcConn.socket after ++ ·) toOrigin
  · intro fd apart far
    rw [src] at far
    rw [sentTo_append,carried.others fd apart far]
    refine others fd ?_
    intro side same
    rw [fds] at same
    cases side with
    | cli => exact apart (same.trans own)
    | src => exact far same
  · unfold Counted at counted
    rw [fds,fds] at counted
    rw [src,transferred_append,sentTo_append,sentTo_append,List.length_append,List.length_append,carried.counted,counted,
      ← own]
    unfold SocksConnModel.fdOf
    push_cast
    omega

theorem copy_handler {kind : EventKind} (live : socks.stm = some .copy) (ran : stmHandler kind env key sel socks = some out) :
    out = jump env (copyRead env key sel socks) ∨ out = jump env (copyWrite env key sel socks) := by
  have first : handleFirst socks = socks := by
    cases socks
    cases live
    rfl
  unfold stmHandler at ran
  rw [live,first] at ran
  cases kind with
  | read => exact .inl (Option.some.inj ran).symm
  | write => exact .inr (Option.some.inj ran).symm
  | block => cases ran

theorem stranger_copy {fd : Int} {data : Nat} (stranger : getCopy fd socks = none) :
    copyRead env ⟨fd,data⟩ sel socks = ⟨sel,socks,[],.error⟩ ∧ copyWrite env ⟨fd,data⟩ sel socks = ⟨sel,socks,[],.error⟩ := by
  unfold copyRead copyWrite
  dsimp only
  rw [stranger]
  exact ⟨rfl,rfl⟩

theorem copy_talks {data : Nat} {kind : EventKind} {fd : Int} (talks : Talks client trace socks .copy)
    (wired : socks.Wired) (live : socks.stm = some .copy)
    (ran : stmHandler kind env ⟨fd,data⟩ sel socks = some out) :
    Talks client (trace ++ out.effects) out.socks out.next ∧ out.socks.Wired := by
  obtain ⟨own,_,before,after,kept,carried⟩ := talks
  have shape := copy_handler live ran
  have client_ : out.socks.cliConn = socks.cliConn := by
    rcases shape with rfl | rfl
    · exact (jump_parts env _).2.2.2.2.2.2.2.1.trans copyRead_keeps.client
    · exact (jump_parts env _).2.2.2.2.2.2.2.1.trans copyWrite_keeps.client
  have next : out.next = .copy ∨ out.next = .done ∨ out.next = .error := by
    rcases shape with rfl | rfl
    · rw [(jump_parts env _).2.2.1]
      exact copyRead_next
    · rw [(jump_parts env _).2.2.1]
      exact copyWrite_next
  have known : ∀ side, fd = socks.fdOf side →
      Talks client (trace ++ out.effects) out.socks out.next ∧ out.socks.Wired := by
    rintro side rfl
    obtain ⟨later,rewired⟩ := carried_event carried own wired live side ran
    refine ⟨⟨by rw [client_]; exact own,?_,?_⟩,rewired⟩
    · intro parses
      rcases next with next | next | next
      all_goals
        rw [next] at parses
        cases parses
    · rcases next with next | next | next
      · rw [next]
        exact ⟨before,_,kept,later⟩
      · rw [next]
        exact carried_conversation later
      · rw [next]
        exact carried_conversation later
  by_cases cli : fd = socks.cliConn.socket
  · exact known .cli cli
  · by_cases src : fd = socks.srcConn.socket
    · exact known .src src
    · have stranger : getCopy fd socks = none := by
        rw [getCopy,if_neg cli,if_neg src]
      obtain ⟨reads,writes⟩ := @stranger_copy socks env sel fd data stranger
      have ended : out = jump env ⟨sel,socks,[],.error⟩ := by
        rcases shape with shape | shape
        · rw [shape,reads]
        · rw [shape,writes]
      have jumped : jump env ⟨sel,socks,[],.error⟩ = ⟨sel,{socks with stm:=some .error},[],.error⟩ := by
        unfold jump
        rw [if_neg (by rw [live]; intro same; cases same)]
        rfl
      rw [ended,jumped]
      refine ⟨⟨own,(fun parses => by cases parses),?_⟩,?_⟩
      · rw [List.append_nil]
        exact carried_conversation carried
      · intro side
        cases side with
        | cli => exact wired .cli
        | src => exact wired .src

theorem talks_same (talks : Talks client trace socks state) (own : first.cliConn = socks.cliConn)
    (origin : first.srcConn = socks.srcConn) (input : first.readBuff = socks.readBuff)
    (room : first.writeBuff = socks.writeBuff) (parsers : first.parsers = socks.parsers) :
    Talks client trace first state := by
  have told := talks.told
  have owes : ∀ {whole}, Owes client trace socks whole → Owes client trace first whole :=
    fun owes => owes_same owes room
  have heard : ∀ {intake}, Hears client trace socks intake → Hears client trace first intake :=
    fun hears => hears_same hears input
  refine ⟨by rw [own]; exact talks.own,fun parses => by rw [parsers]; exact talks.sound parses,?_⟩
  cases state with
  | helloRead => exact ⟨owes told.1,heard told.2⟩
  | helloWrite =>
      unfold Told
      rw [parsers]
      exact ⟨owes told.1,heard told.2⟩
  | authRead =>
      obtain ⟨owed,empty,hears⟩ := told
      exact ⟨owes owed,by rw [room]; exact empty,heard hears⟩
  | authWrite =>
      obtain ⟨prior,admission,owed,hears⟩ := told
      exact ⟨prior,admission,owes owed,heard hears⟩
  | reqRead =>
      obtain ⟨prior,admission,owed,empty,hears⟩ := told
      exact ⟨prior,admission,owes owed,by rw [room]; exact empty,heard hears⟩
  | reqDns =>
      obtain ⟨prior,admission,owed,empty,hears⟩ := told
      exact ⟨prior,admission,owes owed,by rw [room]; exact empty,heard hears⟩
  | reqConnect =>
      obtain ⟨prior,admission,owed,empty,hears,apart⟩ := told
      exact ⟨prior,admission,owes owed,by rw [room]; exact empty,heard hears,by rw [origin]; exact apart⟩
  | reqWrite =>
      obtain ⟨prior,message,reply,admission,decoded,said,owed,hears,apart⟩ := told
      exact ⟨prior,message,reply,admission,decoded,by rw [parsers]; exact said,owes owed,heard hears,by
        rw [parsers,origin]
        exact apart⟩
  | copy =>
      obtain ⟨before,after,kept,split,opened,inward,outward,others,counted⟩ := told
      refine ⟨before,after,kept,split,?_,?_,?_,?_,?_⟩
      · rw [origin]
        exact opened
      · rw [origin,input]
        exact inward
      · rw [origin,room]
        exact outward
      · rw [origin]
        exact others
      · rw [origin]
        exact counted
  | error => exact told
  | done => exact told

theorem handler_talks {kind : EventKind} {handler : StateHandler} (found : stateHandler kind state = some handler)
    (outside : state ≠ .copy) (fresh : env.socket ≠ client) (talks : Talks client trace socks state) :
    let out := handler env key sel socks
    Talks client (trace ++ out.effects) out.socks out.next := by
  rcases stateHandler_cases found with ⟨rfl,_,rfl⟩ | ⟨rfl,_,rfl⟩ | ⟨rfl,_,rfl⟩ | ⟨rfl,_,rfl⟩ | ⟨rfl,_,rfl⟩ | ⟨rfl,_,rfl⟩ |
    ⟨rfl,_,rfl⟩ | ⟨rfl,_,rfl⟩ | ⟨copy,_⟩
  · exact helloRead_talks talks
  · exact helloWrite_talks talks
  · exact authRead_talks talks
  · exact authWrite_talks talks
  · exact reqRead_talks fresh talks
  · exact reqWrite_talks talks
  · exact reqDns_talks fresh talks
  · exact reqConnect_talks fresh talks
  · exact absurd copy outside

theorem arrival_wired (env : Env) (socks : SocksConnModel) : (copyOnArrival env socks).Wired := by
  intro side
  unfold copyOnArrival
  dsimp only
  split
  · cases side <;> rfl
  · cases side <;> rfl

theorem jump_talks (outside : out.next = .copy → out.socks.stm ≠ some .copy) (talks : Talks client trace out.socks out.next) :
    Talks client trace (jump env out).socks (jump env out).next ∧ ((jump env out).next = .copy → (jump env out).socks.Wired) := by
  obtain ⟨_,_,next,_,parsers,input,room,own,origin,_⟩ := jump_parts env out
  rw [next]
  refine ⟨talks_same talks own origin input room parsers,?_⟩
  intro copy
  have moved : jump env out = {out with socks:=onArrival env out.next {out.socks with stm:=some out.next}} := by
    unfold jump
    rw [if_neg (by rw [copy]; exact outside copy)]
  rw [moved,copy]
  exact arrival_wired env _

structure Session.Talking (client : Int) (s : Session) : Prop where
  live : ∀ socks, s.conn = some socks → Talks client s.trace socks socks.current ∧ (socks.current = .copy → socks.Wired)
  ended : s.conn = none → Conversation client s.trace

-- socket() gives no descriptor that is open, so never that of the client.
def SessionEvent.spares (client : Int) : SessionEvent → Bool
  | .event _ _ env => decide (env.socket ≠ client)
  | _ => true

theorem closing_unmoved (sel : Selector) (socks : SocksConnModel) : Unmoved (closeSocksConn sel socks).2 := by
  unfold closeSocksConn
  dsimp only
  refine unmoved_append (unmoved_append ?_ ?_) ?_
  · split
    · exact ⟨fun _ => ⟨rfl,rfl⟩,rfl⟩
    · exact unmoved_none
  · split
    · exact ⟨fun _ => ⟨rfl,rfl⟩,rfl⟩
    · exact unmoved_none
  · split
    · exact ⟨fun _ => ⟨rfl,rfl⟩,rfl⟩
    · exact unmoved_none

variable {data : Nat} {s next : Session} {e : SessionEvent} {events : List SessionEvent}

theorem stm_current {kind : EventKind} (ran : stmHandler kind env key sel socks = some out) : out.socks.current = out.next := by
  obtain ⟨handler,_,rfl⟩ := Option.map_eq_some_iff.mp ran
  obtain ⟨_,_,next,stm,_⟩ := jump_parts env (handler env key sel (handleFirst socks))
  rw [SocksConnModel.current,stm,next]
  rfl

theorem stm_talks {kind : EventKind} {fd : Int} (talks : Talks client trace socks socks.current)
    (wired : socks.current = .copy → socks.Wired) (fresh : env.socket ≠ client)
    (ran : stmHandler kind env ⟨fd,data⟩ sel socks = some out) :
    Talks client (trace ++ out.effects) out.socks out.next ∧ (out.next = .copy → out.socks.Wired) := by
  by_cases copy : socks.current = .copy
  · have live : socks.stm = some .copy := by
      unfold SocksConnModel.current at copy
      cases held : socks.stm with
      | none =>
          rw [held] at copy
          cases copy
      | some state =>
          rw [held] at copy
          exact congrArg some copy
    rw [copy] at talks
    obtain ⟨later,rewired⟩ := copy_talks talks (wired copy) live ran
    exact ⟨later,fun _ => rewired⟩
  · obtain ⟨handler,found,rfl⟩ := Option.map_eq_some_iff.mp ran
    have first : Talks client trace (handleFirst socks) socks.current := talks_same talks rfl rfl rfl rfl rfl
    have later := @handler_talks _ _ (handleFirst socks) env ⟨fd,data⟩ sel _ _ handler found copy fresh first
    have outside : (handler env ⟨fd,data⟩ sel (handleFirst socks)).next = .copy →
        (handler env ⟨fd,data⟩ sel (handleFirst socks)).socks.stm ≠ some .copy := by
      intro enters
      rw [(@handler_enters (handleFirst socks) env handler kind ⟨fd,data⟩ sel found copy enters).2]
      exact fun already => copy (Option.some.inj already)
    rw [(jump_parts env _).2.1]
    exact jump_talks outside later

theorem event_talking {kind : EventKind} {fd : Int} (talking : s.Talking client) (fresh : env.socket ≠ client)
    (ran : sessionStep data s (.event kind fd env) = some next) : next.Talking client := by
  obtain ⟨socks,live,ran⟩ := Option.bind_eq_some_iff.mp ran
  obtain ⟨served,handled,rfl⟩ := Option.map_eq_some_iff.mp ran
  obtain ⟨out,moved,rfl⟩ := Option.map_eq_some_iff.mp handled
  obtain ⟨talks,wired⟩ := talking.live socks live
  obtain ⟨later,rewired⟩ := stm_talks talks wired fresh moved
  unfold checkState
  split
  · rename_i ends
    refine ⟨fun _ live => (by cases live),fun _ => ?_⟩
    dsimp only
    rw [← List.append_assoc]
    refine conversation_later ?_ (closing_unmoved _ _)
    have told := later.told
    rcases Bool.or_eq_true_iff.mp ends with error | done
    · rw [of_decide_eq_true error] at told
      exact told
    · rw [of_decide_eq_true done] at told
      exact told
  · refine ⟨?_,fun gone => (by cases gone)⟩
    intro after going
    cases going
    rw [stm_current moved]
    exact ⟨later,rewired⟩

theorem step_talking (talking : s.Talking client) (fresh : e.spares client = true)
    (ran : servedStep data s e = some next) : next.Talking client := by
  unfold servedStep at ran
  split at ran
  · cases e with
    | event kind fd env => exact event_talking talking (of_decide_eq_true fresh) ran
    | resolved addrs =>
        obtain ⟨socks,live,ran⟩ := Option.bind_eq_some_iff.mp ran
        split at ran
        · cases ran
          obtain ⟨talks,wired⟩ := talking.live socks live
          refine ⟨?_,fun gone => (by cases gone)⟩
          intro after going
          cases going
          exact ⟨talks_same talks rfl rfl rfl rfl rfl,wired⟩
        · cases ran
    | elsewhere sel =>
        cases ran
        exact ⟨talking.live,talking.ended⟩
  · cases ran

theorem talking_start (sel : Selector) (client : Int) : (newSession sel client).Talking client := by
  refine ⟨?_,fun gone => (by cases gone)⟩
  intro socks live
  cases live
  have empty : (CertifiedBuffer.init buffSize).unread = [] := CertifiedBuffer.init_unread buffSize
  exact ⟨⟨rfl,fun _ => sound_zeroed,⟨fun _ _ => rfl,empty,rfl⟩,.start ⟨rfl,empty⟩⟩,fun copy => by cases copy⟩

theorem runs_talking (talking : s.Talking client) (fresh : ∀ e ∈ events, e.spares client = true)
    (ran : Transitions.exec (servedStep data) s events = some next) : next.Talking client := by
  induction events generalizing s with
  | nil =>
      cases ran
      exact talking
  | cons e rest ih =>
      obtain ⟨middle,first,remaining⟩ := Option.bind_eq_some_iff.mp ran
      have after := step_talking talking (fresh e List.mem_cons_self) first
      exact ih after (fun later member => fresh later (List.mem_cons_of_mem e member)) remaining

theorem told_conversation (told : Told client trace socks state) : Conversation client trace := by
  cases state with
  | helloRead => exact ended_greeting told.1
  | helloWrite => exact ended_method told.1
  | authRead => exact ended_method told.1
  | authWrite =>
      obtain ⟨_,admission,owes,_⟩ := told
      exact ended_admitted admission owes
  | reqRead =>
      obtain ⟨_,admission,owes,_⟩ := told
      exact ended_admitted admission owes
  | reqDns =>
      obtain ⟨_,admission,owes,_⟩ := told
      exact ended_admitted admission owes
  | reqConnect =>
      obtain ⟨_,admission,owes,_⟩ := told
      exact ended_admitted admission owes
  | reqWrite =>
      obtain ⟨_,_,_,admission,decoded,_,owes,_⟩ := told
      exact owes_conversation owes (.answered admission decoded) (List.prefix_refl _)
  | copy =>
      obtain ⟨_,_,_,carried⟩ := told
      exact carried_conversation carried
  | error => exact told
  | done => exact told

theorem talking_conversation (talking : s.Talking client) : Conversation client s.trace := by
  cases held : s.conn with
  | none => exact talking.ended held
  | some socks => exact told_conversation (talking.live socks held).1.told

theorem opened_talking (sel other : Selector) (refused : Bool) (client : Int) :
    Session.Talking client (if refused then ⟨sel,none,(closeSocksConn other (acceptedConn client)).2⟩
      else newSession sel client) := by
  split
  · have unmoved := closing_unmoved other (acceptedConn client)
    refine ⟨fun _ live => (by cases live),fun _ => ?_⟩
    refine .handshake (fun fd _ => (unmoved.1 fd).2) unmoved.2 (.greeting noAuth) ?_
    rw [(unmoved.1 client).2]
    exact List.nil_prefix
  · exact talking_start _ client

theorem client_conversation {d opened last : Daemon} {socks mng : List Int} {users : UserTable} {sniffer nio : Bool}
    {listener client : Int} {before after : List DaemonEvent}
    (path : DaemonRuns (daemonStart socks mng users sniffer) before d)
    (accepted : daemonStep d (.accept listener client nio) = some opened)
    (rest : Transitions.exec daemonStep opened after = some last) (alive : last.done = false)
    (fresh : ∀ move ∈ Transitions.lane daemonStep (Daemon.moves d.nextId) opened after, move.spares client = true) :
    Conversation client (callsOf d.nextId last.log) := by
  obtain ⟨start,ran⟩ := accepted_lane path accepted rest alive
  have talking : (opened.session d.nextId).Talking client := by
    rw [start]
    exact opened_talking _ _ _ client
  exact talking_conversation (runs_talking talking fresh ran)

-- A client without a name that sends a byte behind its request, an origin that accepts, and
-- a byte each way.
def visit : List DaemonEvent :=
  entersAnonymously 5 ++
  [.event .read 5 {quiet with recv:=.data [0x05,0x01,0x00,0x01,10,0,0,1,0,80,0x43],socket:=6,connect:=.failed einprogress},
    .event .write 6 {quiet with soError:=some 0},drains 5 10,writes 5 [0x41],drains 6 1,writes 6 [0x42],drains 5 2]

theorem visit_conversation : ∃ opened last, daemonStep (daemonStart [3] [4] .empty true) (.accept 3 5 true) = some opened ∧
    Transitions.exec daemonStep opened visit = some last ∧
    sentTo 5 (callsOf 0 last.log) = [0x05,0x00,0x05,0x00,0x00,0x01,10,0,0,0,0,80,0x43,0x42] ∧
    sentTo 6 (callsOf 0 last.log) = [0x41] ∧ Conversation 5 (callsOf 0 last.log) := by
  have facts : (daemonStep (daemonStart [3] [4] .empty true) (.accept 3 5 true)).bind (fun opened =>
      (Transitions.exec daemonStep opened visit).map fun last => (last.done,sentTo 5 (callsOf 0 last.log),
        sentTo 6 (callsOf 0 last.log),(Transitions.lane daemonStep (Daemon.moves 0) opened visit).all
          (SessionEvent.spares 5))) =
      some (false,[0x05,0x00,0x05,0x00,0x00,0x01,10,0,0,0,0,80,0x43,0x42],[0x41],true) := by decide +kernel
  obtain ⟨opened,accepted,facts⟩ := Option.bind_eq_some_iff.mp facts
  obtain ⟨last,rest,facts⟩ := Option.map_eq_some_iff.mp facts
  obtain ⟨alive,facts⟩ := Prod.mk.inj facts
  obtain ⟨toClient,facts⟩ := Prod.mk.inj facts
  obtain ⟨toOrigin,spares⟩ := Prod.mk.inj facts
  exact ⟨opened,last,accepted,rest,toClient,toOrigin,
    client_conversation .nil accepted rest alive (List.all_eq_true.mp spares)⟩

end Socks5d
