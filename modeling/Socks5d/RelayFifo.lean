import Socks5d.RelayFlow
import Socks5d.Foundations.Pipe

namespace Socks5d
open Pipes

def receivedFrom (fd : Int) (trace : List Effect) : List UInt8 :=
  trace.flatMap fun
    | .recv source got => if source = fd then got.bytes else []
    | _ => []

def sentTo (fd : Int) (trace : List Effect) : List UInt8 :=
  trace.flatMap fun
    | .send target bytes => if target = fd then bytes else []
    | _ => []

def transferred : List Effect → Int
  | [] => 0
  | .addBytesTransferred count::rest => count + transferred rest
  | _::rest => transferred rest

variable {data : Nat} {r after : Relay} {f g : Flow} {e : RelayEvent} {side : Side} {fd : Int}
  {pipes : Side → Pipe UInt8} {effects trace : List Effect}

@[simp] theorem receivedFrom_append (later : List Effect) :
    receivedFrom fd (trace++later) = receivedFrom fd trace ++ receivedFrom fd later := List.flatMap_append

@[simp] theorem sentTo_append (later : List Effect) :
    sentTo fd (trace++later) = sentTo fd trace ++ sentTo fd later := List.flatMap_append

@[simp] theorem transferred_append (later : List Effect) :
    transferred (trace++later) = transferred trace + transferred later := by
  induction trace with
  | nil => rw [List.nil_append,transferred,Int.zero_add]
  | cons effect rest ih =>
      cases effect with
      | addBytesTransferred count =>
          rw [List.cons_append,transferred,transferred,ih,Int.add_assoc]
      | _ => exact ih

-- The relay's view of its two directions: what came from a side, what went to the
-- other one, and the buffer between them.
def Carries (f : Flow) (pipes : Side → Pipe UInt8) : Prop :=
  ∀ side, (pipes side).accepted = receivedFrom (f.fd side) f.trace ∧
    (pipes side).delivered = sentTo (f.fd side.aux) f.trace ∧ (pipes side).queued = (f.queue side).unread

theorem entered_carries (entered : f.Entered) : Carries f fun _ => .empty := by
  intro side
  rw [entered.silent,entered.empty]
  exact ⟨rfl,rfl,rfl⟩

def Still (effects : List Effect) : Prop := ∀ fd, receivedFrom fd effects = [] ∧ sentTo fd effects = []

theorem still_append (left : Still effects) (right : Still trace) : Still (effects++trace) := by
  intro fd
  rw [receivedFrom_append,sentTo_append,(left fd).1,(left fd).2,(right fd).1,(right fd).2]
  exact ⟨rfl,rfl⟩

theorem pass_still (pass : ∀ effect ∈ effects, effect.isPass = true) : Still effects := by
  intro fd
  constructor
  · refine List.flatMap_eq_nil_iff.mpr ?_
    intro effect member
    cases effect with
    | recv => cases pass _ member
    | _ => rfl
  · refine List.flatMap_eq_nil_iff.mpr ?_
    intro effect member
    cases effect with
    | send => cases pass _ member
    | _ => rfl

theorem carries_still (carries : Carries f pipes) (still : Still effects) (fds : ∀ side, g.fd side = f.fd side)
    (queues : g.queue = f.queue) (grown : g.trace = f.trace ++ effects) : Carries g pipes := by
  intro side
  obtain ⟨accepted,delivered,queued⟩ := carries side
  rw [fds,fds,queues,grown,receivedFrom_append,sentTo_append,(still _).1,(still _).2,List.append_nil,List.append_nil]
  exact ⟨accepted,delivered,queued⟩

theorem recv_still {got : Recv} (nothing : got.bytes = []) : Still [.recv fd got] := by
  intro other
  simp [receivedFrom,sentTo,nothing]

theorem shutdown_still (how : ShutHow) : Still [.shutdown fd how] := fun _ => ⟨rfl,rfl⟩

theorem ended_queue (side : Side) : (f.ended side).queue = f.queue := by
  unfold Flow.ended
  dsimp only
  split
  · rfl
  · rfl

theorem received_carries (distinct : ∀ side other, f.fd side = f.fd other → side = other)
    (carries : Carries f pipes) (fits : bytes.length ≤ (f.queue side).space) :
    Carries ((f.setQueue side ((f.queue side).fill bytes)).note [.recv (f.fd side) (.data bytes)])
      (Function.update pipes side ((pipes side).accept bytes)) := by
  intro other
  obtain ⟨accepted,delivered,queued⟩ := carries other
  change _ = receivedFrom (f.fd other) _ ∧ _ = sentTo (f.fd other.aux) _ ∧ _
  rw [trace_note,trace_setQueue,receivedFrom_append,sentTo_append,queue_note,queue_setQueue]
  rcases side_cases side other with rfl | rfl
  · rw [Function.update_self]
    refine ⟨?_,?_,?_⟩
    · simp [Pipe.accept,accepted,receivedFrom,Recv.bytes]
    · simp [Pipe.accept,delivered,sentTo]
    · simp [Pipe.accept,queued,List.take_of_length_le fits]
  · have apart : f.fd side ≠ f.fd side.aux := fun same => ne_aux _ (distinct _ _ same)
    rw [Function.update_of_ne (aux_ne side)]
    refine ⟨?_,?_,?_⟩
    · simp [accepted,receivedFrom,apart]
    · simp [delivered,sentTo]
    · simp [queued]

theorem taken_carries (distinct : ∀ side other, f.fd side = f.fd other → side = other)
    (carries : Carries f pipes) (side : Side) (count : Nat) (total : Int) :
    Carries ((f.setQueue side.aux ((f.queue side.aux).consume count)).note
      [.send (f.fd side) ((f.queue side.aux).unread.take count),.addBytesTransferred total])
      (Function.update pipes side.aux ((pipes side.aux).deliver count)) := by
  intro other
  obtain ⟨accepted,delivered,queued⟩ := carries other
  change _ = receivedFrom (f.fd other) _ ∧ _ = sentTo (f.fd other.aux) _ ∧ _
  rw [trace_note,trace_setQueue,receivedFrom_append,sentTo_append,queue_note,queue_setQueue]
  rcases side_cases side other with rfl | rfl
  · have apart : f.fd side ≠ f.fd side.aux := fun same => ne_aux _ (distinct _ _ same)
    rw [Function.update_of_ne (ne_aux side)]
    refine ⟨?_,?_,?_⟩
    · simp [accepted,receivedFrom]
    · simp [delivered,sentTo,apart]
    · simp [queued]
  · rw [Function.update_self]
    refine ⟨?_,?_,?_⟩
    · simp [Pipe.deliver,accepted,receivedFrom]
    · simp [Pipe.deliver,delivered,queued,sentTo]
    · simp [Pipe.deliver,queued]

theorem one_move (side : Side) (move : Move UInt8) :
    Transitions.Runs Moves pipes [(side,move)] (Function.update pipes side ((pipes side).after move)) :=
  .snoc .nil .move

theorem step_pipes (distinct : ∀ side other, f.fd side = f.fd other → side = other)
    (carries : Carries f pipes) (step : FlowStep f e g) :
    ∃ moves there, Transitions.Runs Moves pipes moves there ∧ Carries g there := by
  have fds := (step_wired step).2
  cases step with
  | starved read room recv nothing =>
      exact ⟨[],pipes,.nil,carries_still carries (recv_still nothing) fds rfl rfl⟩
  | @received bytes notes read room recv some fits pass =>
      refine ⟨_,_,one_move e.side (.accept bytes),?_⟩
      exact carries_still (received_carries distinct carries fits) (pass_still pass) fds rfl rfl
  | @ended got read room recv nothing =>
      have grown := @ended_trace (f.note [.recv (f.fd e.side) got]) e.side
      rw [trace_note,List.append_assoc] at grown
      refine ⟨[],pipes,.nil,carries_still carries (still_append (recv_still nothing) ?_) fds (ended_queue _) grown⟩
      split
      · exact still_append (shutdown_still .shutRd) (shutdown_still .shutWr)
      · exact shutdown_still .shutRd
  | full =>
      exact ⟨[],pipes,.nil,@carries_still _ _ _ [] carries (fun _ => ⟨rfl,rfl⟩) fds rfl (by simp)⟩
  | blocked =>
      exact ⟨[],pipes,.nil,carries_still carries (fun other => by simp [receivedFrom,sentTo]) fds rfl rfl⟩
  | broken =>
      exact ⟨[],pipes,.nil,carries_still carries (fun other => by simp [receivedFrom,sentTo]) fds rfl rfl⟩
  | @sent count =>
      refine ⟨_,_,one_move e.side.aux (.deliver count),?_⟩
      have taken := taken_carries distinct carries e.side count ((f.queue e.side.aux).unread.take count).length
      unfold Flow.sent at fds ⊢
      dsimp only at fds ⊢
      split
      · rename_i empty
        rw [if_pos empty] at fds
        refine carries_still taken ?_ fds rfl rfl
        split
        · exact shutdown_still _
        · exact fun _ => ⟨rfl,rfl⟩
      · rename_i empty
        rw [if_neg empty] at fds
        exact @carries_still _ _ _ [] taken (fun _ => ⟨rfl,rfl⟩) fds rfl (by simp)

def Relays (fds : Side → Int) (f : Flow) (pipes : Side → Pipe UInt8) : Prop := f.fd = fds ∧ Carries f pipes

theorem runs_pipes (distinct : ∀ side other, f.fd side = f.fd other → side = other)
    (carries : Carries f pipes) (path : FlowRuns f events g) :
    ∃ moves there, Transitions.Runs Moves pipes moves there ∧ Relays f.fd g there := by
  refine path.simulate (show Relays f.fd f pipes from ⟨rfl,carries⟩) ?_
  intro before label next here held step
  obtain ⟨fds,carried⟩ := held
  have apart : ∀ side other, before.fd side = before.fd other → side = other := by
    rw [fds]
    exact distinct
  obtain ⟨moves,there,reached,carries⟩ := step_pipes apart carried step.2
  exact ⟨moves,there,reached,(funext (step_wired step.2).2).trans fds,carries⟩

theorem carries_drained (carries : Carries f pipes) (empty : (f.queue side).unread = []) :
    receivedFrom (f.fd side) f.trace = sentTo (f.fd side.aux) f.trace := by
  obtain ⟨accepted,delivered,queued⟩ := carries side
  have whole := (pipes side).drained.mp (queued.trans empty)
  rw [← accepted,← delivered,whole]

theorem carries_drained_iff (carries : Carries f pipes) :
    (f.queue side).unread = [] ↔ receivedFrom (f.fd side) f.trace = sentTo (f.fd side.aux) f.trace := by
  refine ⟨carries_drained carries,?_⟩
  intro equal
  obtain ⟨accepted,delivered,queued⟩ := carries side
  rw [← queued]
  exact (pipes side).drained.mpr (by rw [accepted,delivered,equal])

def Counted (fds : Side → Int) (effects : List Effect) : Prop :=
  transferred effects = (sentTo (fds .cli) effects).length + (sentTo (fds .src) effects).length

theorem counted_append {fds : Side → Int} (left : Counted fds trace) (right : Counted fds effects) :
    Counted fds (trace++effects) := by
  unfold Counted at left right ⊢
  rw [transferred_append,sentTo_append,sentTo_append,List.length_append,List.length_append,left,right]
  omega

theorem counted_sent (distinct : ∀ side other, f.fd side = f.fd other → side = other) (side : Side)
    (bytes : List UInt8) : Counted f.fd [.send (f.fd side) bytes,.addBytesTransferred bytes.length] := by
  have apart : f.fd side ≠ f.fd side.aux := fun same => ne_aux _ (distinct _ _ same)
  cases side with
  | cli =>
      change f.fd .cli ≠ f.fd .src at apart
      simp [Counted,transferred,sentTo,apart]
  | src =>
      change f.fd .src ≠ f.fd .cli at apart
      simp [Counted,transferred,sentTo,apart]

def Effect.uncounted : Effect → Bool
  | .send _ bytes => decide (bytes = [])
  | .addBytesTransferred _ => false
  | _ => true

theorem counted_none (fds : Side → Int) (none : ∀ effect ∈ effects, effect.uncounted = true) :
    Counted fds effects := by
  have sent : ∀ fd, sentTo fd effects = [] := by
    intro fd
    refine List.flatMap_eq_nil_iff.mpr ?_
    intro effect member
    have plain := none effect member
    cases effect with
    | send target bytes =>
        simp only [Effect.uncounted,decide_eq_true_eq] at plain
        simp [plain]
    | _ => rfl
  have total : transferred effects = 0 := by
    clear sent
    induction effects with
    | nil => rfl
    | cons effect rest ih =>
        have plain := none effect List.mem_cons_self
        have tail := ih fun other member => none other (List.mem_cons_of_mem effect member)
        rw [← List.singleton_append,transferred_append,tail]
        cases effect with
        | addBytesTransferred => cases plain
        | _ => rfl
  rw [Counted,total,sent,sent]
  rfl

theorem step_counted (distinct : ∀ side other, f.fd side = f.fd other → side = other)
    (counted : Counted f.fd f.trace) (step : FlowStep f e g) : Counted g.fd g.trace := by
  rw [show g.fd = f.fd from funext (step_wired step).2]
  cases step with
  | starved => exact counted_append counted (counted_none _ (by simp [Effect.uncounted]))
  | received read room recv some fits pass =>
      refine counted_append (counted_append counted (counted_none _ (by simp [Effect.uncounted]))) ?_
      refine counted_none _ ?_
      intro effect member
      cases effect with
      | passInformation => rfl
      | _ => cases pass _ member
  | @ended got =>
      have grown := @ended_trace (f.note [.recv (f.fd e.side) got]) e.side
      rw [grown]
      refine counted_append (counted_append counted (counted_none _ (by simp [Effect.uncounted]))) ?_
      refine counted_none _ ?_
      split
      · simp [Effect.uncounted]
      · simp [Effect.uncounted]
  | full => exact counted
  | blocked => exact counted_append counted (counted_none _ (by simp [Effect.uncounted]))
  | broken => exact counted_append counted (counted_none _ (by simp [Effect.uncounted]))
  | @sent count =>
      have sent := counted_append counted (counted_sent distinct e.side ((f.queue e.side.aux).unread.take count))
      unfold Flow.sent
      dsimp only
      split
      · refine counted_append sent (counted_none _ ?_)
        split
        · simp [Effect.uncounted]
        · simp
      · exact sent

def Orderly (fds : Side → Int) (past : List Effect) : Effect → Prop
  | .shutdown fd .shutWr => ∀ side, fd = fds side →
      endedIn past (fds side.aux) = true ∧ receivedFrom (fds side.aux) past = sentTo (fds side) past
  | _ => True

theorem orderly_shut {fds : Side → Int} (distinct : ∀ side other, fds side = fds other → side = other)
    (ended : endedIn trace (fds side) = true)
    (drained : receivedFrom (fds side) trace = sentTo (fds side.aux) trace) :
    Orderly fds trace (.shutdown (fds side.aux) .shutWr) := by
  intro other same
  have equal := distinct _ _ same
  subst equal
  rw [aux_aux]
  exact ⟨ended,drained⟩

theorem still_drained {fds : Side → Int} (still : Still effects)
    (drained : receivedFrom (fds side) trace = sentTo (fds side.aux) trace) :
    receivedFrom (fds side) (trace++effects) = sentTo (fds side.aux) (trace++effects) := by
  rw [receivedFrom_append,sentTo_append,(still _).1,(still _).2,List.append_nil,List.append_nil,drained]

theorem step_orderly (distinct : ∀ side other, f.fd side = f.fd other → side = other)
    (steady : f.Steady) (recalled : f.Recalled) (carries : Carries f pipes) (step : FlowStep f e g) :
    ∃ effects, g.trace = f.trace ++ effects ∧ Trace.Each (Orderly f.fd) f.trace effects := by
  cases step with
  | starved => exact ⟨_,rfl,by simp [Orderly]⟩
  | received read room recv some fits pass =>
      refine ⟨_,List.append_assoc _ _ _,Trace.each_append.mpr ⟨by simp [Orderly],Trace.each_silent ?_⟩⟩
      intro effect member past
      cases effect with
      | passInformation => trivial
      | _ => cases pass _ member
  | @ended got read room recv nothing lasting =>
      have grown := @ended_trace (f.note [.recv (f.fd e.side) got]) e.side
      rw [trace_note,List.append_assoc] at grown
      refine ⟨_,grown,?_⟩
      split
      · rename_i empty
        have still := still_append (@recv_still (f.fd e.side) got nothing) (@shutdown_still (f.fd e.side) .shutRd)
        have some : ∀ bytes, got = .data bytes → bytes ≠ [] := fun bytes same => by
          rw [same] at recv
          exact (clip_data recv).1
        have ended := ended_later (recv_ends nothing some lasting f.trace (f.fd e.side))
          [.shutdown (f.fd e.side) .shutRd]
        rw [List.append_assoc] at ended
        refine ⟨trivial,trivial,?_,trivial⟩
        rw [List.append_assoc]
        exact orderly_shut distinct ended (still_drained still (carries_drained carries empty))
      · exact ⟨trivial,trivial,trivial⟩
  | full => exact ⟨[],by simp,by simp⟩
  | blocked => exact ⟨_,rfl,by simp [Orderly]⟩
  | broken => exact ⟨_,rfl,by simp [Orderly]⟩
  | @sent count =>
      have taken := taken_carries distinct carries e.side count ((f.queue e.side.aux).unread.take count).length
      unfold Flow.sent
      dsimp only
      split
      · rename_i empty
        refine ⟨_,List.append_assoc _ _ _,Trace.each_append.mpr ⟨⟨trivial,trivial,trivial⟩,?_⟩⟩
        split
        · rename_i shut
          refine ⟨?_,trivial⟩
          have closed : (f.mask e.side.aux).read = false := by
            have pair := steady.paired e.side.aux
            rw [aux_aux] at pair
            rw [← pair]
            simp at shut
            simpa using ((interest_noop _).mp shut).2
          have ended := ended_later (recalled.heard e.side.aux closed)
            [.send (f.fd e.side) ((f.queue e.side.aux).unread.take count),
              .addBytesTransferred ((f.queue e.side.aux).unread.take count).length]
          have order := orderly_shut distinct ended (carries_drained taken empty)
          rw [aux_aux] at order
          simpa only [fd_setInterests,fd_note,fd_setQueue] using order
        · trivial
      · exact ⟨_,rfl,trivial,trivial,trivial⟩

structure Faithful (fds : Side → Int) (f : Flow) : Prop where
  counted : Counted fds f.trace
  orderly : Trace.Each (Orderly fds) [] f.trace

theorem runs_faithful (distinct : ∀ side other, f.fd side = f.fd other → side = other)
    (entered : f.Entered) (path : FlowRuns f events g) : Faithful f.fd g := by
  induction path with
  | nil =>
      refine ⟨?_,?_⟩
      · rw [entered.silent]
        rfl
      · rw [entered.silent]
        trivial
  | snoc before last ih =>
      obtain ⟨fds,steady,recalled⟩ := flow_runs_steady distinct entered before
      obtain ⟨_,_,_,_,carries⟩ := runs_pipes distinct (entered_carries entered) before
      rw [← fds] at distinct ih ⊢
      obtain ⟨effects,grown,orderly⟩ := step_orderly distinct steady recalled carries last.2
      refine ⟨?_,?_⟩
      · have counted := step_counted distinct ih.counted last.2
        rwa [show _ = _ from funext (step_wired last.2).2] at counted
      · rw [grown]
        exact Trace.each_extend ih.orderly orderly

theorem relay_fifo (entered : r.Entered) (path : RelayRuns data r events after) :
    sentTo after.socks.srcConn.socket after.trace ++ after.socks.writeBuff.unread =
      receivedFrom after.socks.cliConn.socket after.trace ∧
    sentTo after.socks.cliConn.socket after.trace ++ after.socks.readBuff.unread =
      receivedFrom after.socks.srcConn.socket after.trace ∧
    transferred after.trace = (sentTo after.socks.cliConn.socket after.trace).length +
      (sentTo after.socks.srcConn.socket after.trace).length ∧
    ∀ earlier later side, after.trace = earlier ++ .shutdown (after.socks.fdOf side) .shutWr :: later →
      endedIn earlier (after.socks.fdOf side.aux) = true ∧
      receivedFrom (after.socks.fdOf side.aux) earlier = sentTo (after.socks.fdOf side) earlier := by
  obtain ⟨flows,valid,_⟩ := relay_runs entered.wired entered.view.live path
  have distinct := fd_inj entered.wired
  obtain ⟨moves,pipes,_,fds,carries⟩ := runs_pipes distinct (entered_carries entered.view) flows
  have faithful := runs_faithful distinct entered.view flows
  have wired : r.flow.fd = after.socks.fdOf := fds.symm.trans (funext valid.wired)
  rw [wired] at faithful fds
  have balanced : ∀ side, sentTo (after.socks.fdOf side.aux) after.trace ++ (after.socks.copyWriteBuff side).unread =
      receivedFrom (after.socks.fdOf side) after.trace := by
    intro side
    obtain ⟨accepted,delivered,queued⟩ := carries side
    have whole := (pipes side).balanced
    rw [accepted,delivered,queued,fds] at whole
    exact whole
  refine ⟨balanced .cli,balanced .src,faithful.counted,?_⟩
  intro earlier later side split
  exact Trace.each_at faithful.orderly split side rfl

theorem newRelay_fifo :
    ∃ after, Transitions.exec (relayStep 1) newRelay
      [hears .cli (.data [0x41,0x42]),sends .src 1,hears .cli .closed,sends .src 1] = some after ∧
    sentTo after.socks.srcConn.socket after.trace ++ after.socks.writeBuff.unread =
      receivedFrom after.socks.cliConn.socket after.trace ∧
    sentTo after.socks.cliConn.socket after.trace ++ after.socks.readBuff.unread =
      receivedFrom after.socks.srcConn.socket after.trace ∧
    transferred after.trace = (sentTo after.socks.cliConn.socket after.trace).length +
      (sentTo after.socks.srcConn.socket after.trace).length ∧
    ∀ earlier later side, after.trace = earlier ++ .shutdown (after.socks.fdOf side) .shutWr :: later →
      endedIn earlier (after.socks.fdOf side.aux) = true ∧
      receivedFrom (after.socks.fdOf side.aux) earlier = sentTo (after.socks.fdOf side) earlier := by
  have facts : (Transitions.exec (relayStep 1) newRelay
      [hears .cli (.data [0x41,0x42]),sends .src 1,hears .cli .closed,sends .src 1]).isSome = true := by
    decide +kernel
  obtain ⟨after,ran⟩ := Option.isSome_iff_exists.mp facts
  exact ⟨after,ran,relay_fifo newRelay_entered (Transitions.exec_runs ran)⟩

-- The end of a stream as copy_read meets it: there was room to ask for more, recv
-- gave nothing, and errno does not say to come back later.
def endOfStream (e : RelayEvent) (buff : CertifiedBuffer) : Bool :=
  let got := e.env.recv.clip buff.space
  decide (e.kind = .read) && decide (0 < buff.space) && decide (got.bytes = []) && !got.again e.env.errno

theorem step_done (steady : f.Steady) (live : f.stm = some .copy) (step : FlowStep f e g) :
    g.stm = some .done ↔ endOfStream e (f.queue e.side) = true ∧ (f.mask e.side.aux).read = false := by
  cases step with
  | starved read room recv nothing again => simp [endOfStream,recv,again,live]
  | received read room recv some fits pass => simp [endOfStream,recv,Recv.bytes,some,live,Flow.setInterests,Flow.setQueue]
  | @ended got read room recv nothing lasting =>
      rw [ended_stm (note_steady steady _)]
      have ends : endOfStream e (f.queue e.side) = true := by simp [endOfStream,read,room,recv,nothing,lasting]
      rw [mask_note]
      split
      · rename_i ended
        simp [ends,ended]
      · rename_i going
        simp [going]
  | full read room => simp [endOfStream,room,live,Flow.setInterests]
  | blocked write => simp [endOfStream,write,live]
  | broken write => simp [endOfStream,write]
  | @sent count write =>
      have stm := @sent_stm f e.side count
      simp [endOfStream,write,stm,live]

theorem step_done_queue (live : f.stm = some .copy) (step : FlowStep f e g) (done : g.stm = some .done) :
    g.queue = f.queue := by
  cases step with
  | starved => rfl
  | received => exact absurd (live.symm.trans done) (by decide)
  | ended => exact ended_queue e.side
  | full => rfl
  | blocked => rfl
  | broken => rfl
  | @sent count => exact absurd (live.symm.trans ((sent_stm e.side count).symm.trans done)) (by decide)

theorem done_exact (entered : r.Entered) (path : RelayRuns data r events before)
    (ran : relayStep data before e = some after) :
    after.socks.stm = some .done ↔ endOfStream e (before.socks.copyWriteBuff e.side) = true ∧
      .shutdown (before.socks.fdOf e.side.aux) .shutRd ∈ before.trace := by
  obtain ⟨valid,steady,recalled⟩ := runs_steady entered path
  have live := relay_live entered path ran
  have hung := recalled.hung e.side.aux
  rw [show before.flow.fd e.side.aux = before.socks.fdOf e.side.aux from valid.wired e.side.aux] at hung
  rw [show before.trace = before.flow.trace from rfl,← hung]
  exact step_done steady live (relayStep_flow valid live ran)

theorem done_drained_exact (entered : r.Entered) (path : RelayRuns data r events before)
    (ran : relayStep data before e = some after) :
    (after.socks.stm = some .done → after.socks.readBuff.unread = [] ∧ after.socks.writeBuff.unread = []) ↔
    (endOfStream e (before.socks.copyWriteBuff e.side) = true →
      .shutdown (before.socks.fdOf e.side.aux) .shutRd ∈ before.trace →
      ∀ side, receivedFrom (before.socks.fdOf side) before.trace =
        sentTo (before.socks.fdOf side.aux) before.trace) := by
  obtain ⟨flows,valid,_⟩ := relay_runs entered.wired entered.view.live path
  have live := relay_live entered path ran
  obtain ⟨_,pipes,_,fds,carries⟩ := runs_pipes (fd_inj entered.wired) (entered_carries entered.view) flows
  have wired : before.flow.fd = before.socks.fdOf := funext valid.wired
  have sent : ∀ side, (before.socks.copyWriteBuff side).unread = [] ↔
      receivedFrom (before.socks.fdOf side) before.trace = sentTo (before.socks.fdOf side.aux) before.trace := by
    intro side
    rw [← wired]
    exact carries_drained_iff carries
  have kept : after.socks.stm = some .done → ∀ side, after.socks.copyWriteBuff side = before.socks.copyWriteBuff side :=
    fun done side => congrFun (step_done_queue live (relayStep_flow valid live ran) done) side
  constructor
  · intro drained ends gone side
    have done := (done_exact entered path ran).mpr ⟨ends,gone⟩
    obtain ⟨read,write⟩ := drained done
    rw [← sent,← kept done]
    cases side with
    | cli => exact write
    | src => exact read
  · intro settled done
    obtain ⟨ends,gone⟩ := (done_exact entered path ran).mp done
    have empty : ∀ side, (after.socks.copyWriteBuff side).unread = [] := by
      intro side
      rw [kept done,sent]
      exact settled ends gone side
    exact ⟨empty .src,empty .cli⟩

theorem newRelay_done_exact :
    ∃ before after, Transitions.exec (relayStep 1) newRelay
      [hears .cli (.data [0x41]),sends .src 1,hears .src .closed] = some before ∧
    relayStep 1 before (hears .cli .closed) = some after ∧
    ((after.socks.stm = some .done → after.socks.readBuff.unread = [] ∧ after.socks.writeBuff.unread = []) ↔
    (endOfStream (hears .cli .closed) (before.socks.copyWriteBuff .cli) = true →
      .shutdown (before.socks.fdOf .src) .shutRd ∈ before.trace →
      ∀ side, receivedFrom (before.socks.fdOf side) before.trace =
        sentTo (before.socks.fdOf side.aux) before.trace)) := by
  have facts : ((Transitions.exec (relayStep 1) newRelay [hears .cli (.data [0x41]),sends .src 1,
      hears .src .closed]).bind fun before => relayStep 1 before (hears .cli .closed)).isSome = true := by
    decide +kernel
  obtain ⟨after,both⟩ := Option.isSome_iff_exists.mp facts
  obtain ⟨before,ran,last⟩ := Option.bind_eq_some_iff.mp both
  exact ⟨before,after,ran,last,done_drained_exact newRelay_entered (Transitions.exec_runs ran) last⟩

-- A byte of the client waits for a slow origin when both streams end.
theorem second_end_drops : newRelay.Entered ∧
    ∃ after, Transitions.exec (selectStep 1) newRelay
      [hears .cli (.data [0x41]),hears .cli .closed,hears .src .closed] = some after ∧
    after.socks.stm = some .done ∧ after.socks.writeBuff.unread = [0x41] := by
  have facts : (Transitions.exec (selectStep 1) newRelay
      [hears .cli (.data [0x41]),hears .cli .closed,hears .src .closed]).map
        (fun after => (after.socks.stm,after.socks.writeBuff.unread)) = some (some .done,[0x41]) := by
    decide +kernel
  obtain ⟨after,ran,found⟩ := Option.map_eq_some_iff.mp facts
  exact ⟨newRelay_entered,after,ran,Prod.mk.inj found⟩

end Socks5d
