import Socks5d.RelayFifo

namespace Socks5d

-- What a half close forbids from then on: no recv after SHUT_RD, no send after SHUT_WR,
-- and neither of them twice.
def Permitted (past : List Effect) : Effect → Prop
  | .recv fd _ => .shutdown fd .shutRd ∉ past
  | .send fd _ => .shutdown fd .shutWr ∉ past
  | .shutdown fd how => .shutdown fd how ∉ past
  | _ => True

structure Flow.Shut (f : Flow) : Prop where
  closes : ∀ side, .shutdown (f.fd side.aux) .shutWr ∈ f.trace ↔
    (f.mask side).read = false ∧ (f.queue side).unread = []
  settled : ∀ side, (f.mask side).read = false → (f.queue side).unread = [] → (f.wants side.aux).write = false
  permitted : Trace.Each Permitted [] f.trace

variable {data : Nat} {r after : Relay} {f g : Flow} {e : RelayEvent} {side : Side} {effects notes : List Effect}
  {got : Recv} {bytes : List UInt8} {count : Nat}

theorem entered_shut (entered : f.Entered) : f.Shut := by
  refine ⟨?_,?_,?_⟩
  · intro side
    rw [entered.silent,entered.masks]
    simp
  · intro side ended
    rw [entered.masks] at ended
    cases ended
  · rw [entered.silent]
    trivial

theorem shut_extend (shut : f.Shut) (fds : ∀ side, g.fd side = f.fd side) (masks : ∀ side, g.mask side = f.mask side)
    (grown : g.trace = f.trace ++ effects) (open_ : ∀ fd, .shutdown fd .shutWr ∉ effects)
    (queues : ∀ side, (f.mask side).read = false → g.queue side = f.queue side)
    (wants : ∀ side, (f.mask side).read = false → (f.wants side.aux).write = false → (g.wants side.aux).write = false)
    (each : Trace.Each Permitted f.trace effects) : g.Shut := by
  refine ⟨?_,?_,?_⟩
  · intro side
    rw [fds,masks,grown,List.mem_append,or_iff_left (open_ _),shut.closes]
    constructor
    · rintro ⟨hung,empty⟩
      exact ⟨hung,by rw [queues side hung]; exact empty⟩
    · rintro ⟨hung,empty⟩
      exact ⟨hung,by rw [← queues side hung]; exact empty⟩
  · intro side hung empty
    rw [masks] at hung
    rw [queues side hung] at empty
    exact wants side hung (shut.settled side hung empty)
  · rw [grown]
    exact Trace.each_extend shut.permitted each

theorem note_shut (shut : f.Shut) {effect : Effect} (permitted : Permitted f.trace effect)
    (open_ : ∀ fd, .shutdown fd .shutWr ≠ effect) : (f.note [effect]).Shut := by
  refine @shut_extend f (f.note [effect]) [effect] shut ?_ ?_ rfl ?_ ?_ ?_ ⟨permitted,trivial⟩
  · exact fun _ => rfl
  · exact fun _ => rfl
  · exact fun fd member => open_ fd (List.mem_singleton.mp member)
  · exact fun _ _ => rfl
  · exact fun _ _ silent => silent

theorem reading_open (steady : f.Steady) (recalled : f.Recalled) (wants : (f.wants side).read = true) :
    (f.mask side).read = true ∧ .shutdown (f.fd side) .shutRd ∉ f.trace := by
  have reads := steady.within side wants
  refine ⟨reads,?_⟩
  intro hung
  rw [← recalled.hung,reads] at hung
  cases hung

theorem writing_open (shut : f.Shut) (wants : (f.wants side).write = true) :
    .shutdown (f.fd side) .shutWr ∉ f.trace := by
  intro closed
  have exact_ := shut.closes side.aux
  have silent := shut.settled side.aux
  rw [aux_aux] at exact_ silent
  obtain ⟨hung,empty⟩ := exact_.mp closed
  rw [silent hung empty] at wants
  cases wants

theorem received_shut (shut : f.Shut) (reads : (f.mask side).read = true)
    (hears : .shutdown (f.fd side) .shutRd ∉ f.trace) (pass : ∀ effect ∈ notes, effect.isPass = true) :
    ((((f.setQueue side ((f.queue side).fill bytes)).note [.recv (f.fd side) (.data bytes)]).setInterests side.aux
      ((f.wants side.aux ||| opWrite) &&& f.mask side.aux)).note notes).Shut := by
  refine @shut_extend f _ ([.recv (f.fd side) (.data bytes)] ++ notes) shut ?_ ?_ ?_ ?_ ?_ ?_ ?_
  · simp
  · simp
  · exact List.append_assoc _ _ _
  · intro fd member
    rcases List.mem_append.mp member with first | noted
    · cases List.mem_singleton.mp first
    · cases pass _ noted
  · intro other hung
    have apart : other ≠ side := fun same => by rw [same,reads] at hung; cases hung
    simp [apart]
  · intro other hung silent
    have apart : other ≠ side := fun same => by rw [same,reads] at hung; cases hung
    obtain rfl : side.aux = other := (side_cases side other).resolve_left (Ne.symm apart)
    rw [aux_aux] at silent ⊢
    simpa using silent
  · refine Trace.each_append.mpr ⟨⟨hears,trivial⟩,Trace.each_silent ?_⟩
    intro effect member past
    cases effect with
    | passInformation => trivial
    | _ => cases pass _ member

theorem full_shut (shut : f.Shut) (side : Side) :
    (f.setInterests side ((f.wants side &&& opWrite) &&& f.mask side)).Shut := by
  refine @shut_extend f _ [] shut ?_ ?_ ?_ ?_ ?_ ?_ trivial
  · simp
  · simp
  · simp
  · simp
  · simp
  · intro other _ silent
    rw [wants_setInterests]
    split
    · rename_i equal
      rw [← equal]
      simp [silent]
    · exact silent

theorem ended_shut (shut : f.Shut) (reads : (f.mask side).read = true)
    (hears : .shutdown (f.fd side) .shutRd ∉ f.trace) (distinct : f.fd side ≠ f.fd side.aux) :
    ((f.note [.recv (f.fd side) got]).ended side).Shut := by
  obtain ⟨here,there⟩ := @ended_masks (f.note [.recv (f.fd side) got]) side
  have trace := @ended_trace (f.note [.recv (f.fd side) got]) side
  have open_ : .shutdown (f.fd side.aux) .shutWr ∉ f.trace := fun closed => by
    rw [(shut.closes side).mp closed |>.1] at reads
    cases reads
  have fds : ∀ other, ((f.note [.recv (f.fd side) got]).ended side).fd other = f.fd other := by
    intro other
    unfold Flow.ended Flow.halfClosed
    dsimp only
    split <;> simp
  rw [trace_note,fd_note,fd_note,queue_note,List.append_assoc] at trace
  refine ⟨?_,?_,?_⟩
  · intro other
    rw [fds,trace,ended_queue,queue_note]
    rcases side_cases side other with rfl | rfl
    · rw [here]
      by_cases empty : (f.queue side).unread = []
      · simp [empty]
      · simp [empty,open_]
    · rw [there,aux_aux,mask_note,← shut.closes side.aux,aux_aux]
      split <;> simp [distinct]
  · intro other hung empty
    rw [ended_queue,queue_note] at empty
    rcases side_cases side other with rfl | rfl
    · unfold Flow.ended
      dsimp only
      rw [if_pos (show (((f.note [.recv (f.fd side) got]).halfClosed side).queue side).unread = [] from empty)]
      simp [Flow.halfClosed]
    · rw [there,mask_note] at hung
      have silent := shut.settled side.aux hung empty
      rw [aux_aux] at silent ⊢
      unfold Flow.ended
      dsimp only
      split <;> simp [Flow.halfClosed,silent]
  · rw [trace]
    refine Trace.each_extend shut.permitted ⟨hears,?_⟩
    have first : Permitted (f.trace ++ [.recv (f.fd side) got]) (.shutdown (f.fd side) .shutRd) := by
      simpa [Permitted] using hears
    split
    · exact ⟨first,by simpa [Permitted] using open_,trivial⟩
    · exact ⟨first,trivial⟩

theorem sent_view : (∀ other, (f.sent side count).mask other = f.mask other) ∧
    (∀ other, (f.sent side count).fd other = f.fd other) ∧
    (∀ other, (f.sent side count).queue other =
      if other = side.aux then (f.queue side.aux).consume count else f.queue other) ∧
    (f.sent side count).trace = f.trace ++ ([.send (f.fd side) ((f.queue side.aux).unread.take count),
      .addBytesTransferred ((f.queue side.aux).unread.take count).length] ++
      if ((f.queue side.aux).consume count).unread = [] ∧ f.mask side &&& opWrite = opNoop then
        [.shutdown (f.fd side) .shutWr] else []) := by
  unfold Flow.sent
  dsimp only
  by_cases empty : ((f.queue side.aux).consume count).unread = []
  · rw [if_pos (by rwa [queue_setInterests,queue_note,queue_setQueue,if_pos rfl])]
    refine ⟨by simp,by simp,by simp,?_⟩
    simp only [trace_note,trace_setInterests,trace_setQueue,mask_setInterests,mask_note,mask_setQueue,fd_setInterests,
      fd_note,fd_setQueue,empty,true_and,List.append_assoc]
  · rw [if_neg (by rwa [queue_setInterests,queue_note,queue_setQueue,if_pos rfl]),if_neg fun both => empty both.1]
    exact ⟨by simp,by simp,by simp,by simp⟩

theorem sent_wants (other : Side) : (f.sent side count).wants other =
    if other = side.aux then (f.wants side.aux ||| opRead) &&& f.mask side.aux
    else if ((f.queue side.aux).consume count).unread = [] then (f.wants side &&& opRead) &&& f.mask side
    else f.wants side := by
  unfold Flow.sent
  dsimp only
  by_cases empty : ((f.queue side.aux).consume count).unread = []
  · rw [if_pos (by rwa [queue_setInterests,queue_note,queue_setQueue,if_pos rfl]),if_pos empty]
    rcases side_cases side other with rfl | rfl <;> simp
  · rw [if_neg (by rwa [queue_setInterests,queue_note,queue_setQueue,if_pos rfl]),if_neg empty]
    rcases side_cases side other with rfl | rfl <;> simp

-- copy_write only runs on a side whose write end is open, and shuts it with the last
-- byte when the other side has hung up.
theorem sent_shut (steady : f.Steady) (shut : f.Shut) (distinct : ∀ side other, f.fd side = f.fd other → side = other)
    (asked : (f.wants side).write = true) : (f.sent side count).Shut := by
  have open_ := writing_open shut asked
  have paired := steady.paired side.aux
  rw [aux_aux] at paired
  have apart : side ≠ side.aux := ne_aux side
  obtain ⟨masks,fds,queue,trace⟩ := @sent_view f side count
  have closes : f.mask side &&& opWrite = opNoop ↔ (f.mask side.aux).read = false := by
    rw [interest_noop,← paired]
    simp
  refine ⟨?_,?_,?_⟩
  · intro other
    rw [fds,masks,queue,trace,List.mem_append,List.mem_append]
    rcases side_cases side other with rfl | rfl
    · rw [if_neg apart,← shut.closes side]
      have far : f.fd side.aux ≠ f.fd side := fun same => apart (distinct _ _ same).symm
      split <;> simp [far]
    · rw [aux_aux,if_pos rfl]
      by_cases last : ((f.queue side.aux).consume count).unread = [] ∧ f.mask side &&& opWrite = opNoop
      · rw [if_pos last]
        simp only [List.mem_cons,true_or,or_true,true_iff]
        exact ⟨closes.mp last.2,last.1⟩
      · rw [if_neg last]
        simp only [open_,List.mem_cons,List.not_mem_nil,reduceCtorEq,or_self,false_iff]
        exact fun both => last ⟨both.2,closes.mpr both.1⟩
  · intro other hung empty
    rw [masks] at hung
    rw [queue] at empty
    rw [sent_wants]
    rcases side_cases side other with rfl | rfl
    · rw [if_neg apart] at empty
      rw [if_pos rfl]
      simp [shut.settled side hung empty]
    · rw [if_pos rfl] at empty
      rw [aux_aux,if_neg apart,if_pos empty]
      simp
  · rw [trace]
    refine Trace.each_extend shut.permitted (Trace.each_append.mpr ⟨⟨open_,trivial,trivial⟩,?_⟩)
    split
    · exact ⟨by simpa [Permitted] using open_,trivial⟩
    · trivial

theorem step_shut (distinct : ∀ side other, f.fd side = f.fd other → side = other) (steady : f.Steady)
    (recalled : f.Recalled) (shut : f.Shut) (asked : e.kind.wants (f.wants e.side) = true) (step : FlowStep f e g) :
    g.Shut := by
  have reading : e.kind = .read → (f.mask e.side).read = true ∧ .shutdown (f.fd e.side) .shutRd ∉ f.trace := by
    intro read
    rw [read] at asked
    exact reading_open steady recalled asked
  have writing : e.kind = .write → (f.wants e.side).write = true := by
    intro write
    rw [write] at asked
    exact asked
  cases step with
  | starved read => exact note_shut shut (reading read).2 (by simp)
  | received read room recv some fits pass => exact received_shut shut (reading read).1 (reading read).2 pass
  | ended read =>
      obtain ⟨reads,hears⟩ := reading read
      exact ended_shut shut reads hears fun same => ne_aux _ (distinct _ _ same)
  | full => exact full_shut shut e.side
  | blocked write => exact note_shut shut (writing_open shut (writing write)) (by simp)
  | broken write =>
      obtain ⟨closes,settled,permitted⟩ := @note_shut f shut (.send (f.fd e.side) [])
        (writing_open shut (writing write)) (by simp)
      exact ⟨closes,settled,permitted⟩
  | sent write => exact sent_shut steady shut distinct (writing write)

theorem select_shut (entered : r.Entered) (path : SelectRuns data r events after) : after.flow.Shut := by
  induction path with
  | nil => exact entered_shut entered.view
  | @snoc _ before e _ earlier ran ih =>
      obtain ⟨ran,item,registered,asked⟩ := selectStep_parts ran
      obtain ⟨wired,steady,recalled⟩ := runs_steady entered (select_runs earlier)
      have step := relayStep_flow wired (relay_live entered (select_runs earlier) ran) ran
      refine step_shut (fd_inj wired) steady recalled ih ?_ step
      have mirrored := steady.mirrored e.side
      simp only [Relay.flow,registered,Option.map_some,Option.some.injEq] at mirrored
      rw [mirrored] at asked
      exact asked

theorem half_close_exact (entered : r.Entered) (path : SelectRuns data r events after) :
    (∀ side, .shutdown (after.socks.fdOf side.aux) .shutWr ∈ after.trace ↔
      .shutdown (after.socks.fdOf side) .shutRd ∈ after.trace ∧ (after.socks.copyWriteBuff side).unread = []) ∧
    ∀ earlier effect later, after.trace = earlier ++ effect :: later → Permitted earlier effect := by
  obtain ⟨closes,_,permitted⟩ := select_shut entered path
  obtain ⟨wired,_,recalled⟩ := runs_steady entered (select_runs path)
  refine ⟨?_,fun _ _ _ split => Trace.each_at permitted split⟩
  intro side
  have closed := closes side
  rw [recalled.hung] at closed
  have fds : ∀ side, after.flow.fd side = after.socks.fdOf side := wired.wired
  rw [fds,fds] at closed
  exact closed

-- The client hangs up before its last byte is sent on, and then the origin does.
theorem newRelay_half_close : ∃ after, Transitions.exec (selectStep 1) newRelay
    [hears .cli (.data [0x41]),hears .cli .closed,sends .src 1,hears .src .closed] = some after ∧
    (∀ side, .shutdown (after.socks.fdOf side.aux) .shutWr ∈ after.trace ↔
      .shutdown (after.socks.fdOf side) .shutRd ∈ after.trace ∧ (after.socks.copyWriteBuff side).unread = []) ∧
    ∀ earlier effect later, after.trace = earlier ++ effect :: later → Permitted earlier effect := by
  have ran : (Transitions.exec (selectStep 1) newRelay
      [hears .cli (.data [0x41]),hears .cli .closed,sends .src 1,hears .src .closed]).isSome := by decide +kernel
  obtain ⟨after,ran⟩ := Option.isSome_iff_exists.mp ran
  exact ⟨after,ran,half_close_exact newRelay_entered (Transitions.exec_runs ran)⟩

end Socks5d
