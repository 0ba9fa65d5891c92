import Socks5d.Relay
import Socks5d.Foundations.Trace

namespace Socks5d

variable {data : Nat} {r after : Relay} {f g : Flow} {e : RelayEvent} {side other : Side} {i mask : FdInterest} {effects : List Effect}

@[simp] theorem mask_note : (f.note effects).mask other = f.mask other := rfl
@[simp] theorem wants_note : (f.note effects).wants other = f.wants other := rfl
@[simp] theorem queue_note : (f.note effects).queue = f.queue := rfl
@[simp] theorem interest_note : (f.note effects).interest = f.interest := rfl
@[simp] theorem trace_note : (f.note effects).trace = f.trace ++ effects := rfl
@[simp] theorem stm_note : (f.note effects).stm = f.stm := rfl

@[simp] theorem mask_enter (state : SocksState) : (f.enter state).mask other = f.mask other := rfl
@[simp] theorem wants_enter (state : SocksState) : (f.enter state).wants other = f.wants other := rfl
@[simp] theorem queue_enter (state : SocksState) : (f.enter state).queue = f.queue := rfl
@[simp] theorem interest_enter (state : SocksState) : (f.enter state).interest = f.interest := rfl
@[simp] theorem trace_enter (state : SocksState) : (f.enter state).trace = f.trace := rfl
@[simp] theorem stm_enter (state : SocksState) : (f.enter state).stm = some state := rfl

@[simp] theorem mask_setQueue (buff : CertifiedBuffer) : (f.setQueue side buff).mask other = f.mask other := rfl
@[simp] theorem wants_setQueue (buff : CertifiedBuffer) : (f.setQueue side buff).wants other = f.wants other := rfl
@[simp] theorem queue_setQueue (buff : CertifiedBuffer) :
    (f.setQueue side buff).queue other = if other = side then buff else f.queue other := by
  simp [Flow.setQueue,Function.update_apply]
@[simp] theorem interest_setQueue (buff : CertifiedBuffer) : (f.setQueue side buff).interest = f.interest := rfl
@[simp] theorem trace_setQueue (buff : CertifiedBuffer) : (f.setQueue side buff).trace = f.trace := rfl

@[simp] theorem mask_setInterests : (f.setInterests side i).mask other = f.mask other := by
  by_cases equal : other = side
  · subst other
    simp [Flow.mask,Flow.setInterests]
  · simp [Flow.mask,Flow.setInterests,Function.update_of_ne equal]

@[simp] theorem wants_setInterests :
    (f.setInterests side i).wants other = if other = side then i else f.wants other := by
  by_cases equal : other = side
  · subst other
    simp [Flow.wants,Flow.setInterests]
  · simp [Flow.wants,Flow.setInterests,equal]

@[simp] theorem queue_setInterests : (f.setInterests side i).queue = f.queue := rfl
@[simp] theorem trace_setInterests : (f.setInterests side i).trace = f.trace := rfl

@[simp] theorem mask_setMask :
    (f.setMask side mask).mask other = if other = side then mask else f.mask other := by
  by_cases equal : other = side
  · subst other
    simp [Flow.mask,Flow.setMask]
  · simp [Flow.mask,Flow.setMask,equal]

@[simp] theorem wants_setMask : (f.setMask side mask).wants other = f.wants other := by
  by_cases equal : other = side
  · subst other
    simp [Flow.wants,Flow.setMask]
  · simp [Flow.wants,Flow.setMask,Function.update_of_ne equal]

@[simp] theorem queue_setMask : (f.setMask side mask).queue = f.queue := rfl
@[simp] theorem interest_setMask : (f.setMask side mask).interest = f.interest := rfl
@[simp] theorem trace_setMask : (f.setMask side mask).trace = f.trace := rfl

theorem side_cases (side other : Side) : side = other ∨ side.aux = other := by
  cases side <;> cases other <;> simp [Side.aux]

structure Flow.Entered (f : Flow) : Prop where
  live : f.stm = some .copy
  masks : ∀ side, f.mask side = opRead ||| opWrite
  wants : ∀ side, f.wants side = opRead
  registered : ∀ side, f.interest side = some opRead
  empty : ∀ side, (f.queue side).unread = []
  roomy : ∀ side, 0 < (f.queue side).capacity
  silent : f.trace = []

-- What the interests and the masks of the two sides mean. A side reads until its
-- stream ends; the other one may write as long as it has not.
structure Flow.Steady (f : Flow) : Prop where
  mirrored : ∀ side, f.interest side = some (f.wants side)
  paired : ∀ side, (f.mask side.aux).write = (f.mask side).read
  within : ∀ side, (f.wants side).read = true → (f.mask side).read = true
  wanted : ∀ side, (f.mask side).read = true → (f.queue side).unread ≠ [] → (f.wants side.aux).write = true
  reading : ∀ side, (f.mask side).read = true → (f.wants side).read = true ∨ (f.queue side).unread ≠ []
  roomy : ∀ side, 0 < (f.queue side).capacity

theorem entered_steady (entered : f.Entered) : f.Steady := by
  refine ⟨?_,?_,?_,?_,?_,entered.roomy⟩
  · intro side
    rw [entered.registered,entered.wants]
  · intro side
    rw [entered.masks,entered.masks]
    rfl
  · intro side _
    rw [entered.masks]
    rfl
  · intro side _ waiting
    exact absurd (entered.empty side) waiting
  · intro side _
    rw [entered.wants]
    exact .inl rfl

theorem mirrored_setInterests (mirrored : ∀ side, f.interest side = some (f.wants side)) (side : Side)
    (i : FdInterest) (other : Side) :
    (f.setInterests side i).interest other = some ((f.setInterests side i).wants other) := by
  rw [wants_setInterests]
  by_cases equal : other = side
  · subst other
    simp [Flow.setInterests,mirrored]
  · simp [Flow.setInterests,equal,mirrored]

theorem received_steady (steady : f.Steady) (side : Side) (bytes : List UInt8) (effects notes : List Effect) :
    ((((f.setQueue side ((f.queue side).fill bytes)).note effects).setInterests side.aux
      ((f.wants side.aux ||| opWrite) &&& f.mask side.aux)).note notes).Steady := by
  refine ⟨?_,by simpa using steady.paired,?_,?_,?_,?_⟩
  · exact mirrored_setInterests steady.mirrored side.aux _
  · intro other
    rcases side_cases side other with rfl | rfl
    · simpa using steady.within side
    · simp
  · intro other
    rcases side_cases side other with rfl | rfl
    · intro reads _
      simpa [steady.paired] using reads
    · simpa using steady.wanted side.aux
  · intro other
    rcases side_cases side other with rfl | rfl
    · intro reads
      simp at reads ⊢
      rcases steady.reading side reads with wants | waiting
      · exact .inl wants
      · exact .inr fun empty => absurd empty waiting
    · intro reads
      simp at reads ⊢
      rcases steady.reading side.aux reads with wants | waiting
      · exact .inl ⟨wants,reads⟩
      · exact .inr waiting
  · intro other
    rcases side_cases side other with rfl | rfl
    · simpa using steady.roomy side
    · simpa using steady.roomy side.aux

theorem told_steady (steady : f.Steady) (side : Side) (i : FdInterest)
    (within : i.read = true → (f.mask side).read = true)
    (wanted : (f.mask side.aux).read = true → (f.queue side.aux).unread ≠ [] → i.write = true)
    (reading : (f.mask side).read = true → i.read = true ∨ (f.queue side).unread ≠ []) :
    (f.setInterests side i).Steady := by
  refine ⟨mirrored_setInterests steady.mirrored side i,by simpa using steady.paired,?_,?_,?_,steady.roomy⟩
  · intro other
    rcases side_cases side other with rfl | rfl
    · simpa using within
    · simpa using steady.within side.aux
  · intro other
    rcases side_cases side other with rfl | rfl
    · simpa using steady.wanted side
    · simpa using wanted
  · intro other
    rcases side_cases side other with rfl | rfl
    · simpa using reading
    · simpa using steady.reading side.aux

theorem waiting_writes (steady : f.Steady) (side : Side) (reads : (f.mask side.aux).read = true)
    (waiting : (f.queue side.aux).unread ≠ []) :
    (f.wants side).write = true ∧ (f.mask side).write = true := by
  have wants := steady.wanted side.aux reads waiting
  have pair := steady.paired side.aux
  rw [aux_aux] at wants pair
  exact ⟨wants,pair.trans reads⟩

theorem full_steady (steady : f.Steady) (side : Side) (full : (f.queue side).space = 0) :
    (f.setInterests side ((f.wants side &&& opWrite) &&& f.mask side)).Steady := by
  refine told_steady steady side _ ?_ ?_ ?_
  · simp
  · intro reads waiting
    simpa using waiting_writes steady side reads waiting
  · intro _
    exact .inr ((f.queue side).full_unread full (steady.roomy side))

theorem halfClosed_steady (steady : f.Steady) (side : Side) : (f.halfClosed side).Steady := by
  have pair := steady.paired side.aux
  rw [aux_aux] at pair
  have mirrored : ∀ other, (f.halfClosed side).interest other = some ((f.halfClosed side).wants other) := by
    intro other
    have masked : ∀ other, (f.setMask side (f.mask side &&& ~~~opRead)).interest other =
        some ((f.setMask side (f.mask side &&& ~~~opRead)).wants other) := by
      simpa using steady.mirrored
    simpa [Flow.halfClosed] using mirrored_setInterests masked side
      (f.wants side &&& (f.mask side &&& ~~~opRead)) other
  refine ⟨mirrored,?_,?_,?_,?_,steady.roomy⟩
  · intro other
    rcases side_cases side other with rfl | rfl
    · simp [Flow.halfClosed]
    · simpa [Flow.halfClosed] using pair
  · intro other
    rcases side_cases side other with rfl | rfl
    · simp [Flow.halfClosed]
    · simpa [Flow.halfClosed] using steady.within side.aux
  · intro other
    rcases side_cases side other with rfl | rfl
    · simp [Flow.halfClosed]
    · intro reads waiting
      simp [Flow.halfClosed] at reads waiting ⊢
      exact waiting_writes steady side reads waiting
  · intro other
    rcases side_cases side other with rfl | rfl
    · simp [Flow.halfClosed]
    · simpa [Flow.halfClosed] using steady.reading side.aux

theorem masked_steady (steady : f.Steady) (side : Side) :
    (f.setInterests side (f.wants side &&& f.mask side)).Steady := by
  refine told_steady steady side _ ?_ ?_ ?_
  · simp
  · intro reads waiting
    simpa using waiting_writes steady side reads waiting
  · intro reads
    rcases steady.reading side reads with wants | waiting
    · exact .inl (by simp [wants,reads])
    · exact .inr waiting

theorem note_steady (steady : f.Steady) (effects : List Effect) : (f.note effects).Steady :=
  ⟨steady.mirrored,steady.paired,steady.within,steady.wanted,steady.reading,steady.roomy⟩

theorem enter_steady (steady : f.Steady) (state : SocksState) : (f.enter state).Steady :=
  ⟨steady.mirrored,steady.paired,steady.within,steady.wanted,steady.reading,steady.roomy⟩

theorem taken_steady (steady : f.Steady) (side : Side) (count : Nat) (effects : List Effect) :
    (((f.setQueue side ((f.queue side).consume count)).note effects).setInterests side
      ((f.wants side ||| opRead) &&& f.mask side)).Steady := by
  refine ⟨mirrored_setInterests steady.mirrored side _,by simpa using steady.paired,?_,?_,?_,?_⟩
  · intro other
    rcases side_cases side other with rfl | rfl
    · simp
    · simpa using steady.within side.aux
  · intro other
    rcases side_cases side other with rfl | rfl
    · intro reads waiting
      simp only [mask_setInterests,mask_note,mask_setQueue] at reads
      simp at waiting ⊢
      exact steady.wanted side reads (fun empty => by simp [empty] at waiting)
    · intro reads waiting
      simp at reads waiting ⊢
      exact waiting_writes steady side reads waiting
  · intro other
    rcases side_cases side other with rfl | rfl
    · intro reads
      simp at reads ⊢
      exact .inl reads
    · simpa using steady.reading side.aux
  · intro other
    rcases side_cases side other with rfl | rfl
    · simpa using steady.roomy side
    · simpa using steady.roomy side.aux

theorem drained_steady (steady : f.Steady) (side : Side) (empty : (f.queue side.aux).unread = []) :
    (f.setInterests side ((f.wants side &&& opRead) &&& f.mask side)).Steady := by
  refine told_steady steady side _ ?_ ?_ ?_
  · simp
  · intro _ waiting
    exact absurd empty waiting
  · intro reads
    rcases steady.reading side reads with wants | waiting
    · exact .inl (by simp [wants,reads])
    · exact .inr waiting

theorem sent_steady (steady : f.Steady) (side : Side) (count : Nat) : (f.sent side count).Steady := by
  unfold Flow.sent
  dsimp only
  split
  · rename_i empty
    exact note_steady (drained_steady (taken_steady steady side.aux count _) side empty) _
  · exact taken_steady steady side.aux count _

theorem preserves_steady (steady : f.Steady) (step : FlowStep f e g) : g.Steady := by
  cases step with
  | starved => exact note_steady steady _
  | received => exact received_steady steady e.side _ _ _
  | @ended got =>
      have half := halfClosed_steady (note_steady steady [.recv (f.fd e.side) got]) e.side
      unfold Flow.ended
      dsimp only
      split
      · exact enter_steady (note_steady (masked_steady half _) _) _
      · exact enter_steady half _
  | full read room => exact full_steady steady e.side room
  | blocked => exact note_steady steady _
  | broken => exact enter_steady (note_steady steady _) _
  | sent => exact sent_steady steady e.side _

-- The peer behind `fd` is done sending: recv reported the end of the stream, or an
-- error that is not a matter of waiting.
def Effect.ends (fd : Int) : Effect → Bool
  | .recv source .closed => decide (source = fd)
  | .recv source (.failed code) => decide (source = fd) && decide (code ≠ eagain ∧ code ≠ ewouldblock)
  | _ => false

def endedIn (trace : List Effect) (fd : Int) : Bool := trace.any (Effect.ends fd)

theorem ended_later (ended : endedIn trace fd = true) (effects : List Effect) :
    endedIn (trace++effects) fd = true := by
  simp only [endedIn,List.any_append,Bool.or_eq_true] at ended ⊢
  exact .inl ended

theorem recv_ends {got : Recv} (nothing : got.bytes = []) (some : ∀ bytes, got = .data bytes → bytes ≠ [])
    (lasting : got.again errno = false) (trace : List Effect) (fd : Int) :
    endedIn (trace++[.recv fd got]) fd = true := by
  simp only [endedIn,List.any_append,Bool.or_eq_true]
  right
  cases got with
  | data bytes => exact absurd nothing (some bytes rfl)
  | closed => simp [Effect.ends]
  | failed code =>
      have codes : code ≠ eagain ∧ code ≠ ewouldblock := by
        rw [Recv.again,Bool.or_eq_false_iff,decide_eq_false_iff_not,decide_eq_false_iff_not] at lasting
        exact lasting
      simp [Effect.ends,codes]

-- How the masks remember the history: OP_READ goes exactly when copy_read takes an
-- end of stream, which it does only when recv reported one.
structure Flow.Recalled (f : Flow) : Prop where
  heard : ∀ side, (f.mask side).read = false → endedIn f.trace (f.fd side) = true
  hung : ∀ side, (f.mask side).read = false ↔ .shutdown (f.fd side) .shutRd ∈ f.trace

theorem entered_recalled (entered : f.Entered) : f.Recalled := by
  refine ⟨?_,?_⟩
  · intro side ended
    rw [entered.masks] at ended
    cases ended
  · intro side
    rw [entered.masks,entered.silent]
    simp

theorem recalled_extend (recalled : f.Recalled) (masks : ∀ side, (g.mask side).read = (f.mask side).read)
    (fds : ∀ side, g.fd side = f.fd side) (grown : g.trace = f.trace ++ effects)
    (quiet : ∀ side, .shutdown (f.fd side) .shutRd ∉ effects) : g.Recalled := by
  refine ⟨?_,?_⟩
  · intro side ended
    rw [masks] at ended
    rw [fds,grown]
    exact ended_later (recalled.heard side ended) _
  · intro side
    rw [masks,fds,grown,List.mem_append]
    constructor
    · intro ended
      exact .inl ((recalled.hung side).mp ended)
    · intro member
      rcases member with old | fresh
      · exact (recalled.hung side).mpr old
      · exact absurd fresh (quiet side)

theorem ended_masks (side : Side) :
    ((f.ended side).mask side).read = false ∧
    ((f.ended side).mask side.aux).read = (f.mask side.aux).read := by
  unfold Flow.ended
  dsimp only
  split
  · exact ⟨by simp [Flow.halfClosed],by simp [Flow.halfClosed]⟩
  · exact ⟨by simp [Flow.halfClosed],by simp [Flow.halfClosed]⟩

theorem ended_trace (side : Side) :
    (f.ended side).trace = f.trace ++ .shutdown (f.fd side) .shutRd ::
      (if (f.queue side).unread = [] then [.shutdown (f.fd side.aux) .shutWr] else []) := by
  unfold Flow.ended
  dsimp only
  by_cases empty : (f.queue side).unread = []
  · rw [if_pos (show ((f.halfClosed side).queue side).unread = [] from empty),if_pos empty]
    simp [Flow.halfClosed]
  · rw [if_neg (show ((f.halfClosed side).queue side).unread ≠ [] from empty),if_neg empty]
    simp [Flow.halfClosed]

theorem preserves_recalled (distinct : ∀ side other, f.fd side = f.fd other → side = other)
    (recalled : f.Recalled) (step : FlowStep f e g) : g.Recalled := by
  have fds := (step_wired step).2
  cases step with
  | @starved got => exact recalled_extend recalled (fun _ => rfl) fds rfl (by simp)
  | @received bytes notes read room recv some fits pass =>
      refine recalled_extend recalled (fun _ => by simp) fds (List.append_assoc _ _ _) ?_
      intro side member
      rcases List.mem_append.mp member with first | noted
      · simp at first
      · cases pass _ noted
  | @ended got read room recv nothing lasting =>
      have trace := @ended_trace (f.note [.recv (f.fd e.side) got]) e.side
      obtain ⟨here,there⟩ := @ended_masks (f.note [.recv (f.fd e.side) got]) e.side
      have some : ∀ bytes, got = .data bytes → bytes ≠ [] := fun bytes same => by
        rw [same] at recv
        exact (clip_data recv).1
      refine ⟨?_,?_⟩
      · intro side ended
        rw [fds,trace]
        rcases side_cases e.side side with rfl | rfl
        · exact ended_later (recv_ends nothing some lasting f.trace _) _
        · rw [there] at ended
          exact ended_later (ended_later (recalled.heard _ ended) _) _
      · intro side
        rw [fds,trace]
        rcases side_cases e.side side with rfl | rfl
        · rw [here]
          simp
        · rw [there,mask_note,recalled.hung]
          have apart : f.fd e.side.aux ≠ f.fd e.side := fun same => aux_ne _ (distinct _ _ same)
          split
          · simp [apart]
          · simp [apart]
  | full => exact @recalled_extend f _ [] recalled (fun _ => by simp) fds (by simp) (by simp)
  | blocked => exact recalled_extend recalled (fun _ => rfl) fds rfl (by simp)
  | broken => exact recalled_extend recalled (fun _ => rfl) fds rfl (by simp)
  | @sent count =>
      unfold Flow.sent at fds ⊢
      dsimp only at fds ⊢
      split
      · rename_i empty
        rw [if_pos empty] at fds
        refine recalled_extend recalled (fun _ => by simp) fds (List.append_assoc _ _ _) ?_
        intro side
        split
        · simp
        · simp
      · rename_i empty
        rw [if_neg empty] at fds
        exact recalled_extend recalled (fun _ => by simp) fds rfl (by simp)

structure Relay.Entered (r : Relay) : Prop where
  wired : r.Wired
  view : r.flow.Entered

theorem fd_inj (valid : r.Wired) (side other : Side) (same : r.flow.fd side = r.flow.fd other) : side = other := by
  have here := valid.wired side
  have there := valid.wired other
  exact (fdOf_inj valid.distinct side).mp (here.symm.trans (same.trans there))

theorem flow_runs_steady (distinct : ∀ side other, f.fd side = f.fd other → side = other)
    (entered : f.Entered) (path : FlowRuns f events g) : g.fd = f.fd ∧ g.Steady ∧ g.Recalled := by
  induction path with
  | nil => exact ⟨rfl,entered_steady entered,entered_recalled entered⟩
  | snoc _ last ih =>
      obtain ⟨fds,steady,recalled⟩ := ih
      refine ⟨(funext (step_wired last.2).2).trans fds,preserves_steady steady last.2,?_⟩
      refine preserves_recalled ?_ recalled last.2
      intro side other same
      rw [fds] at same
      exact distinct side other same

theorem runs_steady (entered : r.Entered) (path : RelayRuns data r events after) :
    after.Wired ∧ after.flow.Steady ∧ after.flow.Recalled := by
  obtain ⟨flows,valid,_⟩ := relay_runs entered.wired entered.view.live path
  exact ⟨valid,(flow_runs_steady (fd_inj entered.wired) entered.view flows).2⟩

def relaySelector : Selector :=
  let cli := (selectorRegister mainSelector 5 (some .connActions) opRead (some 1)).2
  (selectorRegister cli 6 (some .connActions) opRead (some 1)).2

def newRelay : Relay where
  sel := relaySelector
  socks := copyOnArrival quiet {newSocksConn with cliConn.socket:=5,srcConn.socket:=6,stm:=some .copy}
  trace := []

def hears (side : Side) (recv : Recv) : RelayEvent := ⟨.read,side,{quiet with recv:=recv}⟩
def sends (side : Side) (count : Nat) : RelayEvent := ⟨.write,side,{quiet with send:=.sent count}⟩

theorem newRelay_entered : newRelay.Entered := by
  refine ⟨⟨by decide +kernel,?_⟩,⟨rfl,?_,?_,?_,?_,?_,rfl⟩⟩
  · intro side
    cases side <;> rfl
  · intro side
    cases side <;> rfl
  · intro side
    cases side <;> rfl
  · intro side
    cases side <;> decide +kernel
  · intro side
    cases side <;> exact CertifiedBuffer.init_unread _
  · intro side
    cases side <;> decide +kernel

-- The space of a full buffer comes back with the peer's next write, so a direction
-- whose source is still there is always either reading or writing.
theorem open_direction_live (entered : r.Entered) (path : RelayRuns data r events after) (side : Side)
    (going : endedIn after.trace (after.socks.fdOf side) = false) :
    (after.socks.copyOf side).interests.read = true ∨
    ((after.socks.copyWriteBuff side).unread ≠ [] ∧ (after.socks.copyOf side.aux).interests.write = true) := by
  obtain ⟨valid,steady,recalled⟩ := runs_steady entered path
  have fd : after.flow.fd side = after.socks.fdOf side := valid.wired side
  have reads : (after.flow.mask side).read = true := by
    by_contra closed
    have ended := recalled.heard side (by simpa using closed)
    rw [fd,show after.flow.trace = after.trace from rfl,going] at ended
    cases ended
  rcases steady.reading side reads with wants | waiting
  · exact .inl wants
  · exact .inr ⟨waiting,steady.wanted side reads waiting⟩

theorem client_direction_live :
    ∃ after, Transitions.exec (relayStep 1) newRelay [hears .cli (.data [0x41]),hears .src .closed,sends .src 0] =
        some after ∧
      (after.socks.cliCopy.interests.read = true ∨
      (after.socks.writeBuff.unread ≠ [] ∧ after.socks.srcCopy.interests.write = true)) := by
  have facts : (Transitions.exec (relayStep 1) newRelay
      [hears .cli (.data [0x41]),hears .src .closed,sends .src 0]).map
        (fun after => endedIn after.trace (after.socks.fdOf .cli)) = some false := by decide +kernel
  obtain ⟨after,ran,going⟩ := Option.map_eq_some_iff.mp facts
  exact ⟨after,ran,open_direction_live newRelay_entered (Transitions.exec_runs ran) .cli going⟩

def Relay.stranded (r : Relay) (side : Side) : Prop :=
  .shutdown (r.socks.fdOf side) .shutRd ∈ r.trace ∧ (r.socks.copyWriteBuff side).unread ≠ []

-- The two events that rewrite the interests of the other side from a mask that has
-- lost OP_WRITE: copy_write on the side that ended, once send returns a count, and
-- copy_read on the other side when the buffer it fills is full.
def Relay.severs (r : Relay) (e : RelayEvent) : Prop :=
  (e.kind = .write ∧ (∃ count, e.env.send = .sent count) ∧ r.stranded e.side) ∨
  (e.kind = .read ∧ (r.socks.copyWriteBuff e.side).space = 0 ∧ r.stranded e.side.aux)

def Relay.keepsWriting (r : Relay) : Prop :=
  ∀ side, (r.socks.copyReadBuff side).unread ≠ [] →
    (r.socks.copyOf side).interests.write = true ∧
    ∃ item, r.sel.registered (r.socks.fdOf side) = some item ∧ item.interest.write = true

abbrev WholeRuns (data : Nat) :=
  Transitions.Runs fun r e next => selectStep data r e = some next ∧ ¬ r.severs e

theorem whole_runs (path : WholeRuns data r events after) : SelectRuns data r events after :=
  path.weaken fun _ _ _ step => step.1

theorem selectStep_parts (ran : selectStep data r e = some after) :
    relayStep data r e = some after ∧
    ∃ item, r.sel.registered (r.socks.fdOf e.side) = some item ∧ e.kind.wants item.interest = true := by
  unfold selectStep at ran
  split at ran
  · rename_i ready
    refine ⟨ran,?_⟩
    unfold Relay.ready at ready
    split at ready
    · rename_i item found
      exact ⟨item,found,ready⟩
    · cases ready
  · cases ran

theorem keepsWriting_exact (steady : r.flow.Steady) :
    r.keepsWriting ↔ ∀ side, (r.flow.queue side).unread ≠ [] → (r.flow.wants side.aux).write = true := by
  constructor
  · intro keeps side waiting
    have here := keeps side.aux (by rw [← copyWriteBuff_aux]; exact waiting)
    exact here.1
  · intro wants side waiting
    have pair := copyWriteBuff_aux r.socks side.aux
    rw [aux_aux] at pair
    have here := wants side.aux (by rw [← pair] at waiting; exact waiting)
    rw [aux_aux] at here
    have mirrored := steady.mirrored side
    obtain ⟨item,found,interest⟩ := Option.map_eq_some_iff.mp mirrored
    exact ⟨here,item,found,by rw [interest]; exact here⟩

theorem mask_writes (steady : f.Steady) (reads : (f.mask side).read = true) :
    (f.mask side.aux).write = true := (steady.paired side).trans reads

def Flow.writing (f : Flow) : Prop :=
  ∀ side, (f.queue side).unread ≠ [] → (f.wants side.aux).write = true

theorem received_writing (steady : f.Steady) (writing : f.writing) (reads : (f.mask side).read = true)
    (bytes : List UInt8) (effects notes : List Effect) :
    ((((f.setQueue side ((f.queue side).fill bytes)).note effects).setInterests side.aux
      ((f.wants side.aux ||| opWrite) &&& f.mask side.aux)).note notes).writing := by
  intro other waiting
  rcases side_cases side other with rfl | rfl
  · simp [mask_writes steady reads]
  · simp at waiting ⊢
    have wants := writing side.aux waiting
    rwa [aux_aux] at wants

theorem full_writing (steady : f.Steady) (writing : f.writing)
    (whole : (f.mask side.aux).read = false → (f.queue side.aux).unread = []) :
    (f.setInterests side ((f.wants side &&& opWrite) &&& f.mask side)).writing := by
  intro other waiting
  rcases side_cases side other with rfl | rfl
  · simpa using writing side waiting
  · have reads : (f.mask side.aux).read = true := by
      by_contra ended
      exact waiting (whole (by simpa using ended))
    have wants := writing side.aux waiting
    have allowed := mask_writes steady reads
    rw [aux_aux] at wants allowed
    simp [wants,allowed]

theorem ended_stm (steady : f.Steady) (side : Side) :
    (f.ended side).stm = some (if (f.mask side.aux).read = false then .done else .copy) := by
  have pair := steady.paired side.aux
  rw [aux_aux] at pair
  have shape : (f.ended side).stm = some (if (f.mask side &&& ~~~opRead) = opNoop then
      (if (f.mask side.aux &&& opRead) = opNoop then .done else .copy) else .copy) := by
    unfold Flow.ended
    dsimp only
    split
    · rfl
    · rfl
  have mine : (f.mask side &&& ~~~opRead) = opNoop ↔ (f.mask side.aux).read = false := by
    rw [interest_noop,← pair]
    simp
  have theirs : (f.mask side.aux &&& opRead) = opNoop ↔ (f.mask side.aux).read = false := by
    rw [interest_noop]
    simp
  rw [shape]
  by_cases ended : (f.mask side.aux).read = false
  · rw [if_pos (mine.mpr ended),if_pos (theirs.mpr ended),if_pos ended]
  · rw [if_neg (fun both => ended (mine.mp both)),if_neg ended]

theorem ended_writing (steady : f.Steady) (writing : f.writing) (live : (f.ended side).stm = some .copy) :
    (f.ended side).writing := by
  have there : (f.queue side.aux).unread ≠ [] → ((f.halfClosed side).wants side).write = true := by
    intro waiting
    have reads : (f.mask side.aux).read = true := by
      by_contra ended
      rw [ended_stm steady,if_pos (by simpa using ended)] at live
      cases live
    have wants := writing side.aux waiting
    have allowed := mask_writes steady reads
    rw [aux_aux] at wants allowed
    simp [Flow.halfClosed,wants,allowed]
  unfold Flow.ended
  dsimp only
  split
  · rename_i empty
    intro other waiting
    rcases side_cases side other with rfl | rfl
    · exact absurd empty waiting
    · simpa using there waiting
  · intro other waiting
    rcases side_cases side other with rfl | rfl
    · simpa [Flow.halfClosed] using writing side waiting
    · simpa using there waiting

theorem sent_writing (steady : f.Steady) (writing : f.writing)
    (whole : (f.mask side).read = false → (f.queue side).unread = []) (count : Nat) :
    (f.sent side count).writing := by
  have taken : (((f.setQueue side.aux ((f.queue side.aux).consume count)).note
      [.send (f.fd side) ((f.queue side.aux).unread.take count),
        .addBytesTransferred ((f.queue side.aux).unread.take count).length]).setInterests side.aux
          ((f.wants side.aux ||| opRead) &&& f.mask side.aux)).writing := by
    intro other waiting
    rcases side_cases side other with rfl | rfl
    · simp at waiting
      have reads : (f.mask side).read = true := by
        by_contra ended
        exact waiting (whole (by simpa using ended))
      simp [mask_writes steady reads,writing side waiting]
    · simp at waiting ⊢
      have wants := writing side.aux (fun empty => by simp [empty] at waiting)
      rwa [aux_aux] at wants
  unfold Flow.sent
  dsimp only
  split
  · rename_i empty
    intro other waiting
    rcases side_cases side other with rfl | rfl
    · simpa using taken side waiting
    · exact absurd empty waiting
  · exact taken

theorem step_writing (steady : f.Steady) (writing : f.writing)
    (reads : e.kind = .read → (f.wants e.side).read = true)
    (wholeSent : ∀ count, e.kind = .write → e.env.send = .sent count →
      (f.mask e.side).read = false → (f.queue e.side).unread = [])
    (wholeFull : e.kind = .read → (f.queue e.side).space = 0 →
      (f.mask e.side.aux).read = false → (f.queue e.side.aux).unread = [])
    (step : FlowStep f e g) (live : g.stm = some .copy) : g.writing := by
  cases step with
  | starved => exact writing
  | received read => exact received_writing steady writing (steady.within e.side (reads read)) _ _ _
  | @ended got => exact @ended_writing (f.note [.recv (f.fd e.side) got]) e.side (note_steady steady _) writing live
  | full read room => exact full_writing steady writing (wholeFull read room)
  | blocked => exact writing
  | broken => cases live
  | sent write gave => exact sent_writing steady writing (wholeSent _ write gave) _

theorem stranded_exact (valid : r.Wired) (recalled : r.flow.Recalled) (side : Side) :
    r.stranded side ↔ (r.flow.mask side).read = false ∧ (r.flow.queue side).unread ≠ [] := by
  have fd : r.flow.fd side = r.socks.fdOf side := valid.wired side
  rw [recalled.hung,fd]
  rfl

theorem selectStep_writing (entered : r.Entered) (path : SelectRuns data r events before)
    (live : before.socks.stm = some .copy) (writing : before.flow.writing)
    (ran : selectStep data before e = some after) (whole : ¬ before.severs e)
    (going : after.socks.stm = some .copy) : after.flow.writing := by
  obtain ⟨valid,steady,recalled⟩ := runs_steady entered (select_runs path)
  obtain ⟨stepped,item,found,wants⟩ := selectStep_parts ran
  refine step_writing steady writing ?_ ?_ ?_ (relayStep_flow valid live stepped) going
  · intro read
    have mirrored := steady.mirrored e.side
    rw [read] at wants
    have here : before.flow.interest e.side = some item.interest := by
      simp only [Relay.flow,found,Option.map_some]
    rw [here] at mirrored
    rw [← Option.some.inj mirrored]
    exact wants
  · intro count write gave ended
    by_contra waiting
    exact whole (.inl ⟨write,⟨count,gave⟩,(stranded_exact valid recalled _).mpr ⟨ended,waiting⟩⟩)
  · intro read full ended
    by_contra waiting
    exact whole (.inr ⟨read,full,(stranded_exact valid recalled _).mpr ⟨ended,waiting⟩⟩)

theorem step_sent (step : FlowStep f e g) (write : e.kind = .write) (gave : e.env.send = .sent count) :
    g = f.sent e.side count := by
  cases step with
  | starved read => rw [write] at read; cases read
  | received read => rw [write] at read; cases read
  | ended read => rw [write] at read; cases read
  | full read => rw [write] at read; cases read
  | blocked _ failed => rw [gave] at failed; cases failed
  | broken _ failed => rw [gave] at failed; cases failed
  | sent _ given =>
      rw [gave] at given
      cases given
      rfl

theorem step_full (step : FlowStep f e g) (read : e.kind = .read) (full : (f.queue e.side).space = 0) :
    g = f.setInterests e.side ((f.wants e.side &&& opWrite) &&& f.mask e.side) := by
  cases step with
  | starved _ room => omega
  | received _ room => omega
  | ended _ room => omega
  | full => rfl
  | blocked write => rw [read] at write; cases write
  | broken write => rw [read] at write; cases write
  | sent write => rw [read] at write; cases write

theorem sent_stm (side : Side) (count : Nat) : (f.sent side count).stm = f.stm := by
  unfold Flow.sent
  dsimp only
  split
  · rfl
  · rfl

theorem sent_cut (steady : f.Steady) (ended : (f.mask side).read = false) (waiting : (f.queue side).unread ≠ [])
    (count : Nat) : ¬ (f.sent side count).writing := by
  have lost : (f.mask side.aux).write = false := (steady.paired side).trans ended
  unfold Flow.sent
  dsimp only
  intro writing
  split at writing
  · have wants := writing side (by simpa using waiting)
    simp [lost] at wants
  · have wants := writing side (by simpa using waiting)
    simp [lost] at wants

theorem full_cut (steady : f.Steady) (ended : (f.mask side.aux).read = false)
    (waiting : (f.queue side.aux).unread ≠ []) :
    ¬ (f.setInterests side ((f.wants side &&& opWrite) &&& f.mask side)).writing := by
  intro writing
  have lost := steady.paired side.aux
  rw [aux_aux] at lost
  have wants := writing side.aux waiting
  rw [aux_aux] at wants
  simp [lost.trans ended] at wants

theorem severed_writing (valid : r.Wired) (steady : r.flow.Steady) (recalled : r.flow.Recalled)
    (live : r.socks.stm = some .copy) (ran : relayStep data r e = some after) (severs : r.severs e) :
    after.socks.stm = some .copy ∧ ¬ after.flow.writing := by
  have step := relayStep_flow valid live ran
  rcases severs with ⟨write,⟨count,gave⟩,stranded⟩ | ⟨read,full,stranded⟩
  · obtain ⟨ended,waiting⟩ := (stranded_exact valid recalled _).mp stranded
    have shape := step_sent step write gave
    exact ⟨(congrArg Flow.stm shape).trans ((sent_stm e.side count).trans live),
      by rw [shape]; exact sent_cut steady ended waiting count⟩
  · obtain ⟨ended,waiting⟩ := (stranded_exact valid recalled _).mp stranded
    have shape := step_full step read full
    exact ⟨(congrArg Flow.stm shape).trans live,by rw [shape]; exact full_cut steady ended waiting⟩

theorem relay_live (entered : r.Entered) (path : RelayRuns data r events before)
    (ran : relayStep data before e = some after) : before.socks.stm = some .copy := by
  rcases (relay_runs entered.wired entered.view.live path).2.2 with going | closed
  · exact going
  · rw [closed_no_step closed] at ran
    cases ran

theorem whole_writing (entered : r.Entered) (path : WholeRuns data r events after) :
    after.socks.stm = some .copy → after.flow.writing := by
  induction path with
  | nil =>
      intro _ side waiting
      exact absurd (entered.view.empty side) waiting
  | snoc before last ih =>
      intro live
      have path := whole_runs before
      have going := relay_live entered (select_runs path) (selectStep_parts last.1).1
      exact selectStep_writing entered path going (ih going) last.1 last.2 live

theorem pending_write_exact (entered : r.Entered) :
    (∀ events after, WholeRuns data r events after → after.socks.stm = some .copy → after.keepsWriting) ∧
    (∀ events before e after, SelectRuns data r events before → selectStep data before e = some after →
      before.severs e → after.socks.stm = some .copy ∧ ¬ after.keepsWriting) := by
  refine ⟨?_,?_⟩
  · intro events after path live
    obtain ⟨_,steady,_⟩ := runs_steady entered (select_runs (whole_runs path))
    exact (keepsWriting_exact steady).mpr (whole_writing entered path live)
  · intro events before e after path ran severs
    obtain ⟨valid,steady,recalled⟩ := runs_steady entered (select_runs path)
    have stepped := (selectStep_parts ran).1
    have live := relay_live entered (select_runs path) stepped
    obtain ⟨going,cut⟩ := severed_writing valid steady recalled live stepped severs
    have steadyAfter := preserves_steady steady (relayStep_flow valid live stepped)
    exact ⟨going,fun keeps => cut ((keepsWriting_exact steadyAfter).mp keeps)⟩

theorem newRelay_write_exact :
    (∀ events after, WholeRuns 1 newRelay events after → after.socks.stm = some .copy → after.keepsWriting) ∧
    (∀ events before e after, SelectRuns 1 newRelay events before → selectStep 1 before e = some after →
      before.severs e → after.socks.stm = some .copy ∧ ¬ after.keepsWriting) :=
  pending_write_exact newRelay_entered

-- The client sends a byte and ends its stream; the origin answers, and the write of
-- that answer takes OP_WRITE away from the origin's side while the byte is queued.
theorem half_close_strands : newRelay.Entered ∧
    ∃ after, Transitions.exec (selectStep 1) newRelay [hears .cli (.data [0x41]),hears .cli .closed,
      hears .src (.data [0x42]),sends .cli 1] = some after ∧
      after.socks.stm = some .copy ∧ ¬ after.keepsWriting := by
  have facts : (Transitions.exec (selectStep 1) newRelay [hears .cli (.data [0x41]),hears .cli .closed,
      hears .src (.data [0x42]),sends .cli 1]).map (fun after => (after.socks.stm,
        (after.socks.copyReadBuff .src).unread,(after.socks.copyOf .src).interests.write)) =
      some (some .copy,[0x41],false) := by decide +kernel
  obtain ⟨after,ran,found⟩ := Option.map_eq_some_iff.mp facts
  obtain ⟨live,rest⟩ := Prod.mk.inj found
  obtain ⟨waiting,lost⟩ := Prod.mk.inj rest
  refine ⟨newRelay_entered,after,ran,live,?_⟩
  intro keeps
  have wants := (keeps .src (by rw [waiting]; simp)).1
  rw [lost] at wants
  cases wants

end Socks5d
