import Socks5d.RelayFlow

namespace Socks5d

structure Flow.Arrived (f : Flow) : Prop where
  live : f.stm = some .copy
  masks : ∀ side, f.mask side = opRead ||| opWrite
  wants : ∀ side, f.wants side = opRead
  registered : ∀ side, f.interest side = some opRead

structure Relay.Arrived (r : Relay) : Prop where
  wired : r.Wired
  view : r.flow.Arrived

structure Flow.Masked (f : Flow) : Prop where
  mirrored : ∀ side, f.interest side = some (f.wants side)
  paired : ∀ side, (f.mask side.aux).write = (f.mask side).read
  within : ∀ side, (f.wants side).read = true → (f.mask side).read = true

def Relay.ended (r : Relay) (side : Side) : Prop :=
  (r.socks.copyOf side).intConnection.read = false ∧ (r.socks.copyOf side).interests.read = false ∧
  (r.socks.copyOf side.aux).intConnection.write = false

def Relay.unchanged (before after : Relay) (called : Effect) : Prop :=
  after.sel = before.sel ∧ after.socks = before.socks ∧ after.trace = before.trace ++ [called]

-- errno as a failed call of any connection leaves it when it has to wait.
def waits (errno : Nat) : Prop := errno = eagain ∨ errno = ewouldblock

def Relay.noticed (before : Relay) (side : Side) (env : Env) (after : Relay) : Prop :=
  (env.recv = .closed → after.ended side) ∧
  ∀ code, env.recv = .failed code → waits code →
    before.unchanged after (.recv (before.socks.fdOf side) (.failed code))

variable {data : Nat} {r before after : Relay} {f g : Flow} {e : RelayEvent} {side : Side} {i : FdInterest} {env : Env}
  {events : List RelayEvent}

theorem arrived_masked (arrived : f.Arrived) : f.Masked := by
  refine ⟨?_,?_,?_⟩
  · intro side
    rw [arrived.registered,arrived.wants]
  · intro side
    rw [arrived.masks,arrived.masks]
    rfl
  · intro side _
    rw [arrived.masks]
    rfl

theorem note_masked (masked : f.Masked) (effects : List Effect) : (f.note effects).Masked :=
  ⟨masked.mirrored,masked.paired,masked.within⟩

theorem enter_masked (masked : f.Masked) (state : SocksState) : (f.enter state).Masked :=
  ⟨masked.mirrored,masked.paired,masked.within⟩

theorem queue_masked (masked : f.Masked) (side : Side) (buff : CertifiedBuffer) : (f.setQueue side buff).Masked :=
  ⟨masked.mirrored,masked.paired,masked.within⟩

theorem told_masked (masked : f.Masked) (side : Side) (within : i.read = true → (f.mask side).read = true) :
    (f.setInterests side i).Masked := by
  refine ⟨mirrored_setInterests masked.mirrored side i,by simpa using masked.paired,?_⟩
  intro other
  rcases side_cases side other with rfl | rfl
  · simpa using within
  · simpa using masked.within side.aux

theorem halfClosed_masked (masked : f.Masked) (side : Side) : (f.halfClosed side).Masked := by
  have pair := masked.paired side.aux
  rw [aux_aux] at pair
  have mirrored : ∀ other, (f.setMask side (f.mask side &&& ~~~opRead)).interest other =
      some ((f.setMask side (f.mask side &&& ~~~opRead)).wants other) := by
    simpa using masked.mirrored
  refine ⟨?_,?_,?_⟩
  · intro other
    simpa [Flow.halfClosed] using mirrored_setInterests mirrored side
      (f.wants side &&& (f.mask side &&& ~~~opRead)) other
  · intro other
    rcases side_cases side other with rfl | rfl
    · simp [Flow.halfClosed]
    · simpa [Flow.halfClosed] using pair
  · intro other
    rcases side_cases side other with rfl | rfl
    · simp [Flow.halfClosed]
    · simpa [Flow.halfClosed] using masked.within side.aux

theorem ended_masked (masked : f.Masked) (side : Side) : (f.ended side).Masked := by
  have half := halfClosed_masked masked side
  unfold Flow.ended
  dsimp only
  split
  · exact enter_masked (note_masked (told_masked half _ (by simp)) _) _
  · exact enter_masked half _

theorem sent_masked (masked : f.Masked) (side : Side) (count : Nat) : (f.sent side count).Masked := by
  have taken : ∀ effects, (((f.setQueue side.aux ((f.queue side.aux).consume count)).note effects).setInterests side.aux
      ((f.wants side.aux ||| opRead) &&& f.mask side.aux)).Masked := by
    intro effects
    exact told_masked (note_masked (queue_masked masked _ _) _) _ (by simp)
  unfold Flow.sent
  dsimp only
  split
  · exact note_masked (told_masked (taken _) _ (by simp)) _
  · exact taken _

theorem preserves_masked (masked : f.Masked) (step : FlowStep f e g) : g.Masked := by
  cases step with
  | starved => exact note_masked masked _
  | received =>
      exact note_masked (told_masked (note_masked (queue_masked masked _ _) _) _
        (by simp)) _
  | ended => exact ended_masked (note_masked masked _) _
  | full => exact told_masked masked _ (by simp)
  | blocked => exact note_masked masked _
  | broken => exact enter_masked (note_masked masked _) _
  | sent => exact sent_masked masked _ _

theorem runs_masked (arrived : r.Arrived) (path : RelayRuns data r events after) : after.Wired ∧ after.flow.Masked := by
  obtain ⟨flows,valid,_⟩ := relay_runs arrived.wired arrived.view.live path
  refine ⟨valid,?_⟩
  clear valid path
  generalize after.flow = g at flows
  induction flows with
  | nil => exact arrived_masked arrived.view
  | snoc _ last ih => exact preserves_masked ih last.2

theorem arrived_live (arrived : r.Arrived) (path : RelayRuns data r events before)
    (ran : relayStep data before e = some after) : before.socks.stm = some .copy := by
  rcases (relay_runs arrived.wired arrived.view.live path).2.2 with going | closed
  · exact going
  · rw [closed_no_step closed] at ran
    cases ran

theorem masked_ended (masked : after.flow.Masked) (side : Side) :
    after.ended side ↔ (after.flow.mask side).read = false := by
  constructor
  · exact fun ended => ended.1
  · intro closed
    refine ⟨closed,?_,(masked.paired side).trans closed⟩
    by_contra wants
    have reads := masked.within side ((Bool.not_eq_false _).mp wants)
    rw [closed] at reads
    cases reads

theorem copyRead_waits (valid : before.Wired) (live : before.socks.stm = some .copy)
    (ran : relayStep data before ⟨.read,side,env⟩ = some after)
    (room : 0 < (before.socks.copyWriteBuff side).space) {code : Nat} (failed : env.recv = .failed code)
    (again : waits code) : before.unchanged after (.recv (before.socks.fdOf side) (.failed code)) := by
  rcases relayStep_cases live ran with ⟨_,rfl⟩ | ⟨write,_⟩
  · have codes : (decide (code = eagain) || decide (code = ewouldblock)) = true := by
      simpa [waits] using again
    have waited : copyRead env ⟨before.socks.fdOf side,data⟩ before.sel before.socks =
        ⟨before.sel,before.socks,[.recv (before.socks.fdOf side) (.failed code)],.copy⟩ := by
      unfold copyRead
      rw [getCopy_fdOf valid.distinct]
      dsimp only
      rw [if_pos ((before.socks.copyWriteBuff side).canWrite_space.mpr room)]
      simp only [failed,Recv.clip,checkBuffAndReceive,Recv.errno,codes,setWriteBuff_same,decide_true,Bool.and_self,if_true]
    rw [waited,jump,if_pos live]
    exact ⟨rfl,rfl,rfl⟩
  · cases write

theorem closed_again : Recv.closed.again env.errno = true ↔ waits env.errno := by
  rw [Recv.again,Bool.or_eq_true,decide_eq_true_iff,decide_eq_true_iff]
  rfl

-- What recv = 0 does to the mask of its side: nothing when errno is stale.
theorem closed_step (step : FlowStep f ⟨.read,side,env⟩ g) (room : 0 < (f.queue side).space)
    (closed : env.recv = .closed) : waits env.errno ∧ (g.mask side).read = (f.mask side).read ∨
      ¬ waits env.errno ∧ (g.mask side).read = false := by
  cases step with
  | starved _ _ recv _ again =>
      rw [closed] at recv
      subst recv
      exact .inl ⟨closed_again.mp again,rfl⟩
  | received _ _ recv =>
      rw [closed] at recv
      cases recv
  | ended _ _ recv _ lasting =>
      rw [closed] at recv
      subst recv
      refine .inr ⟨?_,(ended_masks side).1⟩
      rw [← closed_again]
      exact fun again => Bool.false_ne_true (lasting.symm.trans again)
  | full _ none_ => exact absurd none_ (Nat.pos_iff_ne_zero.mp room)
  | blocked write => cases write
  | broken write => cases write
  | sent write => cases write

theorem end_noticed_exact (arrived : r.Arrived) (path : SelectRuns data r events before)
    (room : 0 < (before.socks.copyWriteBuff side).space)
    (ran : selectStep data before ⟨.read,side,env⟩ = some after) :
    before.noticed side env after ↔ (env.recv = .closed → ¬ waits env.errno) := by
  obtain ⟨valid,masked⟩ := runs_masked arrived (select_runs path)
  obtain ⟨stepped,item,found,wants⟩ := selectStep_parts ran
  have live := arrived_live arrived (select_runs path) stepped
  have step := relayStep_flow valid live stepped
  have maskedAfter := preserves_masked masked step
  have reads : (before.flow.mask side).read = true := by
    have known := masked.mirrored side
    change (before.sel.registered (before.socks.fdOf side)).map Item.interest = _ at known
    rw [found,Option.map_some] at known
    refine masked.within side ?_
    rw [← Option.some.inj known]
    exact wants
  constructor
  · rintro ⟨ends,_⟩ closed again
    have gone := (masked_ended maskedAfter side).mp (ends closed)
    rcases closed_step step room closed with ⟨_,kept⟩ | ⟨fresh,_⟩
    · rw [kept,reads] at gone
      cases gone
    · exact fresh again
  · intro fresh
    refine ⟨?_,fun code failed again => copyRead_waits valid live stepped room failed again⟩
    intro closed
    rcases closed_step step room closed with ⟨again,_⟩ | ⟨_,gone⟩
    · exact absurd again (fresh closed)
    · exact (masked_ended maskedAfter side).mpr gone

theorem newRelay_arrived : newRelay.Arrived := by
  have view := newRelay_entered.view
  exact ⟨newRelay_entered.wired,view.live,view.masks,view.wants,view.registered⟩

theorem newRelay_noticed : ∃ after,
    selectStep 1 newRelay ⟨.read,.cli,{quiet with recv:=.closed}⟩ = some after ∧
    newRelay.noticed .cli {quiet with recv:=.closed} after := by
  have facts : (selectStep 1 newRelay ⟨.read,.cli,{quiet with recv:=.closed}⟩).isSome = true := by decide +kernel
  obtain ⟨after,ran⟩ := Option.isSome_iff_exists.mp facts
  refine ⟨after,ran,(end_noticed_exact newRelay_arrived .nil ?_ ran).mpr ?_⟩
  · decide +kernel
  · rintro _ (again | block)
    · cases again
    · cases block

-- The client ends its stream while errno still says that some other call had to wait.
theorem stale_errno_misses : newRelay.Arrived ∧
    ∃ after, selectStep 1 newRelay ⟨.read,.cli,{quiet with recv:=.closed,errno:=eagain}⟩ = some after ∧
      ¬ newRelay.noticed .cli {quiet with recv:=.closed,errno:=eagain} after := by
  have facts : (selectStep 1 newRelay ⟨.read,.cli,{quiet with recv:=.closed,errno:=eagain}⟩).map
      (fun after => (after.socks.copyOf .cli).intConnection.read) = some true := by decide +kernel
  obtain ⟨after,ran,reads⟩ := Option.map_eq_some_iff.mp facts
  refine ⟨newRelay_arrived,after,ran,?_⟩
  intro noticed
  rw [(noticed.1 rfl).1] at reads
  cases reads

end Socks5d
