import Socks5d.ForwardPath

namespace Socks5d
open Holdings

abbrev ServerRuns := Transitions.Runs fun s e next => serverStep s e = some next

-- Nothing was dialled yet: the request is not read, or its name is being resolved.
def SocksConnModel.undialled (socks : SocksConnModel) : Prop := socks.current.early = true ∨ socks.current = .reqDns

-- Every descriptor of a connection is one that it still names, so that closing it gives
-- back all that it has.
structure NamesOwned (owner : Table Int Owner) (id : Nat) (socks : SocksConnModel) : Prop where
  owned : ∀ fd, owner fd = some (.socks id) → fd = socks.cliConn.socket ∨ fd = socks.srcConn.socket
  client : socks.undialled → ∀ fd, owner fd = some (.socks id) → fd = socks.cliConn.socket

structure Server.Accounted (s : Server) : Prop where
  names : ∀ id socks, s.conn id = some socks → NamesOwned s.owner id socks
  live : ∀ fd id, s.owner fd = some (.socks id) → ∃ socks, s.conn id = some socks
  issued : ∀ id socks, s.conn id = some socks → id < s.nextId
  open_ : s.owner (-1) = none

variable {s next : Server} {e : ServerEvent} {socks after : SocksConnModel} {env : Env} {sel : Selector} {fd : Int}
  {kind : EventKind} {id other : Nat} {out : Outcome} {owner : Table Int Owner} {moves : List (Act Int)} {ends : Bool}
  {events : List ServerEvent} {party : Owner}

theorem names_fewer {later : Table Int Owner} (names : NamesOwned owner id socks)
    (fewer : ∀ fd, later fd = some (.socks id) → owner fd = some (.socks id)) : NamesOwned later id socks :=
  ⟨fun fd own => names.owned fd (fewer fd own),fun early fd own => names.client early fd (fewer fd own)⟩

theorem advances_names (names : NamesOwned owner id socks) (advances : Advances env (handleFirst socks) out)
    (client : after.cliConn = out.socks.cliConn) (origin : after.srcConn = out.socks.srcConn)
    (state : after.current = out.next) : NamesOwned (perform (.socks id) owner (acts out.effects)) id after := by
  have late : ∀ {next : SocksState}, next = .reqConnect ∨ next = .reqWrite ∨ next = .error →
      ¬ (next.early = true ∨ next = .reqDns) := by
    rintro next (rfl | rfl | rfl) <;> decide
  have opened : ∀ {dropped : List (Act Int)} {spare : List AddrInfo}, Tries env (handleFirst socks) dropped spare out →
      (∀ fd, perform (.socks id) owner dropped fd = some (.socks id) → fd = socks.cliConn.socket) →
      NamesOwned (perform (.socks id) owner (acts out.effects)) id after := by
    intro dropped spare tries rest
    have same : after.cliConn = socks.cliConn := client.trans tries.opens.client
    refine ⟨?_,?_⟩
    · intro fd own
      rw [same,origin,tries.opens.origin]
      rw [tries.opens.moved,perform_append] at own
      split at own
      · exact .inl (rest fd own)
      · rw [perform_cons,perform_nil,act,Function.update_apply] at own
        split at own
        · rename_i taken
          exact .inr taken
        · exact .inl (rest fd own)
    · intro early
      rw [SocksConnModel.undialled,state] at early
      exact absurd early (late tries.next)
  cases advances with
  | idles idles _ follows =>
      obtain ⟨kept,_⟩ := idles
      rw [acts_plain kept.plain]
      have cli : after.cliConn = socks.cliConn := client.trans kept.client
      have src : after.srcConn.socket = socks.srcConn.socket := by
        rw [origin]
        exact kept.origin
      refine ⟨?_,?_⟩
      · intro fd own
        rw [cli,src]
        exact names.owned fd own
      · intro early fd own
        rw [cli]
        refine names.client ?_ fd own
        rw [SocksConnModel.undialled,state] at early
        rcases early with early | dns
        · exact .inl (early_before follows early)
        · rcases dns_before follows dns with reads | waits
          · exact .inl (by rw [show socks.current = .reqRead from reads]; rfl)
          · exact .inr waits
  | first reads tries =>
      have early : socks.undialled := .inl (by rw [show socks.current = .reqRead from reads]; rfl)
      exact opened tries (names.client early)
  | named _ _ waits _ tries => exact opened tries (names.client (.inr waits))
  | again _ _ _ _ tries =>
      refine opened tries fun fd own => ?_
      rw [perform_cons,perform_nil,act,Function.update_apply] at own
      split at own
      · cases own
      · rename_i kept
        exact (names.owned fd own).resolve_right kept
  | exhausted _ _ _ cli src moved next =>
      rw [moved]
      refine ⟨?_,?_⟩
      · intro fd own
        rw [perform_cons,perform_nil,act,Function.update_apply] at own
        split at own
        · cases own
        · rename_i kept
          rw [client,cli]
          exact .inl ((names.owned fd own).resolve_right kept)
      · intro early
        rw [SocksConnModel.undialled,state] at early
        exact absurd early (late (.inr next))

theorem advances_untaken {socks : SocksConnModel} (advances : Advances env socks out) : .take (-1) ∉ acts out.effects := by
  have opened : ∀ {dropped : List (Act Int)} {spare : List AddrInfo}, Tries env socks dropped spare out →
      .take (-1) ∉ dropped → .take (-1) ∉ acts out.effects := by
    intro dropped spare tries rest
    rw [tries.opens.moved,List.mem_append,not_or]
    refine ⟨rest,?_⟩
    split
    · simp
    · rename_i some
      simpa using Ne.symm some
  cases advances with
  | idles idles =>
      rw [acts_plain idles.keeps.plain]
      exact List.not_mem_nil
  | first _ tries => exact opened tries List.not_mem_nil
  | named _ _ _ _ tries => exact opened tries List.not_mem_nil
  | again _ _ _ _ tries => exact opened tries (by simp)
  | exhausted _ _ _ _ _ moved =>
      rw [moved]
      simp

theorem apply_accounted (accounted : s.Accounted) (ran : s.apply id moves sel socks ends = some next)
    (issued : id < s.nextId) (own : NamesOwned (perform (.socks id) s.owner moves) id socks) (untaken : .take (-1) ∉ moves) :
    next.Accounted := by
  obtain ⟨_,table,conn,ids⟩ := apply_parts ran
  have others : ∀ {other : Nat} {fd : Int}, other ≠ id → next.owner fd = some (.socks other) →
      s.owner fd = some (.socks other) := by
    intro other fd differs holds
    rw [table] at holds
    exact perform_gains (by simpa using differs) holds
  refine ⟨?_,?_,?_,?_⟩
  · intro other theirs live
    rw [conn] at live
    by_cases same : other = id
    · subst same
      rw [Function.update_self] at live
      cases live
      rw [table]
      exact own
    · rw [Function.update_of_ne same] at live
      exact names_fewer (accounted.names other theirs live) fun fd => others same
  · intro fd other holds
    rw [conn]
    by_cases same : other = id
    · exact ⟨socks,by rw [same,Function.update_self]⟩
    · rw [Function.update_of_ne same]
      exact accounted.live fd other (others same holds)
  · intro other theirs live
    rw [ids]
    rw [conn] at live
    by_cases same : other = id
    · rw [same]
      exact issued
    · rw [Function.update_of_ne same] at live
      exact accounted.issued other theirs live
  · rw [table,perform_untaken untaken,accounted.open_,ite_self]

theorem accept_accounted {listener socket : Int} {nio : Bool} (accounted : s.Accounted)
    (ran : s.serve (.accept listener socket nio) = some next) : next.Accounted := by
  unfold Server.serve at ran
  dsimp only at ran
  split at ran
  · have later : Server.Accounted {s with nextId:=s.nextId+1} :=
      ⟨accounted.names,accounted.live,fun id socks live => Nat.lt_succ_of_lt (accounted.issued id socks live),
        accounted.open_⟩
    have only : ∀ fd, perform (.socks s.nextId) s.owner (if socket = -1 then [] else [.take socket]) fd =
        some (.socks s.nextId) → fd = socket := by
      intro fd own
      by_contra away
      have before : s.owner fd = some (.socks s.nextId) := by
        split at own
        · exact own
        · rwa [perform_cons,perform_nil,act,Function.update_of_ne away] at own
      obtain ⟨theirs,live⟩ := accounted.live fd _ before
      exact Nat.lt_irrefl _ (accounted.issued _ theirs live)
    refine apply_accounted later ran (Nat.lt_succ_self _) ⟨fun fd own => .inl (only fd own),fun _ => only⟩ ?_
    split
    · exact List.not_mem_nil
    · rename_i some
      simpa using Ne.symm some
  · cases ran

theorem event_accounted (accounted : s.Accounted) (ran : s.serve (.event kind fd env) = some next) :
    next.Accounted := by
  obtain ⟨id,socks,handler,found,table,ran⟩ := serve_event ran
  have live := entry_live found
  have advances := @handler_advances env ⟨fd,id⟩ s.sel (handleFirst socks) kind handler table
  obtain ⟨_,_,_,stm,_,_,_,client,origin,_⟩ := jump_parts env (handler env ⟨fd,id⟩ s.sel (handleFirst socks))
  refine apply_accounted accounted ran (accounted.issued id socks live) ?_ (advances_untaken advances)
  refine advances_names (accounted.names id socks live) advances client origin ?_
  rw [SocksConnModel.current,stm]
  rfl

theorem resolved_accounted {addrs : List AddrInfo} (accounted : s.Accounted)
    (ran : s.serve (.resolved id addrs) = some next) : next.Accounted := by
  obtain ⟨socks,live,ran⟩ := Option.bind_eq_some_iff.mp ran
  split at ran
  · cases ran
    have before : ∀ other theirs, Function.update s.conn id (some {socks with resolvedAddr:=addrs,currAddr:=addrs}) other =
        some theirs → ∃ was, s.conn other = some was ∧ (NamesOwned s.owner other was → NamesOwned s.owner other theirs) := by
      intro other theirs found
      by_cases same : other = id
      · subst same
        rw [Function.update_self] at found
        cases found
        exact ⟨socks,live,fun names => ⟨names.owned,names.client⟩⟩
      · rw [Function.update_of_ne same] at found
        exact ⟨theirs,found,fun names => names⟩
    refine ⟨?_,?_,?_,accounted.open_⟩
    · intro other theirs found
      obtain ⟨was,conn,names⟩ := before other theirs found
      exact names (accounted.names other was conn)
    · intro fd other holds
      obtain ⟨theirs,conn⟩ := accounted.live fd other holds
      by_cases same : other = id
      · exact ⟨_,by rw [same]; exact Function.update_self _ _ _⟩
      · exact ⟨theirs,(Function.update_of_ne same _ _).trans conn⟩
    · intro other theirs found
      obtain ⟨was,conn,_⟩ := before other theirs found
      exact accounted.issued other was conn
  · cases ran

theorem party_accounted (accounted : s.Accounted) (outside : party.foreign = true) (untaken : .take (-1) ∉ moves)
    (table : next.owner = perform party s.owner moves) (conn : next.conn = s.conn) (ids : next.nextId = s.nextId) :
    next.Accounted := by
  have others : ∀ {other : Nat} {fd : Int}, next.owner fd = some (.socks other) → s.owner fd = some (.socks other) := by
    intro other fd holds
    rw [table] at holds
    refine perform_gains ?_ holds
    rintro rfl
    cases outside
  refine ⟨?_,?_,?_,?_⟩
  · intro id socks live
    rw [conn] at live
    exact names_fewer (accounted.names id socks live) fun fd => others
  · intro fd id holds
    rw [conn]
    exact accounted.live fd id (others holds)
  · intro id socks live
    rw [conn] at live
    rw [ids]
    exact accounted.issued id socks live
  · rw [table,perform_untaken untaken,accounted.open_,ite_self]

theorem opens_accounted (accounted : s.Accounted) (ran : s.serve (.opens fd party) = some next) : next.Accounted := by
  unfold Server.serve at ran
  dsimp only at ran
  split at ran
  · rename_i free
    cases ran
    simp only [Bool.and_eq_true,decide_eq_true_eq] at free
    have valid : Act.take (-1) ∉ [Act.take fd] := by
      intro same
      cases List.mem_singleton.mp same
      exact absurd free.2 (by decide)
    exact @party_accounted s _ [.take fd] party accounted free.1.1 valid rfl rfl rfl
  · cases ran

theorem foreign_accounted {call : ForeignCall} (accounted : s.Accounted)
    (ran : s.serve (.foreign fd call) = some next) : next.Accounted := by
  unfold Server.serve at ran
  dsimp only at ran
  split at ran
  · rename_i theirs
    obtain ⟨party,holds,outside⟩ := (Option.any_eq_true _ _).mp theirs
    cases call with
    | register handler interest data =>
        unfold Server.foreignCall at ran
        dsimp only at ran
        split at ran
        · cases ran
        · cases ran
          exact ⟨accounted.names,accounted.live,accounted.issued,accounted.open_⟩
    | setInterest interest =>
        cases ran
        exact ⟨accounted.names,accounted.live,accounted.issued,accounted.open_⟩
    | unregister =>
        cases ran
        exact ⟨accounted.names,accounted.live,accounted.issued,accounted.open_⟩
    | close =>
        cases ran
        exact @party_accounted s _ [.drop fd] party accounted outside (by simp) rfl rfl rfl
  · cases ran

theorem close_accounted (accounted : s.Accounted) (live : s.conn id = some socks) : (s.close id socks).Accounted := by
  have untaken : ∀ fd, .take fd ∉ acts (closeSocksConn s.sel socks).2 := by
    intro fd member
    rcases close_named member with ⟨same,_⟩ | ⟨same,_⟩
    · cases same
    · cases same
  have left : ∀ {fd : Int} {other : Nat}, (s.close id socks).owner fd = some (.socks other) →
      .drop fd ∉ acts (closeSocksConn s.sel socks).2 ∧ s.owner fd = some (.socks other) := by
    intro fd other holds
    have after := holds
    rw [Server.close] at after
    dsimp only at after
    rw [perform_untaken (untaken fd)] at after
    split at after
    · cases after
    · rename_i kept
      exact ⟨kept,after⟩
  have gone : ∀ fd, (s.close id socks).owner fd ≠ some (.socks id) := by
    intro fd holds
    obtain ⟨kept,before⟩ := left holds
    have valid : fd ≠ -1 := fun same => by rw [same,accounted.open_] at before; cases before
    refine kept ?_
    rw [close_acts]
    rcases (accounted.names id socks live).owned fd before with rfl | rfl
    · exact List.mem_append_right _ (by rw [if_pos valid]; exact List.mem_singleton_self _)
    · exact List.mem_append_left _ (by rw [if_pos valid]; exact List.mem_singleton_self _)
  have others : ∀ {other : Nat}, other ≠ id → (s.close id socks).conn other = s.conn other :=
    fun differs => Function.update_of_ne differs _ _
  have before : ∀ {other : Nat} {theirs : SocksConnModel}, (s.close id socks).conn other = some theirs →
      s.conn other = some theirs := by
    intro other theirs found
    by_cases same : other = id
    · have none_ : (s.close id socks).conn other = none := by
        rw [same]
        exact Function.update_self _ _ _
      rw [none_] at found
      cases found
    · exact (others same).symm.trans found
  refine ⟨?_,?_,?_,?_⟩
  · intro other theirs found
    exact names_fewer (accounted.names other theirs (before found)) fun fd holds => (left holds).2
  · intro fd other holds
    have differs : other ≠ id := by
      rintro rfl
      exact gone fd holds
    obtain ⟨theirs,found⟩ := accounted.live fd other (left holds).2
    exact ⟨theirs,(others differs).trans found⟩
  · intro other theirs found
    exact accounted.issued other theirs (before found)
  · rw [Server.close]
    dsimp only
    rw [perform_untaken (untaken _),accounted.open_,ite_self]

theorem step_accounted (accounted : s.Accounted) (ran : serverStep s e = some next) : next.Accounted := by
  unfold serverStep at ran
  split at ran
  · cases e with
    | accept => exact accept_accounted accounted ran
    | event => exact event_accounted accounted ran
    | resolved => exact resolved_accounted accounted ran
    | opens => exact opens_accounted accounted ran
    | foreign => exact foreign_accounted accounted ran
    | close => cases ran
  · split at ran
    · obtain ⟨socks,live,rfl⟩ := Option.map_eq_some_iff.mp ran
      exact close_accounted accounted live
    · cases ran

theorem start_accounted : serverStart.Accounted :=
  ⟨fun _ _ live => (by cases live),fun _ _ holds => (by cases holds),fun _ _ live => (by cases live),rfl⟩

theorem no_descriptor_lost (path : ServerRuns serverStart events s) (holds : s.owner fd = some (.socks id)) :
    ∃ socks, s.conn id = some socks ∧
      (fd = socks.cliConn.socket ∨ fd = socks.srcConn.socket ∧ ¬ socks.undialled) := by
  have accounted := path.invariant start_accounted fun _ _ _ held ran => step_accounted held ran
  obtain ⟨socks,live⟩ := accounted.live fd id holds
  have names := accounted.names id socks live
  refine ⟨socks,live,?_⟩
  by_cases early : socks.undialled
  · exact .inl (names.client early fd holds)
  · exact (names.owned fd holds).imp_right fun origin => ⟨origin,early⟩

-- The origin that turned the client of `refused` down is still known to its connection.
theorem refused_keeps_names : ∃ s, Transitions.exec serverStep serverStart refused = some s ∧
    s.owner 6 = some (.socks 1) ∧ ∃ socks, s.conn 1 = some socks ∧
      ((6 : Int) = socks.cliConn.socket ∨ (6 : Int) = socks.srcConn.socket ∧ ¬ socks.undialled) := by
  have facts : (Transitions.exec serverStep serverStart refused).map (fun s => s.owner 6) =
      some (some (.socks 1)) := by decide +kernel
  obtain ⟨s,ran,holds⟩ := Option.map_eq_some_iff.mp facts
  exact ⟨s,ran,holds,no_descriptor_lost (Transitions.exec_runs ran) holds⟩

end Socks5d
