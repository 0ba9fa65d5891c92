import Socks5d.ControlProtocol
import Socks5d.Handlers
import Socks5d.Foundations.Trace

namespace Socks5d.ControlProtocol
open Scan Trace

variable {data : Nat} {s next : ControlSession} {cpc after : ControlProtConn} {env : CpEnv} {key : SelectorKey}
  {sel : Selector} {g : Globals} {kind : EventKind} {e : ControlEvent} {trace effects : List CpEffect}
  {state : ControlProtStmState} {reads : Bool} {called : List CpEffect} {fd : Int}

def unjudgedFrom (taken : List UInt8) (trace : List CpEffect) : List UInt8 :=
  trace.foldl (fun taken effect => match effect with
    | .typed bytes => taken ++ bytes
    | .verdict _ => []
    | _ => taken) taken

def unjudged (trace : List CpEffect) : List UInt8 := unjudgedFrom [] trace

def CpEffect.attempts : CpEffect → Bool
  | .typed _ => true
  | .verdict _ => true
  | _ => false

def Admitted (trace : List CpEffect) : Prop := ∃ earlier line later, trace = earlier ++ .verdict true :: later ∧
  unjudged earlier = passwordLine line ∧ newline ∉ line ∧ cString line = adminPassword ∧
  ∀ effect ∈ later, effect.attempts = false

def Entered (trace : List CpEffect) : Prop := ∃ before after, trace = before ++ .enter .execute :: after ∧ Admitted before

theorem unjudged_typed (bytes : List UInt8) : unjudged (trace ++ [.typed bytes]) = unjudged trace ++ bytes := by
  rw [unjudged,unjudgedFrom,List.foldl_append]
  rfl

theorem unjudged_verdict (valid : Bool) : unjudged (trace ++ [.verdict valid]) = [] := by
  rw [unjudged,unjudgedFrom,List.foldl_append]
  rfl

theorem unjudged_silent (silent : ∀ effect ∈ effects, effect.attempts = false) :
    unjudged (trace ++ effects) = unjudged trace := by
  induction effects generalizing trace with
  | nil => rw [List.append_nil]
  | cons effect rest ih =>
      have one : unjudged (trace ++ [effect]) = unjudged trace := by
        have quiet := silent effect List.mem_cons_self
        rw [unjudged,unjudgedFrom,List.foldl_append]
        cases effect with
        | typed bytes => cases quiet
        | verdict valid => cases quiet
        | _ => rfl
      rw [List.append_cons,ih (fun other member => silent other (List.mem_cons_of_mem _ member)),one]

theorem admitted_silent (admitted : Admitted trace) (silent : ∀ effect ∈ effects, effect.attempts = false) :
    Admitted (trace ++ effects) := by
  obtain ⟨earlier,line,later,split,typed,inside,right,calm⟩ := admitted
  refine ⟨earlier,line,later++effects,by rw [split,List.append_assoc]; rfl,typed,inside,right,?_⟩
  intro effect member
  rcases List.mem_append.mp member with old | new
  · exact calm effect old
  · exact silent effect new

theorem entered_later (entered : Entered trace) (effects : List CpEffect) : Entered (trace ++ effects) := by
  obtain ⟨before,after,split,admitted⟩ := entered
  exact ⟨before,after++effects,by rw [split,List.append_assoc]; rfl,admitted⟩

-- Each part of the verdict that the connection carries from one event to the next.
-- `reads` is whether its entry asks for read events.
structure Guard (trace : List CpEffect) (reads : Bool) (state : ControlProtStmState) (cpc : ControlProtConn) : Prop where
  room : cpc.readBuffer.capacity = bufferSize
  typed : cpc.authParser.Typed (unjudged trace)
  running : cpc.authParser.finished = false
  early : state = .hello → cpc.validPassword = false ∧ cpc.authAnsWritten = false
  asked : state = .auth → (cpc.authAnsWritten = true → cpc.validPassword = true) ∧
    (cpc.validPassword = true → Admitted trace ∧ reads = false)
  entered : state = .execute → Entered trace
  safe : state ≠ .error → .enter .error ∉ trace

def ownReads (data : Nat) (cpc : ControlProtConn) (sel : Selector) : Bool :=
  (ownEntry data cpc sel).any fun item => item.interest.read

theorem own_setInterest (i : FdInterest) :
    ownEntry data cpc (selectorSetInterest sel cpc.fd i).2 =
      (ownEntry data cpc sel).map fun item => {item with interest:=i} := by
  unfold ownEntry
  rw [setInterest_registered,if_pos rfl]
  cases sel.registered cpc.fd with
  | none => rfl
  | some item =>
      simp only [Option.map_some,Option.filter_some]
      split
      · rfl
      · rfl

theorem ownReads_quiet {i : FdInterest} (quiet : i.read = false) :
    ownReads data cpc (selectorSetInterest sel cpc.fd i).2 = false := by
  rw [ownReads,own_setInterest]
  cases ownEntry data cpc sel with
  | none => rfl
  | some item => exact quiet

theorem guard_failed (room : cpc.readBuffer.capacity = bufferSize) (typed : cpc.authParser.Typed (unjudged trace))
    (running : cpc.authParser.finished = false) : Guard trace reads .error cpc :=
  ⟨room,typed,running,by simp,by simp,by simp,by simp⟩

theorem guard_silent (guard : Guard trace reads state cpc) (silent : ∀ effect ∈ effects, effect.attempts = false)
    (sound : .enter .error ∉ effects) : Guard (trace ++ effects) reads state cpc := by
  refine ⟨guard.room,?_,guard.running,guard.early,?_,?_,?_⟩
  · rw [unjudged_silent silent]
    exact guard.typed
  · intro auth
    obtain ⟨written,valid⟩ := guard.asked auth
    exact ⟨written,fun right => ⟨admitted_silent (valid right).1 silent,(valid right).2⟩⟩
  · intro execute
    exact entered_later (guard.entered execute) effects
  · intro going member
    rcases List.mem_append.mp member with old | new
    · exact guard.safe going old
    · exact sound new

def Lawful (past : List CpEffect) (effect : CpEffect) : Prop :=
  ∀ parser, effect = .run parser → Entered past ∧ .enter .error ∉ past

theorem lawful_quiet (quiet : ∀ effect ∈ effects, ∀ parser, effect ≠ .run parser) : Each Lawful trace effects :=
  each_silent fun effect member _ parser same => absurd same (quiet effect member parser)

def entering (was next : ControlProtStmState) : List CpEffect := if was = next then [] else [.enter next]

theorem entering_same : entering state state = [] := if_pos rfl

theorem entering_silent (was next : ControlProtStmState) : ∀ effect ∈ entering was next, effect.attempts = false := by
  intro effect member
  unfold entering at member
  split at member
  · cases member
  · rw [List.mem_singleton.mp member]
    rfl

structure Leaves (data : Nat) (trace : List CpEffect) (state : ControlProtStmState) (fd : Int) (out : CpOutcome) :
    Prop where
  lawful : Each Lawful trace out.effects
  kept : ∀ after, out.cpc = some after → after.fd = fd ∧
    Guard (trace ++ out.effects ++ entering state out.next) (ownReads data after out.sel) out.next after

theorem leaves_some {next : ControlProtStmState} (same : after.fd = fd) (lawful : Each Lawful trace effects)
    (guard : Guard (trace ++ effects ++ entering state next) (ownReads data after sel) next after) :
    Leaves data trace state fd ⟨sel,g,some after,effects,next⟩ := by
  refine ⟨lawful,?_⟩
  intro other kept
  cases kept
  exact ⟨same,guard⟩

theorem leaves_failed (same : after.fd = fd) (lawful : Each Lawful trace effects)
    (room : after.readBuffer.capacity = bufferSize) (typed : after.authParser.Typed (unjudged (trace ++ effects)))
    (running : after.authParser.finished = false) :
    Leaves data trace state fd ⟨sel,g,some after,effects,.error⟩ := by
  refine leaves_some same lawful (guard_failed room ?_ running)
  rw [unjudged_silent (entering_silent _ _)]
  exact typed

theorem leaves_stays (same : after.fd = fd) (guard : Guard trace (ownReads data after sel) state after) :
    Leaves data trace state fd ⟨sel,g,some after,[],state⟩ := by
  refine leaves_some same trivial ?_
  rw [entering_same,List.append_nil,List.append_nil]
  exact guard

def CpEffect.moves : CpEffect → Bool
  | .parsed _ => true
  | .queued _ => true
  | _ => false

theorem moves_silent (moves : ∀ effect ∈ effects, effect.moves = true) : ∀ effect ∈ effects, effect.attempts = false := by
  intro effect member
  have moving := moves effect member
  cases effect with
  | parsed bytes => rfl
  | queued bytes => rfl
  | _ => cases moving

theorem moves_sound (moves : ∀ effect ∈ effects, effect.moves = true) : .enter state ∉ effects := by
  intro member
  cases moves _ member

theorem moves_lawful (moves : ∀ effect ∈ effects, effect.moves = true) : Each Lawful trace effects := by
  refine lawful_quiet ?_
  intro effect member parser same
  have moving := moves effect member
  rw [same] at moving
  cases moving

theorem leaves_moves (same : after.fd = fd) (guard : Guard trace (ownReads data after sel) state after)
    (moves : ∀ effect ∈ effects, effect.moves = true) : Leaves data trace state fd ⟨sel,g,some after,effects,state⟩ := by
  refine leaves_some same (moves_lawful moves) ?_
  rw [entering_same,List.append_nil]
  exact guard_silent guard (moves_silent moves) (moves_sound moves)

theorem helloWrite_leaves (guard : Guard trace (ownReads data cpc sel) .hello cpc) :
    Leaves data trace .hello cpc.fd (helloWrite env ⟨cpc.fd,data⟩ sel g cpc) := by
  obtain ⟨room,typed,running,early,_,_,safe⟩ := guard
  obtain ⟨invalid,unanswered⟩ := early rfl
  unfold helloWrite
  split
  · refine leaves_some rfl trivial ?_
    rw [List.append_nil]
    refine ⟨room,?_,running,by simp,?_,by simp,?_⟩
    · rw [unjudged_silent (entering_silent _ _)]
      exact typed
    · refine fun _ => ⟨?_,?_⟩
      · intro written
        exact absurd (unanswered.symm.trans written) Bool.false_ne_true
      · intro valid
        exact absurd (invalid.symm.trans valid) Bool.false_ne_true
    · intro _ member
      rcases List.mem_append.mp member with old | new
      · exact safe (by simp) old
      · simp [entering] at new
  · have stays : ∀ written buff, Guard trace (ownReads data cpc sel) .hello
        {cpc with helloWritten:=written,writeBuffer:=buff} :=
      fun _ _ => ⟨room,typed,running,early,by simp,by simp,safe⟩
    have fails : Leaves data trace .hello cpc.fd ⟨sel,g,some cpc,[],.error⟩ :=
      leaves_failed rfl trivial room (by rw [List.append_nil]; exact typed) running
    split
    · split
      · exact fails
      · split
        · exact fails
        · exact leaves_moves rfl (stays _ _) (by simp [CpEffect.moves])
    · exact leaves_stays rfl (stays cpc.helloWritten cpc.writeBuffer)

theorem done_parts {parser : CpAuthParser} {taken : List UInt8} (typed : parser.Typed taken)
    (finished : parser.finished = true) : ∃ line, taken = passwordLine line ∧ newline ∉ line ∧
      cString parser.inputPassword = cString line := by
  obtain ⟨_,reads⟩ := typed
  rw [of_decide_eq_true finished] at reads
  exact reads

-- authRead only runs where the entry asks for read events, so no verdict is pending.
theorem authRead_leaves (guard : Guard trace true .auth cpc) :
    Leaves data trace .auth cpc.fd (authRead env ⟨cpc.fd,data⟩ sel g cpc) := by
  obtain ⟨room,typed,running,_,asked,_,safe⟩ := guard
  obtain ⟨written,pending⟩ := asked rfl
  have invalid : cpc.validPassword = false := by
    by_contra valid
    exact absurd (pending (by simpa using valid)).2 (by simp)
  have unanswered : cpc.authAnsWritten = false := by
    by_contra answered
    rw [written (by simpa using answered)] at invalid
    cases invalid
  unfold authRead
  split
  · exact leaves_failed rfl trivial room (by rw [List.append_nil]; exact typed) running
  · obtain ⟨reads,kept⟩ := parseBytes_typed typed running cpc.readBuffer
    rw [← unjudged_typed] at reads
    dsimp only
    generalize parseBytes cpapParseByte CpAuthParser.failed CpAuthParser.finished cpc.readBuffer.unread.length
      cpc.authParser cpc.readBuffer = parsed at reads kept ⊢
    obtain ⟨parser,buff⟩ := parsed
    dsimp only at reads kept ⊢
    generalize cpc.readBuffer.unread.take (cpc.readBuffer.unread.length - buff.unread.length) = taken at reads ⊢
    split
    · rename_i failed
      refine leaves_failed rfl (lawful_quiet (by simp)) (kept.trans room) reads ?_
      exact decide_eq_false (by rw [of_decide_eq_true failed]; simp)
    · split
      · rename_i finished
        obtain ⟨line,whole,inside,same⟩ := done_parts reads finished
        refine leaves_some rfl (lawful_quiet (by simp)) ?_
        rw [entering_same,List.append_nil,← List.append_assoc]
        refine ⟨kept.trans room,?_,rfl,by simp,fun _ => ⟨?_,?_⟩,by simp,?_⟩
        · rw [unjudged_verdict]
          exact init_typed reads
        · intro answered
          exact absurd (unanswered.symm.trans answered) Bool.false_ne_true
        · intro valid
          have right : validatePassword parser = true := valid
          refine ⟨⟨trace ++ [.typed taken],line,[],by rw [right],whole,inside,?_,by simp⟩,ownReads_quiet rfl⟩
          rw [← same]
          exact (of_decide_eq_true right).symm
        · intro _ member
          simp only [List.mem_append,List.mem_singleton] at member
          rcases member with (old | new) | new
          · exact safe (by simp) old
          · cases new
          · cases new
      · rename_i sound unfinished
        refine leaves_some rfl (lawful_quiet (by simp)) ?_
        rw [entering_same,List.append_nil]
        refine ⟨kept.trans room,reads,by simpa using unfinished,by simp,fun _ => ⟨?_,?_⟩,by simp,?_⟩
        · intro answered
          exact absurd (unanswered.symm.trans answered) Bool.false_ne_true
        · intro valid
          exact absurd (invalid.symm.trans valid) Bool.false_ne_true
        · intro _ member
          rcases List.mem_append.mp member with old | new
          · exact safe (by simp) old
          · cases List.mem_singleton.mp new

theorem authWrite_leaves (guard : Guard trace (ownReads data cpc sel) .auth cpc) :
    Leaves data trace .auth cpc.fd (authWrite env ⟨cpc.fd,data⟩ sel g cpc) := by
  obtain ⟨room,typed,running,early,asked,_,safe⟩ := guard
  obtain ⟨written,pending⟩ := asked rfl
  unfold authWrite
  split
  · rename_i answered
    obtain ⟨admitted,_⟩ := pending (written (Bool.and_eq_true_iff.mp answered).1)
    refine leaves_some rfl trivial ?_
    rw [List.append_nil]
    refine ⟨room,?_,running,by simp,by simp,fun _ => ⟨trace,[],rfl,admitted⟩,?_⟩
    · rw [unjudged_silent (entering_silent _ _)]
      exact typed
    · intro _ member
      rcases List.mem_append.mp member with old | new
      · exact safe (by simp) old
      · simp [entering] at new
  · have stays : Leaves data trace .auth cpc.fd ⟨sel,g,some cpc,[],.auth⟩ :=
      leaves_stays rfl ⟨room,typed,running,early,asked,by simp,safe⟩
    split
    · exact stays
    · rename_i unanswered
      split
      · exact stays
      · split
        · exact stays
        · dsimp only
          split
          · rename_i refused
            refine leaves_moves rfl ⟨room,typed,running,by simp,fun _ => ⟨?_,?_⟩,by simp,safe⟩ (by simp [CpEffect.moves])
            · intro answered
              exact absurd answered unanswered
            · intro valid
              rw [valid] at refused
              cases refused
          · rename_i accepted
            refine leaves_moves rfl ⟨room,typed,running,by simp,fun _ => ⟨?_,pending⟩,by simp,safe⟩
              (by simp [CpEffect.moves])
            intro _
            simpa using accepted

theorem executeRead_leaves (guard : Guard trace (ownReads data cpc sel) .execute cpc)
    (more : cpc.readBuffer.unread ≠ []) :
    Leaves data trace .execute cpc.fd (executeRead env ⟨cpc.fd,data⟩ sel g cpc) := by
  obtain ⟨room,typed,running,_,_,entered,safe⟩ := guard
  have kept : (parseBytes cpcpParseByte CpCommandParser.failed CpCommandParser.finished cpc.readBuffer.unread.length
      cpc.commandParser cpc.readBuffer).2.capacity = cpc.readBuffer.capacity := by
    cases stopped : cpc.commandParser.finished with
    | true => rw [parseBytes_finished stopped]
    | false => exact (parseBytes_scan _ _ _ rfl stopped).2.2
  unfold executeRead
  rw [if_neg (by simpa [cpc.readBuffer.canRead_unread] using more)]
  dsimp only
  generalize parseBytes cpcpParseByte CpCommandParser.failed CpCommandParser.finished cpc.readBuffer.unread.length
    cpc.commandParser cpc.readBuffer = parsed at kept ⊢
  obtain ⟨parser,buff⟩ := parsed
  dsimp only at kept ⊢
  have moves : ∀ effect ∈ [CpEffect.parsed (cpc.readBuffer.unread.take
      (cpc.readBuffer.unread.length - buff.unread.length))], effect.moves = true := by simp [CpEffect.moves]
  split
  · exact leaves_failed rfl (moves_lawful moves) (kept.trans room)
      (by rw [unjudged_silent (moves_silent moves)]; exact typed) running
  · split
    · exact leaves_moves rfl ⟨kept.trans room,typed,running,by simp,by simp,entered,safe⟩ moves
    · exact leaves_moves rfl ⟨kept.trans room,typed,running,by simp,by simp,entered,safe⟩ moves

theorem executeAnswer_leaves (guard : Guard trace (ownReads data cpc sel) .execute cpc) (answer : List UInt8)
    (lawful : Each Lawful trace effects) (silent : ∀ effect ∈ effects, effect.attempts = false)
    (sound : .enter .error ∉ effects) :
    Leaves data trace .execute cpc.fd (executeAnswer env sel g cpc answer effects) := by
  obtain ⟨room,typed,running,_,_,entered,safe⟩ := guard_silent guard silent sound
  unfold executeAnswer
  dsimp only
  split
  · refine leaves_some rfl lawful ?_
    rw [entering_same,List.append_nil]
    exact ⟨room,typed,running,by simp,by simp,entered,safe⟩
  · have moves : ∀ effect ∈ [CpEffect.queued (cString (answer ++ env.behind))], effect.moves = true := by
      simp [CpEffect.moves]
    refine leaves_some rfl (each_append.mpr ⟨lawful,moves_lawful moves⟩) ?_
    rw [entering_same,List.append_nil,← List.append_assoc]
    exact guard_silent ⟨room,typed,running,by simp,by simp,entered,safe⟩ (moves_silent moves) (moves_sound moves)

theorem executeWrite_leaves (guard : Guard trace (ownReads data cpc sel) .execute cpc) :
    Leaves data trace .execute cpc.fd (executeWrite env ⟨cpc.fd,data⟩ sel g cpc) := by
  have guarded := guard
  obtain ⟨room,typed,running,_,_,entered,safe⟩ := guard
  unfold executeWrite
  split
  · exact leaves_stays rfl ⟨room,typed,running,by simp,by simp,entered,safe⟩
  · split
    · exact leaves_stays rfl guarded
    · split
      · exact executeAnswer_leaves guarded _ trivial (by simp) (by simp)
      · split
        · exact leaves_failed rfl trivial room (by rw [List.append_nil]; exact typed) running
        · rename_i command _
          have lawful : Each Lawful trace [.run cpc.commandParser] :=
            ⟨fun _ _ => ⟨entered rfl,safe (by simp)⟩,trivial⟩
          have silent : ∀ effect ∈ [CpEffect.run cpc.commandParser], effect.attempts = false := by
            intro effect member
            rw [List.mem_singleton.mp member]
            rfl
          dsimp only
          split
          · exact leaves_failed rfl lawful room (by rw [unjudged_silent silent]; exact typed) running
          · exact executeAnswer_leaves guarded _ lawful silent (by simp)

theorem cpError_leaves : Leaves data trace state cpc.fd (cpError env key sel g cpc) := by
  refine ⟨lawful_quiet (by simp [cpError,freeControlProtConn]),?_⟩
  intro after kept
  cases kept

theorem cpStateHandler_cases {handler : CpStateHandler} (found : cpStateHandler kind state = some handler) :
    (state = .hello ∧ kind = .write ∧ handler = helloWrite) ∨
    (state = .auth ∧ (kind = .read ∧ handler = authRead ∨ kind = .write ∧ handler = authWrite)) ∨
    (state = .execute ∧ (kind = .read ∧ handler = executeRead ∨ kind = .write ∧ handler = executeWrite)) ∨
    (state = .error ∧ handler = cpError) := by
  cases state <;> cases kind <;> first | (cases found; done) | (cases found; simp)

theorem handler_leaves {handler : CpStateHandler} (found : cpStateHandler kind state = some handler)
    (guard : Guard trace (ownReads data cpc sel) state cpc)
    (readable : kind = .read → ownReads data cpc sel = true ∧ cpc.readBuffer.unread ≠ []) :
    Leaves data trace state cpc.fd (handler env ⟨cpc.fd,data⟩ sel g cpc) := by
  rcases cpStateHandler_cases found with ⟨rfl,_,rfl⟩ | ⟨rfl,⟨read,rfl⟩ | ⟨_,rfl⟩⟩ | ⟨rfl,⟨read,rfl⟩ | ⟨_,rfl⟩⟩ | ⟨rfl,rfl⟩
  · exact helloWrite_leaves guard
  · rw [(readable read).1] at guard
    exact authRead_leaves guard
  · exact authWrite_leaves guard
  · exact executeRead_leaves guard (readable read).2
  · exact executeWrite_leaves guard
  · exact cpError_leaves

theorem cpStm_leaves {out : CpOutcome} (ran : cpStmHandler kind env ⟨cpc.fd,data⟩ sel g cpc = some out)
    (guard : Guard trace (ownReads data cpc sel) cpc.current cpc)
    (readable : kind = .read → ownReads data cpc sel = true ∧ cpc.readBuffer.unread ≠ []) :
    Each Lawful trace out.effects ∧ ∀ after, out.cpc = some after →
      Guard (trace ++ out.effects) (ownReads data after out.sel) after.current after := by
  obtain ⟨handler,found,jumped⟩ := cpStm_some ran
  have first : Guard trace (ownReads data cpc sel) cpc.current {cpc with connStm:=some cpc.current} :=
    ⟨guard.room,guard.typed,guard.running,guard.early,guard.asked,guard.entered,guard.safe⟩
  obtain ⟨lawful,kept⟩ := @handler_leaves data {cpc with connStm:=some cpc.current} env sel g kind trace
    cpc.current handler found first readable
  subst jumped
  refine ⟨each_append.mpr ⟨lawful,lawful_quiet ?_⟩,?_⟩
  · intro effect member parser same
    rw [same] at member
    split at member
    · cases member
    · cases List.mem_singleton.mp member
  · intro after live
    obtain ⟨before,stored,same⟩ := Option.map_eq_some_iff.mp live
    obtain ⟨_,guarded⟩ := kept before stored
    rw [List.append_assoc] at guarded
    subst same
    exact ⟨guarded.room,guarded.typed,guarded.running,guarded.early,guarded.asked,guarded.entered,guarded.safe⟩

def Sound (data : Nat) (trace : List CpEffect) (served : CpServed) : Prop :=
  Each Lawful trace served.effects ∧ ∀ after, served.cpc = some after →
    Guard (trace ++ served.effects) (ownReads data after served.sel) after.current after

theorem freed_sound (quiet : ∀ effect ∈ called, ∀ parser, effect ≠ .run parser) :
    Sound data trace (freeControlProtConn cpc sel g called) := by
  refine ⟨lawful_quiet ?_,?_⟩
  · intro effect member
    rcases List.mem_append.mp member with earlier | closed
    · exact quiet effect earlier
    · rw [List.mem_singleton.mp closed]
      simp
  · intro after live
    cases live

theorem read_sound {served : CpServed} (ran : cpReadHandler env ⟨cpc.fd,data⟩ sel g cpc = some served)
    (guard : Guard trace (ownReads data cpc sel) cpc.current cpc) (asks : ownReads data cpc sel = true) :
    Sound data trace served := by
  unfold cpReadHandler at ran
  split at ran
  · split at ran
    · rename_i bytes got
      obtain ⟨out,handled,same⟩ := Option.map_eq_some_iff.mp ran
      obtain ⟨some_,fits⟩ := clip_data got
      obtain ⟨room,typed,running,early,asked,entered,safe⟩ :=
        @guard_silent _ trace [.recv (.data bytes)] _ _ guard (by simp [CpEffect.attempts]) (by simp)
      have filled : Guard (trace ++ [.recv (.data bytes)]) (ownReads data cpc sel) cpc.current
          {cpc with readBuffer:=cpc.readBuffer.fill bytes} :=
        ⟨(CertifiedBuffer.fill_capacity _ _).trans room,typed,running,early,asked,entered,safe⟩
      obtain ⟨lawful,kept⟩ := @cpStm_leaves data {cpc with readBuffer:=cpc.readBuffer.fill bytes} env sel g .read _
        out handled filled (by
          refine fun _ => ⟨asks,?_⟩
          rw [CertifiedBuffer.fill_unread,List.take_of_length_le fits]
          simp [some_])
      subst same
      refine ⟨⟨by simp [Lawful],lawful⟩,?_⟩
      intro after live
      rw [← List.append_assoc]
      exact kept after live
    · cases ran
      exact freed_sound (by simp)
  · rename_i full
    obtain ⟨out,handled,same⟩ := Option.map_eq_some_iff.mp ran
    subst same
    refine cpStm_leaves handled guard (fun _ => ⟨asks,?_⟩)
    rw [CertifiedBuffer.canWrite_space] at full
    exact cpc.readBuffer.full_unread (by omega) (by rw [guard.room]; decide)

theorem flush_sound (lawful : Each Lawful trace called)
    (guard : Guard (trace ++ called) (ownReads data cpc sel) cpc.current cpc) :
    Sound data trace (cpFlush env sel g cpc called) := by
  have send : ∀ bytes, Each Lawful trace (called ++ [.send bytes]) :=
    fun _ => each_append.mpr ⟨lawful,lawful_quiet (by simp)⟩
  unfold cpFlush
  split
  · dsimp only
    split
    · refine ⟨each_append.mpr ⟨each_append.mpr ⟨lawful,lawful_quiet (by simp)⟩,lawful_quiet (by simp)⟩,?_⟩
      intro after live
      cases live
    · refine ⟨send _,?_⟩
      intro after live
      cases live
      obtain ⟨room,typed,running,early,asked,entered,safe⟩ :=
        @guard_silent _ _ [.send (env.send.bytes cpc.writeBuffer)] _ _ guard (by simp [CpEffect.attempts]) (by simp)
      rw [List.append_assoc] at typed asked entered safe
      exact ⟨room,typed,running,early,asked,entered,safe⟩
  · refine ⟨lawful,?_⟩
    intro after live
    cases live
    exact guard

theorem write_sound {served : CpServed} (ran : cpWriteHandler env ⟨cpc.fd,data⟩ sel g cpc = some served)
    (guard : Guard trace (ownReads data cpc sel) cpc.current cpc) : Sound data trace served := by
  obtain ⟨out,handled,same⟩ := Option.map_eq_some_iff.mp ran
  obtain ⟨lawful,kept⟩ := cpStm_leaves handled guard (fun read => by cases read)
  subst same
  split
  · refine ⟨lawful,?_⟩
    intro after live
    cases live
  · rename_i after live
    split
    · refine ⟨lawful,?_⟩
      intro other same
      cases same
      exact kept after live
    · exact flush_sound lawful (kept after live)

structure ControlSession.Guarded (data : Nat) (s : ControlSession) : Prop where
  lawful : Each Lawful [] s.trace
  guard : ∀ cpc, s.cpc = some cpc → Guard s.trace (ownReads data cpc s.sel) cpc.current cpc

theorem guard_reads {before : Bool} (guard : Guard trace before state cpc) (less : reads = true → before = true) :
    Guard trace reads state cpc := by
  refine ⟨guard.room,guard.typed,guard.running,guard.early,?_,guard.entered,guard.safe⟩
  intro auth
  obtain ⟨written,valid⟩ := guard.asked auth
  refine ⟨written,fun right => ⟨(valid right).1,?_⟩⟩
  by_contra asks
  rw [less (by simpa using asks)] at valid
  exact absurd (valid right).2 (by simp)

theorem preserves_guarded (guarded : s.Guarded data) (ran : controlStep data s e = some next) : next.Guarded data := by
  cases e with
  | event kind env =>
      obtain ⟨cpc,live,ran⟩ := Option.bind_eq_some_iff.mp ran
      split at ran
      · rename_i asks
        obtain ⟨served,handled,same⟩ := Option.map_eq_some_iff.mp ran
        have sound : Sound data s.trace served := by
          cases kind with
          | read => exact read_sound handled (guarded.guard cpc live) asks
          | write => exact write_sound handled (guarded.guard cpc live)
          | block => cases handled
        subst same
        exact ⟨each_extend guarded.lawful (by simpa using sound.1),sound.2⟩
      · cases ran
  | elsewhere sel globals =>
      obtain ⟨spared,rfl⟩ := elsewhere_spares ran
      refine ⟨guarded.lawful,?_⟩
      intro cpc live
      have live : s.cpc = some cpc := live
      refine guard_reads (guarded.guard cpc live) ?_
      intro asks
      rcases spares_entry spared live with gone | same
      · rw [ownReads,gone] at asks
        cases asks
      · rw [ownReads,same] at asks
        exact asks

theorem accepted_guarded (data : Nat) (sel : Selector) (g : Globals) (clientFd : Int) :
    (passiveCpSocketHandler data sel g clientFd).Guarded data := by
  unfold passiveCpSocketHandler
  dsimp only
  split
  · refine ⟨lawful_quiet (by simp [freeControlProtConn]),?_⟩
    intro cpc live
    cases live
  · refine ⟨trivial,?_⟩
    intro cpc live
    cases live
    exact ⟨rfl,init_typed zeroed_typed,rfl,fun _ => ⟨rfl,rfl⟩,by simp [ControlProtConn.current,newControlProtConn],
      by simp [ControlProtConn.current,newControlProtConn],by simp⟩

theorem runs_guarded (path : ControlRuns data (passiveCpSocketHandler data sel g fd) events last) :
    last.Guarded data :=
  path.invariant (accepted_guarded data sel g fd) (fun _ _ _ => preserves_guarded)

theorem command_after_password (path : ControlRuns data (passiveCpSocketHandler data sel g fd) events last)
    (split : last.trace = past ++ .run parser :: future) : Entered past ∧ .enter .error ∉ past :=
  each_at (runs_guarded path).lawful split parser rfl

def adminTypes (bytes : List UInt8) : ControlEvent := .event .read ⟨.data bytes,.sent 0,true,[],4⟩
def adminTakes (count : Nat) : ControlEvent := .event .write ⟨.closed,.sent count,true,[],4⟩

-- One wrong password, half of the answer sent, the right password in two segments, and
-- then a command.
def adminSession : List ControlEvent :=
  [adminTakes 7,adminTakes 0,adminTypes (passwordLine (ascii "pass")),adminTakes 2,
    adminTypes [0x30,0x01,0x70,0x61,0x73],adminTypes (ascii "s1234\n"),adminTakes 4,adminTakes 0,
    adminTypes [0x37,0x00],adminTakes 1]

theorem retried_login_runs : ∃ last past parser future,
    Transitions.exec (controlStep 3) (passiveCpSocketHandler 3 mainSelector ⟨.empty,true,.start⟩ 7) adminSession =
      some last ∧ last.trace = past ++ .run parser :: future ∧ Entered past ∧ .enter .error ∉ past := by
  have facts : (Transitions.exec (controlStep 3) (passiveCpSocketHandler 3 mainSelector ⟨.empty,true,.start⟩ 7)
      adminSession).map (fun last => last.trace.any fun effect => match effect with
        | .run _ => true
        | _ => false) = some true := by decide +kernel
  obtain ⟨last,ran,found⟩ := Option.map_eq_some_iff.mp facts
  obtain ⟨effect,member,runs⟩ := List.any_eq_true.mp found
  obtain ⟨past,future,split⟩ := List.append_of_mem member
  cases effect with
  | run parser =>
      exact ⟨last,past,parser,future,ran,split,command_after_password (Transitions.exec_runs ran) split⟩
  | _ => cases runs

end Socks5d.ControlProtocol
