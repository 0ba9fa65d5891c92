import Socks5d.CommandTurns
import Socks5d.Foundations.Frames

namespace Socks5d.ControlProtocol
open Scan Trace

variable {bytes rest : List UInt8} {rows n : Nat} {lines : List (List UInt8)}

def WellFramed (bytes : List UInt8) : Prop := ∃ (status count : UInt8) (lines : List (List UInt8)),
  bytes = [status,count] ++ lines.flatMap (· ++ [newline]) ∧ (status = statusSuccess ∨ status = statusError) ∧
  lines.length = count.toNat ∧ ∀ line ∈ lines, newline ∉ line

def linesLength : Nat → List UInt8 → Option Nat
  | 0,_ => some 0
  | _+1,[] => none
  | rows+1,byte::rest => (linesLength (if byte = newline then rows else rows+1) rest).map (·+1)

theorem linesLength_append (known : linesLength rows bytes = some n) (rest : List UInt8) :
    linesLength rows (bytes ++ rest) = some n := by
  induction bytes generalizing rows n with
  | nil =>
      cases rows with
      | zero => simpa [linesLength] using known
      | succ rows => cases known
  | cons byte more ih =>
      cases rows with
      | zero => simpa [linesLength] using known
      | succ rows =>
          obtain ⟨left,told,same⟩ := Option.map_eq_some_iff.mp known
          simp [linesLength,ih told,same]

theorem linesLength_take (known : linesLength rows bytes = some n) :
    linesLength rows (bytes.take n) = some n := by
  induction bytes generalizing rows n with
  | nil => simpa using known
  | cons byte more ih =>
      cases rows with
      | zero =>
          cases known
          rfl
      | succ rows =>
          obtain ⟨left,told,same⟩ := Option.map_eq_some_iff.mp known
          subst same
          simp [linesLength,ih told]

theorem linesLength_line {line : List UInt8} (inside : newline ∉ line) (rest : List UInt8) :
    linesLength (rows+1) (line ++ newline::rest) = (linesLength rows rest).map (· + (line.length+1)) := by
  induction line with
  | nil => simp [linesLength]
  | cons byte more ih =>
      rw [List.mem_cons,not_or] at inside
      have other : byte ≠ newline := fun same => inside.1 same.symm
      rw [List.cons_append,linesLength,if_neg other,ih inside.2,Option.map_map]
      cases linesLength rows rest with
      | none => rfl
      | some left => rfl

theorem linesLength_lines (inside : ∀ line ∈ lines, newline ∉ line) :
    linesLength lines.length (lines.flatMap (· ++ [newline])) = some (lines.flatMap (· ++ [newline])).length := by
  induction lines with
  | nil => rfl
  | cons line more ih =>
      have others := ih (fun other member => inside other (List.mem_cons_of_mem _ member))
      rw [List.flatMap_cons,List.append_assoc,List.singleton_append,List.length_cons,
        linesLength_line (inside line List.mem_cons_self),others]
      simp
      omega

theorem linesLength_exact (known : linesLength rows bytes = some bytes.length) :
    ∃ lines : List (List UInt8), bytes = lines.flatMap (· ++ [newline]) ∧ lines.length = rows ∧
      ∀ line ∈ lines, newline ∉ line := by
  induction bytes generalizing rows with
  | nil =>
      cases rows with
      | zero => exact ⟨[],rfl,rfl,by simp⟩
      | succ rows => cases known
  | cons byte more ih =>
      cases rows with
      | zero => cases known
      | succ rows =>
          obtain ⟨left,told,same⟩ := Option.map_eq_some_iff.mp known
          have size : left = more.length := by simpa using same
          rw [size] at told
          by_cases ends : byte = newline
          · rw [if_pos ends] at told
            obtain ⟨lines,split,count,inside⟩ := ih told
            refine ⟨[]::lines,?_,by simp [count],by simpa using inside⟩
            rw [ends,split]
            rfl
          · rw [if_neg ends] at told
            obtain ⟨lines,split,count,inside⟩ := ih told
            cases lines with
            | nil => cases count
            | cons line lines =>
                refine ⟨(byte::line)::lines,by rw [split]; rfl,by simpa using count,?_⟩
                intro other member
                rcases List.mem_cons.mp member with rfl | later
                · rw [List.mem_cons,not_or]
                  exact ⟨fun same => ends same.symm,inside line List.mem_cons_self⟩
                · exact inside other (List.mem_cons_of_mem _ later)

def frameRefused : List UInt8 → Bool
  | [] => false
  | status::_ => !(decide (status = statusSuccess) || decide (status = statusError))

def frameLength : List UInt8 → Option Nat
  | status::count::rest => if frameRefused [status] then none else (linesLength count.toNat rest).map (·+2)
  | _ => none

theorem frameLength_known {status count : UInt8} (allowed : frameRefused [status] = false)
    (told : linesLength count.toNat rest = some n) : frameLength (status::count::rest) = some (n+2) := by
  rw [frameLength,allowed,told]
  rfl

theorem frameLength_parts (known : frameLength bytes = some n) : ∃ status count rest left,
    bytes = status::count::rest ∧ frameRefused [status] = false ∧ linesLength count.toNat rest = some left ∧
      n = left+2 := by
  cases bytes with
  | nil => cases known
  | cons status more =>
      cases more with
      | nil => cases known
      | cons count rest =>
          rw [frameLength] at known
          cases refused : frameRefused [status] with
          | true => rw [refused] at known; cases known
          | false =>
              rw [refused,if_neg Bool.false_ne_true] at known
              obtain ⟨left,told,same⟩ := Option.map_eq_some_iff.mp known
              exact ⟨status,count,rest,left,rfl,refused,told,same.symm⟩

def frameFormat : Framing UInt8 where
  refused := frameRefused
  length := frameLength
  refused_append := by
    intro taken rest refused
    cases taken with
    | nil => cases refused
    | cons status more => exact refused
  length_append := by
    intro taken rest n known
    obtain ⟨status,count,more,left,rfl,allowed,told,rfl⟩ := frameLength_parts known
    exact frameLength_known allowed (linesLength_append told rest)
  length_refused := by
    intro taken n known
    obtain ⟨status,count,more,left,rfl,allowed,_⟩ := frameLength_parts known
    exact allowed

theorem frame_local : frameFormat.Local := by
  intro bytes n known _
  obtain ⟨status,count,more,left,rfl,allowed,told,rfl⟩ := frameLength_parts known
  exact frameLength_known allowed (linesLength_take told)

theorem status_allowed {status : UInt8} :
    frameRefused [status] = false ↔ status = statusSuccess ∨ status = statusError := by
  rw [frameRefused,Bool.not_eq_false',Bool.or_eq_true,decide_eq_true_eq,decide_eq_true_eq]

theorem wellFramed_exact : WellFramed bytes ↔ frameFormat.Exact bytes := by
  constructor
  · rintro ⟨status,count,lines,rfl,allowed,size,inside⟩
    refine ⟨by simp,?_⟩
    have told := linesLength_lines inside
    rw [size] at told
    exact frameLength_known (status_allowed.mpr allowed) told
  · rintro ⟨_,known⟩
    obtain ⟨status,count,more,left,rfl,allowed,told,size⟩ := frameLength_parts known
    have whole : left = more.length := by simpa using size.symm
    rw [whole] at told
    obtain ⟨lines,split,rows,inside⟩ := linesLength_exact told
    exact ⟨status,count,lines,by rw [split]; rfl,status_allowed.mp allowed,rows,inside⟩

inductive CommandOutcome where
  | failed (errorCode : ControlProtErrorCode)
  | succeeded
  | metrics (g : Globals)
  | users (g : Globals)

def CommandOutcome.answer : CommandOutcome → Option (List UInt8)
  | .failed errorCode => statusFailedAnswer true errorCode
  | .succeeded => noDataStatusSuccessAnswer true
  | .metrics g => (getMetrics true g .zeroed).1
  | .users g => (getSocksUsers true g .zeroed).1

inductive ServerMessage where
  | hello
  | password (valid : Bool)
  | reply (outcome : CommandOutcome) (behind : List UInt8)

def ServerMessage.stored : ServerMessage → List UInt8
  | .hello => helloMsg
  | .password valid => authResult valid
  | .reply outcome behind => cString (outcome.answer.getD [] ++ behind)

-- Which of them are frames: not the hello, not the bare success, a failure when nothing
-- stands behind its block, the users when they can be counted and have no newline.
def ServerMessage.framed : ServerMessage → Prop
  | .hello => False
  | .password _ => True
  | .reply (.failed _) behind => cString behind = []
  | .reply .succeeded _ => False
  | .reply (.metrics _) _ => True
  | .reply (.users g) _ => g.users.users.length < 255 ∧ ∀ user ∈ g.users.users, newline ∉ cString user.name

theorem failed_framed (errorCode : ControlProtErrorCode) (behind : List UInt8) :
    frameFormat.Exact (cString ([statusError,1,errorCode.byte,newline] ++ behind)) ↔ cString behind = [] := by
  have string : ∀ byte ∈ [statusError,1,errorCode.byte,newline], byte ≠ 0 := by cases errorCode <;> decide +kernel
  have known : frameFormat.length [statusError,1,errorCode.byte,newline] = some 4 := by cases errorCode <;> decide
  have told := frameFormat.length_append _ (cString behind) _ known
  rw [cString_front string]
  constructor
  · rintro ⟨_,exact_⟩
    have size := Option.some.inj (told.symm.trans exact_)
    rw [List.length_append] at size
    exact List.length_eq_zero_iff.mp (by simpa using size)
  · intro empty
    rw [empty]
    exact ⟨by simp,known⟩

-- Lines are counted by their newlines, and a newline inside one shows as a line more.
theorem lines_counted : lines.length ≤ (lines.flatMap (· ++ [newline])).count newline ∧
    ((lines.flatMap (· ++ [newline])).count newline = lines.length ↔ ∀ line ∈ lines, newline ∉ line) := by
  induction lines with
  | nil => simp
  | cons line more ih =>
      obtain ⟨least,exact_⟩ := ih
      rw [List.flatMap_cons,List.count_append,List.count_append,List.count_singleton_self,List.length_cons]
      refine ⟨by omega,?_⟩
      rw [List.forall_mem_cons,← exact_,← List.count_eq_zero]
      omega

theorem framed_lines {status count : UInt8} (least : count.toNat ≤ lines.length) :
    WellFramed ([status,count] ++ lines.flatMap (· ++ [newline])) ↔
      (status = statusSuccess ∨ status = statusError) ∧ lines.length = count.toNat ∧ ∀ line ∈ lines, newline ∉ line := by
  constructor
  · rintro ⟨status',count',lines',same,allowed,size,inside⟩
    obtain ⟨rfl,rest⟩ := List.cons.inj same
    obtain ⟨rfl,body⟩ := List.cons.inj rest
    have body : lines.flatMap (· ++ [newline]) = lines'.flatMap (· ++ [newline]) := body
    have counted := lines_counted.2.mpr inside
    rw [← body,size] at counted
    have atLeast := (@lines_counted lines).1
    have equal : lines.length = count.toNat := by omega
    exact ⟨allowed,equal,lines_counted.2.mp (counted.trans equal.symm)⟩
  · rintro ⟨allowed,size,inside⟩
    exact ⟨status,count,lines,rfl,allowed,size,inside⟩

theorem digit_plain {c : Char} (digit : c.isDigit = true) :
    UInt8.ofNat c.toNat ≠ 0 ∧ UInt8.ofNat c.toNat ≠ newline := by
  have bounds : 48 ≤ c.toNat ∧ c.toNat ≤ 57 := by
    simp only [Char.isDigit,Bool.and_eq_true,decide_eq_true_eq] at digit
    exact ⟨UInt32.le_iff_toNat_le.mp digit.1,UInt32.le_iff_toNat_le.mp digit.2⟩
  constructor
  · intro same
    have value := congrArg UInt8.toNat same
    rw [UInt8.toNat_ofNat'] at value
    change c.toNat % 256 = 0 at value
    omega
  · intro same
    have value := congrArg UInt8.toNat same
    rw [UInt8.toNat_ofNat'] at value
    change c.toNat % 256 = 10 at value
    omega

theorem lu_plain (value : Int) : ∀ byte ∈ lu value, byte ≠ 0 ∧ byte ≠ newline := by
  intro byte member
  obtain ⟨c,digit,rfl⟩ := List.mem_map.mp member
  exact digit_plain (Nat.isDigit_of_mem_toDigits (by decide) (by decide) digit)

def metricsRow (m : Metrics) : List UInt8 :=
  List.intercalate [0x3B] ([m.currentSocksConnections,m.historicSocksConnections,m.currentMgmtConnections,
    m.historicMgmtConnections,getCurrentTotal m,getHistoricTotal m,m.bytesTransferred].map lu)

theorem metricsRow_plain (m : Metrics) : ∀ byte ∈ metricsRow m, byte ≠ 0 ∧ byte ≠ newline := by
  intro byte member
  obtain ⟨part,listed,inside⟩ := List.mem_flatten.mp member
  simp only [List.map_cons,List.map_nil,List.intersperse,List.mem_cons,List.not_mem_nil,or_false] at listed
  have cases_ : part = [0x3B] ∨ ∃ value, part = lu value := by
    rcases listed with h | h | h | h | h | h | h | h | h | h | h | h | h
    all_goals first
      | exact .inl h
      | exact .inr ⟨_,h⟩
  rcases cases_ with rfl | ⟨value,rfl⟩
  · rw [List.mem_singleton.mp inside]
    decide
  · exact lu_plain value byte inside

theorem metrics_framed (g : Globals) (behind : List UInt8) :
    WellFramed (ServerMessage.reply (.metrics g) behind).stored := by
  have title : metricsCsvTitle = metricsCsvTitle.dropLast ++ [newline] := by decide
  have stored : (ServerMessage.reply (.metrics g) behind).stored =
      [statusSuccess,2] ++ [metricsCsvTitle.dropLast,metricsRow g.metrics].flatMap (· ++ [newline]) := by
    have string : ∀ byte ∈ [statusSuccess,2] ++ metricsCsvTitle ++ metricsRow g.metrics ++ [newline], byte ≠ 0 := by
      have front : ∀ byte ∈ [statusSuccess,2] ++ metricsCsvTitle, byte ≠ 0 := by decide +kernel
      intro byte member
      rcases List.mem_append.mp member with earlier | ends
      · rcases List.mem_append.mp earlier with first | row
        · exact front byte first
        · exact (metricsRow_plain _ byte row).1
      · rw [List.mem_singleton.mp ends]
        decide
    have whole := cString_whole string behind
    change cString (([statusSuccess,2] ++ metricsCsvTitle ++ metricsRow g.metrics ++ [newline,0]) ++ behind) = _
    rw [show [newline,0] = [newline] ++ [0] from rfl,← List.append_assoc,List.append_assoc _ [0] behind]
    refine whole.trans ?_
    rw [title]
    simp
  rw [stored]
  refine (framed_lines (Nat.le_refl _)).mpr ⟨.inl rfl,rfl,?_⟩
  intro line member
  rcases List.mem_cons.mp member with rfl | row
  · decide
  · rw [List.mem_singleton.mp row]
    exact fun inside => (metricsRow_plain _ _ inside).2 rfl

theorem users_framed (g : Globals) (behind : List UInt8) :
    WellFramed (ServerMessage.reply (.users g) behind).stored ↔
      g.users.users.length < 255 ∧ ∀ user ∈ g.users.users, newline ∉ cString user.name := by
  let lines := socksUHeader.dropLast::g.users.users.map fun user => cString user.name
  let count := UInt8.ofNat (g.users.users.length+1)
  have header : socksUHeader = socksUHeader.dropLast ++ [newline] := by decide
  have size : lines.length = g.users.users.length+1 := by simp [lines]
  have value : count.toNat = (g.users.users.length+1) % 256 := UInt8.toNat_ofNat'
  have text : socksUHeader ++ g.users.users.flatMap (fun user => cString user.name ++ [newline]) =
      lines.flatMap (· ++ [newline]) := by
    rw [List.flatMap_cons,List.flatMap_map,← header]
  have stored : (ServerMessage.reply (.users g) behind).stored =
      cString (([0x31,count] ++ lines.flatMap (· ++ [newline])) ++ 0::behind) := by
    rw [← text]
    change cString ((_ ++ [0]) ++ behind) = _
    simp only [List.append_assoc,List.nil_append,List.cons_append]
    rfl
  rw [stored]
  by_cases zero : count = 0
  · have cut : cString (([0x31,count] ++ lines.flatMap (· ++ [newline])) ++ 0::behind) = [0x31] := by
      rw [zero]
      rfl
    have long : ¬ g.users.users.length < 255 := by
      rw [zero] at value
      change 0 = _ at value
      omega
    rw [cut]
    refine ⟨?_,fun framed => absurd framed.1 long⟩
    rintro ⟨_,_,_,same,_⟩
    cases same
  · have string : ∀ byte ∈ [0x31,count] ++ lines.flatMap (· ++ [newline]), byte ≠ 0 := by
      have plain : ∀ byte ∈ socksUHeader.dropLast, byte ≠ 0 := by decide +kernel
      simp only [List.mem_append,List.mem_cons,List.not_mem_nil,or_false,List.mem_flatMap,lines,List.mem_map]
      rintro byte ((rfl | rfl) | ⟨line,(rfl | ⟨user,_,rfl⟩),inside | rfl⟩)
      · decide
      · exact zero
      · exact plain byte inside
      · decide
      · exact string_nonzero _ byte inside
      · decide
    rw [cString_whole string,framed_lines (by omega)]
    have title : newline ∉ socksUHeader.dropLast := by decide
    simp only [lines,List.forall_mem_cons,List.forall_mem_map]
    constructor
    · rintro ⟨_,rows,_,inside⟩
      refine ⟨?_,inside⟩
      change lines.length = count.toNat at rows
      omega
    · rintro ⟨short,inside⟩
      refine ⟨.inl rfl,?_,title,inside⟩
      change lines.length = count.toNat
      omega

theorem message_framed (message : ServerMessage) : WellFramed message.stored ↔ message.framed := by
  cases message with
  | hello => exact wellFramed_exact.trans ⟨fun exact_ => absurd exact_.2 (by decide),False.elim⟩
  | password valid =>
      refine wellFramed_exact.trans ⟨fun _ => trivial,fun _ => ?_⟩
      cases valid
      · exact ⟨by simp [ServerMessage.stored,authResult],by decide⟩
      · exact ⟨by simp [ServerMessage.stored,authResult],by decide⟩
  | reply outcome behind =>
      cases outcome with
      | failed errorCode => exact wellFramed_exact.trans (failed_framed errorCode behind)
      | succeeded =>
          refine ⟨?_,False.elim⟩
          rintro ⟨_,_,_,same,_⟩
          cases same
      | metrics g => exact ⟨fun _ => trivial,fun _ => metrics_framed g behind⟩
      | users g => exact users_framed g behind

theorem command_outcome {code : CpCommandCode} {command : Command} {malloc : Bool} {g : Globals}
    {parser : CpCommandParser} {answer : List UInt8} (found : commandOf code = some command)
    (gave : (command malloc g parser).1 = some answer) : ∃ outcome : CommandOutcome, outcome.answer = some answer := by
  have fails : ∀ errorCode, statusFailedAnswer malloc errorCode = some answer →
      ∃ outcome : CommandOutcome, outcome.answer = some answer := by
    intro errorCode same
    cases malloc with
    | false => cases same
    | true => exact ⟨.failed errorCode,same⟩
  have succeeds : noDataStatusSuccessAnswer malloc = some answer →
      ∃ outcome : CommandOutcome, outcome.answer = some answer := by
    intro same
    cases malloc with
    | false => cases same
    | true => exact ⟨.succeeded,same⟩
  cases code with
  | noCommand => cases found
  | authentication => cases found
  | addUser =>
      cases found
      unfold addProxyUser at gave
      split at gave
      · exact fails _ gave
      · dsimp only at gave
        split at gave
        · dsimp only at gave
          split at gave
          · exact fails _ gave
          · exact fails _ gave
          · exact succeeds gave
          · exact fails _ gave
        · exact fails _ gave
  | remUser =>
      cases found
      unfold removeProxyUser at gave
      split at gave
      · exact fails _ gave
      · dsimp only at gave
        split at gave
        · exact fails _ gave
        · exact succeeds gave
  | changePass =>
      cases found
      unfold changePassword at gave
      split at gave
      · exact fails _ gave
      · dsimp only at gave
        split at gave
        · split at gave
          · exact fails _ gave
          · exact succeeds gave
        · exact fails _ gave
  | listUsers =>
      cases found
      exact ⟨.users g,gave⟩
  | getMetrics =>
      cases found
      unfold getMetrics at gave
      split at gave
      · exact fails _ gave
      · cases malloc with
        | false => cases gave
        | true => exact ⟨.metrics g,gave⟩
  | dissectorOn =>
      cases found
      unfold turnOnPassDissectors switchPassDissectors at gave
      split at gave
      · exact fails _ gave
      · exact succeeds gave
  | dissectorOff =>
      cases found
      unfold turnOffPassDissectors switchPassDissectors at gave
      split at gave
      · exact fails _ gave
      · exact succeeds gave

variable {data : Nat} {s next : ControlSession} {cpc : ControlProtConn} {env : CpEnv} {sel : Selector} {g : Globals}
  {e : ControlEvent} {trace past turns effects : List CpEffect}

def Told (past : List CpEffect) : ServerMessage → Prop
  | .hello => .enter .execute ∉ past
  | .password _ => .enter .execute ∉ past
  | .reply outcome _ => ∃ parser command malloc g, (commandRuns past).getLast? = some parser ∧
      commandOf parser.code = some command ∧ (command malloc g parser).1 = outcome.answer

def Introduces (bytes : List UInt8) : Prop := bytes = helloMsg ∨ ∃ valid, bytes = authResult valid

def Introduced (past : List CpEffect) (effect : CpEffect) : Prop :=
  ∀ bytes, effect = .queued bytes → .enter .execute ∉ past → Introduces bytes

theorem introduced_each (told : .enter .execute ∈ trace ∨ ∀ bytes, .queued bytes ∈ effects → Introduces bytes) :
    Each Introduced trace effects := by
  rcases told with late | early
  · induction effects generalizing trace with
    | nil => trivial
    | cons effect rest ih =>
        exact ⟨fun _ _ outside => absurd late outside,ih (List.mem_append_left _ late)⟩
  · apply each_silent
    intro effect member past bytes same _
    rw [same] at member
    exact early bytes member

theorem queued_entering {was after : ControlProtStmState} {bytes : List UInt8} :
    CpEffect.queued bytes ∉ entering was after := by
  unfold entering
  split <;> simp

theorem early_introduces {handler : CpStateHandler} {kind : EventKind} {buff : CertifiedBuffer}
    (phase : Phase data s.trace s.sel (some cpc)) (found : cpStateHandler kind cpc.current = some handler) :
    .enter .execute ∈ s.trace ∨
    ∀ bytes, .queued bytes ∈ (handler env ⟨cpc.fd,data⟩ s.sel s.globals (cpc.handed buff)).effects → Introduces bytes := by
  cases phase with
  | early _ state =>
      right
      rcases cpStateHandler_cases found with ⟨_,_,rfl⟩ | ⟨_,⟨_,rfl⟩ | ⟨_,rfl⟩⟩ | ⟨wrong,_⟩ | ⟨_,rfl⟩
      · obtain ⟨_,early⟩ := @helloWrite_early data (cpc.handed buff) env s.sel s.globals
        exact early.told
      · obtain ⟨_,early⟩ := @authRead_early data (cpc.handed buff) env s.sel s.globals
        exact early.told
      · obtain ⟨_,early⟩ := @authWrite_early data (cpc.handed buff) env s.sel s.globals
        exact early.told
      · rw [wrong] at state
        rcases state with state | state <;> cases state
      · simp [cpError,freeControlProtConn]
  | turning _ turns _ known _ =>
      left
      obtain ⟨before,split,_⟩ := known.split
      rw [split]
      simp
  | over_ _ error =>
      right
      rw [error cpc rfl] at found
      have same : handler = cpError := by
        cases kind <;> cases found <;> rfl
      rw [same]
      simp [cpError,freeControlProtConn]

theorem preserves_introduced (turning : s.Turning data) (introduced : Each Introduced [] s.trace)
    (ran : controlStep data s e = some next) : Each Introduced [] next.trace := by
  cases e with
  | event kind env =>
      obtain ⟨cpc,live,_,handled⟩ := controlStep_handled ran
      have phase := turning.phase live
      cases handled with
      | ended result _ _ =>
          refine each_extend introduced (introduced_each (.inr ?_))
          simp [freeControlProtConn]
      | read called buff handler out arrives found gave =>
          refine each_extend introduced (introduced_each ?_)
          refine (@early_introduces data s cpc env handler _ buff phase found).imp_right fun told bytes member => ?_
          rw [gave] at told
          rcases List.mem_append.mp member with first | rest
          · cases arrives <;> simp at first
          · rcases List.mem_append.mp rest with inside | entered
            · exact told bytes inside
            · exact absurd entered queued_entering
      | dropped handler out found gave left =>
          refine each_extend introduced (introduced_each ?_)
          refine (@early_introduces data s cpc env handler _ cpc.readBuffer phase found).imp_right fun told bytes member => ?_
          rw [gave] at told
          rw [List.nil_append] at member
          rcases List.mem_append.mp member with inside | entered
          · exact told bytes inside
          · exact absurd entered queued_entering
      | wrote handler out after served found gave left flushes =>
          refine each_extend introduced (introduced_each ?_)
          refine (@early_introduces data s cpc env handler _ cpc.readBuffer phase found).imp_right fun told bytes member => ?_
          rw [gave] at told
          rcases List.mem_append.mp member with first | flushed
          · rcases List.mem_append.mp first with inside | entered
            · exact told bytes inside
            · exact absurd entered queued_entering
          · cases flushes <;> simp [freeControlProtConn] at flushed
  | elsewhere sel globals =>
      obtain ⟨_,rfl⟩ := elsewhere_spares ran
      exact introduced

theorem accepted_introduced (data : Nat) (sel : Selector) (g : Globals) (clientFd : Int) :
    Each Introduced [] (passiveCpSocketHandler data sel g clientFd).trace := by
  unfold passiveCpSocketHandler
  dsimp only
  split
  · exact introduced_each (.inr (by simp [freeControlProtConn]))
  · trivial

theorem queued_answers {bytes : List UInt8} (before : Orderly past) (after : Orderly (past ++ [.queued bytes])) :
    ∃ parser, (commandRuns past).getLast? = some parser ∧ Answers parser bytes := by
  obtain ⟨_,_,_,answered',waiting',ledger'⟩ := before
  obtain ⟨_,_,_,answered,waiting,ledger⟩ := after
  have runs := ledger.runs
  have answers := ledger.answers
  have one : commandRuns [CpEffect.queued bytes] = [] := rfl
  have message : queuedMessages [CpEffect.queued bytes] = [bytes] := rfl
  rw [commandRuns_append,one,List.append_nil,ledger'.runs] at runs
  rw [queuedMessages_append,message] at answers
  have count := answers.length_eq
  have earlier := ledger'.answers.length_eq
  have sizes := congrArg List.length runs
  have once := ledger'.once
  simp only [List.length_append,List.length_singleton] at count sizes
  have idle : waiting = [] := List.length_eq_zero_iff.mp (by omega)
  rcases List.eq_nil_or_concat answered with rfl | ⟨front,parser,rfl⟩
  · cases count
  · rw [List.concat_eq_append] at answers runs
    obtain ⟨last,_⟩ := List.forall₂_cons.mp (by
      have reversed := List.rel_reverse answers
      simpa using reversed)
    refine ⟨parser,?_,last⟩
    rw [ledger'.runs,runs,idle]
    simp

theorem messages_framed_exact {fd : Int} {events : List ControlEvent} {last : ControlSession}
    (path : ControlRuns data (passiveCpSocketHandler data sel g fd) events last) :
    (∀ past bytes future, last.trace = past ++ .queued bytes :: future →
      ∃ message : ServerMessage, message.stored = bytes ∧ Told past message) ∧
    (∀ message : ServerMessage, WellFramed message.stored ↔ message.framed) ∧
    ∀ messages : List ServerMessage,
      frameFormat.split (messages.flatMap ServerMessage.stored) = some (messages.map ServerMessage.stored) ↔
        ∀ message ∈ messages, message.framed := by
  refine ⟨?_,message_framed,?_⟩
  · intro past bytes future split
    have turning := (runs_turning path).2
    by_cases entered : .enter .execute ∈ past
    · obtain ⟨before,turns,rfl⟩ := List.append_of_mem entered
      have orderly := @turning_orderly data last (turns ++ [.queued bytes]) before future turning (by rw [split]; simp)
      have earlier := @turning_orderly data last turns before (.queued bytes::future) turning (by rw [split]; simp)
      obtain ⟨parser,ran,answer,behind,⟨command,malloc,g,found,gave⟩,same⟩ := queued_answers earlier orderly
      obtain ⟨outcome,made⟩ := command_outcome found gave
      refine ⟨.reply outcome behind,?_,parser,command,malloc,g,?_,found,gave.trans made.symm⟩
      · rw [same,ServerMessage.stored,made]
        rfl
      · have later : commandRuns (before ++ .enter .execute::turns) = commandRuns before ++ commandRuns turns := by
          rw [commandRuns_append]
          rfl
        rw [later,List.getLast?_append,ran]
        rfl
    · have introduced : Each Introduced [] last.trace := by
        have kept : last.Guarded data ∧ last.Turning data ∧ Each Introduced [] last.trace := by
          apply path.invariant
          · exact ⟨accepted_guarded data sel g fd,accepted_turning data sel g fd,accepted_introduced data sel g fd⟩
          intro before label next known ran
          exact ⟨preserves_guarded known.1 ran,preserves_turning known.1 known.2.1 ran,
            preserves_introduced known.2.1 known.2.2 ran⟩
        exact kept.2.2
      rcases each_at introduced split bytes rfl entered with rfl | ⟨valid,rfl⟩
      · exact ⟨.hello,rfl,entered⟩
      · exact ⟨.password valid,rfl,entered⟩
  · intro messages
    rw [List.flatMap_def]
    refine (split_exact frame_local).trans ?_
    rw [List.forall_mem_map]
    exact forall₂_congr fun message _ => wellFramed_exact.symm.trans (message_framed message)

theorem metrics_session_told : ∃ last past future message,
    Transitions.exec (controlStep 3) (passiveCpSocketHandler 3 mainSelector ⟨.empty,true,.start⟩ 7) commandSession =
      some last ∧ last.trace = past ++ .queued (authResult true) :: future ∧
    ServerMessage.stored message = authResult true ∧ Told past message := by
  have facts : (Transitions.exec (controlStep 3) (passiveCpSocketHandler 3 mainSelector ⟨.empty,true,.start⟩ 7)
      commandSession).map (fun last => decide (.queued (authResult true) ∈ last.trace)) = some true := by decide +kernel
  obtain ⟨last,ran,found⟩ := Option.map_eq_some_iff.mp facts
  obtain ⟨past,future,split⟩ := List.append_of_mem (of_decide_eq_true found)
  obtain ⟨message,same,told⟩ := (messages_framed_exact (Transitions.exec_runs ran)).1 past _ future split
  exact ⟨last,past,future,message,ran,split,same,told⟩

-- A login and one command that succeeds: the hello carries a NUL too many, and nothing
-- is left of the success but its first byte.
def dissectorSession : List ControlEvent :=
  [adminTakes 7,adminTakes 0,adminTypes (passwordLine adminPassword),adminTakes 2,adminTakes 0,
    adminTypes [0x37,0x00],adminTakes 3]

theorem hello_and_success_break : ∃ last,
    Transitions.exec (controlStep 3) (passiveCpSocketHandler 3 mainSelector ⟨.empty,true,.start⟩ 7) dissectorSession =
      some last ∧
    queuedMessages last.trace = [[0x31,1,0x30,0x2E,0x31,newline,0],[0x31,0],[0x31]] ∧
    ¬ WellFramed [0x31,1,0x30,0x2E,0x31,newline,0] ∧ ¬ WellFramed [0x31] := by
  have facts : (Transitions.exec (controlStep 3) (passiveCpSocketHandler 3 mainSelector ⟨.empty,true,.start⟩ 7)
      dissectorSession).map (fun last => queuedMessages last.trace) =
      some [[0x31,1,0x30,0x2E,0x31,newline,0],[0x31,0],[0x31]] := by decide +kernel
  obtain ⟨last,ran,found⟩ := Option.map_eq_some_iff.mp facts
  refine ⟨last,ran,found,?_,?_⟩
  · exact fun framed => absurd (wellFramed_exact.mp framed).2 (by decide)
  · rintro ⟨_,_,_,same,_⟩
    cases same

end Socks5d.ControlProtocol
