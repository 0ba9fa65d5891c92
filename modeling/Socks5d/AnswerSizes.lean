import Socks5d.ClientCommands
import Socks5d.ControlSteps
import Mathlib.Algebra.GroupWithZero.Nat
import Mathlib.Data.List.TakeWhile
import Mathlib.Data.Nat.Log

namespace Socks5d.ControlProtocol
open Transitions

variable {g origin next : Globals} {m : Metrics} {parser : CpCommandParser} {message : CommandMessage}
  {name pass text token rest behind : List UInt8} {users : List User} {t : UserTable}

-- The blocks that the two commands allocate, INITIAL_SOCKS_U_SIZE and twice the title.
def initialSocksUSize : Nat := 512
def metricsBlock : Nat := 2 * metricsCsvTitle.length

def reportedCounters (m : Metrics) : List Int :=
  [m.currentSocksConnections,m.historicSocksConnections,m.currentMgmtConnections,m.historicMgmtConnections,
    getCurrentTotal m,getHistoricTotal m,m.bytesTransferred]

def printedDigits (n : Int) : Nat := Nat.log 10 (n % ulongValues).toNat + 1

def Reports (parser : CpCommandParser) : Prop :=
  parser.code = .listUsers ∨ (parser.code = .getMetrics ∧ parser.hasData ≠ 1)

structure AnswersFit (g : Globals) : Prop where
  users : ∀ malloc parser answer, (getSocksUsers malloc g parser).1 = some answer → answer.length ≤ initialSocksUSize
  metrics : ∀ malloc parser answer, parser.hasData ≠ 1 → (getMetrics malloc g parser).1 = some answer →
    answer.length ≤ metricsBlock
  placed : ∀ env key sel (cpc : ControlProtConn), Reports cpc.commandParser → env.malloc = true →
    cpc.execAnsWritten = false → cpc.execAnswer = none → cpc.writeBuffer.unread = [] →
    cpc.writeBuffer.capacity = bufferSize → ∃ answer after, answer.length ≤ bufferSize ∧
      (executeWrite env key sel g cpc).effects = [.run cpc.commandParser,.queued answer] ∧
      (executeWrite env key sel g cpc).cpc = some after ∧ after.execAnsWritten = true ∧
      after.writeBuffer.unread = answer

def namesSize (users : List User) : Nat := (users.map fun user => user.name.length + 1).sum
def digitsSize (m : Metrics) : Nat := ((reportedCounters m).map printedDigits).sum

-- What changes the globals between two answers: a command that was typed, and whatever
-- the connections of the server count.
inductive Administration where
  | command (message : CommandMessage) (parser : CpCommandParser) (malloc : Bool)
  | counted (metrics : Metrics)

def Administers (g : Globals) : Administration → Globals → Prop
  | .command message parser malloc,next => Carries message parser ∧
      ∃ command, commandOf parser.code = some command ∧ (command malloc g parser).2 = next
  | .counted metrics,next => {g with metrics:=metrics} = next

theorem toDigits_size (n : Nat) : (Nat.toDigits 10 n).length = Nat.log 10 n + 1 := by
  apply Nat.le_antisymm
  · rw [Nat.length_toDigits_le_iff (by decide) (Nat.succ_pos _)]
    exact Nat.lt_pow_succ_log_self (by decide) n
  · by_contra shorter
    have few : (Nat.toDigits 10 n).length ≤ Nat.log 10 n := by omega
    have digits : 0 < (Nat.toDigits 10 n).length := Nat.length_toDigits_pos
    have below := (Nat.length_toDigits_le_iff (by decide) (by omega)).mp few
    have nonzero : n ≠ 0 := by
      rintro rfl
      rw [Nat.log_zero_right] at few
      omega
    exact absurd (Nat.pow_log_le_self 10 nonzero) (by omega)

theorem lu_size (n : Int) : (lu n).length = printedDigits n := by
  rw [lu,List.length_map,toDigits_size,printedDigits]

theorem users_size (malloc : Bool) {answer : List UInt8} (gave : (getSocksUsers malloc g parser).1 = some answer)
    (strings : ∀ user ∈ g.users.users, 0 ∉ user.name) : answer.length = namesSize g.users.users + 17 := by
  cases gave
  have header : socksUHeader.length = 14 := by decide
  have names : (g.users.users.map fun user => (cString user.name ++ [newline]).length) =
      g.users.users.map fun user => user.name.length + 1 := by
    apply List.map_congr_left
    intro user member
    rw [cString_string (strings user member),List.length_append,List.length_singleton]
  simp only [List.length_append,List.length_cons,List.length_nil,List.length_flatMap,header] at names ⊢
  rw [names,namesSize]
  omega

theorem metrics_size (malloc : Bool) {answer : List UInt8} (clear : parser.hasData ≠ 1)
    (gave : (getMetrics malloc g parser).1 = some answer) : answer.length = digitsSize g.metrics + 91 := by
  rw [getMetrics,if_neg clear] at gave
  dsimp only at gave
  cases malloc with
  | false => cases gave
  | true =>
      cases gave
      have title : metricsCsvTitle.length = 81 := by decide +kernel
      simp only [List.length_append,List.length_cons,List.length_nil,title,List.intercalate,List.map_cons,
        List.map_nil,List.intersperse,List.flatten_cons,List.flatten_nil,lu_size,digitsSize,reportedCounters,
        List.sum_cons,List.sum_nil]
      omega

theorem report_answer (g : Globals) (reports : Reports parser) : ∃ command front,
    commandOf parser.code = some command ∧ command true g parser = (some (front ++ [0]),g) := by
  rcases reports with code | ⟨code,clear⟩
  · exact ⟨getSocksUsers,_,by rw [code]; rfl,rfl⟩
  · refine ⟨getMetrics,[statusSuccess,2] ++ metricsCsvTitle ++
      List.intercalate [0x3B] ((reportedCounters g.metrics).map lu) ++ [newline],by rw [code]; rfl,?_⟩
    rw [getMetrics,if_neg clear,List.append_assoc _ [newline] [0]]
    rfl

theorem report_placed {env : CpEnv} {key : SelectorKey} {sel : Selector} {cpc : ControlProtConn}
    {command : Command} {front : List UInt8} (found : commandOf cpc.commandParser.code = some command)
    (gave : command env.malloc g cpc.commandParser = (some (front ++ [0]),g)) (fits : front.length ≤ bufferSize)
    (fresh : cpc.execAnsWritten = false) (unanswered : cpc.execAnswer = none) (empty : cpc.writeBuffer.unread = [])
    (whole : cpc.writeBuffer.capacity = bufferSize) : ∃ answer after, answer.length ≤ bufferSize ∧
      (executeWrite env key sel g cpc).effects = [.run cpc.commandParser,.queued answer] ∧
      (executeWrite env key sel g cpc).cpc = some after ∧ after.execAnsWritten = true ∧
      after.writeBuffer.unread = answer := by
  have sent : cString (front ++ [0] ++ env.behind) = cString front := by
    rw [List.append_assoc]
    exact cString_terminated front env.behind
  have short : (cString front).length ≤ bufferSize :=
    Nat.le_trans (List.takeWhile_prefix _).length_le fits
  have room : (cString (front ++ [0] ++ env.behind)).length ≤ cpc.writeBuffer.space := by
    rw [sent,cpc.writeBuffer.empty_space empty,whole]
    exact short
  have ran : executeWrite env key sel g cpc = executeAnswer env sel g cpc (front ++ [0]) [.run cpc.commandParser] := by
    unfold executeWrite
    rw [fresh,unanswered,found]
    dsimp only
    rw [gave,Bool.false_and,if_neg Bool.false_ne_true,if_neg Bool.false_ne_true]
  rcases executeAnswer_cases env sel g cpc (front ++ [0]) [.run cpc.commandParser] with ⟨narrow,_⟩ | ⟨_,placed⟩
  · exact absurd narrow (by omega)
  · rw [ran,placed,sent]
    refine ⟨cString front,_,short,rfl,rfl,rfl,?_⟩
    rw [sent] at room
    rw [CertifiedBuffer.fill_unread,empty,List.nil_append,List.take_of_length_le room]

theorem fits_exact (strings : ∀ user ∈ g.users.users, 0 ∉ user.name) :
    AnswersFit g ↔ namesSize g.users.users ≤ 495 ∧ digitsSize g.metrics ≤ 71 := by
  have block : metricsBlock = 162 := by decide +kernel
  constructor
  · intro fit
    have clear : CpCommandParser.zeroed.hasData ≠ 1 := by decide
    have named : (getSocksUsers true g .zeroed).1 = some _ := rfl
    have metered : (getMetrics true g .zeroed).1 = some _ := rfl
    have listed := fit.users true .zeroed _ named
    have counted := fit.metrics true .zeroed _ clear metered
    rw [users_size true named strings,initialSocksUSize] at listed
    rw [metrics_size true clear metered,block] at counted
    exact ⟨by omega,by omega⟩
  · rintro ⟨names,digits⟩
    have listed : ∀ malloc parser answer, (getSocksUsers malloc g parser).1 = some answer → answer.length ≤ 512 := by
      intro malloc parser answer gave
      rw [users_size malloc gave strings]
      omega
    have counted : ∀ malloc parser answer, parser.hasData ≠ 1 → (getMetrics malloc g parser).1 = some answer →
        answer.length ≤ 162 := by
      intro malloc parser answer clear gave
      rw [metrics_size malloc clear gave]
      omega
    refine ⟨listed,by rw [block]; exact counted,?_⟩
    intro env key sel cpc reports memory fresh unanswered empty whole
    obtain ⟨command,front,found,gave⟩ := report_answer g reports
    rw [← memory] at gave
    refine report_placed found gave ?_ fresh unanswered empty whole
    have size : (front ++ [0]).length ≤ 512 := by
      rcases reports with code | ⟨code,clear⟩
      · rw [code] at found
        cases found
        exact listed env.malloc cpc.commandParser _ (by rw [gave])
      · rw [code] at found
        cases found
        exact Nat.le_trans (counted env.malloc cpc.commandParser _ clear (by rw [gave])) (by decide)
    rw [List.length_append,List.length_singleton] at size
    rw [bufferSize]
    omega

-- The names that addProxyUser can come to: a line of maxDataSize bytes also holds the
-- delimiter, a password and the newline.
def TypedName (name : List UInt8) : Prop := 0 ∉ name ∧ name.length + 3 ≤ maxDataSize

theorem strtok_parts {delimiter : UInt8} (found : strtok delimiter text = (some token,rest)) :
    (∀ byte ∈ token, byte ∈ text) ∧ rest <:+ text ∧ (rest ≠ [] → token.length + 1 + rest.length ≤ text.length) := by
  unfold strtok at found
  dsimp only at found
  split at found
  · cases found
  · cases found
    have start : text.dropWhile (· = delimiter) <:+ text := List.dropWhile_suffix _
    have split := @List.takeWhile_append_dropWhile _ (fun byte => decide (byte ≠ delimiter))
      (text.dropWhile (· = delimiter))
    have cut := List.drop_suffix 1 ((text.dropWhile (· = delimiter)).dropWhile (· ≠ delimiter))
    refine ⟨?_,(cut.trans (List.dropWhile_suffix _)).trans start,?_⟩
    · intro byte member
      exact start.subset ((List.takeWhile_prefix _).subset member)
    · intro more
      have sizes := congrArg List.length split
      have whole := start.length_le
      have left := List.length_pos_iff.mpr more
      rw [List.length_append] at sizes
      rw [List.length_drop] at left ⊢
      omega

theorem line_string (text rest : List UInt8) : (cString (text ++ newline::0::rest) = text ++ [newline]) ∨
    (cString (text ++ newline::0::rest)).length < text.length := by
  by_cases string : 0 ∉ text
  · have whole : (0 : UInt8) ∉ text ++ [newline] := by
      rw [List.mem_append,not_or]
      exact ⟨string,by decide⟩
    rw [List.append_cons]
    exact .inl (cString_ends whole rest)
  · obtain ⟨front,behind,split⟩ := List.append_of_mem (Decidable.not_not.mp string)
    refine .inr ?_
    rw [split,List.append_assoc,List.cons_append,cString_terminated,List.length_append,List.length_cons]
    have short : (cString front).length ≤ front.length := (List.takeWhile_prefix _).length_le
    omega

theorem adds_typed (line : message.line = some text) (stored : parser.data = text ++ newline::0::behind)
    (first : strtok tokenDelimiter (cString parser.data) = (some name,rest))
    (second : (strtok lineDelimiter rest).1 = some pass) : TypedName name := by
  obtain ⟨inside,suffix,room⟩ := strtok_parts first
  have fits := message.fits text (by rw [line]; rfl)
  -- A password is some byte that is not a newline.
  obtain ⟨byte,member,other⟩ : ∃ byte ∈ rest, byte ≠ newline := by
    by_contra none_
    have blank : ∀ byte ∈ rest, decide (byte = lineDelimiter) = true := by
      intro byte member
      by_contra other
      exact none_ ⟨byte,member,fun same => other (decide_eq_true same)⟩
    rw [strtok,List.dropWhile_eq_nil_iff.mpr blank] at second
    cases second
  have more : rest ≠ [] := List.ne_nil_of_mem member
  refine ⟨fun zero => string_nonzero _ 0 (inside 0 zero) rfl,?_⟩
  have room := room more
  rw [stored] at room suffix
  rcases line_string text behind with whole | short
  · rw [whole] at room suffix
    have two : 2 ≤ rest.length := by
      obtain ⟨front,split⟩ := suffix
      cases rest with
      | nil => exact absurd rfl more
      | cons byte' tail =>
          cases tail with
          | cons => simp
          | nil =>
              have last := List.append_inj_right' split rfl
              rw [List.mem_singleton.mp member] at other
              exact absurd (List.cons.inj last).1 other
    rw [List.length_append,List.length_singleton] at room
    rw [maxDataSize] at fits ⊢
    omega
  · have some_ := List.length_pos_iff.mpr more
    rw [maxDataSize] at fits ⊢
    omega

theorem call_typed (carries : Carries message parser) (called : parser.tableCall = some (.addUser name pass)) :
    TypedName name := by
  unfold CpCommandParser.tableCall at called
  split at called
  · cases called
  · rename_i asked
    obtain ⟨_,_,fields⟩ := carries
    cases line : message.line with
    | none =>
        rw [line] at fields
        exact absurd fields asked
    | some text =>
        rw [line] at fields
        obtain ⟨_,_,behind,stored⟩ := fields
        dsimp only at called
        split at called
        · obtain ⟨user,first,called⟩ := Option.bind_eq_some_iff.mp called
          obtain ⟨password,second,same⟩ := Option.map_eq_some_iff.mp called
          cases same
          exact adds_typed line stored (Prod.ext first rfl) second
        · obtain ⟨user,first,called⟩ := Option.bind_eq_some_iff.mp called
          obtain ⟨password,second,same⟩ := Option.map_eq_some_iff.mp called
          cases same
        · cases called
        · cases called

structure Managed (t : UserTable) : Prop where
  refined : ∃ m, t.Refines m
  typed : ∀ user ∈ t.users, TypedName user.name

theorem empty_managed : Managed .empty := ⟨⟨∅,empty_refines⟩,fun _ member => absurd member List.not_mem_nil⟩

theorem apply_managed (managed : Managed t) {op : TableOp} (typed : ∀ name pass, op = .addUser name pass → TypedName name) :
    Managed (op.apply t).2 := by
  obtain ⟨m,refines⟩ := managed.refined
  refine ⟨⟨_,(apply_refines refines op).2⟩,?_⟩
  cases op with
  | addUser name pass =>
      rcases @addUser_cases t name pass with ⟨_,made⟩ | ⟨_,made⟩ | ⟨_,_,made⟩
      · simpa only [TableOp.apply,made] using managed.typed
      · simpa only [TableOp.apply,made] using managed.typed
      · simp only [TableOp.apply,made]
        intro user member
        rcases List.mem_append.mp member with old | new
        · exact managed.typed user old
        · rw [List.mem_singleton.mp new]
          exact typed name pass rfl
  | removeUser username =>
      rcases @removeUser_cases t username with ⟨_,made⟩ | ⟨front,u,rest,split,_,made⟩
      · simpa only [TableOp.apply,made] using managed.typed
      · simp only [TableOp.apply,made]
        intro user member
        have kept := Slots.fillHole_perm.mem_iff.mp member
        refine managed.typed user ?_
        rw [split,List.mem_append,List.mem_cons]
        exact (List.mem_append.mp kept).imp_right .inr
  | changePassword username newPassword behind =>
      rcases @changePassword_cases t username newPassword behind with ⟨_,made⟩ | ⟨front,u,rest,split,_,made⟩
      · simpa only [TableOp.apply,made] using managed.typed
      · simp only [TableOp.apply,made]
        have typed := managed.typed
        rw [split] at typed
        intro user member
        rcases List.mem_append.mp member with before | here
        · exact typed user (List.mem_append_left _ before)
        · rcases List.mem_cons.mp here with rfl | after
          · exact typed u (by simp)
          · exact typed user (List.mem_append_right _ (List.mem_cons_of_mem _ after))

theorem administers_managed {step : Administration} (managed : Managed g.users) (ran : Administers g step next) :
    Managed next.users := by
  cases step with
  | counted metrics =>
      cases ran
      exact managed
  | command message parser malloc =>
      obtain ⟨carries,command,found,same⟩ := ran
      have calls := command_calls found malloc g
      rw [same] at calls
      rw [calls]
      cases called : parser.tableCall with
      | none => exact managed
      | some op =>
          refine apply_managed managed ?_
          intro name pass adds
          exact call_typed carries (by rw [called,adds])

theorem runs_managed {steps : List Administration} (path : Runs Administers origin steps g)
    (start : origin.users = .empty) : Managed g.users := by
  refine path.invariant ?_ (fun _ _ _ managed ran => administers_managed managed ran)
  rw [start]
  exact empty_managed

theorem answers_fit_exact {steps : List Administration} (path : Runs Administers origin steps g)
    (start : origin.users = .empty) : g.users.users.length ≤ maxUsers ∧ (∀ user ∈ g.users.users, TypedName user.name) ∧
      (AnswersFit g ↔ namesSize g.users.users ≤ 495 ∧ digitsSize g.metrics ≤ 71) := by
  have managed := runs_managed path start
  obtain ⟨m,refines⟩ := managed.refined
  exact ⟨refines.bounded,managed.typed,fits_exact fun user member => (managed.typed user member).1⟩

def repeatedLine (byte : UInt8) (size : Nat) : List UInt8 := List.replicate size byte ++ [tokenDelimiter,0x78]

def repeatedParser (byte : UInt8) (size : Nat) : CpCommandParser :=
  ⟨.done,.addUser,1,repeatedLine byte size ++ [newline,0],size+3⟩

theorem repeated_carries {byte : UInt8} {size : Nat} (other : byte ≠ newline) (fits : size + 2 < maxDataSize) :
    ∃ message, Carries message (repeatedParser byte size) := by
  have inside : ∀ text ∈ some (repeatedLine byte size), newline ∉ text := by
    intro text same
    cases same
    rw [repeatedLine,List.mem_append,not_or]
    exact ⟨fun member => other (List.eq_of_mem_replicate member).symm,by decide⟩
  have short : ∀ text ∈ some (repeatedLine byte size), text.length < maxDataSize := by
    intro text same
    cases same
    rw [repeatedLine,List.length_append,List.length_replicate]
    exact fits
  exact ⟨⟨.addUser,some (repeatedLine byte size),rfl,inside,short⟩,rfl,rfl,rfl,
    by simp [repeatedParser,repeatedLine],[],rfl⟩

theorem repeated_runs {byte : UInt8} {size : Nat} (other : byte ≠ newline) (fits : size + 2 < maxDataSize)
    (malloc : Bool) (g : Globals) :
    ∃ step, Administers g step (addProxyUser malloc g (repeatedParser byte size)).2 := by
  obtain ⟨message,carries⟩ := repeated_carries other fits
  exact ⟨.command message (repeatedParser byte size) malloc,carries,addProxyUser,rfl,rfl⟩

def started : Globals := ⟨.empty,false,.start⟩
def oneAdded (size : Nat) : Globals := (addProxyUser true started (repeatedParser 0x61 size)).2
def twoAdded (size : Nat) : Globals := (addProxyUser true (oneAdded size) (repeatedParser 0x62 size)).2

theorem two_added {size : Nat} (fits : size + 2 < maxDataSize) :
    ∃ steps, Runs Administers started steps (twoAdded size) := by
  obtain ⟨first,ran⟩ := @repeated_runs 0x61 size (by decide) fits true started
  obtain ⟨second,ran'⟩ := @repeated_runs 0x62 size (by decide) fits true (oneAdded size)
  exact ⟨_,.snoc (.snoc .nil ran) ran'⟩

theorem two_names_fit : ∃ steps, Runs Administers started steps (twoAdded 246) ∧
    (twoAdded 246).users.users.length = 2 ∧ AnswersFit (twoAdded 246) := by
  obtain ⟨steps,path⟩ := @two_added 246 (by decide)
  have facts : (twoAdded 246).users.users.length = 2 ∧ namesSize (twoAdded 246).users.users = 494 := by decide +kernel
  have digits : digitsSize (twoAdded 246).metrics = 7 := by decide +kernel
  refine ⟨steps,path,facts.1,(answers_fit_exact path rfl).2.2.mpr ?_⟩
  rw [facts.2,digits]
  decide

theorem two_names_overflow : ∃ steps answer, Runs Administers started steps (twoAdded 252) ∧
    (getSocksUsers true (twoAdded 252) .zeroed).1 = some answer ∧ answer.length = 523 ∧ ¬ AnswersFit (twoAdded 252) := by
  obtain ⟨steps,path⟩ := @two_added 252 (by decide)
  have size : ((getSocksUsers true (twoAdded 252) .zeroed).1.map List.length) = some 523 := by decide +kernel
  obtain ⟨answer,gave,length⟩ := Option.map_eq_some_iff.mp size
  refine ⟨steps,answer,path,gave,length,fun fits => ?_⟩
  have inside := fits.users true .zeroed answer gave
  rw [length] at inside
  exact absurd inside (by decide)

end Socks5d.ControlProtocol
