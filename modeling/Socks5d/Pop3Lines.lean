import Socks5d.Pop3Reports

namespace Socks5d
open Scan Lines

structure Pop3Report where
  stream : List UInt8
  user : List UInt8
  pass : List UInt8
  deriving DecidableEq, Repr

-- The stream since the last report after one more call. Behind a report it begins with the
-- rest of the chunk, which the parser never sees.
def streamAfter (parser : Pop3Parser) (stream : List UInt8) (buff : CertifiedBuffer) : List UInt8 :=
  if (pop3Parse parser buff).1 = .done then (pop3ParseChar parser buff).2.unread else stream ++ buff.unread

def pop3Reports (parser : Pop3Parser) (stream : List UInt8) : List CertifiedBuffer → List Pop3Report
  | [] => []
  | buff::later =>
    let (state,next,_) := pop3Parse parser buff
    let left := (pop3ParseChar parser buff).2.unread
    let rest := pop3Reports next (streamAfter parser stream buff) later
    if state = .done then ⟨stream ++ buff.unread.take (buff.unread.length - left.length),next.user,next.pass⟩::rest
    else rest

def CommandLine (cmd arg line : List UInt8) : Prop :=
  newline ∉ line ∧ ∃ typed, line = typed ++ arg ∧ typed.map toUpper = cmd

def LinePair (stream user pass : List UInt8) : Prop :=
  ∃ before userLine between passLine after,
    stream = before ++ (userLine ++ [newline]) ++ (between ++ (passLine ++ [newline])) ++ after ∧
    Starts newline before ∧ Starts newline between ∧
    CommandLine pop3UserCmd user userLine ∧ CommandLine pop3PassCmd pass passLine

def StoredArgument (array arg : List UInt8) : Prop := array.take (arg.length+1) = arg ++ [0]

def Pop3Report.Legit (report : Pop3Report) : Prop :=
  ∃ user pass, LinePair report.stream user pass ∧ StoredArgument report.user user ∧ StoredArgument report.pass pass

def Pop3Parser.completes (parser : Pop3Parser) (c : UInt8) : Option (List UInt8) :=
  if parser.readPtr = 4 ∧ toUpper c = 0x20 then
    match parser.state with
    | .userCmd => some pop3UserCmd
    | .passCmd => some pop3PassCmd
    | _ => none
  else none

def Pop3Parser.orderly (parser : Pop3Parser) (stream : List UInt8) (c : UInt8) : Bool :=
  (parser.completes c).all fun cmd => decide ((current newline (stream++[c])).map toUpper = cmd)

def chunkOrderly : Pop3Parser → List UInt8 → List UInt8 → Bool
  | _,_,[] => true
  | parser,stream,c::rest => parser.orderly stream c &&
    ((pop3ParseByte parser c).done || chunkOrderly (pop3ParseByte parser c) (stream++[c]) rest)

def feedOrderly (parser : Pop3Parser) (stream : List UInt8) : List CertifiedBuffer → Bool
  | [] => true
  | buff::later => chunkOrderly parser stream buff.unread &&
    feedOrderly (pop3Parse parser buff).2.1 (streamAfter parser stream buff) later

def AfterUser (stream user between : List UInt8) : Prop :=
  ∃ before line arg, stream = before ++ (line ++ [newline]) ++ between ∧ Starts newline before ∧
    CommandLine pop3UserCmd arg line ∧ StoredArgument user arg

-- What the parser knows of the stream while an argument can still be ended.
def Pop3Parser.Knows (parser : Pop3Parser) (stream : List UInt8) : Prop :=
  match parser.state with
  | .userCmd => parser.writePtr = 0
  | .user => CommandLine pop3UserCmd (parser.user.take parser.writePtr) (current newline stream)
  | .passCmd => parser.writePtr = 0 ∧ ∃ between, AfterUser stream parser.user between
  | .pass => ∃ between, AfterUser stream parser.user between ∧
      CommandLine pop3PassCmd (parser.pass.take parser.writePtr) (current newline between)
  | .error => False
  | .done => Pop3Report.Legit ⟨stream,parser.user,parser.pass⟩

variable {parser : Pop3Parser} {stream user between array arg cmd line bytes : List UInt8} {c : UInt8}

theorem commandLine_more (command : CommandLine cmd arg line) (more : c ≠ newline) :
    CommandLine cmd (arg++[c]) (line++[c]) := by
  obtain ⟨inside,typed,split,upper⟩ := command
  refine ⟨?_,typed,by rw [split,List.append_assoc],upper⟩
  rw [List.mem_append,List.mem_singleton,not_or]
  exact ⟨inside,fun same => more same.symm⟩

theorem commandLine_start (upper : (current newline stream).map toUpper = cmd) :
    CommandLine cmd [] (current newline stream) := by
  obtain ⟨_,_,_,inside⟩ := current_parts newline stream
  exact ⟨inside,_,(List.append_nil _).symm,upper⟩

theorem afterUser_more (after : AfterUser stream user between) (c : UInt8) :
    AfterUser (stream++[c]) user (between++[c]) := by
  obtain ⟨before,line,arg,split,starts,command,stored⟩ := after
  exact ⟨before,line,arg,by rw [split,List.append_assoc],starts,command,stored⟩

theorem afterUser_current (after : AfterUser stream user between) : current newline stream = current newline between := by
  obtain ⟨before,line,_,split,_⟩ := after
  rw [split,← List.append_assoc]
  exact current_behind (before++line) between

theorem stored_set (size : array.length = argumentLength) {i : Nat} (small : i < argumentLength) :
    StoredArgument (array.set i 0) (array.take i) := by
  have count : (array.take i).length = i := by
    rw [List.length_take]
    omega
  rw [StoredArgument,count,List.set_eq_take_append_cons_drop,if_pos (by omega),List.append_cons]
  exact List.take_left' (by rw [List.length_append,count]; rfl)

theorem take_set (size : array.length = argumentLength) {i : Nat} (small : i < argumentLength) :
    (array.set i c).take (i+1) = array.take i ++ [c] := by
  have count : (array.take i).length = i := by
    rw [List.length_take]
    omega
  rw [List.set_eq_take_append_cons_drop,if_pos (by omega),List.append_cons]
  exact List.take_left' (by rw [List.length_append,count]; rfl)

theorem user_ends (size : array.length = argumentLength) {i : Nat} (small : i < argumentLength)
    (command : CommandLine pop3UserCmd (array.take i) (current newline stream)) :
    AfterUser (stream++[newline]) (array.set i 0) [] := by
  obtain ⟨before,split,starts,_⟩ := current_parts newline stream
  refine ⟨before,_,_,?_,starts,command,stored_set size small⟩
  rw [List.append_nil,← List.append_assoc,← split]

theorem pass_ends (size : array.length = argumentLength) {i : Nat} (small : i < argumentLength)
    (after : AfterUser stream user between)
    (command : CommandLine pop3PassCmd (array.take i) (current newline between)) :
    Pop3Report.Legit ⟨stream++[newline],user,array.set i 0⟩ := by
  obtain ⟨before,line,arg,split,starts,userCommand,stored⟩ := after
  obtain ⟨front,splitBetween,startsBetween,_⟩ := current_parts newline between
  refine ⟨arg,array.take i,⟨before,line,front,_,[],?_,starts,startsBetween,userCommand,command⟩,stored,stored_set size small⟩
  dsimp only
  rw [List.append_nil,← List.append_assoc front,← splitBetween,← List.append_assoc _ between,← split]

theorem completes_known (last : parser.readPtr = 4) (same : toUpper c = 0x20) :
    parser.completes c = match parser.state with
      | .userCmd => some pop3UserCmd
      | .passCmd => some pop3PassCmd
      | _ => none := if_pos ⟨last,same⟩

theorem orderly_line (orderly : parser.orderly stream c = true) (completed : parser.completes c = some cmd) :
    (current newline (stream++[c])).map toUpper = cmd := by
  rw [Pop3Parser.orderly,completed] at orderly
  exact of_decide_eq_true orderly

theorem userCmd_knows (framed : parser.Framed) (state : parser.state = .userCmd) (knows : parser.Knows stream)
    (orderly : parser.orderly stream c = true) :
    (parseCommand pop3UserCmd .userCmd .user parser c).Knows (stream++[c]) := by
  rw [Pop3Parser.Knows,state] at knows
  have turn := framed.turn
  rw [state] at turn
  rcases @parseCommand_cases parser pop3UserCmd .userCmd .user c userCmd_text framed.readPtr with
    ⟨last,same,out⟩ | ⟨_,_,out⟩ | ⟨_,out⟩
  · rw [last] at same
    have upper := orderly_line orderly ((completes_known last same).trans (by rw [state]))
    rw [out]
    change CommandLine pop3UserCmd (parser.user.take parser.writePtr) (current newline (stream++[c]))
    rw [show parser.writePtr = 0 from knows,List.take_zero]
    exact commandLine_start upper
  · rw [out]
    exact knows
  · rw [out]
    rcases handleError_cases parser with ⟨done,_⟩ | ⟨_,next⟩
    · cases done.symm.trans turn
    · rw [next]
      exact knows

theorem passCmd_knows (framed : parser.Framed) (state : parser.state = .passCmd) (knows : parser.Knows stream)
    (orderly : parser.orderly stream c = true) :
    (parseCommand pop3PassCmd .passCmd .pass parser c).Knows (stream++[c]) := by
  rw [Pop3Parser.Knows,state] at knows
  obtain ⟨start,between,after⟩ := knows
  have turn := framed.turn
  rw [state] at turn
  have later := afterUser_more after c
  rcases @parseCommand_cases parser pop3PassCmd .passCmd .pass c passCmd_text framed.readPtr with
    ⟨last,same,out⟩ | ⟨_,_,out⟩ | ⟨_,out⟩
  · rw [last] at same
    have upper := orderly_line orderly ((completes_known last same).trans (by rw [state]))
    rw [afterUser_current later] at upper
    rw [out]
    refine ⟨between++[c],later,?_⟩
    change CommandLine pop3PassCmd (parser.pass.take parser.writePtr) _
    rw [start,List.take_zero]
    exact commandLine_start upper
  · rw [out]
    exact ⟨start,_,later⟩
  · rw [out]
    rcases handleError_cases parser with ⟨_,next⟩ | ⟨open_,_⟩
    · rw [next]
      exact ⟨start,_,later⟩
    · cases open_.symm.trans turn

theorem user_knows (framed : parser.Framed) (state : parser.state = .user) (knows : parser.Knows stream)
    (free : ¬ parser.Stuck) : (parseUser parser c).Knows (stream++[c]) := by
  rw [Pop3Parser.Knows,state] at knows
  have room : ¬ parser.writePtr+1 = argumentLength := free
  rw [parseUser,if_neg room]
  split
  · rename_i ends
    rw [ends]
    exact ⟨rfl,[],user_ends framed.userSize framed.writePtr knows⟩
  · rename_i more
    change CommandLine pop3UserCmd ((parser.user.set parser.writePtr c).take (parser.writePtr+1)) _
    rw [take_set framed.userSize framed.writePtr,current_more more]
    exact commandLine_more knows more

theorem pass_knows (framed : parser.Framed) (state : parser.state = .pass) (knows : parser.Knows stream)
    (free : ¬ parser.Stuck) : (parsePass parser c).Knows (stream++[c]) := by
  rw [Pop3Parser.Knows,state] at knows
  obtain ⟨between,after,command⟩ := knows
  have room : ¬ parser.writePtr+1 = argumentLength := free
  rw [parsePass,if_neg room]
  split
  · rename_i ends
    rw [ends]
    exact pass_ends framed.passSize framed.writePtr after command
  · rename_i more
    refine ⟨between++[c],afterUser_more after c,?_⟩
    change CommandLine pop3PassCmd ((parser.pass.set parser.writePtr c).take (parser.writePtr+1)) _
    rw [take_set framed.passSize framed.writePtr,current_more more]
    exact commandLine_more command more

theorem byte_knows (framed : parser.Framed) (awake : parser.state ≠ .done) (knows : parser.Stuck ∨ parser.Knows stream)
    (orderly : parser.orderly stream c = true) :
    (pop3ParseByte parser c).Stuck ∨ (pop3ParseByte parser c).Knows (stream++[c]) := by
  by_cases stuck : parser.Stuck
  · exact .inl ((byte_stuck framed awake).1.mpr (.inl stuck))
  · have known := knows.resolve_left stuck
    right
    unfold pop3ParseByte
    cases state : parser.state with
    | userCmd => exact userCmd_knows framed state known orderly
    | user => exact user_knows framed state known stuck
    | passCmd => exact passCmd_knows framed state known orderly
    | pass => exact pass_knows framed state known stuck
    | error =>
        rw [Pop3Parser.Knows,state] at known
        exact known.elim
    | done => exact absurd state awake

theorem chunk_knows (framed : parser.Framed) (awake : parser.state ≠ .done) (knows : parser.Stuck ∨ parser.Knows stream)
    (bytes : List UInt8) (orderly : chunkOrderly parser stream bytes = true) :
    let last := scan pop3ParseByte Pop3Parser.done parser bytes
    last.1.Stuck ∨ last.1.Knows (stream ++ bytes.take (bytes.length - last.2.length)) := by
  induction bytes generalizing parser stream with
  | nil =>
      dsimp only
      rw [List.take_nil,List.append_nil]
      exact knows
  | cons c rest ih =>
      obtain ⟨here,later⟩ := (Bool.and_eq_true_iff).mp orderly
      have next := byte_knows framed awake knows here
      rw [scan]
      by_cases done : (pop3ParseByte parser c).state = .done
      · rw [if_pos (show (pop3ParseByte parser c).done = true from decide_eq_true done)]
        dsimp only
        rw [take_front (show c::rest = [c] ++ rest from rfl)]
        exact next
      · rw [if_neg (show ¬ (pop3ParseByte parser c).done = true by simpa [Pop3Parser.done] using done)]
        obtain ⟨taken,split,_⟩ := @scan_split _ _ pop3ParseByte Pop3Parser.done (pop3ParseByte parser c) rest
        rw [show (pop3ParseByte parser c).done = false from decide_eq_false done,Bool.false_or] at later
        have known := ih (pop3ParseByte_framed framed) done next later
        dsimp only at known ⊢
        rw [take_front split] at known
        rw [take_front (show c::rest = (c::taken) ++ _ from congrArg (c::·) split),List.append_cons]
        exact known

theorem call_knows (framed : parser.Framed) (awake : parser.state ≠ .done) (knows : parser.Stuck ∨ parser.Knows stream)
    (buff : CertifiedBuffer) (orderly : chunkOrderly parser stream buff.unread = true) :
    let parsed := pop3Parse parser buff
    let left := (pop3ParseChar parser buff).2.unread
    (parsed.1 = .done →
      Pop3Report.Legit ⟨stream ++ buff.unread.take (buff.unread.length - left.length),parsed.2.1.user,parsed.2.1.pass⟩) ∧
    (parsed.2.1.Stuck ∨ parsed.2.1.Knows (streamAfter parser stream buff)) := by
  have known := chunk_knows framed awake knows buff.unread orderly
  obtain ⟨last,_,free⟩ := chunk_stuck framed awake buff.unread
  obtain ⟨_,left⟩ := parseChar_scan awake buff
  rw [streamAfter,left,pop3Parse_scan awake buff]
  dsimp only at known ⊢
  by_cases done : (scan pop3ParseByte Pop3Parser.done parser buff.unread).1.state = .done
  · rw [if_pos done,if_pos done]
    have legit := known.resolve_left (free done)
    rw [Pop3Parser.Knows,done] at legit
    exact ⟨fun _ => legit,.inr rfl⟩
  · rw [if_neg done,if_neg done]
    refine ⟨fun contrary => absurd contrary done,?_⟩
    have empty := @scan_running _ _ pop3ParseByte Pop3Parser.done parser buff.unread (decide_eq_false done)
    rwa [empty,List.length_nil,Nat.sub_zero,List.take_length] at known

theorem pair_more {user pass : List UInt8} (pair : LinePair stream user pass) (more : List UInt8) :
    LinePair (stream++more) user pass := by
  obtain ⟨before,userLine,between,passLine,after,split,rest⟩ := pair
  exact ⟨before,userLine,between,passLine,after++more,by rw [split,List.append_assoc],rest⟩

theorem feed_legit (framed : parser.Framed) (awake : parser.state ≠ .done) (knows : parser.Stuck ∨ parser.Knows stream)
    (buffs : List CertifiedBuffer) (orderly : feedOrderly parser stream buffs = true) :
    (∀ report ∈ pop3Reports parser stream buffs, report.Legit) ∧
    (pop3Reports parser stream buffs ≠ [] → ∃ user pass, LinePair (stream ++ unreadBytes buffs) user pass) := by
  induction buffs generalizing parser stream with
  | nil => exact ⟨fun _ member => absurd member List.not_mem_nil,fun contrary => absurd rfl contrary⟩
  | cons buff later ih =>
      obtain ⟨here,behind⟩ := (Bool.and_eq_true_iff).mp orderly
      obtain ⟨legit,next⟩ := call_knows framed awake knows buff here
      obtain ⟨nextFramed,waiting,_⟩ := parse_stuck framed awake buff
      obtain ⟨rest,found⟩ := ih nextFramed waiting next behind
      rw [pop3Reports]
      dsimp only
      by_cases done : (pop3Parse parser buff).1 = .done
      · rw [if_pos done]
        refine ⟨?_,fun _ => ?_⟩
        · intro report member
          rcases List.mem_cons.mp member with rfl | member
          · exact legit done
          · exact rest report member
        · obtain ⟨user,pass,pair,_⟩ := legit done
          have more := pair_more pair
            (buff.unread.drop (buff.unread.length - (pop3ParseChar parser buff).2.unread.length) ++ unreadBytes later)
          rw [← List.append_assoc,List.append_assoc stream,List.take_append_drop,List.append_assoc] at more
          exact ⟨user,pass,more⟩
      · rw [if_neg done]
        rw [streamAfter,if_neg done,List.append_assoc] at found
        rw [streamAfter,if_neg done] at rest ⊢
        exact ⟨rest,found⟩

theorem sniffer_recognises (prior : Pop3Parser) (userSize : prior.user.length = argumentLength)
    (passSize : prior.pass.length = argumentLength) (buffs : List CertifiedBuffer)
    (orderly : feedOrderly (pop3ParserInit prior) [] buffs = true) :
    (∀ report ∈ pop3Reports (pop3ParserInit prior) [] buffs, report.Legit) ∧
    ((∀ user pass, ¬ LinePair (unreadBytes buffs) user pass) → pop3Reports (pop3ParserInit prior) [] buffs = []) := by
  obtain ⟨legit,found⟩ := feed_legit (init_framed userSize passSize) (init_awake prior) (.inr rfl) buffs orderly
  refine ⟨legit,fun none_ => ?_⟩
  by_contra some_
  obtain ⟨user,pass,pair⟩ := found some_
  exact none_ user pass pair

theorem pair_spells {user pass : List UInt8} (pair : LinePair stream user pass) :
    pop3UserCmd <:+: stream.map toUpper := by
  obtain ⟨before,_,between,passLine,after,split,_,_,⟨_,typed,line,upper⟩,_⟩ := pair
  refine ⟨before.map toUpper,(user ++ [newline] ++ (between ++ (passLine ++ [newline])) ++ after).map toUpper,?_⟩
  rw [split,line,← upper]
  simp only [List.map_append,List.append_assoc]

-- "user a" and "PASS b" in two chunks, cut inside a command.
def loginChunks : List CertifiedBuffer :=
  [chunkOf [0x75,0x73,0x65,0x72,0x20,0x61,0x0A,0x50,0x41],chunkOf [0x53,0x53,0x20,0x62,0x0A]]

theorem loginLines_recognised :
    (∀ report ∈ pop3Reports (pop3ParserInit .raw) [] loginChunks, report.Legit) ∧
    ((∀ user pass, ¬ LinePair (unreadBytes loginChunks) user pass) →
      pop3Reports (pop3ParserInit .raw) [] loginChunks = []) :=
  sniffer_recognises .raw rfl rfl loginChunks (by decide)

-- "USxER a" and "PASS b": the matcher goes on where the mismatch left it.
theorem brokenUser_reported :
    ¬ ∀ report ∈ pop3Reports (pop3ParserInit .raw) []
      [chunkOf [0x55,0x53,0x78,0x45,0x52,0x20,0x61,0x0A,0x50,0x41,0x53,0x53,0x20,0x62,0x0A]], report.Legit := by
  intro legit
  have reported : (pop3Reports (pop3ParserInit .raw) []
      [chunkOf [0x55,0x53,0x78,0x45,0x52,0x20,0x61,0x0A,0x50,0x41,0x53,0x53,0x20,0x62,0x0A]]).map Pop3Report.stream =
      [[0x55,0x53,0x78,0x45,0x52,0x20,0x61,0x0A,0x50,0x41,0x53,0x53,0x20,0x62,0x0A]] := by decide
  obtain ⟨report,member,stream⟩ := List.mem_map.mp (show _ ∈ List.map Pop3Report.stream _ from reported ▸ List.mem_singleton.mpr rfl)
  obtain ⟨_,_,pair,_⟩ := legit report member
  rw [stream] at pair
  exact absurd (pair_spells pair) (by decide)

end Socks5d
