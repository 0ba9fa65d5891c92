import Socks5d.Pop3Frame
import Socks5d.Foundations.Lines

namespace Socks5d
open Scan Lines

def pop3Feed (parser : Pop3Parser) : List CertifiedBuffer → Pop3Parser × List Pop3State
  | [] => (parser,[])
  | buff::later =>
    let (state,next,_) := pop3Parse parser buff
    let (last,states) := pop3Feed next later
    (last,state::states)

def CanReport (parser : Pop3Parser) : Prop := ∃ more, .done ∈ (pop3Feed parser more).2

-- The byte would be the 39th of its argument: it takes the last index but one, and the
-- next byte of any argument finds no room.
def Pop3Parser.overflows (parser : Pop3Parser) (c : UInt8) : Bool :=
  (decide (parser.state = .user) || decide (parser.state = .pass)) &&
    decide (parser.writePtr+2 = argumentLength) && decide (c ≠ newline)

def chunkFits : Pop3Parser → List UInt8 → Bool
  | _,[] => true
  | parser,c::rest => !parser.overflows c && ((pop3ParseByte parser c).done || chunkFits (pop3ParseByte parser c) rest)

def argumentsFit (parser : Pop3Parser) : List CertifiedBuffer → Bool
  | [] => true
  | buff::later => chunkFits parser buff.unread && argumentsFit (pop3Parse parser buff).2.1 later

-- No argument can be ended any more, since write_ptr goes back only with an argument's end.
def Pop3Parser.Stuck (parser : Pop3Parser) : Prop := parser.writePtr+1 = argumentLength

variable {parser prior : Pop3Parser} {c : UInt8} {cmd bytes stream rest : List UInt8} {stay matched : Pop3State}

theorem init_awake (prior : Pop3Parser) : (pop3ParserInit prior).state ≠ .done := fun same => by cases same

theorem parseCommand_write (text : CommandText cmd) (small : parser.readPtr < 5) (going : stay ≠ .done) (met : matched ≠ .done) :
    (parseCommand cmd stay matched parser c).writePtr = parser.writePtr ∧
    (parseCommand cmd stay matched parser c).state ≠ .done := by
  rcases @parseCommand_cases parser cmd stay matched c text small with ⟨_,_,out⟩ | ⟨_,_,out⟩ | ⟨_,out⟩
  · rw [out]
    exact ⟨rfl,met⟩
  · rw [out]
    exact ⟨rfl,going⟩
  · rw [out]
    refine ⟨rfl,?_⟩
    rcases handleError_cases parser with ⟨_,next⟩ | ⟨_,next⟩
    · exact fun same => by cases next.symm.trans same
    · exact fun same => by cases next.symm.trans same

theorem overflows_other (other : parser.state ≠ .user ∧ parser.state ≠ .pass) : parser.overflows c = false := by
  rw [Pop3Parser.overflows,decide_eq_false other.1,decide_eq_false other.2]
  rfl

theorem argument_stuck (inside : parser.state = .user ∨ parser.state = .pass) (next : Pop3Parser)
    (moved : (parser.Stuck ∧ next.writePtr = parser.writePtr ∧ next.state ≠ .done) ∨
      (¬ parser.Stuck ∧ c = newline ∧ next.writePtr = 0) ∨
      (¬ parser.Stuck ∧ c ≠ newline ∧ next.writePtr = parser.writePtr+1 ∧ next.state ≠ .done)) :
    (next.Stuck ↔ parser.Stuck ∨ parser.overflows c = true) ∧ (next.state = .done → ¬ next.Stuck) := by
  have argument : (decide (parser.state = .user) || decide (parser.state = .pass)) = true := by simpa using inside
  rcases moved with ⟨stuck,same,going⟩ | ⟨free,ends,start⟩ | ⟨free,more,further,going⟩
  · rw [Pop3Parser.Stuck,same]
    exact ⟨⟨.inl,fun _ => stuck⟩,fun done => absurd done going⟩
  · have unstuck : ¬ next.Stuck := by
      rw [Pop3Parser.Stuck,start]
      decide
    refine ⟨⟨fun contrary => absurd contrary unstuck,?_⟩,fun _ => unstuck⟩
    rintro (stuck | excess)
    · exact absurd stuck free
    · rw [Pop3Parser.overflows,decide_eq_false (not_not.mpr ends),Bool.and_false] at excess
      cases excess
  · refine ⟨?_,fun done => absurd done going⟩
    rw [Pop3Parser.Stuck,further,Pop3Parser.overflows,argument,decide_eq_true more,Bool.true_and,Bool.and_true,
      decide_eq_true_iff]
    exact ⟨.inr,fun either => either.resolve_left free⟩

theorem byte_stuck (framed : parser.Framed) (awake : parser.state ≠ .done) :
    ((pop3ParseByte parser c).Stuck ↔ parser.Stuck ∨ parser.overflows c = true) ∧
    ((pop3ParseByte parser c).state = .done → ¬ (pop3ParseByte parser c).Stuck) := by
  have quiet : parser.state ≠ .user ∧ parser.state ≠ .pass → ∀ next : Pop3Parser,
      next.writePtr = parser.writePtr ∧ next.state ≠ .done →
      (next.Stuck ↔ parser.Stuck ∨ parser.overflows c = true) ∧ (next.state = .done → ¬ next.Stuck) := by
    rintro other next ⟨same,going⟩
    rw [Pop3Parser.Stuck,same,overflows_other other]
    exact ⟨⟨.inl,fun either => either.resolve_right Bool.false_ne_true⟩,fun done => absurd done going⟩
  unfold pop3ParseByte
  cases state : parser.state with
  | userCmd =>
      refine quiet (by rw [state]; decide) _ ?_
      dsimp only
      rw [parseUserCmd_command]
      exact parseCommand_write userCmd_text framed.readPtr (by decide) (by decide)
  | passCmd =>
      refine quiet (by rw [state]; decide) _ ?_
      dsimp only
      rw [parsePassCmd_command]
      exact parseCommand_write passCmd_text framed.readPtr (by decide) (by decide)
  | user =>
      refine argument_stuck (.inl state) _ ?_
      dsimp only
      unfold parseUser
      split
      · rename_i stuck
        exact .inl ⟨stuck,rfl,fun same => by cases same⟩
      · rename_i free
        split
        · rename_i ends
          exact .inr (.inl ⟨free,ends,rfl⟩)
        · rename_i more
          exact .inr (.inr ⟨free,more,rfl,fun same => by cases same⟩)
  | pass =>
      refine argument_stuck (.inr state) _ ?_
      dsimp only
      unfold parsePass
      split
      · rename_i stuck
        exact .inl ⟨stuck,rfl,fun same => by cases same⟩
      · rename_i free
        split
        · rename_i ends
          exact .inr (.inl ⟨free,ends,rfl⟩)
        · rename_i more
          exact .inr (.inr ⟨free,more,rfl,fun same => by cases same⟩)
  | error =>
      refine quiet (by rw [state]; decide) _ ⟨rfl,?_⟩
      rcases handleError_cases parser with ⟨_,next⟩ | ⟨_,next⟩
      · exact fun same => by cases next.symm.trans same
      · exact fun same => by cases next.symm.trans same
  | done => exact absurd state awake

theorem chunk_stuck (framed : parser.Framed) (awake : parser.state ≠ .done) (bytes : List UInt8) :
    let last := (scan pop3ParseByte Pop3Parser.done parser bytes).1
    last.Framed ∧ (last.Stuck ↔ parser.Stuck ∨ chunkFits parser bytes = false) ∧ (last.state = .done → ¬ last.Stuck) := by
  induction bytes generalizing parser with
  | nil => exact ⟨framed,⟨.inl,fun either => either.resolve_right (by simp [chunkFits])⟩,fun done => absurd done awake⟩
  | cons c rest ih =>
      obtain ⟨stuck,free⟩ := @byte_stuck parser c framed awake
      have next := @pop3ParseByte_framed parser c framed
      rw [scan,chunkFits]
      by_cases done : (pop3ParseByte parser c).state = .done
      · have ended : (pop3ParseByte parser c).done = true := decide_eq_true done
        rw [if_pos ended,ended,Bool.true_or,Bool.and_true,Bool.not_eq_false']
        exact ⟨next,stuck,free⟩
      · have going : (pop3ParseByte parser c).done = false := decide_eq_false done
        rw [going,if_neg Bool.false_ne_true,Bool.false_or,Bool.and_eq_false_iff,Bool.not_eq_false',← or_assoc,← stuck]
        exact ih next done

theorem parse_stuck (framed : parser.Framed) (awake : parser.state ≠ .done) (buff : CertifiedBuffer) :
    let parsed := pop3Parse parser buff
    parsed.2.1.Framed ∧ parsed.2.1.state ≠ .done ∧
    (parsed.2.1.Stuck ↔ parser.Stuck ∨ chunkFits parser buff.unread = false) ∧
    (parsed.1 = .done → ¬ parsed.2.1.Stuck) := by
  obtain ⟨last,stuck,free⟩ := chunk_stuck framed awake buff.unread
  obtain ⟨next,waiting⟩ := parsed_framed last
  rw [pop3Parse_scan awake buff]
  refine ⟨next,waiting,?_,?_⟩
  · dsimp only
    split
    · rename_i done
      have fresh : ¬ (pop3ParserInit (scan pop3ParseByte Pop3Parser.done parser buff.unread).1).Stuck := by
        rw [Pop3Parser.Stuck]
        exact fun same => by cases same
      exact iff_of_false fresh fun either => free done (stuck.mpr either)
    · exact stuck
  · intro done
    dsimp only at done ⊢
    rw [if_pos done]
    exact fun same => by cases same

theorem feed_stuck (framed : parser.Framed) (awake : parser.state ≠ .done) (buffs : List CertifiedBuffer) :
    (pop3Feed parser buffs).1.Framed ∧ (pop3Feed parser buffs).1.state ≠ .done ∧
    ((pop3Feed parser buffs).1.Stuck ↔ parser.Stuck ∨ argumentsFit parser buffs = false) := by
  induction buffs generalizing parser with
  | nil => exact ⟨framed,awake,⟨.inl,fun either => either.resolve_right (by simp [argumentsFit])⟩⟩
  | cons buff later ih =>
      obtain ⟨next,waiting,stuck,_⟩ := parse_stuck framed awake buff
      obtain ⟨last,lastAwake,lastStuck⟩ := ih next waiting
      refine ⟨last,lastAwake,lastStuck.trans ?_⟩
      rw [stuck,argumentsFit,Bool.and_eq_false_iff,or_assoc]

theorem stuck_silent (framed : parser.Framed) (awake : parser.state ≠ .done) (stuck : parser.Stuck)
    (more : List CertifiedBuffer) : .done ∉ (pop3Feed parser more).2 := by
  induction more generalizing parser with
  | nil => exact List.not_mem_nil
  | cons buff later ih =>
      obtain ⟨next,waiting,kept,free⟩ := parse_stuck framed awake buff
      have still := kept.mpr (.inl stuck)
      intro member
      rcases List.mem_cons.mp member with now | behind
      · exact free now.symm still
      · exact ih next waiting still behind

def Reports (parser : Pop3Parser) : Prop := ∃ bytes : List UInt8, (bytes.foldl pop3ParseByte parser).state = .done

theorem reports_after (bytes : List UInt8) (reports : Reports (bytes.foldl pop3ParseByte parser)) : Reports parser := by
  obtain ⟨more,done⟩ := reports
  exact ⟨bytes++more,by rw [List.foldl_append]; exact done⟩

theorem drop_command (text : CommandText cmd) {i : Nat} (inside : i < 5) :
    cmd.drop i = cmd.getD i 0::cmd.drop (i+1) := by
  have place : i < cmd.length := by
    rw [text.size]
    exact inside
  rw [List.drop_eq_getElem_cons place,List.getD_eq_getElem?_getD,List.getElem?_eq_getElem place]
  rfl

theorem typed_command (text : CommandText cmd) (upper : ∀ i < 5, toUpper (cmd.getD i 0) = cmd.getD i 0)
    (matches_ : ∀ p c, p.state = stay → pop3ParseByte p c = parseCommand cmd stay matched p c)
    (state : parser.state = stay) (small : parser.readPtr < 5) :
    (cmd.drop parser.readPtr).foldl pop3ParseByte parser = {parser with readPtr:=0,state:=matched} := by
  obtain ⟨left,count⟩ : ∃ left, parser.readPtr + left + 1 = 5 := ⟨4 - parser.readPtr,by omega⟩
  induction left generalizing parser with
  | zero =>
      have ends : cmd.drop (parser.readPtr+1) = [] := List.drop_eq_nil_of_le (by rw [text.size]; omega)
      rw [drop_command text small,List.foldl_cons,matches_ _ _ state,ends,List.foldl_nil]
      rcases @parseCommand_cases parser cmd stay matched (cmd.getD parser.readPtr 0) text small with
        ⟨_,_,out⟩ | ⟨further,_⟩ | ⟨other,_⟩
      · exact out
      · omega
      · exact absurd (upper _ small) other
  | succ left ih =>
      rw [drop_command text small,List.foldl_cons,matches_ _ _ state]
      rcases @parseCommand_cases parser cmd stay matched (cmd.getD parser.readPtr 0) text small with
        ⟨last,_⟩ | ⟨further,_,out⟩ | ⟨other,_⟩
      · omega
      · rw [out]
        exact @ih {parser with readPtr:=parser.readPtr+1,state:=stay} rfl further (by dsimp only; omega)
      · exact absurd (upper _ small) other

theorem pass_reports (state : parser.state = .pass) (free : ¬ parser.Stuck) : Reports parser := by
  have room : ¬ parser.writePtr+1 = argumentLength := free
  refine ⟨[newline],?_⟩
  rw [List.foldl_cons,List.foldl_nil,pop3ParseByte,state]
  dsimp only
  rw [parsePass,if_neg room,if_pos rfl]

theorem passCmd_reports (state : parser.state = .passCmd) (small : parser.readPtr < 5) (free : ¬ parser.Stuck) :
    Reports parser := by
  refine reports_after (pop3PassCmd.drop parser.readPtr) ?_
  rw [@typed_command parser pop3PassCmd .passCmd .pass passCmd_text (by decide)
    (fun p c same => by rw [pop3ParseByte,same,parsePassCmd_command]) state small]
  exact pass_reports rfl free

theorem user_reports (state : parser.state = .user) (small : parser.readPtr < 5) (free : ¬ parser.Stuck) :
    Reports parser := by
  have room : ¬ parser.writePtr+1 = argumentLength := free
  refine reports_after [newline] ?_
  rw [List.foldl_cons,List.foldl_nil,pop3ParseByte,state]
  dsimp only
  rw [parseUser,if_neg room,if_pos rfl]
  exact passCmd_reports rfl small fun same => by cases same

theorem userCmd_reports (state : parser.state = .userCmd) (small : parser.readPtr < 5) (free : ¬ parser.Stuck) :
    Reports parser := by
  refine reports_after (pop3UserCmd.drop parser.readPtr) ?_
  rw [@typed_command parser pop3UserCmd .userCmd .user userCmd_text (by decide)
    (fun p c same => by rw [pop3ParseByte,same,parseUserCmd_command]) state small]
  exact user_reports rfl (Nat.zero_lt_succ _) free

theorem free_reports (framed : parser.Framed) (awake : parser.state ≠ .done) (free : ¬ parser.Stuck) : Reports parser := by
  cases state : parser.state with
  | userCmd => exact userCmd_reports state framed.readPtr free
  | user => exact user_reports state framed.readPtr free
  | passCmd => exact passCmd_reports state framed.readPtr free
  | pass => exact pass_reports state free
  | error =>
      refine reports_after [newline] ?_
      rw [List.foldl_cons,List.foldl_nil,pop3ParseByte,state]
      dsimp only
      rcases handleError_cases parser with ⟨_,next⟩ | ⟨_,next⟩
      · rw [next]
        exact passCmd_reports rfl framed.readPtr free
      · rw [next]
        exact userCmd_reports rfl framed.readPtr free
  | done => exact absurd state awake

def chunkOf (bytes : List UInt8) : CertifiedBuffer := (CertifiedBuffer.init bytes.length).fill bytes

@[simp] theorem chunkOf_unread (bytes : List UInt8) : (chunkOf bytes).unread = bytes := by
  rw [chunkOf,CertifiedBuffer.fill_unread]
  exact List.take_length

theorem free_canReport (framed : parser.Framed) (awake : parser.state ≠ .done) (free : ¬ parser.Stuck) : CanReport parser := by
  obtain ⟨bytes,done⟩ := free_reports framed awake free
  have reported : (scan pop3ParseByte Pop3Parser.done parser bytes).1.state = .done := by
    by_contra going
    have left := @scan_running _ _ pop3ParseByte Pop3Parser.done parser bytes (decide_eq_false going)
    obtain ⟨taken,split,fold⟩ := @scan_split _ _ pop3ParseByte Pop3Parser.done parser bytes
    rw [left,List.append_nil] at split
    rw [← split] at fold
    exact going ((congrArg Pop3Parser.state fold).trans done)
  have state : (pop3Parse parser (chunkOf bytes)).1 = .done := by
    rw [pop3Parse_scan awake,chunkOf_unread]
    exact reported
  exact ⟨[chunkOf bytes],List.mem_cons.mpr (.inl state.symm)⟩

theorem sniffer_unstuck (prior : Pop3Parser) (userSize : prior.user.length = argumentLength)
    (passSize : prior.pass.length = argumentLength) (buffs : List CertifiedBuffer) :
    CanReport (pop3Feed (pop3ParserInit prior) buffs).1 ↔ argumentsFit (pop3ParserInit prior) buffs = true := by
  obtain ⟨framed,awake,stuck⟩ := feed_stuck (init_framed userSize passSize) (init_awake prior) buffs
  have fresh : ¬ (pop3ParserInit prior).Stuck := fun same => by cases same
  constructor
  · rintro ⟨more,reported⟩
    by_contra excess
    exact stuck_silent framed awake (stuck.mpr (.inr (by simpa using excess))) more reported
  · intro fits
    refine free_canReport framed awake fun contrary => ?_
    rcases stuck.mp contrary with contrary | excess
    · exact fresh contrary
    · rw [fits] at excess
      cases excess

theorem named_canReport :
    CanReport (pop3Feed (pop3ParserInit .raw) [chunkOf [0x55,0x53,0x45,0x52,0x20,0x61,0x0A]]).1 :=
  (sniffer_unstuck .raw rfl rfl [chunkOf [0x55,0x53,0x45,0x52,0x20,0x61,0x0A]]).mpr (by decide)

-- A user name of 39 bytes, and nothing is ever reported again.
theorem longName_deafens :
    ¬ CanReport (pop3Feed (pop3ParserInit .raw) [chunkOf (pop3UserCmd ++ List.replicate 39 0x61)]).1 := by
  rintro ⟨more,reported⟩
  obtain ⟨framed,awake,stuck⟩ := feed_stuck (init_framed rfl rfl) (init_awake .raw)
    [chunkOf (pop3UserCmd ++ List.replicate 39 0x61)]
  exact stuck_silent framed awake (stuck.mpr (.inr (by decide))) more reported

end Socks5d
