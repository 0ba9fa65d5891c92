import Socks5d.AnswerSizes
import Socks5d.CommandDecoding
import Socks5d.Foundations.Lines

namespace Socks5d.ControlProtocol

-- How the client's parse_users_message ends: with a status, with a token that strtok did
-- not find, or in a recv that nothing comes for.
inductive ListingEnd where
  | returned (status : UInt8)
  | nullToken
  | waiting
  deriving DecidableEq, Repr

@[ext] structure Listing where
  printed : List (List UInt8)
  ended : ListingEnd
  deriving DecidableEq, Repr

def failure : UInt8 := 0x30
def noUsersYet : List UInt8 := ascii "No users yet"

-- The array that is cleared before each recv.
def responseBuf (segment : List UInt8) : List UInt8 :=
  segment.take maxLen ++ List.replicate (maxLen - segment.length) 0

-- strtok on an array, from a position or, for NULL, from where the last call stopped. The
-- token, the array with the delimiter behind it overwritten, and where to go on.
def strtokFrom (delimiters buf : List UInt8) (start : Nat) : Option (List UInt8) × List UInt8 × Nat :=
  let s := start + ((cString (buf.drop start)).takeWhile (· ∈ delimiters)).length
  let token := (cString (buf.drop s)).takeWhile (· ∉ delimiters)
  let e := s + token.length
  if token = [] then (none,buf,s)
  else if buf.getD e 0 = 0 then (some token,buf,e)
  else (some token,buf.set e 0,e+1)

structure RowScan where
  buf : List UInt8
  save : Nat
  pos : Nat
  rowCount : Int
  printed : List (List UInt8)

-- The while loop, by the positions left of the array. An error is a NULL token.
def scanRows : Nat → RowScan → Except (List (List UInt8)) RowScan
  | 0,s => .ok s
  | left+1,s =>
    if 0 < s.rowCount then
      if s.buf.getD s.pos 0 = newline then
        match strtokFrom [newline] s.buf s.save with
        | (none,_,_) => .error s.printed
        | (some currentUser,buf,save) => scanRows left ⟨buf,save,s.pos+1,s.rowCount - 1,s.printed ++ [currentUser]⟩
      else scanRows left {s with pos:=s.pos+1}
    else .ok s

inductive RowsRead where
  | stopped (listing : Listing)
  | again (printed : List (List UInt8)) (offset : List UInt8) (rowCount : Int)

-- A newline at the front of the array ends the name of the segment before, and counts as
-- a row of its own.
def readRows (offset : List UInt8) (rowCount : Int) (buf : List UInt8) (pos : Nat) : RowsRead :=
  let (currentUser,buf,save) := strtokFrom [newline] buf pos
  let leading := decide (buf.getD 0 0 = newline)
  match currentUser with
  | none => .stopped ⟨if leading then [offset] else [],.nullToken⟩
  | some currentUser =>
    let printed := if leading then [offset,currentUser] else [offset ++ currentUser]
    let pos := pos + currentUser.length
    match scanRows (maxLen - pos) ⟨buf,save,pos,if leading then rowCount - 2 else rowCount - 1,printed⟩ with
    | .error printed => .stopped ⟨printed,.nullToken⟩
    | .ok s =>
      if s.rowCount < 0 then .stopped ⟨s.printed,.returned 0x30⟩
      else if 0 < s.rowCount then .again s.printed ((strtokFrom [] s.buf s.save).1.getD []) s.rowCount
      else .stopped ⟨s.printed,.returned 0x69⟩

def parseUsersMessage : Option (List UInt8) → Int → List Recv → Listing
  | _,_,[] => ⟨[],.waiting⟩
  | _,_,.failed _::_ => ⟨[],.returned 0x78⟩
  | _,_,.closed::_ => ⟨[],.returned 0x6E⟩
  | offset,rowCount,.data segment::more =>
    let buf := responseBuf segment
    let read := match offset with
      | some offset => readRows offset rowCount buf 0
      | none =>
        if buf.getD 0 0 = failure then
          .stopped ⟨[],.returned (if buf.getD 1 0 ≠ hasDataFlag then 0x78 else buf.getD 2 0)⟩
        else if buf.getD 1 0 = 1 then .stopped ⟨[noUsersYet],.returned 0x69⟩
        else readRows [] (buf.getD 1 0).toNat buf 2
    match read with
    | .stopped listing => listing
    | .again printed offset rowCount =>
      let rest := parseUsersMessage (some offset) rowCount more
      {rest with printed:=printed ++ rest.printed}

variable {delimiters buf front skip behind token rest offset part body text line : List UInt8}
  {whole lines names : List (List UInt8)} {printed : List (List UInt8)} {segments more : List (List UInt8)}
  {start left : Nat}

def Plain (delimiters bytes : List UInt8) : Prop := ∀ byte ∈ bytes, byte ≠ 0 ∧ byte ∉ delimiters

theorem cString_cons {first : UInt8} (nonzero : first ≠ 0) : cString (first::rest) = first::cString rest :=
  List.takeWhile_cons_of_pos (by simpa using nonzero)

theorem strtokFrom_token {last : UInt8} (some_ : token ≠ []) (plain : Plain delimiters token)
    (ends : last = 0 ∨ last ∈ delimiters) :
    strtokFrom delimiters (front ++ (token ++ last::rest)) front.length =
      (some token,front ++ (token ++ 0::rest),front.length + token.length + if last = 0 then 0 else 1) := by
  have string : cString (token ++ last::rest) = token ++ cString (last::rest) :=
    cString_front (fun byte member => (plain byte member).1) _
  have lead : (cString (token ++ last::rest)).takeWhile (fun byte => decide (byte ∈ delimiters)) = [] := by
    rw [string]
    cases token with
    | nil => exact absurd rfl some_
    | cons first more =>
        rw [List.cons_append,List.takeWhile_cons_of_neg]
        simpa using (plain first List.mem_cons_self).2
  have stops : (cString (last::rest)).takeWhile (fun byte => decide (byte ∉ delimiters)) = [] := by
    rcases ends with rfl | listed
    · rfl
    · by_cases zero : last = 0
      · rw [zero]
        rfl
      · rw [cString_cons zero,List.takeWhile_cons_of_neg]
        simpa using listed
  have whole : (cString (token ++ last::rest)).takeWhile (fun byte => decide (byte ∉ delimiters)) = token := by
    rw [string,List.takeWhile_append_of_pos,stops,List.append_nil]
    intro byte member
    exact decide_eq_true (plain byte member).2
  have at_ : (front ++ (token ++ last::rest)).getD (front.length + token.length) 0 = last := by
    rw [← List.append_assoc,← List.length_append]
    simp
  unfold strtokFrom
  dsimp only
  rw [List.drop_left,lead,List.length_nil,Nat.add_zero,List.drop_left,whole,if_neg some_,at_]
  by_cases zero : last = 0
  · rw [if_pos zero,if_pos zero,zero]
    rfl
  · rw [if_neg zero,if_neg zero,← List.append_assoc,← List.length_append,List.set_append_right _ _ (Nat.le_refl _),
      Nat.sub_self,List.set_cons_zero,List.append_assoc]

theorem strtokFrom_none (delimiters front rest : List UInt8) :
    strtokFrom delimiters (front ++ 0::rest) front.length = (none,front ++ 0::rest,front.length) := by
  have empty : cString (0::rest) = [] := rfl
  unfold strtokFrom
  dsimp only
  rw [List.drop_left,empty,List.takeWhile_nil,List.length_nil,Nat.add_zero,List.drop_left,empty,List.takeWhile_nil,
    if_pos rfl]

theorem strtokFrom_lead {first : UInt8} (listed : first ∈ delimiters) (nonzero : first ≠ 0) :
    strtokFrom delimiters (first::rest) 0 = strtokFrom delimiters (first::rest) 1 := by
  have lead : (cString (first::rest)).takeWhile (fun byte => decide (byte ∈ delimiters)) =
      first::(cString rest).takeWhile (fun byte => decide (byte ∈ delimiters)) := by
    rw [cString_cons nonzero,List.takeWhile_cons_of_pos (by simpa using listed)]
  unfold strtokFrom
  dsimp only
  rw [List.drop_zero,lead,List.length_cons,List.drop_succ_cons,List.drop_zero,Nat.zero_add,Nat.add_comm 1]

theorem strtokFrom_rest (plain : ∀ byte ∈ part, byte ≠ 0) (front rest : List UInt8) :
    (strtokFrom [] (front ++ (part ++ 0::rest)) front.length).1.getD [] = part := by
  by_cases some_ : part = []
  · rw [some_,List.nil_append,strtokFrom_none]
    rfl
  · rw [strtokFrom_token some_ (fun byte member => ⟨plain byte member,List.not_mem_nil⟩) (.inl rfl)]
    rfl

theorem scanRows_skips (clear : newline ∉ skip) {save : Nat} {rowCount : Int} (some_ : 0 < rowCount) :
    scanRows (skip.length + left) ⟨front ++ (skip ++ rest),save,front.length,rowCount,printed⟩ =
      scanRows left ⟨front ++ (skip ++ rest),save,front.length + skip.length,rowCount,printed⟩ := by
  induction skip generalizing front with
  | nil => rw [List.length_nil,Nat.zero_add,Nat.add_zero]
  | cons byte skip ih =>
      rw [List.mem_cons,not_or] at clear
      have at_ : (front ++ (byte::skip ++ rest)).getD front.length 0 = byte := by simp
      have turn := @ih (front ++ [byte]) clear.2
      rw [List.length_append,List.length_singleton,List.append_assoc,List.singleton_append] at turn
      rw [List.length_cons,Nat.add_right_comm,scanRows]
      dsimp only
      rw [if_pos some_,at_,if_neg fun same => clear.1 same.symm]
      refine turn.trans ?_
      rw [Nat.add_assoc,Nat.add_comm 1]
      rfl

theorem scanRows_lines (named : ∀ line ∈ whole, line ≠ [] ∧ Plain [newline] line) (clear : newline ∉ skip)
    (open_' : newline ∉ behind) : ∃ s front',
      scanRows (skip ++ (whole.flatMap (· ++ [newline]) ++ behind)).length
        ⟨front ++ (skip ++ (whole.flatMap (· ++ [newline]) ++ behind)),front.length + skip.length,front.length,
          ((whole.length + left : Nat) : Int),printed⟩ = .ok s ∧
      s.rowCount = left ∧ s.printed = printed ++ whole ∧ s.buf = front' ++ behind ∧ s.save = front'.length := by
  induction whole generalizing front skip printed with
  | nil =>
      rw [List.flatMap_nil,List.nil_append,List.length_nil,Nat.zero_add,List.append_nil]
      cases left with
      | zero =>
          refine ⟨⟨front ++ (skip ++ behind),front.length + skip.length,front.length,((0 : Nat) : Int),printed⟩,
            front ++ skip,?_,rfl,rfl,(List.append_assoc _ _ _).symm,List.length_append.symm⟩
          cases (skip ++ behind).length with
          | zero => rfl
          | succ => rfl
      | succ left =>
          have quiet : newline ∉ skip ++ behind := by
            rw [List.mem_append,not_or]
            exact ⟨clear,open_'⟩
          have passed := @scanRows_skips front (skip ++ behind) [] printed 0 quiet (front.length + skip.length)
            ((left+1 : Nat) : Int) (by omega)
          rw [Nat.add_zero,List.append_nil] at passed
          exact ⟨_,front ++ skip,passed,rfl,rfl,(List.append_assoc _ _ _).symm,List.length_append.symm⟩
  | cons line whole ih =>
      obtain ⟨some_,plain⟩ := named line List.mem_cons_self
      have quiet : newline ∉ skip ++ line := by
        rw [List.mem_append,not_or]
        exact ⟨clear,fun member => (plain newline member).2 List.mem_cons_self⟩
      let after := whole.flatMap (· ++ [newline]) ++ behind
      have text : skip ++ ((line::whole).flatMap (· ++ [newline]) ++ behind) = (skip ++ line) ++ newline::after := by
        simp [after]
      have count : (((line::whole).length + left : Nat) : Int) - 1 = ((whole.length + left : Nat) : Int) := by
        rw [List.length_cons]
        omega
      have token := @strtokFrom_token [newline] (front ++ skip) line after newline some_ plain (.inr List.mem_cons_self)
      obtain ⟨s,front',ran,done,listed,buffer,saved⟩ := @ih (front ++ skip ++ line ++ [0]) [] (printed ++ [line])
        (fun other member => named other (List.mem_cons_of_mem _ member)) List.not_mem_nil
      refine ⟨s,front',?_,done,by rw [listed,List.append_assoc]; rfl,buffer,saved⟩
      have at_ : (front ++ ((skip ++ line) ++ newline::after)).getD (front.length + (skip ++ line).length) 0 = newline := by
        rw [← List.append_assoc,← List.length_append]
        simp
      have buffers : front ++ ((skip ++ line) ++ newline::after) = (front ++ skip) ++ (line ++ newline::after) := by
        simp only [List.append_assoc]
      rw [text,List.length_append,List.length_cons,scanRows_skips quiet (by rw [List.length_cons]; omega),scanRows]
      dsimp only
      rw [if_pos (by rw [List.length_cons]; omega),at_,if_pos rfl,buffers,← List.length_append,token,count]
      dsimp only
      rw [if_neg (by decide)]
      simpa [after,Nat.add_assoc] using ran

def firstRows (leading : Bool) (offset token : List UInt8) : List (List UInt8) :=
  if leading then [offset,token] else [offset ++ token]

theorem readRows_reads (offset : List UInt8) {leading : Bool} {rowCount : Int} (found : strtokFrom [newline] buf start =
      (some token,front ++ (whole.flatMap (· ++ [newline]) ++ (part ++ 0::rest)),front.length))
    (reach : start + token.length ≤ front.length) (clear : newline ∉ front.drop (start + token.length))
    (named : ∀ line ∈ whole, line ≠ [] ∧ Plain [newline] line) (broken : Plain [newline] part) (zeros : newline ∉ rest)
    (size : (front ++ (whole.flatMap (· ++ [newline]) ++ (part ++ 0::rest))).length = maxLen)
    (head : decide ((front ++ (whole.flatMap (· ++ [newline]) ++ (part ++ 0::rest))).getD 0 0 = newline) = leading)
    (count : (if leading then rowCount - 2 else rowCount - 1) = ((whole.length + left : Nat) : Int)) :
    readRows offset rowCount buf start =
      if left = 0 then .stopped ⟨firstRows leading offset token ++ whole,.returned 0x69⟩
      else .again (firstRows leading offset token ++ whole) part left := by
  have open_' : newline ∉ part ++ 0::rest := by
    rw [List.mem_append,List.mem_cons,not_or,not_or]
    exact ⟨fun member => (broken newline member).2 List.mem_cons_self,by decide,zeros⟩
  have cut : front.take (start + token.length) ++ front.drop (start + token.length) = front := List.take_append_drop _ _
  have taken : (front.take (start + token.length)).length = start + token.length := List.length_take_of_le reach
  obtain ⟨s,front',ran,done,listed,buffer,saved⟩ := @scanRows_lines (front.take (start + token.length))
    (front.drop (start + token.length)) (part ++ 0::rest) whole (firstRows leading offset token) left named clear open_'
  have upTo : start + token.length + (front.drop (start + token.length)).length = front.length := by
    rw [List.length_drop]
    omega
  have turns : (front.drop (start + token.length) ++ (whole.flatMap (· ++ [newline]) ++ (part ++ 0::rest))).length =
      maxLen - (start + token.length) := by
    rw [List.length_append] at size ⊢
    rw [List.length_drop]
    omega
  rw [← List.append_assoc (front.take _),cut,taken,upTo,turns,← count] at ran
  have left_ : (strtokFrom [] s.buf s.save).1.getD [] = part := by
    rw [buffer,saved]
    exact strtokFrom_rest (fun byte member => (broken byte member).1) front' rest
  unfold readRows
  rw [found]
  dsimp only
  rw [head]
  have ran : scanRows (maxLen - (start + token.length)) ⟨front ++ (whole.flatMap (· ++ [newline]) ++ (part ++ 0::rest)),
      front.length,start + token.length,if leading then rowCount - 2 else rowCount - 1,
      if leading then [offset,token] else [offset ++ token]⟩ = .ok s := ran
  rw [ran]
  dsimp only
  rw [done,left_,listed,if_neg (by omega)]
  by_cases none_ : left = 0
  · rw [if_neg (by omega),if_pos none_]
  · rw [if_pos (by omega),if_neg none_]

theorem scanRows_starts {s : RowScan} (turns : Nat) : ∃ more,
    match scanRows turns s with
    | .error rows => rows = s.printed ++ more
    | .ok after => after.printed = s.printed ++ more := by
  induction turns generalizing s with
  | zero => exact ⟨[],(List.append_nil _).symm⟩
  | succ turns ih =>
      unfold scanRows
      by_cases some_ : 0 < s.rowCount
      · rw [if_pos some_]
        by_cases ends : s.buf.getD s.pos 0 = newline
        · rw [if_pos ends]
          obtain ⟨token,buf,save⟩ := strtokFrom [newline] s.buf s.save
          cases token with
          | none => exact ⟨[],(List.append_nil _).symm⟩
          | some currentUser =>
              obtain ⟨more,starts⟩ := @ih ⟨buf,save,s.pos+1,s.rowCount - 1,s.printed ++ [currentUser]⟩
              refine ⟨currentUser::more,?_⟩
              rw [List.append_cons]
              exact starts
        · rw [if_neg ends]
          exact ih
      · rw [if_neg some_]
        exact ⟨[],(List.append_nil _).symm⟩

def RowsRead.rows : RowsRead → List (List UInt8)
  | .stopped listing => listing.printed
  | .again printed _ _ => printed

theorem strtokFrom_first (delimiters : List UInt8) (byte : UInt8) (rest : List UInt8) :
    ((strtokFrom delimiters (byte::rest) 0).2.1).getD 0 0 = byte := by
  unfold strtokFrom
  dsimp only
  split
  · rfl
  · rename_i some_
    have size := List.length_pos_iff.mpr some_
    split
    · rfl
    · rw [List.getD_eq_getElem?_getD,List.getElem?_set_ne (by omega)]
      rfl

theorem readRows_newline (offset : List UInt8) (rowCount : Int) (rest : List UInt8) :
    ∃ more, (readRows offset rowCount (newline::rest) 0).rows = offset::more := by
  have first := strtokFrom_first [newline] newline rest
  unfold readRows
  generalize strtokFrom [newline] (newline::rest) 0 = found at first ⊢
  obtain ⟨token,buf,save⟩ := found
  have leading : decide (buf.getD 0 0 = newline) = true := decide_eq_true first
  dsimp only
  rw [leading]
  cases token with
  | none => exact ⟨[],rfl⟩
  | some currentUser =>
      dsimp only
      obtain ⟨more,starts⟩ := @scanRows_starts ⟨buf,save,0 + currentUser.length,
        if true then rowCount - 2 else rowCount - 1,if true then [offset,currentUser] else [offset ++ currentUser]⟩
        (maxLen - (0 + currentUser.length))
      refine ⟨currentUser::more,?_⟩
      split
      · rename_i rows failed
        rw [failed] at starts
        exact starts
      · rename_i after passed
        rw [passed] at starts
        split
        · exact starts
        · split
          · exact starts
          · exact starts

def RowsRead.resume (more : List Recv) : RowsRead → Listing
  | .stopped listing => listing
  | .again printed offset rowCount =>
    let rest := parseUsersMessage (some offset) rowCount more
    {rest with printed:=printed ++ rest.printed}

theorem parse_resumes (offset : List UInt8) (rowCount : Int) (segment : List UInt8) (more : List Recv) :
    parseUsersMessage (some offset) rowCount (.data segment::more) =
      (readRows offset rowCount (responseBuf segment) 0).resume more := by
  rw [parseUsersMessage]
  dsimp only
  cases readRows offset rowCount (responseBuf segment) 0 with
  | stopped => rfl
  | again => rfl

theorem resume_starts {read : RowsRead} (starts : read.rows = line::lines) (more : List Recv) :
    ∃ rows, (read.resume more).printed = line::rows := by
  cases read with
  | stopped listing => exact ⟨lines,starts⟩
  | again printed offset rowCount =>
      refine ⟨lines ++ (parseUsersMessage (some offset) rowCount more).printed,?_⟩
      rw [← List.cons_append,← starts]
      rfl

theorem responseBuf_short (short : text.length < maxLen) : ∃ zeros, newline ∉ zeros ∧
    responseBuf text = text ++ 0::zeros ∧ (text ++ 0::zeros).length = maxLen := by
  refine ⟨List.replicate (maxLen - text.length - 1) 0,?_,?_,?_⟩
  · intro member
    exact absurd (List.eq_of_mem_replicate member) (by decide)
  · rw [responseBuf,List.take_of_length_le (by omega),← List.replicate_succ]
    congr 2
    omega
  · rw [List.length_append,List.length_cons,List.length_replicate]
    omega

def EndsLine (segment : List UInt8) : Prop := newline ∈ segment.dropWhile (· = newline)

-- The segments behind the first one: each ends a line that it holds some of, except that
-- the last name may come without its newline, alone or behind the newline before it.
inductive Readable : List (List UInt8) → Prop where
  | done : Readable []
  | line (segment : List UInt8) (later : List (List UInt8)) : EndsLine segment → Readable later →
      Readable (segment::later)
  | last (segment : List UInt8) : ¬EndsLine segment → segment ≠ [newline] → Readable [segment,[newline]]

def Named (names : List (List UInt8)) : Prop := ∀ name ∈ names, name ≠ [] ∧ Plain [newline] name

def Resumes (offset : List UInt8) (names segments : List (List UInt8)) : Prop :=
  parseUsersMessage (some offset) names.length (segments.map .data) = ⟨names,.returned 0x69⟩

theorem named_clear (named : Named names) : ∀ name ∈ names, newline ∉ name :=
  fun name member inside => ((named name member).2 newline inside).2 List.mem_cons_self

theorem text_nonzero (named : Named names) : ∀ byte ∈ names.flatMap (· ++ [newline]), byte ≠ 0 := by
  intro byte member
  obtain ⟨name,listed,inside⟩ := List.mem_flatMap.mp member
  rcases List.mem_append.mp inside with within | ends
  · exact ((named name listed).2 byte within).1
  · rw [List.mem_singleton.mp ends]
    decide

theorem plain_part (clear : newline ∉ part) (string : ∀ byte ∈ part, byte ≠ 0) : Plain [newline] part :=
  fun byte member => ⟨string byte member,fun same => clear (List.mem_singleton.mp same ▸ member)⟩

theorem flatten_newline (some_ : ∀ segment ∈ more, segment ≠ []) : more.flatten = [newline] ↔ more = [[newline]] := by
  constructor
  · intro same
    cases more with
    | nil => cases same
    | cons segment more =>
        cases segment with
        | nil => exact absurd rfl (some_ [] List.mem_cons_self)
        | cons byte tail =>
            obtain ⟨rfl,rest_⟩ := List.cons.inj same
            obtain ⟨rfl,empty⟩ := List.append_eq_nil_iff.mp rest_
            cases more with
            | nil => rfl
            | cons other more =>
                rw [List.flatten_cons] at empty
                exact absurd (List.append_eq_nil_iff.mp empty).1 (some_ other (by simp))
  · rintro rfl
    rfl

theorem flatten_nil (some_ : ∀ segment ∈ more, segment ≠ []) (empty : more.flatten = []) : more = [] := by
  cases more with
  | nil => rfl
  | cons segment more =>
      rw [List.flatten_cons] at empty
      exact absurd (List.append_eq_nil_iff.mp empty).1 (some_ segment List.mem_cons_self)

theorem line_part (clear : newline ∉ front) (same : front ++ rest = line ++ newline::behind) :
    ∃ left, line = front ++ left ∧ rest = left ++ newline::behind := by
  rcases List.append_eq_append_iff.mp same with ⟨left,split,tail⟩ | ⟨left,split,tail⟩
  · exact ⟨left,split,tail⟩
  · cases left with
    | nil =>
        rw [List.append_nil] at split
        exact ⟨[],by rw [split,List.append_nil],tail.symm⟩
    | cons byte left =>
        obtain ⟨rfl,_⟩ := List.cons.inj tail
        exact absurd (by rw [split]; simp) clear

theorem line_begins (clear : newline ∉ line) (some_ : line ≠ []) (nonempty : body ≠ [])
    (same : body ++ rest = line ++ newline::behind) : body.head? ≠ some newline := by
  cases body with
  | nil => exact absurd rfl nonempty
  | cons byte tail =>
      cases line with
      | nil => exact absurd rfl some_
      | cons first line =>
          obtain ⟨rfl,_⟩ := List.cons.inj same
          intro ends
          exact clear (Option.some.inj ends ▸ List.mem_cons_self)

theorem front_head {byte : UInt8} (differs : byte ≠ newline) (nonempty : token ≠ []) (front : token <+: byte::part) :
    (token ++ rest).getD 0 0 ≠ newline := by
  cases token with
  | nil => exact absurd rfl nonempty
  | cons first token =>
      obtain ⟨behind,same⟩ := front
      obtain ⟨rfl,_⟩ := List.cons.inj same
      exact differs

-- Behind the last byte of a name the client takes the newline for the end of an empty one.
theorem newline_misread (named : Named names) (some_ : ∀ segment ∈ more, segment ≠ [])
    (bounded : more.flatten.length < maxLen) (text : more.flatten = newline::rest) :
    ¬Resumes [] names more := by
  intro resumes
  cases more with
  | nil => cases text
  | cons segment more =>
      cases segment with
      | nil => exact absurd rfl (some_ [] List.mem_cons_self)
      | cons byte tail =>
          obtain ⟨rfl,_⟩ := List.cons.inj text
          have short : (newline::tail).length < maxLen := by
            rw [List.flatten_cons,List.length_append] at bounded
            omega
          obtain ⟨zeros,_,stored,_⟩ := responseBuf_short short
          obtain ⟨rows,starts⟩ := readRows_newline [] names.length (tail ++ 0::zeros)
          have resumed := parse_resumes [] names.length (newline::tail) (more.map .data)
          rw [stored,List.cons_append] at resumed
          obtain ⟨lines,printed⟩ := resume_starts starts (more.map .data)
          rw [← resumed] at printed
          have same : names = []::lines := (congrArg Listing.printed resumes).symm.trans printed
          exact absurd rfl (named [] (by rw [same]; exact List.mem_cons_self)).1

theorem scan_clear (near_ : front.length ≤ start) (clean : newline ∉ rest) :
    newline ∉ (front ++ rest).drop start := by
  rw [List.drop_append,List.drop_eq_nil_of_le near_,List.nil_append]
  exact fun member => clean (List.mem_of_mem_drop member)

-- A segment with its first token still to be cut. `first` are the names printed before it,
-- `offset'` is what its own name began with, and `name` and `names` are what is still to come.
structure FirstToken (segment front body offset offset' : List UInt8) (start : Nat) (first : List (List UInt8))
    (leading : Bool) (rowCount : Int) (name : List UInt8) (names more : List (List UInt8)) : Prop where
  split : segment = front ++ body
  begins : body.head? ≠ some newline
  nonempty : body ≠ []
  same : strtokFrom [newline] (responseBuf segment) start = strtokFrom [newline] (responseBuf segment) front.length
  near_ : start ≤ front.length ∧ front.length ≤ start + 1
  rowsOf : ∀ token, firstRows leading offset token = first ++ [offset' ++ token]
  head : ∀ token rest, token ≠ [] → token <+: body →
    decide ((front ++ (token ++ rest)).getD 0 0 = newline) = leading
  count : (if leading then rowCount - 2 else rowCount - 1) = (names.length : Int)
  named : Named (name::names)
  some_ : ∀ segment ∈ more, segment ≠ []
  bounded : segment.length + more.flatten.length < maxLen
  text : offset' ++ (body ++ more.flatten) = (name::names).flatMap (· ++ [newline])
  clear : newline ∉ offset'

section
variable {segment name offset' : List UInt8} {first : List (List UInt8)} {leading : Bool} {rowCount : Int}

theorem token_line (call : FirstToken segment front body offset offset' start first leading rowCount name names more)
    (ends : newline ∈ body)
    (ih : ∀ part name' names', Named (name'::names') → newline ∉ part →
      part ++ more.flatten = (name'::names').flatMap (· ++ [newline]) →
      (Resumes part (name'::names') more ↔ Readable more)) :
    (readRows offset rowCount (responseBuf segment) start).resume (more.map .data) =
      ⟨first ++ name::names,.returned 0x69⟩ ↔ Readable more := by
  obtain ⟨split,begins,_,same,near_,rowsOf,head,count,named,some_,bounded,text,clear⟩ := call
  obtain ⟨zeros,quiet,stored,size⟩ := responseBuf_short (Nat.lt_of_le_of_lt (Nat.le_add_right _ _) bounded)
  have namedRest : Named names := fun other member => named other (List.mem_cons_of_mem _ member)
  have nonzero := text_nonzero named
  rw [← text] at nonzero
  rw [List.flatMap_cons,List.append_assoc] at text
  obtain ⟨token,behind,cut,clean⟩ := List.eq_append_cons_of_mem ends
  have some_' : token ≠ [] := by
    rintro rfl
    exact begins (by rw [cut]; rfl)
  rw [cut] at text nonzero
  have lines : (offset' ++ token) ++ newline::(behind ++ more.flatten) =
      name ++ newline::names.flatMap (· ++ [newline]) := by simpa using text
  have apart : newline ∉ offset' ++ token := by
    rw [List.mem_append,not_or]
    exact ⟨clear,clean⟩
  obtain ⟨whole_,rest_⟩ := line_inj apart (named_clear named name List.mem_cons_self) lines
  obtain ⟨whole,left,part,rfl,rfl,broken,remains⟩ := Lines.cut_lines (named_clear namedRest) rest_
  have plainToken : Plain [newline] token := plain_part clean fun byte member => nonzero byte (by simp [member])
  have plainPart : Plain [newline] part := plain_part broken fun byte member => nonzero byte (by simp [member])
  have size_ := List.length_pos_iff.mpr some_'
  have buffer : responseBuf segment =
      front ++ (token ++ newline::(whole.flatMap (· ++ [newline]) ++ (part ++ 0::zeros))) := by
    rw [stored,split,cut]
    simp
  have found := @strtokFrom_token [newline] front token (whole.flatMap (· ++ [newline]) ++ (part ++ 0::zeros)) newline
    some_' plainToken (.inr List.mem_cons_self)
  rw [← buffer,← same,if_neg (by decide)] at found
  have shape : front ++ (token ++ 0::(whole.flatMap (· ++ [newline]) ++ (part ++ 0::zeros))) =
      (front ++ (token ++ [0])) ++ (whole.flatMap (· ++ [newline]) ++ (part ++ 0::zeros)) := by simp
  have reach : (front ++ (token ++ [0])).length = front.length + token.length + 1 := by simp; omega
  have total : ((front ++ (token ++ [0])) ++ (whole.flatMap (· ++ [newline]) ++ (part ++ 0::zeros))).length = maxLen := by
    rw [← size,split,cut]
    simp
  rw [shape,← reach] at found
  rw [List.length_append] at count
  have cleared : newline ∉ token ++ [0] := by
    rw [List.mem_append,not_or]
    exact ⟨clean,by decide⟩
  have reads := readRows_reads offset found (by omega) (scan_clear (by omega) cleared)
    (fun line member => namedRest line (List.mem_append_left _ member)) plainPart quiet total
    (by rw [← shape]; exact head token _ some_' ⟨_,cut.symm⟩) count
  rw [reads,rowsOf,whole_]
  cases left with
  | nil =>
      have none_ := flatten_nil some_ (List.append_eq_nil_iff.mp remains).2
      subst none_
      refine iff_of_true ?_ .done
      rw [List.length_nil,if_pos rfl,List.append_nil,List.append_assoc]
      rfl
  | cons name' names' =>
      have known := ih part name' names' (fun other member => namedRest other (List.mem_append_right _ member)) broken remains
      rw [List.length_cons,if_neg (by omega),← known]
      constructor
      · intro resumed
        have printed := congrArg Listing.printed resumed
        have ended := congrArg Listing.ended resumed
        have parts : (parseUsersMessage (some part) ((names'.length+1 : Nat) : Int) (more.map .data)).printed =
            name'::names' := by
          have whole_ : (first ++ [name] ++ whole) ++ (parseUsersMessage (some part) ((names'.length+1 : Nat) : Int)
              (more.map .data)).printed = (first ++ [name] ++ whole) ++ name'::names' := by
            simpa [RowsRead.resume] using printed
          exact List.append_cancel_left whole_
        exact Listing.ext parts ended
      · intro resumes
        have resumes : parseUsersMessage (some part) ((names'.length+1 : Nat) : Int) (more.map .data) = _ := resumes
        rw [RowsRead.resume,resumes]
        simp

-- A token that the end of its segment cuts off is taken for a whole name.
theorem token_cut (call : FirstToken segment front body offset offset' start first leading rowCount name names more)
    (open_ : newline ∉ body) :
    (readRows offset rowCount (responseBuf segment) start).resume (more.map .data) =
      ⟨first ++ name::names,.returned 0x69⟩ ↔ more = [[newline]] := by
  obtain ⟨split,_,nonempty,same,near_,rowsOf,head,count,named,some_,bounded,text,clear⟩ := call
  obtain ⟨zeros,quiet,stored,size⟩ := responseBuf_short (Nat.lt_of_le_of_lt (Nat.le_add_right _ _) bounded)
  have namedRest : Named names := fun other member => named other (List.mem_cons_of_mem _ member)
  have nonzero := text_nonzero named
  rw [← text] at nonzero
  rw [List.flatMap_cons,List.append_assoc] at text
  have apart : newline ∉ offset' ++ body := by
    rw [List.mem_append,not_or]
    exact ⟨clear,open_⟩
  have lines : (offset' ++ body) ++ more.flatten = name ++ newline::names.flatMap (· ++ [newline]) := by
    rw [List.append_assoc]
    exact text
  obtain ⟨missing,parts,flat⟩ := line_part apart lines
  have plainBody : Plain [newline] body := plain_part open_ fun byte member => nonzero byte (by simp [member])
  have size_ := List.length_pos_iff.mpr nonempty
  have buffer : responseBuf segment = front ++ (body ++ 0::zeros) := by
    rw [stored,split,List.append_assoc]
  have found := @strtokFrom_token [newline] front body zeros 0 nonempty plainBody (.inl rfl)
  rw [← buffer,← same,if_pos rfl,Nat.add_zero,← List.length_append] at found
  let none_ : List (List UInt8) := []
  have shape : responseBuf segment = (front ++ body) ++ (none_.flatMap (· ++ [newline]) ++ ([] ++ 0::zeros)) := by
    rw [buffer,← List.append_assoc]
    rfl
  have total : ((front ++ body) ++ (none_.flatMap (· ++ [newline]) ++ ([] ++ 0::zeros))).length = maxLen := by
    rw [← shape,stored]
    exact size
  have heads : decide (((front ++ body) ++ (none_.flatMap (· ++ [newline]) ++ ([] ++ 0::zeros))).getD 0 0 = newline) =
      leading := by
    rw [List.append_assoc]
    exact head body _ nonempty (List.prefix_refl _)
  have counted : (if leading then rowCount - 2 else rowCount - 1) = ((none_.length + names.length : Nat) : Int) := by
    rw [count,List.length_nil,Nat.zero_add]
  have found : strtokFrom [newline] (responseBuf segment) start = (some body,
      (front ++ body) ++ (none_.flatMap (· ++ [newline]) ++ ([] ++ 0::zeros)),(front ++ body).length) := by
    rw [← shape]
    exact found
  have reads := readRows_reads offset found (by rw [List.length_append]; omega) (scan_clear (by omega) open_)
    (fun line member => absurd member List.not_mem_nil) (fun byte member => absurd member List.not_mem_nil) quiet
    total heads counted
  rw [reads,rowsOf,List.append_nil]
  -- The name is complete only when the newline is all that is missing of its line.
  have complete : offset' ++ body = name ↔ missing = [] := by
    rw [parts]
    constructor
    · intro same
      exact List.append_cancel_left (same.symm.trans (List.append_nil _).symm)
    · intro none_
      rw [none_,List.append_nil]
  cases names with
  | nil =>
      rw [List.length_nil,if_pos rfl,← flatten_newline some_,flat]
      constructor
      · intro stopped
        have printed : first ++ [offset' ++ body] = first ++ [name] := congrArg Listing.printed stopped
        rw [complete.mp (List.cons.inj (List.append_cancel_left printed)).1]
        rfl
      · intro ends_
        have none_ : missing = [] := List.append_cancel_right (ends_.trans (List.nil_append _).symm)
        rw [complete.mpr none_]
        rfl
  | cons name' names' =>
      rw [List.length_cons,if_neg (by omega)]
      refine iff_of_false ?_ ?_
      · intro resumed
        have printed := congrArg Listing.printed resumed
        have ended := congrArg Listing.ended resumed
        have rows : (offset' ++ body)::(parseUsersMessage (some []) ((names'.length+1 : Nat) : Int)
            (more.map .data)).printed = name::name'::names' := by
          refine List.append_cancel_left (?_ : first ++ _ = first ++ _)
          simpa [RowsRead.resume] using printed
        obtain ⟨named_,rest_⟩ := List.cons.inj rows
        have resumes : Resumes [] (name'::names') more := Listing.ext rest_ ended
        rw [complete.mp named_,List.nil_append] at flat
        exact newline_misread namedRest some_ (by omega) flat resumes
      · intro last
        rw [last] at flat
        have sizes := congrArg List.length flat
        simp at sizes
        omega

theorem token_exact (call : FirstToken segment front body offset offset' start first leading rowCount name names more)
    (ih : ∀ part name' names', Named (name'::names') → newline ∉ part →
      part ++ more.flatten = (name'::names').flatMap (· ++ [newline]) →
      (Resumes part (name'::names') more ↔ Readable more)) :
    (readRows offset rowCount (responseBuf segment) start).resume (more.map .data) =
      ⟨first ++ name::names,.returned 0x69⟩ ↔
      (newline ∈ body ∧ Readable more) ∨ (newline ∉ body ∧ more = [[newline]]) := by
  by_cases ends : newline ∈ body
  · rw [or_iff_left (fun other => other.1 ends),and_iff_right ends]
    exact token_line call ends ih
  · rw [or_iff_right (fun other => ends other.1),and_iff_right ends]
    exact token_cut call ends

end

theorem readable_cons {segment : List UInt8} : Readable (segment::more) ↔
    (EndsLine segment ∧ Readable more) ∨ (¬EndsLine segment ∧ segment ≠ [newline] ∧ more = [[newline]]) := by
  constructor
  · intro readable
    cases readable with
    | line _ _ ends later => exact .inl ⟨ends,later⟩
    | last _ misses other => exact .inr ⟨misses,other,rfl⟩
  · rintro (⟨ends,later⟩ | ⟨misses,other,rfl⟩)
    · exact .line _ _ ends later
    · exact .last _ misses other

theorem endsLine_body (begins : body.head? ≠ some newline) : EndsLine body ↔ newline ∈ body := by
  cases body with
  | nil => rfl
  | cons byte tail =>
      have other : byte ≠ newline := fun same => begins (congrArg some same)
      rw [EndsLine,List.dropWhile_cons_of_neg (by simpa using other)]

theorem endsLine_lead : EndsLine (newline::body) ↔ EndsLine body := by
  rw [EndsLine,List.dropWhile_cons_of_pos (by simp)]
  rfl

theorem newline_alone (offset : List UInt8) (rowCount : Int) (segments : List Recv) :
    (parseUsersMessage (some offset) rowCount (.data [newline]::segments)).ended = .nullToken := by
  obtain ⟨zeros,_,stored,_⟩ := @responseBuf_short [newline] (by decide)
  have token : strtokFrom [newline] (newline::0::zeros) 0 = (none,newline::0::zeros,1) :=
    (strtokFrom_lead List.mem_cons_self (by decide)).trans (strtokFrom_none [newline] [newline] zeros)
  have reads : readRows offset rowCount (newline::0::zeros) 0 = .stopped ⟨[offset],.nullToken⟩ := by
    rw [readRows,token]
    rfl
  rw [parse_resumes,stored,List.singleton_append,reads]
  rfl

theorem rows_exact (some_ : ∀ segment ∈ segments, segment ≠ []) (bounded : segments.flatten.length < maxLen)
    {name : List UInt8} (named : Named (name::names)) (clear : newline ∉ offset)
    (text : offset ++ segments.flatten = (name::names).flatMap (· ++ [newline])) :
    Resumes offset (name::names) segments ↔ Readable segments := by
  induction segments generalizing offset name names with
  | nil =>
      rw [List.flatten_nil,List.append_nil] at text
      exact absurd (by rw [text]; simp) clear
  | cons segment more ih =>
      have others : ∀ segment ∈ more, segment ≠ [] := fun other member => some_ other (List.mem_cons_of_mem _ member)
      have size : segment.length + more.flatten.length < maxLen := by
        rw [List.flatten_cons,List.length_append] at bounded
        exact bounded
      rw [List.flatten_cons] at text
      have later : ∀ part name' names', Named (name'::names') → newline ∉ part →
          part ++ more.flatten = (name'::names').flatMap (· ++ [newline]) →
          (Resumes part (name'::names') more ↔ Readable more) :=
        fun part name' names' named' clear' text' => ih others (by omega) named' clear' text'
      cases segment with
      | nil => exact absurd rfl (some_ [] List.mem_cons_self)
      | cons byte tail =>
          by_cases leads : byte = newline
          · subst leads
            have lines : offset ++ newline::(tail ++ more.flatten) = name ++ newline::names.flatMap (· ++ [newline]) := by
              simpa using text
            obtain ⟨rfl,rest_⟩ := line_inj clear (named_clear named name List.mem_cons_self) lines
            rw [readable_cons,endsLine_lead]
            cases tail with
            | nil =>
                refine iff_of_false ?_ ?_
                · intro resumes
                  have ended := newline_alone offset ((offset::names).length : Int) (more.map .data)
                  have clash : ListingEnd.returned 0x69 = .nullToken := (congrArg Listing.ended resumes).symm.trans ended
                  cases clash
                · rintro (⟨ends,_⟩ | ⟨_,other,_⟩)
                  · cases ends
                  · exact other rfl
            | cons byte' tail =>
                cases names with
                | nil => cases rest_
                | cons name names =>
                    have namedRest : Named (name::names) := fun other member => named other (List.mem_cons_of_mem _ member)
                    have lines : (byte'::tail) ++ more.flatten = name ++ newline::names.flatMap (· ++ [newline]) := by
                      simpa using rest_
                    have begins := line_begins (named_clear namedRest name List.mem_cons_self)
                      (namedRest name List.mem_cons_self).1 (List.cons_ne_nil byte' tail) lines
                    have counted : (if true then (((offset::name::names).length : Nat) : Int) - 2
                        else (((offset::name::names).length : Nat) : Int) - 1) = (names.length : Int) := by
                      rw [List.length_cons,List.length_cons]
                      simp
                      omega
                    obtain ⟨zeros,_,stored,_⟩ := responseBuf_short (Nat.lt_of_le_of_lt (Nat.le_add_right _ _) size)
                    have skipped : strtokFrom [newline] (responseBuf (newline::byte'::tail)) 0 =
                        strtokFrom [newline] (responseBuf (newline::byte'::tail)) 1 := by
                      rw [stored]
                      exact strtokFrom_lead List.mem_cons_self (by decide)
                    have call : FirstToken (newline::byte'::tail) [newline] (byte'::tail) offset [] 0 [offset] true
                        ((offset::name::names).length : Int) name names more :=
                      ⟨rfl,begins,List.cons_ne_nil _ _,skipped,⟨Nat.zero_le _,Nat.le_refl _⟩,fun token => rfl,
                        fun token rest _ _ => decide_eq_true rfl,counted,namedRest,others,size,rest_,List.not_mem_nil⟩
                    have known := token_exact call later
                    rw [endsLine_body begins,Resumes,List.map_cons,parse_resumes]
                    refine known.trans ?_
                    have other : newline::byte'::tail ≠ [newline] := fun same => by cases same
                    rw [and_iff_right other]
          · have begins : (byte::tail).head? ≠ some newline := fun same => leads (Option.some.inj same)
            have headed : ∀ token rest, token ≠ [] → token <+: byte::tail →
                decide (([] ++ (token ++ rest)).getD 0 0 = newline) = false := by
              intro token rest some_' part
              exact decide_eq_false (@front_head token rest tail byte leads some_' part)
            have counted : (if false then ((name::names).length : Int) - 2 else ((name::names).length : Int) - 1) =
                (names.length : Int) := by
              rw [List.length_cons]
              simp
            have call : FirstToken (byte::tail) [] (byte::tail) offset offset 0 [] false
                ((name::names).length : Int) name names more :=
              ⟨rfl,begins,List.cons_ne_nil _ _,rfl,⟨Nat.le_refl _,Nat.zero_le _⟩,fun token => rfl,headed,counted,named,
                others,size,text,clear⟩
            have known := token_exact call later
            rw [readable_cons,endsLine_body begins,Resumes,List.map_cons,parse_resumes]
            refine known.trans ?_
            have other : byte::tail ≠ [newline] := fun same => leads (List.cons.inj same).1
            rw [and_iff_right other]

theorem line_reached (clear : newline ∉ line) (same : front ++ rest = line ++ newline::behind) :
    newline ∈ front ↔ line.length < front.length := by
  constructor
  · intro ends
    obtain ⟨token,tail,cut,clean⟩ := List.eq_append_cons_of_mem ends
    rw [cut,List.append_assoc] at same
    obtain ⟨rfl,_⟩ := line_inj clean clear same
    rw [cut,List.length_append,List.length_cons]
    omega
  · intro longer
    by_contra none_
    obtain ⟨left,split,_⟩ := line_part none_ same
    rw [split,List.length_append] at longer
    omega

theorem parse_first {count : UInt8} (rowCount : Int) (body : List UInt8) (more : List Recv)
    (short : (0x31::count::body).length < maxLen) :
    parseUsersMessage none rowCount (.data (0x31::count::body)::more) =
      if count = 1 then ⟨[noUsersYet],.returned 0x69⟩
      else (readRows [] count.toNat (responseBuf (0x31::count::body)) 2).resume more := by
  obtain ⟨zeros,_,stored,_⟩ := responseBuf_short short
  have status : (responseBuf (0x31::count::body)).getD 0 0 = 0x31 := by rw [stored]; rfl
  have counted : (responseBuf (0x31::count::body)).getD 1 0 = count := by rw [stored]; rfl
  rw [parseUsersMessage]
  dsimp only
  rw [status,counted,if_neg (by decide)]
  by_cases one : count = 1
  · rw [if_pos one,if_pos one]
  · rw [if_neg one,if_neg one]
    cases readRows [] count.toNat (responseBuf (0x31::count::body)) 2 with
    | stopped => rfl
    | again => rfl

theorem readRows_missing {first second : UInt8} (other : first ≠ newline) (offset : List UInt8) (rowCount : Int) :
    readRows offset rowCount (first::second::0::rest) 2 = .stopped ⟨[],.nullToken⟩ := by
  have token : strtokFrom [newline] (first::second::0::rest) 2 = (none,first::second::0::rest,2) :=
    strtokFrom_none [newline] [first,second] rest
  have leading : decide ((first::second::0::rest).getD 0 0 = newline) = false := decide_eq_false other
  rw [readRows,token]
  dsimp only
  rw [leading]
  rfl

def headerLine : List UInt8 := ascii "Socks users: "

def userNames (g : Globals) : List (List UInt8) := g.users.users.map User.name

theorem answer_text {g : Globals} {malloc : Bool} {parser : CpCommandParser} {answer : List UInt8}
    (gave : (getSocksUsers malloc g parser).1 = some answer) (named : Named (userNames g))
    (counted : UInt8.ofNat (g.users.users.length+1) ≠ 0) (behind : List UInt8) : cString (answer ++ behind) =
      0x31::UInt8.ofNat (g.users.users.length+1)::(headerLine::userNames g).flatMap (· ++ [newline]) := by
  cases gave
  have header : socksUHeader = headerLine ++ [newline] := by decide
  have names : (g.users.users.flatMap fun user => cString user.name ++ [newline]) =
      (userNames g).flatMap (· ++ [newline]) := by
    rw [userNames,List.flatMap_map]
    refine List.flatMap_congr ?_
    intro user member
    have plain := (named user.name (List.mem_map_of_mem member)).2
    rw [cString_string fun zero => (plain 0 zero).1 rfl]
  have string : ∀ byte ∈ 0x31::UInt8.ofNat (g.users.users.length+1)::(headerLine::userNames g).flatMap (· ++ [newline]),
      byte ≠ 0 := by
    intro byte member
    rcases List.mem_cons.mp member with rfl | member
    · decide
    rcases List.mem_cons.mp member with rfl | member
    · exact counted
    rw [List.flatMap_cons] at member
    rcases List.mem_append.mp member with first | later
    · exact (by decide +kernel : ∀ byte ∈ headerLine ++ [newline], byte ≠ 0) byte first
    · exact text_nonzero named byte later
  have whole := cString_whole string behind
  rw [names,header,← whole]
  simp

def CutsWell : List (List UInt8) → Prop
  | [] => False
  | first::later => 2 + socksUHeader.length ≤ first.length ∧ Readable later

def listed (g : Globals) : Listing := ⟨headerLine::userNames g,.returned 0x69⟩

theorem header_named : Named [headerLine] := by
  intro name member
  rw [List.mem_singleton.mp member]
  exact ⟨by decide,(by decide +kernel : ∀ byte ∈ headerLine, byte ≠ 0 ∧ byte ∉ [newline])⟩

theorem first_exact {count : UInt8} (rowCount : Int) (some_ : ∀ segment ∈ more, segment ≠ [])
    (bounded : (0x31::count::body).length + more.flatten.length < maxLen) (nonempty : body ≠ [])
    (named : Named names) (text : body ++ more.flatten = (headerLine::names).flatMap (· ++ [newline]))
    (counted : count.toNat = names.length+1) (users : names ≠ []) :
    parseUsersMessage none rowCount (((0x31::count::body)::more).map .data) = ⟨headerLine::names,.returned 0x69⟩ ↔
      2 + socksUHeader.length ≤ (0x31::count::body).length ∧ Readable more := by
  have all : Named (headerLine::names) := by
    intro name member
    rcases List.mem_cons.mp member with rfl | later
    · exact header_named _ List.mem_cons_self
    · exact named name later
  have clear : newline ∉ headerLine := by decide
  have lines : body ++ more.flatten = headerLine ++ newline::names.flatMap (· ++ [newline]) := by simpa using text
  have begins := line_begins clear (by decide) nonempty lines
  have one : count ≠ 1 := by
    rintro rfl
    exact users (List.length_eq_zero_iff.mp (Nat.succ.inj counted).symm)
  have rows : (if false then (count.toNat : Int) - 2 else (count.toNat : Int) - 1) = (names.length : Int) := by
    rw [counted]
    simp
  have call : FirstToken (0x31::count::body) [0x31,count] body [] [] 2 [] false (count.toNat : Int) headerLine names more :=
    ⟨rfl,begins,nonempty,rfl,⟨Nat.le_refl _,Nat.le_succ _⟩,fun token => rfl,fun token rest _ _ => rfl,rows,all,some_,
      bounded,text,List.not_mem_nil⟩
  have known := token_exact call fun part name names' named' clear' text' =>
    rows_exact some_ (by omega) named' clear' text'
  rw [List.map_cons,parse_first rowCount body (more.map .data) (by omega),if_neg one]
  refine known.trans ?_
  rw [line_reached clear lines]
  have size : socksUHeader.length = headerLine.length + 1 := by decide
  constructor
  · rintro (⟨longer,readable⟩ | ⟨short,last⟩)
    · refine ⟨?_,readable⟩
      rw [List.length_cons,List.length_cons]
      omega
    · -- The header is not the last line.
      have sizes := congrArg List.length lines
      rw [last] at sizes
      cases names with
      | nil => exact absurd rfl users
      | cons name names =>
          simp at sizes short
          omega
  · rintro ⟨longer,readable⟩
    refine .inl ⟨?_,readable⟩
    rw [List.length_cons,List.length_cons] at longer
    omega

theorem head_missing {count : UInt8} (some_ : count ≠ 1) (rowCount : Int) (more : List Recv) :
    (parseUsersMessage none rowCount (.data [0x31,count]::more)).ended = .nullToken := by
  have short : [0x31,count].length < maxLen := by
    rw [maxLen]
    simp
  obtain ⟨zeros,_,stored,_⟩ := responseBuf_short short
  rw [parse_first rowCount [] more short,if_neg some_,stored]
  have missing := @readRows_missing zeros 0x31 count (by decide) [] count.toNat
  rw [List.cons_append,List.singleton_append,missing]
  rfl

theorem head_unread {count : UInt8} (some_ : count ≠ 1) (rowCount : Int) (more : List Recv) :
    parseUsersMessage none rowCount (.data [0x31,count]::more) ≠ ⟨lines,.returned 0x69⟩ := by
  intro same
  have ended := head_missing some_ rowCount more
  rw [same] at ended
  cases ended

-- The array is cleared, so half a head reads like a head that counts nothing.
theorem head_cut (rowCount : Int) (more : List Recv) :
    parseUsersMessage none rowCount (.data [0x31]::more) = parseUsersMessage none rowCount (.data [0x31,0]::more) := by
  have same : responseBuf [0x31] = responseBuf [0x31,0] := by
    rw [responseBuf,responseBuf,List.length_singleton,maxLen,List.take_of_length_le (by simp),
      List.take_of_length_le (by simp),List.replicate_succ]
    rfl
  rw [parseUsersMessage,parseUsersMessage,same]

-- The count of an empty table is answered without its header.
theorem empty_unread (rowCount : Int) (more : List Recv) (short : (0x31::1::body).length < maxLen) :
    parseUsersMessage none rowCount (.data (0x31::1::body)::more) ≠ ⟨headerLine::lines,.returned 0x69⟩ := by
  intro same
  rw [parse_first rowCount body more short,if_pos rfl] at same
  exact absurd (List.cons.inj (congrArg Listing.printed same)).1 (by decide)

theorem whole_header {segment : List UInt8} (short : segment.length ≤ 2) :
    ¬2 + socksUHeader.length ≤ segment.length := by
  have size : socksUHeader.length = 14 := by decide
  omega

theorem cut_exact {count : UInt8} (rowCount : Int) (some_ : ∀ segment ∈ segments, segment ≠ [])
    (bounded : segments.flatten.length < maxLen) (named : Named names) (counted : count.toNat = names.length+1)
    (cut : segments.flatten = 0x31::count::(headerLine::names).flatMap (· ++ [newline])) :
    parseUsersMessage none rowCount (segments.map .data) = ⟨headerLine::names,.returned 0x69⟩ ↔
      names ≠ [] ∧ CutsWell segments := by
  cases segments with
  | nil => cases cut
  | cons first later =>
      have others : ∀ segment ∈ later, segment ≠ [] := fun other member => some_ other (List.mem_cons_of_mem _ member)
      rw [List.flatten_cons] at cut
      rw [List.flatten_cons,List.length_append] at bounded
      cases first with
      | nil => exact absurd rfl (some_ [] List.mem_cons_self)
      | cons status first =>
          obtain ⟨status_,cut⟩ := List.cons.inj cut
          rw [status_,List.map_cons]
          cases first with
          | nil =>
              rw [head_cut]
              refine iff_of_false (head_unread (by decide) rowCount _) ?_
              rintro ⟨_,whole,_⟩
              exact whole_header (Nat.le_succ _) whole
          | cons count' body =>
              obtain ⟨count_,text⟩ := List.cons.inj cut
              rw [count_]
              by_cases users : names = []
              · have one : count = 1 := by
                  rw [users] at counted
                  exact UInt8.toNat_inj.mp counted
                have short : (0x31::1::body).length < maxLen := Nat.lt_of_le_of_lt (Nat.le_add_right _ _) bounded
                rw [one]
                exact iff_of_false (empty_unread rowCount _ short) (fun other => other.1 users)
              · have some_' : count ≠ 1 := by
                  rintro rfl
                  exact users (List.length_eq_zero_iff.mp (Nat.succ.inj counted).symm)
                rw [and_iff_right users]
                cases body with
                | nil => exact iff_of_false (head_unread some_' rowCount _) fun other => whole_header (Nat.le_refl _) other.1
                | cons byte body =>
                    exact first_exact rowCount others bounded (List.cons_ne_nil _ _) named text counted users

theorem names_least {users : List User} (named : ∀ user ∈ users, user.name ≠ []) :
    2 * users.length ≤ namesSize users := by
  rw [namesSize]
  induction users with
  | nil => rfl
  | cons user users ih =>
      have others := ih fun other member => named other (List.mem_cons_of_mem _ member)
      have own := List.length_pos_iff.mpr (named user List.mem_cons_self)
      rw [List.map_cons,List.sum_cons,List.length_cons]
      omega

theorem lines_size (g : Globals) :
    ((headerLine::userNames g).flatMap (· ++ [newline])).length = namesSize g.users.users + 14 := by
  have header : headerLine.length = 13 := by decide
  have texts : ((userNames g).flatMap (· ++ [newline])).length = namesSize g.users.users := by
    rw [userNames,List.flatMap_map,List.length_flatMap,namesSize]
    simp
  rw [List.flatMap_cons,List.length_append,List.length_append,texts,header,List.length_singleton]
  omega

theorem listing_exact {g : Globals} {malloc : Bool} {parser : CpCommandParser} {answer : List UInt8}
    (rowCount : Int) (behind : List UInt8) (gave : (getSocksUsers malloc g parser).1 = some answer)
    (fits : answer.length ≤ initialSocksUSize) (named : Named (userNames g))
    (some_ : ∀ segment ∈ segments, segment ≠ []) (cut : segments.flatten = cString (answer ++ behind)) :
    parseUsersMessage none rowCount (segments.map .data) = listed g ↔ g.users.users ≠ [] ∧ CutsWell segments := by
  have nonempty : ∀ user ∈ g.users.users, user.name ≠ [] := fun user member =>
    (named _ (List.mem_map_of_mem member)).1
  have strings : ∀ user ∈ g.users.users, 0 ∉ user.name := fun user member zero =>
    ((named _ (List.mem_map_of_mem member)).2 0 zero).1 rfl
  have size := users_size malloc gave strings
  have least := names_least nonempty
  rw [initialSocksUSize] at fits
  -- The block bounds the number of names, so their count fits in its byte.
  have value : (UInt8.ofNat (g.users.users.length+1)).toNat = g.users.users.length+1 := by
    rw [UInt8.toNat_ofNat']
    omega
  have counted : UInt8.ofNat (g.users.users.length+1) ≠ 0 := by
    intro zero
    rw [zero] at value
    cases value
  rw [answer_text gave named counted behind] at cut
  have bounded : segments.flatten.length < maxLen := by
    rw [cut,List.length_cons,List.length_cons,lines_size,maxLen]
    omega
  have users : userNames g ≠ [] ↔ g.users.users ≠ [] := not_congr List.map_eq_nil_iff
  rw [← users]
  exact cut_exact rowCount some_ bounded named (by rw [value,userNames,List.length_map]) cut

def bobListed : Globals := ⟨⟨[⟨ascii "bob",ascii "x",4,2⟩],true⟩,false,.start⟩

def bobAnswer : List UInt8 := [0x31,0x02] ++ socksUHeader ++ ascii "bob" ++ [newline]

theorem bob_gave : (getSocksUsers true bobListed .zeroed).1 = some (bobAnswer ++ [0]) := by decide

theorem bob_named : Named (userNames bobListed) := by
  intro name member
  rw [List.mem_singleton.mp member]
  exact ⟨by decide,(by decide +kernel : ∀ byte ∈ ascii "bob", byte ≠ 0 ∧ byte ∉ [newline])⟩

theorem bob_listed : parseUsersMessage none 0 ([bobAnswer.take 17,bobAnswer.drop 17].map .data) = listed bobListed := by
  have ends : EndsLine (bobAnswer.drop 17) := (by decide : newline ∈ (bobAnswer.drop 17).dropWhile (· = newline))
  exact (@listing_exact [bobAnswer.take 17,bobAnswer.drop 17] bobListed true .zeroed _ 0 [] bob_gave (by decide) bob_named
    (by decide) (by decide)).mpr ⟨by decide,by decide,.line _ _ ends .done⟩

-- Cut twice inside it.
theorem bob_misread : (getSocksUsers true bobListed .zeroed).1 = some (bobAnswer ++ [0]) ∧
    [bobAnswer.take 16,[0x62],[0x6F,0x62,newline]].flatten = bobAnswer ∧
    parseUsersMessage none 0 ([bobAnswer.take 16,[0x62],[0x6F,0x62,newline]].map .data) ≠ listed bobListed := by
  refine ⟨bob_gave,by decide,fun read => ?_⟩
  have cut := (@first_exact (socksUHeader) [ascii "bob"] [[0x62],[0x6F,0x62,newline]] 0x02 0 (by decide) (by decide)
    (by decide) bob_named (by decide) rfl (by decide)).mp read
  cases cut.2 with
  | line _ _ ends _ =>
      have ends : newline ∈ [0x62].dropWhile (· = newline) := ends
      exact absurd ends (by decide)

end Socks5d.ControlProtocol
