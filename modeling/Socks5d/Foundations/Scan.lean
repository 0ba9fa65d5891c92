import Mathlib.Tactic.Common

namespace Scan

-- A byte machine that reads until it halts. The unread rest is returned, so a
-- caller can tell the bytes of one message from the bytes that follow it.
def scan (advance : σ → β → σ) (halted : σ → Bool) : σ → List β → σ × List β
  | state,[] => (state,[])
  | state,byte::rest =>
    if halted (advance state byte) then (advance state byte,rest)
    else scan advance halted (advance state byte) rest

variable {σ β : Type} {advance : σ → β → σ} {halted : σ → Bool}

theorem take_front {whole front rest : List β} (split : whole = front ++ rest) :
    whole.take (whole.length - rest.length) = front := by
  rw [split,List.length_append,Nat.add_sub_cancel,List.take_left]

theorem scan_running {state : σ} {bytes : List β}
    (running : halted (scan advance halted state bytes).1 = false) :
    (scan advance halted state bytes).2 = [] := by
  induction bytes generalizing state with
  | nil => rfl
  | cons byte rest ih =>
      unfold scan at running ⊢
      split
      · simp_all
      · rename_i going
        rw [if_neg going] at running
        exact ih running

theorem scan_split (state : σ) (bytes : List β) :
    ∃ taken, bytes = taken ++ (scan advance halted state bytes).2 ∧
      (scan advance halted state bytes).1 = taken.foldl advance state := by
  induction bytes generalizing state with
  | nil => exact ⟨[],rfl,rfl⟩
  | cons byte rest ih =>
      unfold scan
      split
      · exact ⟨[byte],rfl,rfl⟩
      · obtain ⟨taken,split,fold⟩ := ih (advance state byte)
        exact ⟨byte::taken,by rw [List.cons_append,← split],by rw [List.foldl_cons,← fold]⟩

theorem scan_append_halted {state : σ} {left : List β} (right : List β)
    (awake : halted state = false) (stopped : halted (scan advance halted state left).1 = true) :
    scan advance halted state (left++right) =
      ((scan advance halted state left).1,(scan advance halted state left).2++right) := by
  induction left generalizing state with
  | nil => simp [scan,awake] at stopped
  | cons byte rest ih =>
      by_cases stop : halted (advance state byte) = true
      · simp only [List.cons_append,scan,if_pos stop]
      · rw [scan,if_neg stop] at stopped
        simp only [List.cons_append,scan,if_neg stop]
        exact ih (by simpa using stop) stopped

theorem scan_invariant {holds : σ → Prop} (state : σ) (bytes : List β) (start : holds state)
    (preserved : ∀ before byte, holds before → holds (advance before byte)) :
    holds (scan advance halted state bytes).1 := by
  induction bytes generalizing state with
  | nil => exact start
  | cons byte rest ih =>
      unfold scan
      split
      · exact preserved _ _ start
      · exact ih _ (preserved _ _ start)

theorem scan_reading {reading : List β → σ → Prop} (past : List β) (state : σ) (bytes : List β)
    (awake : halted state = false) (start : reading past state)
    (preserved : ∀ taken before byte, halted before = false → reading taken before →
      reading (taken++[byte]) (advance before byte)) :
    ∃ taken, bytes = taken ++ (scan advance halted state bytes).2 ∧
      reading (past++taken) (scan advance halted state bytes).1 := by
  induction bytes generalizing past state with
  | nil => exact ⟨[],rfl,by rw [List.append_nil]; exact start⟩
  | cons byte rest ih =>
      have next := preserved past state byte awake start
      unfold scan
      split
      · exact ⟨[byte],rfl,next⟩
      · rename_i going
        obtain ⟨taken,split,reads⟩ := ih (past++[byte]) (advance state byte) (by simpa using going) next
        refine ⟨byte::taken,by rw [List.cons_append,← split],?_⟩
        simpa only [List.append_assoc,List.singleton_append] using reads

-- A message format on its own terms: the beginnings that no message has, and the length
-- of the message that starts with these items, as soon as they tell.
structure Framing (β : Type) where
  refused : List β → Bool
  length : List β → Option Nat
  refused_append : ∀ taken rest, refused taken = true → refused (taken++rest) = true
  length_append : ∀ taken rest n, length taken = some n → length (taken++rest) = some n
  length_refused : ∀ taken n, length taken = some n → refused taken = false

def Framing.whole (format : Framing β) (bytes : List β) : Bool :=
  (format.length bytes).any fun n => decide (n ≤ bytes.length)

def Framing.decides (format : Framing β) (bytes : List β) : Bool := format.refused bytes || format.whole bytes

-- A machine that reads a format: `reading` ties its state to the items it has taken, and
-- it waits exactly where the format is undecided.
structure Reads (format : Framing β) (advance : σ → β → σ) (failed finished : σ → Bool)
    (reading : List β → σ → Prop) : Prop where
  advances : ∀ taken state item, (failed state || finished state) = false → reading taken state →
    reading (taken++[item]) (advance state item)
  fails : ∀ taken state, reading taken state → failed state = true → format.refused taken = true
  ends : ∀ taken state, reading taken state → finished state = true → format.length taken = some taken.length
  waits : ∀ taken state, reading taken state → (failed state || finished state) = false →
    format.decides taken = false

variable {format : Framing β} {failed finished : σ → Bool} {reading : List β → σ → Prop} {state : σ} {bytes : List β}

theorem whole_exact : format.whole bytes = true ↔ ∃ n, format.length bytes = some n ∧ n ≤ bytes.length := by
  simp [Framing.whole,Option.any_eq_true]

theorem Framing.refused_whole (format : Framing β) (refused : format.refused bytes = true) :
    format.whole bytes = false := by
  by_contra whole
  obtain ⟨n,known,_⟩ := whole_exact.mp (by simpa using whole)
  rw [format.length_refused _ _ known] at refused
  cases refused

theorem Framing.decides_append (format : Framing β) {taken : List β} (settled : format.decides taken = true)
    (rest : List β) : format.decides (taken++rest) = true := by
  rw [Framing.decides,Bool.or_eq_true] at settled ⊢
  rcases settled with refused | whole
  · exact .inl (format.refused_append _ _ refused)
  · obtain ⟨n,known,reached⟩ := whole_exact.mp whole
    exact .inr (whole_exact.mpr ⟨n,format.length_append _ _ _ known,by rw [List.length_append]; omega⟩)

theorem Framing.open_waits (format : Framing β) (allowed : format.refused bytes = false)
    (short : ∀ n, format.length bytes = some n → bytes.length < n) : format.decides bytes = false := by
  have open_ : format.whole bytes = false := by
    by_contra whole
    obtain ⟨n,known,reached⟩ := whole_exact.mp (by simpa using whole)
    have less := short n known
    omega
  rw [Framing.decides,allowed,open_]
  rfl

theorem Framing.known_waits (format : Framing β) {n : Nat} (known : format.length bytes = some n)
    (short : bytes.length < n) : format.decides bytes = false := by
  refine format.open_waits (format.length_refused _ _ known) ?_
  intro other same
  cases known.symm.trans same
  exact short

theorem Framing.prefix_open (format : Framing β) {taken front : List β}
    (known : format.length (taken++front) = some (taken++front).length) (more : front ≠ []) :
    format.decides taken = false := by
  have positive := List.length_pos_iff.mpr more
  apply format.open_waits
  · by_contra refused
    have whole := format.refused_append taken front (by simpa using refused)
    rw [format.length_refused _ _ known] at whole
    cases whole
  · intro n length
    cases known.symm.trans (format.length_append taken front n length)
    rw [List.length_append]
    omega

theorem Framing.known_last (format : Framing β) {n : Nat} (known : format.length bytes = some n) (item : β)
    (last : bytes.length + 1 = n) : format.length (bytes++[item]) = some (bytes++[item]).length := by
  rw [List.length_append,List.length_singleton,last]
  exact format.length_append _ _ _ known

theorem scan_reads_from {past : List β} (reads : Reads format advance failed finished reading)
    (stops : ∀ state, halted state = (failed state || finished state))
    (awake : halted state = false) (start : reading past state) :
    let last := scan advance halted state bytes
    failed last.1 = format.refused (past++bytes) ∧ finished last.1 = format.whole (past++bytes) ∧
    (format.whole (past++bytes) = true →
      ∃ n, format.length (past++bytes) = some n ∧ n + last.2.length = (past++bytes).length) := by
  dsimp only
  have step : ∀ taken before item, halted before = false → reading taken before →
      reading (taken++[item]) (advance before item) := fun taken before item running knows =>
    reads.advances taken before item (by rw [← stops]; exact running) knows
  obtain ⟨taken,split,knows⟩ := @scan_reading _ _ advance halted reading past state bytes awake start step
  have whole : past++bytes = (past++taken)++(scan advance halted state bytes).2 := by
    rw [List.append_assoc,← split]
  cases stopped : halted (scan advance halted state bytes).1 with
  | false =>
      have all : past++bytes = past++taken := by rw [whole,scan_running stopped,List.append_nil]
      rw [stops] at stopped
      have open_ := reads.waits _ _ knows stopped
      obtain ⟨sound,unfinished⟩ := Bool.or_eq_false_iff.mp stopped
      obtain ⟨allowed,short⟩ := Bool.or_eq_false_iff.mp open_
      rw [← all] at allowed short
      rw [sound,unfinished,allowed,short]
      refine ⟨rfl,rfl,?_⟩
      intro contrary
      cases contrary
  | true =>
      rw [stops] at stopped
      cases failing : failed (scan advance halted state bytes).1 with
      | true =>
          have refused := reads.fails _ _ knows failing
          have refusedAll : format.refused (past++bytes) = true := by
            rw [whole]
            exact format.refused_append _ _ refused
          have unfinished : finished (scan advance halted state bytes).1 = false := by
            by_contra ended
            have length := reads.ends _ _ knows (by simpa using ended)
            rw [format.length_refused _ _ length] at refused
            cases refused
          rw [refusedAll,format.refused_whole refusedAll,unfinished]
          refine ⟨rfl,rfl,?_⟩
          intro contrary
          cases contrary
      | false =>
          have ended : finished (scan advance halted state bytes).1 = true := by rwa [failing,Bool.false_or] at stopped
          have length := reads.ends _ _ knows ended
          have lengthAll : format.length (past++bytes) = some (past++taken).length := by
            rw [whole]
            exact format.length_append _ _ _ length
          have sizes : (past++taken).length + (scan advance halted state bytes).2.length = (past++bytes).length := by
            rw [← List.length_append,← whole]
          rw [ended,format.length_refused _ _ lengthAll,whole_exact.mpr ⟨_,lengthAll,by omega⟩]
          exact ⟨rfl,rfl,fun _ => ⟨_,lengthAll,sizes⟩⟩

theorem scan_reads (reads : Reads format advance failed finished reading)
    (stops : ∀ state, halted state = (failed state || finished state))
    (awake : halted state = false) (start : reading [] state) :
    let last := scan advance halted state bytes
    failed last.1 = format.refused bytes ∧ finished last.1 = format.whole bytes ∧
    (format.whole bytes = true → ∃ n, format.length bytes = some n ∧ n + last.2.length = bytes.length) :=
  scan_reads_from reads stops awake start

theorem scan_taken (reads : Reads format advance failed finished reading)
    (stops : ∀ state, halted state = (failed state || finished state))
    (awake : halted state = false) (start : reading [] state) :
    let last := scan advance halted state bytes
    (finished last.1 = true → ∃ message, bytes = message ++ last.2 ∧ format.length message = some message.length) ∧
    (halted last.1 = false → last.2 = [] ∧ format.decides bytes = false) := by
  have step : ∀ taken before item, halted before = false → reading taken before →
      reading (taken++[item]) (advance before item) := fun taken before item running knows =>
    reads.advances taken before item (by rw [← stops]; exact running) knows
  obtain ⟨taken,split,knows⟩ := @scan_reading _ _ advance halted reading [] state bytes awake start step
  rw [List.nil_append] at knows
  refine ⟨fun ended => ⟨taken,split,reads.ends _ _ knows ended⟩,fun waits => ?_⟩
  have empty := scan_running waits
  rw [empty,List.append_nil] at split
  rw [stops] at waits
  exact ⟨empty,by rw [split]; exact reads.waits _ _ knows waits⟩

theorem scan_stops {past : List β} (reads : Reads format advance failed finished reading)
    (stops : ∀ state, halted state = (failed state || finished state)) (awake : halted state = false)
    (start : reading past state) (stopped : halted (scan advance halted state bytes).1 = true) :
    ∃ front item, bytes = front ++ item::(scan advance halted state bytes).2 ∧
      format.decides (past++front) = false := by
  induction bytes generalizing past state with
  | nil =>
      rw [scan,awake] at stopped
      cases stopped
  | cons item rest ih =>
      rw [stops] at awake
      have open_ := reads.waits _ _ start awake
      have next := reads.advances _ _ item awake start
      unfold scan at stopped ⊢
      split
      · exact ⟨[],item,rfl,by rw [List.append_nil]; exact open_⟩
      · rename_i going
        rw [if_neg going] at stopped
        obtain ⟨front,last,split_,waits⟩ := ih (by simpa using going) next stopped
        refine ⟨item::front,last,by rw [List.cons_append,← split_],?_⟩
        rwa [List.append_assoc,List.singleton_append] at waits

theorem scan_waits_from {past : List β} (reads : Reads format advance failed finished reading)
    (stops : ∀ state, halted state = (failed state || finished state))
    (awake : halted state = false) (start : reading past state) (open_ : format.decides (past++bytes) = false) :
    halted (scan advance halted state bytes).1 = false ∧ reading (past++bytes) (scan advance halted state bytes).1 := by
  have step : ∀ taken before item, halted before = false → reading taken before →
      reading (taken++[item]) (advance before item) := fun taken before item running knows =>
    reads.advances taken before item (by rw [← stops]; exact running) knows
  obtain ⟨taken,split,knows⟩ := @scan_reading _ _ advance halted reading past state bytes awake start step
  obtain ⟨allowed,short⟩ := Bool.or_eq_false_iff.mp open_
  have whole : past++bytes = (past++taken)++(scan advance halted state bytes).2 := by
    rw [List.append_assoc,← split]
  have running : halted (scan advance halted state bytes).1 = false := by
    rw [stops,Bool.or_eq_false_iff]
    constructor
    · by_contra failing
      have refused := reads.fails _ _ knows (by simpa using failing)
      rw [whole,format.refused_append _ _ refused] at allowed
      cases allowed
    · by_contra ended
      have length := reads.ends _ _ knows (by simpa using ended)
      have complete : format.whole (past++bytes) = true := by
        rw [whole]
        exact whole_exact.mpr ⟨_,format.length_append _ _ _ length,by simp⟩
      rw [complete] at short
      cases short
  refine ⟨running,?_⟩
  rw [scan_running running,List.append_nil] at split
  rwa [← split] at knows

theorem scan_waits (reads : Reads format advance failed finished reading)
    (stops : ∀ state, halted state = (failed state || finished state))
    (awake : halted state = false) (start : reading [] state) (open_ : format.decides bytes = false) :
    halted (scan advance halted state bytes).1 = false ∧ reading bytes (scan advance halted state bytes).1 :=
  @scan_waits_from _ _ _ halted format failed finished reading state bytes [] reads stops awake start open_

theorem scan_ends {past front extra : List β} (reads : Reads format advance failed finished reading)
    (stops : ∀ state, halted state = (failed state || finished state))
    (awake : halted state = false) (start : reading past state)
    (known : format.length (past++front) = some (past++front).length) :
    finished (scan advance halted state (front++extra)).1 = true ∧
    scan advance halted state (front++extra) = (front.foldl advance state,extra) := by
  have step : ∀ taken before item, halted before = false → reading taken before →
      reading (taken++[item]) (advance before item) := fun taken before item running knows =>
    reads.advances taken before item (by rw [← stops]; exact running) knows
  obtain ⟨taken,split,knows⟩ :=
    @scan_reading _ _ advance halted reading past state (front++extra) awake start step
  have lengthAll := format.length_append _ extra _ known
  have ended : finished (scan advance halted state (front++extra)).1 = true := by
    cases stopped : halted (scan advance halted state (front++extra)).1 with
    | false =>
        rw [scan_running stopped,List.append_nil] at split
        rw [stops] at stopped
        have waits := reads.waits _ _ knows stopped
        rw [← split,← List.append_assoc,Framing.decides,
          whole_exact.mpr ⟨_,lengthAll,by simp⟩,Bool.or_true] at waits
        cases waits
    | true =>
        rw [stops] at stopped
        cases failing : failed (scan advance halted state (front++extra)).1 with
        | true =>
            have refused := format.refused_append _ (scan advance halted state (front++extra)).2
              (reads.fails _ _ knows failing)
            rw [List.append_assoc past taken,← split,← List.append_assoc past front,
              format.length_refused _ _ lengthAll] at refused
            cases refused
        | false => rwa [failing,Bool.false_or] at stopped
  have length := format.length_append _ (scan advance halted state (front++extra)).2 _ (reads.ends _ _ knows ended)
  rw [List.append_assoc past taken,← split,← List.append_assoc past front,lengthAll] at length
  have sizes : front.length = taken.length := by
    have same := Option.some.inj length
    simp only [List.length_append] at same
    omega
  obtain ⟨frontTaken,extraLeft⟩ := List.append_inj split sizes
  obtain ⟨used,usedSplit,fold⟩ := @scan_split _ _ advance halted state (front++extra)
  have same : used = front := by
    rw [← extraLeft] at usedSplit
    exact (List.append_cancel_right usedSplit).symm
  refine ⟨ended,Prod.ext ?_ extraLeft.symm⟩
  rw [fold,same]

def scans (advance : σ → β → σ) (halted : σ → Bool) : σ → List (List β) → σ × List (List β)
  | state,[] => (state,[])
  | state,chunk::later =>
    let called := scan advance halted state chunk
    let last := scans advance halted called.1 later
    (last.1,called.2::last.2)

-- What a machine has said of the items it was given so far. Once it has halted it says no
-- more, though each later call still takes an item.
def Verdict (format : Framing β) (failed finished : σ → Bool) (reading : List β → σ → Prop) (past : List β)
    (state : σ) : Prop :=
  failed state = format.refused past ∧ finished state = format.whole past ∧
  ((failed state || finished state) = false → reading past state)

theorem scan_stable (stable : ∀ state item, halted state = true → advance state item = state)
    (stopped : halted state = true) : (scan advance halted state bytes).1 = state := by
  cases bytes with
  | nil => rfl
  | cons item rest => rw [scan,stable _ _ stopped,if_pos stopped]

theorem scan_verdict {past : List β} (reads : Reads format advance failed finished reading)
    (stops : ∀ state, halted state = (failed state || finished state))
    (stable : ∀ state item, halted state = true → advance state item = state)
    (said : Verdict format failed finished reading past state) :
    Verdict format failed finished reading (past++bytes) (scan advance halted state bytes).1 := by
  obtain ⟨fails,ends,knows⟩ := said
  cases stopped : halted state with
  | false =>
      rw [stops] at stopped
      obtain ⟨failsNow,endsNow,_⟩ := @scan_reads_from _ _ _ halted _ _ _ _ state bytes past reads stops
        (by rw [stops]; exact stopped) (knows stopped)
      refine ⟨failsNow,endsNow,?_⟩
      intro running
      have open_ : format.decides (past++bytes) = false := by rw [Framing.decides,← failsNow,← endsNow]; exact running
      exact (scan_waits_from reads stops (by rw [stops]; exact stopped) (knows stopped) open_).2
  | true =>
      rw [scan_stable stable stopped]
      rw [stops] at stopped
      have settled : format.decides past = true := by rw [Framing.decides,← fails,← ends]; exact stopped
      refine ⟨?_,?_,fun running => absurd (running.symm.trans stopped) Bool.false_ne_true⟩
      · cases refused : format.refused past with
        | true => rw [fails,refused,format.refused_append _ _ refused]
        | false =>
            rw [Framing.decides,refused,Bool.false_or] at settled
            obtain ⟨n,known,_⟩ := whole_exact.mp settled
            rw [fails,refused,format.length_refused _ _ (format.length_append _ bytes _ known)]
      · cases refused : format.refused past with
        | true => rw [ends,format.refused_whole refused,format.refused_whole (format.refused_append _ bytes refused)]
        | false =>
            rw [Framing.decides,refused,Bool.false_or] at settled
            obtain ⟨n,known,reached⟩ := whole_exact.mp settled
            rw [ends,settled,whole_exact.mpr ⟨n,format.length_append _ _ _ known,by rw [List.length_append]; omega⟩]

theorem scans_verdict {past : List β} {chunks : List (List β)} (reads : Reads format advance failed finished reading)
    (stops : ∀ state, halted state = (failed state || finished state))
    (stable : ∀ state item, halted state = true → advance state item = state)
    (said : Verdict format failed finished reading past state) :
    Verdict format failed finished reading (past++chunks.flatten) (scans advance halted state chunks).1 := by
  induction chunks generalizing past state with
  | nil =>
      rw [List.flatten_nil,List.append_nil]
      exact said
  | cons chunk later ih =>
      rw [List.flatten_cons,← List.append_assoc]
      exact ih (scan_verdict reads stops stable said)

theorem scans_waiting {past : List β} {chunks : List (List β)} (reads : Reads format advance failed finished reading)
    (stops : ∀ state, halted state = (failed state || finished state)) (awake : halted state = false)
    (start : reading past state) (open_ : format.decides (past++chunks.flatten) = false) :
    halted (scans advance halted state chunks).1 = false ∧
    reading (past++chunks.flatten) (scans advance halted state chunks).1 ∧
    (scans advance halted state chunks).1 = chunks.flatten.foldl advance state ∧
    (scans advance halted state chunks).2.flatten = [] := by
  induction chunks generalizing past state with
  | nil => exact ⟨awake,by rw [List.flatten_nil,List.append_nil]; exact start,rfl,rfl⟩
  | cons chunk later ih =>
      rw [List.flatten_cons,← List.append_assoc] at open_ ⊢
      have openHere : format.decides (past++chunk) = false := by
        by_contra settled
        rw [format.decides_append (by simpa using settled)] at open_
        cases open_
      obtain ⟨going,knows⟩ := scan_waits_from reads stops awake start openHere
      obtain ⟨taken,split,fold⟩ := @scan_split _ _ advance halted state chunk
      have drained := scan_running going
      rw [drained,List.append_nil] at split
      rw [← split] at fold
      obtain ⟨runs,readsLast,folded,cleared⟩ := ih going knows open_
      refine ⟨runs,readsLast,?_,?_⟩
      · refine folded.trans ?_
        rw [fold,List.foldl_append]
      · change ((scan advance halted state chunk).2::(scans advance halted _ later).2).flatten = []
        rw [List.flatten_cons,drained]
        exact cleared

theorem scans_stable {chunks : List (List β)} (stable : ∀ state item, halted state = true → advance state item = state)
    (stopped : halted state = true) : (scans advance halted state chunks).1 = state := by
  induction chunks with
  | nil => rfl
  | cons chunk later ih =>
      change (scans advance halted (scan advance halted state chunk).1 later).1 = state
      rw [scan_stable stable stopped]
      exact ih

theorem scans_taken {past : List β} {chunks : List (List β)} (reads : Reads format advance failed finished reading)
    (stops : ∀ state, halted state = (failed state || finished state))
    (stable : ∀ state item, halted state = true → advance state item = state)
    (awake : halted state = false) (start : reading past state) :
    ∃ taken rest, chunks.flatten = taken ++ rest ∧ (scans advance halted state chunks).1 = taken.foldl advance state ∧
      reading (past++taken) (scans advance halted state chunks).1 := by
  induction chunks generalizing past state with
  | nil => exact ⟨[],[],rfl,rfl,by rw [List.append_nil]; exact start⟩
  | cons chunk later ih =>
      have step : ∀ taken before item, halted before = false → reading taken before →
          reading (taken++[item]) (advance before item) := fun taken before item running knows =>
        reads.advances taken before item (by rw [← stops]; exact running) knows
      obtain ⟨front,split,knows⟩ := @scan_reading _ _ advance halted reading past state chunk awake start step
      obtain ⟨used,usedSplit,fold⟩ := @scan_split _ _ advance halted state chunk
      have same : used = front := List.append_cancel_right (usedSplit.symm.trans split)
      rw [same] at fold
      cases stopped : halted (scan advance halted state chunk).1 with
      | true =>
          have still : (scans advance halted state (chunk::later)).1 = (scan advance halted state chunk).1 :=
            scans_stable stable stopped
          refine ⟨front,(scan advance halted state chunk).2 ++ later.flatten,?_,still.trans fold,still ▸ knows⟩
          rw [List.flatten_cons,← List.append_assoc,← split]
      | false =>
          rw [scan_running stopped,List.append_nil] at split
          obtain ⟨taken,rest,splitLater,foldLater,knowsLast⟩ := ih stopped knows
          refine ⟨front++taken,rest,?_,?_,?_⟩
          · rw [List.flatten_cons,splitLater,split,List.append_assoc]
          · rw [List.foldl_append,← fold]
            exact foldLater
          · rw [← List.append_assoc]
            exact knowsLast

end Scan
