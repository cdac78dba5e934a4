/-
Does each reader of the inbox stream get back the events the bridge wrote?  On the wire the lines
may end in LF, CR or CRLF, comments and heartbeats may stand in between, and the body may come in
any chunks.
-/
import Mathlib.Algebra.Order.BigOperators.Group.List
import Mathlib.Data.List.ReduceOption
import Mathlib.Data.List.TakeWhile
import OpsCure.SseFraming

namespace OpsCure.Sse

open JsonText Lines

/-! ## Streams on the wire -/

/-- What may happen to a stream on its way: the line endings in use, and the characters in use
in comments. -/
structure Wire where
  endings : Ending → Bool
  ends : ∃ ending, endings ending
  commentChars : Char → Bool
  inLine : ∀ c, commentChars c → c ≠ '\n' ∧ c ≠ '\r'

def isComment (text : List Char) : Bool := text.head? = some ':'

def frameLines (event data : List Char) : List (List Char) :=
  [eventKey ++ ' ' :: event, dataKey ++ ' ' :: data, []]

variable (floats : FloatText) (loads : List Char → Option Json) (actorId : String)

def signalLines : Option Envelope → List (List Char)
  | none => frameLines heartbeatName ['{', '}']
  | some envelope => frameLines eventName (eventText floats loads envelope)

def bridgeLines (signals : List (Option Envelope)) : List (List Char) :=
  frameLines openName (openText floats actorId) ++ signals.flatMap (signalLines floats loads)

/-- A stream as it may arrive: the lines of the bridge for these events, heartbeats and comments
in between, every line with an ending of its own. -/
structure Carries (wire : Wire) (envelopes : List Envelope) (lines : List Line) : Prop where
  endings : ∀ line ∈ lines, wire.endings line.ending
  comments : ∀ line ∈ lines, isComment line.text → ∀ c ∈ line.text.tail, wire.commentChars c
  unambiguous : Unambiguous lines
  events : ∃ signals, signals.reduceOption = envelopes ∧
    (lines.map (·.text)).filter (fun text => !isComment text) =
      bridgeLines floats loads actorId signals

/-- The data of the `v2.event` records. -/
def eventData (records : List Record) : List (List Char) :=
  (records.filter (·.event = eventName)).map (·.data)

/-- Each reader gets back the events, each once and in order, whatever else is on the wire and
however the body is cut into chunks. -/
structure RoundTrips (wire : Wire) (envelopes : List Envelope) : Prop where
  sdk : ∀ lines, Carries floats loads actorId wire envelopes lines →
    sdkInbox loads (render lines) = envelopes.map (eventPayload loads)
  loop : ∀ lines, Carries floats loads actorId wire envelopes lines →
    agentLoop loads (render lines) = envelopes.map (eventPayload loads)
  ts : ∀ lines, Carries floats loads actorId wire envelopes lines →
    ∀ chunks : List (List Char), chunks.flatten = render lines →
      eventData (streamSSE chunks) = envelopes.map (eventText floats loads)

/-- A character Python breaks lines at that a JSON text may hold as it is: NEL, and the line and
paragraph separators. -/
def isRawBreak (c : Char) : Bool := c.toNat ∈ [0x85, 0x2028, 0x2029]

/-- No line ends in CR alone, no comment holds a line break of Python's, and none of NEL, LS and PS
is in a string of a payload. -/
structure Safe (wire : Wire) (envelopes : List Envelope) : Prop where
  endings : wire.endings .cr = false
  comments : ∀ c, wire.commentChars c → ¬ isBreak c
  payloads : ∀ envelope ∈ envelopes, ∀ text ∈ texts (eventPayload loads envelope),
    ∀ c ∈ text.toList, ¬ isRawBreak c

/-! ## The texts of the bridge -/

variable {floats loads actorId}

theorem frame_eq_render (event data : List Char) :
    frame event data = render ((frameLines event data).map (⟨·, .lf⟩)) := by
  simp only [frame, frameLines, render, Line.render, Ending.text, List.map_cons, List.map_nil,
    List.flatMap_cons, List.flatMap_nil, List.append_assoc, List.cons_append, List.nil_append]

theorem gen_eq_render (signals : List (Option Envelope)) :
    gen floats loads actorId signals =
      render ((bridgeLines floats loads actorId signals).map (⟨·, .lf⟩)) := by
  have happend : ∀ first rest : List Line, render (first ++ rest) = render first ++ render rest :=
    fun first rest => List.flatMap_append
  rw [gen, bridgeLines, List.map_append, happend, frame_eq_render]
  congr 1
  induction signals with
  | nil => rfl
  | cons signal signals ih =>
      rw [List.flatMap_cons, List.flatMap_cons, List.map_append, happend, ih]
      congr 1
      cases signal with
      | none => exact frame_eq_render _ _
      | some => exact frame_eq_render _ _

variable {c : Char}

theorem visible_ne_break (hvisible : IsVisible c) : ¬ isBreak c := by
  obtain ⟨hlow, hhigh⟩ := hvisible
  simp only [isBreak, List.mem_cons, List.not_mem_nil, or_false, decide_eq_true_eq]
  omega

theorem isBreak_dumps {value : Json} (hc : c ∈ dumps false floats value) (hbreak : isBreak c) :
    isRawBreak c ∧ ∃ text ∈ texts value, c ∈ text.toList := by
  rcases mem_dumps _ hc with hvisible | ⟨_, hhigh, hshown⟩
  · exact absurd hbreak (visible_ne_break hvisible)
  · refine ⟨?_, hshown⟩
    simp only [isBreak, isRawBreak, List.mem_cons, List.not_mem_nil, or_false,
      decide_eq_true_eq] at hbreak ⊢
    omega

theorem isBreak_eventText {envelope : Envelope} (hc : c ∈ eventText floats loads envelope)
    (hbreak : isBreak c) :
    isRawBreak c ∧ ∃ text ∈ texts (eventPayload loads envelope), c ∈ text.toList :=
  isBreak_dumps hc hbreak

theorem eventText_oneLine (envelope : Envelope) :
    '\n' ∉ eventText floats loads envelope ∧ '\r' ∉ eventText floats loads envelope := by
  constructor
  · intro hmem
    exact absurd (isBreak_eventText hmem (by decide)).1 (by decide)
  · intro hmem
    exact absurd (isBreak_eventText hmem (by decide)).1 (by decide)

theorem visible_openText (hc : c ∈ openText floats actorId) : IsVisible c := by
  rcases mem_dumps _ hc with hvisible | ⟨hraw, _⟩
  · exact hvisible
  · exact absurd hraw (by decide)

/-! ## Reading frames -/

section Reading

variable {β : Type} (trimEvent trimData : List Char → List Char)
  (dispatch : List Char → List (List Char) → List β)

/-- What the three readers have in common, on lines without their endings. -/
def fieldReader : Reader Pending β where
  start := .empty
  read := readField trimEvent trimData dispatch

variable {trimEvent trimData dispatch}

theorem readField_comment {text : List Char} (hcomment : isComment text) (s : Pending) :
    readField trimEvent trimData dispatch s text = (s, []) := by
  have hhead : text.head? = some ':' := of_decide_eq_true hcomment
  have hsome : text ≠ [] := by
    intro hempty
    rw [hempty] at hhead
    cases hhead
  rw [readField, if_neg hsome, if_pos hhead]

theorem readField_event (s : Pending) (rest : List Char) :
    readField trimEvent trimData dispatch s (eventKey ++ rest) =
      ({ s with event := trimEvent (eventKey ++ rest) }, []) := rfl

theorem readField_data (s : Pending) (rest : List Char) :
    readField trimEvent trimData dispatch s (dataKey ++ rest) =
      ({ s with data := s.data ++ [trimData (dataKey ++ rest)] }, []) := rfl

theorem feed_frameLines {event data : List Char}
    (hevent : trimEvent (eventKey ++ ' ' :: event) = event)
    (hdata : trimData (dataKey ++ ' ' :: data) = data) :
    (fieldReader trimEvent trimData dispatch).feed .empty (frameLines event data) =
      (.empty, dispatch event [data]) := by
  rw [frameLines, Reader.feed, Reader.feed, Reader.feed, Reader.feed]
  simp only [fieldReader, readField_event, readField_data, hevent, hdata]
  simp [readField, Pending.empty]

structure Trims (trimEvent trimData : List Char → List Char) : Prop where
  event : ∀ name ∈ [openName, heartbeatName, eventName],
    trimEvent (eventKey ++ ' ' :: name) = name
  data : ∀ rest, trimData (dataKey ++ ' ' :: '{' :: rest) = '{' :: rest

theorem eventText_head (floats : FloatText) (loads : List Char → Option Json)
    (envelope : Envelope) :
    ∃ rest, eventText floats loads envelope = '{' :: rest := by
  rw [eventText, eventPayload, dumps]
  exact ⟨_, rfl⟩

theorem openText_head (floats : FloatText) (actorId : String) :
    ∃ rest, openText floats actorId = '{' :: rest := by
  rw [openText, dumps]
  exact ⟨_, rfl⟩

def signalOut (floats : FloatText) (loads : List Char → Option Json)
    (dispatch : List Char → List (List Char) → List β) : Option Envelope → List β
  | none => dispatch heartbeatName [['{', '}']]
  | some envelope => dispatch eventName [eventText floats loads envelope]

theorem Trims.feed_bridgeLines (htrims : Trims trimEvent trimData)
    (signals : List (Option Envelope)) :
    (fieldReader trimEvent trimData dispatch).feed .empty
        (bridgeLines floats loads actorId signals) =
      (.empty, dispatch openName [openText floats actorId] ++
        signals.flatMap (signalOut floats loads dispatch)) := by
  have hdata : ∀ text rest, text = '{' :: rest → trimData (dataKey ++ ' ' :: text) = text := by
    intro text rest htext
    rw [htext]
    exact htrims.data rest
  have hsignal : ∀ signal, (fieldReader trimEvent trimData dispatch).feed .empty
      (signalLines floats loads signal) = (.empty, signalOut floats loads dispatch signal) := by
    intro signal
    cases signal with
    | none =>
        exact feed_frameLines (htrims.event _ (by simp)) (htrims.data ['}'])
    | some envelope =>
        obtain ⟨rest, htext⟩ := eventText_head floats loads envelope
        exact feed_frameLines (htrims.event _ (by simp)) (hdata _ rest htext)
  obtain ⟨rest, hopen⟩ := openText_head floats actorId
  have hfirst : (fieldReader trimEvent trimData dispatch).feed .empty
      (frameLines openName (openText floats actorId)) =
        (.empty, dispatch openName [openText floats actorId]) :=
    feed_frameLines (htrims.event _ (by simp)) (hdata _ rest hopen)
  rw [bridgeLines, Reader.feed_append, hfirst]
  have hrest := Reader.feed_blocks hsignal signals
  rw [show (fieldReader trimEvent trimData dispatch).start = Pending.empty from rfl] at hrest
  rw [hrest]

variable {signals : List (Option Envelope)}

theorem Trims.handsOut (htrims : Trims trimEvent trimData) {lines : List (List Char)}
    (hlines : lines.filter (fun text => !isComment text) =
      bridgeLines floats loads actorId signals) :
    (fieldReader trimEvent trimData dispatch).handsOut lines =
      dispatch openName [openText floats actorId] ++
        signals.flatMap (signalOut floats loads dispatch) := by
  have hpasses : ∀ text : List Char, ¬ (!isComment text) = true → ∀ s,
      (fieldReader trimEvent trimData dispatch).read s text = (s, []) := by
    intro text hkept s
    have hcomment : isComment text := by simpa using hkept
    exact readField_comment hcomment s
  rw [Reader.handsOut, ← Reader.feed_filter hpasses, hlines]
  exact congrArg Prod.snd (htrims.feed_bridgeLines signals)

theorem flatMap_signalOut {out : Envelope → List β}
    (hheartbeat : dispatch heartbeatName [['{', '}']] = [])
    (hevents : ∀ envelope ∈ signals.reduceOption,
      dispatch eventName [eventText floats loads envelope] = out envelope) :
    signals.flatMap (signalOut floats loads dispatch) = signals.reduceOption.flatMap out := by
  induction signals with
  | nil => rfl
  | cons signal signals ih =>
      cases signal with
      | none =>
          rw [List.flatMap_cons, signalOut, hheartbeat, List.reduceOption_cons_of_none]
          exact ih hevents
      | some envelope =>
          rw [List.reduceOption_cons_of_some] at hevents ⊢
          rw [List.flatMap_cons, List.flatMap_cons, signalOut, hevents envelope List.mem_cons_self]
          congr 1
          exact ih fun other hother => hevents other (List.mem_cons_of_mem _ hother)

end Reading

/-! ## The lines of a stream -/

theorem mem_field {key rest : List Char} (hkey : ∀ c ∈ key ++ [' '], IsVisible c)
    (hc : c ∈ key ++ ' ' :: rest) : IsVisible c ∨ c ∈ rest := by
  rw [← List.singleton_append, ← List.append_assoc, List.mem_append] at hc
  rcases hc with hfront | hrest
  · exact Or.inl (hkey c hfront)
  · exact Or.inr hrest

theorem visible_eventKey : ∀ c ∈ eventKey ++ [' '], IsVisible c :=
  List.all_iff_forall_prop.mp (by decide)

theorem visible_dataKey : ∀ c ∈ dataKey ++ [' '], IsVisible c :=
  List.all_iff_forall_prop.mp (by decide)

theorem mem_frameLines {event data line : List Char} (hline : line ∈ frameLines event data)
    (hc : c ∈ line) : IsVisible c ∨ c ∈ event ∨ c ∈ data := by
  rw [frameLines, List.mem_cons, List.mem_cons, List.mem_singleton] at hline
  rcases hline with rfl | rfl | rfl
  · rcases mem_field visible_eventKey hc with hvisible | hevent
    · exact Or.inl hvisible
    · exact Or.inr (Or.inl hevent)
  · rcases mem_field visible_dataKey hc with hvisible | hdata
    · exact Or.inl hvisible
    · exact Or.inr (Or.inr hdata)
  · cases hc

theorem mem_bridgeLines {signals : List (Option Envelope)} {text : List Char}
    (htext : text ∈ bridgeLines floats loads actorId signals) (hc : c ∈ text) :
    IsVisible c ∨ ∃ envelope ∈ signals.reduceOption, c ∈ eventText floats loads envelope := by
  have hframe : ∀ event data, (∀ d ∈ event, IsVisible d) → text ∈ frameLines event data →
      IsVisible c ∨ c ∈ data := by
    intro event data hevent hmem
    rcases mem_frameLines hmem hc with hvisible | hname | hdata
    · exact Or.inl hvisible
    · exact Or.inl (hevent c hname)
    · exact Or.inr hdata
  rw [bridgeLines, List.mem_append, List.mem_flatMap] at htext
  rcases htext with hopen | ⟨signal, hsignal, htext⟩
  · rcases hframe _ _ (List.all_iff_forall_prop.mp (by decide)) hopen with hvisible | hdata
    · exact Or.inl hvisible
    · exact Or.inl (visible_openText hdata)
  · cases signal with
    | none =>
        have hbraces : ∀ d ∈ ['{', '}'], IsVisible d :=
          List.all_iff_forall_prop.mp (by decide)
        rcases hframe _ _ (List.all_iff_forall_prop.mp (by decide)) htext with hvisible | hdata
        · exact Or.inl hvisible
        · exact Or.inl (hbraces c hdata)
    | some envelope =>
        rcases hframe _ _ (List.all_iff_forall_prop.mp (by decide)) htext with hvisible | hdata
        · exact Or.inl hvisible
        · right
          refine ⟨envelope, ?_, hdata⟩
          rw [List.reduceOption, List.mem_filterMap]
          exact ⟨some envelope, hsignal, rfl⟩

section Carried

variable {wire : Wire} {envelopes : List Envelope} {lines : List Line}

theorem Carries.mem_line (hcarries : Carries floats loads actorId wire envelopes lines)
    {line : Line} (hline : line ∈ lines) {c : Char} (hc : c ∈ line.text) :
    wire.commentChars c ∨ IsVisible c ∨
      ∃ envelope ∈ envelopes, c ∈ eventText floats loads envelope := by
  by_cases hcomment : isComment line.text
  · have hhead : line.text.head? = some ':' := of_decide_eq_true hcomment
    obtain ⟨rest, htext⟩ := List.head?_eq_some_iff.mp hhead
    rw [htext, List.mem_cons] at hc
    rcases hc with rfl | hrest
    · exact Or.inr (Or.inl (by decide))
    · left
      apply hcarries.comments line hline hcomment
      rw [htext]
      exact hrest
  · obtain ⟨signals, hsignals, hlines⟩ := hcarries.events
    have hmem : line.text ∈ bridgeLines floats loads actorId signals := by
      rw [← hlines, List.mem_filter]
      exact ⟨List.mem_map_of_mem hline, by simp [hcomment]⟩
    rw [← hsignals]
    exact Or.inr (mem_bridgeLines hmem hc)

theorem Carries.whole (hcarries : Carries floats loads actorId wire envelopes lines) :
    ∀ line ∈ lines, line.Whole := by
  intro line hline
  constructor
  · intro hmem
    rcases hcarries.mem_line hline hmem with hcomment | hvisible | ⟨envelope, _, htext⟩
    · exact (wire.inLine _ hcomment).1 rfl
    · exact absurd hvisible (by decide)
    · exact (eventText_oneLine envelope).1 htext
  · intro hmem
    rcases hcarries.mem_line hline hmem with hcomment | hvisible | ⟨envelope, _, htext⟩
    · exact (wire.inLine _ hcomment).2 rfl
    · exact absurd hvisible (by decide)
    · exact (eventText_oneLine envelope).2 htext

theorem Carries.plain (hcarries : Carries floats loads actorId wire envelopes lines)
    (hsafe : Safe loads wire envelopes) : ∀ line ∈ lines, ∀ c ∈ line.text, ¬ isBreak c := by
  intro line hline c hc hbreak
  rcases hcarries.mem_line hline hc with hcomment | hvisible | ⟨envelope, henvelope, htext⟩
  · exact hsafe.comments c hcomment hbreak
  · exact visible_ne_break hvisible hbreak
  · obtain ⟨hraw, text, hmem, hc⟩ := isBreak_eventText htext hbreak
    exact hsafe.payloads envelope henvelope text hmem c hc hraw

theorem Carries.ending_ne_cr (hcarries : Carries floats loads actorId wire envelopes lines)
    (hsafe : Safe loads wire envelopes) : ∀ line ∈ lines, line.ending ≠ .cr := by
  intro line hline hcr
  have hused := hcarries.endings line hline
  rw [hcr, hsafe.endings] at hused
  cases hused

end Carried

/-! ## What each reader gets back -/

theorem sdk_trims :
    Trims (fun line => strip (afterColon line)) (fun line => lstrip (afterColon line)) where
  event := by decide
  data := fun _ => rfl

theorem loop_trims :
    Trims (fun line => strip (line.drop 6)) (fun line => lstrip (line.drop 5)) where
  event := by decide
  data := fun _ => rfl

theorem ts_trims :
    Trims (fun line => jsTrim (line.drop 6)) (fun line => dropSpace (line.drop 5)) where
  event := by decide
  data := fun _ => rfl

theorem rstripEnds_append {text ends : List Char} (htext : '\n' ∉ text ∧ '\r' ∉ text)
    (hends : ∀ c ∈ ends, c = '\r' ∨ c = '\n') : rstripEnds (text ++ ends) = text := by
  have hkept : text.reverse.dropWhile (fun c => decide (c = '\r' ∨ c = '\n')) = text.reverse := by
    rw [List.dropWhile_eq_self_iff]
    intro hlength hend
    have hmem := List.getElem_mem hlength
    rw [List.mem_reverse] at hmem
    rcases of_decide_eq_true hend with hcr | hlf
    · rw [hcr] at hmem
      exact htext.2 hmem
    · rw [hlf] at hmem
      exact htext.1 hmem
  rw [rstripEnds, List.reverse_append, List.dropWhile_append_of_pos, hkept, List.reverse_reverse]
  intro c hc
  exact decide_eq_true (hends c (List.mem_reverse.mp hc))

theorem dropCr_beforeLf {line : Line} (hwhole : line.Whole) (hending : line.ending ≠ .cr) :
    dropCr line.beforeLf = line.text := by
  cases hcase : line.ending with
  | cr => exact absurd hcase hending
  | lf =>
      have hlast : line.text.getLast? ≠ some '\r' :=
        fun hlast => hwhole.2 (List.mem_of_getLast? hlast)
      rw [Line.beforeLf, hcase, Ending.text, List.dropLast_singleton, List.append_nil, dropCr,
        if_neg hlast]
  | crlf =>
      have hbefore : line.beforeLf = line.text ++ ['\r'] := by
        rw [Line.beforeLf, hcase]
        rfl
      rw [hbefore, dropCr, if_pos (List.getLast?_concat ..), List.dropLast_concat]

theorem readChunks_eq {buffer : List Char} (hbuffer : '\n' ∉ buffer) (s : Pending)
    (chunks : List (List Char)) :
    readChunks buffer s chunks = (tsReader.feed s (cutLines buffer chunks.flatten).1).2 := by
  induction chunks generalizing buffer s with
  | nil => rfl
  | cons chunk chunks ih =>
      have hcut : cutLines [] (buffer ++ chunk) = cutLines buffer chunk := by
        rw [cutLines_append, cutLines_open hbuffer]
        rfl
      rw [readChunks, hcut, ih (cutLines_rest buffer chunk hbuffer), List.flatten_cons,
        cutLines_append, Reader.feed_append]

theorem eventData_append (records more : List Record) :
    eventData (records ++ more) = eventData records ++ eventData more := by
  rw [eventData, List.filter_append, List.map_append]
  rfl

theorem eventData_flatMap {ι : Type} (items : List ι) (records : ι → List Record) :
    eventData (items.flatMap records) = items.flatMap fun item => eventData (records item) := by
  rw [eventData, List.filter_flatMap, List.map_flatMap]
  rfl

/-- On a safe wire every reader gets back every event. -/
theorem Safe.roundTrips {wire : Wire} {envelopes : List Envelope}
    (hround : ∀ envelope ∈ envelopes,
      loads (eventText floats loads envelope) = some (eventPayload loads envelope))
    (hsafe : Safe loads wire envelopes) : RoundTrips floats loads actorId wire envelopes where
  sdk := by
    intro lines hcarries
    obtain ⟨signals, hsignals, hlines⟩ := hcarries.events
    have hsplit : splitLines (render lines) = lines.map (·.text) := by
      rw [splitLines_render hcarries.whole hcarries.unambiguous, List.map_eq_flatMap]
      apply List.flatMap_congr
      intro line hline
      exact pieces_plain (hcarries.plain hsafe line hline) []
    have hread : (fieldReader _ _ (sdkDispatch loads)).handsOut _ = _ :=
      sdk_trims.handsOut hlines
    have hevents : ∀ envelope ∈ signals.reduceOption,
        sdkDispatch loads eventName [eventText floats loads envelope] =
          [eventPayload loads envelope] := by
      intro envelope henvelope
      rw [hsignals] at henvelope
      rw [sdkDispatch, if_pos rfl, List.flatten_singleton, hround envelope henvelope]
      rfl
    rw [flatMap_signalOut rfl hevents, hsignals, ← List.map_eq_flatMap] at hread
    rw [sdkInbox, hsplit]
    exact hread
  loop := by
    intro lines hcarries
    obtain ⟨signals, hsignals, hlines⟩ := hcarries.events
    have hcut := cutLines_render hcarries.whole (hcarries.ending_ne_cr hsafe)
    have hlinesRead : readLines (render lines) = lines.map fun line => line.beforeLf ++ ['\n'] := by
      rw [readLines, hcut]
      simp
    have halike : ∀ line ∈ lines, ∀ s, (loopReader loads).read s (line.beforeLf ++ ['\n']) =
        (fieldReader (fun line => strip (line.drop 6)) (fun line => lstrip (line.drop 5))
          (loopDispatch loads)).read s line.text := by
      intro line hline s
      have hstripped : rstripEnds (line.beforeLf ++ ['\n']) = line.text := by
        rw [Line.beforeLf, List.append_assoc]
        apply rstripEnds_append (hcarries.whole line hline)
        cases line.ending with
        | lf | cr | crlf => exact List.all_iff_forall_prop.mp (by decide)
      simp only [loopReader, fieldReader, hstripped]
    have hread : (fieldReader _ _ (loopDispatch loads)).handsOut _ = _ :=
      loop_trims.handsOut hlines
    have hevents : ∀ envelope ∈ signals.reduceOption,
        loopDispatch loads eventName [eventText floats loads envelope] =
          [eventPayload loads envelope] := by
      intro envelope henvelope
      rw [hsignals] at henvelope
      rw [loopDispatch, if_neg (by decide), List.intercalate_singleton, dispatchSseFrame,
        hround envelope henvelope]
      rfl
    have hquiet : ∀ event data, event ≠ eventName → loopDispatch loads event data = [] := by
      intro event data hother
      rw [loopDispatch, dispatchSseFrame]
      split
      · rfl
      · cases loads (['\n'].intercalate data) with
        | none => rfl
        | some => simp only [ite_self]
    rw [flatMap_signalOut (hquiet _ _ (by decide)) hevents, hquiet _ _ (by decide), hsignals,
      ← List.map_eq_flatMap, List.nil_append] at hread
    rw [agentLoop, hlinesRead, Reader.handsOut, Reader.feed_map halike]
    exact hread
  ts := by
    intro lines hcarries chunks hchunks
    obtain ⟨signals, hsignals, hlines⟩ := hcarries.events
    have halike : ∀ line ∈ lines, ∀ s, tsReader.read s line.beforeLf =
        (fieldReader (fun line => jsTrim (line.drop 6)) (fun line => dropSpace (line.drop 5))
          tsDispatch).read s line.text := by
      intro line hline s
      have hdropped := dropCr_beforeLf (hcarries.whole line hline)
        (hcarries.ending_ne_cr hsafe line hline)
      simp only [tsReader, fieldReader, hdropped]
    have hread : (fieldReader _ _ tsDispatch).handsOut _ = _ := ts_trims.handsOut hlines
    have hevents : ∀ envelope ∈ signals.reduceOption,
        eventData (tsDispatch eventName [eventText floats loads envelope]) =
          [eventText floats loads envelope] := by
      intro envelope _
      rw [tsDispatch, if_neg (by decide), List.intercalate_singleton]
      rfl
    have hdata : eventData (signals.flatMap (signalOut floats loads tsDispatch)) =
        signals.flatMap (signalOut floats loads fun event data =>
          eventData (tsDispatch event data)) := by
      rw [eventData_flatMap]
      apply List.flatMap_congr
      intro signal _
      cases signal with
      | none => rfl
      | some => rfl
    have hrecords : streamSSE chunks = tsDispatch openName [openText floats actorId] ++
        signals.flatMap (signalOut floats loads tsDispatch) := by
      rw [streamSSE, readChunks_eq List.not_mem_nil, hchunks,
        cutLines_render hcarries.whole (hcarries.ending_ne_cr hsafe), Reader.feed_map halike]
      exact hread
    rw [hrecords, eventData_append, hdata, flatMap_signalOut rfl hevents, hsignals,
      ← List.map_eq_flatMap]
    rfl

/-! ## The wires that are not safe -/

section Unsafe

variable {wire : Wire} {envelopes : List Envelope}

/-- Lines that all end alike. -/
def uniform (ending : Ending) (texts : List (List Char)) : List Line :=
  texts.map (⟨·, ending⟩)

theorem isComment_frameLines {event data text : List Char} (htext : text ∈ frameLines event data) :
    ¬ isComment text := by
  rw [frameLines, List.mem_cons, List.mem_cons, List.mem_singleton] at htext
  rcases htext with rfl | rfl | rfl
  · exact nofun
  · exact nofun
  · exact nofun

theorem isComment_bridgeLines {signals : List (Option Envelope)} {text : List Char}
    (htext : text ∈ bridgeLines floats loads actorId signals) : ¬ isComment text := by
  rw [bridgeLines, List.mem_append, List.mem_flatMap] at htext
  rcases htext with hopen | ⟨signal, _, htext⟩
  · exact isComment_frameLines hopen
  · cases signal with
    | none => exact isComment_frameLines htext
    | some => exact isComment_frameLines htext

theorem unambiguous_uniform (ending : Ending) (texts : List (List Char)) :
    Unambiguous (uniform ending texts) := by
  apply List.Pairwise.isChain
  rw [uniform, List.pairwise_map]
  apply List.pairwise_of_forall
  intro text next hboth
  obtain ⟨hcr, _, hlf⟩ := hboth
  exact absurd (hcr.symm.trans hlf) (by decide)

variable {ending : Ending} {c : Char}

theorem carries_uniform (hending : wire.endings ending) {texts : List (List Char)}
    (hcomments : ∀ text ∈ texts, isComment text → ∀ c ∈ text.tail, wire.commentChars c)
    (htexts : texts.filter (fun text => !isComment text) =
      bridgeLines floats loads actorId (envelopes.map some)) :
    Carries floats loads actorId wire envelopes (uniform ending texts) where
  endings := by
    intro line hline
    obtain ⟨text, _, rfl⟩ := List.mem_map.mp hline
    exact hending
  comments := by
    intro line hline hcomment
    obtain ⟨text, htext, rfl⟩ := List.mem_map.mp hline
    exact hcomments text htext hcomment
  unambiguous := unambiguous_uniform ending texts
  events := by
    refine ⟨envelopes.map some, ?_, ?_⟩
    · rw [List.reduceOption, List.filterMap_map]
      exact List.filterMap_some
    · rw [uniform, List.map_map]
      have hsame : (fun line : Line => line.text) ∘ (⟨·, ending⟩) = id := rfl
      rw [hsame, List.map_id]
      exact htexts

theorem carries_bridgeLines (hending : wire.endings ending) :
    Carries floats loads actorId wire envelopes
      (uniform ending (bridgeLines floats loads actorId (envelopes.map some))) := by
  apply carries_uniform hending
  · intro text htext hcomment
    exact absurd hcomment (isComment_bridgeLines htext)
  · rw [List.filter_eq_self]
    intro text htext
    simpa using isComment_bridgeLines htext

theorem sdkInbox_uniform {texts : List (List Char)}
    (hcarries : Carries floats loads actorId wire envelopes (uniform ending texts)) :
    sdkInbox loads (render (uniform ending texts)) =
      (sdkReader loads).handsOut (texts.flatMap (pieces [])) := by
  rw [sdkInbox, splitLines_render hcarries.whole hcarries.unambiguous, uniform,
    List.flatMap_map]

theorem readField_start {β : Type} {trimEvent trimData : List Char → List Char}
    {dispatch : List Char → List (List Char) → List β} (line : List Char) :
    (readField trimEvent trimData dispatch .empty line).2 = [] := by
  rw [readField]
  split
  · change (if ([] : List (List Char)) = [] then [] else dispatch [] []) = []
    exact if_pos rfl
  · repeat' split
    all_goals rfl

theorem agentLoop_open {stream : List Char} (hopen : '\n' ∉ stream) :
    agentLoop loads stream = [] := by
  rw [agentLoop, readLines, cutLines_open hopen]
  simp only [List.map_nil, List.nil_append]
  split
  · rfl
  · rw [Reader.handsOut, Reader.feed, Reader.feed, List.append_nil]
    exact readField_start _

theorem RoundTrips.endings (htrips : RoundTrips floats loads actorId wire envelopes)
    (hsome : envelopes ≠ []) : wire.endings .cr = false := by
  cases hcr : wire.endings .cr with
  | false => rfl
  | true =>
      have hcarries : Carries floats loads actorId wire envelopes _ := carries_bridgeLines hcr
      have hopen : '\n' ∉ render (uniform .cr
          (bridgeLines floats loads actorId (envelopes.map some))) := by
        intro hmem
        obtain ⟨line, hline, hmem⟩ := List.mem_flatMap.mp hmem
        have hwhole := hcarries.whole line hline
        obtain ⟨text, _, rfl⟩ := List.mem_map.mp hline
        rcases List.mem_append.mp hmem with htext | hending
        · exact hwhole.1 htext
        · change '\n' ∈ ['\r'] at hending
          exact absurd hending (by decide)
      have hread := htrips.loop _ hcarries
      rw [agentLoop_open hopen] at hread
      exact absurd (List.map_eq_nil_iff.mp hread.symm) hsome

/-- The characters a JSON text may not do without: all but whitespace and what numbers are
written in. -/
def weighs (c : Char) : Bool :=
  !(c.isDigit || c ∈ [' ', '\t', '\n', '\r', '+', '-', '.', 'e', 'E'])

def weight (text : List Char) : Nat := text.countP weighs

/-- No text of a value is lighter than what `dumps` writes for it. -/
def Lightest (floats : FloatText) (loads : List Char → Option Json) : Prop :=
  ∀ text value, loads text = some value → weight (dumps false floats value) ≤ weight text

def dataWeight (line : List Char) : Nat :=
  if dataKey.isPrefixOf line then weight (line.drop 5) else 0

theorem weight_lstrip_le (text : List Char) : weight (lstrip text) ≤ weight text :=
  (List.dropWhile_sublist _).countP_le

theorem sdkDispatch_weight (hlightest : Lightest floats loads) (event : List Char)
    (data : List (List Char)) :
    ((sdkDispatch loads event data).map fun value => weight (dumps false floats value)).sum ≤
      (data.map weight).sum := by
  rw [sdkDispatch]
  split
  · cases hloads : loads data.flatten with
    | none => exact Nat.zero_le _
    | some value =>
        have hless := hlightest data.flatten value hloads
        rw [weight, weight, List.countP_flatten] at hless
        rw [Option.toList_some, List.map_singleton, List.sum_singleton]
        exact hless
  · exact Nat.zero_le _

theorem sdkReader_weight (hlightest : Lightest floats loads) (s : Pending) (line : List Char) :
    (((sdkReader loads).read s line).1.data.map weight).sum +
        (((sdkReader loads).read s line).2.map fun value => weight (dumps false floats value)).sum ≤
      (s.data.map weight).sum + dataWeight line := by
  simp only [sdkReader, readField]
  split
  · split
    · simp [Pending.empty]
    · have hdata := sdkDispatch_weight hlightest s.event s.data
      simp only [Pending.empty, List.map_nil, List.sum_nil, Nat.zero_add]
      exact hdata.trans (Nat.le_add_right _ _)
  split
  · simp
  split
  · simp
  split
  · rename_i hdata
    obtain ⟨rest, rfl⟩ := List.isPrefixOf_iff_prefix.mp hdata
    have hcolon : afterColon (dataKey ++ rest) = rest := rfl
    have hdrop : (dataKey ++ rest).drop 5 = rest := rfl
    have hless := weight_lstrip_le rest
    rw [hcolon, dataWeight, if_pos hdata, hdrop]
    simp only [List.map_append, List.map_cons, List.map_nil, List.sum_append, List.sum_singleton,
      List.sum_nil]
    omega
  · simp

theorem dataWeight_pieces (text : List Char) :
    ((pieces [] (dataKey ++ ' ' :: text)).map dataWeight).sum +
      text.countP (fun c => isBreak c && weighs c) ≤ weight text := by
  obtain ⟨first, rest, hpieces, hfront⟩ := pieces_append (dataKey ++ [' ']) [] text
  have hline : pieces [] (dataKey ++ ' ' :: text) = (dataKey ++ ' ' :: first) :: rest := by
    rw [List.append_nil, List.append_assoc] at hfront
    exact hfront
  have hfirst : dataWeight (dataKey ++ ' ' :: first) = weight first := rfl
  have hrest : (rest.map dataWeight).sum ≤ (rest.map weight).sum := by
    apply List.sum_le_sum
    intro line _
    rw [dataWeight]
    split
    · exact (List.drop_sublist 5 line).countP_le
    · exact Nat.zero_le _
  have hcount := countP_pieces weighs [] text
  rw [hpieces, List.countP_nil, Nat.zero_add, List.map_cons, List.sum_cons] at hcount
  rw [hline, List.map_cons, List.sum_cons, hfirst]
  change weight first + (rest.map weight).sum + _ = weight text at hcount
  omega

theorem sdk_frames {frames : Envelope → List (List Char)}
    (hlast : ∀ envelope, ∃ before, frames envelope = before ++ [[]]) :
    (sdkReader loads).handsOut ((frameLines openName (openText floats actorId) ++
        envelopes.flatMap frames).flatMap (pieces [])) =
      envelopes.flatMap fun envelope =>
        ((sdkReader loads).feed .empty ((frames envelope).flatMap (pieces []))).2 := by
  have hopen : (frameLines openName (openText floats actorId)).flatMap (pieces []) =
      frameLines openName (openText floats actorId) := by
    have hkey : ∀ c ∈ eventKey ++ ' ' :: openName, ¬ isBreak c :=
      List.all_iff_forall_prop.mp (by decide)
    have hdata : ∀ c ∈ dataKey ++ ' ' :: openText floats actorId, ¬ isBreak c := by
      intro c hc
      rcases mem_field visible_dataKey hc with hvisible | htext
      · exact visible_ne_break hvisible
      · exact visible_ne_break (visible_openText htext)
    rw [frameLines, List.flatMap_cons, List.flatMap_cons, List.flatMap_singleton,
      pieces_plain hkey, pieces_plain hdata]
    rfl
  have hblock : ∀ envelope, (sdkReader loads).feed .empty ((frames envelope).flatMap (pieces [])) =
      (.empty, ((sdkReader loads).feed .empty ((frames envelope).flatMap (pieces []))).2) := by
    intro envelope
    obtain ⟨before, hframe⟩ := hlast envelope
    rw [hframe, List.flatMap_append, Reader.feed_append]
    rfl
  obtain ⟨rest, hhead⟩ := openText_head floats actorId
  have hfirst : (sdkReader loads).feed .empty (frameLines openName (openText floats actorId)) =
      (.empty, []) := by
    have hdata := sdk_trims.data rest
    rw [← hhead] at hdata
    exact feed_frameLines (sdk_trims.event openName List.mem_cons_self) hdata
  have hrest := Reader.feed_blocks hblock envelopes
  rw [Reader.handsOut, List.flatMap_append, hopen, Reader.feed_append, List.flatMap_assoc]
  change ((sdkReader loads).feed .empty (frameLines openName (openText floats actorId))).2 ++
    ((sdkReader loads).feed ((sdkReader loads).feed .empty
      (frameLines openName (openText floats actorId))).1 _).2 = _
  rw [hfirst]
  exact congrArg Prod.snd hrest

theorem sum_flatMap_le (envelopes : List Envelope) {out : Envelope → List Json}
    {value : Json → Nat} {lost whole : Envelope → Nat}
    (hone : ∀ envelope, ((out envelope).map value).sum + lost envelope ≤ whole envelope) :
    ((envelopes.flatMap out).map value).sum + (envelopes.map lost).sum ≤
      (envelopes.map whole).sum := by
  induction envelopes with
  | nil => exact Nat.le_refl _
  | cons envelope envelopes ih =>
      have hfirst := hone envelope
      simp only [List.flatMap_cons, List.map_append, List.sum_append, List.map_cons, List.sum_cons]
      omega

theorem sdk_frame_weight (hlightest : Lightest floats loads) (envelope : Envelope) :
    ((((sdkReader loads).feed .empty ((frameLines eventName (eventText floats loads envelope)).flatMap
        (pieces []))).2).map fun value => weight (dumps false floats value)).sum +
      (eventText floats loads envelope).countP (fun c => isBreak c && weighs c) ≤
        weight (eventText floats loads envelope) := by
  have hread := Reader.feed_weight (fun s : Pending => (s.data.map weight).sum)
    (fun value => weight (dumps false floats value)) dataWeight (sdkReader_weight hlightest)
    Pending.empty ((frameLines eventName (eventText floats loads envelope)).flatMap (pieces []))
  have hpieces := dataWeight_pieces (eventText floats loads envelope)
  have hkey : ((pieces [] (eventKey ++ ' ' :: eventName)).map dataWeight).sum = 0 := rfl
  have hend : ((pieces [] []).map dataWeight).sum = 0 := rfl
  rw [frameLines] at hread ⊢
  simp only [List.flatMap_cons, List.flatMap_nil, List.append_nil, List.map_append,
    List.sum_append, hkey, hend] at hread
  simp only [List.flatMap_cons, List.flatMap_nil, List.append_nil]
  have hempty : (Pending.empty.data.map weight).sum = 0 := rfl
  omega

variable {envelope : Envelope}

theorem RoundTrips.unbroken (htrips : RoundTrips floats loads actorId wire envelopes)
    (hlightest : Lightest floats loads) (henvelope : envelope ∈ envelopes)
    (hc : c ∈ eventText floats loads envelope) (hbreak : isBreak c) : ¬ weighs c := by
  intro hweighs
  obtain ⟨ending, hending⟩ := wire.ends
  have hcarries : Carries floats loads actorId wire envelopes _ := carries_bridgeLines hending
  have hread := htrips.sdk _ hcarries
  have hframes : bridgeLines floats loads actorId (envelopes.map some) =
      frameLines openName (openText floats actorId) ++
        envelopes.flatMap fun envelope => frameLines eventName (eventText floats loads envelope) := by
    rw [bridgeLines, List.flatMap_map]
    rfl
  have hlast : ∀ envelope, ∃ before,
      frameLines eventName (eventText floats loads envelope) = before ++ [[]] :=
    fun envelope => ⟨[_, _], rfl⟩
  rw [sdkInbox_uniform hcarries, hframes, sdk_frames hlast] at hread
  have hsum := sum_flatMap_le envelopes (sdk_frame_weight hlightest)
  rw [hread, List.map_map] at hsum
  have hsame : ((fun value => weight (dumps false floats value)) ∘ eventPayload loads) =
      fun envelope => weight (eventText floats loads envelope) := by
    funext envelope
    rw [Function.comp, eventText]
  rw [hsame] at hsum
  have hzero : (envelopes.map fun envelope =>
      (eventText floats loads envelope).countP fun c => isBreak c && weighs c).sum = 0 := by
    omega
  have hnone := List.sum_eq_zero_iff_forall_eq_nat.mp hzero _
    (List.mem_map_of_mem henvelope)
  rw [List.countP_eq_zero] at hnone
  apply hnone c hc
  rw [hbreak, hweighs]
  rfl

theorem weighs_of_isRawBreak (hraw : isRawBreak c) : isBreak c ∧ weighs c := by
  have hall : ∀ code ∈ [0x85, 0x2028, 0x2029], isBreak (Char.ofNat code) ∧
      weighs (Char.ofNat code) := by decide
  rw [← Char.ofNat_toNat c]
  exact hall c.toNat (of_decide_eq_true hraw)

theorem RoundTrips.plain (htrips : RoundTrips floats loads actorId wire envelopes)
    (hlightest : Lightest floats loads) :
    ∀ envelope ∈ envelopes, ∀ c ∈ eventText floats loads envelope, ¬ isBreak c := by
  intro envelope henvelope c hc hbreak
  have hraw := (isBreak_eventText hc hbreak).1
  exact htrips.unbroken hlightest henvelope hc hbreak (weighs_of_isRawBreak hraw).2

theorem RoundTrips.payloads (htrips : RoundTrips floats loads actorId wire envelopes)
    (hlightest : Lightest floats loads) :
    ∀ envelope ∈ envelopes, ∀ text ∈ texts (eventPayload loads envelope),
      ∀ c ∈ text.toList, ¬ isRawBreak c := by
  intro envelope henvelope text htext c hc hraw
  have hhigh : 0x7F ≤ c.toNat := by
    have hcode := of_decide_eq_true hraw
    simp only [List.mem_cons, List.not_mem_nil, or_false] at hcode
    omega
  have hmem : c ∈ eventText floats loads envelope :=
    mem_dumps_of_high hhigh (eventPayload loads envelope) text htext hc
  exact htrips.plain hlightest envelope henvelope c hmem (weighs_of_isRawBreak hraw).1

def commentedFrame (floats : FloatText) (loads : List Char → Option Json) (c : Char)
    (envelope : Envelope) : List (List Char) :=
  [eventKey ++ ' ' :: eventName, [':', c], dataKey ++ ' ' :: eventText floats loads envelope, []]

theorem feed_commentedFrame (hbreak : isBreak c)
    (hplain : ∀ d ∈ eventText floats loads envelope, ¬ isBreak d) :
    ((sdkReader loads).feed .empty ((commentedFrame floats loads c envelope).flatMap
      (pieces []))).2 = [] := by
  have hkey : pieces [] (eventKey ++ ' ' :: eventName) = [eventKey ++ ' ' :: eventName] := rfl
  have hcomment : pieces [] [':', c] = [[':'], []] := by
    rw [pieces, if_neg (by decide), pieces, if_pos hbreak]
    rfl
  have hdata : pieces [] (dataKey ++ ' ' :: eventText floats loads envelope) =
      [dataKey ++ ' ' :: eventText floats loads envelope] := by
    apply pieces_plain
    intro d hd
    rcases mem_field visible_dataKey hd with hvisible | htext
    · exact visible_ne_break hvisible
    · exact hplain d htext
  rw [commentedFrame, List.flatMap_cons, List.flatMap_cons, List.flatMap_cons,
    List.flatMap_singleton, hkey, hcomment, hdata]
  rfl

theorem RoundTrips.comments (htrips : RoundTrips floats loads actorId wire envelopes)
    (hlightest : Lightest floats loads) (hsome : envelopes ≠ []) :
    ∀ c, wire.commentChars c → ¬ isBreak c := by
  intro c hc hbreak
  obtain ⟨ending, hending⟩ := wire.ends
  have hcarries : Carries floats loads actorId wire envelopes (uniform ending
      (frameLines openName (openText floats actorId) ++
        envelopes.flatMap (commentedFrame floats loads c))) := by
    apply carries_uniform hending
    · intro text htext hcomment
      rw [List.mem_append, List.mem_flatMap] at htext
      rcases htext with hopen | ⟨envelope, _, hframe⟩
      · exact absurd hcomment (isComment_frameLines hopen)
      · simp only [commentedFrame, List.mem_cons, List.not_mem_nil, or_false] at hframe
        rcases hframe with rfl | rfl | rfl | rfl
        · cases hcomment
        · intro d hd
          rw [List.tail_cons, List.mem_singleton] at hd
          rw [hd]
          exact hc
        · cases hcomment
        · cases hcomment
    · rw [List.filter_append, List.filter_flatMap, bridgeLines, List.flatMap_map]
      rfl
  have hread := htrips.sdk _ hcarries
  have hlast : ∀ envelope, ∃ before, commentedFrame floats loads c envelope = before ++ [[]] :=
    fun envelope => ⟨[_, _, _], rfl⟩
  have hnone : (envelopes.flatMap fun envelope => ((sdkReader loads).feed .empty
      ((commentedFrame floats loads c envelope).flatMap (pieces []))).2) = [] := by
    rw [List.flatMap_eq_nil_iff]
    intro envelope henvelope
    exact feed_commentedFrame hbreak (htrips.plain hlightest envelope henvelope)
  rw [sdkInbox_uniform hcarries, sdk_frames hlast, hnone] at hread
  exact hsome (List.map_eq_nil_iff.mp hread.symm)

end Unsafe

/-! ## The theorem -/

/-- On a safe wire the three readers get back every event, each once and in order; and where there
is any event, they do so on no other wire.  `loads` decodes what the bridge writes for these
events, and reads no value from a text lighter than the one `dumps` writes for it. -/
theorem sse_round_trips_iff (floats : FloatText) (loads : List Char → Option Json)
    (actorId : String) (wire : Wire) (envelopes : List Envelope)
    (hround : ∀ envelope ∈ envelopes,
      loads (eventText floats loads envelope) = some (eventPayload loads envelope))
    (hlightest : Lightest floats loads) :
    (Safe loads wire envelopes → RoundTrips floats loads actorId wire envelopes) ∧
      (envelopes ≠ [] → RoundTrips floats loads actorId wire envelopes →
        Safe loads wire envelopes) := by
  constructor
  · exact fun hsafe => hsafe.roundTrips hround
  · intro hsome htrips
    exact ⟨htrips.endings hsome, htrips.comments hlightest hsome, htrips.payloads hlightest⟩

def noFloats : FloatText where
  write _ := ['0', '.', '0']
  visible := fun _ => List.all_iff_forall_prop.mp (by decide)

def speech (content : String) : Envelope where
  eventId := "e"
  kind := "chat.speech.claim"
  actorName := "a"
  content := content
  createdAt := none
  cursor := "1"

def speechPayload (content : String) : Json :=
  .obj [("operation_id", .null), ("event_id", .str "e"), ("seq", .null),
    ("kind", .str "chat.speech.claim"), ("actor_id", .str "a"), ("payload", .str content),
    ("addressed_to_actor_ids", .arr []), ("private_to_actor_ids", .null),
    ("replies_to_event_id", .null), ("expected_response", .null), ("created_at", .null),
    ("cursor", .str "1")]

/-- `json.loads`, as far as one payload and texts that are no JSON are concerned. -/
def loadsOf (payload : Json) (text : List Char) : Option Json :=
  if text = dumps false noFloats payload then some payload else none

theorem lightest_loadsOf (payload : Json) : Lightest noFloats (loadsOf payload) := by
  intro text value hloads
  rw [loadsOf] at hloads
  split at hloads
  · rename_i htext
    rw [htext, Option.some.inj hloads]
  · cases hloads

def plainWire : Wire where
  endings ending := ending ≠ .cr
  ends := ⟨.lf, by decide⟩
  commentChars c := c = 'x'
  inLine := by
    intro c hc
    rw [of_decide_eq_true hc]
    decide

theorem eventPayload_speech {content : String}
    (hcontent : loadsOf (speechPayload content) content.toList = none) :
    eventPayload (loadsOf (speechPayload content)) (speech content) = speechPayload content := by
  rw [eventPayload, tryJson, show (speech content).content = content from rfl, hcontent]
  rfl

theorem loadsOf_eventText {content : String}
    (hcontent : loadsOf (speechPayload content) content.toList = none) :
    loadsOf (speechPayload content)
        (eventText noFloats (loadsOf (speechPayload content)) (speech content)) =
      some (eventPayload (loadsOf (speechPayload content)) (speech content)) := by
  rw [eventText, eventPayload_speech hcontent]
  exact if_pos rfl

theorem plain_speech_round_trips :
    RoundTrips noFloats (loadsOf (speechPayload "hello")) "actor" plainWire [speech "hello"] := by
  have hcontent : loadsOf (speechPayload "hello") "hello".toList = none := by decide
  have hround : ∀ envelope ∈ [speech "hello"],
      loadsOf (speechPayload "hello")
          (eventText noFloats (loadsOf (speechPayload "hello")) envelope) =
        some (eventPayload (loadsOf (speechPayload "hello")) envelope) := by
    intro envelope henvelope
    rw [List.mem_singleton.mp henvelope]
    exact loadsOf_eventText hcontent
  have hcomments : ∀ c, plainWire.commentChars c → ¬ isBreak c := by
    intro c hc
    rw [of_decide_eq_true hc]
    decide
  have hpayloads : ∀ envelope ∈ [speech "hello"],
      ∀ text ∈ texts (eventPayload (loadsOf (speechPayload "hello")) envelope),
        ∀ c ∈ text.toList, ¬ isRawBreak c := by
    intro envelope henvelope
    rw [List.mem_singleton.mp henvelope, eventPayload_speech hcontent]
    have hquiet : ∀ text ∈ texts (speechPayload "hello"),
        text.toList.all fun c => ! isRawBreak c := by decide
    intro text htext c hc
    have hc' := List.all_eq_true.mp (hquiet text htext) c hc
    rw [Bool.not_eq_true'] at hc'
    rw [hc']
    exact Bool.false_ne_true
  exact (sse_round_trips_iff noFloats _ "actor" plainWire _ hround (lightest_loadsOf _)).1
    ⟨rfl, hcomments, hpayloads⟩

/-- A speech with a line separator in it: its text is JSON, and the SDK yields nothing for it from
the stream as the bridge writes it. -/
theorem separated_speech_lost :
    loadsOf (speechPayload "a\u2028b")
        (eventText noFloats (loadsOf (speechPayload "a\u2028b")) (speech "a\u2028b")) =
      some (eventPayload (loadsOf (speechPayload "a\u2028b")) (speech "a\u2028b")) ∧
    sdkInbox (loadsOf (speechPayload "a\u2028b"))
        (gen noFloats (loadsOf (speechPayload "a\u2028b")) "actor" [some (speech "a\u2028b")]) = [] ∧
      ¬ RoundTrips noFloats (loadsOf (speechPayload "a\u2028b")) "actor" plainWire
        [speech "a\u2028b"] := by
  have hcontent : loadsOf (speechPayload "a\u2028b") "a\u2028b".toList = none := by decide
  have hlost : sdkInbox (loadsOf (speechPayload "a\u2028b"))
      (gen noFloats (loadsOf (speechPayload "a\u2028b")) "actor" [some (speech "a\u2028b")]) = [] := by
    decide +kernel
  refine ⟨loadsOf_eventText hcontent, hlost, ?_⟩
  intro htrips
  have hcarries : Carries noFloats (loadsOf (speechPayload "a\u2028b")) "actor" plainWire
      [speech "a\u2028b"] _ := carries_bridgeLines (rfl : plainWire.endings .lf = true)
  have hread := htrips.sdk _ hcarries
  rw [gen_eq_render] at hlost
  exact absurd (hlost.symm.trans hread) (List.cons_ne_nil _ _).symm

end OpsCure.Sse
