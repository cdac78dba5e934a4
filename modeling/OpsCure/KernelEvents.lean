/-
Frames of kernel events: `_encode_sse` writes them (`api/events.py`), and the bridge client reads them
with `parse_sse_stream` over the lines that requests makes of the body (`bridge_client.py`).  A JSON
text holds NEL, LS and PS as they are, and the reader breaks lines at them.
-/
import OpsCure.Library.ChunkedLines
import OpsCure.Library.Trimming
import OpsCure.Library.Utf8
import OpsCure.SseRoundTrip

namespace OpsCure.KernelEvents

open JsonText Lines Sse
open Utf8 (Bytes)

/-! ## The encoder -/

/-- What `_encode_sse` is called with. -/
structure Sent where
  eventName : List Char
  payload : List (String × Json)

section Encoder

variable (floats : FloatText)

def Sent.text (sent : Sent) : List Char := dumps false floats (.obj sent.payload)

/-- `_encode_sse`. -/
def encodeSse (sent : Sent) : List Char := frame sent.eventName (sent.text floats)

def body (sents : List Sent) : Bytes := Utf8.encode (sents.flatMap (encodeSse floats))

end Encoder

/-! ## The lines of the response -/

/-- Requests hands on no empty chunk. -/
def handOn (text : List Char) : List (List Char) := if text = [] then [] else [text]

/-- `stream_decode_response_unicode`. -/
def decodeChunks (state : Utf8.State) : List Bytes → List (List Char)
  | [] => handOn (Utf8.finish state)
  | chunk :: chunks =>
      handOn (Utf8.decodeFrom state chunk).1 ++ decodeChunks (Utf8.decodeFrom state chunk).2 chunks

/-- `response.iter_lines(decode_unicode=True)`. -/
def responseLines (chunks : List Bytes) : List (List Char) := iterLines (decodeChunks .start chunks)

/-! ## The reader -/

/-- What `parse_sse_stream` yields. -/
structure Parsed where
  event : List Char
  data : Json

/-- The fields of a frame that have been read so far. -/
structure Fields where
  eventName : Option (List Char)
  dataChunks : List (List Char)

def Fields.empty : Fields := ⟨none, []⟩

/-- `message` -/
def messageName : List Char := ['m', 'e', 's', 's', 'a', 'g', 'e']

/-- `event_name or "message"`. -/
def eventOr : Option (List Char) → List Char
  | some (c :: rest) => c :: rest
  | _ => messageName

/-- `line.rstrip("\r")`. -/
def rstripCr (line : List Char) : List Char := (line.reverse.dropWhile (· = '\r')).reverse

section Reader

variable (loads : List Char → Option Json)

/-- Data that is no JSON is handed on as a text. -/
def framePayload (dataChunks : List (List Char)) : Json :=
  if dataChunks = [] then .null
  else
    let body := ['\n'].intercalate dataChunks
    (loads body).getD (.str (String.ofList body))

def Fields.flush (s : Fields) : List Parsed :=
  if s.eventName.isSome ∨ s.dataChunks ≠ [] then
    [⟨eventOr s.eventName, framePayload loads s.dataChunks⟩]
  else []

def parseLine (s : Fields) (raw : List Char) : Fields × List Parsed :=
  let line := rstripCr raw
  if line = [] then (.empty, s.flush loads)
  else if line.head? = some ':' then (s, [])
  else if eventKey.isPrefixOf line then ({ s with eventName := some (strip (line.drop 6)) }, [])
  else if dataKey.isPrefixOf line then
    ({ s with dataChunks := s.dataChunks ++ [lstrip (line.drop 5)] }, [])
  else (s, [])

def frameReader : Reader Fields Parsed where
  start := .empty
  read := parseLine loads

/-- `parse_sse_stream`: what is left behind the last line is a frame as well. -/
def parseSseStream (lines : List (List Char)) : List Parsed :=
  ((frameReader loads).feed .empty lines).2 ++
    ((frameReader loads).feed .empty lines).1.flush loads

/-- `stream_kernel_events`, over a body that comes in these chunks. -/
def streamKernelEvents (chunks : List Bytes) : List Parsed := parseSseStream loads (responseLines chunks)

end Reader

/-! ## What the claim of the stream is -/

section Statement

variable (floats : FloatText) (loads : List Char → Option Json)

/-- The reader yields the names and payloads that were sent, each once and in order, however the
body is cut into chunks. -/
def Arrives (sents : List Sent) : Prop :=
  ∀ chunks : List Bytes, chunks.flatten = body floats sents →
    streamKernelEvents loads chunks = sents.map fun sent => ⟨sent.eventName, .obj sent.payload⟩

/-- A name that a field can hold, as those of the bridge are, and a payload without NEL, LS and PS. -/
structure Plain (sent : Sent) : Prop where
  named : sent.eventName ≠ []
  stripped : strip sent.eventName = sent.eventName
  unbroken : ∀ c ∈ sent.eventName, ¬ isBreak c
  payload : ∀ text ∈ texts (.obj sent.payload), ∀ c ∈ text.toList, ¬ isRawBreak c

end Statement

variable {floats : FloatText} {loads : List Char → Option Json}

/-! ## The text that arrives -/

theorem flatten_handOn (text : List Char) : (handOn text).flatten = text := by
  rw [handOn]
  split
  · next hempty => rw [hempty, List.flatten_nil]
  · exact List.flatten_singleton

theorem flatten_decodeChunks (state : Utf8.State) (chunks : List Bytes) :
    (decodeChunks state chunks).flatten =
      (Utf8.decodeFrom state chunks.flatten).1 ++
        Utf8.finish (Utf8.decodeFrom state chunks.flatten).2 := by
  induction chunks generalizing state with
  | nil => exact flatten_handOn _
  | cons chunk chunks ih =>
      rw [decodeChunks, List.flatten_append, flatten_handOn, ih, List.flatten_cons,
        Utf8.decodeFrom_append, List.append_assoc]

variable {sents : List Sent} {sent : Sent}

variable {chunks : List Bytes} {line : List Char} {c : Char} {parsed : Parsed}

theorem flatten_decodeChunks_body (hchunks : chunks.flatten = body floats sents) :
    (decodeChunks .start chunks).flatten = sents.flatMap (encodeSse floats) := by
  rw [flatten_decodeChunks, hchunks, body]
  exact Utf8.decode_encode _

def sentLines (floats : FloatText) (sent : Sent) : List (List Char) :=
  frameLines sent.eventName (sent.text floats)

theorem flatMap_encodeSse (sents : List Sent) :
    sents.flatMap (encodeSse floats) = render (uniform .lf (sents.flatMap (sentLines floats))) := by
  induction sents with
  | nil => rfl
  | cons sent sents ih =>
      rw [List.flatMap_cons, List.flatMap_cons, uniform, List.map_append, render,
        List.flatMap_append, ih, encodeSse, frame_eq_render]
      rfl

theorem text_oneLine (sent : Sent) : '\n' ∉ sent.text floats ∧ '\r' ∉ sent.text floats := by
  constructor
  · intro hmem
    exact absurd (isBreak_dumps hmem (by decide)).1 (by decide)
  · intro hmem
    exact absurd (isBreak_dumps hmem (by decide)).1 (by decide)

theorem whole_uniform {sents : List Sent}
    (hnames : ∀ sent ∈ sents, ∀ c ∈ sent.eventName, ¬ isBreak c) :
    ∀ line ∈ uniform .lf (sents.flatMap (sentLines floats)), line.Whole := by
  intro line hline
  obtain ⟨text, htext, rfl⟩ := List.mem_map.mp hline
  obtain ⟨sent, hsent, htext⟩ := List.mem_flatMap.mp htext
  constructor
  · intro hmem
    rcases mem_frameLines htext hmem with hvisible | hname | hpayload
    · exact absurd hvisible (by decide)
    · exact hnames sent hsent _ hname rfl
    · exact (text_oneLine sent).1 hpayload
  · intro hmem
    rcases mem_frameLines htext hmem with hvisible | hname | hpayload
    · exact absurd hvisible (by decide)
    · exact hnames sent hsent _ hname rfl
    · exact (text_oneLine sent).2 hpayload

theorem responseLines_eq (hnames : ∀ sent ∈ sents, ∀ c ∈ sent.eventName, ¬ isBreak c)
    (hchunks : chunks.flatten = body floats sents) :
    responseLines chunks = (sents.flatMap (sentLines floats)).flatMap (pieces []) := by
  have htext := flatten_decodeChunks_body hchunks
  have hwhole := @whole_uniform floats sents hnames
  rw [flatMap_encodeSse] at htext
  have hcr : '\r' ∉ (decodeChunks .start chunks).flatten := by
    rw [htext]
    intro hmem
    obtain ⟨line, hline, hmem⟩ := List.mem_flatMap.mp hmem
    rcases List.mem_append.mp hmem with htext | hending
    · exact (hwhole line hline).2 htext
    · obtain ⟨_, _, rfl⟩ := List.mem_map.mp hline
      change '\r' ∈ ['\n'] at hending
      exact absurd hending (by decide)
  rw [responseLines, iterLines_eq_splitLines hcr, htext,
    splitLines_render hwhole (unambiguous_uniform _ _), uniform, List.flatMap_map]

/-! ## Plain frames -/

theorem rstripCr_eq_self (hcr : '\r' ∉ line) : rstripCr line = line := by
  rw [rstripCr, Trimming.dropWhile_eq_self, List.reverse_reverse]
  intro c hc
  rw [List.head?_reverse] at hc
  rw [decide_eq_false_iff_not]
  intro hsame
  rw [hsame] at hc
  exact hcr (List.mem_of_getLast? hc)

section Reading

variable (s : Fields) {rest : List Char}

theorem parseLine_event (hcr : '\r' ∉ eventKey ++ rest) :
    parseLine loads s (eventKey ++ rest) = ({ s with eventName := some (strip rest) }, []) := by
  simp only [parseLine, rstripCr_eq_self hcr]
  rfl

theorem parseLine_data (hcr : '\r' ∉ dataKey ++ rest) :
    parseLine loads s (dataKey ++ rest) =
      ({ s with dataChunks := s.dataChunks ++ [lstrip rest] }, []) := by
  simp only [parseLine, rstripCr_eq_self hcr]
  rfl

end Reading

theorem Plain.feed (hplain : Plain sent)
    (hround : loads (sent.text floats) = some (.obj sent.payload)) :
    (frameReader loads).feed .empty (sentLines floats sent) =
      (.empty, [⟨sent.eventName, .obj sent.payload⟩]) := by
  have hnameCr : '\r' ∉ eventKey ++ ' ' :: sent.eventName := by
    intro hmem
    rcases mem_field visible_eventKey hmem with hvisible | hname
    · exact absurd hvisible (by decide)
    · exact hplain.unbroken _ hname rfl
  have htextCr : '\r' ∉ dataKey ++ ' ' :: sent.text floats := by
    intro hmem
    rcases mem_field visible_dataKey hmem with hvisible | htext
    · exact absurd hvisible (by decide)
    · exact (text_oneLine sent).2 htext
  have hname : strip (' ' :: sent.eventName) = sent.eventName := hplain.stripped
  have htext : lstrip (' ' :: sent.text floats) = sent.text floats := by
    rw [Sent.text, dumps]
    rfl
  have hevent := @parseLine_event loads .empty _ hnameCr
  have hdata := @parseLine_data loads ⟨some sent.eventName, []⟩ _ htextCr
  rw [hname] at hevent
  rw [htext] at hdata
  have hflush : (Fields.mk (some sent.eventName) [sent.text floats]).flush loads =
      [⟨sent.eventName, .obj sent.payload⟩] := by
    have hsome : (Fields.mk (some sent.eventName) [sent.text floats]).eventName.isSome := rfl
    have hpayload : framePayload loads [sent.text floats] = .obj sent.payload := by
      rw [framePayload, if_neg (List.cons_ne_nil _ _), List.intercalate_singleton]
      simp only [hround, Option.getD_some]
    rw [Fields.flush, if_pos (Or.inl hsome), hpayload]
    cases hcase : sent.eventName with
    | nil => exact absurd hcase hplain.named
    | cons => rfl
  rw [sentLines, frameLines, Reader.feed, Reader.feed, Reader.feed, Reader.feed]
  change _ = _
  simp only [frameReader, hevent]
  have hempty : ({ Fields.empty with eventName := some sent.eventName } : Fields) =
      ⟨some sent.eventName, []⟩ := rfl
  rw [hempty, hdata]
  simp only [List.nil_append, List.append_nil]
  exact congrArg (Prod.mk Fields.empty) hflush

theorem arrives_of_plain (hplain : ∀ sent ∈ sents, Plain sent)
    (hround : ∀ sent ∈ sents, loads (sent.text floats) = some (.obj sent.payload)) :
    Arrives floats loads sents := by
  intro chunks hchunks
  have hnames : ∀ sent ∈ sents, ∀ c ∈ sent.eventName, ¬ isBreak c :=
    fun sent hsent => (hplain sent hsent).unbroken
  have hpieces : (sents.flatMap (sentLines floats)).flatMap (pieces []) =
      sents.flatMap (sentLines floats) := by
    have hone : ∀ line ∈ sents.flatMap (sentLines floats), pieces [] line = [line] := by
      intro line hline
      obtain ⟨sent, hsent, hline⟩ := List.mem_flatMap.mp hline
      apply pieces_plain
      intro c hc hbreak
      rcases mem_frameLines hline hc with hvisible | hname | htext
      · exact visible_ne_break hvisible hbreak
      · exact hnames sent hsent c hname hbreak
      · obtain ⟨hraw, text, hmem, hc⟩ := isBreak_dumps htext hbreak
        exact (hplain sent hsent).payload text hmem c hc hraw
    rw [List.flatMap_congr hone, List.flatMap_singleton']
  rw [streamKernelEvents, responseLines_eq hnames hchunks, hpieces, parseSseStream]
  clear hpieces hchunks hnames
  have hfeed : (frameReader loads).feed .empty (sents.flatMap (sentLines floats)) =
      (.empty, sents.map fun sent => ⟨sent.eventName, .obj sent.payload⟩) := by
    induction sents with
    | nil => rfl
    | cons sent sents ih =>
        have hfirst := (hplain sent List.mem_cons_self).feed (hround sent List.mem_cons_self)
        have hrest := ih (fun other hother => hplain other (List.mem_cons_of_mem _ hother))
          (fun other hother => hround other (List.mem_cons_of_mem _ hother))
        rw [List.flatMap_cons, Reader.feed_append, hfirst, hrest]
        rfl
  rw [hfeed]
  exact List.append_nil _

/-! ## Names -/

/-- A name that a line can give. -/
structure Fit (name : List Char) : Prop where
  stripped : strip name = name
  unbroken : ∀ c ∈ name, ¬ isBreak c

theorem strip_strip (text : List Char) : strip (strip text) = strip text :=
  Trimming.trimBy_trimBy Text.isSpace text

theorem mem_of_mem_strip {text : List Char} (hc : c ∈ strip text) : c ∈ text := by
  rw [strip, List.mem_reverse] at hc
  have hfront := (List.dropWhile_sublist _).mem hc
  rw [List.mem_reverse] at hfront
  exact (List.dropWhile_sublist _).mem hfront

theorem mem_of_mem_rstripCr (hc : c ∈ rstripCr line) : c ∈ line := by
  rw [rstripCr, List.mem_reverse] at hc
  exact List.mem_reverse.mp ((List.dropWhile_sublist _).mem hc)

theorem fit_messageName : Fit messageName where
  stripped := by decide
  unbroken := List.all_iff_forall_prop.mp (by decide)

theorem fit_eventOr {eventName : Option (List Char)} (hfit : ∀ name ∈ eventName, Fit name) :
    eventOr eventName ≠ [] ∧ Fit (eventOr eventName) := by
  cases eventName with
  | none => exact ⟨List.cons_ne_nil _ _, fit_messageName⟩
  | some name =>
      cases name with
      | nil => exact ⟨List.cons_ne_nil _ _, fit_messageName⟩
      | cons => exact ⟨List.cons_ne_nil _ _, hfit _ rfl⟩

theorem fit_flush {s : Fields} (hfit : ∀ name ∈ s.eventName, Fit name)
    (hparsed : parsed ∈ s.flush loads) : parsed.event ≠ [] ∧ Fit parsed.event := by
  rw [Fields.flush] at hparsed
  split at hparsed
  · rw [List.mem_singleton.mp hparsed]
    exact fit_eventOr hfit
  · exact absurd hparsed List.not_mem_nil

theorem fit_parseLine {s : Fields} {raw : List Char} (hfit : ∀ name ∈ s.eventName, Fit name)
    (hraw : ∀ c ∈ raw, ¬ isBreak c) :
    (∀ name ∈ (parseLine loads s raw).1.eventName, Fit name) ∧
      ∀ parsed ∈ (parseLine loads s raw).2, parsed.event ≠ [] ∧ Fit parsed.event := by
  simp only [parseLine]
  split
  · exact ⟨fun name hname => absurd hname (Option.not_mem_none name), fun _ => fit_flush hfit⟩
  split
  · exact ⟨hfit, fun _ hnone => absurd hnone List.not_mem_nil⟩
  split
  · refine ⟨?_, fun _ hnone => absurd hnone List.not_mem_nil⟩
    intro name hname
    rw [Option.mem_some_iff] at hname
    rw [← hname]
    refine ⟨strip_strip _, ?_⟩
    intro c hc
    exact hraw c (mem_of_mem_rstripCr (List.mem_of_mem_drop (mem_of_mem_strip hc)))
  split
  · exact ⟨hfit, fun _ hnone => absurd hnone List.not_mem_nil⟩
  · exact ⟨hfit, fun _ hnone => absurd hnone List.not_mem_nil⟩

theorem fit_feed {s : Fields} {lines : List (List Char)}
    (hfit : ∀ name ∈ s.eventName, Fit name) (hlines : ∀ line ∈ lines, ∀ c ∈ line, ¬ isBreak c) :
    (∀ name ∈ ((frameReader loads).feed s lines).1.eventName, Fit name) ∧
      ∀ parsed ∈ ((frameReader loads).feed s lines).2, parsed.event ≠ [] ∧ Fit parsed.event := by
  induction lines generalizing s with
  | nil => exact ⟨hfit, fun _ hnone => absurd hnone List.not_mem_nil⟩
  | cons line lines ih =>
      have hfirst := @fit_parseLine loads s line hfit (hlines line List.mem_cons_self)
      have hrest := ih hfirst.1 fun other hother => hlines other (List.mem_cons_of_mem _ hother)
      rw [Reader.feed]
      refine ⟨hrest.1, ?_⟩
      intro parsed hparsed
      rcases List.mem_append.mp hparsed with hhere | hlater
      · exact hfirst.2 parsed hhere
      · exact hrest.2 parsed hlater

theorem fit_parseSseStream {lines : List (List Char)}
    (hlines : ∀ line ∈ lines, ∀ c ∈ line, ¬ isBreak c)
    (hparsed : parsed ∈ parseSseStream loads lines) : parsed.event ≠ [] ∧ Fit parsed.event := by
  have hfeed := @fit_feed loads .empty lines (fun name hname => absurd hname (Option.not_mem_none name))
    hlines
  rcases List.mem_append.mp hparsed with hread | hleft
  · exact hfeed.2 parsed hread
  · exact fit_flush hfeed.1 hleft

theorem responseLines_body (sents : List Sent) :
    responseLines [body floats sents] = splitLines (sents.flatMap (encodeSse floats)) := by
  have hchunks : decodeChunks .start [body floats sents] =
      handOn (sents.flatMap (encodeSse floats)) := by
    rw [decodeChunks, body, Utf8.decodeFrom_encode]
    exact List.append_nil _
  rw [responseLines, hchunks, handOn]
  split
  · next hempty => rw [hempty]; rfl
  · exact iterLines_singleton _

theorem Arrives.names (harrives : Arrives floats loads sents) (hsent : sent ∈ sents) :
    sent.eventName ≠ [] ∧ Fit sent.eventName := by
  have hread := harrives [body floats sents] List.flatten_singleton
  rw [streamKernelEvents, responseLines_body] at hread
  have hmem : (⟨sent.eventName, .obj sent.payload⟩ : Parsed) ∈
      parseSseStream loads (splitLines (sents.flatMap (encodeSse floats))) := by
    rw [hread]
    exact List.mem_map_of_mem hsent
  exact fit_parseSseStream (fun line hline => not_isBreak_of_mem_splitLines hline) hmem

/-! ## Payloads -/

/-- What an object weighs as a text; other data counts for nothing. -/
def objWeight (floats : FloatText) (parsed : Parsed) : Nat :=
  if parsed.data.isObj then weight (dumps false floats parsed.data) else 0

theorem weight_append (text more : List Char) : weight (text ++ more) = weight text + weight more :=
  List.countP_append

theorem weight_intercalate (texts : List (List Char)) :
    weight (['\n'].intercalate texts) = (texts.map weight).sum := by
  induction texts with
  | nil => rfl
  | cons text texts ih =>
      by_cases hlast : texts = []
      · rw [hlast, List.intercalate_singleton, List.map_singleton, List.sum_singleton]
      · have hfeed : weight ['\n'] = 0 := rfl
        rw [List.intercalate_cons_of_ne_nil hlast, weight_append, weight_append, hfeed, ih,
          List.map_cons, List.sum_cons, Nat.add_zero]

def held (s : Fields) : Nat := (s.dataChunks.map weight).sum

theorem flush_weight (hlightest : Lightest floats loads) (s : Fields) :
    ((s.flush loads).map (objWeight floats)).sum ≤ held s := by
  rw [Fields.flush]
  split
  · rw [List.map_singleton, List.sum_singleton, objWeight, framePayload]
    by_cases hnone : s.dataChunks = []
    · rw [if_pos hnone]
      exact Nat.zero_le _
    · rw [if_neg hnone]
      simp only []
      split
      · next hobj =>
          cases hloads : loads (['\n'].intercalate s.dataChunks) with
          | none =>
              rw [hloads] at hobj
              cases hobj
          | some value =>
              have hless := hlightest _ value hloads
              rw [weight_intercalate] at hless
              exact hless
      · exact Nat.zero_le _
  · exact Nat.zero_le _

theorem rstripCr_isPrefix (line : List Char) : rstripCr line <+: line := by
  have hsuffix := List.dropWhile_suffix (fun c : Char => decide (c = '\r')) (l := line.reverse)
  rw [← List.reverse_prefix, List.reverse_reverse] at hsuffix
  exact hsuffix

theorem dataWeight_rstripCr (line : List Char) : dataWeight (rstripCr line) ≤ dataWeight line := by
  have hfront := rstripCr_isPrefix line
  rw [dataWeight]
  split
  · next hkey =>
      have hline := List.isPrefixOf_iff_prefix.mpr
        ((List.isPrefixOf_iff_prefix.mp hkey).trans hfront)
      rw [dataWeight, if_pos hline]
      exact (hfront.sublist.drop 5).countP_le
  · exact Nat.zero_le _

theorem parseLine_weight (hlightest : Lightest floats loads) (s : Fields) (line : List Char) :
    held (parseLine loads s line).1 + ((parseLine loads s line).2.map (objWeight floats)).sum ≤
      held s + dataWeight line := by
  have hless := dataWeight_rstripCr line
  suffices hread : held (parseLine loads s line).1 +
      ((parseLine loads s line).2.map (objWeight floats)).sum ≤
        held s + dataWeight (rstripCr line) from
    hread.trans (Nat.add_le_add_left hless _)
  simp only [parseLine]
  split
  · have hflush := flush_weight hlightest s
    have hempty : held .empty = 0 := rfl
    simp only [hempty]
    omega
  split
  · exact Nat.le_add_right _ _
  split
  · exact Nat.le_add_right _ _
  split
  · next hdata =>
      have hstripped := weight_lstrip_le ((rstripCr line).drop 5)
      rw [dataWeight, if_pos hdata]
      simp only [held, List.map_append, List.map_cons, List.map_nil, List.sum_append,
        List.sum_singleton, List.sum_nil]
      omega
  · exact Nat.le_add_right _ _

theorem parseSseStream_weight (hlightest : Lightest floats loads) (lines : List (List Char)) :
    ((parseSseStream loads lines).map (objWeight floats)).sum ≤ (lines.map dataWeight).sum := by
  have hread := (frameReader loads).feed_weight held (objWeight floats) dataWeight
    (parseLine_weight hlightest) Fields.empty lines
  have hleft := flush_weight hlightest ((frameReader loads).feed .empty lines).1
  have hempty : held .empty = 0 := rfl
  rw [parseSseStream, List.map_append, List.sum_append]
  omega

/-- The breaks of a payload are no data. -/
def lostWeight (floats : FloatText) (sent : Sent) : Nat :=
  (sent.text floats).countP fun c => isBreak c && weighs c

theorem sentLines_weight {sents : List Sent}
    (hnames : ∀ sent ∈ sents, ∀ c ∈ sent.eventName, ¬ isBreak c) :
    (((sents.flatMap (sentLines floats)).flatMap (pieces [])).map dataWeight).sum +
        (sents.map (lostWeight floats)).sum ≤
      (sents.map fun sent => weight (sent.text floats)).sum := by
  induction sents with
  | nil => exact Nat.le_refl _
  | cons sent sents ih =>
      have hrest := ih fun other hother => hnames other (List.mem_cons_of_mem _ hother)
      have hkey : ∀ c ∈ eventKey ++ ' ' :: sent.eventName, ¬ isBreak c := by
        intro c hc
        rcases mem_field visible_eventKey hc with hvisible | hname
        · exact visible_ne_break hvisible
        · exact hnames sent List.mem_cons_self c hname
      have hevent : dataWeight ([] ++ (eventKey ++ ' ' :: sent.eventName)) = 0 := rfl
      have hend : ((pieces [] []).map dataWeight).sum = 0 := rfl
      have hdata := dataWeight_pieces (sent.text floats)
      simp only [List.flatMap_cons, List.flatMap_append, List.map_append, List.sum_append,
        List.map_cons, List.sum_cons, sentLines, frameLines, List.flatMap_nil, List.map_nil,
        List.sum_nil, pieces_plain hkey, hevent, hend, lostWeight] at hrest ⊢
      omega

theorem Arrives.payloads (harrives : Arrives floats loads sents)
    (hlightest : Lightest floats loads) (hsent : sent ∈ sents) :
    ∀ text ∈ texts (.obj sent.payload), ∀ c ∈ text.toList, ¬ isRawBreak c := by
  have hnames : ∀ sent ∈ sents, ∀ c ∈ sent.eventName, ¬ isBreak c :=
    fun sent hsent => (harrives.names hsent).2.unbroken
  have hchunks : [body floats sents].flatten = body floats sents := List.flatten_singleton
  have hread := harrives [body floats sents] hchunks
  have hyielded := parseSseStream_weight hlightest (responseLines [body floats sents])
  have hlines := @sentLines_weight floats sents hnames
  rw [streamKernelEvents] at hread
  rw [hread, responseLines_eq hnames hchunks, List.map_map] at hyielded
  have hsame : (objWeight floats ∘ fun sent : Sent => ⟨sent.eventName, .obj sent.payload⟩) =
      fun sent => weight (sent.text floats) := rfl
  rw [hsame] at hyielded
  have hzero : (sents.map (lostWeight floats)).sum = 0 := by omega
  have hnone : lostWeight floats sent = 0 :=
    List.sum_eq_zero_iff_forall_eq_nat.mp hzero _ (List.mem_map_of_mem hsent)
  rw [lostWeight, List.countP_eq_zero] at hnone
  intro text htext c hc hraw
  have hhigh : 0x7F ≤ c.toNat := by
    have hcode := of_decide_eq_true hraw
    simp only [List.mem_cons, List.not_mem_nil, or_false] at hcode
    omega
  have hbreak := weighs_of_isRawBreak hraw
  apply hnone c (mem_dumps_of_high hhigh (.obj sent.payload) text htext hc)
  rw [hbreak.1, hbreak.2]
  rfl

/-! ## The theorem -/

/-- Frames arrive as they were sent exactly where each of them is plain.  `loads` decodes what the
bridge writes for these payloads, and reads no value from a text lighter than the one `dumps` writes
for it. -/
theorem arrives_iff (floats : FloatText) (loads : List Char → Option Json) (sents : List Sent)
    (hround : ∀ sent ∈ sents, loads (sent.text floats) = some (.obj sent.payload))
    (hlightest : Lightest floats loads) :
    Arrives floats loads sents ↔ ∀ sent ∈ sents, Plain sent := by
  constructor
  · intro harrives sent hsent
    obtain ⟨hnamed, hfit⟩ := harrives.names hsent
    exact ⟨hnamed, hfit.stripped, hfit.unbroken, harrives.payloads hlightest hsent⟩
  · intro hplain
    exact arrives_of_plain hplain hround

/-- `event` -/
def kernelEventName : List Char := ['e', 'v', 'e', 'n', 't']

def promptEvent (prompt : String) : Sent where
  eventName := kernelEventName
  payload := [("prompt", .str prompt)]

def promptLoads (prompt : String) : List Char → Option Json :=
  loadsOf (.obj (promptEvent prompt).payload)

theorem promptLoads_text (prompt : String) :
    promptLoads prompt ((promptEvent prompt).text noFloats) =
      some (.obj (promptEvent prompt).payload) := by
  rw [promptLoads, loadsOf]
  exact if_pos rfl

/-- An event without such a character arrives. -/
theorem hello_arrives : Arrives noFloats (promptLoads "hello") [promptEvent "hello"] := by
  have hround : ∀ sent ∈ [promptEvent "hello"],
      promptLoads "hello" (sent.text noFloats) = some (.obj sent.payload) := by
    intro sent hsent
    rw [List.mem_singleton.mp hsent]
    exact promptLoads_text "hello"
  apply (arrives_iff noFloats _ _ hround (lightest_loadsOf _)).mpr
  intro sent hsent
  rw [List.mem_singleton.mp hsent]
  refine ⟨List.cons_ne_nil _ _, by decide, List.all_iff_forall_prop.mp (by decide), ?_⟩
  have hquiet : ∀ text ∈ texts (.obj (promptEvent "hello").payload),
      text.toList.all fun c => ! isRawBreak c := by decide
  intro text htext c hc
  have hone := List.all_eq_true.mp (hquiet text htext) c hc
  rw [Bool.not_eq_true'] at hone
  rw [hone]
  exact Bool.false_ne_true

/-- A prompt with a line separator in it arrives as a text, the beginning of its JSON. -/
theorem separated_prompt_lost :
    promptLoads "a\u2028b" ((promptEvent "a\u2028b").text noFloats) =
        some (.obj (promptEvent "a\u2028b").payload) ∧
      streamKernelEvents (promptLoads "a\u2028b") [body noFloats [promptEvent "a\u2028b"]] =
        [⟨kernelEventName, .str "\x7b\"prompt\": \"a"⟩] ∧
      ¬ Arrives noFloats (promptLoads "a\u2028b") [promptEvent "a\u2028b"] := by
  have hlost : streamKernelEvents (promptLoads "a\u2028b")
      [body noFloats [promptEvent "a\u2028b"]] = [⟨kernelEventName, .str "\x7b\"prompt\": \"a"⟩] := by
    rfl
  refine ⟨promptLoads_text _, hlost, ?_⟩
  intro harrives
  rw [harrives _ List.flatten_singleton] at hlost
  have hdata := congrArg (List.map fun parsed : Parsed => parsed.data.isObj) hlost
  exact absurd hdata (by decide)

end OpsCure.KernelEvents
