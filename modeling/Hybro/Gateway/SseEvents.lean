import Hybro.Gateway.CodexRules
import Hybro.Gateway.SseLines
import Hybro.Library.PythonText

/-! # The response of a Codex stream

`sse_events` takes the JSON events out of the lines of a response, and the provider hands them
to the stream until it has stopped. `json.loads` is a parameter.
-/

namespace Hybro.Gateway

open Pieces Orchestrator

/-! ## Events of the lines -/

def dataField : List Char := ['d', 'a', 't', 'a', ':']

/-- `line[5:].removeprefix(" ")` -/
def dataOf (line : List Char) : List Char :=
  let rest := line.drop 5
  if rest.head? = some ' ' then rest.tail else rest

def payload (data : List (List Char)) : List String :=
  let value := String.ofList (List.intercalate ['\n'] data)
  if PythonText.strip value = "[DONE]" then [] else [value]

def lineOf (data : List (List Char)) (line : List Char) : List (List Char) × List String :=
  if dataField.isPrefixOf line then (data ++ [dataOf line], [])
  else if line = [] ∧ data ≠ [] then ([], payload data)
  else (data, [])

/-- The texts that `sse_events` parses. -/
def ssePayloads (lines : List (List Char)) : List String :=
  let (data, values) := stepwise lineOf [] lines
  if data = [] then values else values ++ payload data

/-- `content_type.split(";", 1)[0] != "text/event-stream"`, where a type is given. -/
def acceptsType : Option String → Bool
  | none => true
  | some type => type.toList = [] ∨ type.toList.takeWhile (· ≠ ';') = "text/event-stream".toList

/-! ## The bytes of a response -/

/-- A decoded chunk, and the number of bytes that came for it. -/
structure Chunk where
  size : Nat
  text : List Char

/-- `_WIRE_BYTES` -/
def wireBytes : Nat := 16 * 1024 * 1024

def chunkBytes (chunks : List Chunk) : Nat := (chunks.map (·.size)).sum

/-- `_bounded_raw`: the chunks before the one that exceeds the limit, and whether there is none. -/
def boundedRaw (size : Nat) : List Chunk → List (List Char) × Bool
  | [] => ([], true)
  | chunk :: rest =>
      if wireBytes < size + chunk.size then ([], false)
      else
        let (texts, whole) := boundedRaw (size + chunk.size) rest
        (chunk.text :: texts, whole)

/-- What is parsed of a response, and what is raised when it ends. -/
def sseEvents (chunks : List Chunk) : List String × String :=
  let (texts, whole) := boundedRaw 0 chunks
  if whole then (ssePayloads (aiterLines texts), "Codex stream ended without terminal response")
  else ((stepwise lineOf [] (readAll readChunk {} texts).2).2,
    "Messages response exceeds raw size limit")

/-- The events are consumed until the stream has stopped; what follows is not read. -/
def consumeUntilStop (loads : String → Option JsonValue) (ended : String) (stream : CodexStream) :
    List String → Except String (CodexStream × List Emission)
  | [] => throw ended
  | text :: texts =>
      match loads text with
      | none => throw "bad json"
      | some event => do
          let (next, emitted) ← stream.consume loads event
          if next.stopped then return (next, emitted)
          else
            let (last, more) ← consumeUntilStop loads ended next texts
            return (last, emitted ++ more)

/-- The turn of a response that comes in these chunks. -/
def codexTurn (loads : String → Option JsonValue) (stream : CodexStream)
    (contentType : Option String) (chunks : List Chunk) :
    Except String (CodexStream × List Emission) :=
  if acceptsType contentType then
    consumeUntilStop loads (sseEvents chunks).2 stream (sseEvents chunks).1
  else throw "Expected SSE"

/-! ## A response that was sent -/

/-- A line of a document, with the space that may stand before it. -/
def dataLine (part : Bool × List Char) : List Char :=
  dataField ++ (if part.1 then ' ' :: part.2 else part.2)

/-- An event of a response: lines without data, the lines of the document, and a blank line. -/
structure SseEvent (loads : String → Option JsonValue) where
  before : List (List Char)
  parts : List (Bool × List Char)
  document : JsonValue
  loaded : loads (String.ofList (List.intercalate ['\n'] (parts.map (·.2)))) = some document
  notDone : PythonText.strip (String.ofList (List.intercalate ['\n'] (parts.map (·.2)))) ≠ "[DONE]"
  hasData : parts ≠ []
  noSpace : ∀ part ∈ parts, part.1 = false → part.2.head? ≠ some ' '
  noData : ∀ line ∈ before, ¬dataField <+: line

variable {loads : String → Option JsonValue} {stream next : CodexStream}

/-- What `sse_events` parses. -/
def SseEvent.text (event : SseEvent loads) : String :=
  String.ofList (List.intercalate ['\n'] (event.parts.map (·.2)))

theorem SseEvent.loads_text (event : SseEvent loads) : loads event.text = some event.document :=
  event.loaded

def SseEvent.lines (event : SseEvent loads) : List (List Char) :=
  event.before ++ event.parts.map dataLine ++ [[]]

theorem dataOf_line (part : Bool × List Char) (h : part.1 = false → part.2.head? ≠ some ' ') :
    dataOf (dataLine part) = part.2 := by
  cases hspaced : part.1 with
  | true => simp [dataOf, dataLine, dataField, hspaced]
  | false => simp [dataOf, dataLine, dataField, hspaced, h hspaced]

theorem lineOf_other {line : List Char} (hdata : ¬dataField <+: line) :
    lineOf [] line = ([], []) := by
  have hprefix : dataField.isPrefixOf line = false := by
    rw [Bool.eq_false_iff, Ne, List.isPrefixOf_iff_prefix]
    exact hdata
  simp [lineOf, hprefix]

theorem stepwise_others {lines : List (List Char)} (h : ∀ line ∈ lines, ¬dataField <+: line) :
    stepwise lineOf [] lines = ([], []) := by
  induction lines with
  | nil => rfl
  | cons line rest ih =>
      simp [stepwise, lineOf_other (h line List.mem_cons_self),
        ih fun other hmem => h other (.tail _ hmem)]

theorem stepwise_parts (parts : List (Bool × List Char)) (data : List (List Char))
    (h : ∀ part ∈ parts, part.1 = false → part.2.head? ≠ some ' ') :
    stepwise lineOf data (parts.map dataLine) = (data ++ parts.map (·.2), []) := by
  induction parts generalizing data with
  | nil => simp [stepwise]
  | cons part rest ih =>
      have hdata : lineOf data (dataLine part) = (data ++ [part.2], []) := by
        have hprefix : dataField.isPrefixOf (dataLine part) = true := by
          rw [List.isPrefixOf_iff_prefix]
          exact List.prefix_append _ _
        rw [lineOf, if_pos hprefix, dataOf_line part (h part List.mem_cons_self)]
      simp [stepwise, hdata, ih _ fun other hmem => h other (.tail _ hmem)]

theorem stepwise_event (event : SseEvent loads) :
    stepwise lineOf [] event.lines = ([], [event.text]) := by
  have hblank : lineOf (event.parts.map (·.2)) [] = ([], [event.text]) := by
    have hpayload : payload (event.parts.map (·.2)) = [event.text] := by
      simp only [payload, event.notDone, if_false, SseEvent.text]
    simp [lineOf, hpayload, dataField, event.hasData]
  unfold SseEvent.lines
  rw [stepwise_append, stepwise_append, stepwise_others event.noData]
  simp [stepwise, stepwise_parts event.parts [] event.noSpace, hblank]

theorem stepwise_events (events : List (SseEvent loads)) :
    stepwise lineOf [] (events.flatMap SseEvent.lines) = ([], events.map (·.text)) := by
  induction events with
  | nil => rfl
  | cons event events ih =>
      rw [List.flatMap_cons, stepwise_append, stepwise_event, ih]
      rfl

theorem ssePayloads_events (events : List (SseEvent loads)) (more : List (List Char)) :
    ssePayloads (events.flatMap SseEvent.lines ++ more) =
      events.map (·.text) ++ ssePayloads more := by
  unfold ssePayloads
  rw [stepwise_append, stepwise_events]
  dsimp only
  split <;> simp

theorem readLines_before {text : List Char} {lines : List (List Char)}
    (h : Lines text (lines ++ [[]])) (trailers : List Char) (texts : List (List Char))
    (htexts : texts.flatten = text ++ trailers) :
    ∃ more, (readAll readChunk {} texts).2 = lines ++ [[]] ++ more := by
  have hsteps := h.steps
  have hended : (stepwise lineStep ([], false) text).2 = lines ++ [[]] := by
    unfold lastLine at hsteps
    split at hsteps
    · rwa [List.append_nil] at hsteps
    · rename_i hne
      have hlast := congrArg List.getLast? hsteps
      rw [List.getLast?_concat, List.getLast?_concat] at hlast
      exact absurd (Option.some.inj hlast) hne
  rw [(readAll_readChunk texts).2, htexts, stepwise_append, hended]
  exact ⟨_, rfl⟩

theorem exists_blank_last {events : List (SseEvent loads)} (h : events ≠ []) :
    ∃ lines, events.flatMap SseEvent.lines = lines ++ [[]] := by
  obtain ⟨first, last, rfl⟩ := List.eq_nil_or_concat' events |>.resolve_left h
  refine ⟨first.flatMap SseEvent.lines ++ (last.before ++ last.parts.map dataLine), ?_⟩
  simp [SseEvent.lines]

theorem stepwise_before {events : List (SseEvent loads)} {text : List Char}
    (h : Lines text (events.flatMap SseEvent.lines)) (trailers : List Char)
    (texts : List (List Char)) (htexts : texts.flatten = text ++ trailers) :
    ∃ more, (readAll readChunk {} texts).2 = events.flatMap SseEvent.lines ++ more := by
  by_cases hempty : events = []
  · exact ⟨_, by rw [hempty]; rfl⟩
  · obtain ⟨lines, hlines⟩ := exists_blank_last hempty
    obtain ⟨more, hmore⟩ := readLines_before (hlines ▸ h) trailers texts htexts
    exact ⟨more, by rw [hmore, ← hlines]⟩

theorem boundedRaw_append (first rest : List Chunk) (size : Nat)
    (h : size + chunkBytes first ≤ wireBytes) :
    ∃ texts whole, boundedRaw size (first ++ rest) = (first.map (·.text) ++ texts, whole) ∧
      (rest = [] → texts = [] ∧ whole = true) := by
  induction first generalizing size with
  | nil =>
      refine ⟨_, _, rfl, ?_⟩
      rintro rfl
      exact ⟨rfl, rfl⟩
  | cons chunk first ih =>
      have hsum : chunkBytes (chunk :: first) = chunk.size + chunkBytes first := by
        simp [chunkBytes]
      obtain ⟨texts, whole, hrest, hlast⟩ := ih (size + chunk.size) (by omega)
      refine ⟨texts, whole, ?_, hlast⟩
      rw [List.cons_append, boundedRaw, if_neg (by omega), hrest]
      rfl

/-- What the response says within the limit is parsed, whatever comes after it. -/
theorem sseEvents_before {events : List (SseEvent loads)} {text : List Char}
    (h : Lines text (events.flatMap SseEvent.lines)) (trailers : List Char)
    (first rest : List Chunk) (hbytes : chunkBytes first ≤ wireBytes)
    (htexts : (first.map (·.text)).flatten = text ++ trailers) :
    ∃ more, (sseEvents (first ++ rest)).1 = events.map (·.text) ++ more := by
  obtain ⟨texts, whole, hbounded, -⟩ := boundedRaw_append first rest 0 (by omega)
  obtain ⟨more, hmore⟩ := stepwise_before h (trailers ++ texts.flatten)
    (first.map (·.text) ++ texts) (by rw [List.flatten_append, htexts, List.append_assoc])
  unfold sseEvents
  rw [hbounded]
  cases whole with
  | true =>
      dsimp only
      rw [if_pos rfl, aiterLines_readAll, hmore, List.append_assoc, ssePayloads_events]
      exact ⟨_, rfl⟩
  | false =>
      dsimp only
      rw [if_neg Bool.false_ne_true, hmore, stepwise_append, stepwise_events]
      exact ⟨_, rfl⟩

/-! ## The turn of a response -/

theorem consumeUntilStop_of_consumeAll {events : List (SseEvent loads)} {emitted : List Emission}
    {ended : String} (hopen : stream.stopped = false) (more : List String)
    (h : stream.consumeAll loads (events.map (·.document)) = .ok (next, emitted))
    (hstopped : next.stopped = true) :
    consumeUntilStop loads ended stream (events.map (·.text) ++ more) = .ok (next, emitted) := by
  induction events generalizing stream emitted with
  | nil =>
      cases h
      exact absurd (hopen.symm.trans hstopped) (by decide)
  | cons event events ih =>
      rw [List.map_cons] at h
      unfold CodexStream.consumeAll at h
      simp only [bind_eq_ok] at h
      obtain ⟨⟨consumed, first⟩, hfirst, ⟨last, rest⟩, hrest, h⟩ := h
      cases h
      rw [List.map_cons, List.cons_append, consumeUntilStop]
      simp only [event.loads_text, hfirst]
      cases hstop : consumed.stopped with
      | true =>
          -- nothing is accepted after the stop
          cases events with
          | nil =>
              cases hrest
              simp [bind, Except.bind, pure, Except.pure, hstop]
          | cons other events =>
              obtain ⟨message, hmessage⟩ := consume_stopped loads other.document hstop
              rw [List.map_cons] at hrest
              unfold CodexStream.consumeAll at hrest
              rw [hmessage] at hrest
              cases hrest
      | false =>
          have hlater := ih hstop hrest
          simp [bind, Except.bind, pure, Except.pure, hstop, hlater]

theorem consumeAll_of_consumeUntilStop {events : List (SseEvent loads)} {emitted : List Emission}
    {ended : String} (h : consumeUntilStop loads ended stream (events.map (·.text)) = .ok (next, emitted)) :
    next.stopped = true ∧ ∃ first, first <+: events ∧
      stream.consumeAll loads (first.map (·.document)) = .ok (next, emitted) := by
  induction events generalizing stream emitted with
  | nil => cases h
  | cons event events ih =>
      rw [List.map_cons, consumeUntilStop] at h
      simp only [event.loads_text, bind_eq_ok] at h
      obtain ⟨⟨consumed, first⟩, hfirst, h⟩ := h
      split at h
      · rename_i hstop
        cases h
        refine ⟨hstop, [event], List.prefix_append [event] events, ?_⟩
        simp [CodexStream.consumeAll, hfirst, bind, Except.bind, pure, Except.pure]
      · simp only [bind_eq_ok] at h
        obtain ⟨⟨last, rest⟩, hrest, h⟩ := h
        cases h
        obtain ⟨hstop, accepted, hprefix, hall⟩ := ih hrest
        refine ⟨hstop, event :: accepted, List.cons_prefix_cons.mpr ⟨rfl, hprefix⟩, ?_⟩
        simp [CodexStream.consumeAll, hfirst, hall, bind, Except.bind, pure, Except.pure]

def completedText : List Char :=
  "\x7b\"type\":\"response.completed\",\"response\":\x7b\"id\":\"r\",\"output\":[]\x7d\x7d".toList

def completedDocument : JsonValue :=
  .obj [("type", .str "response.completed"),
    ("response", .obj [("id", .str "r"), ("output", .arr [])])]

/-- `json.loads` of the text of that response. -/
def completedLoads (text : String) : Option JsonValue :=
  if text.toList = completedText then some completedDocument else none

def completedEvent : SseEvent completedLoads where
  before := [[':']]
  parts := [(true, completedText)]
  document := completedDocument
  loaded := by decide +kernel
  notDone := by decide +kernel
  hasData := by decide
  noSpace := by decide +kernel
  noData := by decide +kernel

end Hybro.Gateway
