import Mathlib.Data.Prod.Lex
import Mathlib.Data.String.Basic
import Hybro.Library.Base64Url
import Hybro.Library.ExceptBind
import Hybro.Library.JsonReader
import Hybro.Library.KeysetPages
import Hybro.Library.PythonText

/-! # The room timeline

The user and agent messages of a room as two collections, the inserts that give every message
its timeline key, and the pages that are read from the newest message down, each continued from
an opaque cursor. `datetime.fromisoformat` is a parameter: the local time and the UTC offset of
a text, in microseconds. Times are in microseconds since the epoch.
-/

namespace Hybro.Conversation

/-! ## Keys -/

inductive Source
  | user
  | agent
  deriving DecidableEq

def Source.value : Source → String
  | .user => "user"
  | .agent => "agent"

/-- `SOURCE_RANK` -/
def Source.rank : Source → Nat
  | .user => 0
  | .agent => 1

structure TimelinePosition where
  timelineSortUs : Int
  source : Source
  messageId : String
  deriving DecidableEq

abbrev TimelineKey := Int ×ₗ Nat ×ₗ String

def timelineKey (timelineSortUs : Int) (source : Source) (messageId : String) : TimelineKey :=
  toLex (timelineSortUs, toLex (source.rank, messageId))

def TimelinePosition.key (position : TimelinePosition) : TimelineKey :=
  timelineKey position.timelineSortUs position.source position.messageId

/-! ## Inserts -/

/-- `message_created_at`: a `datetime` with its local time and its offset, or a text. -/
inductive CreatedAt
  | datetime (time offset : Int)
  | text (value : String)
  | other

/-- `timeline_sort_us` of a document that is to be inserted. -/
inductive SortField
  | absent
  | int (value : Int)
  | other

inductive TextField
  | absent
  | text (value : String)
  | other
  deriving DecidableEq

/-- The fields that the inserts read, and the rest. -/
structure MessageDocument (β : Type) where
  messageId : TextField
  roomId : TextField
  clientRequestId : TextField := .absent
  idempotencyFingerprint : TextField := .absent
  idempotencyFingerprintVersion : Option Int := none
  createdAt : CreatedAt
  timelineSortUs : SortField := .absent
  rest : β

structure MessageRow (β : Type) where
  messageId : String
  roomId : String
  clientRequestId : TextField
  idempotencyFingerprint : TextField
  idempotencyFingerprintVersion : Option Int
  createdAt : CreatedAt
  timelineSortUs : Int
  rest : β

variable {β : Type} (fromIsoFormat : String → Option (Int × Int))

/-- The years 1 to 9999. -/
def minInstant : Int := -62135596800000000
def maxInstant : Int := 253402300799999999

/-- `value.astimezone(UTC)` -/
def instant (time : Int × Int) : Except String Int :=
  if minInstant ≤ time.1 - time.2 ∧ time.1 - time.2 ≤ maxInstant then return time.1 - time.2
  else throw "date value out of range"

/-- `text[:-1] + "+00:00"` of a text that ends in `Z`. -/
def withoutZulu (text : String) : String :=
  if text.toList.getLast? = some 'Z' ∨ text.toList.getLast? = some 'z' then
    String.ofList text.toList.dropLast ++ "+00:00"
  else text

def timelineSortUsFromValue : CreatedAt → Except String Int
  | .datetime time offset => instant (time, offset)
  | .text value =>
      if PythonText.strip value = "" then throw "message_created_at is missing or invalid"
      else
        match fromIsoFormat (withoutZulu (PythonText.strip value)) with
        | some time => instant time
        | none => throw "message_created_at is missing or invalid"
  | .other => throw "message_created_at is missing or invalid"

/-- The precision of a BSON date. -/
def CreatedAt.toMilliseconds : CreatedAt → CreatedAt
  | .datetime time offset => .datetime (time - time % 1000) offset
  | createdAt => createdAt

def normalizeTimelineDocument (document : MessageDocument β) :
    Except String (CreatedAt × Int) := do
  let createdAt := document.createdAt.toMilliseconds
  let computed ← timelineSortUsFromValue fromIsoFormat createdAt
  match document.timelineSortUs with
  | .absent => return (createdAt, computed)
  | .int existing =>
      if existing = computed then return (createdAt, computed)
      else throw "timeline_sort_us conflicts with message_created_at"
  | .other => throw "timeline_sort_us conflicts with message_created_at"

def requiredText (error : String) : TextField → Except String String
  | .text value => if PythonText.isBlank value then throw error else return value
  | _ => throw error

def maxClientRequestIdLength : Nat := 128

/-- The request key of `_canonical_user_message_document`. -/
def canonicalClientRequestId : TextField → Except String TextField
  | .absent => return .absent
  | .other => throw "User-message client_request_id must be a string or null"
  | .text value =>
      let normalized := PythonText.strip value
      if normalized = "" ∨ maxClientRequestIdLength < normalized.length then
        throw "User-message insert requires valid client_request_id"
      else return .text normalized

def userMessageRow (document : MessageDocument β) : Except String (MessageRow β) := do
  let messageId ← requiredText "User-message insert requires non-empty message_id" document.messageId
  let roomId ← requiredText "User-message insert requires non-empty room_id" document.roomId
  let clientRequestId ← canonicalClientRequestId document.clientRequestId
  let (createdAt, timelineSortUs) ← normalizeTimelineDocument fromIsoFormat document
  return { messageId, roomId, clientRequestId, createdAt, timelineSortUs
           idempotencyFingerprint := document.idempotencyFingerprint
           idempotencyFingerprintVersion := document.idempotencyFingerprintVersion
           rest := document.rest }

def agentMessageRow (document : MessageDocument β) : Except String (MessageRow β) := do
  let (createdAt, timelineSortUs) ← normalizeTimelineDocument fromIsoFormat document
  let messageId ← requiredText "Agent-message insert requires non-empty message_id" document.messageId
  let roomId ← requiredText "Agent-message insert requires non-empty room_id" document.roomId
  return { messageId, roomId, createdAt, timelineSortUs
           clientRequestId := document.clientRequestId
           idempotencyFingerprint := document.idempotencyFingerprint
           idempotencyFingerprintVersion := document.idempotencyFingerprintVersion
           rest := document.rest }

structure MessageRow.Valid (row : MessageRow β) : Prop where
  messageId : PythonText.isBlank row.messageId = false
  instant : minInstant ≤ row.timelineSortUs ∧ row.timelineSortUs ≤ maxInstant

/-- The rows in the order of their inserts; `message_id` is a unique index. -/
structure MessageCollection (β : Type) where
  rows : List (MessageRow β)
  unique : (rows.map (·.messageId)).Nodup
  valid : ∀ row ∈ rows, row.Valid

def MessageCollection.empty : MessageCollection β where
  rows := []
  unique := List.nodup_nil
  valid := by simp

/-- The unique index over the request keys of a room, which holds for texts only. -/
def MessageRow.sameRequest (row other : MessageRow β) : Bool :=
  match row.clientRequestId with
  | .text _ => row.roomId = other.roomId ∧ row.clientRequestId = other.clientRequestId
  | _ => false

/-- `insert_one`, refused as a duplicate by a unique index. -/
def MessageCollection.insertOne (collection : MessageCollection β) (row : MessageRow β)
    (hvalid : row.Valid) (clashes : MessageRow β → Bool) : Option (MessageCollection β) :=
  if hclash : row.messageId ∈ collection.rows.map (·.messageId) ∨ collection.rows.any clashes then
    none
  else
    some {
      rows := collection.rows ++ [row]
      unique := by
        rw [List.map_append]
        refine collection.unique.append (List.nodup_singleton _) ?_
        simpa using (not_or.mp hclash).1
      valid := by
        intro other hother
        rcases List.mem_append.mp hother with hmem | hmem
        · exact collection.valid other hmem
        · rw [List.mem_singleton.mp hmem]
          exact hvalid }

section Rows

variable {fromIsoFormat}

theorem instant_bounds {time : Int × Int} {us : Int} (h : instant time = .ok us) :
    minInstant ≤ us ∧ us ≤ maxInstant := by
  unfold instant at h
  split at h
  next hbounds =>
    cases h
    exact hbounds
  next => cases h

theorem timelineSortUsFromValue_bounds {createdAt : CreatedAt} {us : Int}
    (h : timelineSortUsFromValue fromIsoFormat createdAt = .ok us) :
    minInstant ≤ us ∧ us ≤ maxInstant := by
  unfold timelineSortUsFromValue at h
  split at h
  · exact instant_bounds h
  · split at h
    · cases h
    · split at h
      · exact instant_bounds h
      · cases h
  · cases h

theorem normalize_bounds {document : MessageDocument β} {result : CreatedAt × Int}
    (h : normalizeTimelineDocument fromIsoFormat document = .ok result) :
    minInstant ≤ result.2 ∧ result.2 ≤ maxInstant := by
  unfold normalizeTimelineDocument at h
  dsimp only at h
  cases hvalue : timelineSortUsFromValue fromIsoFormat document.createdAt.toMilliseconds with
  | error message =>
      rw [hvalue] at h
      cases h
  | ok us =>
      have hbounds := timelineSortUsFromValue_bounds hvalue
      rw [hvalue] at h
      dsimp only [bind, Except.bind] at h
      split at h
      · cases h
        exact hbounds
      · split at h
        · cases h
          exact hbounds
        · cases h
      · cases h

theorem requiredText_ok {error value : String} {field : TextField}
    (h : requiredText error field = .ok value) : PythonText.isBlank value = false := by
  unfold requiredText at h
  split at h
  next text =>
    split at h
    next => cases h
    next hblank =>
      cases h
      simpa using hblank
  next => cases h

theorem userMessageRow_valid {document : MessageDocument β} {row : MessageRow β}
    (h : userMessageRow fromIsoFormat document = .ok row) : row.Valid := by
  unfold userMessageRow at h
  simp only [bind_eq_ok] at h
  obtain ⟨messageId, hmessageId, roomId, -, clientRequestId, -, normalized, hnormalized, h⟩ := h
  cases h
  exact ⟨requiredText_ok hmessageId, normalize_bounds hnormalized⟩

theorem agentMessageRow_valid {document : MessageDocument β} {row : MessageRow β}
    (h : agentMessageRow fromIsoFormat document = .ok row) : row.Valid := by
  unfold agentMessageRow at h
  simp only [bind_eq_ok] at h
  obtain ⟨normalized, hnormalized, messageId, hmessageId, roomId, -, h⟩ := h
  cases h
  exact ⟨requiredText_ok hmessageId, normalize_bounds hnormalized⟩

end Rows

def saveUserMessage (collection : MessageCollection β) (document : MessageDocument β) :
    Except String (String × MessageCollection β) :=
  match h : userMessageRow fromIsoFormat document with
  | .error error => throw error
  | .ok row =>
      match collection.insertOne row (userMessageRow_valid h) row.sameRequest with
      | some inserted => return (row.messageId, inserted)
      | none => throw "DuplicateKeyError"

def saveAgentMessage (collection : MessageCollection β) (document : MessageDocument β) :
    Except String (String × MessageCollection β) :=
  match h : agentMessageRow fromIsoFormat document with
  | .error error => throw error
  | .ok row =>
      match collection.insertOne row (agentMessageRow_valid h) fun _ => false with
      | some inserted => return (row.messageId, inserted)
      | none => throw "DuplicateKeyError"

/-! ## Pages -/

/-- The condition of `_timeline_query` on the key of a row. -/
inductive KeyCondition
  | any
  | atMost (timelineSortUs : Int)
  | lessThan (timelineSortUs : Int)
  | lessThanOrTied (timelineSortUs : Int) (messageId : String)

structure TimelineQuery where
  roomId : String
  condition : KeyCondition

def TimelineQuery.matches (query : TimelineQuery) (row : MessageRow β) : Bool :=
  row.roomId = query.roomId &&
    match query.condition with
    | .any => true
    | .atMost us => row.timelineSortUs ≤ us
    | .lessThan us => row.timelineSortUs < us
    | .lessThanOrTied us messageId =>
        row.timelineSortUs < us || (row.timelineSortUs = us && row.messageId < messageId)

def timelineQuery (conversationId : String) (source : Source) (before : Option TimelinePosition) :
    TimelineQuery where
  roomId := conversationId
  condition :=
    match before with
    | none => .any
    | some before =>
        if source.rank < before.source.rank then .atMost before.timelineSortUs
        else if before.source.rank < source.rank then .lessThan before.timelineSortUs
        else .lessThanOrTied before.timelineSortUs before.messageId

/-- `find` with the sort `timeline_sort_us` and `message_id`, both descending. -/
def MessageCollection.find (collection : MessageCollection β) (query : TimelineQuery)
    (limit : Nat) : List (MessageRow β) :=
  ((collection.rows.filter query.matches).insertionSort fun first second =>
    toLex (second.timelineSortUs, second.messageId) ≤
      toLex (first.timelineSortUs, first.messageId)).take limit

abbrev TypedRow (β : Type) := Source × MessageRow β

/-- `_typed_row_key` of a row with a valid identifier. -/
def typedRowKey (typed : TypedRow β) : TimelineKey :=
  timelineKey typed.2.timelineSortUs typed.1 typed.2.messageId

def typedRowPosition (typed : TypedRow β) : TimelinePosition where
  timelineSortUs := typed.2.timelineSortUs
  source := typed.1
  messageId := typed.2.messageId

structure RoomTimelinePage (β : Type) where
  entries : List (TypedRow β)
  hasMore : Bool
  nextPosition : Option TimelinePosition

/-- `get_timeline_page`, with the collections at the time of each of the two reads. -/
def getTimelinePage (userMessages agentMessages : MessageCollection β) (conversationId : String)
    (limit : Nat) (before : Option TimelinePosition) : Except String (RoomTimelinePage β) :=
  let userRows := userMessages.find (timelineQuery conversationId .user before) (limit + 1)
  let agentRows := agentMessages.find (timelineQuery conversationId .agent before) (limit + 1)
  let merged := userRows.map (Source.user, ·) ++ agentRows.map (Source.agent, ·)
  if merged.any fun typed => typed.2.messageId = "" then throw "invalid message_id in stored message"
  else
    let sorted := merged.insertionSort fun first second => typedRowKey second ≤ typedRowKey first
    let selected := sorted.take limit
    let hasMore : Bool := limit < sorted.length
    return {
      entries := selected.reverse
      hasMore
      nextPosition := if hasMore then selected.getLast?.map typedRowPosition else none }

/-! ## Cursors -/

def cursorVersion : Int := 1
def maxCursorLength : Nat := 1024
def minBsonInt64 : Int := -9223372036854775808
def maxBsonInt64 : Int := 9223372036854775807

def cursorPayload (conversationId : String) (position : TimelinePosition) :
    List (String × JsonText.Scalar) :=
  [("direction", .text "before"), ("message_id", .text position.messageId),
    ("room_id", .text conversationId), ("source", .text position.source.value),
    ("timeline_sort_us", .int position.timelineSortUs), ("v", .int cursorVersion)]

def encodeTimelineCursor (conversationId : String) (position : TimelinePosition) : String :=
  let payload := JsonText.object ((cursorPayload conversationId position).map fun (key, value) =>
    (key, value.written))
  String.ofList (Base64Url.encode payload.toUTF8.data.toList)

/-- What decoding a cursor raises: a `TimelineCursorError`, or a `TypeError` that is not caught
when the source is a list or an object. -/
inductive CursorError
  | invalid
  | unhashableSource
  deriving DecidableEq

open JsonText (Json)

/-- `value == text` -/
def isText (text : String) : Option Json → Bool
  | some (.text value) => value = text
  | _ => false

/-- `value == 1` and not `True`. A decimal counts when the nearest float is `1.0`. -/
def isCursorVersion : Option Json → Bool
  | some (.int value) => value = cursorVersion
  | some (.decimal mantissa exponent) =>
      let numerator := mantissa * 10 ^ exponent.toNat
      let denominator := (10 : Int) ^ (-exponent).toNat
      (2 ^ 54 - 1) * denominator ≤ 2 ^ 54 * numerator ∧
        2 ^ 54 * numerator ≤ (2 ^ 54 + 2) * denominator
  | _ => false

def sourceOf (text : String) : Option Source :=
  if text = "user" then some .user else if text = "agent" then some .agent else none

def cursorFields : List String :=
  ["v", "room_id", "direction", "timeline_sort_us", "source", "message_id"]

/-- The checks of a decoded payload. A key that comes twice has its last value. -/
def cursorPosition (conversationId : String) (members : List (String × Json)) :
    Except CursorError TimelinePosition :=
  let field := fun key => members.reverse.lookup key
  if ¬(∀ key ∈ members.map (·.1), key ∈ cursorFields) ∨
      ¬(∀ key ∈ cursorFields, key ∈ members.map (·.1)) then throw .invalid
  else if !isCursorVersion (field "v") || !isText "before" (field "direction") ||
      !isText conversationId (field "room_id") then throw .invalid
  else
    match field "source" with
    | some (.array _) | some (.object _) => throw .unhashableSource
    | some (.text source) =>
        match sourceOf source, field "timeline_sort_us", field "message_id" with
        | some source, some (.int timelineSortUs), some (.text messageId) =>
            if minBsonInt64 ≤ timelineSortUs ∧ timelineSortUs ≤ maxBsonInt64 ∧
                PythonText.isBlank messageId = false then
              return { timelineSortUs, source, messageId }
            else throw .invalid
        | _, _, _ => throw .invalid
    | _ => throw .invalid

def decodeTimelineCursor (cursor conversationId : String) : Except CursorError TimelinePosition :=
  if cursor = "" ∨ maxCursorLength < cursor.length then throw .invalid
  else if ¬cursor.toList.all fun c => Base64Url.alphabet.contains c then throw .invalid
  else
    match (Base64Url.decode cursor.toList).bind fun bytes =>
      (String.fromUTF8? ⟨bytes.toArray⟩).bind JsonText.loads with
    | some (.object members) => cursorPosition conversationId members
    | _ => throw .invalid

/-! ## The walk -/

structure TimelineRead (β : Type) where
  userMessages : MessageCollection β
  agentMessages : MessageCollection β

def TimelineRead.messages (read : TimelineRead β) (conversationId : String) :
    List (TypedRow β) :=
  (read.userMessages.rows.filter (·.roomId = conversationId)).map (Source.user, ·) ++
    (read.agentMessages.rows.filter (·.roomId = conversationId)).map (Source.agent, ·)

inductive WalkError
  | cursor (error : CursorError)
  | page (message : String)
  deriving DecidableEq

def requestPosition (conversationId : String) :
    Option String → Except WalkError (Option TimelinePosition)
  | none => return none
  | some cursor =>
      match decodeTimelineCursor cursor conversationId with
      | .ok position => return some position
      | .error error => throw (.cursor error)

/-- The page of one request: the cursor is decoded and the collections are read. -/
def requestPage (read : TimelineRead β) (conversationId : String) (limit : Nat)
    (cursor : Option String) : Except WalkError (RoomTimelinePage β) := do
  let before ← requestPosition conversationId cursor
  match getTimelinePage read.userMessages read.agentMessages conversationId limit before with
  | .ok page => return page
  | .error message => throw (.page message)

/-- The pages from a cursor on, one for each read, up to the first without `has_more`. -/
def timelineWalk (conversationId : String) (limit : Nat) :
    Option String → List (TimelineRead β) → Except WalkError (List (RoomTimelinePage β))
  | _, [] => return []
  | cursor, read :: reads => do
      let page ← requestPage read conversationId limit cursor
      match page.nextPosition with
      | none => return [page]
      | some position =>
          let pages ← timelineWalk conversationId limit
            (some (encodeTimelineCursor conversationId position)) reads
          return page :: pages

end Hybro.Conversation
