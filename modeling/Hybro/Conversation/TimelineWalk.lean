import Hybro.Conversation.TimelineCursor

/-! # Walks over the timeline

The query of a source selects exactly the rows of the room whose keys come after the cursor, so
that a page is the first rows of both collections, and a walk returns every message once.
-/

namespace Hybro.Conversation

open KeysetPages

variable {β : Type} {conversationId : String} {limit : Nat}

/-! ## Queries -/

theorem timelineKey_lt {us otherUs : Int} {source other : Source} {id otherId : String} :
    timelineKey us source id < timelineKey otherUs other otherId ↔
      us < otherUs ∨ us = otherUs ∧ (source.rank < other.rank ∨
        source.rank = other.rank ∧ id < otherId) := by
  unfold timelineKey
  rw [Prod.Lex.toLex_lt_toLex, Prod.Lex.toLex_lt_toLex]

def bound (before : Option TimelinePosition) : Option TimelineKey :=
  before.map TimelinePosition.key

theorem matches_iff (source : Source) (before : Option TimelinePosition) (row : MessageRow β) :
    (timelineQuery conversationId source before).matches row = true ↔
      row.roomId = conversationId ∧ Below typedRowKey (bound before) (source, row) := by
  unfold TimelineQuery.matches timelineQuery
  simp only [Bool.and_eq_true, decide_eq_true_eq]
  refine and_congr_right fun _ => ?_
  cases before with
  | none => simp [Below, bound]
  | some before =>
      have hbelow : Below typedRowKey (bound (some before)) (source, row) ↔
          typedRowKey (source, row) < before.key := by simp [Below, bound]
      rw [hbelow]
      unfold typedRowKey TimelinePosition.key
      rw [timelineKey_lt]
      dsimp only
      rcases Nat.lt_trichotomy source.rank before.source.rank with hrank | hrank | hrank
      · rw [if_pos hrank]
        simp only [hrank, true_or, and_true, decide_eq_true_eq]
        exact Int.le_iff_lt_or_eq
      · rw [if_neg (by omega), if_neg (by omega)]
        simp [hrank]
      · have hnot : ¬source.rank < before.source.rank := by omega
        have hne : source.rank ≠ before.source.rank := by omega
        rw [if_neg hnot, if_pos hrank]
        simp [hnot, hne]

/-! ## Pages -/

theorem typedRowKey_lt {source : Source} {first second : MessageRow β} :
    typedRowKey (source, first) < typedRowKey (source, second) ↔
      toLex (first.timelineSortUs, first.messageId) <
        toLex (second.timelineSortUs, second.messageId) := by
  unfold typedRowKey
  rw [timelineKey_lt, Prod.Lex.toLex_lt_toLex]
  simp

def sourceRows (conversationId : String) (source : Source) (collection : MessageCollection β) :
    List (TypedRow β) :=
  (collection.rows.filter (·.roomId = conversationId)).map (source, ·)

/-- `find` reads the first rows below the cursor. -/
theorem find_isTop (conversationId : String) (collection : MessageCollection β) (source : Source)
    (before : Option TimelinePosition) (count : Nat) :
    IsTop typedRowKey count (bound before) (sourceRows conversationId source collection)
      ((collection.find (timelineQuery conversationId source before) count).map (source, ·)) := by
  have hkeys : ((collection.rows.filter (timelineQuery conversationId source before).matches).map
      fun row => toLex (row.timelineSortUs, row.messageId)).Nodup := by
    have hids : ((collection.rows.filter
        (timelineQuery conversationId source before).matches).map (·.messageId)).Nodup :=
      collection.unique.sublist (List.filter_sublist.map _)
    refine List.pairwise_map.mpr (List.Pairwise.imp ?_ (List.pairwise_map.mp hids))
    intro first second hne heq
    exact hne (congrArg Prod.snd (toLex_inj.mp heq))
  have hsorted := KeysetPages.descending_insertionSort hkeys
  have hdescending : Descending typedRowKey
      (((collection.rows.filter (timelineQuery conversationId source before).matches).insertionSort
        fun first second => toLex (second.timelineSortUs, second.messageId) ≤
          toLex (first.timelineSortUs, first.messageId)).map (source, ·)) := by
    refine List.pairwise_map.mpr (List.Pairwise.imp ?_ hsorted)
    intro first second hlt
    exact typedRowKey_lt.mpr hlt
  unfold MessageCollection.find
  rw [List.map_take]
  refine isTop_take hdescending fun typed => ?_
  unfold sourceRows
  simp only [List.mem_map, List.mem_insertionSort, List.mem_filter, matches_iff, decide_eq_true_eq]
  constructor
  · rintro ⟨row, ⟨hrow, hroom, hbelow⟩, rfl⟩
    exact ⟨⟨row, ⟨hrow, hroom⟩, rfl⟩, hbelow⟩
  · rintro ⟨⟨row, ⟨hrow, hroom⟩, rfl⟩, hbelow⟩
    exact ⟨row, ⟨hrow, hroom, hbelow⟩, rfl⟩

theorem valid_of_mem_messages {read : TimelineRead β} {typed : TypedRow β}
    (h : typed ∈ read.messages conversationId) : typed.2.Valid := by
  rcases List.mem_append.mp h with hmem | hmem
  · obtain ⟨row, hrow, rfl⟩ := List.mem_map.mp hmem
    exact read.userMessages.valid row (List.mem_of_mem_filter hrow)
  · obtain ⟨row, hrow, rfl⟩ := List.mem_map.mp hmem
    exact read.agentMessages.valid row (List.mem_of_mem_filter hrow)

theorem MessageRow.Valid.messageId_ne {row : MessageRow β} (h : row.Valid) : row.messageId ≠ "" := by
  intro hempty
  have hblank := h.messageId
  rw [hempty] at hblank
  cases hblank

theorem nodup_keys_append {userTop agentTop : List (TypedRow β)}
    (huser : Descending typedRowKey userTop) (hagent : Descending typedRowKey agentTop)
    (huserSource : ∀ typed ∈ userTop, typed.1 = .user)
    (hagentSource : ∀ typed ∈ agentTop, typed.1 = .agent) :
    ((userTop ++ agentTop).map typedRowKey).Nodup := by
  have hne : ∀ items : List (TypedRow β), Descending typedRowKey items →
      (items.map typedRowKey).Nodup := by
    intro items hitems
    exact List.pairwise_map.mpr (List.Pairwise.imp (fun hlt => hlt.ne') hitems)
  rw [List.map_append]
  refine (hne userTop huser).append (hne agentTop hagent) ?_
  intro key huserKey hagentKey
  obtain ⟨user, huserMem, rfl⟩ := List.mem_map.mp huserKey
  obtain ⟨agent, hagentMem, hkey⟩ := List.mem_map.mp hagentKey
  have hrank : agent.1.rank = user.1.rank := by
    have hpair := congrArg Prod.snd (toLex_inj.mp hkey)
    exact congrArg Prod.fst (toLex_inj.mp hpair)
  rw [huserSource user huserMem, hagentSource agent hagentMem] at hrank
  cases hrank

theorem getTimelinePage_ok (conversationId : String) (read : TimelineRead β) (limit : Nat)
    (before : Option TimelinePosition) :
    ∃ page, getTimelinePage read.userMessages read.agentMessages conversationId limit before =
        .ok page ∧
      IsPage typedRowKey limit (bound before) (read.messages conversationId) page.entries.reverse
        page.hasMore ∧
      page.nextPosition = if page.hasMore then
        page.entries.reverse.getLast?.map typedRowPosition else none := by
  have huser := find_isTop conversationId read.userMessages .user before
    (limit + 1)
  have hagent := find_isTop conversationId read.agentMessages .agent before
    (limit + 1)
  unfold getTimelinePage
  dsimp only
  generalize (read.userMessages.find (timelineQuery conversationId .user before) (limit + 1)).map
    (Source.user, ·) = userTop at huser ⊢
  generalize (read.agentMessages.find (timelineQuery conversationId .agent before) (limit + 1)).map
    (Source.agent, ·) = agentTop at hagent ⊢
  have hkeys : ((userTop ++ agentTop).map typedRowKey).Nodup := by
    refine nodup_keys_append huser.descending hagent.descending ?_ ?_
    · intro typed hmem
      obtain ⟨row, -, rfl⟩ := List.mem_map.mp (huser.mem typed hmem).1
      rfl
    · intro typed hmem
      obtain ⟨row, -, rfl⟩ := List.mem_map.mp (hagent.mem typed hmem).1
      rfl
  have hvalid : ¬((userTop ++ agentTop).any fun typed => typed.2.messageId = "") = true := by
    intro hany
    obtain ⟨typed, hmem, hempty⟩ := List.any_eq_true.mp hany
    have hread : typed ∈ read.messages conversationId := by
      rcases List.mem_append.mp hmem with hmem | hmem
      · exact List.mem_append_left _ (huser.mem typed hmem).1
      · exact List.mem_append_right _ (hagent.mem typed hmem).1
    exact (valid_of_mem_messages hread).messageId_ne (by simpa using hempty)
  rw [if_neg hvalid]
  refine ⟨_, rfl, ?_, ?_⟩
  · rw [List.reverse_reverse]
    exact isPage_of_merged huser hagent (descending_insertionSort hkeys)
      (List.perm_insertionSort _ _)
  · rw [List.reverse_reverse]

/-! ## Walks -/

def pageOf (page : RoomTimelinePage β) : List (TypedRow β) × Bool :=
  (page.entries.reverse, page.hasMore)

/-- The rows that a walk returns, page by page and each page from its newest row on. -/
def newestFirst (pages : List (RoomTimelinePage β)) : List (TypedRow β) :=
  pages.flatMap fun page => page.entries.reverse

def WalkEnded (pages : List (RoomTimelinePage β)) : Prop :=
  ∃ page, pages.getLast? = some page ∧ page.hasMore = false

theorem returned_map (pages : List (RoomTimelinePage β)) :
    returned (pages.map pageOf) = newestFirst pages := by
  unfold returned newestFirst
  rw [List.flatMap_map]
  rfl

theorem ended_map (pages : List (RoomTimelinePage β)) :
    Ended (pages.map pageOf) ↔ WalkEnded pages := by
  unfold Ended WalkEnded
  rw [List.getLast?_map]
  constructor
  · rintro ⟨selected, hlast⟩
    obtain ⟨page, hpage, hpair⟩ := Option.map_eq_some_iff.mp hlast
    exact ⟨page, hpage, congrArg Prod.snd hpair⟩
  · rintro ⟨page, hpage, hmore⟩
    exact ⟨page.entries.reverse, by rw [hpage, Option.map_some, pageOf, hmore]⟩

/-- The cursors of the messages are within the limit of the decoder. -/
def ShortCursors (conversationId : String) (reads : List (TimelineRead β)) : Prop :=
  ∀ read ∈ reads, ∀ typed ∈ read.messages conversationId,
    (encodeTimelineCursor conversationId (typedRowPosition typed)).length ≤ maxCursorLength

theorem requestPosition_encode {typed : TypedRow β} (hvalid : typed.2.Valid)
    (hshort : (encodeTimelineCursor conversationId (typedRowPosition typed)).length ≤
      maxCursorLength) :
    requestPosition conversationId
      (some (encodeTimelineCursor conversationId (typedRowPosition typed))) =
      .ok (some (typedRowPosition typed)) := by
  have hus : minBsonInt64 ≤ typed.2.timelineSortUs ∧ typed.2.timelineSortUs ≤ maxBsonInt64 := by
    have hinstant := hvalid.instant
    unfold minInstant maxInstant at hinstant
    unfold minBsonInt64 maxBsonInt64
    omega
  simp only [requestPosition,
    decode_encode conversationId (typedRowPosition typed) hshort hus hvalid.messageId]
  rfl

theorem timelineWalk_pages (hlimit : 1 ≤ limit) (reads : List (TimelineRead β))
    (hshort : ShortCursors conversationId reads) (cursor : Option String)
    (before : Option TimelinePosition)
    (hcursor : requestPosition conversationId cursor = .ok before) :
    ∃ pages, timelineWalk conversationId limit cursor reads = .ok pages ∧
      Pages typedRowKey limit (bound before) (reads.map (·.messages conversationId))
        (pages.map pageOf) := by
  induction reads generalizing cursor before with
  | nil => exact ⟨[], rfl, .cut⟩
  | cons read reads ih =>
      obtain ⟨page, hpage, hisPage, hnext⟩ :=
        getTimelinePage_ok conversationId read limit before
      have hrequest : requestPage read conversationId limit cursor = .ok page := by
        simp only [requestPage, hcursor, hpage, bind, Except.bind]
        rfl
      unfold timelineWalk
      rw [hrequest]
      cases hmore : page.hasMore with
      | false =>
          rw [hmore, if_neg (by decide)] at hnext
          rw [hmore] at hisPage
          refine ⟨[page], by simp [bind, Except.bind, hnext, pure, Except.pure], ?_⟩
          have hlast : Pages typedRowKey limit (bound before)
              (read.messages conversationId :: reads.map (·.messages conversationId))
              [(page.entries.reverse, false)] := .last hisPage
          simpa [pageOf, hmore] using hlast
      | true =>
          rw [hmore, if_pos rfl] at hnext
          rw [hmore] at hisPage
          -- the page is full, so that it has a last row
          have hfull : page.entries.reverse.length = limit := hisPage.full rfl
          obtain ⟨typed, htyped⟩ : ∃ typed, page.entries.reverse.getLast? = some typed := by
            refine Option.ne_none_iff_exists'.mp fun hnone => ?_
            rw [List.getLast?_eq_none_iff.mp hnone, List.length_nil] at hfull
            omega
          have hmem : typed ∈ read.messages conversationId :=
            (hisPage.mem typed (List.mem_of_getLast? htyped)).1
          have hposition : requestPosition conversationId
              (some (encodeTimelineCursor conversationId (typedRowPosition typed))) =
              .ok (some (typedRowPosition typed)) :=
            requestPosition_encode (valid_of_mem_messages hmem)
              (hshort read List.mem_cons_self typed hmem)
          obtain ⟨pages, hpages, hwalk⟩ := ih
            (fun other hother => hshort other (List.mem_cons_of_mem _ hother)) _ _ hposition
          rw [htyped, Option.map_some] at hnext
          refine ⟨page :: pages, by simp [bind, Except.bind, hnext, hpages, pure, Except.pure], ?_⟩
          have hcons := Pages.more hisPage htyped hwalk
          simpa [pageOf, hmore] using hcons

structure WalkComplete (conversationId : String) (limit : Nat) (reads : List (TimelineRead β))
    (pages : List (RoomTimelinePage β)) : Prop where
  /-- From newest to oldest over all pages, and no key twice. -/
  newestToOldest : (newestFirst pages).Pairwise fun first second =>
    typedRowKey second < typedRowKey first
  ascending : ∀ page ∈ pages, page.entries.Pairwise fun first second =>
    typedRowKey first < typedRowKey second
  stored : ∀ typed ∈ newestFirst pages, ∃ read ∈ reads, typed ∈ read.messages conversationId
  everyMessage : WalkEnded pages → ∀ typed,
    (∀ read ∈ reads.take pages.length, typed ∈ read.messages conversationId) →
    typed ∈ newestFirst pages
  ends : ∀ all : List (TypedRow β),
    (∀ read ∈ reads, ∀ typed ∈ read.messages conversationId, typed ∈ all) →
    all.length < reads.length * limit → WalkEnded pages

/-- A walk from the newest message on does not fail, ends once it could return more messages than
the room ever had, and returns every message that was there throughout exactly once. -/
theorem timelineWalk_complete (conversationId : String) (limit : Nat) (hlimit : 1 ≤ limit)
    (reads : List (TimelineRead β)) (hshort : ShortCursors conversationId reads) :
    ∃ pages, timelineWalk conversationId limit none reads = .ok pages ∧
      WalkComplete conversationId limit reads pages := by
  obtain ⟨pages, hpages, hwalk⟩ :=
    timelineWalk_pages hlimit reads hshort none none rfl
  have hdescending : Descending typedRowKey (newestFirst pages) :=
    returned_map pages ▸ hwalk.descending.1
  refine ⟨pages, hpages, hdescending, ?_, ?_, ?_, ?_⟩
  · intro page hpage
    have hsub : page.entries.reverse.Sublist (newestFirst pages) :=
      List.sublist_flatten_of_mem (List.mem_map_of_mem hpage)
    exact List.pairwise_reverse.mp (hdescending.sublist hsub)
  · intro typed htyped
    rw [← returned_map] at htyped
    obtain ⟨source, hsource, hmem⟩ := hwalk.mem_source typed htyped
    obtain ⟨read, hread, rfl⟩ := List.mem_map.mp hsource
    exact ⟨read, hread, hmem⟩
  · intro hended typed hthroughout
    rw [← returned_map]
    refine hwalk.complete ((ended_map pages).mpr hended) ?_ (by simp [Below, bound])
    intro source hsource
    rw [List.length_map, ← List.map_take] at hsource
    obtain ⟨read, hread, rfl⟩ := List.mem_map.mp hsource
    exact hthroughout read hread
  · intro all hall hroom
    rw [← ended_map]
    refine hwalk.ended ?_ (by simpa using hroom)
    intro source hsource typed htyped
    obtain ⟨read, hread, rfl⟩ := List.mem_map.mp hsource
    exact hall read hread typed htyped

def plainDocument (messageId : String) (time : Int) : MessageDocument Unit where
  messageId := .text messageId
  roomId := .text "room"
  createdAt := .datetime time 0
  rest := ()

def plainRow (messageId : String) (time : Int) : MessageRow Unit where
  messageId := messageId
  roomId := "room"
  clientRequestId := .absent
  idempotencyFingerprint := .absent
  idempotencyFingerprintVersion := none
  createdAt := .datetime time 0
  timelineSortUs := time
  rest := ()

def plainMessages (messages : List (String × Int)) (hunique : (messages.map (·.1)).Nodup)
    (hvalid : ∀ message ∈ messages, PythonText.isBlank message.1 = false ∧
      minInstant ≤ message.2 ∧ message.2 ≤ maxInstant) : MessageCollection Unit where
  rows := messages.map fun message => plainRow message.1 message.2
  unique := by
    rw [List.map_map]
    exact hunique
  valid := by
    intro row hrow
    obtain ⟨message, hmessage, rfl⟩ := List.mem_map.mp hrow
    obtain ⟨hblank, hinstant⟩ := hvalid message hmessage
    exact ⟨hblank, hinstant⟩

def questions : MessageCollection Unit :=
  plainMessages [("old", 0), ("question", 1000)] (by decide) (by decide +kernel)

def answers : MessageCollection Unit :=
  plainMessages [("answer", 1000)] (by decide) (by decide +kernel)

def laterAnswers : MessageCollection Unit :=
  plainMessages [("answer", 1000), ("late", 2000)] (by decide) (by decide +kernel)

def growingRoom : List (TimelineRead Unit) :=
  [⟨questions, answers⟩, ⟨questions, laterAnswers⟩, ⟨questions, laterAnswers⟩]

theorem growingRoom_short : ShortCursors "room" growingRoom := by
  have hmessages : ∀ read ∈ growingRoom, read.messages "room" ⊆
      [(.user, plainRow "old" 0), (.user, plainRow "question" 1000),
        (.agent, plainRow "answer" 1000), (.agent, plainRow "late" 2000)] := by
    intro read hread typed htyped
    simp only [growingRoom, List.mem_cons, List.not_mem_nil, or_false] at hread
    rcases hread with rfl | rfl | rfl <;>
      simp [TimelineRead.messages, questions, answers, laterAnswers, plainMessages, plainRow]
        at htyped ⊢ <;> tauto
  intro read hread typed htyped
  refine le_trans (length_encodeTimelineCursor_le _ _) ?_
  have hshort : ∀ typed ∈ ([(.user, plainRow "old" 0), (.user, plainRow "question" 1000),
      (.agent, plainRow "answer" 1000), (.agent, plainRow "late" 2000)] : List (TypedRow Unit)),
      2 * (cursorText "room" (typedRowPosition typed)).utf8ByteSize ≤ maxCursorLength := by
    decide +kernel
  exact hshort typed (hmessages read hread htyped)

theorem timelineWalk_followed {cursor : Option String} {before : Option TimelinePosition}
    {position : TimelinePosition} {read : TimelineRead β} {reads : List (TimelineRead β)}
    {page : RoomTimelinePage β} {pages : List (RoomTimelinePage β)}
    (hcursor : requestPosition conversationId cursor = .ok before)
    (hpage : getTimelinePage read.userMessages read.agentMessages conversationId limit before =
      .ok page) (hnext : page.nextPosition = some position)
    (hrest : timelineWalk conversationId limit
      (some (encodeTimelineCursor conversationId position)) reads = .ok pages) :
    timelineWalk conversationId limit cursor (read :: reads) = .ok (page :: pages) := by
  unfold timelineWalk
  simp only [requestPage, hcursor, hpage, hnext, hrest, bind, Except.bind, pure, Except.pure]

theorem timelineWalk_last {cursor : Option String} {before : Option TimelinePosition}
    {read : TimelineRead β} {reads : List (TimelineRead β)} {page : RoomTimelinePage β}
    (hcursor : requestPosition conversationId cursor = .ok before)
    (hpage : getTimelinePage read.userMessages read.agentMessages conversationId limit before =
      .ok page) (hnext : page.nextPosition = none) :
    timelineWalk conversationId limit cursor (read :: reads) = .ok [page] := by
  unfold timelineWalk
  simp only [requestPage, hcursor, hpage, hnext, bind, Except.bind, pure, Except.pure]

/-- The walk follows two cursors, the first of them between two messages of one time. -/
theorem timelineWalk_complete_growingRoom :
    ∃ pages, timelineWalk "room" 1 none growingRoom = .ok pages ∧
      WalkComplete "room" 1 growingRoom pages ∧
      pages.map (fun page => page.entries.map fun typed => typed.2.messageId) =
        [["answer"], ["question"], ["old"]] := by
  have hfirst : getTimelinePage questions answers "room" 1 none =
      .ok ⟨[(.agent, plainRow "answer" 1000)], true, some ⟨1000, .agent, "answer"⟩⟩ := by rfl
  have hsecond : getTimelinePage questions laterAnswers "room" 1 (some ⟨1000, .agent, "answer"⟩) =
      .ok ⟨[(.user, plainRow "question" 1000)], true, some ⟨1000, .user, "question"⟩⟩ := by rfl
  have hthird : getTimelinePage questions laterAnswers "room" 1 (some ⟨1000, .user, "question"⟩) =
      .ok ⟨[(.user, plainRow "old" 0)], false, none⟩ := by rfl
  have hvalid : ∀ (read : TimelineRead Unit) (typed : TypedRow Unit), read ∈ growingRoom →
      typed ∈ read.messages "room" → requestPosition "room"
        (some (encodeTimelineCursor "room" (typedRowPosition typed))) =
          .ok (some (typedRowPosition typed)) := by
    intro read typed hread htyped
    exact requestPosition_encode (valid_of_mem_messages htyped)
      (growingRoom_short read hread typed htyped)
  have hanswer := hvalid ⟨questions, answers⟩ (.agent, plainRow "answer" 1000)
    List.mem_cons_self (by simp [TimelineRead.messages, answers, plainMessages, plainRow])
  have hquestion := hvalid ⟨questions, answers⟩ (.user, plainRow "question" 1000)
    List.mem_cons_self (by simp [TimelineRead.messages, questions, plainMessages, plainRow])
  have hwalk : timelineWalk "room" 1 none growingRoom = _ :=
    timelineWalk_followed rfl hfirst rfl (timelineWalk_followed hanswer hsecond rfl
      (timelineWalk_last hquestion hthird rfl))
  obtain ⟨pages, hpages, hcomplete⟩ :=
    timelineWalk_complete "room" 1 (by decide) growingRoom growingRoom_short
  rw [hwalk] at hpages
  cases hpages
  exact ⟨_, hwalk, hcomplete, rfl⟩

/-! ## Walks that fail -/

theorem saveUserMessage_ok {β : Type} (fromIsoFormat : String → Option (Int × Int))
    (collection : MessageCollection β) {document : MessageDocument β} {row : MessageRow β}
    (hrow : userMessageRow fromIsoFormat document = .ok row)
    (hid : row.messageId ∉ collection.rows.map (·.messageId))
    (hrequest : row.clientRequestId = .absent) :
    ∃ saved, saveUserMessage fromIsoFormat collection document = .ok (row.messageId, saved) ∧
      saved.rows = collection.rows ++ [row] := by
  have hany : collection.rows.any row.sameRequest = false := by
    rw [List.any_eq_false]
    intro other hother
    simp [MessageRow.sameRequest, hrequest]
  have hclash : ¬(row.messageId ∈ collection.rows.map (·.messageId) ∨
      collection.rows.any row.sameRequest) := by
    simp only [hany, Bool.false_eq_true, or_false]
    exact hid
  unfold saveUserMessage
  split
  next error herror =>
    rw [hrow] at herror
    cases herror
  next other hother =>
    obtain rfl := Except.ok.inj (hrow.symm.trans hother)
    unfold MessageCollection.insertOne
    rw [dif_neg hclash]
    exact ⟨_, rfl, rfl⟩

theorem userMessageRow_plainDocument (fromIsoFormat : String → Option (Int × Int))
    {messageId : String} (hblank : PythonText.isBlank messageId = false) (time : Int)
    (htime : time % 1000 = 0) (hbounds : minInstant ≤ time ∧ time ≤ maxInstant) :
    userMessageRow fromIsoFormat (plainDocument messageId time) = .ok (plainRow messageId time) := by
  have hroom : PythonText.isBlank "room" = false := by decide
  unfold userMessageRow
  simp [plainDocument, requiredText, hblank, hroom, canonicalClientRequestId,
    normalizeTimelineDocument, CreatedAt.toMilliseconds, timelineSortUsFromValue, instant, htime,
    hbounds, bind, Except.bind, pure, Except.pure, plainRow]

theorem getTimelinePage_plainRows {messageId : String} (hne : messageId ≠ "")
    {collection : MessageCollection Unit}
    (hrows : collection.rows = [plainRow "old" 0, plainRow messageId 1000]) :
    getTimelinePage collection .empty "room" 1 none =
      .ok ⟨[(.user, plainRow messageId 1000)], true, some ⟨1000, .user, messageId⟩⟩ := by
  unfold getTimelinePage
  simp [MessageCollection.find, MessageCollection.empty, timelineQuery, hrows,
    TimelineQuery.matches, plainRow, hne, List.orderedInsert, Prod.Lex.toLex_le_toLex,
    typedRowKey, timelineKey, typedRowPosition, pure, Except.pure]

/-- A walk over two messages fails at the second page when the newer one has a long identifier. -/
theorem timelineWalk_plainRows {messageId : String} (hlong : maxCursorLength < messageId.length)
    {collection : MessageCollection Unit}
    (hrows : collection.rows = [plainRow "old" 0, plainRow messageId 1000]) :
    timelineWalk "room" 1 none [⟨collection, .empty⟩, ⟨collection, .empty⟩] =
      .error (.cursor .invalid) := by
  have hne : messageId ≠ "" := by
    rintro rfl
    simp [maxCursorLength] at hlong
  have hrefused : decodeTimelineCursor (encodeTimelineCursor "room" ⟨1000, .user, messageId⟩)
      "room" = .error .invalid := decode_long hlong
  have hfirst : requestPage ⟨collection, .empty⟩ "room" 1 none =
      .ok ⟨[(.user, plainRow messageId 1000)], true, some ⟨1000, .user, messageId⟩⟩ := by
    unfold requestPage
    simp only [requestPosition, pure_bind, getTimelinePage_plainRows hne hrows]
    rfl
  have hsecond : requestPage ⟨collection, .empty⟩ "room" 1
      (some (encodeTimelineCursor "room" ⟨1000, .user, messageId⟩)) = .error (.cursor .invalid) := by
    unfold requestPage
    simp only [requestPosition, hrefused]
    rfl
  unfold timelineWalk
  rw [hfirst]
  dsimp only [bind, Except.bind]
  unfold timelineWalk
  rw [hsecond]
  rfl

def repeatedLetter (count : Nat) : String := String.ofList (List.replicate count 'a')

theorem repeatedLetter_length (count : Nat) : (repeatedLetter count).length = count := by
  rw [repeatedLetter, String.length_ofList, List.length_replicate]

theorem repeatedLetter_isBlank {count : Nat} (hcount : 0 < count) :
    PythonText.isBlank (repeatedLetter count) = false := by
  cases count with
  | zero => omega
  | succ count =>
      have hspace : PythonText.isSpace 'a' = false := by decide
      simp [PythonText.isBlank, repeatedLetter, List.replicate_succ, hspace]

/-- Messages are stored whose page cannot be left: the cursor of a long identifier is refused. -/
theorem timelineWalk_long {count : Nat} (hlong : maxCursorLength < count) : ∃ first second,
    saveUserMessage (fun _ => none) .empty (plainDocument "old" 0) = .ok ("old", first) ∧
    saveUserMessage (fun _ => none) first (plainDocument (repeatedLetter count) 1000) =
      .ok (repeatedLetter count, second) ∧
    timelineWalk "room" 1 none [⟨second, .empty⟩, ⟨second, .empty⟩] =
      .error (.cursor .invalid) := by
  have hlength := repeatedLetter_length count
  have hblank := repeatedLetter_isBlank (Nat.zero_lt_of_lt hlong)
  have hne : repeatedLetter count ≠ "old" := by
    intro heq
    rw [heq] at hlength
    have hold : "old".length = 3 := by decide
    unfold maxCursorLength at hlong
    omega
  have holdRow := userMessageRow_plainDocument (fun _ => none)
    (show PythonText.isBlank "old" = false by decide) 0 (by decide) (by decide)
  have hlongRow := userMessageRow_plainDocument (fun _ => none) hblank 1000 (by decide) (by decide)
  obtain ⟨first, hfirst, hfirstRows⟩ := saveUserMessage_ok _ .empty holdRow
    (by simp [MessageCollection.empty]) rfl
  have hfree : repeatedLetter count ∉ first.rows.map (·.messageId) := by
    simpa [hfirstRows, MessageCollection.empty, plainRow] using hne
  obtain ⟨second, hsecond, hsecondRows⟩ := saveUserMessage_ok _ first hlongRow hfree rfl
  rw [hfirstRows] at hsecondRows
  refine ⟨first, second, hfirst, hsecond, timelineWalk_plainRows ?_ hsecondRows⟩
  rw [hlength]
  exact hlong

theorem timelineWalk_fails : ∃ first second,
    saveUserMessage (fun _ => none) .empty (plainDocument "old" 0) = .ok ("old", first) ∧
    saveUserMessage (fun _ => none) first (plainDocument (repeatedLetter 1025) 1000) =
      .ok (repeatedLetter 1025, second) ∧
    timelineWalk "room" 1 none [⟨second, .empty⟩, ⟨second, .empty⟩] =
      .error (.cursor .invalid) :=
  timelineWalk_long (by decide)

end Hybro.Conversation
