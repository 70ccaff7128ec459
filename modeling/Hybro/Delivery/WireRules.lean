import Hybro.Delivery.StreamRules
import Hybro.Delivery.Wire

/-! # What the browser gets

However a stream of frames is cut on its way and wherever it breaks off, the browser hands on the
frames that arrived whole, in their order. With the queue of the connection behind it, this says
what becomes of every delta that was sent.
-/

namespace Hybro.Delivery

open JsonText Pieces

/-! ## Pieces -/

def Unbroken (buffer : List Char) : Prop := split ['\n', '\n'] buffer = [buffer]

theorem readPiece_cuts : Cuts readPiece Unbroken := by
  have hparts : Cuts (readParts ['\n', '\n']) Unbroken := readParts_cuts (by simp)
  have hread : readPiece = select receivedFrame (select blockMessage (readParts ['\n', '\n'])) :=
    rfl
  rw [hread]
  exact (hparts.select blockMessage).select receivedFrame

theorem readStream_flatten (pieces : List (List Char)) :
    readStream pieces = (readPiece [] pieces.flatten).2 := by
  have hempty : Unbroken [] := rfl
  unfold readStream
  rw [readPiece_cuts.readAll_eq hempty]

/-! ## One event -/

mutual

theorem finite_json (document : Tree) : isFiniteJson document.json = true := by
  cases document with
  | array items => exact finite_jsonItems items
  | object members => exact finite_jsonMembers members
  | _ => rfl

theorem finite_jsonItems (items : List Tree) : areFiniteItems (jsonItems items) = true := by
  cases items with
  | nil => rfl
  | cons item items => simp [jsonItems, areFiniteItems, finite_json item, finite_jsonItems items]

theorem finite_jsonMembers (members : List (String × Tree)) :
    areFiniteMembers (jsonMembers members) = true := by
  cases members with
  | nil => rfl
  | cons member members =>
      obtain ⟨key, value⟩ := member
      simp [jsonMembers, areFiniteMembers, finite_json value, finite_jsonMembers members]

end

theorem log2_lt_of_le {value : Nat} (h : value ≤ 2 ^ 53) : value.log2 < 54 := by
  by_cases hzero : value = 0
  · simp [hzero]
  · exact (Nat.log2_lt hzero).mpr (by omega)

theorem nearestDouble_of_le {value : Nat} (h : value ≤ 2 ^ 53) : nearestDouble value = value := by
  unfold nearestDouble
  rcases Nat.lt_or_eq_of_le h with hlt | rfl
  · have hunit : value.log2 - 52 = 0 := by
      by_cases hzero : value = 0
      · simp [hzero]
      · have hlog := (Nat.log2_lt hzero).mpr hlt
        omega
    simp [hunit, Nat.mod_one]
  · decide

theorem jsNumber_of_le {value : Int} (h : value.natAbs ≤ 2 ^ 53) : jsNumber value = .int value := by
  have hfinite : value.natAbs.log2 < 1024 := Nat.lt_trans (log2_lt_of_le h) (by decide)
  rw [jsNumber, nearestDouble_of_le h, if_pos hfinite, Int.sign_mul_natAbs]

mutual

theorem jsValue_exact (document : Tree) (h : isExact document = true) :
    jsValue document.json = document.json := by
  cases document with
  | int value => exact jsNumber_of_le (of_decide_eq_true h)
  | array items => exact congrArg Json.array (jsItems_exact items h)
  | object members => exact congrArg Json.object (jsMembers_exact members h)
  | _ => rfl

theorem jsItems_exact (items : List Tree) (h : areExactItems items = true) :
    jsItems (jsonItems items) = jsonItems items := by
  cases items with
  | nil => rfl
  | cons item items =>
      obtain ⟨hitem, hitems⟩ := (Bool.and_eq_true ..).mp h
      rw [jsonItems, jsItems, jsValue_exact item hitem, jsItems_exact items hitems]

theorem jsMembers_exact (members : List (String × Tree)) (h : areExactMembers members = true) :
    jsMembers (jsonMembers members) = jsonMembers members := by
  cases members with
  | nil => rfl
  | cons member members =>
      obtain ⟨key, value⟩ := member
      obtain ⟨hvalue, hmembers⟩ := (Bool.and_eq_true ..).mp h
      rw [jsonMembers, jsMembers, jsValue_exact value hvalue, jsMembers_exact members hmembers]

end

theorem jsonParse_dumps {frame : Tree} (h : isExact frame = true) :
    jsonParse (dumps frame).toList = some frame.json := by
  simp [jsonParse, loads_dumps, finite_json, jsValue_exact frame h]

theorem newline_not_mem_dumps (frame : Tree) : '\n' ∉ (dumps frame).toList := by
  intro hmem
  have hprintable := (printable_dumps frame '\n' hmem).1
  exact absurd hprintable (by decide)

theorem dumps_ne_nil (frame : Tree) : (dumps frame).toList ≠ [] := by
  obtain ⟨c, chars, hchars, -⟩ := written_head [' '] frame
  simp [dumps, hchars]

def eventBlock (text : String) : List Char := "data: ".toList ++ text.toList

theorem newline_not_mem_eventBlock (frame : Tree) : '\n' ∉ eventBlock (dumps frame) := by
  unfold eventBlock
  rw [List.mem_append, not_or]
  exact ⟨by decide, newline_not_mem_dumps frame⟩

theorem blockMessage_event (frame : Tree) :
    blockMessage (eventBlock (dumps frame)) = some (dumps frame).toList := by
  have hline : split ['\n'] (eventBlock (dumps frame)) = [eventBlock (dumps frame)] :=
    split_line (newline_not_mem_eventBlock frame)
  have hdata : blockData (eventBlock (dumps frame)) = (dumps frame).toList := by
    unfold blockData
    rw [hline]
    rfl
  have hspace : (eventBlock (dumps frame)).all isJsSpace = false := rfl
  unfold blockMessage
  rw [hspace, hdata, if_neg (by simp), if_neg (dumps_ne_nil frame)]

theorem receivedFrame_dumps {frame : Tree} (h : isExact frame = true) :
    receivedFrame (dumps frame).toList =
      if hasSSEFrameEnvelope frame.json then some frame.json else none := by
  rw [receivedFrame, jsonParse_dumps h, Option.filter_some]

theorem readPiece_event {frame : Tree} (h : isExact frame = true) (rest : List Char) :
    (readPiece [] (eventText (dumps frame) ++ rest)).2 =
      [frame.json].filter hasSSEFrameEnvelope ++ (readPiece [] rest).2 := by
  have hsplit : split ['\n', '\n'] (eventText (dumps frame) ++ rest) =
      eventBlock (dumps frame) :: split ['\n', '\n'] rest :=
    split_block (newline_not_mem_eventBlock frame) rest
  simp only [readPiece, processSSEBuffer, readParts, List.nil_append, hsplit]
  rw [List.dropLast_cons_of_ne_nil (split_ne_nil _ rest), List.filterMap_cons,
    blockMessage_event, List.filterMap_cons, receivedFrame_dumps h, List.filter_cons]
  cases hasSSEFrameEnvelope frame.json <;> rfl

theorem readPiece_open (frame : Tree) {text : List Char} (h : text <+: eventText (dumps frame))
    (hopen : text ≠ eventText (dumps frame)) : (readPiece [] text).2 = [] := by
  have hsplit : split ['\n', '\n'] text = [text] :=
    split_open (newline_not_mem_eventBlock frame) h hopen
  simp [readPiece, processSSEBuffer, readParts, hsplit]

/-! ## A stream -/

theorem wireText_cons (frame : Tree) (frames : List Tree) :
    wireText (frame :: frames) = eventText (dumps frame) ++ wireText frames := rfl

/-- The frames whose text has arrived, and no more of them. -/
structure Arrived (frames : List Tree) (text : List Char) (arrived : List Tree) : Prop where
  started : arrived <+: frames
  complete : wireText arrived <+: text
  all : ∀ more, more <+: frames → wireText more <+: text → more <+: arrived

theorem Arrived.unique {frames arrived other : List Tree} {text : List Char}
    (h : Arrived frames text arrived) (h' : Arrived frames text other) : arrived = other :=
  (h'.all arrived h.started h.complete).eq_of_length_le
    (h.all other h'.started h'.complete).length_le

theorem arrived_open (frames : List Tree) (last : Tree) {part : List Char}
    (h : part <+: eventText (dumps last)) (hopen : part ≠ eventText (dumps last)) :
    Arrived (frames ++ [last]) (wireText frames ++ part) frames := by
  refine ⟨List.prefix_append .., List.prefix_append .., ?_⟩
  intro more hmore htext
  rcases List.prefix_concat_iff.mp hmore with rfl | hmore
  · have hwhole : wireText (frames ++ [last]) = wireText frames ++ eventText (dumps last) := by
      simp [wireText]
    rw [hwhole] at htext
    have hpart := (List.prefix_append_right_inj _).mp htext
    exact absurd (h.eq_of_length_le hpart.length_le) hopen
  · exact hmore

theorem wireText_read {frames : List Tree} {text : List Char} (h : text <+: wireText frames)
    (hexact : ∀ frame ∈ frames, isExact frame = true) :
    ∃ arrived, Arrived frames text arrived ∧
      (readPiece [] text).2 = (arrived.map Tree.json).filter hasSSEFrameEnvelope := by
  induction frames generalizing text with
  | nil =>
      have hempty : text = [] := List.prefix_nil.mp h
      refine ⟨[], ⟨List.nil_prefix, List.nil_prefix, fun more hmore _ => hmore⟩, ?_⟩
      rw [hempty]
      rfl
  | cons frame frames ih =>
      rw [wireText_cons] at h
      by_cases hwhole : eventText (dumps frame) <+: text
      · obtain ⟨rest, rfl⟩ := hwhole
        have hrest : rest <+: wireText frames := (List.prefix_append_right_inj _).mp h
        obtain ⟨arrived, harrived, hread⟩ := ih hrest fun other hmem => hexact other (.tail _ hmem)
        refine ⟨frame :: arrived, ⟨?_, ?_, ?_⟩, ?_⟩
        · exact List.cons_prefix_cons.mpr ⟨rfl, harrived.started⟩
        · rw [wireText_cons]
          exact (List.prefix_append_right_inj _).mpr harrived.complete
        · intro more hmore htext
          cases more with
          | nil => exact List.nil_prefix
          | cons first more =>
              obtain ⟨rfl, hlater⟩ := List.cons_prefix_cons.mp hmore
              rw [wireText_cons] at htext
              exact List.cons_prefix_cons.mpr
                ⟨rfl, harrived.all more hlater ((List.prefix_append_right_inj _).mp htext)⟩
        · rw [readPiece_event (hexact frame List.mem_cons_self), hread, List.map_cons, ← List.filter_append, List.singleton_append]
      · -- the stream breaks off within the first event
        have hpart : text <+: eventText (dumps frame) := by
          rcases List.prefix_or_prefix_of_prefix h (List.prefix_append _ (wireText frames)) with
            hpart | hwhole'
          · exact hpart
          · exact absurd hwhole' hwhole
        refine ⟨[], ⟨List.nil_prefix, List.nil_prefix, ?_⟩, ?_⟩
        · intro more hmore htext
          cases more with
          | nil => exact List.nil_prefix
          | cons first more =>
              obtain ⟨rfl, -⟩ := List.cons_prefix_cons.mp hmore
              rw [wireText_cons] at htext
              exact absurd ((List.prefix_append _ _).trans htext) hwhole
        · exact readPiece_open frame hpart fun heq => hwhole (heq ▸ List.prefix_rfl)

/-- The text of a stream of frames may be cut anywhere and may break off anywhere: the browser
hands on the frames that arrived whole, as they were sent and in their order. -/
theorem stream_received {frames : List Tree} {pieces : List (List Char)}
    (h : pieces.flatten <+: wireText frames) (hexact : ∀ frame ∈ frames, isExact frame = true) :
    ∃ arrived, Arrived frames pieces.flatten arrived ∧
      readStream pieces = (arrived.map Tree.json).filter hasSSEFrameEnvelope := by
  rw [readStream_flatten]
  exact wireText_read h hexact

/-- The handshake and the text of a snapshot up to its last line end, cut within the handshake. -/
theorem stream_received_opening :
    let handshake := Tree.object
      [("type", .text "connected"), ("conversation_id", .text "room-1"), ("timestamp", .text ""),
        ("data", .object [("connection_id", .text "connection-1"), ("room_seq", .int 7)])]
    let snapshot := Tree.object
      [("type", .text "snapshot"), ("conversation_id", .text "room-1"), ("timestamp", .text ""),
        ("data", .array [.int 1])]
    let part := (eventText (dumps snapshot)).dropLast
    openingFrames "connection-1" "room-1" ("", "") (some (7, .array [.int 1])) =
        [handshake, snapshot] ∧
      Arrived [handshake, snapshot] (wireText [handshake] ++ part) [handshake] ∧
      readStream [(wireText [handshake]).take 20, (wireText [handshake]).drop 20 ++ part] =
        [handshake.json] := by
  intro handshake snapshot part
  have hpart : part <+: eventText (dumps snapshot) := List.dropLast_prefix _
  have hopen : part ≠ eventText (dumps snapshot) := by
    intro heq
    have hlength := congrArg List.length heq
    simp [part, eventText] at hlength
  have harrived := arrived_open [handshake] snapshot hpart hopen
  have hpieces : [(wireText [handshake]).take 20, (wireText [handshake]).drop 20 ++ part].flatten =
      wireText [handshake] ++ part := by
    simp [← List.append_assoc]
  have hprefix : wireText [handshake] ++ part <+: wireText [handshake, snapshot] := by
    have hboth : wireText [handshake, snapshot] =
        wireText [handshake] ++ eventText (dumps snapshot) := by simp [wireText]
    rw [hboth]
    exact (List.prefix_append_right_inj _).mpr hpart
  obtain ⟨arrived, hwhole, hread⟩ := stream_received (hpieces ▸ hprefix) (by decide)
  rw [hpieces] at hwhole
  rw [hwhole.unique harrived] at hread
  refine ⟨rfl, harrived, hread.trans ?_⟩
  have henvelope : hasSSEFrameEnvelope handshake.json = true := by decide +kernel
  simp [henvelope]

/-! ## The connection behind it -/

section Connection

variable {Data : Type} {covers : Data → Nat → Prop} {stream : Stream Data} {hasProvider : Bool}

/-- What the route writes: the opening, and then what the consumer of the connection delivers. -/
def routeFrames (opening : List Tree) (render : Frame Data → Tree) (delivered : List (Entry Data)) :
    List Tree :=
  opening ++ delivered.map fun entry => render entry.frame

/-- The frames of the route that arrived end in the opening or among the delivered ones. -/
theorem routeFrames_prefix {opening arrived : List Tree} {render : Frame Data → Tree}
    {delivered : List (Entry Data)} (h : arrived <+: routeFrames opening render delivered) :
    ∃ started got, started <+: opening ∧ got <+: delivered ∧ (got ≠ [] → started = opening) ∧
      arrived = routeFrames started render got := by
  rcases List.prefix_or_prefix_of_prefix h (List.prefix_append opening _) with
    hopening | ⟨later, rfl⟩
  · exact ⟨arrived, [], hopening, List.nil_prefix, fun hne => absurd rfl hne, by simp [routeFrames]⟩
  · have hlater := (List.prefix_append_right_inj opening).mp h
    obtain ⟨got, hgot, rfl⟩ := List.prefix_map_iff.mp hlater
    exact ⟨opening, got, List.prefix_rfl, hgot, fun _ => rfl, rfl⟩

/-- Where a delta is that was sent: with the browser, on its way, or dropped by a connection that
is marked until a snapshot covers it. -/
def Placed (covers : Data → Nat → Prop) (stream : Stream Data) (got : List (Entry Data))
    (index : Nat) : Prop :=
  index ∈ numbers got ∨ index ∈ numbers (stream.entries.drop got.length) ∨
    ∃ drop ∈ stream.dropped, drop.sent = index ∧ stream.Recovering covers drop

theorem placed_of_sound (h : stream.Sound covers) {got : List (Entry Data)}
    (hgot : got <+: stream.delivered) {index : Nat} {sent : Sent Data}
    (hsent : stream.sent[index]? = some sent) (hdelta : sent.isDelta = true) :
    Placed covers stream got index := by
  have hentries : got <+: stream.entries := by
    rw [Stream.entries, List.append_assoc]
    exact hgot.trans (List.prefix_append _ _)
  obtain ⟨rest, hrest⟩ := hentries
  rcases h.accounted index sent hsent hdelta with hentry | ⟨drop, hdrop, hindex⟩
  · rw [← hrest, numbers_append, List.mem_append] at hentry
    rcases hentry with hthere | hcoming
    · exact .inl hthere
    · refine .inr (.inl ?_)
      rwa [← hrest, List.drop_left]
  · exact .inr (.inr ⟨drop, hdrop, hindex, h.recovering drop hdrop⟩)

end Connection

def liveFrame (frame : Frame Int) : Tree :=
  .object
    [("type", .text (frame.type.getD "")), ("conversation_id", .text "room-1"),
      ("timestamp", .text "2030-01-01T00:00:00Z"), ("data", .int frame.data)]

def relayed : Stream Int where
  connection := { queueMaxsize := 1 }
  consumer := .idle
  sent := [⟨⟨some "agent_message", 7⟩, none⟩]
  delivered := [⟨⟨some "agent_message", 7⟩, some 0⟩]
  dropped := []

theorem relayed_reached : Streams true (fun _ _ => True) relayed := by
  have hopened : Streams true (fun _ _ => True) (.opened 1 : Stream Int) := .opened 1
  have hsent := Streams.move _ _ (.send ⟨⟨some "agent_message", 7⟩, none⟩) hopened trivial rfl
  have hcalled := Streams.move _ _ .call hsent trivial rfl
  exact .move _ relayed (.take 0) hcalled trivial rfl

end Hybro.Delivery
