import Hybro.Gateway.CodexInvariant

/-! # The steps of a Codex stream

One rule for each operation: the slot it leaves, and that its events agree with the slots.
-/

namespace Hybro.Gateway

open Orchestrator CodexStream

variable {loads : String → Option JsonValue} {stream mid next : CodexStream}
  {emitted events more : List Emission} {index : Nat} {slot : Slot}

variable (loads) in
/-- The stream stays as open as it was, and its events go on agreeing with its slots. -/
def Keeps (stream : CodexStream) (result : CodexStream × List Emission) : Prop :=
  result.1.stopped = stream.stopped ∧
    ∀ emitted, Streamed loads stream emitted → Streamed loads result.1 (emitted ++ result.2)

theorem Keeps.refl (stream : CodexStream) : Keeps loads stream (stream, []) :=
  ⟨rfl, fun emitted h => by simpa using h⟩

theorem Keeps.trans (hfirst : Keeps loads stream (mid, events))
    (hsecond : Keeps loads mid (next, more)) : Keeps loads stream (next, events ++ more) := by
  refine ⟨hsecond.1.trans hfirst.1, fun emitted h => ?_⟩
  have hmid : Streamed loads mid (emitted ++ events) := hfirst.2 emitted h
  simpa [List.append_assoc] using hsecond.2 (emitted ++ events) hmid

theorem Keeps.of_same (hslots : next.slots = stream.slots) (hids : next.callIds = stream.callIds)
    (hstopped : next.stopped = stream.stopped) : Keeps loads stream (next, []) :=
  ⟨hstopped, fun emitted h => by simpa using h.congr hslots hids⟩

theorem Keeps.of_touched {before : Slot} (hlookup : stream.slots.lookup index = some before)
    (hsame : slot.kind = before.kind ∧ slot.callId = before.callId ∧ slot.name = before.name)
    (hslot : ∀ emitted, SlotStreamed loads emitted index before →
      SlotStreamed loads emitted index slot) :
    Keeps loads stream (stream.withSlot index slot, []) := by
  refine ⟨rfl, fun emitted h => ?_⟩
  rw [List.append_nil]
  exact h.touched hlookup hsame (hslot emitted (h.slots index before hlookup))

/-! ## Events and deltas -/

theorem event_ok {output : Option Nat} {event : GatewayTurnEvent}
    (h : stream.event output event = .ok (next, events)) :
    ∃ bytes id, next = { stream with outputBytes := bytes } ∧
      events = [⟨output, { event with providerRequestId := id }⟩] ∧
      eventHasRequiredPayload event = true := by
  unfold CodexStream.event at h
  dsimp only at h
  split at h
  · cases h
  · split at h
    next hpayload =>
      rw [bind_eq_ok] at h
      obtain ⟨id, -, h⟩ := h
      cases h
      exact ⟨_, id, rfl, rfl, hpayload⟩
    next => cases h

theorem SlotStreamed.appended (h : SlotStreamed loads emitted index slot)
    (hopen : slot.ended = false) (id : Option String) (delta : String) :
    SlotStreamed loads
      (emitted ++ [⟨some index, { deltaEvent slot delta with providerRequestId := id }⟩]) index
      { slot with text := slot.text ++ delta, later := slot.later ++ delta } where
  text := by
    intro hkind
    change slot.kind = .message at hkind
    simp [deltaEvent, hkind, h.text hkind]
  call := by
    intro hkind
    change slot.kind = .functionCall at hkind
    obtain ⟨callId, name, hcall⟩ := h.call hkind
    refine ⟨callId, name, hcall.hasId, hcall.hasName, ?_, ?_, ?_, ?_⟩
    · simp [hcall.started]
    · simp [deltaEvent, hkind, hcall.hasId, hcall.arguments]
    · simp [deltaEvent, hkind, hcall.ended]
    · intro hended
      exact absurd (hopen.symm.trans hended) (by decide)
  final := by
    intro final hfinal
    change slot.text ++ delta = final ++ (slot.later ++ delta)
    rw [h.final final hfinal, String.append_assoc]
  ended := by
    intro hended
    exact absurd (hopen.symm.trans hended) (by decide)

variable (loads) in
theorem append_ok {delta : JsonValue} (h : stream.append index delta = .ok (next, events)) :
    ∃ slot text, stream.slots.lookup index = some slot ∧ delta = .str text ∧ slot.ended = false ∧
      next.slots.lookup index =
        some { slot with text := slot.text ++ text, later := slot.later ++ text } ∧
      Keeps loads stream (next, events) := by
  unfold CodexStream.append at h
  split at h
  next slot text hlookup =>
    split at h
    · cases h
    next hended =>
      have hopen : slot.ended = false := by simpa using hended
      dsimp only at h
      split at h
      next hempty =>
        cases h
        refine ⟨slot, text, hlookup, rfl, hopen, lookup_withSlot_self, ?_⟩
        have hsame : { slot with text := slot.text ++ text, later := slot.later ++ text } = slot := by
          simp [hempty]
        refine Keeps.of_touched hlookup ?_ ?_
        · exact ⟨rfl, rfl, rfl⟩
        · intro emitted hstreamed
          rw [hsame]
          exact hstreamed
      next =>
        obtain ⟨bytes, id, rfl, rfl, hpayload⟩ := event_ok h
        refine ⟨slot, text, hlookup, rfl, hopen, lookup_withSlot_self, rfl, ?_⟩
        intro emitted hstreamed
        have hslot : SlotStreamed loads emitted index slot := hstreamed.slots index slot hlookup
        refine (hstreamed.stepped hlookup ?_ rfl ?_ ?_ ?_ ?_ (hslot.appended hopen id text)).congr rfl
          rfl
        · exact ⟨rfl, rfl, rfl⟩
        · cases hkind : slot.kind with
          | functionCall =>
              obtain ⟨callId, name, hcall⟩ := hslot.call hkind
              have hidNe : callId ≠ "" := by
                simpa [deltaEvent, hkind, eventHasRequiredPayload, hcall.hasId] using
                  hpayload
              simp only [deltaEvent, hkind, Fits]
              exact ⟨callId, hcall.hasId, hidNe, List.mem_map_of_mem (f := (·.1)) hcall.started⟩
          | message =>
              simp only [deltaEvent, hkind, Fits]
              trivial
          | reasoning =>
              simp only [deltaEvent, hkind, Fits]
              trivial
        · cases hkind : slot.kind <;> simp [deltaEvent, hkind]
        · cases hkind : slot.kind <;> simp [deltaEvent, hkind]
        · cases hkind : slot.kind <;> simp [deltaEvent, hkind]
  next => cases h

theorem noted_eq (hlookup : stream.slots.lookup index = some slot) (complete : String) :
    stream.noted index complete =
      stream.withSlot index { slot with final := some complete, later := "" } := by
  unfold CodexStream.noted
  rw [hlookup]

variable (loads) in
theorem backfill_ok {complete : JsonValue}
    (h : stream.backfill index complete = .ok (next, events)) :
    ∃ slot text, stream.slots.lookup index = some slot ∧ complete = .str text ∧
      slot.ended = false ∧
      next.slots.lookup index = some { slot with text := text, final := some text, later := "" } ∧
      Keeps loads stream (next, events) := by
  unfold CodexStream.backfill at h
  split at h
  next slot text hlookup =>
    split at h
    next hstarts =>
      rw [bind_eq_ok] at h
      obtain ⟨⟨appended, deltas⟩, happend, h⟩ := h
      cases h
      obtain ⟨before, rest, hbefore, hrest, hopen, hafter, hkeeps⟩ :=
        append_ok loads happend
      obtain rfl := Option.some.inj (hlookup.symm.trans hbefore)
      have htext : slot.text ++ rest = text := by
        have hprefix : slot.text.toList <+: text.toList := by
          simpa [PythonText.startsWith] using hstarts
        obtain ⟨tail, htail⟩ := hprefix
        cases hrest
        apply String.toList_injective
        rw [String.toList_append, String.toList_ofList, ← htail, List.drop_left]
      refine ⟨slot, text, hlookup, rfl, hopen, ?_, ?_⟩
      · rw [noted_eq hafter, lookup_withSlot_self, htext]
      · have hnoted : Keeps loads appended (appended.noted index text, []) := by
          rw [noted_eq hafter]
          refine Keeps.of_touched hafter ?_ ?_
          · exact ⟨rfl, rfl, rfl⟩
          · intro emitted hslot
            refine ⟨hslot.text, ?_, ?_, ?_⟩
            · intro hkind
              obtain ⟨callId, name, hcall⟩ := hslot.call hkind
              exact ⟨callId, name, hcall.hasId, hcall.hasName, hcall.started, hcall.arguments,
                hcall.ended, hcall.object⟩
            · intro final hfinal
              obtain rfl := Option.some.inj hfinal
              simpa using htext
            · intro hended
              exact absurd (hopen.symm.trans hended) (by decide)
        simpa using hkeeps.trans hnoted
    next => cases h
  next => cases h

/-! ## Items -/

theorem declare_ok {itemId : String} {item : JsonValue}
    (hnew : stream.slots.lookup index = none)
    (h : stream.declare index itemId item = .ok (next, events)) :
    Keeps loads stream (next, events) := by
  unfold CodexStream.declare at h
  simp only [bind_eq_ok] at h
  obtain ⟨callIdValue, -, nameValue, -, h⟩ := h
  split at h
  next callId name =>
    split at h
    · cases h
    next hvalid =>
      simp only [not_or] at hvalid
      rw [bind_eq_ok] at h
      obtain ⟨⟨started, starts⟩, hevent, h⟩ := h
      obtain ⟨bytes, id, hstarted, rfl, hpayload⟩ := event_ok hevent
      have hnameNe : name ≠ "" := by
        have hboth : ¬callId = "" ∧ ¬name = "" := by simpa [eventHasRequiredPayload] using hpayload
        exact hboth.2
      have hdeclared : Keeps loads stream (started, [⟨some index,
          { kind := .toolCallStart, callId := some callId, toolName := some name,
            providerRequestId := id }⟩]) := by
        subst hstarted
        refine ⟨rfl, fun emitted hstreamed => ?_⟩
        exact (hstreamed.declared hnew rfl rfl rfl rfl hvalid.1 hnameNe hvalid.2.1).congr rfl rfl
      rw [bind_eq_ok] at h
      obtain ⟨arguments, -, h⟩ := h
      split at h
      · rw [bind_eq_ok] at h
        obtain ⟨⟨appended, deltas⟩, happend, h⟩ := h
        cases h
        obtain ⟨-, -, -, -, -, -, hkeeps⟩ := append_ok loads happend
        exact hdeclared.trans hkeeps
      · cases h
        exact hdeclared
  next => cases h

theorem start_ok {indexValue item : JsonValue}
    (h : stream.start indexValue item = .ok (next, events)) : Keeps loads stream (next, events) := by
  unfold CodexStream.start at h
  split at h
  next number =>
    split at h
    · cases h
    next hvalid =>
      simp only [not_or, Option.not_isSome_iff_eq_none] at hvalid
      simp only [bind_eq_ok] at h
      obtain ⟨idValue, -, typeValue, -, h⟩ := h
      split at h
      next itemId kind _ =>
        split at h
        · cases h
        · split at h
          · exact declare_ok hvalid.2 h
          next hkind =>
            cases h
            refine ⟨rfl, fun emitted hstreamed => ?_⟩
            rw [List.append_nil]
            exact hstreamed.opened hvalid.2 hkind
      next => cases h
  next => cases h

theorem opened_ok {indexValue item : JsonValue}
    (h : stream.opened indexValue item = .ok (next, events)) :
    Keeps loads stream (next, events) := by
  unfold CodexStream.opened at h
  split at h
  · cases h
    exact Keeps.refl _
  · rw [bind_eq_ok] at h
    obtain ⟨completed, -, h⟩ := h
    exact start_ok h

/-! ## Completions -/

theorem settled_eq (hlookup : stream.slots.lookup index = some slot) (incomplete : Bool) :
    stream.settled index incomplete = stream.withSlot index { slot with ended := !incomplete } := by
  unfold CodexStream.settled
  rw [hlookup]

theorem Keeps.of_settled (hlookup : stream.slots.lookup index = some slot) {incomplete : Bool}
    (hopen : slot.ended = false) (hkind : slot.kind = .functionCall → incomplete = true)
    (hnoted : slot.kind ≠ .reasoning → slot.final.isSome ∧ slot.later = "") :
    Keeps loads stream (stream.settled index incomplete, []) := by
  rw [settled_eq hlookup]
  refine Keeps.of_touched hlookup ?_ ?_
  · exact ⟨rfl, rfl, rfl⟩
  · intro emitted hslot
    refine ⟨hslot.text, ?_, hslot.final, fun _ => hnoted⟩
    intro hcallKind
    obtain ⟨callId, name, hcall⟩ := hslot.call hcallKind
    have hsame : (!incomplete) = slot.ended := by rw [hkind hcallKind, hopen]; rfl
    refine ⟨callId, name, hcall.hasId, hcall.hasName, hcall.started, hcall.arguments, ?_, ?_⟩
    · change callId ∈ _ ↔ (!incomplete) = true
      rw [hsame]
      exact hcall.ended
    · intro hended
      change (!incomplete) = true at hended
      exact hcall.object (hsame ▸ hended)

theorem endMessage_ok {item : JsonValue} {incomplete : Bool}
    (hlookup : stream.slots.lookup index = some slot) (hkind : slot.kind = .message)
    (h : stream.endMessage index item incomplete = .ok (next, events)) :
    Keeps loads stream (next, events) := by
  unfold CodexStream.endMessage at h
  rw [bind_eq_ok] at h
  obtain ⟨complete, -, h⟩ := h
  rw [bind_eq_ok] at h
  obtain ⟨⟨filled, deltas⟩, hfill, h⟩ := h
  cases h
  obtain ⟨before, text, hbefore, -, hopen, hafter, hkeeps⟩ := backfill_ok loads hfill
  obtain rfl := Option.some.inj (hlookup.symm.trans hbefore)
  have hsettled : Keeps loads filled (filled.settled index incomplete, []) :=
    Keeps.of_settled hafter hopen (fun hcall => by simp [hkind] at hcall) fun _ => ⟨rfl, rfl⟩
  simpa using hkeeps.trans hsettled

theorem SlotStreamed.closed (h : SlotStreamed loads emitted index slot)
    (hkind : slot.kind = .functionCall) (hnoted : slot.final.isSome ∧ slot.later = "")
    (hobject : ∃ fields, loads slot.text = some (.obj fields)) (id : Option String) :
    SlotStreamed loads (emitted ++ [⟨some index,
      { kind := .toolCallEnd, callId := slot.callId, providerRequestId := id }⟩]) index
      { slot with ended := true } where
  text := by
    intro hmessage
    exact absurd (hkind.symm.trans hmessage) (by decide)
  call := by
    intro _
    obtain ⟨callId, name, hcall⟩ := h.call hkind
    refine ⟨callId, name, hcall.hasId, hcall.hasName, ?_, ?_, ?_, fun _ => hobject⟩
    · simp [hcall.started]
    · simp [hcall.arguments]
    · simp [hcall.hasId]
  final := h.final
  ended := fun _ _ => hnoted

theorem endCall_ok {item : JsonValue} {incomplete : Bool}
    (hlookup : stream.slots.lookup index = some slot) (hkind : slot.kind = .functionCall)
    (h : stream.endCall loads index slot item incomplete = .ok (next, events)) :
    Keeps loads stream (next, events) := by
  unfold CodexStream.endCall at h
  simp only [bind_eq_ok] at h
  obtain ⟨callIdValue, -, nameValue, -, h⟩ := h
  split at h
  · simp only [bind_eq_ok] at h
    obtain ⟨arguments, -, ⟨filled, deltas⟩, hfill, h⟩ := h
    obtain ⟨before, text, hbefore, -, hopen, hafter, hkeeps⟩ := backfill_ok loads hfill
    obtain rfl := Option.some.inj (hlookup.symm.trans hbefore)
    dsimp only at h
    split at h
    · cases h
      rename_i hincomplete
      have hsettled : Keeps loads filled (filled.settled index true, []) :=
        Keeps.of_settled hafter hopen (fun _ => rfl) fun _ => ⟨rfl, rfl⟩
      simpa using hkeeps.trans hsettled
    · split at h
      next fields hloads =>
        rw [bind_eq_ok] at h
        obtain ⟨⟨ended, last⟩, hevent, h⟩ := h
        cases h
        obtain ⟨bytes, id, rfl, rfl, hpayload⟩ := event_ok hevent
        have htext : filled.slotText index = text := by
          unfold CodexStream.slotText
          rw [hafter]
          rfl
        have hcounted : ({ filled with outputBytes := bytes } : CodexStream).slots.lookup index =
            some _ := hafter
        have hsettled := settled_eq hcounted false
        refine hkeeps.trans ?_
        rw [hsettled]
        refine ⟨rfl, fun emitted hstreamed => ?_⟩
        have hslot := hstreamed.slots index _ hafter
        obtain ⟨callId, name, hcall⟩ := hslot.call hkind
        have hid : slot.callId = some callId := hcall.hasId
        have hidNe : callId ≠ "" := by simpa [eventHasRequiredPayload, hid] using hpayload
        refine (hstreamed.stepped hafter ?_ rfl ?_ ?_ ?_ ?_ (hslot.closed hkind ?_ ?_ id)).congr rfl
          rfl
        · exact ⟨rfl, rfl, rfl⟩
        · have hunended : callId ∉ endedCalls (modelEvents emitted) := by
            rw [hcall.ended]
            simp [hopen]
          exact ⟨callId, hid, hidNe, List.mem_map_of_mem (f := (·.1)) hcall.started, hunended⟩
        · nofun
        · nofun
        · exact Or.inr ⟨hkind, rfl⟩
        · exact ⟨rfl, rfl⟩
        · exact ⟨fields, htext ▸ hloads⟩
      next => cases h
  · cases h

theorem endItem_ok {indexValue item : JsonValue} {incomplete : Bool}
    (h : stream.endItem loads indexValue item incomplete = .ok (next, events)) :
    Keeps loads stream (next, events) := by
  unfold CodexStream.endItem at h
  rw [bind_eq_ok] at h
  obtain ⟨⟨opened, starts⟩, hopened, h⟩ := h
  have hstart : Keeps loads stream (opened, starts) := opened_ok hopened
  dsimp only at h
  split at h
  · cases h
  next key slot hfound =>
    have hlookup : opened.slots.lookup key = some slot := by
      obtain ⟨found, -, hpair⟩ := Option.bind_eq_some_iff.mp hfound
      obtain ⟨other, hother, hsame⟩ := Option.map_eq_some_iff.mp hpair
      cases hsame
      exact hother
    simp only [bind_eq_ok] at h
    obtain ⟨typeValue, -, idValue, -, h⟩ := h
    split at h
    · cases h
    next hvalid =>
      simp only [not_or, Bool.not_eq_true] at hvalid
      rw [bind_eq_ok] at h
      obtain ⟨status, -, h⟩ := h
      cases hkind : slot.kind with
      | functionCall =>
          simp only [hkind, bind_eq_ok] at h
          obtain ⟨⟨ended, rest⟩, hend, h⟩ := h
          cases h
          exact hstart.trans (endCall_ok hlookup hkind hend)
      | message =>
          simp only [hkind, bind_eq_ok] at h
          obtain ⟨⟨ended, rest⟩, hend, h⟩ := h
          cases h
          exact hstart.trans (endMessage_ok hlookup hkind hend)
      | reasoning =>
          simp only [hkind] at h
          cases h
          have hsettled : ∀ flag, Keeps loads opened (opened.settled key flag, []) := fun _ =>
            Keeps.of_settled hlookup hvalid.1 (fun hcall => by simp [hkind] at hcall)
              fun hne => absurd hkind hne
          simpa using hstart.trans (hsettled _)

theorem endRest_ok {incomplete : Bool} {items : List JsonValue}
    (h : stream.endRest loads incomplete index items = .ok (next, events)) :
    Keeps loads stream (next, events) := by
  induction items generalizing stream index events with
  | nil =>
      cases h
      exact Keeps.refl _
  | cons item items ih =>
      unfold CodexStream.endRest at h
      rw [bind_eq_ok] at h
      obtain ⟨⟨ended, first⟩, hend, h⟩ := h
      rw [bind_eq_ok] at h
      obtain ⟨⟨last, rest⟩, hrest, h⟩ := h
      cases h
      have hfirst : Keeps loads stream (ended, first) := by
        unfold CodexStream.endUnended at hend
        split at hend
        · cases hend
          exact Keeps.refl _
        · exact endItem_ok hend
      exact hfirst.trans (ih hrest)

/-! ## Events of the response -/

theorem consumeDelta_ok {kind : String} {expected : ItemKind} {event : JsonValue}
    (h : stream.consumeDelta kind expected event = .ok (next, events)) :
    Keeps loads stream (next, events) := by
  unfold CodexStream.consumeDelta at h
  rw [bind_eq_ok] at h
  obtain ⟨indexValue, -, h⟩ := h
  split at h
  · cases h
  · rw [bind_eq_ok] at h
    obtain ⟨itemId, -, h⟩ := h
    split at h
    · cases h
    · split at h
      · rw [bind_eq_ok] at h
        obtain ⟨arguments, -, h⟩ := h
        obtain ⟨-, -, -, -, -, -, hkeeps⟩ := backfill_ok loads h
        exact hkeeps
      · split at h
        · obtain ⟨-, -, -, -, -, -, hkeeps⟩ := append_ok loads h
          exact hkeeps
        · rw [bind_eq_ok] at h
          obtain ⟨delta, -, h⟩ := h
          obtain ⟨-, -, -, -, -, -, hkeeps⟩ := append_ok loads h
          exact hkeeps

/-- The response is finished for a reason: its events agree with the slots up to one finish,
which is last, and unless the answer was cut off every item has ended. -/
structure Finishes (loads : String → Option JsonValue) (stream : CodexStream) (result : CodexStream × List Emission)
    (before : List Emission) (reason : GatewayFinishReason) : Prop where
  stopped : result.1.stopped = true
  last : ∃ emission, result.2 = before ++ [emission] ∧ emission.event.kind = .finish ∧
    emission.event.finishReason = some reason
  streamed : ∀ emitted, Streamed loads stream emitted → Streamed loads result.1 (emitted ++ before)
  reason : reason = .length ∨
    reason = (if result.1.callIds = [] then .stop else .toolCalls) ∧
      ∀ index slot, result.1.slots.lookup index = some slot → slot.ended = true

theorem finishReason_ok {length : Bool} {reason : GatewayFinishReason}
    (h : stream.finishReason length = .ok reason) :
    reason = .length ∨ reason = (if stream.callIds = [] then .stop else .toolCalls) ∧
      ∀ index slot, stream.slots.lookup index = some slot → slot.ended = true := by
  unfold CodexStream.finishReason at h
  split at h
  · cases h
    exact Or.inl rfl
  · split at h
    · cases h
    next hended =>
      split at h
      · cases h
      · cases h
        refine Or.inr ⟨rfl, fun index slot hlookup => ?_⟩
        have hmem : (index, slot) ∈ stream.slots := by
          obtain ⟨first, second, hsplit, -⟩ := List.lookup_eq_some_iff.mp hlookup
          simp [hsplit]
        by_contra hopen
        exact hended (List.any_eq_true.mpr ⟨(index, slot), hmem, by simpa using hopen⟩)

variable (loads) in
theorem usageEvents_ok {usage : Option UsageRecord}
    (h : stream.usageEvents usage = .ok (next, events)) :
    next.slots = stream.slots ∧ next.callIds = stream.callIds ∧
      Keeps loads stream (next, events) := by
  unfold CodexStream.usageEvents at h
  split at h
  · cases h
    exact ⟨rfl, rfl, Keeps.refl _⟩
  · obtain ⟨bytes, id, rfl, rfl, -⟩ := event_ok h
    refine ⟨rfl, rfl, rfl, fun emitted hstreamed => ?_⟩
    exact (hstreamed.noted rfl rfl rfl rfl).congr rfl rfl

theorem complete_ok {response : JsonValue} (h : stream.complete loads response = .ok (next, events)) :
    ∃ before reason, Finishes loads stream (next, events) before reason := by
  unfold CodexStream.complete at h
  simp only [bind_eq_ok] at h
  obtain ⟨requestId, -, status, -, rawUsage, -, usage, -, output, -, items, -, ⟨filled, ends⟩, hrest,
    reason, hreason, ⟨counted, counts⟩, hcounted, ⟨finished, last⟩, hfinish, h⟩ := h
  cases h
  obtain ⟨hslots, hids, husage⟩ := usageEvents_ok loads hcounted
  obtain ⟨bytes, id, rfl, rfl, -⟩ := event_ok hfinish
  have hfilled := (endRest_ok hrest).trans husage
  refine ⟨ends ++ counts, reason, rfl, ⟨_, rfl, rfl, rfl⟩, ?_, ?_⟩
  · intro emitted hstreamed
    have hrequest : Streamed loads { stream with requestId := requestId } emitted :=
      hstreamed.congr rfl rfl
    exact (hfilled.2 emitted hrequest).congr rfl rfl
  · change reason = .length ∨ reason = (if counted.callIds = [] then .stop else .toolCalls) ∧
      ∀ index slot, counted.slots.lookup index = some slot → slot.ended = true
    rw [hslots, hids]
    exact finishReason_ok hreason

theorem consumeKind_ok {kind : String} {event : JsonValue}
    (h : stream.consumeKind loads kind event = .ok (next, events)) :
    Keeps loads stream (next, events) ∨
      ∃ before reason, Finishes loads stream (next, events) before reason := by
  unfold CodexStream.consumeKind at h
  split at h
  · cases h
  · split at h
    · rw [bind_eq_ok] at h
      obtain ⟨response, -, h⟩ := h
      rw [bind_eq_ok] at h
      obtain ⟨requestId, -, h⟩ := h
      cases h
      exact Or.inl (Keeps.of_same rfl rfl rfl)
    · split at h
      · simp only [bind_eq_ok] at h
        obtain ⟨outputIndex, -, item, -, h⟩ := h
        exact Or.inl (start_ok h)
      · split at h
        · simp only [bind_eq_ok] at h
          obtain ⟨outputIndex, -, item, -, h⟩ := h
          exact Or.inl (endItem_ok h)
        · split at h
          · exact Or.inl (consumeDelta_ok h)
          · split at h
            · simp only [bind_eq_ok] at h
              obtain ⟨response, -, terminal, -, h⟩ := h
              exact Or.inr (complete_ok h)
            · cases h
              exact Or.inl (Keeps.refl _)

theorem consume_ok {event : JsonValue} (h : stream.consume loads event = .ok (next, events)) :
    Keeps loads stream (next, events) ∨
      ∃ before reason, Finishes loads stream (next, events) before reason := by
  unfold CodexStream.consume at h
  rw [bind_eq_ok] at h
  obtain ⟨kindValue, -, h⟩ := h
  split at h
  · cases h
  · split at h
    next kind =>
      exact consumeKind_ok h
    · cases h
    · cases h
    · cases h
      exact Or.inl (Keeps.refl _)

variable (loads) in
theorem consume_stopped (event : JsonValue) (hstopped : stream.stopped = true) :
    ∃ message, stream.consume loads event = .error message := by
  unfold CodexStream.consume
  cases subscript event "type" with
  | error message => exact ⟨message, rfl⟩
  | ok kind => exact ⟨"Event after terminal response", by simp [hstopped, bind, Except.bind]; rfl⟩

theorem consumeAll_ok {inputs : List JsonValue} (hopen : stream.stopped = false)
    (h : stream.consumeAll loads inputs = .ok (next, events)) (hstopped : next.stopped = true) :
    ∃ before reason, Finishes loads stream (next, events) before reason := by
  induction inputs generalizing stream events with
  | nil =>
      cases h
      exact absurd (hopen.symm.trans hstopped) (by decide)
  | cons input inputs ih =>
      unfold CodexStream.consumeAll at h
      simp only [bind_eq_ok] at h
      obtain ⟨⟨consumed, first⟩, hfirst, ⟨last, rest⟩, hrest, h⟩ := h
      cases h
      rcases consume_ok hfirst with hkeeps | ⟨before, reason, hfinishes⟩
      · obtain ⟨before, reason, hfinishes⟩ := ih (hkeeps.1.trans hopen) hrest
        obtain ⟨emission, hlast, hkind, hreason⟩ := hfinishes.last
        refine ⟨first ++ before, reason, hfinishes.stopped, ⟨emission, ?_, hkind, hreason⟩, ?_,
          hfinishes.reason⟩
        · change first ++ rest = _
          rw [show rest = before ++ [emission] from hlast, List.append_assoc]
        · intro emitted hstreamed
          rw [← List.append_assoc]
          exact hfinishes.streamed (emitted ++ first) (hkeeps.2 emitted hstreamed)
      · -- no event is accepted after the finish
        cases inputs with
        | nil =>
            cases hrest
            exact ⟨before, reason, by simpa using hfinishes⟩
        | cons input inputs =>
            have hstop : consumed.stopped = true := hfinishes.stopped
            obtain ⟨message, hmessage⟩ := consume_stopped loads input hstop
            unfold CodexStream.consumeAll at hrest
            rw [hmessage] at hrest
            cases hrest

end Hybro.Gateway
