import Hybro.Gateway.Assembly
import Hybro.Orchestrator.BudgetLedger

/-! # What a Codex stream keeps true

The emitted events agree with the slots: every text and all arguments are the text of their
slot, a call is ended exactly when its slot is, and every event fits the ones before it.
-/

namespace Hybro.Gateway

open Orchestrator

/-! ## Emitted events -/

def modelEvents (emitted : List Emission) : List ModelStreamEvent :=
  emitted.map fun emission => toModelEvent 1 emission.event

@[simp] theorem modelEvents_snoc (emitted : List Emission) (emission : Emission) :
    modelEvents (emitted ++ [emission]) =
      modelEvents emitted ++ [toModelEvent 1 emission.event] := by
  simp [modelEvents]

section ToModelEvent

variable {attempt : Nat} {event : GatewayTurnEvent}

@[simp] theorem toModelEvent_toolCallStart :
    (toModelEvent attempt event).kind = .toolCallStart ↔ event.kind = .toolCallStart := by
  cases h : event.kind <;> simp [toModelEvent, h]

@[simp] theorem toModelEvent_toolCallArgumentsDelta :
    (toModelEvent attempt event).kind = .toolCallArgumentsDelta ↔
      event.kind = .toolCallArgumentsDelta := by
  cases h : event.kind <;> simp [toModelEvent, h]

@[simp] theorem toModelEvent_toolCallEnd :
    (toModelEvent attempt event).kind = .toolCallEnd ↔ event.kind = .toolCallEnd := by
  cases h : event.kind <;> simp [toModelEvent, h]

@[simp] theorem toModelEvent_finish :
    (toModelEvent attempt event).kind = .finish ↔ event.kind = .finish := by
  cases h : event.kind <;> simp [toModelEvent, h]

@[simp] theorem toModelEvent_callId : (toModelEvent attempt event).callId = event.callId := rfl

@[simp] theorem toModelEvent_toolName : (toModelEvent attempt event).toolName = event.toolName := rfl

@[simp] theorem toModelEvent_text : (toModelEvent attempt event).text = event.delta.getD "" := rfl

end ToModelEvent

def outputText (index : Nat) (emitted : List Emission) : String :=
  String.join (emitted.filterMap fun emission =>
    if emission.output = some index ∧ emission.event.kind = .textDelta then emission.event.delta
    else none)

@[simp] theorem outputText_snoc (index : Nat) (emitted : List Emission) (emission : Emission) :
    outputText index (emitted ++ [emission]) = outputText index emitted ++
      if emission.output = some index ∧ emission.event.kind = .textDelta then
        emission.event.delta.getD "" else "" := by
  unfold outputText
  rw [List.filterMap_append, join_append]
  congr 1
  by_cases h : emission.output = some index ∧ emission.event.kind = .textDelta
  · cases hdelta : emission.event.delta <;> simp [h, hdelta, String.join]
  · simp [h, String.join]

theorem outputText_unseen {index : Nat} {emitted : List Emission}
    (h : ∀ emission ∈ emitted, emission.output ≠ some index) : outputText index emitted = "" := by
  unfold outputText
  rw [List.filterMap_eq_nil_iff.mpr]
  · rfl
  · intro emission hmem
    simp [h emission hmem]

variable (loads : String → Option JsonValue)

structure CallStreamed (events : List ModelStreamEvent) (slot : Slot) (callId name : String) :
    Prop where
  hasId : slot.callId = some callId
  hasName : slot.name = some name
  started : (callId, name) ∈ startedCalls events
  arguments : argumentsOf callId events = slot.text
  ended : callId ∈ endedCalls events ↔ slot.ended = true
  object : slot.ended = true → ∃ fields, loads slot.text = some (.obj fields)

structure SlotStreamed (emitted : List Emission) (index : Nat) (slot : Slot) : Prop where
  text : slot.kind = .message → outputText index emitted = slot.text
  call : slot.kind = .functionCall →
    ∃ callId name, CallStreamed loads (modelEvents emitted) slot callId name
  final : ∀ final, slot.final = some final → slot.text = final ++ slot.later
  ended : slot.ended = true → slot.kind ≠ .reasoning → slot.final.isSome ∧ slot.later = ""

structure Streamed (stream : CodexStream) (emitted : List Emission) : Prop where
  fits : AllFit (modelEvents emitted)
  unfinished : ∀ emission ∈ emitted, emission.event.kind ≠ .finish
  slots : ∀ index slot, stream.slots.lookup index = some slot →
    SlotStreamed loads emitted index slot
  outputs : ∀ emission ∈ emitted, ∀ index, emission.output = some index →
    (stream.slots.lookup index).isSome
  callIds : startedIds (modelEvents emitted) = stream.callIds
  owner : ∀ callId name, (callId, name) ∈ startedCalls (modelEvents emitted) →
    ∃ index slot, stream.slots.lookup index = some slot ∧ slot.kind = .functionCall ∧
      slot.callId = some callId ∧ slot.name = some name
  distinct : ∀ index other slot otherSlot, stream.slots.lookup index = some slot →
    stream.slots.lookup other = some otherSlot → slot.kind = .functionCall →
    otherSlot.kind = .functionCall → slot.callId = otherSlot.callId → index = other

section Slots

variable {loads} {stream next : CodexStream} {emitted : List Emission} {emission : Emission}
  {index : Nat} {slot : Slot}

theorem Streamed.congr (h : Streamed loads stream emitted) (hslots : next.slots = stream.slots)
    (hids : next.callIds = stream.callIds) : Streamed loads next emitted where
  fits := h.fits
  unfinished := h.unfinished
  slots := hslots ▸ h.slots
  outputs := hslots ▸ h.outputs
  callIds := hids ▸ h.callIds
  owner := hslots ▸ h.owner
  distinct := hslots ▸ h.distinct

@[simp] theorem lookup_withSlot_self :
    (stream.withSlot index slot).slots.lookup index = some slot :=
  lookup_setKey_self index slot stream.slots

theorem lookup_withSlot_of_ne {other : Nat} (h : other ≠ index) :
    (stream.withSlot index slot).slots.lookup other = stream.slots.lookup other :=
  lookup_setKey_of_ne h slot stream.slots

theorem lookup_withSlot {other : Nat} :
    (stream.withSlot index slot).slots.lookup other =
      if other = index then some slot else stream.slots.lookup other := by
  by_cases h : other = index
  · rw [h, lookup_withSlot_self, if_pos rfl]
  · rw [lookup_withSlot_of_ne h, if_neg h]

theorem SlotStreamed.frame (h : SlotStreamed loads emitted index slot)
    (hout : emission.output ≠ some index)
    (hcall : slot.kind = .functionCall → emission.event.callId ≠ slot.callId) :
    SlotStreamed loads (emitted ++ [emission]) index slot where
  text := by
    intro hkind
    simp [hout, h.text hkind]
  call := by
    intro hkind
    obtain ⟨callId, name, hstreamed⟩ := h.call hkind
    have hother : emission.event.callId ≠ some callId := hstreamed.hasId ▸ hcall hkind
    refine ⟨callId, name, hstreamed.hasId, hstreamed.hasName, ?_, ?_, ?_, hstreamed.object⟩
    · simp [hstreamed.started]
    · simp [hother, hstreamed.arguments]
    · rw [modelEvents_snoc, endedCalls_snoc, List.mem_append, hstreamed.ended]
      by_cases hend : emission.event.kind = .toolCallEnd <;> simp [hend, hother]
  final := h.final
  ended := h.ended

theorem Streamed.replaced (h : Streamed loads stream emitted) {before : Slot} {after : List Emission}
    (hlookup : stream.slots.lookup index = some before)
    (hsame : slot.kind = before.kind ∧ slot.callId = before.callId ∧ slot.name = before.name)
    (hfits : AllFit (modelEvents after))
    (hunfinished : ∀ emission ∈ after, emission.event.kind ≠ .finish)
    (houtputs : ∀ emission ∈ after, ∀ other, emission.output = some other →
      (stream.slots.lookup other).isSome)
    (hstarts : startedCalls (modelEvents after) = startedCalls (modelEvents emitted))
    (hothers : ∀ other otherSlot, other ≠ index → stream.slots.lookup other = some otherSlot →
      SlotStreamed loads after other otherSlot)
    (hslot : SlotStreamed loads after index slot) :
    Streamed loads (stream.withSlot index slot) after where
  fits := hfits
  unfinished := hunfinished
  slots := by
    intro other otherSlot hother
    rw [lookup_withSlot] at hother
    split at hother
    next heq =>
      obtain rfl := Option.some.inj hother
      exact heq ▸ hslot
    next hne => exact hothers other otherSlot hne hother
  outputs := by
    intro emission hmem other hother
    rw [lookup_withSlot]
    split
    · rfl
    · exact houtputs emission hmem other hother
  callIds := by
    unfold startedIds
    rw [hstarts]
    exact h.callIds
  owner := by
    intro callId name hmem
    rw [hstarts] at hmem
    obtain ⟨other, otherSlot, hother, hkind, hid, hname⟩ := h.owner callId name hmem
    by_cases heq : other = index
    · rw [heq, hlookup] at hother
      obtain rfl := Option.some.inj hother
      exact ⟨index, slot, lookup_withSlot_self, hsame.1.trans hkind, hsame.2.1.trans hid,
        hsame.2.2.trans hname⟩
    · exact ⟨other, otherSlot, (lookup_withSlot_of_ne heq).trans hother, hkind, hid, hname⟩
  distinct := by
    have hbefore : ∀ other otherSlot,
        (stream.withSlot index slot).slots.lookup other = some otherSlot →
        ∃ earlier, stream.slots.lookup other = some earlier ∧ otherSlot.kind = earlier.kind ∧
          otherSlot.callId = earlier.callId := by
      intro other otherSlot hother
      rw [lookup_withSlot] at hother
      split at hother
      next heq =>
        obtain rfl := Option.some.inj hother
        exact ⟨before, heq ▸ hlookup, hsame.1, hsame.2.1⟩
      next => exact ⟨otherSlot, hother, rfl, rfl⟩
    intro first second firstSlot secondSlot hfirst hsecond hfirstKind hsecondKind hids
    obtain ⟨firstBefore, hfirstLookup, hfirstSame, hfirstId⟩ := hbefore first firstSlot hfirst
    obtain ⟨secondBefore, hsecondLookup, hsecondSame, hsecondId⟩ :=
      hbefore second secondSlot hsecond
    exact h.distinct first second firstBefore secondBefore hfirstLookup hsecondLookup
      (hfirstSame.symm.trans hfirstKind) (hsecondSame.symm.trans hsecondKind)
      (hfirstId.symm.trans (hids.trans hsecondId))

theorem Streamed.touched (h : Streamed loads stream emitted) {before : Slot}
    (hlookup : stream.slots.lookup index = some before)
    (hsame : slot.kind = before.kind ∧ slot.callId = before.callId ∧ slot.name = before.name)
    (hslot : SlotStreamed loads emitted index slot) :
    Streamed loads (stream.withSlot index slot) emitted :=
  h.replaced hlookup hsame h.fits h.unfinished h.outputs rfl
    (fun other otherSlot _ hother => h.slots other otherSlot hother) hslot

theorem Streamed.stepped (h : Streamed loads stream emitted) {before : Slot}
    (hlookup : stream.slots.lookup index = some before)
    (hsame : slot.kind = before.kind ∧ slot.callId = before.callId ∧ slot.name = before.name)
    (hout : emission.output = some index)
    (hfits : Fits (modelEvents emitted) (toModelEvent 1 emission.event))
    (hfinish : emission.event.kind ≠ .finish) (hstart : emission.event.kind ≠ .toolCallStart)
    (hcall : emission.event.callId = none ∨
      before.kind = .functionCall ∧ emission.event.callId = before.callId)
    (hslot : SlotStreamed loads (emitted ++ [emission]) index slot) :
    Streamed loads (stream.withSlot index slot) (emitted ++ [emission]) := by
  refine h.replaced hlookup hsame ?_ ?_ ?_ ?_ ?_ hslot
  · rw [modelEvents_snoc]
    exact h.fits.snoc hfits
  · intro other hmem
    rcases List.mem_append.mp hmem with hmem | hmem
    · exact h.unfinished other hmem
    · rw [List.mem_singleton.mp hmem]
      exact hfinish
  · intro other hmem output houtput
    rcases List.mem_append.mp hmem with hmem | hmem
    · exact h.outputs other hmem output houtput
    · rw [List.mem_singleton.mp hmem, hout] at houtput
      rw [← Option.some.inj houtput, hlookup]
      rfl
  · simp [hstart]
  · intro other otherSlot hne hother
    have hstreamed : SlotStreamed loads emitted other otherSlot := h.slots other otherSlot hother
    apply hstreamed.frame
    · rw [hout]
      exact fun hsome => hne (Option.some.inj hsome).symm
    · intro hotherKind hid
      -- the calls of two slots differ
      rcases hcall with hnone | ⟨hkind, hown⟩
      · obtain ⟨callId, name, hotherCall⟩ := hstreamed.call hotherKind
        rw [hnone, hotherCall.hasId] at hid
        cases hid
      · exact hne (h.distinct other index otherSlot before hother hlookup hotherKind hkind
          (hid.symm.trans hown))

theorem Streamed.outputText_new (h : Streamed loads stream emitted)
    (hnew : stream.slots.lookup index = none) : outputText index emitted = "" := by
  apply outputText_unseen
  intro emission hmem hout
  have hseen := h.outputs emission hmem index hout
  rw [hnew] at hseen
  cases hseen

theorem Streamed.opened (h : Streamed loads stream emitted) {kind : ItemKind} {itemId : String}
    (hnew : stream.slots.lookup index = none) (hkind : kind ≠ .functionCall) :
    Streamed loads (stream.withSlot index { kind, itemId }) emitted where
  fits := h.fits
  unfinished := h.unfinished
  slots := by
    intro other otherSlot hother
    rw [lookup_withSlot] at hother
    split at hother
    next heq =>
      obtain rfl := Option.some.inj hother
      rw [heq]
      exact ⟨fun _ => h.outputText_new hnew, fun hcall => absurd hcall hkind, by simp, by simp⟩
    next => exact h.slots other otherSlot hother
  outputs := by
    intro emission hmem other hother
    rw [lookup_withSlot]
    split
    · rfl
    · exact h.outputs emission hmem other hother
  callIds := h.callIds
  owner := by
    intro callId name hmem
    obtain ⟨other, otherSlot, hother, hrest⟩ := h.owner callId name hmem
    have hne : other ≠ index := by
      intro heq
      rw [heq, hnew] at hother
      cases hother
    exact ⟨other, otherSlot, (lookup_withSlot_of_ne hne).trans hother, hrest⟩
  distinct := by
    have hold : ∀ other otherSlot, (stream.withSlot index { kind, itemId }).slots.lookup other =
        some otherSlot → otherSlot.kind = .functionCall →
        stream.slots.lookup other = some otherSlot := by
      intro other otherSlot hother hcall
      rw [lookup_withSlot] at hother
      split at hother
      next =>
        obtain rfl := Option.some.inj hother
        exact absurd hcall hkind
      next => exact hother
    intro first second firstSlot secondSlot hfirst hsecond hfirstKind hsecondKind
    exact h.distinct first second firstSlot secondSlot (hold first firstSlot hfirst hfirstKind)
      (hold second secondSlot hsecond hsecondKind) hfirstKind hsecondKind

theorem Streamed.declared (h : Streamed loads stream emitted) {itemId callId name : String}
    (hnew : stream.slots.lookup index = none) (hout : emission.output = some index)
    (hkind : emission.event.kind = .toolCallStart) (hid : emission.event.callId = some callId)
    (hname : emission.event.toolName = some name) (hidNe : callId ≠ "") (hnameNe : name ≠ "")
    (hfresh : callId ∉ stream.callIds) :
    Streamed loads
      { stream.withSlot index
          { kind := .functionCall, itemId, callId := some callId, name := some name } with
        callIds := stream.callIds ++ [callId] }
      (emitted ++ [emission]) := by
  have hunknown : callId ∉ startedIds (modelEvents emitted) := h.callIds ▸ hfresh
  have hstarts : startedCalls (modelEvents (emitted ++ [emission])) =
      startedCalls (modelEvents emitted) ++ [(callId, name)] := by simp [hkind, hid, hname]
  have hnotOld : ∀ other otherSlot, stream.slots.lookup other = some otherSlot →
      otherSlot.kind = .functionCall → otherSlot.callId ≠ some callId := by
    intro other otherSlot hother hcall hsame
    obtain ⟨otherId, otherName, hstreamed⟩ := (h.slots other otherSlot hother).call hcall
    rw [hstreamed.hasId] at hsame
    have hmem := List.mem_map_of_mem (f := (·.1)) hstreamed.started
    rw [Option.some.inj hsame] at hmem
    exact hunknown hmem
  refine ⟨?_, ?_, ?_, ?_, ?_, ?_, ?_⟩
  · rw [modelEvents_snoc]
    apply h.fits.snoc
    simp only [Fits, toModelEvent, hkind]
    exact ⟨callId, name, hid, hname, hidNe, hnameNe, hunknown⟩
  · intro other hmem
    rcases List.mem_append.mp hmem with hmem | hmem
    · exact h.unfinished other hmem
    · rw [List.mem_singleton.mp hmem, hkind]
      intro hfinish
      cases hfinish
  · intro other otherSlot hother
    change (stream.withSlot index _).slots.lookup other = some otherSlot at hother
    rw [lookup_withSlot] at hother
    split at hother
    next heq =>
      obtain rfl := Option.some.inj hother
      refine ⟨by simp, fun _ => ⟨callId, name, rfl, rfl, ?_, ?_, ?_, by simp⟩, by simp,
        by simp⟩
      · rw [hstarts]
        exact List.mem_append_right _ (List.mem_singleton_self _)
      · simp [hkind, h.fits.arguments_eq hunknown]
      · have hunended : callId ∉ endedCalls (modelEvents emitted) :=
          fun hmem => hunknown (h.fits.ends.2 callId hmem)
        simp [hkind, hunended]
    next hne =>
      apply (h.slots other otherSlot hother).frame
      · rw [hout]
        exact fun hsome => hne (Option.some.inj hsome).symm
      · intro hcall hsame
        exact hnotOld other otherSlot hother hcall (hsame.symm.trans hid)
  · intro other hmem output houtput
    change ((stream.withSlot index _).slots.lookup output).isSome = true
    rw [lookup_withSlot]
    split
    next => rfl
    next hne =>
      rcases List.mem_append.mp hmem with hmem | hmem
      · exact h.outputs other hmem output houtput
      · rw [List.mem_singleton.mp hmem, hout] at houtput
        exact absurd (Option.some.inj houtput).symm hne
  · unfold startedIds
    rw [hstarts, List.map_append]
    exact congrArg (· ++ [callId]) h.callIds
  · intro otherId otherName hmem
    rw [hstarts] at hmem
    rcases List.mem_append.mp hmem with hmem | hmem
    · obtain ⟨other, otherSlot, hother, hrest⟩ := h.owner otherId otherName hmem
      have hne : other ≠ index := by
        intro heq
        rw [heq, hnew] at hother
        cases hother
      exact ⟨other, otherSlot, (lookup_withSlot_of_ne hne).trans hother, hrest⟩
    · cases List.mem_singleton.mp hmem
      exact ⟨index, _, lookup_withSlot_self, rfl, rfl, rfl⟩
  · have hcases : ∀ other otherSlot, (stream.withSlot index
        { kind := .functionCall, itemId, callId := some callId, name := some name }).slots.lookup
          other = some otherSlot →
        other = index ∧ otherSlot.callId = some callId ∨
          stream.slots.lookup other = some otherSlot := by
      intro other otherSlot hother
      rw [lookup_withSlot] at hother
      split at hother
      next heq =>
        obtain rfl := Option.some.inj hother
        exact Or.inl ⟨heq, rfl⟩
      next => exact Or.inr hother
    intro first second firstSlot secondSlot hfirst hsecond hfirstKind hsecondKind hids
    rcases hcases first firstSlot hfirst with ⟨hfirstNew, hfirstId⟩ | hfirstOld
    · rcases hcases second secondSlot hsecond with ⟨hsecondNew, -⟩ | hsecondOld
      · exact hfirstNew.trans hsecondNew.symm
      · exact absurd (hids.symm.trans hfirstId) (hnotOld second secondSlot hsecondOld hsecondKind)
    · rcases hcases second secondSlot hsecond with ⟨-, hsecondId⟩ | hsecondOld
      · exact absurd (hids.trans hsecondId) (hnotOld first firstSlot hfirstOld hfirstKind)
      · exact h.distinct first second firstSlot secondSlot hfirstOld hsecondOld hfirstKind
          hsecondKind hids

theorem Streamed.noted (h : Streamed loads stream emitted) (hout : emission.output = none)
    (hkind : emission.event.kind = .usage) (hid : emission.event.callId = none)
    (husage : emission.event.usage.isSome) : Streamed loads stream (emitted ++ [emission]) where
  fits := by
    rw [modelEvents_snoc]
    apply h.fits.snoc
    simpa only [Fits, toModelEvent, hkind] using husage
  unfinished := by
    intro other hmem
    rcases List.mem_append.mp hmem with hmem | hmem
    · exact h.unfinished other hmem
    · rw [List.mem_singleton.mp hmem, hkind]
      intro hfinish
      cases hfinish
  slots := by
    intro other otherSlot hother
    have hstreamed : SlotStreamed loads emitted other otherSlot := h.slots other otherSlot hother
    apply hstreamed.frame
    · rw [hout]
      intro hsome
      cases hsome
    · intro hcall hsame
      obtain ⟨callId, name, hotherCall⟩ := hstreamed.call hcall
      rw [hid, hotherCall.hasId] at hsame
      cases hsame
  outputs := by
    intro other hmem output houtput
    rcases List.mem_append.mp hmem with hmem | hmem
    · exact h.outputs other hmem output houtput
    · rw [List.mem_singleton.mp hmem, hout] at houtput
      cases houtput
  callIds := by simpa [startedIds, hkind] using h.callIds
  owner := by
    intro callId name hmem
    exact h.owner callId name (by simpa [hkind] using hmem)
  distinct := h.distinct

end Slots

end Hybro.Gateway
