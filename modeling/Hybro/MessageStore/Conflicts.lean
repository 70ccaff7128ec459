import Hybro.MessageStore.Upsert

/-! # Conflicts between updates of a message

What the store promises about the task status and the task time of one message, whatever
updates arrive for it, and the three kinds of updates that break it.
-/

namespace Hybro.MessageStore

open OrderedMap

variable {Presentation Artifacts Attachments : Type}

section Updates

variable (env : Surroundings Presentation Artifacts Attachments)
  (existing : MessageEntity Presentation Artifacts Attachments)
  (incoming : IncomingMessage Presentation Artifacts Attachments) (source : MessageSource)

def MessageEntity.time (existing : MessageEntity Presentation Artifacts Attachments) : Option Int :=
  existing.taskUpdatedAt.bind env.getTime

def IncomingMessage.time (incoming : IncomingMessage Presentation Artifacts Attachments) :
    Option Int :=
  incoming.taskUpdatedAt.bind env.getTime

/-- The `input-required` status of a newer round of questions. -/
def isNewerRound : Bool :=
  incoming.taskStatus = some (some .inputRequired) && incomingIsNewer env existing incoming &&
    isDifferentHitlRound existing incoming

/-- An explicit `null` for a terminal status. -/
def erasesTerminal : Bool :=
  existing.isTerminal && incoming.taskStatus = some none &&
    !incomingIsOlder env existing incoming && !rule5 existing source

/-- The terminal state of the database, with an older time, for a task that is not terminal. -/
def missesTerminal : Bool :=
  source = .db && incoming.isTerminal && incomingIsOlder env existing incoming &&
    !existing.isTerminal && !rule5 existing source

/-- A time before the last one that was stored, while the stored one is none. -/
def rewindsTime (last : Option Int) : Bool :=
  last.any (fun last => (incoming.time env).any (· < last)) && (existing.time env).isNone &&
    !rule5 existing source && !rule1 env existing incoming && !rule2 existing incoming source

def breaksPromise (last : Option Int) : Bool :=
  erasesTerminal env existing incoming source || missesTerminal env existing incoming source ||
    rewindsTime env existing incoming source last

def updated (now : Int) : MessageEntity Presentation Artifacts Attachments :=
  if rejected env existing incoming source then existing
  else mergedEntity env existing incoming source now

/-- What is promised of an update of a message, with the last time stored for it before. -/
structure Promised (last : Option Int) (now : Int) : Prop where
  terminalKept : existing.isTerminal = true → isNewerRound env existing incoming = false →
    (updated env existing incoming source now).isTerminal = true
  dbTerminal : rejected env existing incoming source = false → source = .db →
    incoming.isTerminal = true → (updated env existing incoming source now).isTerminal = true
  timeKept : ∀ first second, last = some first →
    (updated env existing incoming source now).time env = some second → first ≤ second

end Updates

section Rules

variable {env : Surroundings Presentation Artifacts Attachments}
  {existing : MessageEntity Presentation Artifacts Attachments}
  {incoming : IncomingMessage Presentation Artifacts Attachments} {source : MessageSource}
  {last : Option Int}

theorem earlier_eq_true {first second : Option String} :
    env.earlier first second = true ↔
      ∃ a b, first.bind env.getTime = some a ∧ second.bind env.getTime = some b ∧ a < b := by
  have hgiven : ∀ value : Option String, ∀ t, value.bind env.getTime = some t →
      truthy value = true := by
    intro value t ht
    cases value with
    | none => cases ht
    | some text =>
        have hne : text ≠ "" := by
          intro heq
          rw [heq, Option.bind_some, env.getTime_empty] at ht
          cases ht
        simpa [truthy] using hne
  unfold Surroundings.earlier
  cases hfirst : first.bind env.getTime with
  | none => simp
  | some a =>
      cases hsecond : second.bind env.getTime with
      | none => simp
      | some b => simp [hgiven first a hfirst, hgiven second b hsecond]

theorem incomingIsOlder_eq_true :
    incomingIsOlder env existing incoming = true ↔
      ∃ a b, incoming.time env = some a ∧ existing.time env = some b ∧ a < b :=
  earlier_eq_true

theorem not_rejected (h : rejected env existing incoming source = false) :
    rule5 existing source = false ∧ rule0 env existing incoming source = false ∧
      rule1 env existing incoming = false ∧ rule2 existing incoming source = false ∧
      isNoOpUpdate env existing incoming = false := by
  simp only [rejected, Bool.or_eq_false_iff] at h
  exact ⟨h.1.1.1.1, h.1.1.1.2, h.1.1.2, h.1.2, h.2⟩

theorem isNoOpUpdate_status (h : isNoOpUpdate env existing incoming = true) :
    (∀ state, incoming.taskStatus = some state → existing.taskStatus = state ∧ state ≠ none) ∧
      existing.taskUpdatedAt = (incoming.taskUpdatedAt <|> existing.taskUpdatedAt) := by
  unfold isNoOpUpdate at h
  refine ⟨?_, ?_⟩
  · intro state hstate
    rw [hstate] at h
    cases state with
    | none => simp at h
    | some state =>
        simp only [Bool.and_eq_true, decide_eq_true_eq] at h
        exact ⟨by tauto, by simp⟩
  · simp only [Bool.and_eq_true] at h
    have htime : unchangedBy incoming.taskUpdatedAt existing.taskUpdatedAt = true := by tauto
    simpa [unchangedBy] using htime

/-! ## The status -/

/-- An update that is not older and names no `null` leaves a terminal status terminal, but for
the question of a newer round. -/
theorem mergeStatus_terminal (hterminal : existing.isTerminal = true)
    (hround : isNewerRound env existing incoming = false)
    (hrule1 : rule1 env existing incoming = false)
    (hnull : incomingIsOlder env existing incoming = true ∨ incoming.taskStatus ≠ some none) :
    (mergeStatus env existing incoming).any isTerminalState = true := by
  unfold mergeStatus
  by_cases holder : incomingIsOlder env existing incoming = true
  · rw [if_pos holder]
    exact hterminal
  · rw [if_neg holder]
    cases hstatus : incoming.taskStatus with
    | none => exact hterminal
    | some value =>
        cases value with
        | none => exact absurd hstatus (hnull.resolve_left holder)
        | some state =>
            by_contra hopen
            have hreopens : reopens env existing incoming = true := by
              have hstateOpen : incoming.isOpen = true := by
                simpa [IncomingMessage.isOpen, hstatus] using hopen
              simpa [rule1, hterminal, hstateOpen] using hrule1
            simp only [reopens, Bool.and_eq_true] at hreopens
            simp only [isNewerRound, Bool.and_eq_false_iff] at hround
            simp_all

theorem mergeStatus_of_terminal (h : incoming.isTerminal = true)
    (hkept : incomingIsOlder env existing incoming = false ∨ existing.isTerminal = true) :
    (mergeStatus env existing incoming).any isTerminalState = true := by
  obtain ⟨state, hstate, hterminal⟩ := (Option.any_eq_true _ _).mp h
  have hstatus : incoming.taskStatus = some (some state) := by
    cases hvalue : incoming.taskStatus with
    | none => simp [hvalue] at hstate
    | some value => simpa [hvalue] using hstate
  unfold mergeStatus
  by_cases holder : incomingIsOlder env existing incoming = true
  · rw [if_pos holder]
    cases hkept with
    | inl hnot => simp [hnot] at holder
    | inr hexisting => exact hexisting
  · rw [if_neg holder, hstatus]
    exact hterminal

theorem updated_of_taken (h : rejected env existing incoming source = false) (now : Int) :
    updated env existing incoming source now = mergedEntity env existing incoming source now := by
  rw [updated, if_neg (by simp [h])]

theorem updated_of_rejected (h : rejected env existing incoming source = true) (now : Int) :
    updated env existing incoming source now = existing := by
  rw [updated, if_pos h]

theorem erasesTerminal_taken (h : erasesTerminal env existing incoming source = true) :
    rejected env existing incoming source = false ∧
      mergeStatus env existing incoming = none := by
  simp only [erasesTerminal, Bool.and_eq_true, Bool.not_eq_true', decide_eq_true_eq] at h
  obtain ⟨⟨⟨hterminal, hnull⟩, hnewer⟩, hrule5⟩ := h
  have hclosed : incoming.isOpen = false := by simp [IncomingMessage.isOpen, hnull]
  have hrule2 : rule2 existing incoming source = false := by
    obtain ⟨state, hstate, hdone⟩ := (Option.any_eq_true _ _).mp hterminal
    simp [rule2, hstate, hdone]
  have hchanges : isNoOpUpdate env existing incoming = false := by
    by_contra hnoop
    exact ((isNoOpUpdate_status (by simpa using hnoop)).1 none hnull).2 rfl
  refine ⟨?_, ?_⟩
  · simp [rejected, hrule5, rule0, hnewer, rule1, hclosed, hrule2, hchanges]
  · simp [mergeStatus, hnewer, hnull]

theorem missesTerminal_taken (h : missesTerminal env existing incoming source = true) :
    rejected env existing incoming source = false ∧
      mergeStatus env existing incoming = existing.taskStatus := by
  simp only [missesTerminal, Bool.and_eq_true, Bool.not_eq_true', decide_eq_true_eq] at h
  obtain ⟨⟨⟨⟨hsource, hterminal⟩, holder⟩, hopen⟩, hrule5⟩ := h
  subst hsource
  have hchanges : isNoOpUpdate env existing incoming = false := by
    by_contra hnoop
    obtain ⟨state, hstate, hdone⟩ := (Option.any_eq_true _ _).mp hterminal
    have hstatus : incoming.taskStatus = some (some state) := by
      cases hvalue : incoming.taskStatus with
      | none => simp [hvalue] at hstate
      | some value => simpa [hvalue] using hstate
    have hsame := ((isNoOpUpdate_status (by simpa using hnoop)).1 _ hstatus).1
    simp [MessageEntity.isTerminal, hsame, hdone] at hopen
  refine ⟨?_, ?_⟩
  · simp [rejected, hrule5, rule0, hterminal, rule1, hopen, rule2, hchanges]
  · simp [mergeStatus, holder]

/-! ## The time -/

theorem mergedEntity_time (now : Int) :
    (mergedEntity env existing incoming source now).time env =
      if incomingIsOlder env existing incoming then existing.time env
      else if incoming.taskUpdatedAt.isSome then incoming.time env else existing.time env := by
  unfold MessageEntity.time IncomingMessage.time mergedEntity mergeFields taskField
  simp only
  by_cases holder : incomingIsOlder env existing incoming = true
  · simp [holder]
  · cases hgiven : incoming.taskUpdatedAt with
    | none => simp [holder]
    | some text => simp [holder]

theorem rewindsTime_taken (h : rewindsTime env existing incoming source last = true) :
    rejected env existing incoming source = false ∧
      ∃ first second, last = some first ∧ second < first ∧
        (∀ now, (mergedEntity env existing incoming source now).time env = some second) := by
  simp only [rewindsTime, Bool.and_eq_true, Bool.not_eq_true', Option.isNone_iff_eq_none] at h
  obtain ⟨⟨⟨⟨hback, hnone⟩, hrule5⟩, hrule1⟩, hrule2⟩ := h
  obtain ⟨first, hfirst, hsecond⟩ := (Option.any_eq_true _ _).mp hback
  obtain ⟨second, htime, hlt⟩ := (Option.any_eq_true _ _).mp hsecond
  have hnewer : incomingIsOlder env existing incoming = false := by
    by_contra holder
    obtain ⟨a, b, -, hexisting, -⟩ := incomingIsOlder_eq_true.mp (by simpa using holder)
    rw [hnone] at hexisting
    cases hexisting
  have hgiven : incoming.taskUpdatedAt.isSome = true := by
    cases hvalue : incoming.taskUpdatedAt with
    | none => simp [IncomingMessage.time, hvalue] at htime
    | some text => rfl
  have hchanges : isNoOpUpdate env existing incoming = false := by
    by_contra hnoop
    have hsame := (isNoOpUpdate_status (by simpa using hnoop)).2
    obtain ⟨text, htext⟩ := Option.isSome_iff_exists.mp hgiven
    have hexisting : existing.time env = incoming.time env := by
      rw [MessageEntity.time, IncomingMessage.time, hsame, htext]
      rfl
    rw [hnone, htime] at hexisting
    cases hexisting
  refine ⟨?_, first, second, hfirst, by simpa using hlt, ?_⟩
  · simp [rejected, hrule5, rule0, hnewer, hrule1, hrule2, hchanges]
  · intro now
    rw [mergedEntity_time, if_neg (by simp [hnewer]), if_pos hgiven, htime]

/-! ## The promise -/

theorem promised_iff (hlast : ∀ time, existing.time env = some time → last = some time)
    (now : Int) : Promised env existing incoming source last now ↔
      breaksPromise env existing incoming source last = false := by
  constructor
  · intro h
    by_contra hbreaks
    simp only [breaksPromise, Bool.not_eq_false, Bool.or_eq_true] at hbreaks
    rcases hbreaks with (herases | hmisses) | hrewinds
    · obtain ⟨htaken, hnone⟩ := erasesTerminal_taken herases
      simp only [erasesTerminal, Bool.and_eq_true, decide_eq_true_eq] at herases
      have hround : isNewerRound env existing incoming = false := by
        simp [isNewerRound, herases.1.1.2]
      have hkept := h.terminalKept herases.1.1.1 hround
      rw [updated_of_taken htaken] at hkept
      simp [MessageEntity.isTerminal, mergedEntity, hnone] at hkept
    · obtain ⟨htaken, hsame⟩ := missesTerminal_taken hmisses
      simp only [missesTerminal, Bool.and_eq_true, Bool.not_eq_true', decide_eq_true_eq] at hmisses
      obtain ⟨⟨⟨⟨hsource, hterminal⟩, -⟩, hopen⟩, -⟩ := hmisses
      have hdb := h.dbTerminal htaken hsource hterminal
      rw [updated_of_taken htaken] at hdb
      simp only [MessageEntity.isTerminal, mergedEntity, hsame] at hdb
      rw [MessageEntity.isTerminal, hdb] at hopen
      cases hopen
    · obtain ⟨htaken, first, second, hfirst, hlt, htime⟩ := rewindsTime_taken hrewinds
      have hle := h.timeKept first second hfirst (by rw [updated_of_taken htaken, htime])
      omega
  · intro h
    simp only [breaksPromise, Bool.or_eq_false_iff] at h
    obtain ⟨⟨herases, hmisses⟩, hrewinds⟩ := h
    cases hrejected : rejected env existing incoming source with
    | true =>
        refine ⟨?_, ?_, ?_⟩
        · intro hterminal _
          rw [updated_of_rejected hrejected]
          exact hterminal
        · intro htaken
          rw [hrejected] at htaken
          cases htaken
        · intro first second hfirst hsecond
          rw [updated_of_rejected hrejected] at hsecond
          have hsame := hlast second hsecond
          rw [hfirst] at hsame
          exact Int.le_of_eq (Option.some.inj hsame)
    | false =>
        obtain ⟨hrule5, hrule0, hrule1, hrule2, -⟩ := not_rejected hrejected
        refine ⟨?_, ?_, ?_⟩
        · intro hterminal hround
          rw [updated_of_taken hrejected]
          refine mergeStatus_terminal hterminal hround hrule1 ?_
          by_contra hboth
          simp only [not_or, not_not] at hboth
          simp [erasesTerminal, hterminal, hboth, hrule5] at herases
        · intro _ hsource hterminal
          rw [updated_of_taken hrejected]
          refine mergeStatus_of_terminal hterminal ?_
          by_contra hboth
          simp only [not_or, Bool.not_eq_false, Bool.not_eq_true] at hboth
          simp [missesTerminal, hsource, hterminal, hboth] at hmisses hrule5
          rw [hmisses] at hrule5
          cases hrule5
        · intro first second hfirst hsecond
          rw [updated_of_taken hrejected, mergedEntity_time] at hsecond
          have hkept : existing.time env = some second → first ≤ second := by
            intro hexisting
            have hsame := hlast second hexisting
            rw [hfirst] at hsame
            exact Int.le_of_eq (Option.some.inj hsame)
          split at hsecond
          · exact hkept hsecond
          · next hnewer =>
              split at hsecond
              · by_contra hlt
                cases hexisting : existing.time env with
                | none =>
                    have hback : rewindsTime env existing incoming source last = true := by
                      simp only [rewindsTime, hfirst, hexisting, hsecond, hrule5, hrule1, hrule2]
                      simpa using hlt
                    rw [hrewinds] at hback
                    cases hback
                | some time =>
                    have hsame := hlast time hexisting
                    rw [hfirst] at hsame
                    cases hsame
                    exact hnewer (incomingIsOlder_eq_true.mpr
                      ⟨second, first, hsecond, hexisting, by omega⟩)
              · exact hkept hsecond

end Rules

/-! ## Runs of updates -/

/-- The arguments of one call of `applyUpsert`. -/
structure Upsert (Presentation Artifacts Attachments : Type) where
  incoming : IncomingMessage Presentation Artifacts Attachments
  source : MessageSource
  now : Int

section Runs

variable (env : Surroundings Presentation Artifacts Attachments)

def applied (entities : Entities Presentation Artifacts Attachments)
    (call : Upsert Presentation Artifacts Attachments) :
    Entities Presentation Artifacts Attachments :=
  match applyUpsert env entities call.incoming call.source call.now with
  | none => entities
  | some (entities, _) => entities

def storedTime (entities : Entities Presentation Artifacts Attachments) (id : String) : Option Int :=
  (get entities id).bind (·.time env)

/-- The entities that calls lead to, with the last time that was stored for the message `id`. -/
inductive Reaches (id : String) : Entities Presentation Artifacts Attachments → Option Int → Prop
  | start (entities : Entities Presentation Artifacts Attachments) :
      Reaches id entities (storedTime env entities id)
  | call (entities : Entities Presentation Artifacts Attachments) (last : Option Int)
      (call : Upsert Presentation Artifacts Attachments) (h : Reaches id entities last) :
      Reaches id (applied env entities call)
        (storedTime env (applied env entities call) id <|> last)

/-- What one call keeps of its message: the terminal status, but for a newer round of questions,
the terminal state of the database, and the order of the times. -/
structure Kept (entities : Entities Presentation Artifacts Attachments) (last : Option Int)
    (call : Upsert Presentation Artifacts Attachments) : Prop where
  terminalKept : ∀ existing, get entities call.incoming.id = some existing →
    existing.isTerminal = true → isNewerRound env existing call.incoming = false →
    (get (applied env entities call) call.incoming.id).any (·.isTerminal) = true
  dbTerminal : ∀ after added,
    applyUpsert env entities call.incoming call.source call.now = some (after, added) →
    call.source = .db → call.incoming.isTerminal = true →
    (get after call.incoming.id).any (·.isTerminal) = true
  timeKept : ∀ first second, last = some first →
    storedTime env (applied env entities call) call.incoming.id = some second → first ≤ second

variable {env} {entities : Entities Presentation Artifacts Attachments} {last : Option Int}
  {call : Upsert Presentation Artifacts Attachments}

theorem applied_existing {existing : MessageEntity Presentation Artifacts Attachments}
    (h : get entities call.incoming.id = some existing) :
    get (applied env entities call) call.incoming.id =
      some (updated env existing call.incoming call.source call.now) := by
  unfold applied applyUpsert updated
  simp only [h]
  by_cases hrejected : rejected env existing call.incoming call.source = true
  · simp only [if_pos hrejected]
    exact h
  · simp only [if_neg hrejected]
    exact get_put_self ..

theorem applied_new (h : get entities call.incoming.id = none) :
    get (applied env entities call) call.incoming.id =
      some (firstEntity env call.incoming call.source call.now) := by
  unfold applied applyUpsert
  simp only [h]
  exact get_put_self ..

theorem applied_of_ne {id : String} (h : id ≠ call.incoming.id) :
    get (applied env entities call) id = get entities id := by
  unfold applied applyUpsert
  cases get entities call.incoming.id with
  | none => exact get_put_of_ne _ h
  | some existing =>
      simp only
      by_cases hrejected : rejected env existing call.incoming call.source = true
      · simp only [if_pos hrejected]
      · simp only [if_neg hrejected]
        exact get_put_of_ne _ h

theorem Reaches.lastTime {id : String} (h : Reaches env id entities last) :
    (get entities id = none → last = none) ∧
      ∀ time, storedTime env entities id = some time → last = some time := by
  induction h with
  | start entities =>
      refine ⟨?_, fun time htime => htime⟩
      intro hnone
      rw [storedTime, hnone, Option.bind_none]
  | call entities last call h ih =>
      refine ⟨?_, ?_⟩
      · intro hnone
        by_cases hid : id = call.incoming.id
        · rw [hid] at hnone
          cases hexisting : get entities call.incoming.id with
          | none =>
              rw [applied_new hexisting] at hnone
              cases hnone
          | some existing =>
              rw [applied_existing hexisting] at hnone
              cases hnone
        · rw [storedTime, hnone, Option.bind_none]
          rw [applied_of_ne hid] at hnone
          rw [ih.1 hnone]
          rfl
      · intro time htime
        rw [htime]
        rfl

/-- In every sequence of calls, a call keeps what is promised of its message exactly when it is
none of the three kinds that break it. -/
theorem upsert_keeps (h : Reaches env call.incoming.id entities last) :
    Kept env entities last call ↔
      (get entities call.incoming.id).all (fun existing =>
        !breaksPromise env existing call.incoming call.source last) = true := by
  obtain ⟨hmissing, hlast⟩ := h.lastTime
  cases hexisting : get entities call.incoming.id with
  | none =>
      have hfirst : (firstEntity env call.incoming call.source call.now).isTerminal =
          call.incoming.isTerminal := rfl
      simp only [Option.all_none, iff_true]
      refine ⟨?_, ?_, ?_⟩
      · intro existing hsome
        rw [hexisting] at hsome
        cases hsome
      · intro after added hafter _ hterminal
        simp only [applyUpsert, hexisting, Option.some.injEq, Prod.mk.injEq] at hafter
        rw [← hafter.1, get_put_self, Option.any_some, hfirst, hterminal]
      · intro first second hsome
        rw [hmissing hexisting] at hsome
        cases hsome
  | some existing =>
      have htime : ∀ time, existing.time env = some time → last = some time := by
        intro time hstored
        exact hlast time (by rw [storedTime, hexisting, Option.bind_some, hstored])
      have hiff : Promised env existing call.incoming call.source last call.now ↔
          breaksPromise env existing call.incoming call.source last = false :=
        promised_iff htime call.now
      have hafter : get (applied env entities call) call.incoming.id =
          some (updated env existing call.incoming call.source call.now) :=
        applied_existing hexisting
      simp only [Option.all_some, Bool.not_eq_true', ← hiff]
      constructor
      · intro hkept
        refine ⟨?_, ?_, ?_⟩
        · intro hterminal hround
          have hany := hkept.terminalKept existing hexisting hterminal hround
          rwa [hafter, Option.any_some] at hany
        · intro htaken hsource hterminal
          have hany := hkept.dbTerminal (put entities call.incoming.id
            (mergedEntity env existing call.incoming call.source call.now)) false
            (by simp [applyUpsert, hexisting, htaken]) hsource hterminal
          rwa [get_put_self, Option.any_some, ← updated_of_taken htaken] at hany
        · intro first second hfirst hsecond
          refine hkept.timeKept first second hfirst ?_
          rw [storedTime, hafter, Option.bind_some, hsecond]
      · intro hpromised
        refine ⟨?_, ?_, ?_⟩
        · intro other hother hterminal hround
          rw [hexisting] at hother
          cases hother
          rw [hafter, Option.any_some]
          exact hpromised.terminalKept hterminal hround
        · intro after added htaken hsource hterminal
          simp only [applyUpsert, hexisting] at htaken
          split at htaken
          · cases htaken
          · next hrejected =>
              have hnot : rejected env existing call.incoming call.source = false := by
                simpa using hrejected
              simp only [Option.some.injEq, Prod.mk.injEq] at htaken
              rw [← htaken.1, get_put_self, Option.any_some, ← updated_of_taken hnot]
              exact hpromised.dbTerminal hnot hsource hterminal
        · intro first second hfirst hsecond
          rw [storedTime, hafter, Option.bind_some] at hsecond
          exact hpromised.timeKept first second hfirst hsecond

end Runs

/-! ## A task that the stream has not seen end -/

def sampleSurroundings : Surroundings Unit Unit Unit where
  getTime text :=
    if text = "2026-08-30T10:15:00Z" then some 1788084900000
    else if text = "2026-08-30T10:20:00Z" then some 1788085200000
    else none
  specificPublicAgentName := some
  presentationEqual first second := first = second
  artifactsEqual first second := first = second
  sameAttachments first second := first = second
  getTime_empty := rfl

def sampleUpdate (taskStatus : Option (Option TaskState)) (taskUpdatedAt : String)
    (source : MessageSource) : Upsert Unit Unit Unit where
  incoming :=
    { id := "message-1"
      conversationId := "room-1"
      messageType := .agent
      content := "Done"
      senderName := "Weather Agent"
      timestamp := "2026-08-30T10:15:00Z"
      taskUpdatedAt := some taskUpdatedAt
      taskStatus := taskStatus }
  source := source
  now := 1788085200000

def working : Upsert Unit Unit Unit :=
  sampleUpdate (some (some .working)) "2026-08-30T10:20:00Z" .sse

def workingEntities : Entities Unit Unit Unit :=
  applied sampleSurroundings [] working

theorem workingEntities_reached :
    Reaches sampleSurroundings "message-1" workingEntities (some 1788085200000) :=
  .call [] none working (.start [])

/-- The terminal state of the database, as late as the stream. -/
theorem upsert_keeps_completed :
    Kept sampleSurroundings workingEntities (some 1788085200000)
      (sampleUpdate (some (some .completed)) "2026-08-30T10:20:00Z" .db) :=
  (upsert_keeps workingEntities_reached).mpr (by decide)

/-- With an older time the terminal state of the database is taken, and the task stays working. -/
theorem upsert_misses_terminal :
    ¬ ∀ (env : Surroundings Unit Unit Unit) (entities : Entities Unit Unit Unit)
        (last : Option Int) (call : Upsert Unit Unit Unit),
      Reaches env call.incoming.id entities last → Kept env entities last call := by
  intro h
  have hkept := h sampleSurroundings workingEntities (some 1788085200000)
    (sampleUpdate (some (some .completed)) "2026-08-30T10:15:00Z" .db) workingEntities_reached
  have hterminal := hkept.dbTerminal _ _ rfl rfl rfl
  exact absurd hterminal (by decide)

end Hybro.MessageStore
