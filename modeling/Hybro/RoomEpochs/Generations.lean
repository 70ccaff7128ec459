import Mathlib.Data.List.Pairwise
import Hybro.RoomEpochs.Store

/-! # Generations of a room

Every write opens the next generation over a closed one, or closes the one that is open. The
history of the operations keeps this, under any interleaving, and the results of the calls are
read off the history.
-/

namespace Hybro.RoomEpochs

open Interleaving
open Orchestrator (Timestamp)
open RunStore (Reply WriteReply)

variable {conversationId : String} {i : Nat} {call : EpochCall} {store store' : EpochStore}

/-! ## The order of generations -/

/-- A later document of the room: a later generation, or the same one, still or no longer open. -/
def Supersedes (old new : RoomEpoch) : Prop :=
  old.epoch < new.epoch ∨
    new.epoch = old.epoch ∧ new.creationId = old.creationId ∧ (new.active → old.active)

theorem Supersedes.refl (room : RoomEpoch) : Supersedes room room :=
  .inr ⟨rfl, rfl, id⟩

theorem Supersedes.trans {a b c : RoomEpoch} (hab : Supersedes a b) (hbc : Supersedes b c) :
    Supersedes a c := by
  rcases hab with hab | ⟨hepoch, hcreation, hactive⟩
  · rcases hbc with hbc | ⟨hepoch, -⟩
    · exact .inl (Nat.lt_trans hab hbc)
    · exact .inl (by omega)
  · rcases hbc with hbc | ⟨hepoch', hcreation', hactive'⟩
    · exact .inl (by omega)
    · exact .inr ⟨hepoch'.trans hepoch, hcreation'.trans hcreation, hactive ∘ hactive'⟩

/-- A document is not lost, and what stands for it supersedes it. -/
def Since (before after : Option RoomEpoch) : Prop :=
  ∀ old, before = some old → ∃ new, after = some new ∧ Supersedes old new

theorem Since.refl (room : Option RoomEpoch) : Since room room :=
  fun old h => ⟨old, h, .refl old⟩

theorem Since.trans {a b c : Option RoomEpoch} (hab : Since a b) (hbc : Since b c) :
    Since a c := by
  intro old h
  obtain ⟨mid, hmid, hold⟩ := hab old h
  obtain ⟨new, hnew, hlater⟩ := hbc mid hmid
  exact ⟨new, hnew, hold.trans hlater⟩

theorem Since.some {before : Option RoomEpoch} {old new : RoomEpoch}
    (h : Since before (some new)) (hold : before = some old) : Supersedes old new := by
  obtain ⟨other, hother, hlater⟩ := h old hold
  cases hother
  exact hlater

/-! ## Writes -/

def Next (before : Option RoomEpoch) (after : RoomEpoch) : EpochCall → Prop
  | .activate creationId _ =>
      after.active = true ∧ after.creationId = creationId ∧
        after.epoch = before.elim 1 (·.epoch + 1) ∧
        ∀ room, before = some room → room.active = false ∧ room.creationId ≠ creationId
  | .deactivate epoch _ _ =>
      after.active = false ∧ after.epoch = epoch ∧
        ∃ room, before = some room ∧ room.active = true ∧ room.epoch = epoch ∧
          after.creationId = room.creationId

theorem Next.since {before : Option RoomEpoch} {after : RoomEpoch} (h : Next before after call) :
    Since before (some after) := by
  intro old hold
  cases call with
  | activate creationId activatedAt =>
      obtain ⟨-, -, hepoch, -⟩ := h
      have hnext : after.epoch = old.epoch + 1 := by simpa [hold] using hepoch
      exact ⟨after, rfl, .inl (by omega)⟩
  | deactivate epoch deletionId deactivatedAt =>
      obtain ⟨hclosed, hepoch, room, hroom, hactive, hsame, hcreation⟩ := h
      cases hroom.symm.trans hold
      exact ⟨after, rfl, .inr ⟨hepoch.trans hsame.symm, hcreation, fun _ => hactive⟩⟩

/-- An entry of the history, over the document before it. -/
def Follows (before : Option RoomEpoch) (entry : Entry) : Prop :=
  match entry.wrote with
  | false => entry.room = before
  | true => ∃ after, entry.room = some after ∧ after.highWaterMark = after.epoch ∧
      Next before after entry.call

theorem Follows.since {before : Option RoomEpoch} {entry : Entry} (h : Follows before entry) :
    Since before entry.room := by
  unfold Follows at h
  split at h
  · rw [h]
    exact .refl before
  · obtain ⟨after, hroom, -, hnext⟩ := h
    rw [hroom]
    exact hnext.since

/-! ## Histories -/

def latest (history : List Entry) : Option RoomEpoch := history.head?.bind (·.room)

def Sound : List Entry → Prop
  | [] => True
  | entry :: older => Follows (latest older) entry ∧ Sound older

theorem Sound.append {newer older : List Entry} (h : Sound (newer ++ older)) : Sound older := by
  induction newer with
  | nil => exact h
  | cons entry newer ih => exact ih h.2

theorem Sound.since {newer older : List Entry} (h : Sound (newer ++ older)) :
    Since (latest older) (latest (newer ++ older)) := by
  induction newer with
  | nil => exact .refl _
  | cons entry newer ih => exact (ih h.2).trans h.1.since

theorem Sound.entry_since {newer older : List Entry} {entry : Entry} (h : Sound (newer ++ older))
    (hmem : entry ∈ newer) : Since (latest older) entry.room := by
  obtain ⟨before, after, rfl⟩ := List.append_of_mem hmem
  have hsound : Sound ((entry :: after) ++ older) := by
    rw [List.append_assoc] at h
    exact h.append
  exact hsound.since

theorem Sound.since_of_mem {history : List Entry} {entry : Entry} (h : Sound history)
    (hmem : entry ∈ history) : Since entry.room (latest history) := by
  obtain ⟨newer, older, rfl⟩ := List.append_of_mem hmem
  exact h.since

theorem entry_of_latest {history : List Entry} {room : RoomEpoch}
    (h : latest history = some room) : ∃ entry ∈ history, entry.room = some room := by
  cases history with
  | nil => cases h
  | cons entry older => exact ⟨entry, List.mem_cons_self, h⟩

theorem Sound.marked {history : List Entry} {entry : Entry} {room : RoomEpoch}
    (h : Sound history) (hmem : entry ∈ history) (hroom : entry.room = some room) :
    room.highWaterMark = room.epoch := by
  induction history generalizing entry with
  | nil => cases hmem
  | cons first older ih =>
      rcases List.mem_cons.mp hmem with rfl | hmem
      · have hfollows := h.1
        unfold Follows at hfollows
        split at hfollows
        · obtain ⟨other, hother, hsame⟩ := entry_of_latest (hfollows.symm.trans hroom)
          exact ih h.2 hother hsame
        · obtain ⟨after, hafter, hmark, -⟩ := hfollows
          cases hafter.symm.trans hroom
          exact hmark
      · exact ih h.2 hmem hroom

/-! ## Steps -/

structure Inv (store : EpochStore) : Prop where
  room : store.room = latest store.history
  sound : Sound store.history

/-- One operation of thread `i`. -/
def Takes (i : Nat) (call : EpochCall) (store store' : EpochStore) : Prop :=
  store' = store ∨ store' = store.read i call ∨
    ∃ record, store' = store.write i call record ∧
      record.highWaterMark = record.epoch ∧ Next store.room record call

theorem Inv.read (h : Inv store) : Inv (store.read i call) where
  room := rfl
  sound := ⟨h.room, h.sound⟩

theorem Inv.write {record : RoomEpoch} (h : Inv store)
    (hmark : record.highWaterMark = record.epoch) (hnext : Next store.room record call) :
    Inv (store.write i call record) where
  room := rfl
  sound := ⟨⟨record, rfl, hmark, h.room ▸ hnext⟩, h.sound⟩

theorem Takes.since (h : Takes i call store store') : Since store.room store'.room := by
  rcases h with rfl | rfl | ⟨record, rfl, -, hnext⟩
  · exact .refl _
  · exact .refl _
  · exact hnext.since

theorem Takes.history (h : Takes i call store store') :
    store'.history = store.history ∨
      ∃ entry, store'.history = entry :: store.history ∧ entry.thread = i := by
  rcases h with rfl | rfl | ⟨record, rfl, -, -⟩
  · exact .inl rfl
  · exact .inr ⟨_, rfl, rfl⟩
  · exact .inr ⟨_, rfl, rfl⟩

theorem Takes.mem {entry : Entry} (h : Takes i call store store')
    (hmem : entry ∈ store.history) : entry ∈ store'.history := by
  rcases h.history with heq | ⟨other, heq, -⟩
  · exact heq ▸ hmem
  · exact heq ▸ List.mem_cons_of_mem other hmem

/-! ## Results -/

/-- Thread `i` has written nothing. -/
def Quiet (i : Nat) (store : EpochStore) : Prop :=
  ∀ entry ∈ store.history, entry.thread = i → entry.wrote = false

/-- Neither accepted nor an unacknowledged write. -/
def Declined : EpochResult → Prop
  | .ok (outcome, _) => outcome = .replayed ∨ outcome = .conflict
  | .error failure => failure = .reading

def Opens (room : Option RoomEpoch) : EpochCall → Prop
  | .activate creationId _ =>
      ∀ old, room = some old → old.active = false ∧ old.creationId ≠ creationId
  | .deactivate epoch _ _ => ∃ old, room = some old ∧ old.active = true ∧ old.epoch = epoch

/-- An accepted call has written its record, and a call that wrote or failed to write has seen
a document that lets it. -/
structure Settled (i : Nat) (call : EpochCall) (result : EpochResult) (store : EpochStore) :
    Prop where
  accepted : ∀ room, result = .ok (.accepted, room) →
    ∃ record, room = some record ∧ ⟨i, call, true, some record⟩ ∈ store.history
  settled : (Quiet i store ∧ Declined result) ∨
    ∃ entry ∈ store.history, entry.thread = i ∧ Opens entry.room call

abbrev epochContract (conversationId : String) (i : Nat) (call : EpochCall) :
    Contract EpochOp EpochOp.Res EpochStore :=
  (roomEpochSystem conversationId).contract Inv Takes i call

theorem others_cases (h : (roomEpochSystem conversationId).others Takes i store store') :
    store' = store ∨ ∃ j d, j ≠ i ∧ Takes j d store store' := by
  rcases h with h | h
  · exact .inl h.symm
  · exact .inr h

theorem stable_since {before : Option RoomEpoch} :
    (epochContract conversationId i call).Stable fun store => Since before store.room := by
  intro store store' _ hothers _ h
  rcases others_cases hothers with rfl | ⟨j, d, -, htakes⟩
  · exact h
  · exact h.trans htakes.since

theorem stable_mem {P : Entry → Prop} :
    (epochContract conversationId i call).Stable fun store => ∃ entry ∈ store.history, P entry := by
  intro store store' _ hothers _ h
  obtain ⟨entry, hmem, hentry⟩ := h
  rcases others_cases hothers with rfl | ⟨j, d, -, htakes⟩
  · exact ⟨entry, hmem, hentry⟩
  · exact ⟨entry, htakes.mem hmem, hentry⟩

theorem stable_own {P : Entry → Prop} :
    (epochContract conversationId i call).Stable fun store =>
      ∀ entry ∈ store.history, entry.thread = i → P entry := by
  intro store store' _ hothers _ h entry hmem hown
  rcases others_cases hothers with rfl | ⟨j, d, hother, htakes⟩
  · exact h entry hmem hown
  · rcases htakes.history with heq | ⟨new, heq, hthread⟩
    · exact h entry (heq ▸ hmem) hown
    · rw [heq] at hmem
      rcases List.mem_cons.mp hmem with rfl | hmem
      · exact absurd (hthread.symm.trans hown) hother
      · exact h entry hmem hown

theorem stable_quiet : (epochContract conversationId i call).Stable (Quiet i) := stable_own

theorem stable_settled (result : EpochResult) :
    (epochContract conversationId i call).Stable (Settled i call result) := by
  intro store store' hinv hothers hinv' h
  constructor
  · intro room hresult
    obtain ⟨record, hroom, hmem⟩ := h.accepted room hresult
    obtain ⟨entry, hmem', rfl⟩ := stable_mem (P := (· = ⟨i, call, true, some record⟩))
      store store' hinv hothers hinv' ⟨_, hmem, rfl⟩
    exact ⟨record, hroom, hmem'⟩
  · rcases h.settled with ⟨hquiet, hdeclined⟩ | hopens
    · exact .inl ⟨stable_own store store' hinv hothers hinv' hquiet, hdeclined⟩
    · exact .inr (stable_mem store store' hinv hothers hinv' hopens)

/-! ## The programs -/

section Rules

variable {P : EpochStore → Prop} {R : Option RoomEpoch → EpochStore → Prop}
  {next : Option RoomEpoch → EpochProg EpochResult}

/-- After a read: what was found, or the call has ended. -/
def AfterRead (i : Nat) (call : EpochCall) (R : Option RoomEpoch → EpochStore → Prop) :
    Reply (Option RoomEpoch) → EpochStore → Prop
  | .answer found => R found
  | .unavailable => Settled i call (.error .reading)

theorem after_read {found : Option RoomEpoch} {reply : Reply (Option RoomEpoch)}
    (hinv : Inv store) (hread : R found (store.read i call))
    (hfail : Settled i call (.error .reading) store)
    (h : (reply, store') = (.answer found, store.read i call) ∨
      (reply, store') = (.unavailable, store)) :
    Takes i call store store' ∧ Inv store' ∧ AfterRead i call R reply store' := by
  rcases h with heq | heq
  · cases heq
    exact ⟨.inr (.inl rfl), hinv.read, hread⟩
  · cases heq
    exact ⟨.inl rfl, hinv, hfail⟩

theorem return_rule {result : EpochResult} (hP : (epochContract conversationId i call).Stable P)
    (h : ∀ store, P store → Settled i call result store) :
    (epochContract conversationId i call).Triple P (pure result) (Settled i call) :=
  Contract.Triple.done hP fun store _ => h store

theorem continue_read {reply : Reply (Option RoomEpoch)}
    (hnext : ∀ found, (epochContract conversationId i call).Triple (R found) (next found)
      (Settled i call)) :
    (epochContract conversationId i call).Triple (AfterRead i call R reply)
      (match reply with | .answer found => next found | .unavailable => .done (.error .reading))
      (Settled i call) := by
  cases reply with
  | answer found => exact hnext found
  | unavailable => exact return_rule (stable_settled _) fun _ h => h

inductive Finds : EpochProg (Reply (Option RoomEpoch)) → (Option RoomEpoch → Option RoomEpoch) → Prop
  | room : Finds findRoom id
  | active : Finds findActive (Option.filter (·.active))

theorem reading_rule {find : EpochProg (Reply (Option RoomEpoch))}
    {found : Option RoomEpoch → Option RoomEpoch} (hfinds : Finds find found)
    (hP : (epochContract conversationId i call).Stable P)
    (hfail : ∀ store, P store → Settled i call (.error .reading) store)
    (hread : ∀ store, Inv store → P store → R (found store.room) (store.read i call))
    (hnext : ∀ found, (epochContract conversationId i call).Triple (R found) (next found)
      (Settled i call)) :
    (epochContract conversationId i call).Triple P (reading find next) (Settled i call) := by
  cases hfinds <;> apply Contract.Triple.act (AfterRead i call R) hP
  case room.hstep | active.hstep =>
    intro store reply store' hinv h hexec
    exact after_read hinv (hread store hinv h) (hfail store h) (List.mem_pair.mp hexec)
  case room.hk | active.hk =>
    intro reply
    exact continue_read hnext

/-- Thread `i` has seen a document that lets its call write. -/
def Allowed (i : Nat) (call : EpochCall) (store : EpochStore) : Prop :=
  ∃ entry ∈ store.history, entry.thread = i ∧ Opens entry.room call

theorem Allowed.settled {result : EpochResult} (h : Allowed i call store)
    (haccepted : ∀ room, result ≠ .ok (.accepted, room)) : Settled i call result store :=
  ⟨fun room heq => absurd heq (haccepted room), .inr h⟩

theorem Quiet.settled {result : EpochResult} (h : Quiet i store) (hdeclined : Declined result) :
    Settled i call result store := by
  refine ⟨?_, .inl ⟨h, hdeclined⟩⟩
  rintro room rfl
  rcases hdeclined with h | h <;> cases h

def AfterWrite (i : Nat) (call : EpochCall) (record : RoomEpoch) (reply : WriteReply)
    (store : EpochStore) : Prop :=
  Allowed i call store ∧
    (reply = .counted true → ∃ entry ∈ store.history, entry = ⟨i, call, true, some record⟩)

theorem stable_afterWrite (record : RoomEpoch) (reply : WriteReply) :
    (epochContract conversationId i call).Stable (AfterWrite i call record reply) :=
  stable_mem.and (Contract.Stable.imp fun _ => stable_mem)

theorem settle_rule {same : RoomEpoch → RoomEpoch → Bool} {current : Option RoomEpoch}
    {record : RoomEpoch} (reply : WriteReply) :
    (epochContract conversationId i call).Triple (AfterWrite i call record reply)
      (settle same current record reply) (Settled i call) := by
  unfold settle
  split
  · next hcounted =>
      apply return_rule (stable_afterWrite record reply)
      intro store h
      obtain ⟨entry, hmem, rfl⟩ := h.2 hcounted
      constructor
      · intro room heq
        cases heq
        exact ⟨record, rfl, hmem⟩
      · exact .inr h.1
  · apply reading_rule .room (R := fun _ => Allowed i call) (stable_afterWrite record reply)
    · intro store h
      exact h.1.settled (fun _ heq => nomatch heq)
    · intro store _ h
      obtain ⟨entry, hmem, hentry⟩ := h.1
      exact ⟨entry, List.mem_cons_of_mem _ hmem, hentry⟩
    · intro winner
      split
      · exact return_rule stable_mem fun store h => h.settled fun _ heq => nomatch heq
      · split
        · exact return_rule stable_mem fun store h => h.settled fun _ heq => nomatch heq
        · exact return_rule stable_mem fun store h => h.settled fun _ heq => nomatch heq

/-! ## The calls -/

/-- What a thread knows once it has read `found`. -/
def Read (i : Nat) (call : EpochCall) (found : Option RoomEpoch) (store : EpochStore) : Prop :=
  Quiet i store ∧ (∃ entry ∈ store.history, entry = ⟨i, call, false, found⟩) ∧
    Since found store.room

theorem stable_read (found : Option RoomEpoch) :
    (epochContract conversationId i call).Stable (Read i call found) :=
  stable_own.and (stable_mem.and stable_since)

theorem Read.allowed {found : Option RoomEpoch} (h : Read i call found store)
    (hopens : Opens found call) : Allowed i call store := by
  obtain ⟨-, ⟨entry, hmem, rfl⟩, -⟩ := h
  exact ⟨_, hmem, rfl, hopens⟩

theorem Quiet.quiet_read (h : Quiet i store) : Quiet i (store.read i call) := by
  intro entry hmem hown
  rcases List.mem_cons.mp hmem with rfl | hmem
  · rfl
  · exact h entry hmem hown

theorem Quiet.read (h : Quiet i store) : Read i call store.room (store.read i call) :=
  ⟨h.quiet_read, ⟨_, List.mem_cons_self, rfl⟩, .refl _⟩

theorem replace_rule {found : Option RoomEpoch} {record : RoomEpoch} {matched : Bool}
    {reply other : WriteReply} (hinv : Inv store) (h : Read i call found store)
    (hopens : Opens found call) (hmark : record.highWaterMark = record.epoch)
    (hnext : matched = true → Next store.room record call) (hother : other ≠ .counted true)
    (hexec : (reply, store') ∈ if matched then applied store (store.write i call record)
      else refused other store) :
    Takes i call store store' ∧ Inv store' ∧ AfterWrite i call record reply store' := by
  have hallowed := h.allowed hopens
  have hkept : ∀ {reply}, reply ≠ .counted true →
      Takes i call store store ∧ Inv store ∧ AfterWrite i call record reply store :=
    fun hreply => ⟨.inl rfl, hinv, hallowed, fun heq => absurd heq hreply⟩
  cases matched with
  | true =>
      have hwrote : ∀ reply, Takes i call store (store.write i call record) ∧
          Inv (store.write i call record) ∧
          AfterWrite i call record reply (store.write i call record) := by
        intro reply
        have hnext := hnext rfl
        obtain ⟨entry, hmem, hentry⟩ := hallowed
        exact ⟨.inr (.inr ⟨record, rfl, hmark, hnext⟩), hinv.write hmark hnext,
          ⟨entry, List.mem_cons_of_mem _ hmem, hentry⟩, fun _ => ⟨_, List.mem_cons_self, rfl⟩⟩
      simp only [applied, if_true, List.mem_cons, List.not_mem_nil, or_false] at hexec
      rcases hexec with heq | heq | heq
      · cases heq
        exact hwrote _
      · cases heq
        exact hwrote _
      · cases heq
        exact hkept (by decide)
  | false =>
      simp only [refused, Bool.false_eq_true, if_false, List.mem_cons, List.not_mem_nil,
        or_false] at hexec
      rcases hexec with heq | heq
      · cases heq
        exact hkept hother
      · cases heq
        exact hkept (by decide)

theorem Inv.marked {room : RoomEpoch} (h : Inv store) (hroom : store.room = some room) :
    room.highWaterMark = room.epoch := by
  obtain ⟨entry, hmem, hentry⟩ := entry_of_latest (h.room.symm.trans hroom)
  exact h.sound.marked hmem hentry

theorem Read.marked {current : RoomEpoch} (h : Read i call (some current) store)
    (hinv : Inv store) : current.highWaterMark = current.epoch := by
  obtain ⟨-, ⟨entry, hmem, rfl⟩, -⟩ := h
  exact hinv.sound.marked hmem rfl

theorem next_opened {creationId : String} {activatedAt : Timestamp} {found : Option RoomEpoch}
    (hinv : Inv store) (h : Read i (.activate creationId activatedAt) found store)
    (hopens : Opens found (.activate creationId activatedAt))
    (hmatched : store.room.map (·.highWaterMark) = found.map (·.highWaterMark)) :
    Next store.room (opened conversationId creationId activatedAt found)
      (.activate creationId activatedAt) := by
  refine ⟨rfl, rfl, ?_, ?_⟩
  · cases found with
    | none =>
        have hroom : store.room = none := by simpa using hmatched
        rw [hroom]
        rfl
    | some current =>
        obtain ⟨room, hroom, hsame⟩ := Option.map_eq_some_iff.mp hmatched
        have hmark : room.highWaterMark = current.highWaterMark := hsame
        have hepoch := hinv.marked hroom
        show current.highWaterMark + 1 = _
        simp only [hroom, Option.elim_some]
        omega
  · intro room hroom
    rw [hroom] at hmatched
    obtain ⟨current, hfound, heq⟩ := Option.map_eq_some_iff.mp hmatched.symm
    have hmark : current.highWaterMark = room.highWaterMark := heq
    subst hfound
    have hcurrent := h.marked hinv
    have hepoch := hinv.marked hroom
    have hsince := h.2.2
    rw [hroom] at hsince
    obtain ⟨hclosed, hcreation⟩ := hopens current rfl
    rcases hsince.some rfl with hlater | ⟨-, hsame, hactive⟩
    · omega
    · constructor
      · cases hopen : room.active with
        | false => rfl
        | true =>
            rw [hactive hopen] at hclosed
            cases hclosed
      · rw [hsame]
        exact hcreation

theorem activate_rule (creationId : String) (activatedAt : Timestamp) :
    (epochContract conversationId i (.activate creationId activatedAt)).Triple (Quiet i)
      (activate conversationId creationId activatedAt)
      (Settled i (.activate creationId activatedAt)) := by
  apply reading_rule .room (R := Read i (.activate creationId activatedAt)) stable_quiet
  · intro store h
    exact h.settled rfl
  · intro store _ h
    exact h.read
  · intro current
    split
    · apply return_rule (stable_read current)
      intro store h
      apply h.1.settled
      show _ ∨ _
      split
      · exact .inl rfl
      · exact .inr rfl
    · next hinactive =>
        split
        · apply return_rule (stable_read current)
          intro store h
          exact h.1.settled (.inr rfl)
        · next hother =>
            have hopens : Opens current (.activate creationId activatedAt) := by
              rintro old rfl
              simp only [Option.any_some, beq_iff_eq, Bool.not_eq_true] at hinactive hother
              exact ⟨hinactive, hother⟩
            apply Contract.Triple.act (AfterWrite i (.activate creationId activatedAt)
              (opened conversationId creationId activatedAt current)) (stable_read current)
            · intro store reply store' hinv h hexec
              have hnext := @next_opened conversationId _ _ _ _ _ hinv h hopens
              cases current with
              | none =>
                  apply replace_rule hinv h hopens rfl _ _ hexec
                  · intro hmatched
                    exact hnext (by simpa using hmatched)
                  · decide
              | some current =>
                  apply replace_rule hinv h hopens rfl _ _ hexec
                  · intro hmatched
                    apply hnext
                    obtain ⟨room, hroom, hmark⟩ := (Option.any_eq_true _ _).mp hmatched
                    simpa [hroom] using hmark
                  · decide
            · intro reply
              exact settle_rule reply

theorem next_closed {epoch : Nat} {deletionId : String} {deactivatedAt : Timestamp}
    {current : RoomEpoch}
    (h : Read i (.deactivate epoch deletionId deactivatedAt) (some current) store)
    (hepoch : current.epoch = epoch)
    (hmatched : (store.room.any fun room => room.epoch == epoch && room.active) = true) :
    Next store.room (closed current deletionId deactivatedAt)
      (.deactivate epoch deletionId deactivatedAt) := by
  obtain ⟨room, hroom, hmatch⟩ := (Option.any_eq_true _ _).mp hmatched
  simp only [Bool.and_eq_true, beq_iff_eq] at hmatch
  have hsince := h.2.2
  rw [hroom] at hsince
  refine ⟨rfl, hepoch, room, hroom, hmatch.2, hmatch.1, ?_⟩
  rcases hsince.some rfl with hlater | ⟨-, hsame, -⟩
  · omega
  · exact hsame.symm

theorem deactivate_rule (epoch : Nat) (deletionId : String) (deactivatedAt : Timestamp) :
    (epochContract conversationId i (.deactivate epoch deletionId deactivatedAt)).Triple (Quiet i)
      (deactivate epoch deletionId deactivatedAt)
      (Settled i (.deactivate epoch deletionId deactivatedAt)) := by
  apply reading_rule .active (R := fun found store => Quiet i store ∧ ∀ current,
    found = some current → current.active = true ∧
      Read i (.deactivate epoch deletionId deactivatedAt) (some current) store) stable_quiet
  · intro store h
    exact h.settled rfl
  · intro store _ h
    have hread : Read i (.deactivate epoch deletionId deactivatedAt) store.room _ := h.read
    refine ⟨hread.1, ?_⟩
    intro current hfound
    obtain ⟨hroom, hactive⟩ := Option.filter_eq_some_iff.mp hfound
    rw [hroom] at hread
    exact ⟨hactive, hread⟩
  · intro found
    cases hfilter : found.filter (·.epoch == epoch) with
    | none =>
        apply Contract.Triple.pre (P := Quiet i)
        · apply reading_rule .room (R := fun _ => Quiet i) stable_quiet
          · intro store h
            exact h.settled rfl
          · intro store _ h
            exact h.quiet_read
          · intro existing
            split
            · apply return_rule stable_quiet
              intro store h
              exact h.settled (.inl rfl)
            · apply return_rule stable_quiet
              intro store h
              exact h.settled (.inr rfl)
        · intro store _ h
          exact h.1
    | some current =>
        obtain ⟨rfl, hsame⟩ := Option.filter_eq_some_iff.mp hfilter
        have hepoch : current.epoch = epoch := by simpa using hsame
        apply Contract.Triple.pre (P := fun store => current.active = true ∧
          Read i (.deactivate epoch deletionId deactivatedAt) (some current) store)
        · apply Contract.Triple.act (AfterWrite i (.deactivate epoch deletionId deactivatedAt)
            (closed current deletionId deactivatedAt))
            ((Contract.Stable.const _).and (stable_read _))
          · rintro store reply store' hinv ⟨hactive, h⟩ hexec
            have hopens : Opens (some current) (.deactivate epoch deletionId deactivatedAt) :=
              ⟨current, rfl, hactive, hepoch⟩
            have hmark : (closed current deletionId deactivatedAt).highWaterMark =
                (closed current deletionId deactivatedAt).epoch := h.marked hinv
            apply replace_rule hinv h hopens hmark _ _ hexec
            · exact next_closed h hepoch
            · decide
          · intro reply
            exact settle_rule reply
        · intro store _ h
          exact h.2 current rfl

end Rules

/-! ## Every interleaving -/

theorem epoch_proof (conversationId : String) :
    (roomEpochSystem conversationId).Proof Inv Takes
      (fun i store => ∀ entry ∈ store.history, entry.thread ≠ i) Settled where
  starts := by
    rintro store rfl
    exact ⟨⟨rfl, trivial⟩, fun i entry hmem => nomatch hmem⟩
  environment := by
    rintro store store' hinv rfl
    exact hinv
  staysFresh := by
    intro i store store' hinv hothers hinv'
    exact @stable_own conversationId i (.activate "" 0) (fun _ => False) store store' hinv hothers hinv'
  body := by
    intro i call
    have hquiet : ∀ store, Inv store →
        ((∀ entry ∈ store.history, entry.thread ≠ i) ∧ True) → Quiet i store :=
      fun store _ h entry hmem hown => absurd hown (h.1 entry hmem)
    cases call with
    | activate creationId activatedAt =>
        exact (activate_rule creationId activatedAt).pre hquiet
    | deactivate epoch deletionId deactivatedAt =>
        exact (deactivate_rule epoch deletionId deactivatedAt).pre hquiet
  staysReturned := fun _ _ result => stable_settled result

def activations (history : List Entry) : List RoomEpoch :=
  history.filterMap fun entry =>
    match entry.wrote, entry.call with
    | true, .activate .. => entry.room
    | _, _ => none

def EpochCall.SameRequest : EpochCall → EpochCall → Prop
  | .activate creationId _, .activate creationId' _ => creationId = creationId'
  | .deactivate epoch deletionId _, .deactivate epoch' deletionId' _ =>
      epoch = epoch' ∧ deletionId = deletionId'
  | _, _ => False

/-- After `epoch`, a generation under another creation id has been closed. -/
def AnotherClosed (epoch : Nat) (creationId : String) (history : List Entry) : Prop :=
  ∃ entry ∈ history, ∃ other, entry.room = some other ∧ other.active = false ∧
    epoch < other.epoch ∧ other.creationId ≠ creationId

/-- What holds of the generations of the room in a configuration and after it. -/
structure Generations (cfg : Config (roomEpochSystem conversationId)) : Prop where
  accepted : ∀ i call room, (i, call, .ok (.accepted, room)) ∈ cfg.returned →
    ∃ record, room = some record ∧ ⟨i, call, true, some record⟩ ∈ cfg.shared.history
  increasing : (activations cfg.shared.history).Pairwise fun newer older =>
    older.epoch < newer.epoch
  exclusive : ∀ newer i creationId activatedAt record older,
    cfg.shared.history = newer ++ ⟨i, .activate creationId activatedAt, true, record⟩ :: older →
      ∀ room, latest older = some room → room.active = false
  final : ∀ cfg' : Config (roomEpochSystem conversationId), System.Later _ cfg cfg' →
    ∀ old new, cfg.shared.room = some old → old.active = false →
      cfg'.shared.room = some new → new.active = true → old.epoch < new.epoch
  reopened : ∀ newer i creationId activatedAt record older,
    cfg.shared.history = newer ++ ⟨i, .activate creationId activatedAt, true, record⟩ :: older →
      ∀ j activatedAt' first, ⟨j, .activate creationId activatedAt', true, some first⟩ ∈ older →
        AnotherClosed first.epoch creationId older
  repeated : ∀ i call record, (i, call, .ok (.accepted, some record)) ∈ cfg.returned →
    ∀ j, cfg.threads j = .unborn →
      ∀ cfg' : Config (roomEpochSystem conversationId), System.Later _ cfg cfg' →
        ∀ call' result, (j, call', result) ∈ cfg'.returned → call.SameRequest call' →
          (Quiet j cfg'.shared ∧ Declined result) ∨
            ∃ creationId activatedAt, call' = .activate creationId activatedAt ∧
              AnotherClosed record.epoch creationId cfg'.shared.history

theorem Sound.wrote {history : List Entry} {entry : Entry} (h : Sound history)
    (hmem : entry ∈ history) (hwrote : entry.wrote = true) :
    ∃ before after, entry.room = some after ∧ Next before after entry.call := by
  induction history with
  | nil => cases hmem
  | cons first older ih =>
      rcases List.mem_cons.mp hmem with rfl | hmem
      · have hfollows := h.1
        simp only [Follows, hwrote] at hfollows
        obtain ⟨after, hroom, -, hnext⟩ := hfollows
        exact ⟨latest older, after, hroom, hnext⟩
      · exact ih h.2 hmem

theorem mem_activations {history : List Entry} {record : RoomEpoch}
    (h : record ∈ activations history) : ∃ entry ∈ history, entry.room = some record := by
  obtain ⟨entry, hmem, hentry⟩ := List.mem_filterMap.mp h
  refine ⟨entry, hmem, ?_⟩
  split at hentry
  · exact hentry
  · cases hentry

theorem Sound.activations {history : List Entry} (h : Sound history) :
    (activations history).Pairwise fun newer older => older.epoch < newer.epoch := by
  induction history with
  | nil => exact List.Pairwise.nil
  | cons entry older ih =>
      have hrest := ih h.2
      obtain ⟨i, call, wrote, room⟩ := entry
      cases wrote with
      | false => exact hrest
      | true =>
          cases call with
          | deactivate epoch deletionId deactivatedAt => exact hrest
          | activate creationId activatedAt =>
              obtain ⟨after, hroom, -, -, -, hepoch, -⟩ := h.1
              cases hroom
              refine List.Pairwise.cons ?_ hrest
              intro old hold
              obtain ⟨other, hmem, hother⟩ := mem_activations hold
              obtain ⟨before, hbefore, hlater⟩ := h.2.since_of_mem hmem old hother
              have hnext : after.epoch = before.epoch + 1 := by simpa [hbefore] using hepoch
              rcases hlater with hlater | ⟨hsame, -⟩
              · omega
              · omega

theorem replaced_history {matched : Bool} {reply other : WriteReply} {record : RoomEpoch}
    (h : (reply, store') ∈ if matched then applied store (store.write i call record)
      else refused other store) : ∃ newer, store'.history = newer ++ store.history := by
  cases matched with
  | true =>
      simp only [applied, if_true, List.mem_cons, List.not_mem_nil, or_false] at h
      rcases h with heq | heq | heq
      · cases heq
        exact ⟨[_], rfl⟩
      · cases heq
        exact ⟨[_], rfl⟩
      · cases heq
        exact ⟨[], rfl⟩
  | false =>
      simp only [refused, Bool.false_eq_true, if_false, List.mem_cons, List.not_mem_nil,
        or_false] at h
      rcases h with heq | heq
      · cases heq
        exact ⟨[], rfl⟩
      · cases heq
        exact ⟨[], rfl⟩

theorem outcomes_history {op : EpochOp} {reply : op.Res}
    (h : (reply, store') ∈ op.outcomes i call store) :
    ∃ newer, store'.history = newer ++ store.history := by
  cases op with
  | findRoom =>
      rcases List.mem_pair.mp h with heq | heq
      · cases heq
        exact ⟨[_], rfl⟩
      · cases heq
        exact ⟨[], rfl⟩
  | findActive =>
      rcases List.mem_pair.mp h with heq | heq
      · cases heq
        exact ⟨[_], rfl⟩
      · cases heq
        exact ⟨[], rfl⟩
  | replaceActivation highWaterMark record =>
      cases highWaterMark with
      | none => exact replaced_history h
      | some mark => exact replaced_history h
  | replaceDeactivation epoch record => exact replaced_history h

variable {cfg cfg' : Config (roomEpochSystem conversationId)}

theorem history_of_later (h : System.Later _ cfg cfg') :
    ∃ newer, cfg'.shared.history = newer ++ cfg.shared.history := by
  apply h.shared (R := fun store store' : EpochStore =>
    ∃ newer, store'.history = newer ++ store.history)
  · intro store
    exact ⟨[], rfl⟩
  · rintro store mid store' ⟨newer, hmid⟩ ⟨newest, hstore⟩
    exact ⟨newest ++ newer, by rw [hstore, hmid, List.append_assoc]⟩
  · intro i call op store reply store' hexec
    exact outcomes_history hexec
  · rintro store _ rfl
    exact ⟨[], rfl⟩

theorem Supersedes.later {old new : RoomEpoch} (h : Supersedes old new)
    (hother : new.creationId ≠ old.creationId) : old.epoch < new.epoch := by
  rcases h with hlater | ⟨-, hsame, -⟩
  · exact hlater
  · exact absurd hsame hother

theorem created_by {history : List Entry} {creationId : String} {activatedAt : Timestamp}
    {record : RoomEpoch} (h : Sound history)
    (hmem : ⟨i, .activate creationId activatedAt, true, some record⟩ ∈ history) :
    record.creationId = creationId := by
  obtain ⟨before, after, hroom, -, hcreation, -⟩ := h.wrote hmem rfl
  cases hroom
  exact hcreation

theorem opens_again {history : List Entry} {call' : EpochCall} {record : RoomEpoch}
    {room : Option RoomEpoch} (h : Sound history)
    (hmem : ⟨i, call, true, some record⟩ ∈ history) (hsame : call.SameRequest call')
    (hsince : Since (some record) room) (hopens : Opens room call') :
    ∃ creationId activatedAt, call' = .activate creationId activatedAt ∧
      ∃ other, room = some other ∧ other.active = false ∧ record.epoch < other.epoch ∧
        other.creationId ≠ creationId := by
  obtain ⟨other, rfl, hlater⟩ := hsince record rfl
  cases call with
  | activate creationId activatedAt =>
      cases call' with
      | deactivate => cases hsame
      | activate creationId' activatedAt' =>
          have hcreated := created_by h hmem
          have hid : creationId = creationId' := hsame
          subst hid
          obtain ⟨hclosed, hother⟩ := hopens other rfl
          exact ⟨creationId, activatedAt', rfl, other, rfl, hclosed,
            hlater.later (hcreated ▸ hother), hother⟩
  | deactivate epoch deletionId deactivatedAt =>
      cases call' with
      | activate => cases hsame
      | deactivate epoch' deletionId' deactivatedAt' =>
          obtain ⟨before, after, hroom, hclosed, hepoch, -⟩ := h.wrote hmem rfl
          cases hroom
          obtain ⟨old, hold, hactive, hepoch'⟩ := hopens
          cases hold
          have hid : epoch = epoch' := hsame.1
          rcases hlater with hlater | ⟨-, -, hopen⟩
          · omega
          · rw [hopen hactive] at hclosed
            cases hclosed

/-- Whatever the calls, their order and the writes whose acknowledgements are lost: the generations
of a room only go up, a closed one is not opened again, and a repeated call is declined. -/
theorem room_generations (hreach : (roomEpochSystem conversationId).Reachable cfg) :
    Generations cfg := by
  have hproof := epoch_proof conversationId
  have hsound := hreach.sound hproof
  have hinv : Inv cfg.shared := hsound.shared
  refine ⟨?_, hinv.sound.activations, ?_, ?_, ?_, ?_⟩
  · intro i call room hreturned
    have hsettled : Settled i call _ cfg.shared := hsound.returned i call _ hreturned
    exact hsettled.accepted room rfl
  · intro newer i creationId activatedAt record older hhistory room hroom
    have hsplit := hinv.sound
    rw [hhistory] at hsplit
    obtain ⟨after, -, -, -, -, -, hclosed⟩ := hsplit.append.1
    exact (hclosed room hroom).1
  · intro cfg' hlater old new hold hclosed hnew hactive
    obtain ⟨newer, hhistory⟩ := history_of_later hlater
    have hinv' : Inv cfg'.shared := ((hreach.later hlater).sound hproof).shared
    have hsince : Since cfg.shared.room cfg'.shared.room := by
      have hsplit := hinv'.sound
      rw [hhistory] at hsplit
      rw [hinv.room, hinv'.room, hhistory]
      exact hsplit.since
    rw [hnew] at hsince
    rcases hsince.some hold with hepoch | ⟨-, -, hopen⟩
    · exact hepoch
    · rw [hopen hactive] at hclosed
      cases hclosed
  · intro newer i creationId activatedAt record older hhistory j activatedAt' first hfirst
    have hsplit := hinv.sound
    rw [hhistory] at hsplit
    obtain ⟨after, -, -, -, -, -, hclosed⟩ := hsplit.append.1
    have hcreated := created_by hsplit.append.2 hfirst
    obtain ⟨room, hroom, hlater⟩ := hsplit.append.2.since_of_mem hfirst first rfl
    obtain ⟨hinactive, hother⟩ := hclosed room hroom
    obtain ⟨entry, hmem, hentry⟩ := entry_of_latest hroom
    exact ⟨entry, hmem, room, hentry, hinactive, hlater.later (hcreated ▸ hother), hother⟩
  · intro i call record hreturned j hunborn cfg' hlater call' result hreturned' hsame
    obtain ⟨newer, hhistory⟩ := history_of_later hlater
    have hsound' := (hreach.later hlater).sound hproof
    have hsettled : Settled j call' result cfg'.shared := hsound'.returned j call' result hreturned'
    have haccepted : Settled i call _ cfg.shared := hsound.returned i call _ hreturned
    obtain ⟨_, heq, hwritten⟩ := haccepted.accepted _ rfl
    cases heq
    rcases hsettled.settled with hdeclined | ⟨entry, hmem, hown, hopens⟩
    · exact .inl hdeclined
    · have hfresh : ∀ old ∈ cfg.shared.history, old.thread ≠ j := hsound.unborn j hunborn
      have hsplit : Sound cfg'.shared.history := hsound'.shared.sound
      rw [hhistory] at hmem hsplit
      have hnewer : entry ∈ newer := by
        rcases List.mem_append.mp hmem with hnewer | hold
        · exact hnewer
        · exact absurd hown (hfresh entry hold)
      have hsince := (hinv.sound.since_of_mem hwritten).trans (hsplit.entry_since hnewer)
      obtain ⟨creationId, activatedAt, hcall, hclosed⟩ :=
        opens_again hinv.sound hwritten hsame hsince hopens
      rw [hhistory]
      exact .inr ⟨creationId, activatedAt, hcall, entry, hmem, hclosed⟩

/-! ## Schedules -/

def epochStepper (conversationId : String) : (roomEpochSystem conversationId).Stepper where
  admits _ _ := true
  outcomes i call op store := op.outcomes i call store
  environment _ store := store
  admits_sound := fun _ _ _ => trivial
  outcomes_sound := fun _ _ _ _ _ _ h => h
  environment_sound := fun _ _ => rfl

def noEpoch : Config (roomEpochSystem "room") where
  shared := .empty
  threads := fun _ => .unborn
  returned := []

theorem noEpoch_reachable : (roomEpochSystem "room").Reachable noEpoch :=
  .init _ ⟨rfl, fun _ => rfl, rfl⟩

def results (cfg : Config (roomEpochSystem "room")) : List (Nat × EpochCall × EpochResult) :=
  cfg.returned

def unborn (cfg : Config (roomEpochSystem "room")) (i : Nat) : Bool :=
  match cfg.threads i with
  | .unborn => true
  | _ => false

/-- A call that runs alone, every operation answered. -/
def alone (i : Nat) (call : EpochCall) : List (System.Move EpochCall) :=
  [.start i call, .act i 0, .act i 0, .finish i]

def generation (epoch : Nat) (creationId : String) : RoomEpoch where
  conversationId := "room"
  epoch := epoch
  highWaterMark := epoch
  active := true
  creationId := creationId
  updatedAt := 0

/-- An activation that is repeated while its generation is open, and a deactivation whose
acknowledgement is lost. -/
theorem room_generations_repeated :
    ∃ cfg : Config (roomEpochSystem "room"),
      results cfg = [(2, .deactivate 1 "d" 0, .ok (.replayed, some
          (closed (generation 1 "a") "d" 0))),
        (1, .activate "a" 0, .ok (.replayed, some (generation 1 "a"))),
        (0, .activate "a" 0, .ok (.accepted, some (generation 1 "a")))] ∧ Generations cfg := by
  obtain ⟨cfg, hreach, hcheck⟩ := System.Stepper.exists_of_play (epochStepper "room")
    (alone 0 (.activate "a" 0) ++ [.start 1 (.activate "a" 0), .act 1 0, .finish 1] ++
      [.start 2 (.deactivate 1 "d" 0), .act 2 0, .act 2 1, .act 2 0, .finish 2])
    (fun cfg => decide (results cfg = [(2, .deactivate 1 "d" 0, .ok (.replayed, some
          (closed (generation 1 "a") "d" 0))),
        (1, .activate "a" 0, .ok (.replayed, some (generation 1 "a"))),
        (0, .activate "a" 0, .ok (.accepted, some (generation 1 "a")))]))
    noEpoch_reachable (by decide +kernel)
  exact ⟨cfg, of_decide_eq_true hcheck, room_generations hreach⟩

/-- Two generations later the first creation id opens the room again, by a repeat of the call
that had been accepted. -/
theorem creation_accepted_twice :
    ∃ cfg cfg' : Config (roomEpochSystem "room"), (roomEpochSystem "room").Reachable cfg ∧
      System.Later _ cfg cfg' ∧
        (0, .activate "a" 0, .ok (.accepted, some (generation 1 "a"))) ∈ results cfg ∧
          unborn cfg 4 = true ∧
            (4, .activate "a" 0, .ok (.accepted, some (generation 3 "a"))) ∈ results cfg' := by
  obtain ⟨cfg, cfg', hreach, hlater, hcheck⟩ := System.Stepper.exists_later_of_play
    (epochStepper "room") (alone 0 (.activate "a" 0))
    (alone 1 (.deactivate 1 "d" 0) ++ alone 2 (.activate "b" 0) ++
      alone 3 (.deactivate 2 "d" 0) ++ alone 4 (.activate "a" 0))
    (fun cfg cfg' => decide (
      (0, .activate "a" 0, .ok (.accepted, some (generation 1 "a"))) ∈ results cfg ∧
        unborn cfg 4 = true ∧
          (4, .activate "a" 0, .ok (.accepted, some (generation 3 "a"))) ∈ results cfg'))
    noEpoch_reachable (by decide +kernel)
  obtain ⟨hfirst, hunborn, hagain⟩ := of_decide_eq_true hcheck
  exact ⟨cfg, cfg', hreach, hlater, hfirst, hunborn, hagain⟩

end Hybro.RoomEpochs
