import Mathlib.Algebra.GroupWithZero.Nat
import Mathlib.Data.List.Basic
import Hybro.Library.TextPattern

/-! # Coalesced public text

Sanitized text is collected and emitted in deltas whose size in UTF-8 is bounded, while
their offsets count code points. Three entry points flush one pending buffer: the size
bound and the interval in `add`, the timer, and a semantic boundary.
-/

namespace Hybro.Orchestrator

open TextPattern

/-! ## Texts -/

/-- `len(text.encode("utf-8"))` -/
def utf8Length (text : Text) : Nat := (text.map Char.utf8Size).sum

@[simp] theorem utf8Length_nil : utf8Length [] = 0 := rfl

@[simp] theorem utf8Length_cons (char : Char) (text : Text) :
    utf8Length (char :: text) = char.utf8Size + utf8Length text := by
  simp [utf8Length]

@[simp] theorem utf8Length_append (text more : Text) :
    utf8Length (text ++ more) = utf8Length text + utf8Length more := by
  simp [utf8Length]

theorem ne_nil_of_utf8Length {text : Text} (h : 0 < utf8Length text) : text ≠ [] := by
  intro hnil
  simp [hnil] at h

/-! ## The coalescer -/

structure PublicTextDelta where
  eventId : String
  contentIndex : Int
  deltaIndex : Int
  startOffset : Int
  endOffset : Int
  delta : Text
  deriving DecidableEq

structure PublicTextCoalescer where
  runId : String
  internalTurnId : String
  messageId : String
  contentIndex : Int
  offset : Int
  deltaIndex : Int
  interval : Int
  maxUtf8Bytes : Nat
  pending : Text := []
  lastFlushAt : Option Int := none
  deriving DecidableEq

namespace PublicTextCoalescer

/-- The loop of `_bounded_prefix` over the characters that are left. -/
def boundedChars (maxUtf8Bytes : Nat) : (used : Nat) → (chars : Text) → Text → Except String Text
  | _, chars, [] => .ok chars
  | used, chars, char :: rest =>
      let width := char.utf8Size
      if chars ≠ [] ∧ maxUtf8Bytes < used + width then .ok chars
      else if chars = [] ∧ maxUtf8Bytes < width then
        .error "UTF-8 chunk bound is smaller than one code point"
      else boundedChars maxUtf8Bytes (used + width) (chars ++ [char]) rest

def boundedPrefix (c : PublicTextCoalescer) : Except String Text :=
  boundedChars c.maxUtf8Bytes 0 [] c.pending

variable (sha256 : String → String)

/-- The restart-stable identity of a delta, from `hashlib.sha256(_).hexdigest()`. -/
def eventId (c : PublicTextCoalescer) (start finish : Int) (delta : Text) : String :=
  let digest := String.ofList ((sha256 (String.ofList delta)).toList.take 24)
  "public:text:" ++ sha256 (":".intercalate [c.runId, c.internalTurnId, c.messageId,
    toString c.contentIndex, toString start, toString finish, digest])

/-- The delta that takes `delta` off the pending text, and the coalescer after it. -/
def emit (c : PublicTextCoalescer) (now : Int) (delta : Text) :
    PublicTextDelta × PublicTextCoalescer :=
  let finish := c.offset + delta.length
  ({ eventId := c.eventId sha256 c.offset finish delta
     contentIndex := c.contentIndex
     deltaIndex := c.deltaIndex
     startOffset := c.offset
     endOffset := finish
     delta := delta },
   { c with
     pending := c.pending.drop delta.length
     offset := finish
     deltaIndex := c.deltaIndex + 1
     lastFlushAt := some now })

def flushPrefix (c : PublicTextCoalescer) (now : Int) (forceBound : Bool) :
    Except String (PublicTextDelta × PublicTextCoalescer) :=
  if c.pending = [] then .error "cannot flush an empty public text coalescer"
  else
    match if forceBound then c.boundedPrefix else .ok c.pending with
    | .error message => .error message
    | .ok delta => .ok (c.emit sha256 now delta)

/-! ## Bounded prefixes -/

/-- The prefix continues the characters already taken, and stays within the bound as
they did. -/
theorem boundedChars_ok {maxUtf8Bytes : Nat} {text taken : Text} :
    ∀ {used : Nat} {chars : Text}, used = utf8Length chars → used ≤ maxUtf8Bytes →
      boundedChars maxUtf8Bytes used chars text = .ok taken →
      (∃ left, chars ++ text = taken ++ left) ∧ utf8Length taken ≤ maxUtf8Bytes ∧
        (chars ≠ [] ∨ text ≠ [] → taken ≠ []) := by
  induction text with
  | nil =>
      intro used chars hused hle h
      simp only [boundedChars, Except.ok.injEq] at h
      subst h
      exact ⟨⟨[], rfl⟩, by omega, by simp⟩
  | cons char rest ih =>
      intro used chars hused hle h
      simp only [boundedChars] at h
      split at h
      · next hfull =>
          simp only [Except.ok.injEq] at h
          subst h
          exact ⟨⟨char :: rest, rfl⟩, by omega, fun _ => hfull.1⟩
      · split at h
        · cases h
        · next hfits hwide =>
            have hsum : used + char.utf8Size = utf8Length (chars ++ [char]) := by
              simp [hused]
            have hbound : used + char.utf8Size ≤ maxUtf8Bytes := by
              by_cases hchars : chars = []
              · have hzero : used = 0 := by simp [hused, hchars]
                have hnarrow : ¬ maxUtf8Bytes < char.utf8Size := fun hlt =>
                  hwide ⟨hchars, hlt⟩
                omega
              · have hroom : ¬ maxUtf8Bytes < used + char.utf8Size := fun hlt =>
                  hfits ⟨hchars, hlt⟩
                omega
            obtain ⟨⟨left, hleft⟩, hlength, hne⟩ := ih hsum hbound h
            refine ⟨⟨left, ?_⟩, hlength, fun _ => hne (Or.inl (by simp))⟩
            simpa using hleft

theorem exists_boundedChars {maxUtf8Bytes : Nat} (hmax : 4 ≤ maxUtf8Bytes) (text : Text) :
    ∀ (used : Nat) (chars : Text), ∃ taken,
      boundedChars maxUtf8Bytes used chars text = .ok taken := by
  induction text with
  | nil => exact fun _ chars => ⟨chars, rfl⟩
  | cons char rest ih =>
      intro used chars
      have hnarrow : ¬ maxUtf8Bytes < char.utf8Size := by
        have hwidth := char.utf8Size_le_four
        omega
      simp only [boundedChars]
      split
      · exact ⟨chars, rfl⟩
      · rw [if_neg fun h => hnarrow h.2]
        exact ih _ _

theorem boundedPrefix_ok {c : PublicTextCoalescer} {taken : Text}
    (h : c.boundedPrefix = .ok taken) :
    (∃ left, c.pending = taken ++ left) ∧ utf8Length taken ≤ c.maxUtf8Bytes ∧
      (c.pending ≠ [] → taken ≠ []) := by
  obtain ⟨hleading, hlength, hne⟩ := boundedChars_ok (by simp) (Nat.zero_le _) h
  exact ⟨hleading, hlength, fun hpending => hne (Or.inr hpending)⟩

theorem flushPrefix_shorter {c c' : PublicTextCoalescer} {now : Int} {delta : PublicTextDelta}
    (h : c.flushPrefix sha256 now true = .ok (delta, c')) :
    c'.pending.length < c.pending.length := by
  unfold flushPrefix at h
  split at h
  · cases h
  · next hpending =>
      simp only [if_true] at h
      cases htaken : c.boundedPrefix with
      | error message => simp [htaken] at h
      | ok taken =>
          simp only [htaken, Except.ok.injEq] at h
          have hne : taken ≠ [] := (boundedPrefix_ok htaken).2.2 hpending
          have hpositive : 0 < taken.length := List.length_pos_of_ne_nil hne
          have hlength : 0 < c.pending.length := List.length_pos_of_ne_nil hpending
          have hafter : c'.pending = c.pending.drop taken.length := by
            rw [← (Prod.mk.inj h).2]
          rw [hafter, List.length_drop]
          omega

/-! ## Entry points -/

/-- `while more: deltas.append(self._flush_prefix(now=now, force_bound=True))` -/
def flushWhile (more : PublicTextCoalescer → Bool) (now : Int) (c : PublicTextCoalescer) :
    Except String (List PublicTextDelta × PublicTextCoalescer) :=
  if more c then
    match _h : c.flushPrefix sha256 now true with
    | .error message => .error message
    | .ok (delta, c') =>
        match flushWhile more now c' with
        | .error message => .error message
        | .ok (deltas, flushed) => .ok (delta :: deltas, flushed)
  else .ok ([], c)
termination_by c.pending.length
decreasing_by exact flushPrefix_shorter sha256 _h

def isFull (c : PublicTextCoalescer) : Bool := c.maxUtf8Bytes ≤ utf8Length c.pending

def isPending (c : PublicTextCoalescer) : Bool := c.pending ≠ []

def collect (c : PublicTextCoalescer) (text : Text) (now : Int) : PublicTextCoalescer :=
  if text = [] then c
  else { c with
    pending := c.pending ++ text
    lastFlushAt := some (c.lastFlushAt.getD now) }

def add (c : PublicTextCoalescer) (text : Text) (now : Int) :
    Except String (List PublicTextDelta × PublicTextCoalescer) := do
  let (deltas, drained) ← (c.collect text now).flushWhile sha256 isFull now
  if drained.pending ≠ [] ∧ drained.lastFlushAt.any (drained.interval ≤ now - ·) then
    let (delta, flushed) ← drained.flushPrefix sha256 now false
    return (deltas ++ [delta], flushed)
  else
    return (deltas, drained)

def timedFlush (c : PublicTextCoalescer) (now : Int) :
    Except String (List PublicTextDelta × PublicTextCoalescer) := do
  if c.pending = [] then
    return ([], c)
  let (delta, flushed) ← c.flushPrefix sha256 now false
  return ([delta], flushed)

def semanticFlush (c : PublicTextCoalescer) (now : Int) :
    Except String (List PublicTextDelta × PublicTextCoalescer) :=
  c.flushWhile sha256 isPending now

/-! ## What a call emits -/

/-- Each delta begins where the one before it ended, and its index is the next one. -/
def Tiled (offset deltaIndex : Int) : List PublicTextDelta → Prop
  | [] => True
  | delta :: rest =>
      delta.startOffset = offset ∧ delta.endOffset = offset + delta.delta.length ∧
        delta.deltaIndex = deltaIndex ∧ Tiled delta.endOffset (deltaIndex + 1) rest

def emittedText (deltas : List PublicTextDelta) : Text := deltas.flatMap (·.delta)

theorem emittedText_append (deltas more : List PublicTextDelta) :
    emittedText (deltas ++ more) = emittedText deltas ++ emittedText more := by
  simp [emittedText]

theorem Tiled.append {deltas more : List PublicTextDelta} :
    ∀ {offset deltaIndex : Int}, Tiled offset deltaIndex deltas →
      Tiled (offset + (emittedText deltas).length) (deltaIndex + deltas.length) more →
      Tiled offset deltaIndex (deltas ++ more) := by
  induction deltas with
  | nil =>
      intro offset deltaIndex _ h
      simpa [emittedText] using h
  | cons delta rest ih =>
      intro offset deltaIndex hdeltas hmore
      obtain ⟨hstart, hfinish, hindex, hrest⟩ := hdeltas
      refine ⟨hstart, hfinish, hindex, ih hrest ?_⟩
      have hoffset : delta.endOffset + (emittedText rest).length =
          offset + (emittedText (delta :: rest)).length := by
        simp only [emittedText, List.flatMap_cons, List.length_append, Int.natCast_add]
        omega
      have hcount : deltaIndex + 1 + (rest.length : Int) =
          deltaIndex + ((delta :: rest).length : Int) := by
        simp only [List.length_cons, Int.natCast_add, Int.natCast_one]
        omega
      rw [hoffset, hcount]
      exact hmore

theorem Tiled.endOffset {deltas : List PublicTextDelta} :
    ∀ {offset deltaIndex : Int}, Tiled offset deltaIndex deltas →
      (deltas.getLast?.elim offset (·.endOffset)) = offset + (emittedText deltas).length := by
  induction deltas with
  | nil => simp [emittedText]
  | cons delta rest ih =>
      intro offset deltaIndex h
      obtain ⟨hstart, hfinish, hindex, hrest⟩ := h
      have hlast := ih hrest
      have hsame : (delta :: rest).getLast?.elim offset (·.endOffset) =
          rest.getLast?.elim delta.endOffset (·.endOffset) := by
        cases rest with
        | nil => rfl
        | cons second rest => simp [List.getLast?_eq_some_getLast]
      rw [hsame, hlast]
      simp only [emittedText, List.flatMap_cons, List.length_append, Int.natCast_add]
      omega

/-- From `c` to `c'` the text added was emitted in `deltas` up to what is pending. -/
structure Emission (c : PublicTextCoalescer) (added : Text) (deltas : List PublicTextDelta)
    (c' : PublicTextCoalescer) : Prop where
  text : c.pending ++ added = emittedText deltas ++ c'.pending
  tiled : Tiled c.offset c.deltaIndex deltas
  offset : c'.offset = c.offset + (emittedText deltas).length
  deltaIndex : c'.deltaIndex = c.deltaIndex + deltas.length
  sized : ∀ delta ∈ deltas, delta.delta ≠ [] ∧ utf8Length delta.delta ≤ c.maxUtf8Bytes
  bound : c'.maxUtf8Bytes = c.maxUtf8Bytes

theorem Emission.none (c : PublicTextCoalescer) : Emission c [] [] c := by
  refine ⟨?_, trivial, ?_, ?_, ?_, rfl⟩
  · simp [emittedText]
  · simp [emittedText]
  · simp
  · simp

theorem Emission.trans {c c' c'' : PublicTextCoalescer} {added more : Text}
    {deltas later : List PublicTextDelta} (h : Emission c added deltas c')
    (h' : Emission c' more later c'') : Emission c (added ++ more) (deltas ++ later) c'' := by
  have hlength : (emittedText (deltas ++ later)).length =
      (emittedText deltas).length + (emittedText later).length := by
    simp [emittedText_append]
  refine ⟨?_, ?_, ?_, ?_, ?_, h'.bound.trans h.bound⟩
  · calc
      c.pending ++ (added ++ more) = (c.pending ++ added) ++ more := by simp
      _ = emittedText deltas ++ (c'.pending ++ more) := by rw [h.text, List.append_assoc]
      _ = emittedText (deltas ++ later) ++ c''.pending := by
        rw [h'.text, emittedText_append, List.append_assoc]
  · refine h.tiled.append ?_
    rw [← h.offset, ← h.deltaIndex]
    exact h'.tiled
  · rw [h'.offset, h.offset, hlength]
    omega
  · rw [h'.deltaIndex, h.deltaIndex, List.length_append]
    omega
  · intro delta hdelta
    cases List.mem_append.mp hdelta with
    | inl hmem => exact h.sized delta hmem
    | inr hmem =>
        have hsized := h'.sized delta hmem
        rw [h.bound] at hsized
        exact hsized

theorem emission_collect (c : PublicTextCoalescer) (text : Text) (now : Int) :
    Emission c text [] (c.collect text now) := by
  by_cases htext : text = []
  · rw [collect, if_pos htext, htext]
    exact Emission.none c
  · rw [collect, if_neg htext]
    refine ⟨?_, trivial, ?_, ?_, ?_, rfl⟩
    · simp [emittedText]
    · simp [emittedText]
    · simp
    · simp

theorem exists_flushPrefix {c : PublicTextCoalescer} (hmax : 4 ≤ c.maxUtf8Bytes)
    (hpending : c.pending ≠ []) (now : Int) (forceBound : Bool)
    (hshort : forceBound = false → utf8Length c.pending ≤ c.maxUtf8Bytes) :
    ∃ delta c', c.flushPrefix sha256 now forceBound = .ok (delta, c') ∧
      Emission c [] [delta] c' ∧ (forceBound = false → c'.pending = []) := by
  have htaken : ∃ taken left, (if forceBound then c.boundedPrefix else .ok c.pending) = .ok taken ∧
      c.pending = taken ++ left ∧ taken ≠ [] ∧ utf8Length taken ≤ c.maxUtf8Bytes ∧
      (forceBound = false → left = []) := by
    cases forceBound with
    | false => exact ⟨c.pending, [], rfl, by simp, hpending, hshort rfl, fun _ => rfl⟩
    | true =>
        obtain ⟨taken, hok⟩ := exists_boundedChars hmax c.pending 0 []
        have hok : c.boundedPrefix = .ok taken := hok
        obtain ⟨⟨left, hleft⟩, hlength, hne⟩ := boundedPrefix_ok hok
        exact ⟨taken, left, hok, hleft, hne hpending, hlength, nofun⟩
  obtain ⟨taken, left, hok, hleft, hne, hlength, hall⟩ := htaken
  have hdrop : c.pending.drop taken.length = left := by simp [hleft]
  refine ⟨(c.emit sha256 now taken).1, (c.emit sha256 now taken).2, ?_, ?_, ?_⟩
  · rw [flushPrefix, if_neg hpending, hok]
  · refine ⟨?_, ⟨rfl, rfl, rfl, trivial⟩, ?_, rfl, ?_, rfl⟩
    · simp [emit, emittedText, hleft]
    · simp [emit, emittedText]
    · intro delta hdelta
      rw [List.mem_singleton.mp hdelta]
      exact ⟨hne, hlength⟩
  · intro hwhole
    simp [emit, hdrop, hall hwhole]

theorem exists_flushWhile (more : PublicTextCoalescer → Bool) (now : Int)
    (hmore : ∀ c, 4 ≤ c.maxUtf8Bytes → more c = true → c.pending ≠ []) :
    ∀ (size : Nat) (c : PublicTextCoalescer), c.pending.length ≤ size → 4 ≤ c.maxUtf8Bytes →
      ∃ deltas c', c.flushWhile sha256 more now = .ok (deltas, c') ∧ Emission c [] deltas c' ∧
        more c' = false := by
  intro size
  induction size with
  | zero =>
      intro c hsize hmax
      have hstop : more c = false := by
        cases h : more c with
        | false => rfl
        | true =>
            have hpositive := List.length_pos_of_ne_nil (hmore c hmax h)
            omega
      refine ⟨[], c, ?_, Emission.none c, hstop⟩
      rw [flushWhile, if_neg (by simp [hstop])]
  | succ size ih =>
      intro c hsize hmax
      cases hcond : more c with
      | false =>
          refine ⟨[], c, ?_, Emission.none c, hcond⟩
          rw [flushWhile, if_neg (by simp [hcond])]
      | true =>
          obtain ⟨delta, c', hflush, hemission, -⟩ :=
            exists_flushPrefix sha256 hmax (hmore c hmax hcond) now true nofun
          have hshorter := flushPrefix_shorter sha256 hflush
          obtain ⟨deltas, c'', hloop, hrest, hstop⟩ := ih c' (by omega) (hemission.bound ▸ hmax)
          refine ⟨delta :: deltas, c'', ?_, hemission.trans hrest, hstop⟩
          rw [flushWhile, if_pos hcond]
          split
          · next hfailed =>
              rw [hflush] at hfailed
              cases hfailed
          · next hfirst =>
              rw [hflush] at hfirst
              cases hfirst
              rw [hloop]

/-! ## Calls -/

/-- The pending text is within the bound: what every call restores, and what the timed
flushes rely on. -/
def Short (c : PublicTextCoalescer) : Prop := utf8Length c.pending < c.maxUtf8Bytes

theorem exists_add {c : PublicTextCoalescer} (hmax : 4 ≤ c.maxUtf8Bytes) (text : Text)
    (now : Int) : ∃ deltas c', c.add sha256 text now = .ok (deltas, c') ∧
      Emission c text deltas c' ∧ Short c' := by
  have hcollected := emission_collect c text now
  obtain ⟨deltas, drained, hloop, hdrained, hstop⟩ :=
    exists_flushWhile sha256 isFull now
      (fun c hmax hfull => ne_nil_of_utf8Length (by
        have hle : c.maxUtf8Bytes ≤ utf8Length c.pending := by simpa [isFull] using hfull
        omega))
      _ (c.collect text now) (Nat.le_refl _) (hcollected.bound ▸ hmax)
  have hemission : Emission c text deltas drained := by
    simpa using hcollected.trans hdrained
  have hshort : Short drained := by simpa [isFull, Short] using hstop
  by_cases hdue : drained.pending ≠ [] ∧ drained.lastFlushAt.any (drained.interval ≤ now - ·)
  · obtain ⟨delta, flushed, hflush, hlast, hempty⟩ :=
      exists_flushPrefix sha256 (hemission.bound ▸ hmax) hdue.1 now false
        fun _ => Nat.le_of_lt hshort
    refine ⟨deltas ++ [delta], flushed, ?_, by simpa using hemission.trans hlast, ?_⟩
    · simp [add, hloop, hdue, hflush, bind, Except.bind, pure, Except.pure]
    · rw [Short, hempty rfl, hlast.bound, hemission.bound, utf8Length_nil]
      omega
  · refine ⟨deltas, drained, ?_, hemission, hshort⟩
    simp only [add, hloop, bind, Except.bind, if_neg hdue]
    rfl

theorem exists_timedFlush {c : PublicTextCoalescer} (hmax : 4 ≤ c.maxUtf8Bytes)
    (hshort : Short c) (now : Int) : ∃ deltas c', c.timedFlush sha256 now = .ok (deltas, c') ∧
      Emission c [] deltas c' ∧ Short c' := by
  by_cases hpending : c.pending = []
  · refine ⟨[], c, ?_, Emission.none c, hshort⟩
    rw [timedFlush, if_pos hpending]
    rfl
  · obtain ⟨delta, flushed, hflush, hemission, hempty⟩ :=
      exists_flushPrefix sha256 hmax hpending now false
        fun _ => Nat.le_of_lt hshort
    refine ⟨[delta], flushed, ?_, hemission, ?_⟩
    · simp [timedFlush, hpending, hflush, bind, Except.bind, pure, Except.pure]
    · rw [Short, hempty rfl, hemission.bound, utf8Length_nil]
      omega

theorem exists_semanticFlush {c : PublicTextCoalescer} (hmax : 4 ≤ c.maxUtf8Bytes) (now : Int) :
    ∃ deltas c', c.semanticFlush sha256 now = .ok (deltas, c') ∧ Emission c [] deltas c' ∧
      c'.pending = [] := by
  obtain ⟨deltas, c', hloop, hemission, hstop⟩ :=
    exists_flushWhile sha256 isPending now
      (fun c _ hpending => by simpa [isPending] using hpending) _ c (Nat.le_refl _) hmax
  exact ⟨deltas, c', hloop, hemission, by simpa [isPending] using hstop⟩

inductive Call
  | add (text : Text) (now : Int)
  | timedFlush (now : Int)
  | semanticFlush (now : Int)
  deriving DecidableEq

def Call.text : Call → Text
  | .add text _ => text
  | _ => []

def call (c : PublicTextCoalescer) :
    Call → Except String (List PublicTextDelta × PublicTextCoalescer)
  | .add text now => c.add sha256 text now
  | .timedFlush now => c.timedFlush sha256 now
  | .semanticFlush now => c.semanticFlush sha256 now

def calls (c : PublicTextCoalescer) :
    List Call → Except String (List PublicTextDelta × PublicTextCoalescer)
  | [] => .ok ([], c)
  | first :: rest => do
      let (deltas, c') ← c.call sha256 first
      let (later, c'') ← c'.calls rest
      return (deltas ++ later, c'')

theorem calls_append (sequence more : List Call) : ∀ c : PublicTextCoalescer,
    c.calls sha256 (sequence ++ more) = (do
      let (deltas, c') ← c.calls sha256 sequence
      let (later, c'') ← c'.calls sha256 more
      return (deltas ++ later, c'')) := by
  induction sequence with
  | nil =>
      intro c
      cases h : c.calls sha256 more <;> simp [calls, h, bind, Except.bind, pure, Except.pure]
  | cons first rest ih =>
      intro c
      simp only [List.cons_append, calls]
      cases hcall : c.call sha256 first with
      | error message => rfl
      | ok result =>
          simp only [bind, Except.bind, ih]
          cases hrest : result.2.calls sha256 rest with
          | error message => rfl
          | ok later =>
              cases hmore : later.2.calls sha256 more <;>
                simp [hmore, pure, Except.pure, List.append_assoc]

theorem exists_call {c : PublicTextCoalescer} (hmax : 4 ≤ c.maxUtf8Bytes) (hshort : Short c)
    (next : Call) : ∃ deltas c', c.call sha256 next = .ok (deltas, c') ∧
      Emission c next.text deltas c' ∧ Short c' := by
  cases next with
  | add text now => exact exists_add sha256 hmax text now
  | timedFlush now => exact exists_timedFlush sha256 hmax hshort now
  | semanticFlush now =>
      obtain ⟨deltas, c', hcall, hemission, hempty⟩ := exists_semanticFlush sha256 hmax now
      refine ⟨deltas, c', hcall, hemission, ?_⟩
      rw [Short, hempty, hemission.bound, utf8Length_nil]
      omega

theorem exists_calls (sequence : List Call) :
    ∀ {c : PublicTextCoalescer}, 4 ≤ c.maxUtf8Bytes → Short c →
      ∃ deltas c', c.calls sha256 sequence = .ok (deltas, c') ∧
        Emission c (sequence.flatMap Call.text) deltas c' ∧ Short c' := by
  induction sequence with
  | nil => exact fun {c} _ hshort => ⟨[], c, rfl, Emission.none c, hshort⟩
  | cons first rest ih =>
      intro c hmax hshort
      obtain ⟨deltas, c', hcall, hemission, hshort'⟩ := exists_call sha256 hmax hshort first
      obtain ⟨later, c'', hcalls, hrest, hshort''⟩ := ih (hemission.bound ▸ hmax) hshort'
      refine ⟨deltas ++ later, c'', ?_, hemission.trans hrest, hshort''⟩
      simp [calls, hcall, hcalls, bind, Except.bind, pure, Except.pure]

structure Fresh (c : PublicTextCoalescer) : Prop where
  pending : c.pending = []
  lastFlushAt : c.lastFlushAt = none

/-- However the calls are mixed, when the last one is a semantic flush the deltas are the
whole text in pieces within the bound, their ranges tile it, and their indexes count on. -/
theorem coalesced_text {c : PublicTextCoalescer} (hfresh : c.Fresh) (hmax : 4 ≤ c.maxUtf8Bytes)
    (sequence : List Call) (now : Int) : ∃ deltas c',
      c.calls sha256 (sequence ++ [.semanticFlush now]) = .ok (deltas, c') ∧
      emittedText deltas = sequence.flatMap Call.text ∧
      (∀ delta ∈ deltas, delta.delta ≠ [] ∧ utf8Length delta.delta ≤ c.maxUtf8Bytes) ∧
      Tiled c.offset c.deltaIndex deltas ∧
      deltas.getLast?.elim c.offset (·.endOffset) =
        c.offset + (sequence.flatMap Call.text).length := by
  have hshort : Short c := by
    rw [Short, hfresh.pending, utf8Length_nil]
    omega
  obtain ⟨deltas, c', hcalls, hemission, -⟩ := exists_calls sha256 sequence hmax hshort
  obtain ⟨last, c'', hflush, hlast, hempty⟩ :=
    exists_semanticFlush sha256 (hemission.bound ▸ hmax) now
  have hwhole := hemission.trans hlast
  have htext : emittedText (deltas ++ last) = sequence.flatMap Call.text := by
    have heq := hwhole.text
    rw [hfresh.pending, hempty] at heq
    simpa using heq.symm
  refine ⟨deltas ++ last, c'', ?_, htext, hwhole.sized, hwhole.tiled, ?_⟩
  · rw [calls_append, hcalls]
    simp [calls, call, hflush, bind, Except.bind, pure, Except.pure]
  · rw [hwhole.tiled.endOffset, htext]

def sampleCoalescer : PublicTextCoalescer where
  runId := "run"
  internalTurnId := "turn"
  messageId := "message"
  contentIndex := 0
  offset := 2
  deltaIndex := 1
  interval := 65
  maxUtf8Bytes := 4

def sampleCalls : List Call := [.add ['好', 'a', 'b', '好'] 0, .timedFlush 65]

theorem coalesced_text_sample : ∃ deltas c',
    sampleCoalescer.calls id (sampleCalls ++ [.semanticFlush 70]) = .ok (deltas, c') ∧
      emittedText deltas = ['好', 'a', 'b', '好'] ∧
      (∀ delta ∈ deltas, delta.delta ≠ [] ∧ utf8Length delta.delta ≤ 4) ∧
      Tiled 2 1 deltas ∧ deltas.getLast?.elim 2 (·.endOffset) = 6 :=
  coalesced_text id ⟨rfl, rfl⟩ (by decide) sampleCalls 70

end PublicTextCoalescer

end Hybro.Orchestrator
