import Hybro.Library.Pieces

/-! # Lines of an event stream

`_SSEResponse.aiter_lines` reads the decoded chunks of a response. A line ends at a carriage
return, a line feed, or the two together, wherever the chunks are cut.
-/

namespace Hybro.Gateway

open Pieces

/-! ## Reading chunks -/

/-- `_LINE_END` -/
def isLineEnd (c : Char) : Bool := c = '\r' || c = '\n'

structure LineState where
  fragments : List (List Char) := []
  skipLf : Bool := false

/-- The loop over the line ends of a chunk; `piece` is what was passed since the last start. -/
def scanLines (piece : List Char) (skipLf : Bool) (fragments : List (List Char)) :
    List Char → LineState × List (List Char)
  | [] =>
      if piece = [] then ({ fragments, skipLf }, [])
      else ({ fragments := fragments ++ [piece], skipLf := false }, [])
  | c :: rest =>
      if isLineEnd c then
        if skipLf ∧ c = '\n' ∧ piece = [] then scanLines [] false fragments rest
        else
          let (last, lines) := scanLines [] (c = '\r') [] rest
          (last, (fragments ++ [piece]).flatten :: lines)
      else scanLines (piece ++ [c]) skipLf fragments rest

def readChunk : Reader LineState Char (List Char) := fun s text =>
  if text = [] then (s, [])
  else if s.skipLf ∧ text.head? = some '\n' then scanLines [] false s.fragments text.tail
  else scanLines [] false s.fragments text

def aiterLines (texts : List (List Char)) : List (List Char) :=
  let (last, lines) := readAll readChunk {} texts
  if last.fragments.any (· ≠ []) then lines ++ [last.fragments.flatten] else lines

/-! ## Lines of a text -/

inductive Ending : List Char → List Char → Prop
  | lineFeed (rest : List Char) : Ending ['\n'] rest
  | both (rest : List Char) : Ending ['\r', '\n'] rest
  | carriageReturn {rest : List Char} (h : rest.head? ≠ some '\n') : Ending ['\r'] rest

/-- A text and its lines; only the last one may be without an end. -/
inductive Lines : List Char → List (List Char) → Prop
  | nil : Lines [] []
  | last {line : List Char} (hne : line ≠ []) (hplain : ∀ c ∈ line, isLineEnd c = false) :
      Lines line [line]
  | line {line ending rest : List Char} {lines : List (List Char)}
      (hplain : ∀ c ∈ line, isLineEnd c = false) (hending : Ending ending rest)
      (hrest : Lines rest lines) : Lines (line ++ ending ++ rest) (line :: lines)

/-! ## One character after the other -/

/-- The line so far, and whether a line feed belongs to the last end. -/
def lineStep (s : List Char × Bool) (c : Char) : (List Char × Bool) × List (List Char) :=
  if isLineEnd c then
    if s.2 ∧ c = '\n' then ((s.1, false), []) else (([], c = '\r'), [s.1])
  else ((s.1 ++ [c], false), [])

def LineState.stands (s : LineState) : List Char × Bool := (s.fragments.flatten, s.skipLf)

/-- A line feed is awaited right after a line. -/
def LineState.Settled (s : LineState) : Prop := s.skipLf = true → s.fragments = []

theorem lineStep_of_ne {current : List Char} {skipLf : Bool} {c : Char} (h : c ≠ '\n') :
    lineStep (current, skipLf) c = lineStep (current, false) c := by
  simp [lineStep, h]

theorem scanLines_spec (text piece : List Char) (skipLf : Bool) (fragments : List (List Char))
    (h : skipLf = true → piece = [] → fragments = []) :
    let result := scanLines piece skipLf fragments text
    let plain := stepwise lineStep (fragments.flatten ++ piece, skipLf && piece.isEmpty) text
    result.1.Settled ∧ result.1.stands = plain.1 ∧ result.2 = plain.2 := by
  induction text generalizing piece skipLf fragments with
  | nil =>
      by_cases hpiece : piece = []
      · simp [scanLines, stepwise, hpiece, LineState.stands, LineState.Settled]
        exact fun hskip => h hskip hpiece
      · simp [scanLines, stepwise, hpiece, LineState.stands, LineState.Settled]
  | cons c rest ih =>
      by_cases hend : isLineEnd c = true
      · by_cases hskip : skipLf = true ∧ c = '\n' ∧ piece = []
        · -- the line feed of the end before
          obtain ⟨rfl, rfl, rfl⟩ := hskip
          have hrest := ih [] false fragments (by simp)
          have hstep : lineStep (fragments.flatten ++ [], true && ([] : List Char).isEmpty) '\n' =
              ((fragments.flatten ++ [], false), []) := by simp [lineStep, isLineEnd]
          have hscan : scanLines [] true fragments ('\n' :: rest) =
              scanLines [] false fragments rest := by simp [scanLines, isLineEnd]
          simp only [hscan, stepwise, hstep, List.nil_append]
          exact hrest
        · have hrest := ih [] (c = '\r') [] (by simp)
          have hstep : lineStep (fragments.flatten ++ piece, skipLf && piece.isEmpty) c =
              (([], decide (c = '\r')), [fragments.flatten ++ piece]) := by
            unfold lineStep
            rw [if_pos hend, if_neg]
            intro hboth
            obtain ⟨hskipLf, hpiece⟩ := (Bool.and_eq_true ..).mp hboth.1
            exact hskip ⟨hskipLf, hboth.2, List.isEmpty_iff.mp hpiece⟩
          simp only [scanLines, hend, if_true, if_neg hskip, stepwise, hstep]
          simp only [List.flatten_append, List.flatten_singleton, List.singleton_append]
          simpa using hrest
      · have hrest := ih (piece ++ [c]) skipLf fragments (by simp)
        have hstep : lineStep (fragments.flatten ++ piece, skipLf && piece.isEmpty) c =
            ((fragments.flatten ++ (piece ++ [c]), skipLf && (piece ++ [c]).isEmpty), []) := by
          simp [lineStep, hend]
        simp only [scanLines, hend, stepwise, hstep, List.nil_append]
        exact hrest

theorem readChunk_refines :
    Refines readChunk LineState.stands (stepwise lineStep) LineState.Settled := by
  have hread : ∀ (s : LineState) (text : List Char), s.Settled →
      (readChunk s text).1.Settled ∧
        (readChunk s text).1.stands = (stepwise lineStep s.stands text).1 ∧
        (readChunk s text).2 = (stepwise lineStep s.stands text).2 := by
    intro s text hs
    cases text with
    | nil => exact ⟨hs, rfl, rfl⟩
    | cons c rest =>
        by_cases hskip : s.skipLf = true ∧ c = '\n'
        · obtain ⟨hskip, rfl⟩ := hskip
          have hscan := scanLines_spec rest [] false s.fragments (by simp)
          have hstep : lineStep s.stands '\n' = ((s.fragments.flatten ++ [], false), []) := by
            simp [lineStep, isLineEnd, LineState.stands, hskip]
          simp only [readChunk, hskip, stepwise, hstep]
          simpa using hscan
        · have hscan := scanLines_spec (c :: rest) [] false s.fragments (by simp)
          have hstep : lineStep s.stands c = lineStep (s.fragments.flatten, false) c := by
            unfold LineState.stands
            by_cases hskipLf : s.skipLf = true
            · exact lineStep_of_ne fun hc => hskip ⟨hskipLf, hc⟩
            · simp [hskipLf]
          have hchunk : readChunk s (c :: rest) = scanLines [] false s.fragments (c :: rest) := by
            simp [readChunk, hskip]
          rw [hchunk]
          simp only [stepwise, hstep]
          simpa [stepwise] using hscan
  exact ⟨fun s text hs => (hread s text hs).1, fun s text hs => (hread s text hs).2.1,
    fun s text hs => (hread s text hs).2.2⟩

def lastLine (s : List Char × Bool) : List (List Char) := if s.1 = [] then [] else [s.1]

theorem any_fragments (fragments : List (List Char)) :
    fragments.any (· ≠ []) = decide (fragments.flatten ≠ []) := by
  rw [Bool.eq_iff_iff, List.any_eq_true, decide_eq_true_iff, Ne, List.flatten_eq_nil_iff]
  simp

theorem readAll_readChunk (texts : List (List Char)) :
    (readAll readChunk {} texts).1.stands = (stepwise lineStep ([], false) texts.flatten).1 ∧
      (readAll readChunk {} texts).2 = (stepwise lineStep ([], false) texts.flatten).2 := by
  have hsettled : LineState.Settled {} := by simp [LineState.Settled]
  obtain ⟨hstate, hgiven⟩ := readChunk_refines.readAll hsettled texts
  have hwhole : readAll (stepwise lineStep) ([], false) texts =
      stepwise lineStep ([], false) texts.flatten := (cuts_stepwise lineStep).readAll_eq trivial texts
  have hstands : LineState.stands {} = ([], false) := rfl
  rw [hstands, hwhole] at hstate hgiven
  exact ⟨hstate, hgiven⟩

/-- The last line is the only one that waits for the end of the response. -/
theorem aiterLines_readAll (texts : List (List Char)) : aiterLines texts =
    (readAll readChunk {} texts).2 ++ lastLine (readAll readChunk {} texts).1.stands := by
  simp only [aiterLines, any_fragments, lastLine, LineState.stands]
  by_cases hlast : (readAll readChunk {} texts).1.fragments.flatten = [] <;> simp [hlast]

theorem aiterLines_eq (texts : List (List Char)) : aiterLines texts =
    (stepwise lineStep ([], false) texts.flatten).2 ++
      lastLine (stepwise lineStep ([], false) texts.flatten).1 := by
  rw [aiterLines_readAll, (readAll_readChunk texts).1, (readAll_readChunk texts).2]

/-! ## The lines that are read -/

/-- What is left of a text when a line feed may belong to the end before it. -/
def afterEnd (skipLf : Bool) (text : List Char) : List Char :=
  if skipLf = true ∧ text.head? = some '\n' then text.tail else text

theorem isLineEnd_iff {c : Char} : isLineEnd c = true ↔ c = '\r' ∨ c = '\n' := by
  simp [isLineEnd]

theorem steps_lines (text current : List Char) (skipLf : Bool)
    (hplain : ∀ c ∈ current, isLineEnd c = false) (hskip : skipLf = true → current = []) :
    Lines (current ++ afterEnd skipLf text)
      ((stepwise lineStep (current, skipLf) text).2 ++
        lastLine (stepwise lineStep (current, skipLf) text).1) := by
  induction text generalizing current skipLf with
  | nil =>
      have hafter : afterEnd skipLf [] = [] := by simp [afterEnd]
      rw [hafter, List.append_nil]
      by_cases hempty : current = []
      · subst hempty
        exact .nil
      · have hlast : (stepwise lineStep (current, skipLf) []).2 ++
            lastLine (stepwise lineStep (current, skipLf) []).1 = [current] := by
          simp [stepwise, lastLine, hempty]
        rw [hlast]
        exact .last hempty hplain
  | cons c rest ih =>
      by_cases hend : isLineEnd c = true
      · by_cases hfeed : skipLf = true ∧ c = '\n'
        · obtain ⟨rfl, rfl⟩ := hfeed
          obtain rfl := hskip rfl
          have hafter : afterEnd true ('\n' :: rest) = rest := rfl
          have hstep : lineStep ([], true) '\n' = (([], false), []) := rfl
          have hrest := ih [] false (by simp) (by simp)
          rw [hafter]
          simp only [stepwise, hstep, List.nil_append]
          simpa [afterEnd] using hrest
        · have hafter : afterEnd skipLf (c :: rest) = c :: rest := by simp [afterEnd, hfeed]
          have hstep : lineStep (current, skipLf) c = (([], decide (c = '\r')), [current]) := by
            simp [lineStep, hend, hfeed]
          have hrest := ih [] (decide (c = '\r')) (by simp) (by simp)
          rw [List.nil_append] at hrest
          rw [hafter]
          simp only [stepwise, hstep, List.cons_append, List.nil_append]
          rcases isLineEnd_iff.mp hend with rfl | rfl
          · cases hhead : decide (rest.head? = some '\n') with
            | true =>
                -- the two together
                obtain ⟨later, rfl⟩ : ∃ later, rest = '\n' :: later := by
                  cases rest with
                  | nil => simp at hhead
                  | cons d later => exact ⟨later, by simpa using hhead⟩
                have hboth := Lines.line hplain (.both later) hrest
                simpa [afterEnd] using hboth
            | false =>
                have hne : rest.head? ≠ some '\n' := of_decide_eq_false hhead
                have hsame : afterEnd (decide ('\r' = '\r')) rest = rest := by
                  simp [afterEnd, hne]
                rw [hsame] at hrest
                simpa using Lines.line hplain (.carriageReturn hne) hrest
          · simpa [afterEnd] using Lines.line hplain (.lineFeed rest) hrest
      · have hne : c ≠ '\n' := fun hc => hend (by simp [isLineEnd, hc])
        have hafter : afterEnd skipLf (c :: rest) = c :: rest := by simp [afterEnd, hne]
        have hstep : lineStep (current, skipLf) c = ((current ++ [c], false), []) := by
          simp [lineStep, hend]
        have hrest := ih (current ++ [c]) false (by
          intro d hmem
          rcases List.mem_append.mp hmem with hmem | hmem
          · exact hplain d hmem
          · simpa [List.mem_singleton.mp hmem] using hend) (by simp)
        rw [hafter]
        simp only [stepwise, hstep, List.nil_append]
        simpa [afterEnd] using hrest

theorem steps_plain (line current : List Char) (hplain : ∀ c ∈ line, isLineEnd c = false) :
    stepwise lineStep (current, false) line = ((current ++ line, false), []) := by
  induction line generalizing current with
  | nil => simp [stepwise]
  | cons c rest ih =>
      have hstep : lineStep (current, false) c = ((current ++ [c], false), []) := by
        simp [lineStep, hplain c List.mem_cons_self]
      simp [stepwise, hstep, ih _ fun d hmem => hplain d (List.mem_cons_of_mem _ hmem)]

theorem steps_skip {rest : List Char} (h : rest.head? ≠ some '\n') :
    (stepwise lineStep ([], true) rest).2 ++ lastLine (stepwise lineStep ([], true) rest).1 =
      (stepwise lineStep ([], false) rest).2 ++ lastLine (stepwise lineStep ([], false) rest).1 := by
  cases rest with
  | nil => rfl
  | cons c rest =>
      have hne : c ≠ '\n' := by simpa using h
      simp only [stepwise, lineStep_of_ne hne]

theorem Lines.steps {text : List Char} {lines : List (List Char)} (h : Lines text lines) :
    (stepwise lineStep ([], false) text).2 ++ lastLine (stepwise lineStep ([], false) text).1 =
      lines := by
  induction h with
  | nil => rfl
  | @last line hne hplain =>
      rw [steps_plain line [] hplain]
      simp [lastLine, hne]
  | @line line ending rest lines hplain hending _ ih =>
      rw [List.append_assoc, stepwise_append, steps_plain line [] hplain, stepwise_append]
      cases hending with
      | lineFeed => simpa [stepwise, lineStep, isLineEnd] using ih
      | both => simpa [stepwise, lineStep, isLineEnd] using ih
      | carriageReturn hnext =>
          rw [← steps_skip hnext] at ih
          simpa [stepwise, lineStep, isLineEnd] using ih

/-- However the response is cut into chunks, its lines are read. -/
theorem aiterLines_iff (texts lines : List (List Char)) :
    aiterLines texts = lines ↔ Lines texts.flatten lines := by
  rw [aiterLines_eq]
  constructor
  · rintro rfl
    simpa [afterEnd] using steps_lines texts.flatten [] false (by simp) (by simp)
  · exact Lines.steps

/-- A line end in two chunks, and a line without an end. -/
example : aiterLines [['a', '\r'], [], ['\n', 'b'], ['c']] = [['a'], ['b', 'c']] := by decide

end Hybro.Gateway
