import Hybro.Conversation.CandidateScope

/-! # Reading a candidate agent

When an item of a selection can be read, what its snapshot looks like, and what becomes of a
snapshot that is read again.
-/

namespace Hybro.Conversation

open PythonText PythonValue PythonList

variable {F : Type} {S : Builtins F} {first : List String → Value F}
  {enumValue : Value F → Value F} {agent : CandidateAgentSnapshot F}

/-! ## Readable items -/

/-- The modes of the card are a sequence, and the rate fits a float. -/
def FieldsReadable (S : Builtins F) (first : List String → Value F) : Prop :=
  ((first ["agent_card"]).isNone = true ∨
    (shownItems S (rawInputModes S (first ["agent_card"]))).isSome = true) ∧
      ∀ n, first ["success_rate"] = .int n → (S.floatOf n).isSome = true

def Described (first : List String → Value F) : Prop :=
  let card := first ["agent_card"]
  card.isNone = true ∨ capabilitySummary first ≠ "" ∨
    skillList (firstCardValue card ["skills"]) ≠ [] ∨
      (firstCardValue card ["capability_summary"]).strippedText.isSome = true ∨
        (firstCardValue card ["description"]).strippedText.isSome = true

/-- A mapping is checked for its summary, an object is not. -/
def Readable (S : Builtins F) : Value F → Prop
  | .str _ => True
  | .dict entries => FieldsReadable S (firstMappingValue entries) ∧
      Described (firstMappingValue entries)
  | item => FieldsReadable S (firstAttrValue item)

theorem summaryWithCard_isSome :
    (summaryWithCard first (first ["agent_card"])).isSome = true ↔ Described first := by
  unfold summaryWithCard Described
  by_cases hcard : (first ["agent_card"]).isNone = true
  · simp [hcard]
  · by_cases hsummary : capabilitySummary first = ""
    · cases hskills : skillList (firstCardValue (first ["agent_card"]) ["skills"]) with
      | nil => simp [hcard, hsummary, hskills]
      | cons skill skills => simp [hcard, hsummary, hskills]
    · simp [hcard, hsummary]

theorem cardModes_ok {card : Value F} :
    (∃ modes, cardModes S card = .ok modes) ↔
      card.isNone = true ∨ (shownItems S (rawInputModes S card)).isSome = true := by
  unfold cardModes agentInputModes
  by_cases hcard : card.isNone = true
  · simp [hcard]
  · cases hshown : shownItems S (rawInputModes S card) with
    | none => simp [hcard, bind, Except.bind]
    | some shown => simp [hcard, bind, Except.bind, pure, Except.pure]

theorem optionalFloat_ok {value : Value F} :
    (∃ rate, optionalFloat S value = .ok rate) ↔
      ∀ n, value = .int n → (S.floatOf n).isSome = true := by
  cases value with
  | int n =>
      cases hfloat : S.floatOf n with
      | none => simp [optionalFloat, hfloat]
      | some x => simp [optionalFloat, hfloat]
  | _ => simp [optionalFloat]

variable {summaryField : Option String → Except Raised String}

theorem agentFrom_none (h : (first ["agent_id", "id"]).strippedText = none) :
    agentFrom S first enumValue summaryField = .ok none := by
  simp [agentFrom, h]

theorem agentFrom_some {agentId : String}
    (h : (first ["agent_id", "id"]).strippedText = some agentId)
    {result : Option (CandidateAgentSnapshot F)} :
    agentFrom S first enumValue summaryField = .ok result ↔
      ∃ modes successRate summary, cardModes S (first ["agent_card"]) = .ok modes ∧
        optionalFloat S (first ["success_rate"]) = .ok successRate ∧
          summaryField (summaryWithCard first (first ["agent_card"])) = .ok summary ∧
            result = some (agentRecord S first enumValue agentId modes successRate summary) := by
  unfold agentFrom
  simp only [h]
  cases hmodes : cardModes S (first ["agent_card"]) with
  | error e => simp [bind, Except.bind]
  | ok modes =>
      cases hrate : optionalFloat S (first ["success_rate"]) with
      | error e => simp [bind, Except.bind]
      | ok rate =>
          cases hsummary : summaryField (summaryWithCard first (first ["agent_card"])) with
          | error e => simp [bind, Except.bind]
          | ok summary => simp [bind, Except.bind, pure, Except.pure, eq_comm]

theorem agentFrom_ok :
    (∃ result, agentFrom S first enumValue summaryField = .ok result) ↔
      ((first ["agent_id", "id"]).strippedText.isSome = true → FieldsReadable S first ∧
        ∃ summary, summaryField (summaryWithCard first (first ["agent_card"])) = .ok summary) := by
  cases hid : (first ["agent_id", "id"]).strippedText with
  | none => simp [agentFrom_none hid]
  | some agentId =>
      simp only [agentFrom_some hid, Option.isSome_some, true_implies, FieldsReadable,
        ← cardModes_ok, ← optionalFloat_ok]
      constructor
      · rintro ⟨_, modes, rate, summary, hmodes, hrate, hsummary, -⟩
        exact ⟨⟨⟨modes, hmodes⟩, ⟨rate, hrate⟩⟩, ⟨summary, hsummary⟩⟩
      · rintro ⟨⟨⟨modes, hmodes⟩, ⟨rate, hrate⟩⟩, ⟨summary, hsummary⟩⟩
        exact ⟨_, modes, rate, summary, hmodes, hrate, hsummary, rfl⟩

theorem agentFrom_id {result : Option (CandidateAgentSnapshot F)}
    (h : agentFrom S first enumValue summaryField = .ok result) :
    result.map (·.agentId) = (first ["agent_id", "id"]).strippedText := by
  cases hid : (first ["agent_id", "id"]).strippedText with
  | none =>
      rw [agentFrom_none hid] at h
      cases h
      rfl
  | some agentId =>
      obtain ⟨modes, rate, summary, -, -, -, rfl⟩ := (agentFrom_some hid).mp h
      rfl

theorem checkedSummary_ok {summary : Option String} :
    (∃ checked, checkedSummary summary = .ok checked) ↔ summary.isSome = true := by
  cases summary with
  | none => simp [checkedSummary]
  | some summary => simp [checkedSummary]

theorem item_cases {P : Value F → Prop} (text : ∀ text, P (.str text))
    (mapping : ∀ entries, P (.dict entries))
    (other : ∀ item, (∀ S : Builtins F, candidateAgentSnapshot S item =
        agentFrom S (firstAttrValue item) enumerated summaryOrEmpty) →
      candidateItemId item = (firstAttrValue item ["agent_id", "id"]).strippedText →
      (∀ S, Readable S item ↔ FieldsReadable S (firstAttrValue item)) → P item)
    (item : Value F) : P item := by
  cases item with
  | str value => exact text value
  | dict entries => exact mapping entries
  | none => exact other _ (fun _ => rfl) rfl fun _ => Iff.rfl
  | bool value => exact other _ (fun _ => rfl) rfl fun _ => Iff.rfl
  | int value => exact other _ (fun _ => rfl) rfl fun _ => Iff.rfl
  | float value => exact other _ (fun _ => rfl) rfl fun _ => Iff.rfl
  | list items => exact other _ (fun _ => rfl) rfl fun _ => Iff.rfl
  | object attributes => exact other _ (fun _ => rfl) rfl fun _ => Iff.rfl

theorem candidateAgentSnapshot_ok (item : Value F) :
    (∃ result, candidateAgentSnapshot S item = .ok result) ↔
      ((candidateItemId item).isSome = true → Readable S item) := by
  induction item using item_cases with
  | text text => simp [candidateAgentSnapshot, Readable]
  | mapping entries =>
      have hok := @agentFrom_ok F S (firstMappingValue entries) id checkedSummary
      rw [checkedSummary_ok, summaryWithCard_isSome] at hok
      exact hok
  | other item hsnapshot hid hreadable =>
      have hok := @agentFrom_ok F S (firstAttrValue item) enumerated summaryOrEmpty
      rw [hsnapshot, hid, hok, hreadable]
      simp [summaryOrEmpty]

theorem candidateAgentSnapshot_id {item : Value F} {result : Option (CandidateAgentSnapshot F)}
    (h : candidateAgentSnapshot S item = .ok result) :
    result.map (·.agentId) = candidateItemId item := by
  induction item using item_cases with
  | text text =>
      obtain rfl := Except.ok.inj h
      simp [candidateItemId, Function.comp_def]
  | mapping entries => exact agentFrom_id h
  | other item hsnapshot hid hreadable =>
      rw [hsnapshot] at h
      rw [hid]
      exact agentFrom_id h

/-! ## Normal snapshots -/

/-- Every text of a snapshot is clean, and a snapshot without a summary has no capabilities. -/
structure Normal (agent : CandidateAgentSnapshot F) : Prop where
  agentId : Clean agent.agentId
  name : ∀ text ∈ agent.name, Clean text
  role : ∀ text ∈ agent.role, Clean text
  status : ∀ text ∈ agent.status, Clean text
  source : ∀ text ∈ agent.source, Clean text
  capabilities : ∀ text ∈ agent.capabilities, Clean text
  inputModes : ∀ text ∈ agent.inputModes, Clean text
  outputModes : ∀ text ∈ agent.outputModes, Clean text
  summary : Clean agent.capabilitySummary ∨
    (agent.capabilitySummary = "" ∧ agent.capabilities = [])

theorem clean_text : Clean "text" := clean_of_ends rfl rfl (by decide) (by decide)

theorem clean_stringList {value : Value F} {text : String} (h : text ∈ stringList value) :
    Clean text := by
  obtain ⟨item, -, hitem⟩ := List.mem_filterMap.mp h
  exact Value.clean_of_strippedText hitem

theorem clean_or {first second : Option String} {text : String} (h : text ∈ first.or second)
    (hfirst : ∀ t ∈ first, Clean t) (hsecond : ∀ t ∈ second, Clean t) : Clean text := by
  cases first with
  | none => exact hsecond text h
  | some own => exact hfirst text h

theorem clean_skill {item : Value F} {text : String} (h : skill item = some text) :
    Clean text := by
  unfold skill at h
  split at h
  · exact clean_of_strippedText h
  · exact clean_or h (fun _ => Value.clean_of_strippedText) fun _ => Value.clean_of_strippedText
  · exact Value.clean_of_strippedText h

theorem clean_skillList {value : Value F} {text : String} (h : text ∈ skillList value) :
    Clean text := by
  obtain ⟨item, -, hitem⟩ := List.mem_filterMap.mp h
  exact clean_skill hitem

theorem skillList_of_stringList {value : Value F} (h : skillList value = []) :
    stringList value = [] := by
  apply List.filterMap_eq_nil_iff.mpr
  intro item hmem
  have hskill := List.filterMap_eq_nil_iff.mp h item hmem
  cases item with
  | str text => exact hskill
  | _ => rfl

theorem clean_joined {skills : List String} (hne : skills ≠ [])
    (h : ∀ text ∈ skills, Clean text) : Clean (", ".intercalate skills) := by
  cases skills with
  | nil => exact absurd rfl hne
  | cons first rest =>
      exact (h first List.mem_cons_self).intercalate fun text hmem =>
        h text (List.mem_cons_of_mem _ hmem)

theorem clean_capabilitySummary :
    Clean (capabilitySummary first) ∨ (capabilitySummary first = "" ∧
      skillList (first ["capabilities", "skills"]) = []) := by
  unfold capabilitySummary
  split
  · next hsummary => exact .inl (Value.clean_of_strippedText hsummary)
  · split
    · next hdescription => exact .inl (Value.clean_of_strippedText hdescription)
    · by_cases hskills : skillList (first ["capabilities", "skills"]) = []
      · simp [hskills]
      · exact .inl (clean_joined hskills fun _ => clean_skillList)

theorem clean_agentInputModes {card : Value F} {modes : List String}
    (h : agentInputModes S card = .ok modes) : ∀ mode ∈ modes, Clean mode := by
  unfold agentInputModes at h
  split at h
  · obtain rfl := Except.ok.inj h
    intro mode hmem
    simp only [mem_fromKeys, List.mem_map, List.mem_filterMap] at hmem
    obtain ⟨text, ⟨shown, -, hclean⟩, rfl⟩ := hmem
    exact S.lower_clean text (clean_of_strippedText hclean)
  · cases h

theorem clean_cardModes {card : Value F} {modes : CardModes}
    (h : cardModes S card = .ok modes) :
    (∀ mode ∈ modes.inputModes, Clean mode) ∧ ∀ mode ∈ modes.outputModes, Clean mode := by
  unfold cardModes at h
  split at h
  · obtain rfl := Except.ok.inj h
    constructor
    · intro mode hmem
      have htext : mode = "text" := by simpa using hmem
      exact htext ▸ clean_text
    · intro mode hmem
      cases hmem
  · cases hmodes : agentInputModes S card with
    | error e => simp [hmodes, bind, Except.bind] at h
    | ok inputs =>
        simp only [hmodes, bind, Except.bind, pure, Except.pure, Except.ok.injEq] at h
        subst h
        constructor
        · intro mode hmem
          exact clean_agentInputModes hmodes mode ((List.mem_insertionSort _).mp hmem)
        · intro mode hmem
          exact clean_stringList hmem

theorem clean_summary {summary : String}
    (hfield : ∀ s checked, summaryField s = .ok checked →
      s = some checked ∨ (s = none ∧ checked = ""))
    (h : summaryField (summaryWithCard first (first ["agent_card"])) = .ok summary) :
    Clean summary ∨ (summary = "" ∧ skillList (first ["capabilities", "skills"]) = [] ∧
      ((first ["agent_card"]).isNone = true ∨
        skillList (firstCardValue (first ["agent_card"]) ["skills"]) = [])) := by
  have hown := @clean_capabilitySummary F first
  by_cases hcard : (first ["agent_card"]).isNone = true
  · have hsome : summaryWithCard first (first ["agent_card"]) = some (capabilitySummary first) := by
      simp [summaryWithCard, hcard]
    rcases hfield _ _ h with heq | ⟨hnone, -⟩
    · obtain rfl := Option.some.inj (hsome.symm.trans heq)
      rcases hown with hclean | ⟨hempty, hskills⟩
      · exact .inl hclean
      · exact .inr ⟨hempty, hskills, .inl hcard⟩
    · simp [hsome] at hnone
  · by_cases hempty : capabilitySummary first = ""
    · have hnot : ¬ Clean (capabilitySummary first) := fun hclean => hclean.2 hempty
      have hskills := (hown.resolve_left hnot).2
      cases hcards : skillList (firstCardValue (first ["agent_card"]) ["skills"]) with
      | nil =>
          rcases hfield _ _ h with heq | ⟨-, hsummary⟩
          · left
            simp only [summaryWithCard, hcard, hempty, hcards, ne_eq, not_true_eq_false,
              or_self, if_false, Bool.false_eq_true] at heq
            exact clean_or heq (fun _ => Value.clean_of_strippedText)
              fun _ => Value.clean_of_strippedText
          · exact .inr ⟨hsummary, hskills, .inr rfl⟩
      | cons skill skills =>
          left
          have hsome : summaryWithCard first (first ["agent_card"]) =
              some (", ".intercalate (skill :: skills)) := by
            simp [summaryWithCard, hcard, hempty, hcards]
          rcases hfield _ _ h with heq | ⟨hnone, -⟩
          · obtain rfl := Option.some.inj (hsome.symm.trans heq)
            apply clean_joined (by simp)
            intro text hmem
            exact clean_skillList (hcards ▸ hmem)
          · simp [hsome] at hnone
    · have hsome : summaryWithCard first (first ["agent_card"]) =
          some (capabilitySummary first) := by
        simp [summaryWithCard, hempty]
      rcases hfield _ _ h with heq | ⟨hnone, -⟩
      · obtain rfl := Option.some.inj (hsome.symm.trans heq)
        exact .inl (hown.resolve_right fun hboth => hempty hboth.1)
      · simp [hsome] at hnone

theorem clean_orElse {own other : List String} (hown : ∀ text ∈ own, Clean text)
    (hother : ∀ text ∈ other, Clean text) : ∀ text ∈ orElse own other, Clean text := by
  unfold orElse
  split
  · exact hother
  · exact hown

theorem clean_orCard {own : Option String} {card : Value F} {keys : List String}
    (hown : ∀ text ∈ own, Clean text) : ∀ text ∈ orCard own card keys, Clean text := by
  unfold orCard
  split
  · exact hown
  · intro text hmem
    exact clean_or hmem hown fun _ => Value.clean_of_strippedText

theorem clean_statusFromHealth {value : Value F} {text : String}
    (h : text ∈ statusFromHealth value) : Clean text := by
  have hactive : Clean "active" := clean_of_ends rfl rfl (by decide) (by decide)
  have hinactive : Clean "inactive" := clean_of_ends rfl rfl (by decide) (by decide)
  cases value with
  | bool healthy =>
      cases healthy with
      | true => exact Option.some.inj h ▸ hactive
      | false => exact Option.some.inj h ▸ hinactive
  | _ => cases h

theorem clean_agentStatus : ∀ text ∈ agentStatus first enumValue, Clean text := by
  intro text hmem
  exact clean_or hmem (fun _ => Value.clean_of_strippedText) fun _ => clean_statusFromHealth

theorem agentFrom_normal
    (hfield : ∀ s checked, summaryField s = .ok checked →
      s = some checked ∨ (s = none ∧ checked = ""))
    (h : agentFrom S first enumValue summaryField = .ok (some agent)) : Normal agent := by
  cases hid : (first ["agent_id", "id"]).strippedText with
  | none =>
      rw [agentFrom_none hid] at h
      cases h
  | some agentId =>
      obtain ⟨modes, rate, summary, hmodes, -, hsummary, heq⟩ := (agentFrom_some hid).mp h
      obtain rfl := Option.some.inj heq
      obtain ⟨hinputs, houtputs⟩ := clean_cardModes hmodes
      have htext : ∀ names, ∀ text ∈ (first names).strippedText, Clean text :=
        fun names _ => Value.clean_of_strippedText
      refine ⟨Value.clean_of_strippedText hid, clean_orCard (htext _), clean_orCard (htext _),
        clean_agentStatus, htext _, ?_, clean_orElse (fun _ => clean_stringList) hinputs,
        clean_orElse (fun _ => clean_stringList) houtputs, ?_⟩
      · intro text hmem
        simp only [agentRecord] at hmem
        split at hmem
        · exact clean_stringList hmem
        · exact clean_orElse (fun _ => clean_stringList) (fun _ => clean_skillList) text hmem
      · rcases clean_summary hfield hsummary with hclean | ⟨hempty, hown, hcard⟩
        · exact .inl hclean
        · have hnone := skillList_of_stringList hown
          right
          refine ⟨hempty, ?_⟩
          simp only [agentRecord]
          rcases hcard with hcard | hskills
          · simp [hcard, hnone]
          · simp [hskills, hnone, orElse]

theorem candidateAgentSnapshot_normal {item : Value F}
    (h : candidateAgentSnapshot S item = .ok (some agent)) : Normal agent := by
  induction item using item_cases with
  | text text =>
      obtain ⟨agentId, hid, rfl⟩ := Option.map_eq_some_iff.mp (Except.ok.inj h)
      have hclean := clean_of_strippedText hid
      refine ⟨hclean, ?_, ?_, ?_, ?_, ?_, ?_, ?_, .inr ⟨rfl, rfl⟩⟩
      · exact fun _ hmem => nomatch hmem
      · exact fun _ hmem => nomatch hmem
      · exact fun _ hmem => nomatch hmem
      · exact fun _ hmem => nomatch hmem
      · exact fun _ hmem => nomatch hmem
      · intro mode hmem
        have htext : mode = "text" := by simpa using hmem
        exact htext ▸ clean_text
      · exact fun _ hmem => nomatch hmem
  | mapping entries =>
      apply agentFrom_normal _ h
      intro summary checked hchecked
      cases summary with
      | none => cases hchecked
      | some summary => exact .inl (congrArg some (Except.ok.inj hchecked))
  | other item hsnapshot hid hreadable =>
      rw [hsnapshot] at h
      apply agentFrom_normal _ h
      intro summary checked hchecked
      cases summary with
      | none => exact .inr ⟨rfl, (Except.ok.inj hchecked).symm⟩
      | some summary => exact .inl (congrArg some (Except.ok.inj hchecked))

/-! ## Input modes -/

/-- The item or its card names an input mode, or there is no card. -/
def HasInputModes (S : Builtins F) (first : List String → Value F) : Prop :=
  let card := first ["agent_card"]
  stringList (first ["input_modes", "default_input_modes", "defaultInputModes"]) ≠ [] ∨
    card.isNone = true ∨
      ∃ shown, shownItems S (rawInputModes S card) = some shown ∧ shown.filterMap strippedText ≠ []

/-- Reading the snapshot again would not give it other input modes. -/
def UsableModes (S : Builtins F) : Value F → Prop
  | .str _ => True
  | .dict entries => HasInputModes S (firstMappingValue entries)
  | item => HasInputModes S (firstAttrValue item)

theorem insertionSort_eq_nil {texts : List String} :
    texts.insertionSort (· ≤ ·) = [] ↔ texts = [] := by
  rw [← List.length_eq_zero_iff, List.length_insertionSort, List.length_eq_zero_iff]

theorem cardModes_ne_nil {card : Value F} {modes : CardModes} (h : cardModes S card = .ok modes) :
    modes.inputModes ≠ [] ↔ card.isNone = true ∨
      ∃ shown, shownItems S (rawInputModes S card) = some shown ∧
        shown.filterMap strippedText ≠ [] := by
  unfold cardModes agentInputModes at h
  by_cases hcard : card.isNone = true
  · simp only [hcard, if_true, Except.ok.injEq] at h
    simp [hcard, ← h]
  · cases hshown : shownItems S (rawInputModes S card) with
    | none => simp [hcard, hshown, bind, Except.bind] at h
    | some shown =>
        simp only [hcard, hshown, bind, Except.bind, pure, Except.pure, Bool.false_eq_true,
          if_false, Except.ok.injEq] at h
        subst h
        have hkeys : ∀ texts : List String, fromKeys texts = [] ↔ texts = [] := by
          intro texts
          simp [List.eq_nil_iff_forall_not_mem]
        simp [hcard, insertionSort_eq_nil, hkeys]

theorem agentFrom_inputModes
    (h : agentFrom S first enumValue summaryField = .ok (some agent)) :
    agent.inputModes ≠ [] ↔ HasInputModes S first := by
  cases hid : (first ["agent_id", "id"]).strippedText with
  | none =>
      rw [agentFrom_none hid] at h
      cases h
  | some agentId =>
      obtain ⟨modes, rate, summary, hmodes, -, -, heq⟩ := (agentFrom_some hid).mp h
      obtain rfl := Option.some.inj heq
      have hcard := cardModes_ne_nil hmodes
      unfold HasInputModes
      simp only [agentRecord, orElse]
      rw [← hcard]
      by_cases hown : stringList (first ["input_modes", "default_input_modes",
          "defaultInputModes"]) = []
      · simp [hown]
      · simp [hown]

theorem candidateAgentSnapshot_inputModes {item : Value F}
    (h : candidateAgentSnapshot S item = .ok (some agent)) :
    agent.inputModes ≠ [] ↔ UsableModes S item := by
  cases item with
  | str text =>
      obtain ⟨agentId, -, rfl⟩ := Option.map_eq_some_iff.mp (Except.ok.inj h)
      simp [UsableModes]
  | dict entries => exact agentFrom_inputModes h
  | object attributes => exact agentFrom_inputModes h
  | _ => cases h

/-! ## Reading a snapshot again -/

def CandidateAgentSnapshot.asObject (agent : CandidateAgentSnapshot F) : Value F :=
  .object agent.fields

def CandidateAgentSnapshot.modelDump (agent : CandidateAgentSnapshot F) : Value F :=
  .mapping agent.fields

def CandidateAgentSnapshot.reread (agent : CandidateAgentSnapshot F) : CandidateAgentSnapshot F :=
  { agent with inputModes := orElse agent.inputModes ["text"] }

theorem stringList_texts {texts : List String} (h : ∀ text ∈ texts, Clean text) :
    stringList (Value.texts texts : Value F) = texts := by
  induction texts with
  | nil => rfl
  | cons text rest ih =>
      have htext := (h text List.mem_cons_self).strippedText
      have hrest := ih fun t hmem => h t (List.mem_cons_of_mem _ hmem)
      simp only [stringList, Value.texts, Value.items_list, Option.getD_some, List.map_cons,
        List.filterMap_cons, Value.strippedText_str, htext] at hrest ⊢
      rw [hrest]

theorem firstMappingValue_mapping (fields : List (String × Value F)) (keys : List String) :
    firstMappingValue (fields.map fun field => (Key.text field.1, field.2)) keys =
      firstAttrValue (.object fields) keys := by
  unfold firstMappingValue firstAttrValue
  congr 1
  funext name
  exact Value.entry_mapping fields name

theorem agentFrom_fields (h : Normal agent)
    (hstatus : ∀ status : Option String, enumValue (.ofText status) = .ofText status)
    (hfield : ∀ s, summaryField (some s) = .ok s) :
    agentFrom S (firstAttrValue (.object agent.fields)) enumValue summaryField =
      .ok (some agent.reread) := by
  have hid : (firstAttrValue (.object agent.fields) ["agent_id", "id"]).strippedText =
      some agent.agentId := h.agentId.strippedText
  have hcard : firstAttrValue (.object agent.fields) ["agent_card"] = .none := rfl
  have hsummary : capabilitySummary (firstAttrValue (.object agent.fields)) =
      agent.capabilitySummary := by
    have hlookup : (firstAttrValue (.object agent.fields) ["capability_summary"]).strippedText =
        strippedText agent.capabilitySummary := rfl
    rcases h.summary with hclean | ⟨hempty, hnone⟩
    · simp [capabilitySummary, hlookup, hclean.strippedText]
    · have hdescription : (firstAttrValue (.object agent.fields) ["description"]).strippedText =
          none := rfl
      have hskills : firstAttrValue (.object agent.fields) ["capabilities", "skills"] =
          .texts agent.capabilities := rfl
      have hblank : strippedText "" = none := by decide +kernel
      simp [capabilitySummary, hlookup, hempty, hblank, hdescription, hskills, hnone,
        skillList, Value.texts]
  refine (agentFrom_some hid).mpr ⟨{}, agent.successRate, agent.capabilitySummary, rfl, ?_, ?_, ?_⟩
  · show optionalFloat S (agent.successRate.elim .none .float) = _
    cases agent.successRate with
    | none => rfl
    | some rate => rfl
  · have hsome : summaryWithCard (firstAttrValue (.object agent.fields))
        (firstAttrValue (.object agent.fields) ["agent_card"]) = some agent.capabilitySummary := by
      simp [summaryWithCard, hcard, hsummary]
    rw [hsome, hfield]
  · have hname : (Value.ofText agent.name : Value F).strippedText = agent.name :=
      Value.strippedText_ofText h.name
    have hrole : (Value.ofText agent.role : Value F).strippedText = agent.role :=
      Value.strippedText_ofText h.role
    have hsource : (Value.ofText agent.source : Value F).strippedText = agent.source :=
      Value.strippedText_ofText h.source
    have hvalue : (enumValue (.ofText agent.status)).strippedText = agent.status := by
      rw [hstatus, Value.strippedText_ofText h.status]
    apply congrArg some
    ext1
    · rfl
    · exact hname.symm
    · exact hrole.symm
    · rfl
    · show agent.status = (enumValue (.ofText agent.status)).strippedText.or none
      rw [hvalue, Option.or_none]
    · exact hsource.symm
    · exact (stringList_texts h.capabilities).symm
    · show orElse agent.inputModes ["text"] = orElse (stringList (.texts agent.inputModes)) ["text"]
      rw [stringList_texts h.inputModes]
    · show agent.outputModes = orElse (stringList (.texts agent.outputModes)) []
      rw [stringList_texts h.outputModes, orElse]
      split
      · next hempty => exact hempty
      · rfl
    · rfl
    · rfl

theorem candidateAgentSnapshot_object (attributes : List (String × Value F)) :
    candidateAgentSnapshot S (.object attributes) =
      agentFrom S (firstAttrValue (.object attributes)) enumerated summaryOrEmpty := rfl

theorem candidateAgentSnapshot_mapping (fields : List (String × Value F)) :
    candidateAgentSnapshot S (.mapping fields) =
      agentFrom S (firstAttrValue (.object fields)) id checkedSummary := by
  have hfields : firstMappingValue (fields.map fun field => (Key.text field.1, field.2)) =
      firstAttrValue (.object fields) := by
    funext keys
    exact firstMappingValue_mapping _ _
  rw [← hfields]
  rfl

theorem reread_object (h : Normal agent) :
    candidateAgentSnapshot S agent.asObject = .ok (some agent.reread) := by
  rw [CandidateAgentSnapshot.asObject, candidateAgentSnapshot_object]
  apply agentFrom_fields h
  · intro status
    cases status with
    | none => rfl
    | some text => rfl
  · exact fun _ => rfl

theorem reread_dump (h : Normal agent) :
    candidateAgentSnapshot S agent.modelDump = .ok (some agent.reread) := by
  rw [CandidateAgentSnapshot.modelDump, candidateAgentSnapshot_mapping]
  exact agentFrom_fields h (fun _ => rfl) fun _ => rfl

end Hybro.Conversation
