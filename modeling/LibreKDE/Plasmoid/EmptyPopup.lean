import LibreKDE.Plasmoid.CardDetected
import LibreKDE.Plasmoid.StateShown

/-!
# What an empty popup tells

Without a card the popup has four things to say, and a fifth when there is no agent: a card is being
detected, one is to be put into the bound reader, the bound reader is not connected, any card will
do.  It says them by flags that `refresh` writes one by one, over views that may stay open for
hours.

`Told` is what there is to say of a registry, by the readers the widget looks at.  The flags tell
it of the registry last seen in every state of a run, but for the twins that mislead
`computeCardDetected`: then the popup asks for a card that is there.
-/

namespace LibreKDE.Plasmoid

open Reactive CardReads SmartCardHandler

variable {h : PlasmoidHost} {s u : SmartCardHandler} {seen : Registry} {e : Event}

/-! ## The texts -/

/-- What the popup says where it shows no card. -/
inductive EmptyText
  /-- `AgentUnavailableState`. -/
  | noAgent (installed : Bool)
  | detecting
  | insertInto (reader : QString)
  | notConnected (reader : QString)
  | insertAny
  deriving DecidableEq, Repr

/-- The view of the state, where it is one of the two without a card. -/
def SmartCardHandler.emptyText (s : SmartCardHandler) : Option EmptyText :=
  match s.state with
  | .agentUnavailable => some (.noAgent s.agentInstalled)
  | .noCard =>
      some
        (if s.cardDetected then .detecting
        else if s.boundReaderName ≠ [] then
          if s.boundReaderPresent then .insertInto s.boundReaderName
          else .notConnected s.boundReaderName
        else .insertAny)
  | _ => none

/-- What there is to say of a registry. -/
def told (t : CharClasses) (bound : QString) (r : Registry) : EmptyText :=
  let looked := candidates t bound r.readers
  if r.available = false then .noAgent (decide (r.agentState ≠ .missing))
  else if looked.any AgentReader.hasCard then .detecting
  else if bound = [] then .insertAny
  else if looked = [] then .notConnected bound
  else .insertInto bound

/-! ## Who writes the flags -/

/-- What only a refresh notes of the registry. -/
def SmartCardHandler.notes (s : SmartCardHandler) : Bool × Bool × List QString :=
  (s.cardDetected, s.agentInstalled, s.readersWithCards)

lemma readIdentity_notes : s.readIdentity.notes = s.notes := by
  rcases s.readIdentity_cases with heq | ⟨c, -, -, heq⟩ <;> simp only [heq, notes]

lemma ensureFreeRead_notes : s.ensureFreeRead.notes = s.notes := by
  rcases s.ensureFreeRead_cases with heq | ⟨c, -, -, heq⟩ <;> simp only [heq, notes]

lemma classifyActiveCard_notes : (s.classifyActiveCard h).notes = s.notes := by
  unfold classifyActiveCard
  dsimp only
  split
  · rfl
  · split_ifs
    · rw [ensureFreeRead_notes]
      rfl
    · rfl

lemma bindCard_notes (c : Option CardRef) : (s.bindCard c).notes = s.notes := by
  unfold SmartCardHandler.bindCard
  split_ifs <;> rfl

lemma onOperationFinished_notes (t : Terminal) : (s.onOperationFinished h t).notes = s.notes := by
  unfold onOperationFinished
  dsimp only
  split
  · rfl
  · split_ifs
    · rw [classifyActiveCard_notes]
      rfl
    · rfl
    · show (classifyActiveCard h _).notes = s.notes
      rw [classifyActiveCard_notes]
      rfl

/-- Nothing else notes anything of it. -/
lemma notes_of_not_refreshes (hn : s.refreshes e = none) : (step h s e).notes = s.notes := by
  -- The flags and rosters are written by `refresh` alone; every other method leaves them.
  cases e with
  | registry r => rfl
  | registryChanged r => cases hn
  | refresh => cases hn
  | cardChanged c =>
      simp only [step, cardChanged]
      split_ifs
      · exact classifyActiveCard_notes
      · rfl
  | setBoundReaderName name =>
      simp only [refreshes, ite_eq_left_iff, reduceCtorEq, imp_false, not_not] at hn
      simp [step, setBoundReaderName, hn]
  | selectReader friendlyName =>
      simp only [refreshes, ite_eq_left_iff, reduceCtorEq, imp_false, not_not] at hn
      rcases hn with hbound | hsame
      · simp [step, selectReader, hbound]
      · simp [step, selectReader, hsame]
  | setViewActive active =>
      simp only [step, setViewActive]
      split_ifs
      · rfl
      · rw [ensureFreeRead_notes]
        rfl
      · rfl
  | readIdentity => exact readIdentity_notes
  | ensureFreeRead => exact ensureFreeRead_notes
  | openInFiles =>
      simp only [step]
      rcases s.openInFiles_cases with heq | ⟨c, -, -, heq⟩ <;> simp only [heq, notes]
  | startAgent =>
      simp only [step, SmartCardHandler.startAgent]
      split_ifs <;> rfl
  | agentStartFinished result =>
      simp only [refreshes, ite_eq_right_iff, reduceCtorEq, imp_false, Bool.not_eq_true] at hn
      simp [step, onAgentStartFinished, hn]
  | finished i t =>
      simp only [step, finished]
      split_ifs
      · exact onOperationFinished_notes t
      · rfl
      · rfl
  | phaseChanged i phase =>
      simp only [step, phaseChanged]
      split_ifs <;> rfl
  | signFile fileUrl =>
      simp only [step, signFile]
      split_ifs
      · rfl
      · split <;> rfl
  | dismissSignResult =>
      simp only [step, dismissSignResult]
      split
      · rfl
      · split_ifs <;> rfl
  | jobChooses j cands =>
      simp only [step, pickFirstCert]
      split <;> rfl
  | jobPhaseChanged j phase =>
      simp only [step, SmartCardHandler.onPhaseChanged]
      split <;> rfl
  | jobSucceeded j outputPath level => rfl
  | jobFailed j message => rfl
  | sibling slot image => rfl
  | destroy => rfl

/-- The names of the readers that hold a card. -/
def namesWithCards (r : Registry) : List QString :=
  (r.readers.filter fun x => x.card.isSome).map AgentReader.name

/-- What a refresh notes of the registry it goes by: whether a card is detected, whether the agent
is installed, and the readers with cards. -/
def notesOf (h : PlasmoidHost) (u : SmartCardHandler) : Bool × Bool × List QString :=
  let r := u.client.registry
  if r.available then
    (if u.target h = none then computeCardDetected h.chars r u.boundReaderName else false,
      u.agentInstalled, namesWithCards r)
  else (false, decide (r.agentState ≠ .missing), namesWithCards r)

lemma refresh_notes : (u.refresh h).notes = notesOf h u := by
  have hregistry : ∀ c, ((u.updateReaderRosters h).bindCard c).client.registry =
      u.client.registry := by
    intro c
    rw [bindCard_toCardReads, CardReads.bindCard_registry]
    rfl
  have hnotes : ∀ c, ((u.updateReaderRosters h).bindCard c).notes =
      (u.cardDetected, u.agentInstalled, namesWithCards u.client.registry) := by
    intro c
    rw [bindCard_notes]
    rfl
  have hinstalled : ∀ c, ((u.updateReaderRosters h).bindCard c).agentInstalled = u.agentInstalled :=
    fun c => congrArg (fun n : Bool × Bool × List QString => n.2.1) (hnotes c)
  have hnames : ∀ c, ((u.updateReaderRosters h).bindCard c).readersWithCards =
      namesWithCards u.client.registry :=
    fun c => congrArg (fun n : Bool × Bool × List QString => n.2.2) (hnotes c)
  unfold SmartCardHandler.refresh notesOf
  dsimp only
  by_cases hav : u.client.registry.available = true
  · rw [if_neg (not_not.2 hav), if_pos hav]
    have hbound : ((u.updateReaderRosters h).bindCard none).boundReaderName = u.boundReaderName :=
      (SameRoster.bindCard _ none).bound
    split
    · next hpick =>
        -- No reader is picked: whether one detects a card is computed here, and only here.
        have htarget : u.target h = none := by
          rw [target, if_pos hav]
          exact congrArg (fun x : Option AgentReader => x.bind AgentReader.card) hpick
        simp only [notes, publishSignSurfaces, updatePinManagementAvailable, if_pos htarget,
          hregistry, hbound, hinstalled, hnames]
    · next x hpick =>
        have htarget : u.target h ≠ none := by
          rw [target, if_pos hav]
          obtain ⟨c, hc⟩ := Option.isSome_iff_exists.1 (pickActiveReader_spec hpick).2
          exact fun hnone => Option.some_ne_none c
            (hc.symm.trans (Option.bind_eq_none_iff.1 hnone x hpick))
        rw [if_neg htarget]
        show (classifyActiveCard h _).notes = _
        rw [classifyActiveCard_notes, bindCard_notes]
        rfl
  · rw [if_pos hav, if_neg hav]
    simp only [notes, publishSignSurfaces, updatePinManagementAvailable, hregistry, hnames]

/-! ## What the state says of the card -/

/-- The client library takes a card that is there for one. -/
def TakesCards (h : PlasmoidHost) : Prop :=
  ∀ capabilities auth read, h.resolveCardState capabilities auth true read ≠ .noCard

lemma fromUiState_ne_agentUnavailable (ui : UiState) :
    State.fromUiState ui ≠ .agentUnavailable := by
  cases ui <;> simp [State.fromUiState]

lemma fromUiState_eq_noCard {ui : UiState} : State.fromUiState ui = .noCard ↔ ui = .noCard := by
  cases ui <;> simp [State.fromUiState]

lemma classifyActiveCard_state_ne : (s.classifyActiveCard h).state ≠ .agentUnavailable := by
  rw [classifyActiveCard_state]
  cases s.boundCard with
  | none => simp
  | some card => exact fromUiState_ne_agentUnavailable _

/-- A card that is there is classified as one. -/
lemma classifyActiveCard_state_ne_noCard (hcards : TakesCards h) (hsome : s.boundCard ≠ none) :
    (s.classifyActiveCard h).state ≠ .noCard := by
  obtain ⟨card, hcard⟩ := Option.ne_none_iff_exists'.1 hsome
  rw [classifyActiveCard_state, hcard]
  show State.fromUiState (s.resolve h card) ≠ .noCard
  rw [Ne, fromUiState_eq_noCard, resolve]
  split_ifs
  · simp
  · exact hcards _ _ _

lemma boundCard_ne_none {c : CardRef} (hc : s.card = some c)
    (hlive : s.client.registry.live c = true) : s.boundCard ≠ none := by
  rw [boundCard, hc, Option.bind_some]
  exact Option.isSome_iff_ne_none.1 hlive

/-- A refresh that binds a card takes it for one. -/
lemma refresh_state_of_bound (hcards : TakesCards h) (htarget : u.target h ≠ none) :
    (u.refresh h).state ≠ .noCard ∧ (u.refresh h).state ≠ .agentUnavailable := by
  obtain ⟨s', hs', ⟨-, hnone, -⟩ | ⟨heq, -, -⟩⟩ := u.refresh_eq (h := h)
  · exact absurd hnone htarget
  · obtain ⟨c, hc⟩ := Option.ne_none_iff_exists'.1 htarget
    have hcard : s'.card = some c := by rw [hs'.reads, bindCard_card, hc]
    have hlive : s'.client.registry.live c = true := by
      rw [hs'.reads, bindCard_registry]
      exact live_of_target hc
    rw [heq]
    exact ⟨classifyActiveCard_state_ne_noCard hcards (boundCard_ne_none hcard hlive),
      classifyActiveCard_state_ne⟩

/-- What the state says of the card is so: it shows a card's surface exactly while one is bound. -/
structure Sincere (s : SmartCardHandler) (seen : Registry) : Prop where
  empty : s.card = none → s.state = if seen.available then .noCard else .agentUnavailable
  full : s.card ≠ none → s.state ≠ .noCard ∧ s.state ≠ .agentUnavailable

lemma sincere_refresh (hcards : TakesCards h) : Sincere (u.refresh h) u.client.registry where
  empty hnone := refresh_state_of_target_none (u.refresh_card.symm.trans hnone)
  full hsome := refresh_state_of_bound hcards fun hnone => hsome (u.refresh_card.trans hnone)

/-- A terminal leaves the state, says that a read failed, or has the card classified. -/
lemma onOperationFinished_state (t : Terminal) :
    (s.onOperationFinished h t).state = s.state ∨ (s.onOperationFinished h t).state = .error ∨
      ∃ v : SmartCardHandler, v.boundCard = s.boundCard ∧
        (s.onOperationFinished h t).state = (v.classifyActiveCard h).state := by
  unfold onOperationFinished
  dsimp only
  split
  · exact .inl rfl
  · split_ifs
    · refine .inr (.inr ⟨_, ?_, rfl⟩)
      rfl
    · exact .inr (.inl rfl)
    · refine .inr (.inr ⟨_, ?_, (rfl : (classifyActiveCard h _).state = _)⟩)
      rfl

lemma finished_state (i : ℕ) (t : Terminal) :
    (s.finished h i t).state = s.state ∨ (s.finished h i t).state = .error ∨
      ∃ v : SmartCardHandler, v.boundCard = s.boundCard ∧
        (s.finished h i t).state = (v.classifyActiveCard h).state := by
  unfold finished
  dsimp only
  split_ifs
  · exact onOperationFinished_state t
  · exact .inl rfl
  · exact .inl rfl

/-- **Every step of a living widget keeps it.** -/
lemma sincere_step {b : ℕ} (hcards : TakesCards h) (ho : Owned h b s.toCardReads)
    (hs : Sincere s seen) (hal : allows s e) :
    Sincere (step h s e) (noteSeen seen s e) := by
  unfold noteSeen
  cases hu : s.refreshes e with
  | some u =>
      rw [step_of_refreshes hu]
      exact sincere_refresh hcards
  | none =>
      have hcard := card_of_not_refreshes (h := h) ho hal hu
      refine ⟨fun hnone => ?_, fun hsome => ?_⟩
      · rw [hcard] at hnone
        have hop : s.identityOp = none := by
          cases hop : s.identityOp with
          | none => rfl
          | some i => exact absurd (hnone.symm.trans (ho.identityOwn i hop).2) (by simp)
        rw [state_of_unbound hu hnone hop]
        exact hs.empty hnone
      · rw [hcard] at hsome
        obtain ⟨c, hc⟩ := Option.ne_none_iff_exists'.1 hsome
        have hbound : s.boundCard ≠ none := boundCard_ne_none hc (ho.live c hc)
        -- A card the library takes for one is never classified as no card or no service.
        have hclassified : ∀ v : SmartCardHandler, v.boundCard = s.boundCard →
            (v.classifyActiveCard h).state ≠ .noCard ∧
              (v.classifyActiveCard h).state ≠ .agentUnavailable := fun v hv =>
          ⟨classifyActiveCard_state_ne_noCard hcards (hv.trans_ne hbound),
            classifyActiveCard_state_ne⟩
        by_cases he : e.mayClassify = true
        · cases e with
          | cardChanged c =>
              simp only [step, cardChanged]
              split_ifs
              · exact hclassified s rfl
              · exact hs.full hsome
          | finished i t =>
              show (s.finished h i t).state ≠ _ ∧ (s.finished h i t).state ≠ _
              rcases finished_state (h := h) (s := s) i t with heq | heq | ⟨v, hv, heq⟩
              · rw [heq]
                exact hs.full hsome
              · rw [heq]
                simp
              · rw [heq]
                exact hclassified v hv
          | _ => cases he
        · rw [state_of_not_classifies hu (by simpa using he)]
          exact hs.full hsome

/-! ## The invariant -/

/-- Card, name, state and flags are of one look at the registry. -/
structure Voices (h : PlasmoidHost) (s : SmartCardHandler) (seen : Registry) : Prop
    extends Displays h s seen where
  sincere : Sincere s seen
  detected : seen.available = true → s.card = none →
    s.cardDetected = computeCardDetected h.chars seen s.boundReaderName
  installed : seen.available = false → s.agentInstalled = decide (seen.agentState ≠ .missing)
  withCards : s.readersWithCards = namesWithCards seen

lemma voices_refresh (hcards : TakesCards h)
    (hd : Displays h (u.refresh h) u.client.registry) :
    Voices h (u.refresh h) u.client.registry := by
  have hnotes := refresh_notes (h := h) (u := u)
  have hbound : (u.refresh h).boundReaderName = u.boundReaderName :=
    (SameRoster.refresh : SameRoster (u.updateReaderRosters h) (u.refresh h)).bound
  refine ⟨hd, sincere_refresh hcards, fun hav hnone => ?_, fun hav => ?_, ?_⟩
  · have hdetected := congrArg (fun n : Bool × Bool × List QString => n.1) hnotes
    rw [u.refresh_card] at hnone
    simpa [notesOf, hav, hnone, notes, hbound] using hdetected
  · have hinstalled := congrArg (fun n : Bool × Bool × List QString => n.2.1) hnotes
    simpa [notesOf, hav, notes] using hinstalled
  · have hnames := congrArg (fun n : Bool × Bool × List QString => n.2.2) hnotes
    by_cases hav : u.client.registry.available = true <;>
      simpa [notesOf, hav, notes] using hnames

/-- **Every step keeps them together.** -/
lemma voices_step (hcards : TakesCards h) (hv : Voices h s seen) (hal : allows s e) :
    Voices h (step h s e) (noteSeen seen s e) := by
  have hd := displays_step (h := h) hv.toDisplays hal
  obtain ⟨b, ho | ⟨hgone, -⟩⟩ := hv.kept
  · have hsincere := sincere_step hcards ho hv.sincere hal
    unfold noteSeen at hd hsincere ⊢
    cases hu : s.refreshes e with
    | some u =>
        rw [hu] at hd
        rw [step_of_refreshes hu] at hd ⊢
        exact voices_refresh hcards hd
    | none =>
        rw [hu] at hd hsincere
        have hnotes := notes_of_not_refreshes (h := h) hu
        have hbound := (sameRoster_of_not_refreshes (h := h) hu).bound
        refine ⟨hd, hsincere, fun hav hnone => ?_, fun hav => ?_, ?_⟩
        · rw [card_of_not_refreshes ho hal hu] at hnone
          rw [hbound]
          exact (congrArg (fun n : Bool × Bool × List QString => n.1) hnotes).trans
            (hv.detected hav hnone)
        · exact (congrArg (fun n : Bool × Bool × List QString => n.2.1) hnotes).trans
            (hv.installed hav)
        · exact (congrArg (fun n : Bool × Bool × List QString => n.2.2) hnotes).trans hv.withCards
  · obtain ⟨slot, image, rfl⟩ := eq_sibling_of_destroyed hgone hal
    exact ⟨hd, ⟨hv.sincere.empty, hv.sincere.full⟩, hv.detected, hv.installed, hv.withCards⟩

lemma voices_start (hcards : TakesCards h) (hs : Start h s) : Voices h s s.client.registry := by
  have hd := displays_start hs
  obtain ⟨client, photoStore, photoSlot, -, -, rfl⟩ := hs
  have hregistry : (construct h client photoStore photoSlot).client.registry = client.registry :=
    refresh_registry _
  rw [hregistry] at hd ⊢
  exact voices_refresh hcards (u := { client, photoStore, photoSlot }) hd

lemma voices_kept (hcards : TakesCards h) :
    (seenMachine h).Kept fun x => Voices h x.1 x.2 :=
  fun _ _ hv hal => voices_step hcards hv hal

/-! ## What is told -/

/-- The bound reader counts as present when there is one to look at. -/
lemma present_iff_candidates {t : CharClasses} {bound : QString} {readers : List AgentReader}
    (hbound : bound ≠ []) :
    computeBoundReaderPresent t bound (readers.map AgentReader.name) = true ↔
      candidates t bound readers ≠ [] := by
  rw [candidates, if_neg hbound, computeBoundReaderPresent_iff hbound]
  constructor
  · intro hpresent hnone
    have hunclaimed : ∀ x, x ∉ claimed t bound readers := by simp [hnone]
    have hother : ∀ y ∈ readers, y.name ≠ bound := fun y hy hname =>
      hunclaimed y (mem_claimed.2 ⟨hy, .inl hname⟩)
    rcases hpresent with ⟨x, hx, hname⟩ | ⟨x, hx, hunit⟩
    · exact hother x hx hname
    · exact hunclaimed x (mem_claimed.2 ⟨hx, .inr ⟨hother, hunit⟩⟩)
  · intro hsome
    obtain ⟨x, hx⟩ := List.exists_mem_of_ne_nil _ hsome
    obtain ⟨hmem, hname | ⟨-, hunit⟩⟩ := mem_claimed.1 hx
    · exact .inl ⟨x, hmem, hname⟩
    · exact .inr ⟨x, hmem, hunit⟩

/-- A reader behind an empty twin is looked at. -/
lemma any_of_emptyTwinFirst {t : CharClasses} {bound : QString} {readers : List AgentReader}
    (htwin : EmptyTwinFirst bound readers) :
    (candidates t bound readers).any AgentReader.hasCard = true := by
  obtain ⟨-, -, -, -, y, hy, hname, hhas⟩ := htwin
  exact List.any_eq_true.2 ⟨y, mem_candidates.2 ⟨hy, .inr (.inl hname)⟩, hhas⟩

/-- What is promised of the popup. -/
structure TellsRoster (h : PlasmoidHost) (x : SmartCardHandler × Registry) : Prop where
  /-- It is empty exactly where no card is shown. -/
  empty : x.1.emptyText.isSome = true ↔ x.1.card = none
  /-- Then none of the readers it looks at resolves one. -/
  unresolved : x.1.card = none → x.2.available = true →
    ∀ y ∈ candidates h.chars x.1.boundReaderName x.2.readers, y.card = none
  /-- It says what there is to say, but for a twin that comes first. -/
  tells : x.1.card = none → (x.1.emptyText = some (told h.chars x.1.boundReaderName x.2) ↔
    (x.2.available = true → ¬ EmptyTwinFirst x.1.boundReaderName x.2.readers))

namespace Voices

lemma emptyText_isSome (hv : Voices h s seen) : s.emptyText.isSome = true ↔ s.card = none := by
  constructor
  · intro hsome
    by_contra hcard
    obtain ⟨hno, hun⟩ := hv.sincere.full hcard
    rw [emptyText] at hsome
    split at hsome <;> simp_all
  · intro hcard
    rw [emptyText, hv.sincere.empty hcard]
    cases seen.available <;> rfl

lemma unresolved (hv : Voices h s seen) (hcard : s.card = none) (hav : seen.available = true) :
    ∀ y ∈ candidates h.chars s.boundReaderName seen.readers, y.card = none := by
  have hpick := hv.card
  rw [hcard, if_pos hav] at hpick
  cases hx : pickActiveReader h.chars seen s.boundReaderName s.selectedReaderName with
  | none => exact pickActiveReader_eq_none.1 hx
  | some x =>
      obtain ⟨c, hc⟩ := Option.isSome_iff_exists.1 (pickActiveReader_spec hx).2
      rw [hx, Option.bind_some, hc] at hpick
      cases hpick

lemma tells (hv : Voices h s seen) (hcard : s.card = none) :
    s.emptyText = some (told h.chars s.boundReaderName seen) ↔
      (seen.available = true → ¬ EmptyTwinFirst s.boundReaderName seen.readers) := by
  have hstate := hv.sincere.empty hcard
  cases hav : seen.available with
  | false =>
      rw [hav] at hstate
      rw [emptyText, hstate, told]
      simp [hav, hv.installed hav]
  | true =>
      rw [hav] at hstate
      have hdetected := hv.detected hav hcard
      have hcompute : computeCardDetected h.chars seen s.boundReaderName = true ↔ _ :=
        computeCardDetected_iff
      rw [← hdetected, ← List.any_eq_true] at hcompute
      rw [emptyText, hstate, told]
      simp only [hav, if_true, forall_const, Bool.true_eq_false, if_false]
      by_cases htwin : EmptyTwinFirst s.boundReaderName seen.readers
      · -- The card is there, but the popup asks for one.
        have hany := any_of_emptyTwinFirst (t := h.chars) htwin
        have hsilent : s.cardDetected = false := by simpa [htwin] using hcompute
        rw [hany, hsilent, if_pos htwin.1]
        by_cases hpresent : s.boundReaderPresent = true <;> simp [htwin, hpresent]
      · have hagrees : s.cardDetected =
            (candidates h.chars s.boundReaderName seen.readers).any AgentReader.hasCard := by
          rw [Bool.eq_iff_iff, hcompute]
          simp [htwin]
        rw [hagrees]
        by_cases hbound : s.boundReaderName = []
        · exact iff_of_true (by simp [hbound]) htwin
        · have hpresent : computeBoundReaderPresent h.chars s.boundReaderName
              (seen.readers.map AgentReader.name) = true ↔ _ := present_iff_candidates hbound
          rw [← hv.present] at hpresent
          -- Bound to a reader, the popup asks for it, or for a card in it, by what the roster has.
          by_cases hnone : candidates h.chars s.boundReaderName seen.readers = []
          · have habsent : s.boundReaderPresent = false := by simpa [hnone] using hpresent
            simp [htwin, hbound, hnone, habsent]
          · have hthere : s.boundReaderPresent = true := hpresent.2 hnone
            simp [htwin, hbound, hnone, hthere]

lemma tellsRoster (hv : Voices h s seen) : TellsRoster h (s, seen) where
  empty := hv.emptyText_isSome
  unresolved := hv.unresolved
  tells := hv.tells

end Voices

/-! ## Runs -/

/-- **An empty popup tells what the widget last saw.**  Over a library that takes a card for one,
the popup is empty exactly while no card is shown; no reader it looks at resolves a card then, and
it says what the readers it looks at come to, unless the bound name is carried by an empty reader
first. -/
theorem empty_popup_told (h : PlasmoidHost) (hcards : TakesCards h) {s : SmartCardHandler}
    {es : List Event} (hs : Start h s) (ha : (machine h).Admits s es) :
    (seenMachine h).Always (TellsRoster h) (s, s.client.registry) es :=
  ((voices_kept hcards).always (voices_start hcards hs) (Machine.admits_watch.2 ha)).mono
    fun _ hv => hv.tellsRoster

/-- The widget is bound to a reader that is there, and pulled. -/
def pulledReader : List Event :=
  [.setBoundReaderName (qs "Reader 00 00"), .registryChanged freshTwin, .registryChanged .blank]

lemma takesCards_plain : TakesCards .plain := by
  intro capabilities auth read
  rcases capabilities with ⟨pki, identityData, emrtdCrypto, pinManagement⟩
  cases pki <;> cases identityData <;> simp [PlasmoidHost.plain]

theorem empty_popup_told_pulled :
    (seenMachine .plain).Always (TellsRoster .plain) (widget, widget.client.registry)
      pulledReader :=
  empty_popup_told .plain takesCards_plain start_widget (by decide)

/-- A reader plugged in anew behind its stale twin: the popup asks for the card that is in it. -/
example :
    ((machine .plain).exec widget [.setBoundReaderName (qs "Reader 00 00"),
      .registryChanged staleTwin]).emptyText = some (.insertInto (qs "Reader 00 00")) ∧
    told .plain (qs "Reader 00 00") staleTwin = .detecting := by
  decide

end LibreKDE.Plasmoid
