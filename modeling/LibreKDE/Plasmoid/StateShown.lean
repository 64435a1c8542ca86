import LibreKDE.Plasmoid.ReaderShown

/-!
# The state a widget shows

The popup picks its view, its buttons and what they do by the widget's state.  A card bound anew
shows the state its record alone gives it (`refresh_state`), whatever the card before it had been
read to; and between two refreshes the state moves only where the card's record changes or its read
ends (`verdict_of_not_classifies`), and not at all without a card (`state_of_unbound`).
-/

namespace LibreKDE.Plasmoid

open Reactive CardReads SmartCardHandler

variable {h : PlasmoidHost} {s u v : SmartCardHandler} {e : Event}

/-! ## The state after a refresh -/

/-- The state of a card nobody has read since it was bound. -/
def freshState (h : PlasmoidHost) (r : Registry) (c : CardRef) : State :=
  match r.cards c with
  | none => .noCard
  | some card =>
      if preReadUnlockRequired card.preReadAuth then .preAuthRequired
      else .fromUiState (h.resolveCardState card.capabilities .none true false)

/-- What classifying the card decides. -/
def SmartCardHandler.verdict (s : SmartCardHandler) : State × Bool :=
  (s.state, s.pinManagementAvailable)

lemma readIdentity_verdict : s.readIdentity.verdict = s.verdict := by
  rcases s.readIdentity_cases with heq | ⟨c, -, -, heq⟩ <;> simp only [heq, verdict]

lemma ensureFreeRead_verdict : s.ensureFreeRead.verdict = s.verdict := by
  rcases s.ensureFreeRead_cases with heq | ⟨c, -, -, heq⟩ <;> simp only [heq, verdict]

lemma ensureFreeRead_state : s.ensureFreeRead.state = s.state :=
  congrArg Prod.fst ensureFreeRead_verdict

/-- Classifying shows what the record resolves to. -/
lemma classifyActiveCard_state :
    (s.classifyActiveCard h).state =
      match s.boundCard with
      | none => .noCard
      | some card => .fromUiState (s.resolve h card) := by
  unfold classifyActiveCard
  cases hc : s.boundCard with
  | none =>
      have hc' : s.updatePinManagementAvailable.boundCard = none := hc
      simp only [hc']
  | some card =>
      have hc' : s.updatePinManagementAvailable.boundCard = some card := hc
      simp only [hc']
      split_ifs
      · rw [ensureFreeRead_state]
        rfl
      · rfl

/-- An unread card shows the state its record gives it. -/
lemma classifyActiveCard_state_of_unread {c : CardRef} (hc : s.card = some c)
    (hunread : s.identityRead = false) :
    (s.classifyActiveCard h).state = freshState h s.client.registry c := by
  have hrecord : s.boundCard = s.client.registry.cards c := by
    rw [boundCard, hc, Option.bind_some]
  rw [classifyActiveCard_state, freshState, hrecord]
  cases s.client.registry.cards c with
  | none => rfl
  | some card =>
      show State.fromUiState (s.resolve h card) = if preReadUnlockRequired card.preReadAuth then _
        else _
      rw [resolve, hunread]
      by_cases hunlock : preReadUnlockRequired card.preReadAuth = true
      · rw [if_pos ⟨hunlock, Bool.false_ne_true⟩, if_pos hunlock]
        rfl
      · rw [if_neg (fun hboth => hunlock hboth.1), if_neg hunlock]

/-- Without a card to bind a refresh says so, and whether there is an agent. -/
lemma refresh_verdict_of_target_none (htarget : u.target h = none) :
    (u.refresh h).verdict =
      (if u.client.registry.available then .noCard else .agentUnavailable, false) := by
  have hunbound : ((u.updateReaderRosters h).bindCard none).boundCard = none := by
    rw [boundCard, bindCard_toCardReads, bindCard_card]
    rfl
  unfold SmartCardHandler.refresh
  by_cases hav : u.client.registry.available = true
  · rw [if_neg (not_not.2 hav), if_pos hav]
    dsimp only
    split
    · simp only [verdict, publishSignSurfaces, updatePinManagementAvailable, hunbound]
      rfl
    · next x hpick =>
        exfalso
        obtain ⟨c, hc⟩ := Option.isSome_iff_exists.1 (pickActiveReader_spec hpick).2
        rw [target, if_pos hav] at htarget
        exact Option.some_ne_none c (hc.symm.trans (Option.bind_eq_none_iff.1 htarget x hpick))
  · rw [if_pos hav, if_neg hav]
    simp only [verdict, publishSignSurfaces, updatePinManagementAvailable, hunbound]
    rfl

lemma refresh_state_of_target_none (htarget : u.target h = none) :
    (u.refresh h).state =
      if u.client.registry.available then .noCard else .agentUnavailable :=
  congrArg Prod.fst (refresh_verdict_of_target_none htarget)

/-- **A card bound anew shows the state of its record.** -/
lemma refresh_state {c : CardRef} (htarget : u.target h = some c) (hother : u.card ≠ some c) :
    (u.refresh h).state = freshState h u.client.registry c := by
  obtain ⟨s', hs', ⟨-, hnone, -⟩ | ⟨heq, -, -⟩⟩ := u.refresh_eq (h := h)
  · rw [htarget] at hnone
    cases hnone
  · have hreads : s'.toCardReads = u.toCardReads.rebind (some c) := by
      rw [hs'.reads, htarget, CardReads.bindCard, if_neg fun hsame => hother hsame.2]
    have hcard : s'.card = some c := by rw [hreads, CardReads.rebind_eq]
    have hunread : s'.identityRead = false := by rw [hreads, CardReads.rebind_eq]
    have hregistry : s'.client.registry = u.client.registry := by
      rw [hreads, CardReads.rebind_eq]
      simp
    rw [heq, ← hregistry]
    exact classifyActiveCard_state_of_unread hcard hunread

/-! ## The state between refreshes -/

/-- The events besides a refresh that may classify the card. -/
def Event.mayClassify : Event → Bool
  | .cardChanged _ | .finished .. => true
  | _ => false

/-- The others decide nothing. -/
lemma verdict_of_not_classifies (hn : s.refreshes e = none) (he : e.mayClassify = false) :
    (step h s e).verdict = s.verdict := by
  cases e with
  | registry r => rfl
  | registryChanged r => cases hn
  | refresh => cases hn
  | cardChanged c => cases he
  | setBoundReaderName name =>
      simp only [refreshes, ite_eq_left_iff, reduceCtorEq, imp_false, not_not] at hn
      simp [step, setBoundReaderName, hn]
  | selectReader friendlyName =>
      simp only [refreshes, ite_eq_left_iff, reduceCtorEq, imp_false, not_not] at hn
      rcases hn with hbound | hsame
      · simp [step, selectReader, hbound]
      · simp [step, selectReader, hsame]
  | setViewActive active =>
      simp only [step, setViewActive]
      split_ifs
      · rfl
      · rw [ensureFreeRead_verdict]
        rfl
      · rfl
  | readIdentity => exact readIdentity_verdict
  | ensureFreeRead => exact ensureFreeRead_verdict
  | openInFiles =>
      simp only [step]
      rcases s.openInFiles_cases with heq | ⟨c, -, -, heq⟩ <;> simp only [heq, verdict]
  | startAgent =>
      simp only [step, SmartCardHandler.startAgent]
      split_ifs <;> rfl
  | agentStartFinished result =>
      simp only [refreshes, ite_eq_right_iff, reduceCtorEq, imp_false, Bool.not_eq_true] at hn
      simp [step, onAgentStartFinished, hn]
  | finished i t => cases he
  | phaseChanged i phase =>
      simp only [step, phaseChanged]
      split_ifs <;> rfl
  | signFile fileUrl =>
      simp only [step, signFile]
      split_ifs
      · rfl
      · split <;> rfl
  | dismissSignResult =>
      simp only [step, dismissSignResult]
      split
      · rfl
      · split_ifs <;> rfl
  | jobChooses j cands =>
      simp only [step, pickFirstCert]
      split <;> rfl
  | jobPhaseChanged j phase =>
      simp only [step, SmartCardHandler.onPhaseChanged]
      split <;> rfl
  | jobSucceeded j outputPath level => rfl
  | jobFailed j message => rfl
  | sibling slot image => rfl
  | destroy => rfl

lemma state_of_not_classifies (hn : s.refreshes e = none) (he : e.mayClassify = false) :
    (step h s e).state = s.state :=
  congrArg Prod.fst (verdict_of_not_classifies hn he)

/-- With no card bound nothing but a refresh changes the state. -/
lemma state_of_unbound (hn : s.refreshes e = none) (hc : s.card = none)
    (hop : s.identityOp = none) :
    (step h s e).state = s.state := by
  by_cases he : e.mayClassify = true
  · cases e with
    | cardChanged c =>
        show (s.cardChanged h c).state = s.state
        rw [cardChanged, if_neg (by rw [hc]; simp)]
    | finished i t =>
        show (s.finished h i t).state = s.state
        simp only [finished, onOperationFinished, hop]
        split_ifs <;> rfl
    | _ => cases he
  · exact state_of_not_classifies hn (by simpa using he)

end LibreKDE.Plasmoid
