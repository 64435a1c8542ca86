import LibreKDE.Plasmoid.FreeReads

/-!
# The prompt the holder dismissed

A dismissed identity read sends the card back to where the read started.  Where the read
started by itself, that is a free read: an open view classifies the card, finds that it was not
read, and reads it again.  `noteDismissed` keeps whether a read was dismissed and nothing has
happened since that would justify another one; `reissues` says exactly which steps issue one
all the same.
-/

namespace LibreKDE.Plasmoid

open Reactive CardReads SmartCardHandler

variable {h : PlasmoidHost}

/-- The user acts, or something happens to the card or the registry. -/
def Event.renews : Event → Bool
  | .readIdentity | .selectReader _ | .setBoundReaderName _ | .registry _ | .registryChanged _
  | .refresh | .cardChanged _ => true
  | .setViewActive active => active
  | .ensureFreeRead | .openInFiles | .startAgent | .agentStartFinished _ | .finished _ _
  | .phaseChanged _ _ | .signFile _ | .dismissSignResult | .jobChooses _ _
  | .jobPhaseChanged _ _ | .jobSucceeded _ _ _ | .jobFailed _ _ | .sibling _ _ | .destroy => false

/-- An identity read ends, dismissed by the holder. -/
def dismisses (s : SmartCardHandler) : Event → Bool
  | .finished i t =>
      decide (s.client.Pending i) && decide ((s.client.ops i).request = .readIdentity) &&
        isDismissed t
  | _ => false

/-- A read was dismissed, and nothing has renewed the wish for one. -/
def noteDismissed (dismissed : Bool) (s : SmartCardHandler) (e : Event) : Bool :=
  !e.renews && (dismissed || dismisses s e)

/-- The handler, and whether its last read is a dismissed one. -/
def dismissalMachine (h : PlasmoidHost) : Machine (SmartCardHandler × Bool) Event :=
  (machine h).watch false noteDismissed

instance (x : SmartCardHandler × Bool) (e : Event) : Decidable ((dismissalMachine h).allows x e) :=
  inferInstanceAs (Decidable (allows x.1 e))

/-- The step from `s` to `s'` issues an identity read. -/
def Prompts (s s' : SmartCardHandler) : Prop :=
  ∃ i, s.client.minted ≤ i ∧ i < s'.client.minted ∧ (s'.client.ops i).request = .readIdentity

/-- After a dismissal, and in the step that takes note of it, no identity read is issued. -/
def LeavesAlone (h : PlasmoidHost) (x : SmartCardHandler × Bool) (e : Event) : Prop :=
  noteDismissed x.2 x.1 e = true → ¬ Prompts x.1 (step h x.1 e)

/-- The step issues a free read although the last one was dismissed: the terminal itself does so
in an open view, and a call of the free read or the agent's start may do so later. -/
def reissues (h : PlasmoidHost) (x : SmartCardHandler × Bool) : Event → Bool
  | .finished i t =>
      dismisses x.1 (.finished i t) &&
        x.1.card.any fun c => x.1.viewActive && !x.1.identityRead &&
          (x.1.client.registry.cards c).any (readsFreely h)
  | .ensureFreeRead => x.2 && x.1.freeReadDue
  | .agentStartFinished _ => x.2 && x.1.agentStarting && (x.1.refreshReads h).isSome
  | _ => false

/-! ## What a step issues -/

section Step

variable {s s' : SmartCardHandler} {base : CardReads} {b : ℕ} {c : CardRef} {e : Event}

lemma not_prompts_of_minted (hn : s'.client.minted = s.client.minted) : ¬ Prompts s s' := by
  rintro ⟨i, hi, hlt, -⟩
  omega

lemma not_prompts_of_eq (heq : s'.toCardReads = base)
    (hn : base.client.minted = s.client.minted) : ¬ Prompts s s' :=
  not_prompts_of_minted (by rw [heq, hn])

lemma prompts_of_mintIdentity (heq : s'.toCardReads = base.mintIdentity c)
    (hn : base.client.minted = s.client.minted) : Prompts s s' := by
  refine ⟨base.client.minted, hn.ge, ?_, ?_⟩
  · rw [heq]
    exact Nat.lt_succ_self _
  · rw [heq]
    simp [CardReads.mintIdentity]

/-- Classifying issues the read it is due. -/
lemma prompts_classified {v : SmartCardHandler} (hn : v.client.minted = s.client.minted)
    (hc : Classified h v s') : Prompts s s' ↔ (v.classifyReads h).isSome = true := by
  cases hc with
  | unread hnone heq _ => simp [hnone, not_prompts_of_eq heq hn]
  | reads c hsome heq _ => simp [hsome, prompts_of_mintIdentity heq hn]

lemma prompts_refresh {v : SmartCardHandler} (hn : v.client.minted = s.client.minted) :
    Prompts s (v.refresh h) ↔ (v.refreshReads h).isSome = true := by
  have hbind : ∀ c, (v.toCardReads.bindCard c).client.minted = s.client.minted := fun c => by
    rw [bindCard_minted, hn]
  cases v.refreshOutcome (h := h) with
  | unbound ht heq _ =>
      have hnone : v.refreshReads h = none := by simp [refreshReads, ht]
      simp [hnone, not_prompts_of_eq heq (hbind none)]
  | unread c _ hnone heq _ => simp [hnone, not_prompts_of_eq heq (hbind (some c))]
  | reads c _ hsome heq _ => simp [hsome, prompts_of_mintIdentity heq (hbind (some c))]

lemma prompts_ensureFreeRead : Prompts s s.ensureFreeRead ↔ s.freeReadDue = true := by
  cases hdue : s.freeReadDue with
  | false =>
      rw [ensureFreeRead_of_not_due hdue]
      simp [not_prompts_of_minted]
  | true =>
      obtain ⟨c, -, hmint, -⟩ := ensureFreeRead_reads hdue
      simp [prompts_of_mintIdentity hmint rfl]

/-- A photo read is no identity read. -/
lemma not_prompts_startPhotoRead (hn : base.client.minted = s.client.minted)
    (heq : s'.toCardReads = base.startPhotoRead) : ¬ Prompts s s' := by
  rcases base.startPhotoRead_cases with hsame | ⟨c, -, -, hmint⟩
  · exact not_prompts_of_eq (heq.trans hsame) hn
  · rintro ⟨i, hi, hlt, hreq⟩
    rw [heq, hmint] at hlt hreq
    have hlt' : i < base.client.minted + 1 := hlt
    obtain rfl : i = base.client.minted := by omega
    simp [CardReads.mintPhoto] at hreq

/-- The terminal of an identity read issues another one exactly where it was dismissed and the
open view reads the card freely. -/
lemma prompts_identityEnded {i : ℕ} {t : Terminal} (hw : Wired s.toCardReads)
    (hop : s.identityOp = some i) :
    Prompts s (s.finished h i t) ↔
      isDismissed t = true ∧ (s.card.any fun c => s.viewActive && !s.identityRead &&
        (s.client.registry.cards c).any (readsFreely h)) = true := by
  cases identityEnded_spec (h := h) hw hop t with
  | dismissed hdismissed hc =>
      have hn : (s.identityDismissed i t).client.minted = s.client.minted := rfl
      have hreads : ((s.identityDismissed i t).classifyReads h).isSome = s.card.any fun c =>
          s.viewActive && !s.identityRead && (s.client.registry.cards c).any (readsFreely h) := by
        cases hcard : s.card <;>
          simp [classifyReads, identityDismissed, identityEnded, identityEnds, hcard, reaped]
      rw [prompts_classified hn hc, hreads]
      simp [hdismissed]
  | failed hdismissed _ heq _ =>
      simp [hdismissed, not_prompts_of_eq heq (show _ = s.client.minted from rfl)]
  | answered s₁ hok hs₁ heq _ =>
      have hdismissed : isDismissed t = false := by simp [isDismissed, hok]
      have hn : s₁.client.minted = s.client.minted := by rw [hs₁]; rfl
      simp [hdismissed, not_prompts_startPhotoRead hn heq]

lemma not_prompts_photoFinished {i : ℕ} {t : Terminal} (hop : s.photoOp = some i)
    (heq : s'.toCardReads =
      CardReads.onPhotoFinished h { s.toCardReads with client := s.client.finish i t } t) :
    ¬ Prompts s s' := by
  apply not_prompts_of_minted
  rw [heq, (onPhotoFinished_frame hop t).1]
  rfl

/-- A terminal issues another read exactly where `reissues` says so, dismissed before or not. -/
lemma prompts_finished {i : ℕ} {t : Terminal} {dismissed : Bool} (hw : Wired s.toCardReads)
    (hal : Event.guard s (.finished i t)) :
    Prompts s (s.finished h i t) ↔ reissues h (s, dismissed) (.finished i t) = true := by
  rcases s.finished_cases (h := h) hw hal with ⟨hop, -⟩ | ⟨hop, heq⟩
  · obtain ⟨hp, hreq⟩ := hw.identity i hop
    rw [prompts_identityEnded hw hop]
    simp [reissues, dismisses, hp, hreq]
  · have hreq := (hw.photo i hop).2
    have hquiet := not_prompts_photoFinished hop (congrArg SmartCardHandler.toCardReads heq)
    simp [reissues, dismisses, hreq, hquiet]

/-- So does the agent's start, where a read was dismissed. -/
lemma prompts_agentStartFinished (result : AgentStartResult) :
    Prompts s (s.onAgentStartFinished h result) ↔
      reissues h (s, true) (.agentStartFinished result) = true := by
  cases hstarting : s.agentStarting with
  | false =>
      have heq : s.onAgentStartFinished h result = s := by simp [onAgentStartFinished, hstarting]
      rw [heq]
      simp [reissues, hstarting, not_prompts_of_minted]
  | true =>
      have heq : s.onAgentStartFinished h result =
          refresh h { s with agentStarting := false, agentStartFailed := result = .failed } := by
        simp [onAgentStartFinished, hstarting]
      have hpr : ∀ v : SmartCardHandler, v.client.minted = s.client.minted →
          v.refreshReads h = s.refreshReads h →
          (Prompts s (v.refresh h) ↔ (s.refreshReads h).isSome = true) :=
        fun v hn hreads => by rw [prompts_refresh hn, hreads]
      rw [heq, hpr]
      · simp [reissues, hstarting]
      · rfl
      · rfl

/-- **After a dismissal a step issues a read exactly where `reissues` says so.** -/
lemma prompts_iff {dismissed : Bool} (hw : Wired s.toCardReads) (hal : allows s e)
    (hd : noteDismissed dismissed s e = true) :
    Prompts s (step h s e) ↔ reissues h (s, dismissed) e = true := by
  -- The members that mint nothing are all one case: no prompt, and none reissued.
  have hquiet : Beside s (step h s e) → reissues h (s, dismissed) e = false →
      (Prompts s (step h s e) ↔ reissues h (s, dismissed) e = true) := by
    intro hb hnone
    simp [hnone, not_prompts_of_eq hb.reads]
  cases e with
  | registry r | registryChanged r | refresh | cardChanged c | setBoundReaderName name
  | selectReader name | readIdentity => simp [noteDismissed, Event.renews] at hd
  | setViewActive active =>
      cases active with
      | true => simp [noteDismissed, Event.renews] at hd
      | false => exact hquiet (.closeView s) rfl
  -- Calling ensureFreeRead() again is what reissues a dismissed prompt: the view does so on each
  -- open.
  | ensureFreeRead =>
      have hdismissed : dismissed = true := by
        simpa [noteDismissed, Event.renews, dismisses] using hd
      show Prompts s s.ensureFreeRead ↔ _
      rw [prompts_ensureFreeRead, hdismissed]
      simp [reissues]
  | agentStartFinished result =>
      have hdismissed : dismissed = true := by
        simpa [noteDismissed, Event.renews, dismisses] using hd
      rw [hdismissed]
      exact prompts_agentStartFinished result
  | finished i t => exact prompts_finished hw hal.2
  | openInFiles =>
      have hquiet' : ¬ Prompts s (step h s .openInFiles) := by
        show ¬ Prompts s s.openInFiles
        rcases s.openInFiles_cases with heq | ⟨c, -, -, heq⟩
        · exact not_prompts_of_minted (by rw [heq])
        · exact not_prompts_of_minted (by rw [heq])
      simpa [reissues] using hquiet'
  | startAgent => exact hquiet (.startAgent s) rfl
  | phaseChanged i phase => exact hquiet (.phaseChanged s i phase) rfl
  | signFile url => exact hquiet (.signFile s url) rfl
  | dismissSignResult => exact hquiet (.dismissSignResult s) rfl
  | jobChooses j cands => exact hquiet (.pickFirstCert s j cands) rfl
  | jobPhaseChanged j phase => exact hquiet (.onPhaseChanged s j phase) rfl
  | jobSucceeded j path level => exact hquiet (.onSucceeded s j path level) rfl
  | jobFailed j message => exact hquiet (.onFailed s j message) rfl
  | sibling slot image =>
      have hquiet' : ¬ Prompts s (step h s (.sibling slot image)) := not_prompts_of_minted rfl
      simpa [reissues] using hquiet'
  | destroy =>
      have hquiet' : ¬ Prompts s (step h s .destroy) := not_prompts_of_minted rfl
      simpa [reissues] using hquiet'

/-- Where nothing was dismissed there is nothing to reissue. -/
lemma reissues_of_not_dismissed {dismissed : Bool} (hd : noteDismissed dismissed s e = false) :
    reissues h (s, dismissed) e = false := by
  cases e with
  | finished i t =>
      have hnot : dismisses s (.finished i t) = false := by
        simp only [noteDismissed, Event.renews, Bool.not_false, Bool.true_and,
          Bool.or_eq_false_iff] at hd
        exact hd.2
      simp [reissues, hnot]
  | ensureFreeRead =>
      have hdismissed : dismissed = false := by
        simpa [noteDismissed, Event.renews, dismisses] using hd
      simp [reissues, hdismissed]
  | agentStartFinished result =>
      have hdismissed : dismissed = false := by
        simpa [noteDismissed, Event.renews, dismisses] using hd
      simp [reissues, hdismissed]
  | _ => rfl

lemma leavesAlone_iff {x : SmartCardHandler × Bool} (hk : Kept h b x.1) (hal : allows x.1 e) :
    LeavesAlone h x e ↔ reissues h x e = false := by
  obtain ⟨s, dismissed⟩ := x
  unfold LeavesAlone
  cases hd : noteDismissed dismissed s e with
  | false => simp [reissues_of_not_dismissed hd]
  | true =>
      rcases hk with ho | ⟨hgone, -⟩
      · rw [prompts_iff ho.toWired hal hd]
        simp
      -- A destroyed handler hears nothing; only the shared store still changes under it.
      · obtain ⟨slot, image, rfl⟩ := eq_sibling_of_destroyed hgone hal
        have hquiet : ¬ Prompts s (step h s (.sibling slot image)) := not_prompts_of_minted rfl
        simp [hquiet, reissues]

end Step

/-- **A dismissed read is left alone** in exactly the runs that take no reissuing step.  Which steps
those are is said of the state before them: the dismissal itself in an open view, and later calls of
the free read while the card would still be read freely. -/
theorem dismissal_respected_iff (h : PlasmoidHost) {s : SmartCardHandler} {es : List Event}
    (hs : Start h s) (ha : (machine h).Admits s es) :
    (dismissalMachine h).EachStep (LeavesAlone h) (s, false) es ↔
      (dismissalMachine h).EachStep (fun x e => reissues h x e = false) (s, false) es := by
  have hkept : (dismissalMachine h).Kept fun x => ∃ b, Kept h b x.1 :=
    fun _ _ ⟨_, hk⟩ hal => ⟨_, kept_step hk hal⟩
  have hadmits : (dismissalMachine h).Admits (s, false) es := Machine.admits_watch.2 ha
  exact hkept.eachStep_iff ⟨0, .inl hs.owned.1⟩ hadmits
    fun _ _ ⟨_, hk⟩ hal => leavesAlone_iff hk hal

/-- A card that takes no secret is read in an open view, and the holder dismisses the prompt. -/
def dismissedInView : List Event :=
  [.setViewActive true, .finished 0 { status := .cancelled }]

/-- The user asks for a read in a closed view and dismisses the prompt. -/
def dismissedUnseen : List Event := [.readIdentity, .finished 0 { status := .cancelled }]

theorem dismissal_respected_iff_unseen :
    (dismissalMachine .plain).EachStep (LeavesAlone .plain) (widget, false) dismissedUnseen ↔
      (dismissalMachine .plain).EachStep (fun x e => reissues .plain x e = false) (widget, false)
        dismissedUnseen :=
  dismissal_respected_iff .plain start_widget (by decide)

theorem dismissal_ignored :
    ∃ s es, Start .plain s ∧ (machine .plain).Admits s es ∧
      ¬ (dismissalMachine .plain).EachStep (LeavesAlone .plain) (s, false) es := by
  refine ⟨widget, dismissedInView, start_widget, by decide, fun hall => ?_⟩
  exact hall.2.1 (by decide) ⟨1, by decide, by decide, by decide⟩

end LibreKDE.Plasmoid
