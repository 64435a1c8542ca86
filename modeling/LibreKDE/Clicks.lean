import LibreKDE.Handover
import LibreKDE.Plasmoid.Custody
import LibreKDE.Plasmoid.PhotoSave

/-!
# What a popup offers

The views of the popup show a button where their bindings, over the state, the flags and the rosters
of the widget, say that there is something to press it for.  The methods behind the buttons ask
again, and return without a word where they find no card, a read in flight, or a job running.

In every state of a run the two agree (`clicks_meant`): what is offered is done, to the card that is
shown.  The exceptions are three, and each has a name in `Meant`.

- The sign button looks at the jobs of the card that is shown, and `signFile` at those of its
  reader; a file chosen while the reader still signs for a card that was there before is dropped.
- The dialog of the sign button outlives the card it was opened over.  A file accepted when the
  signing action has gone from the screen is handed to a job whose outcome is not shown (`Unseen`).
- A chip whose reader lost its card unannounced, or that has no name to select it by, shows no card
  of its own.
-/

namespace LibreKDE.Plasmoid

open Reactive CardReads SmartCardHandler

namespace Popup

variable (h : PlasmoidHost) (b : Popup)

/-! ## The runs -/

/-- The client ends the reads on a card before it destroys it. -/
def SweptBy (b : Popup) : PopupEvent → Prop
  | .widget e => Swept b.widget e
  | .click _ => True

instance : (e : PopupEvent) → Decidable (SweptBy b e)
  | .widget e => inferInstanceAs (Decidable (Swept b.widget e))
  | .click _ => isTrue trivial

/-- The popup over a client that sweeps. -/
def sweptMachine : Machine Popup PopupEvent := (machine h).restrict SweptBy

instance (b : Popup) (e : PopupEvent) : Decidable ((sweptMachine h).allows b e) :=
  inferInstanceAs (Decidable (b.allows e ∧ SweptBy b e))

/-- The registry in which the widget last ran `refresh`. -/
def noteSeen (seen : Registry) (b : Popup) (e : PopupEvent) : Registry :=
  (PopupEvent.call e).elim seen (Plasmoid.noteSeen seen b.widget)

/-- The popup, and what its widget last saw. -/
def seenMachine : Machine (Popup × Registry) PopupEvent := (sweptMachine h).watch .blank noteSeen

instance (x : Popup × Registry) (e : PopupEvent) : Decidable ((seenMachine h).allows x e) :=
  inferInstanceAs (Decidable (x.1.allows e ∧ SweptBy x.1 e))

/-! ## What is promised -/

/-- The reader of this name is shown, and the first card there. -/
structure Chosen (seen : Registry) (s' : SmartCardHandler) (name : QString) : Prop where
  reader : s'.readerName = name
  card : ∃ y, readerWithCardByName seen name = some y ∧ s'.card = y.card

/-- The card is asked for its identity, once. -/
structure Reads (s s' : SmartCardHandler) (c : CardRef) : Prop where
  asked : s'.client = s.client.mint c .readIdentity
  card : s'.card = some c
  busy : s'.busy = true

/-- A job is started on the card that is shown, and the signing action, which is on the screen,
shows it at once. -/
structure Signs (s s' : SmartCardHandler) (c : CardRef) : Prop where
  started : s'.jobsStarted = s.jobsStarted + 1
  reader : (s'.jobs s.jobsStarted).reader = s.readerName
  card : s'.card = some c
  entry : (s'.entry s.readerName).card = some c
  onScreen : s'.canSign = true
  shown : s'.signingBusy = true ∨ s'.signResult.outcome = .failed
  published : s'.Published

/-- A job is started whose outcome nobody sees: the signing action has gone from the screen.  With
no card it has failed already. -/
structure Unseen (s s' : SmartCardHandler) : Prop where
  started : s'.jobsStarted = s.jobsStarted + 1
  offScreen : s'.canSign = false
  unsigned : s.card = none → (s'.entry s.readerName).job = none ∧
    (s'.entry s.readerName).outcome = .failed

/-- What a click comes to, between two states of the popup. -/
def Meant (x x' : Popup × Registry) : Click → Prop
  | .readerChip name => Chosen x'.2 x'.1.widget name ∨ name = [] ∨ x'.2.available = false ∨
      x'.2 ≠ x.2 ∧ readerWithCardByName x'.2 name = none
  | .readCard => ∃ c, x.1.widget.card = some c ∧ Reads x.1.widget x'.1.widget c
  | .signFile => x'.1.signFileDialog = true ∧ ∃ c, x.1.widget.card = some c
  | .signAccepted _ =>
      if (x.1.widget.entry x.1.widget.readerName).job.isSome then
        -- The card signs by now, or the card before it still does.
        x'.1.widget = x.1.widget ∧ (x.1.widget.signingBusy = true ∨
          (x.1.widget.entry x.1.widget.readerName).card ≠ x.1.widget.card)
      else if x.1.widget.canSign then
        ∃ c, x.1.widget.card = some c ∧ Signs x.1.widget x'.1.widget c
      else Unseen x.1.widget x'.1.widget
  | .signRejected | .photoRejected => x'.1.widget = x.1.widget
  | .dismiss => x'.1.widget.signResult.outcome = .none ∧ x'.1.widget.Published ∧
      ∀ reader ≠ x.1.widget.readerName,
        x'.1.widget.signStates reader = x.1.widget.signStates reader
  | .openInFiles => ∃ c, x.1.widget.card = some c ∧ (x.1.widget.readerName ≠ [] →
      (∀ display, (x.1.widget.openedUrl display).isSome = true) ∧
        x'.1.widget.warmed = x.1.widget.warmed ++ if x.1.widget.unlockRequired then [] else [c])
  | .savePhoto _ => x'.1.photoDialog.isSome = true ∧ ∃ c, x.1.widget.card = some c
  | .photoAccepted selectedFile taken => x'.1.widget = x.1.widget ∧ x'.1.photoDialog = none ∧
      -- The photo is written, or the bar, which is on the screen, says that it is not.
      if (x.1.widget.savePhoto selectedFile taken).isSome then x'.1.photoError = none
      else x'.1.photoError = some selectedFile.fileName ∧ x'.1.widget.hasAnyAction = true
  | .manageCredentials => ∃ c, x.1.widget.card = some c ∧
      x.1.widget.manageCredentials.isSome = true
  | .startService => x'.1.widget.agentStarting = true ∧ x.1.widget.card = none

/-- Every click comes to what it is offered for. -/
def ClicksMeant (x : Popup × Registry) : PopupEvent → Prop
  | .click c => Meant x ((seenMachine h).step x (.click c)) c
  | .widget _ => True

end Popup

/-! ## What the views go by -/

variable {h : PlasmoidHost} {s u : SmartCardHandler} {seen : Registry} {e : Event}

lemma classifyActiveCard_pinManagementAvailable :
    (s.classifyActiveCard h).pinManagementAvailable = s.boundCard.any AgentCard.pinManagement := by
  unfold classifyActiveCard
  dsimp only
  split
  · rfl
  · split_ifs
    · exact congrArg Prod.snd ensureFreeRead_verdict
    · rfl

/-- PIN management is offered for a card only. -/
def PinBacked (s : SmartCardHandler) : Prop := s.pinManagementAvailable = true → s.card ≠ none

lemma pinBacked_classifyActiveCard : PinBacked (s.classifyActiveCard h) := by
  intro hpin hnone
  rw [classifyActiveCard_pinManagementAvailable, boundCard,
    s.classifyActiveCard_aside.card.symm.trans hnone] at hpin
  cases hpin

lemma pinBacked_refresh : PinBacked (u.refresh h) := by
  intro hpin hnone
  have hverdict := refresh_verdict_of_target_none (u.refresh_card.symm.trans hnone)
  rw [show (u.refresh h).pinManagementAvailable = false from congrArg Prod.snd hverdict] at hpin
  cases hpin

/-- A terminal leaves the flag, or has the card classified. -/
lemma pinBacked_onOperationFinished (hs : PinBacked s) (t : Terminal) :
    PinBacked (s.onOperationFinished h t) := by
  unfold onOperationFinished
  dsimp only
  split
  · exact hs
  · split_ifs
    · exact pinBacked_classifyActiveCard
    · exact hs
    · intro hpin hnone
      refine pinBacked_classifyActiveCard hpin ?_
      exact (startPhotoRead_aside _).card.symm.trans hnone

lemma pinBacked_step {b : ℕ} (ho : Owned h b s.toCardReads) (hs : PinBacked s)
    (hal : allows s e) : PinBacked (step h s e) := by
  cases hu : s.refreshes e with
  | some u =>
      rw [step_of_refreshes hu]
      exact pinBacked_refresh
  | none =>
      by_cases he : e.mayClassify = true
      · cases e with
        | cardChanged c =>
            simp only [step, cardChanged]
            split_ifs
            · exact pinBacked_classifyActiveCard
            · exact hs
        | finished i t =>
            have hended : PinBacked { s with client := s.client.finish i t } := hs
            simp only [step, finished]
            split_ifs
            · exact pinBacked_onOperationFinished hended t
            · intro hpin hnone
              exact hended hpin ((onPhotoFinished_aside _ t).card.symm.trans hnone)
            · exact hs
        | _ => cases he
      · have hverdict := verdict_of_not_classifies (h := h) hu (by simpa using he)
        intro hpin
        rw [card_of_not_refreshes ho hal hu]
        exact hs ((congrArg Prod.snd hverdict).symm.trans hpin)

/-- What the views go by is so: the state is that of the card shown, and the lists are those of the
registry seen. -/
structure Holds (h : PlasmoidHost) (s : SmartCardHandler) (seen : Registry) : Prop where
  voices : Voices h s seen
  living : s.destroyed = false → s.Busied ∧ PinBacked s

lemma holds_step (hcards : TakesCards h) (hs : Holds h s seen) (hal : allows s e)
    (hswept : Swept s e) : Holds h (step h s e) (noteSeen seen s e) where
  voices := voices_step hcards hs.voices hal
  living hliving := by
    obtain ⟨b, ho | ⟨hgone, -⟩⟩ := hs.voices.kept
    · obtain ⟨hbusied, hpin⟩ := hs.living ho.alive
      exact ⟨(minds_step ho hal hswept).busied hbusied, pinBacked_step ho hpin hal⟩
    · obtain ⟨slot, image, rfl⟩ := eq_sibling_of_destroyed hgone hal
      exact absurd (hgone.symm.trans hliving) (by simp)

lemma holds_start (hcards : TakesCards h) (hs : Start h s) : Holds h s s.client.registry where
  voices := voices_start hcards hs
  living _ := by
    refine ⟨?_, ?_⟩
    · exact (hs.custody.owned hs.owned.1.alive).2
    · obtain ⟨client, photoStore, photoSlot, -, -, rfl⟩ := hs
      exact pinBacked_refresh

/-! ## What the methods do -/

/-- Selecting a listed reader shows it, and the first card there. -/
lemma selectReader_shows {name : QString} (hauto : s.boundReaderName = []) (hname : name ≠ [])
    (hd : Displays h (step h s (.selectReader name)) seen) (hav : seen.available = true)
    {y : AgentReader} (hy : readerWithCardByName seen name = some y) :
    (step h s (.selectReader name)).readerName = name ∧
      (step h s (.selectReader name)).card = y.card := by
  have hsame : (step h s (.selectReader name)).boundReaderName = [] ∧
      (step h s (.selectReader name)).selectedReaderName = name := by
    show (s.selectReader h name).boundReaderName = [] ∧
      (s.selectReader h name).selectedReaderName = name
    unfold selectReader
    rw [if_neg (not_not.2 hauto)]
    split_ifs with hselected
    · exact ⟨hauto, hselected⟩
    · have hroster : SameRoster (updateReaderRosters h { s with selectedReaderName := name })
          (refresh h { s with selectedReaderName := name }) := .refresh
      exact ⟨hroster.bound.trans hauto, hroster.selected⟩
  have hpick : pickActiveReader h.chars seen [] name = some y := by
    simp only [pickActiveReader, ne_eq, not_true_eq_false, if_false, hname, not_false_eq_true,
      if_true, hy]
  have hyname : y.name = name := by
    have hfound : y.name = name ∧ y.card.isSome = true := by simpa using List.find?_some hy
    exact hfound.1
  have hcard := hd.card
  have hshown := hd.readerName
  rw [nameShown] at hshown
  rw [hsame.1, hsame.2, if_pos hav, hpick] at hcard hshown
  exact ⟨hshown.trans hyname, hcard⟩

/-- A read of a card that is not busy is asked for. -/
lemma readIdentity_reads {c : CardRef} (hc : s.card = some c) (hbusied : s.Busied)
    (hidle : s.busy = false) : Popup.Reads s s.readIdentity c := by
  have hop : s.identityOp.isSome = false := hbusied.symm.trans hidle
  unfold SmartCardHandler.readIdentity
  simp only [hc, hop, Bool.false_eq_true, if_false]
  exact ⟨rfl, hc, rfl⟩

/-- What a job says before `signFile` returns leaves everything but the sign's own records. -/
lemma signFile_frame (fileUrl : QString) :
    (s.signFile h fileUrl).card = s.card ∧ (s.signFile h fileUrl).state = s.state := by
  rw [signFile_eq]
  split_ifs
  · exact ⟨rfl, rfl⟩
  · cases s.failsAtOnce h fileUrl <;> exact ⟨rfl, rfl⟩

lemma signFile_canSign (fileUrl : QString) : (s.signFile h fileUrl).canSign = s.canSign := by
  rw [canSign, (signFile_frame fileUrl).2]
  rfl

/-- A file is signed on the card shown, unless the reader has a job. -/
lemma signFile_signs {c : CardRef} (hc : s.card = some c) (hcan : s.canSign = true)
    (hidle : (s.entry s.readerName).job.isSome = false) (fileUrl : QString) :
    Popup.Signs s (s.signFile h fileUrl) c := by
  have hcard := (signFile_frame (h := h) (s := s) fileUrl).1.trans hc
  have honScreen := (signFile_canSign (h := h) (s := s) fileUrl).trans hcan
  rw [signFile_eq, if_neg (by simp [hidle])] at hcard honScreen ⊢
  have hentry : s.signStarted.signStates s.readerName =
      some { job := some s.jobsStarted, card := s.card } := by
    simp [signStarted, publishSignSurfaces, setEntry]
  have hreader : (s.signStarted.jobs s.jobsStarted).reader = s.readerName := by
    simp [signStarted, publishSignSurfaces, setEntry]
  -- The job runs on when `start` returns, or has failed inside it; the surfaces are published
  -- after.
  cases hfails : s.failsAtOnce h fileUrl with
  | none =>
      rw [hfails] at hcard honScreen
      refine ⟨rfl, hreader, hcard, ?_, honScreen, .inl ?_, published_publishSignSurfaces _⟩
      · show (s.signStarted.entry s.readerName).card = some c
        rw [entry, hentry]
        exact hc
      · simp [signStarted, publishSignSurfaces, setEntry, signingBusy, activeSignState]
  | some message =>
      rw [hfails] at hcard honScreen
      refine ⟨rfl, ?_, hcard, ?_, honScreen, .inr ?_, published_publishSignSurfaces _⟩
      · simp [onFailed, publishSignSurfaces, setEntry, hreader]
      · simp [onFailed, publishSignSurfaces, setEntry, hreader, entry, hentry, hc]
      · have hname : s.signStarted.readerName = s.readerName := rfl
        have hshown : s.signStarted.card = s.card := rfl
        simp [onFailed, publishSignSurfaces, setEntry, signResult, activeSignState, hreader, entry,
          hentry, hname, hshown, Option.filter, ReaderSignState.result]

/-- Without a card a job fails before `signFile` returns. -/
lemma failsAtOnce_of_unbound (hc : s.card = none) (fileUrl : QString) :
    (s.failsAtOnce h fileUrl).isSome = true := by
  simp [failsAtOnce, startSignals, hc, Signing.SignJob.start, Signing.SignJob.failWith,
    Signing.SignJob.fail]

/-- A file chosen for a card whose views are gone starts a job that is not seen. -/
lemma signFile_unseen (hcan : s.canSign = false)
    (hidle : (s.entry s.readerName).job.isSome = false) (fileUrl : QString) :
    Popup.Unseen s (s.signFile h fileUrl) := by
  have hoffScreen := (signFile_canSign (h := h) (s := s) fileUrl).trans hcan
  have hfails : s.card = none → (s.failsAtOnce h fileUrl).isSome = true :=
    fun hc => failsAtOnce_of_unbound hc fileUrl
  rw [signFile_eq, if_neg (by simp [hidle])] at hoffScreen ⊢
  have hreader : (s.signStarted.jobs s.jobsStarted).reader = s.readerName := by
    simp [signStarted, publishSignSurfaces, setEntry]
  cases hsome : s.failsAtOnce h fileUrl with
  | none =>
      rw [hsome] at hoffScreen hfails
      exact ⟨rfl, hoffScreen, fun hc => absurd (hfails hc) (by simp)⟩
  | some message =>
      rw [hsome] at hoffScreen
      refine ⟨rfl, hoffScreen, fun _ => ?_⟩
      simp [onFailed, publishSignSurfaces, setEntry, hreader, entry]

/-- A file is dropped only by a job of the card that is shown, which shows, or of another. -/
lemma card_of_dropped (hbusy : (s.entry s.readerName).job.isSome = true) :
    s.signingBusy = true ∨ (s.entry s.readerName).card ≠ s.card := by
  by_cases hcard : (s.entry s.readerName).card = s.card
  · left
    unfold entry at hbusy hcard
    cases hentry : s.signStates s.readerName with
    | none => simp [hentry] at hbusy
    | some x =>
        simp only [hentry, Option.getD_some] at hbusy hcard
        simp [signingBusy, activeSignState, hentry, hcard, hbusy]
  · exact .inr hcard

/-- The result that is shown is dismissed, and no other. -/
lemma dismissSignResult_dismisses (hshown : s.signResult.outcome ≠ .none) :
    s.dismissSignResult.signResult.outcome = .none ∧ s.dismissSignResult.Published ∧
      ∀ reader ≠ s.readerName, s.dismissSignResult.signStates reader = s.signStates reader := by
  obtain ⟨x, hx, hcard, houtcome⟩ : ∃ x, s.signStates s.readerName = some x ∧ x.card = s.card ∧
      x.outcome ≠ .none := by
    unfold signResult activeSignState at hshown
    cases hentry : s.signStates s.readerName with
    | none => simp [hentry] at hshown
    | some x =>
        by_cases hcard : x.card = s.card
        · refine ⟨x, rfl, hcard, ?_⟩
          simpa [hentry, Option.filter, hcard, ReaderSignState.result] using hshown
        · simp [hentry, Option.filter, hcard] at hshown
  unfold SmartCardHandler.dismissSignResult
  simp only [hx, houtcome, if_false]
  refine ⟨?_, published_publishSignSurfaces _, fun reader hreader => ?_⟩
  · simp [publishSignSurfaces, setEntry, signResult, activeSignState, hcard, Option.filter,
      ReaderSignState.result]
  · simp [publishSignSurfaces, setEntry, hreader]

lemma openInFiles_warms {c : CardRef} (hc : s.card = some c) (hname : s.readerName ≠ []) :
    s.openInFiles.warmed = s.warmed ++ if s.unlockRequired then [] else [c] := by
  unfold openInFiles warmCertificateCache
  rw [if_neg hname]
  simp only [hc]
  split_ifs <;> simp_all

/-! ## Runs -/

namespace Popup

variable {x : Popup × Registry} {e : PopupEvent}

/-- What a run of the popup keeps, for every click that may come next. -/
structure Ready (h : PlasmoidHost) (x : Popup × Registry) : Prop where
  holds : Holds h x.1.widget x.2
  /-- The photo's dialog is open over an identity card's views. -/
  photo : x.1.photoDialog.isSome = true → x.1.widget.hasIdentityActions = true

/-- A click calls a method of a widget that is there. -/
lemma swept_call {b : Popup} (hswept : SweptBy b e) {e' : Event}
    (hcall : PopupEvent.call e = some e') : Swept b.widget e' := by
  cases e with
  | widget e => exact Option.some.inj hcall ▸ hswept
  | click c => cases c <;> cases hcall <;> trivial

lemma ready_step (hcards : TakesCards h) (hx : Ready h x) (hal : x.1.allows e)
    (hswept : SweptBy x.1 e) : Ready h ((seenMachine h).step x e) where
  holds := by
    show Holds h (x.1.step h e).widget (noteSeen x.2 x.1 e)
    rw [step_widget]
    unfold noteSeen
    cases hcall : PopupEvent.call e with
    | none =>
        rw [moved_of_not_call hcall]
        exact hx.holds
    | some e' =>
        rw [moved_of_call hcall]
        exact holds_step hcards hx.holds (allows_of_call hal hcall) (swept_call hswept hcall)
  photo hopen := by
    obtain ⟨hbefore, -, -, hstate, -⟩ := step_open (h := h) (b := x.1) hopen
    show (x.1.step h e).widget.hasIdentityActions = true
    rw [step_widget, hasIdentityActions, hstate]
    rcases hbefore with hbefore | ⟨currentFolder, rfl⟩
    · exact hx.photo hbefore
    · exact hal.2.1

lemma ready_kept (hcards : TakesCards h) : (seenMachine h).Kept (Ready h) :=
  fun _ _ hx hal => ready_step hcards hx hal.1 hal.2

lemma ready_start (hcards : TakesCards h) {b : Popup} (hs : Start h b) :
    Ready h (b, b.widget.client.registry) where
  holds := holds_start hcards hs.widget
  photo hopen := by
    rw [hs.photoDialog] at hopen
    cases hopen

/-- A card that is shown is there, with its record. -/
lemma exists_record (hx : Holds h s seen) (hliving : s.destroyed = false) (hcard : s.card ≠ none) :
    ∃ c, s.card = some c ∧ s.boundCard.isSome = true := by
  obtain ⟨c, hc⟩ := Option.ne_none_iff_exists'.1 hcard
  obtain ⟨b, ho | ⟨hgone, -⟩⟩ := hx.voices.kept
  · refine ⟨c, hc, ?_⟩
    rw [boundCard, hc, Option.bind_some]
    exact ho.live c hc
  · exact absurd (hgone.symm.trans hliving) (by simp)

lemma card_of_state (hx : Holds h s seen) (hno : s.state ≠ .noCard)
    (hun : s.state ≠ .agentUnavailable) : ∃ c, s.card = some c := by
  refine Option.ne_none_iff_exists'.1 fun hnone => ?_
  rw [hx.voices.sincere.empty hnone] at hno hun
  cases hav : seen.available <;> simp [hav] at hno hun

lemma card_of_canSign (hx : Holds h s seen) (hcan : s.canSign = true) : ∃ c, s.card = some c := by
  have hstate : s.state = .pkiOnly ∨ s.state = .hybrid := by simpa [canSign] using hcan
  refine card_of_state hx ?_ ?_ <;> rcases hstate with heq | heq <;> simp [heq]

lemma card_of_identity (hx : Holds h s seen) (hactions : s.hasIdentityActions = true) :
    ∃ c, s.card = some c := by
  have hstate : s.state = .identityOnly ∨ s.state = .hybrid := by
    simpa [hasIdentityActions] using hactions
  refine card_of_state hx ?_ ?_ <;> rcases hstate with heq | heq <;> simp [heq]

/-- The chips are those of the readers last seen with a card. -/
lemma readerWithCardByName_of_chip (hx : Holds h s seen) {name : QString}
    (hname : name ∈ s.readersWithCards) : readerWithCardByName seen name ≠ none := by
  rw [hx.voices.withCards, namesWithCards, List.mem_map] at hname
  obtain ⟨y, hy, rfl⟩ := hname
  obtain ⟨hy, hcard⟩ := List.mem_filter.1 hy
  intro hnone
  have hmissing := List.find?_eq_none.1 hnone y hy
  simp [hcard] at hmissing

/-- **A click comes to what it is offered for.** -/
lemma clicksMeant (hcards : TakesCards h) (hx : Ready h x) (hal : x.1.allows e)
    (hswept : SweptBy x.1 e) : ClicksMeant h x e := by
  have hkept := (ready_step hcards hx hal hswept).holds
  obtain ⟨b, seen⟩ := x
  cases e with
  | widget e => trivial
  | click c =>
      have hx' := hx.holds
      obtain ⟨hliving, hoffered⟩ := hal
      obtain ⟨hbusied, hpin⟩ := hx'.living hliving
      have hwidget : ((seenMachine h).step (b, seen) (.click c)).1.widget = b.moved h (.click c) :=
        step_widget
      show Meant (b, seen) ((seenMachine h).step (b, seen) (.click c)) c
      cases c with
      | readerChip name =>
          obtain ⟨hchips, hname⟩ :
              b.widget.masterDetail = true ∧ name ∈ b.widget.readersWithCards :=
            hoffered
          have hauto : b.widget.boundReaderName = [] := by
            rw [masterDetail, decide_eq_true_iff] at hchips
            exact hchips.1
          have hthere := readerWithCardByName_of_chip hx' hname
          rw [hwidget] at hkept
          show Chosen _ _ name ∨ _
          rw [hwidget]
          by_cases hempty : name = []
          · exact .inr (.inl hempty)
          -- The chip asks for its reader in the registry as `selectReader` finds it, which may have
          -- moved.
          cases hav : ((seenMachine h).step (b, seen) (.click (.readerChip name))).2.available with
          | false => exact .inr (.inr (.inl rfl))
          | true =>
              cases hy : readerWithCardByName
                  ((seenMachine h).step (b, seen) (.click (.readerChip name))).2 name with
              | none =>
                  refine .inr (.inr (.inr ⟨fun hsame => ?_, rfl⟩))
                  rw [hsame] at hy
                  exact hthere hy
              | some y =>
                  obtain ⟨hreader, hcard⟩ :=
                    selectReader_shows hauto hempty hkept.voices.toDisplays hav hy
                  exact .inl ⟨hreader, y, hy, hcard⟩
      | readCard =>
          obtain ⟨hstate, hidle⟩ : b.widget.state = .preAuthRequired ∧ b.widget.busy = false :=
            hoffered
          obtain ⟨c, hc⟩ := card_of_state hx' (by simp [hstate]) (by simp [hstate])
          refine ⟨c, hc, ?_⟩
          rw [hwidget]
          exact readIdentity_reads hc hbusied hidle
      | signFile =>
          refine ⟨?_, card_of_canSign hx' hoffered.1⟩
          show (b.step h (.click .signFile)).signFileDialog = true
          rw [step_of_not_call hliving rfl]
          rfl
      | signAccepted selectedFile =>
          show ite _ _ _
          rw [hwidget]
          -- `signFile` returns where the reader has a job; it does not look at what the views show.
          split_ifs with hbusy hcan
          · refine ⟨?_, card_of_dropped hbusy⟩
            show b.widget.signFile h selectedFile = b.widget
            rw [signFile_eq, if_pos hbusy]
          · obtain ⟨c, hc⟩ := card_of_canSign hx' hcan
            exact ⟨c, hc, signFile_signs hc hcan (by simpa using hbusy) selectedFile⟩
          · exact signFile_unseen (by simpa using hcan) (by simpa using hbusy) selectedFile
      | signRejected | photoRejected => exact hwidget
      | dismiss =>
          have hdismissed := dismissSignResult_dismisses hoffered.2
          rw [Meant, hwidget]
          exact hdismissed
      | openInFiles =>
          obtain ⟨c, hc⟩ := card_of_identity hx' hoffered
          rw [Meant, hwidget]
          refine ⟨c, hc, fun hname => ⟨fun display => ?_, openInFiles_warms hc hname⟩⟩
          rw [openedUrl, if_neg hname]
          rfl
      | savePhoto currentFolder =>
          refine ⟨?_, card_of_identity hx' hoffered.1⟩
          show (b.step h (.click (.savePhoto currentFolder))).photoDialog.isSome = true
          rw [step_of_not_call hliving rfl]
          rfl
      | photoAccepted selectedFile taken =>
          have hstep : b.step h (.click (.photoAccepted selectedFile taken)) =
              b.answered (.click (.photoAccepted selectedFile taken)) :=
                step_of_not_call hliving rfl
          have hactions := hx.photo hoffered
          refine ⟨hwidget, ?_, ?_⟩
          · show (b.step h _).photoDialog = none
            rw [hstep]
            rfl
          · show ite _ ((b.step h _).photoError = none) ((b.step h _).photoError = _ ∧ _)
            rw [hwidget, hstep]
            -- The banner is in the bar, and the bar is there: the dialog would have closed with the
            -- state.
            split_ifs with hsaved
            · exact if_pos hsaved
            · exact ⟨if_neg hsaved, by
                rw [hasAnyAction, show b.moved h _ = b.widget from rfl, hactions]
                simp⟩
      | manageCredentials =>
          obtain ⟨c, hc, hrecord⟩ := exists_record hx' hliving (hpin hoffered.2)
          refine ⟨c, hc, ?_⟩
          rw [SmartCardHandler.manageCredentials, Option.isSome_map]
          exact hrecord
      | startService =>
          have hstate : b.widget.state = .agentUnavailable := hoffered.1
          have hidle : b.widget.agentStarting = false := hoffered.2.2
          rw [Meant, hwidget]
          refine ⟨?_, ?_⟩
          · show (b.widget.startAgent).agentStarting = true
            rw [startAgent, if_neg (by simp [hidle])]
          · by_contra hcard
            exact (hx'.voices.sincere.full hcard).2 hstate

/-- The card signs, and another one takes its place; the next file is dropped.  Then the card is
pulled under the open dialog. -/
def swappedWhileSigning : List PopupEvent :=
  [.widget (.registryChanged (.desk (qs "r") 1 (.eid true))), .click .signFile,
    .click (.signAccepted (qs "/home/a.pdf")),
    .widget (.registryChanged (.desk (qs "r") 2 (.eid true))), .click .signFile,
    .click (.signAccepted (qs "/home/b.pdf")), .click .signFile, .widget (.registryChanged .blank),
    .click (.signAccepted (qs "/home/c.pdf"))]

/-- The second file is dropped, and the third fails unseen. -/
example : ((machine .plain).exec new swappedWhileSigning).widget.jobsStarted = 2 ∧
    ((machine .plain).exec new swappedWhileSigning).widget.signingBusy = false ∧
    ((machine .plain).exec new swappedWhileSigning).widget.canSign = false := by
  decide

end Popup

end LibreKDE.Plasmoid
