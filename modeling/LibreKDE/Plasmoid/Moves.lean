import LibreKDE.Plasmoid.Reads

/-!
# What each event does to the reads

Most methods leave the reads alone.  The ones that classify the card may issue a *free read*
at their end; `FreelyFrom` says under which conditions, in terms of the state they leave.
`turn` puts the cases together, once for all invariants of the reads and the rosters; the first
is `movesTo_step`: every event leaves the reads owned by the bound card.
-/

namespace LibreKDE.Plasmoid

open CardReads

variable {h : PlasmoidHost}

namespace SmartCardHandler

variable {s : SmartCardHandler}

/-! ## Methods that leave the reads alone -/

@[simp] lemma publishSignSurfaces_toCardReads (s : SmartCardHandler) :
    s.publishSignSurfaces.toCardReads = s.toCardReads := rfl

/-- The reads, the busy flag and the rosters stay, and the message at most goes. -/
structure Beside (s s' : SmartCardHandler) : Prop where
  reads : s'.toCardReads = s.toCardReads
  busy : s'.busy = s.busy
  bound : s'.boundReaderName = s.boundReaderName
  selected : s'.selectedReaderName = s.selectedReaderName
  present : s'.boundReaderPresent = s.boundReaderPresent
  message : s'.errorMessage = [] ∨ s'.errorMessage = s.errorMessage

namespace Beside

lemma refl (s : SmartCardHandler) : Beside s s := ⟨rfl, rfl, rfl, rfl, rfl, .inr rfl⟩

/-- Closing the view reads nothing. -/
lemma closeView (s : SmartCardHandler) : Beside s (s.setViewActive false) := by
  unfold setViewActive
  split_ifs with _ hopen
  · exact refl s
  · cases hopen
  · exact ⟨rfl, rfl, rfl, rfl, rfl, .inr rfl⟩

lemma startAgent (s : SmartCardHandler) : Beside s s.startAgent := by
  unfold SmartCardHandler.startAgent
  split_ifs
  · exact refl s
  · exact ⟨rfl, rfl, rfl, rfl, rfl, .inr rfl⟩

lemma phaseChanged (s : SmartCardHandler) (i : ℕ) (p : OperationPhase) :
    Beside s (s.phaseChanged i p) := by
  unfold SmartCardHandler.phaseChanged
  split_ifs
  · exact ⟨rfl, rfl, rfl, rfl, rfl, .inr rfl⟩
  · exact refl s

/-- A sign that starts clears the message. -/
lemma signFile (s : SmartCardHandler) (url : QString) : Beside s (s.signFile h url) := by
  unfold SmartCardHandler.signFile
  dsimp only
  split_ifs
  · exact refl s
  · split <;> exact ⟨rfl, rfl, rfl, rfl, rfl, .inl rfl⟩

lemma dismissSignResult (s : SmartCardHandler) : Beside s s.dismissSignResult := by
  unfold SmartCardHandler.dismissSignResult
  split
  · exact refl s
  · split_ifs
    · exact refl s
    · exact ⟨rfl, rfl, rfl, rfl, rfl, .inr rfl⟩

lemma pickFirstCert (s : SmartCardHandler) (j : ℕ) (cands : List CertificateInfo) :
    Beside s (s.pickFirstCert j cands) := by
  unfold SmartCardHandler.pickFirstCert
  split
  · exact refl s
  · exact ⟨rfl, rfl, rfl, rfl, rfl, .inr rfl⟩

lemma onPhaseChanged (s : SmartCardHandler) (j : ℕ) (p : OperationPhase) :
    Beside s (s.onPhaseChanged j p) := by
  unfold SmartCardHandler.onPhaseChanged
  dsimp only
  split
  · exact refl s
  · exact ⟨rfl, rfl, rfl, rfl, rfl, .inr rfl⟩

lemma onSucceeded (s : SmartCardHandler) (j : ℕ) (path level : QString) :
    Beside s (s.onSucceeded j path level) := ⟨rfl, rfl, rfl, rfl, rfl, .inr rfl⟩

lemma onFailed (s : SmartCardHandler) (j : ℕ) (message : QString) :
    Beside s (s.onFailed j message) := ⟨rfl, rfl, rfl, rfl, rfl, .inr rfl⟩

end Beside

/-- What is bound, what is selected, and whether the bound reader is there, are the same. -/
structure SameRoster (s u : SmartCardHandler) : Prop where
  bound : u.boundReaderName = s.boundReaderName
  selected : u.selectedReaderName = s.selectedReaderName
  present : u.boundReaderPresent = s.boundReaderPresent

lemma SameRoster.refl (s : SmartCardHandler) : SameRoster s s := ⟨rfl, rfl, rfl⟩

lemma SameRoster.trans {v u : SmartCardHandler} (hsv : SameRoster s v) (hvu : SameRoster v u) :
    SameRoster s u :=
  ⟨hvu.bound.trans hsv.bound, hvu.selected.trans hsv.selected, hvu.present.trans hsv.present⟩

lemma SameRoster.bindCard (s : SmartCardHandler) (c : Option CardRef) :
    SameRoster s (s.bindCard c) := by
  unfold SmartCardHandler.bindCard
  split_ifs <;> exact ⟨rfl, rfl, rfl⟩

lemma Beside.sameRoster {u : SmartCardHandler} (hb : Beside s u) : SameRoster s u :=
  ⟨hb.bound, hb.selected, hb.present⟩

@[simp] lemma bindCard_toCardReads (s : SmartCardHandler) (c : Option CardRef) :
    (s.bindCard c).toCardReads = s.toCardReads.bindCard c := by
  unfold bindCard CardReads.bindCard
  split_ifs <;> rfl

@[simp] lemma bindCard_viewActive (s : SmartCardHandler) (c : Option CardRef) :
    (s.bindCard c).viewActive = s.viewActive := by
  unfold bindCard
  split_ifs <;> rfl

@[simp] lemma bindCard_errorMessage (s : SmartCardHandler) (c : Option CardRef) :
    (s.bindCard c).errorMessage = s.errorMessage := by
  unfold bindCard
  split_ifs <;> rfl

@[simp] lemma bindCard_toSignStates (s : SmartCardHandler) (c : Option CardRef) :
    (s.bindCard c).toSignStates = s.toSignStates := by
  unfold bindCard
  split_ifs <;> rfl

/-- A card is warmed only if it announces no unlock. -/
lemma openInFiles_cases (s : SmartCardHandler) :
    s.openInFiles = s ∨ ∃ c, s.card = some c ∧ s.unlockRequired = false ∧
      s.openInFiles = { s with warmed := s.warmed ++ [c] } := by
  unfold openInFiles
  split_ifs
  · exact .inl rfl
  · unfold warmCertificateCache
    split
    · exact .inl rfl
    · next c hc =>
        split_ifs with hunlock
        · exact .inl rfl
        · exact .inr ⟨c, hc, by simpa using hunlock, rfl⟩

/-! ## Free reads -/

/-- The bound card can be read without a secret, and was not read yet. -/
structure ReadableFreely (s : SmartCardHandler) (c : CardRef) : Prop where
  card : s.card = some c
  unlock : s.unlockRequired = false
  unread : s.identityRead = false
  state : s.state = .identityOnly ∨ s.state = .hybrid

/-- From the reads `base` a method either went on without a read, or with a free one. -/
inductive FreelyFrom (base : CardReads) (s' : SmartCardHandler) : Prop
  | quiet : s'.toCardReads = base → FreelyFrom base s'
  | reads (c : CardRef) : base.identityOp = none → s'.ReadableFreely c →
      s'.toCardReads = base.mintIdentity c → FreelyFrom base s'

/-- `readIdentity` reads the bound card, unless a read is in flight. -/
lemma readIdentity_cases (s : SmartCardHandler) :
    s.readIdentity = s ∨ ∃ c, s.card = some c ∧ s.identityOp = none ∧
      s.readIdentity = { s with
        toCardReads := s.mintIdentity c
        errorMessage := []
        busy := true
        operationPhase := .created } := by
  unfold readIdentity
  split
  · exact .inl rfl
  · next c hc =>
      split_ifs with hbusy
      · exact .inl rfl
      · exact .inr ⟨c, hc, by simpa using hbusy, rfl⟩

lemma ensureFreeRead_cases (s : SmartCardHandler) :
    s.ensureFreeRead = s ∨ ∃ c, s.identityOp = none ∧ s.ReadableFreely c ∧
      s.ensureFreeRead = { s with
        toCardReads := s.mintIdentity c
        errorMessage := []
        busy := true
        operationPhase := .created } := by
  unfold ensureFreeRead
  split_ifs with hcard hguard hstate
  · exact .inl rfl
  · exact .inl rfl
  · exact .inl rfl
  · rcases s.readIdentity_cases with heq | ⟨c, hc, hfree, heq⟩
    · exact .inl heq
    · simp only [not_or] at hguard
      refine .inr ⟨c, hfree, ⟨hc, by simpa using hguard.1, by simpa using hguard.2.1, ?_⟩, heq⟩
      tauto

lemma ensureFreeRead_viewActive (s : SmartCardHandler) :
    s.ensureFreeRead.viewActive = s.viewActive := by
  rcases s.ensureFreeRead_cases with heq | ⟨c, -, -, heq⟩
  · rw [heq]
  · rw [heq]

lemma ensureFreeRead_freely (s : SmartCardHandler) : FreelyFrom s.toCardReads s.ensureFreeRead := by
  rcases s.ensureFreeRead_cases with heq | ⟨c, hfree, hread, heq⟩
  · rw [heq]
    exact .quiet rfl
  · rw [heq]
    exact .reads c hfree ⟨hread.card, hread.unlock, hread.unread, hread.state⟩ rfl

/-- Classifying the card changes its state and label, and ends in the free read of an open
view. -/
lemma classifyActiveCard_eq (s : SmartCardHandler) :
    ∃ s' : SmartCardHandler, Beside s s' ∧ s'.viewActive = s.viewActive ∧
      s'.toSignStates = s.toSignStates ∧ s'.readerName = s.readerName ∧
      (s.classifyActiveCard h = s' ∨
        s.viewActive = true ∧ s.classifyActiveCard h = s'.ensureFreeRead) := by
  unfold classifyActiveCard
  simp only
  split
  · exact ⟨{ s.updatePinManagementAvailable with state := .noCard },
      ⟨rfl, rfl, rfl, rfl, rfl, .inr rfl⟩, rfl, rfl, rfl, .inl rfl⟩
  · next c _ =>
      refine ⟨s.updatePinManagementAvailable.classify h c, ⟨rfl, rfl, rfl, rfl, rfl, .inr rfl⟩,
        rfl, rfl, rfl, ?_⟩
      split_ifs with hview
      · exact .inr ⟨hview, rfl⟩
      · exact .inl rfl

lemma classifyActiveCard_freely (s : SmartCardHandler) :
    FreelyFrom s.toCardReads (s.classifyActiveCard h) := by
  obtain ⟨s', hb, -, -, -, heq | ⟨-, heq⟩⟩ := s.classifyActiveCard_eq (h := h)
  · rw [heq]
    exact .quiet hb.reads
  · rw [heq, ← hb.reads]
    exact s'.ensureFreeRead_freely

lemma classifyActiveCard_viewActive (s : SmartCardHandler) :
    (s.classifyActiveCard h).viewActive = s.viewActive := by
  obtain ⟨s', -, hview, -, -, heq | ⟨-, heq⟩⟩ := s.classifyActiveCard_eq (h := h)
  · rw [heq, hview]
  · rw [heq, ensureFreeRead_viewActive, hview]

/-- With the view closed classifying reads nothing. -/
lemma classifyActiveCard_quiet (hclosed : s.viewActive = false) :
    (s.classifyActiveCard h).toCardReads = s.toCardReads := by
  obtain ⟨s', hb, -, -, -, heq | ⟨hopen, -⟩⟩ := s.classifyActiveCard_eq (h := h)
  · rw [heq, hb.reads]
  · rw [hclosed] at hopen
    cases hopen

/-! ## Refreshing -/

/-- The card a refresh binds: that of the reader it picks, and none where it picks none. -/
def target (h : PlasmoidHost) (s : SmartCardHandler) : Option CardRef :=
  if s.client.registry.available then
    (pickActiveReader h.chars s.client.registry s.boundReaderName s.selectedReaderName).bind
      AgentReader.card
  else none

lemma live_of_target {c : CardRef} (hc : s.target h = some c) :
    s.client.registry.live c = true := by
  unfold target at hc
  split_ifs at hc
  obtain ⟨x, hx, hcard⟩ := Option.bind_eq_some_iff.1 hc
  exact live_of_pickActiveReader hx hcard

/-- The rosters are taken over and the target is bound. -/
structure Rebound (h : PlasmoidHost) (s s' : SmartCardHandler) : Prop where
  reads : s'.toCardReads = s.toCardReads.bindCard (s.target h)
  busy : s'.busy = (s.bindCard (s.target h)).busy
  view : s'.viewActive = s.viewActive
  signs : s'.toSignStates = (s.updateReaderRosters h).toSignStates
  roster : SameRoster (s.updateReaderRosters h) s'

namespace Rebound

variable {u v : SmartCardHandler}

/-- Binding the target in a handler with the rosters taken over. -/
lemma bindCard {c : Option CardRef} (hc : s.target h = c) (hreads : u.toCardReads = s.toCardReads)
    (hbusy : u.busy = s.busy) (hview : u.viewActive = s.viewActive)
    (hsigns : u.toSignStates = (s.updateReaderRosters h).toSignStates)
    (hroster : SameRoster (s.updateReaderRosters h) u) : Rebound h s (u.bindCard c) where
  reads := by rw [bindCard_toCardReads, hreads, hc]
  busy := by
    unfold SmartCardHandler.bindCard
    rw [hc, hreads, hbusy]
    split_ifs
    · exact hbusy
    · rfl
    · rfl
  view := by rw [bindCard_viewActive, hview]
  signs := by rw [bindCard_toSignStates, hsigns]
  roster := hroster.trans (.bindCard u c)

/-- With nothing to bind no read counts, and none did. -/
lemma unread (hu : Rebound h s u) (hnone : s.target h = none)
    (hreads : v.toCardReads = { u.toCardReads with identityRead := false })
    (hbusy : v.busy = u.busy) (hview : v.viewActive = u.viewActive)
    (hsigns : v.toSignStates = u.toSignStates) (hroster : SameRoster u v) : Rebound h s v where
  reads := by
    rw [hreads, hu.reads, hnone]
    simp [CardReads.bindCard, rebind_eq]
  busy := hbusy.trans hu.busy
  view := hview.trans hu.view
  signs := hsigns.trans hu.signs
  roster := hu.roster.trans hroster

end Rebound

/-- Past the rosters a refresh binds its target.  Without one it clears the message; with one it
classifies it. -/
lemma refresh_eq (s : SmartCardHandler) :
    ∃ s' : SmartCardHandler, Rebound h s s' ∧
      ((s.refresh h = s'.publishSignSurfaces ∧ s.target h = none ∧ s'.errorMessage = []) ∨
        s.refresh h = (s'.classifyActiveCard h).publishSignSurfaces ∧ s.target h ≠ none ∧
          s'.errorMessage = s.errorMessage) := by
  have hnone : s.target h = none → Rebound h s ((s.updateReaderRosters h).bindCard none) :=
    fun htarget => .bindCard htarget rfl rfl rfl rfl (.refl _)
  unfold refresh
  by_cases havail : s.client.registry.available = true
  · rw [if_neg (not_not.2 havail)]
    dsimp only
    split
    · next hpick =>
        have htarget : s.target h = none := by
          rw [target, if_pos havail]
          exact Option.bind_eq_none_iff.2 fun x hx => nomatch hx.symm.trans hpick
        refine ⟨_, ?_, .inl ⟨rfl, htarget, rfl⟩⟩
        exact (hnone htarget).unread htarget rfl rfl rfl rfl ⟨rfl, rfl, rfl⟩
    · next reader hpick =>
        have htarget : s.target h = reader.card := by
          rw [target, if_pos havail]
          exact congrArg (fun x : Option AgentReader => x.bind AgentReader.card) hpick
        -- A reader is picked only for a card, so there is one to bind.
        have hsome : reader.card.isSome = true := (pickActiveReader_spec hpick).2
        refine ⟨_, ?_, .inr ⟨rfl, ?_, ?_⟩⟩
        · exact .bindCard htarget rfl rfl rfl rfl ⟨rfl, rfl, rfl⟩
        · rw [htarget]
          exact Option.isSome_iff_ne_none.1 hsome
        · rw [bindCard_errorMessage]
          rfl
  · have htarget : s.target h = none := by
      rw [target, if_neg havail]
    rw [if_pos havail]
    refine ⟨_, ?_, .inl ⟨rfl, htarget, rfl⟩⟩
    exact (hnone htarget).unread htarget rfl rfl rfl rfl ⟨rfl, rfl, rfl⟩

lemma FreelyFrom.publish {base : CardReads} {s' : SmartCardHandler} (hf : FreelyFrom base s') :
    FreelyFrom base s'.publishSignSurfaces := by
  cases hf with
  | quiet heq => exact .quiet heq
  | reads c hfree hread heq =>
      exact .reads c hfree ⟨hread.card, hread.unlock, hread.unread, hread.state⟩ heq

lemma refresh_freely (s : SmartCardHandler) :
    FreelyFrom (s.toCardReads.bindCard (s.target h)) (s.refresh h) := by
  obtain ⟨s', hs', ⟨heq, -⟩ | ⟨heq, -⟩⟩ := s.refresh_eq (h := h)
  · rw [heq]
    exact .quiet hs'.reads
  · rw [heq, ← hs'.reads]
    exact s'.classifyActiveCard_freely.publish

lemma refresh_viewActive (s : SmartCardHandler) : (s.refresh h).viewActive = s.viewActive := by
  obtain ⟨s', hs', ⟨heq, -⟩ | ⟨heq, -⟩⟩ := s.refresh_eq (h := h)
  · rw [heq]
    exact hs'.view
  · rw [heq]
    exact (s'.classifyActiveCard_viewActive).trans hs'.view

/-- With the view closed a refresh only binds. -/
lemma refresh_quiet (hclosed : s.viewActive = false) :
    (s.refresh h).toCardReads = s.toCardReads.bindCard (s.target h) := by
  obtain ⟨s', hs', ⟨heq, -⟩ | ⟨heq, -⟩⟩ := s.refresh_eq (h := h)
  · rw [heq]
    exact hs'.reads
  · rw [heq, publishSignSurfaces_toCardReads, classifyActiveCard_quiet (hs'.view.trans hclosed)]
    exact hs'.reads

/-! ## Owned reads -/

variable {b : ℕ}

/-- A free read, if one starts, is a read of the bound card, and brings nothing yet. -/
lemma FreelyFrom.owned {base : CardReads} {s' : SmartCardHandler} (hf : FreelyFrom base s')
    (ho : Owned h b base) :
    Owned h b s'.toCardReads ∧ s'.card = base.card ∧ (Blank base → Blank s'.toCardReads) := by
  cases hf with
  | quiet heq =>
      rw [heq]
      exact ⟨ho, rfl, id⟩
  | reads c hfree hread heq =>
      have hcard : base.card = some c := by
        have hc := hread.card
        rw [heq] at hc
        exact hc
      rw [heq]
      exact ⟨ho.mintIdentity hcard hfree, rfl, fun hblank => ⟨hblank.1, hblank.2, hblank.3⟩⟩

lemma movesTo_refresh (ho : Owned h b s.toCardReads) :
    MovesTo h b s.toCardReads (s.refresh h).toCardReads := by
  obtain ⟨hbind, hblank⟩ := ho.bindCard (c := s.target h) fun _ hd => live_of_target hd
  obtain ⟨howned, hcard, hstays⟩ := s.refresh_freely.owned hbind
  refine ⟨?_, ?_⟩
  · unfold boundAfter at howned ⊢
    rwa [hcard]
  · rcases hblank with hsame | hblank
    · exact .inl (hcard.trans hsame)
    · exact .inr (hstays hblank)

/-- The bound card goes and the refresh that comes with it binds another card, or none. -/
lemma owned_refresh_of_lost (hw : Wired s.toCardReads) (hnone : s.card = none) :
    Owned h s.client.minted (s.refresh h).toCardReads ∧ (s.refresh h).card = s.target h ∧
      Blank (s.refresh h).toCardReads := by
  have hrebind : s.toCardReads.bindCard (s.target h) = s.toCardReads.rebind (s.target h) := by
    unfold CardReads.bindCard
    rw [if_neg]
    rintro ⟨hne, heq⟩
    exact hne (heq.symm.trans hnone)
  have hbind : Owned h s.client.minted (s.toCardReads.bindCard (s.target h)) := by
    rw [hrebind]
    exact hw.rebind fun _ hd => live_of_target hd
  obtain ⟨howned, hcard, hstays⟩ := s.refresh_freely.owned hbind
  rw [hrebind] at hcard hstays
  refine ⟨howned, hcard.trans ?_, hstays (blank_rebind _ _)⟩
  rw [rebind_eq]

lemma movesTo_registryChanged (ho : Owned h b s.toCardReads) (r : Registry) :
    MovesTo h b s.toCardReads ((s.setRegistry r).refresh h).toCardReads := by
  by_cases hlive : ∀ c, s.card = some c → r.live c = true
  · have hstay : Owned h b (s.setRegistry r).toCardReads := ho.setRegistry hlive
    have hcard : (s.setRegistry r).card = s.card := setRegistry_card_of_live hlive
    obtain ⟨howned, hblank⟩ := movesTo_refresh hstay
    unfold boundAfter at howned
    rw [hcard] at howned hblank
    exact ⟨howned, hblank⟩
  · obtain ⟨c, hc, hgone⟩ : ∃ c, s.card = some c ∧ r.live c ≠ true := by
      simpa using hlive
    have hnone : (s.setRegistry r).card = none := by
      show s.card.filter r.live = none
      simp [hc, hgone]
    obtain ⟨howned, htarget, hblank⟩ :=
      owned_refresh_of_lost (h := h) (ho.toWired.setRegistry r) hnone
    have hne : ((s.setRegistry r).refresh h).card ≠ s.card := by
      rw [htarget, hc]
      intro hsame
      exact hgone (live_of_target hsame)
    refine ⟨?_, .inr hblank⟩
    rw [boundAfter, if_neg hne]
    exact howned

/-- The reads stay as they are. -/
lemma movesTo_of_eq {s' : SmartCardHandler} (ho : Owned h b s.toCardReads)
    (heq : s'.toCardReads = s.toCardReads) : MovesTo h b s.toCardReads s'.toCardReads := by
  rw [heq]
  exact ho.movesTo rfl

/-- A free read may start, and that is all. -/
lemma movesTo_of_freely {s' : SmartCardHandler} (ho : Owned h b s.toCardReads)
    (hf : FreelyFrom s.toCardReads s') : MovesTo h b s.toCardReads s'.toCardReads := by
  obtain ⟨howned, hcard, -⟩ := hf.owned ho
  exact howned.movesTo hcard

/-! ## Terminals -/

/-- The state a handler is in when it has taken note of an identity read's terminal. -/
def identityEnded (s : SmartCardHandler) (i : ℕ) (t : Terminal) : SmartCardHandler :=
  { s with toCardReads := s.identityEnds i t, busy := false }

/-- The same, and the holder dismissed the prompt. -/
def identityDismissed (s : SmartCardHandler) (i : ℕ) (t : Terminal) : SmartCardHandler :=
  { s.identityEnded i t with errorMessage := [] }

/-- The same, and the read succeeded. -/
def identityAnswered (h : PlasmoidHost) (s : SmartCardHandler) (i : ℕ) (t : Terminal) :
    SmartCardHandler :=
  { s.identityEnded i t with
    identityRead := true
    identity := .rebuild h.rules h.chars t.identityResult }

/-- The three ways an identity read ends. -/
inductive IdentityFinished (h : PlasmoidHost) (s : SmartCardHandler) (i : ℕ) (t : Terminal)
    (s' : SmartCardHandler) : Prop
  | dismissed : t.status ≠ .ok → s' = (s.identityDismissed i t).classifyActiveCard h →
      IdentityFinished h s i t s'
  | failed : t.status ≠ .ok → s'.toCardReads = s.identityEnds i t → s'.busy = false →
      IdentityFinished h s i t s'
  /-- The holder's identity is shown, and a photo read may start. -/
  | answered (s₁ : SmartCardHandler) : t.status = .ok →
      s₁ = (s.identityAnswered h i t).classifyActiveCard h →
      s' = { s₁ with toCardReads := s₁.startPhotoRead } → IdentityFinished h s i t s'

/-- A terminal is that of the identity read or of the photo read. -/
lemma finished_cases (hw : Wired s.toCardReads) {i : ℕ} {t : Terminal}
    (hal : Event.guard s (.finished i t)) :
    (s.identityOp = some i ∧ IdentityFinished h s i t (s.finished h i t)) ∨
      (s.photoOp = some i ∧ s.finished h i t = { s with
        toCardReads := CardReads.onPhotoFinished h
          { s.toCardReads with client := s.client.finish i t } t }) := by
  obtain ⟨hi, halive, hrun⟩ := hal
  have hconn : (s.client.ops i).connected = true := by
    rcases hw.heard i hi with hconn | hgone
    · exact hconn
    · rw [halive] at hgone
      cases hgone
  rcases hw.pending i ⟨hi, hconn, halive, hrun⟩ with hop | hop
  · refine .inl ⟨hop, ?_⟩
    have hreq := (hw.identity i hop).2
    simp only [finished, hconn, hreq, if_true, onOperationFinished, hop]
    split_ifs with hcancel hok
    · exact .dismissed (by simp [hcancel.1]) rfl
    · exact .failed hok rfl rfl
    · exact .answered _ (not_not.1 hok) rfl rfl
  · refine .inr ⟨hop, ?_⟩
    have hreq := (hw.photo i hop).2
    simp only [finished, hconn, hreq, if_true, reduceCtorEq, if_false]

lemma owned_finished (ho : Owned h b s.toCardReads) {i : ℕ} {t : Terminal}
    (hal : Event.guard s (.finished i t)) :
    Owned h b (s.finished h i t).toCardReads ∧ (s.finished h i t).card = s.card := by
  rcases s.finished_cases (h := h) ho.toWired hal with ⟨hop, hend⟩ | ⟨hop, heq⟩
  · cases hend with
    | dismissed hfail heq =>
        rw [heq]
        have hends : Owned h b (s.identityDismissed i t).toCardReads :=
          ho.identityFails hop hfail
        obtain ⟨howned, hcard, -⟩ := (classifyActiveCard_freely _).owned hends
        exact ⟨howned, hcard⟩
    | failed hfail heq =>
        rw [heq]
        exact ⟨ho.identityFails hop hfail, rfl⟩
    -- The answer is of the card that is bound: the guard of the slot has seen to that.
    | answered s₁ hok hs₁ heq =>
        have hanswers : Owned h b (s.identityAnswered h i t).toCardReads :=
          ho.identityAnswers hop hok
        have hfree : FreelyFrom (s.identityAnswered h i t).toCardReads s₁ := by
          rw [hs₁]
          exact classifyActiveCard_freely _
        obtain ⟨howned, hcard, -⟩ := hfree.owned hanswers
        rw [heq]
        refine ⟨howned.startPhotoRead, ?_⟩
        rcases s₁.startPhotoRead_cases with hsame | ⟨c, -, -, hsame⟩
        · show s₁.startPhotoRead.card = s.card
          rw [hsame]
          exact hcard
        · show s₁.startPhotoRead.card = s.card
          rw [hsame]
          exact hcard
  · rw [heq]
    exact ⟨ho.onPhotoFinished hop, (onPhotoFinished_frame hop t).2.1⟩

end SmartCardHandler

/-! ## Events that refresh -/

namespace SmartCardHandler

variable {s u : SmartCardHandler} {e : Event}

/-- The state in which an event runs `refresh`, when it does. -/
def refreshes (s : SmartCardHandler) : Event → Option SmartCardHandler
  | .registryChanged r => some (s.setRegistry r)
  | .refresh => some s
  | .setBoundReaderName name =>
      if s.boundReaderName = name then none
      else some { s with boundReaderName := name, selectedReaderName := [] }
  | .selectReader friendlyName =>
      if s.boundReaderName ≠ [] ∨ s.selectedReaderName = friendlyName then none
      else some { s with selectedReaderName := friendlyName }
  | .agentStartFinished result =>
      if s.agentStarting then
        some { s with agentStarting := false, agentStartFailed := result = .failed }
      else none
  | _ => none

lemma step_of_refreshes (hu : s.refreshes e = some u) : step h s e = u.refresh h := by
  cases e <;> simp only [refreshes, Option.some.injEq, reduceCtorEq] at hu
  case registryChanged r => rw [← hu]; rfl
  case refresh => rw [← hu]; rfl
  case setBoundReaderName name =>
    split_ifs at hu with hsame
    rw [← Option.some.inj hu]
    show s.setBoundReaderName h name = _
    rw [setBoundReaderName, if_neg hsame]
  case selectReader friendlyName =>
    split_ifs at hu with hguard
    obtain ⟨hbound, hsame⟩ := not_or.1 hguard
    rw [← Option.some.inj hu]
    show s.selectReader h friendlyName = _
    rw [selectReader, if_neg hbound, if_neg hsame]
  case agentStartFinished result =>
    split_ifs at hu with hstarting
    rw [← Option.some.inj hu]
    show s.onAgentStartFinished h result = _
    rw [onAgentStartFinished, if_neg (not_not.2 hstarting)]

end SmartCardHandler

/-! ## Steps -/

/-- Since when the card is bound: the number of operations minted before. -/
def noteBound (h : PlasmoidHost) (b : ℕ) (s : SmartCardHandler) (e : Event) : ℕ :=
  boundAfter b s.toCardReads (step h s e).toCardReads

/-- The handler and the number its card was bound under. -/
def boundMachine (h : PlasmoidHost) : Reactive.Machine (SmartCardHandler × ℕ) Event :=
  (machine h).watch 0 (noteBound h)

instance (x : SmartCardHandler × ℕ) (e : Event) : Decidable ((boundMachine h).allows x e) :=
  inferInstanceAs (Decidable (allows x.1 e))

open SmartCardHandler

/-- What the reads of a handler satisfy, gone or not. -/
def Kept (h : PlasmoidHost) (b : ℕ) (s : SmartCardHandler) : Prop :=
  Owned h b s.toCardReads ∨ s.destroyed = true ∧ s.photoStore.images s.photoSlot = none

variable {s : SmartCardHandler} {b : ℕ} {e : Event}

/-- Another widget's photo is none of this one's business. -/
lemma owned_sibling (ho : Owned h b s.toCardReads) {slot : ℕ} {image : Option QImage}
    (hslot : slot ≠ s.photoSlot) :
    Owned h b { s.toCardReads with
      photoStore := ⟨Function.update s.photoStore.images slot image⟩ } :=
  { ho with
    photoShown := by
      simp only [Function.update_of_ne hslot.symm]
      exact ho.photoShown }

/-- What an event does to the reads. -/
inductive Touches (h : PlasmoidHost) (s : SmartCardHandler) (e : Event) (s' : SmartCardHandler) :
    Prop
  | stays : s'.toCardReads = s.toCardReads → Touches h s e s'
  | refreshes (s₁ : SmartCardHandler) : s.refreshes e = some s₁ →
      s₁.toCardReads = s.toCardReads → s' = s₁.refresh h → Touches h s e s'
  /-- The registry moves, and no card goes. -/
  | moves (r : Registry) : s' = s.setRegistry (r.keeping s.client.registry) → Touches h s e s'
  | swaps (r : Registry) : e = .registryChanged r → s' = (s.setRegistry r).refresh h →
      Touches h s e s'
  | classifies : s' = s.classifyActiveCard h → Touches h s e s'
  /-- The free read, if its conditions hold. -/
  | frees (s₁ : SmartCardHandler) : s₁.toCardReads = s.toCardReads →
      (s₁.viewActive = true ∨ e = .ensureFreeRead) → s' = s₁.ensureFreeRead → Touches h s e s'
  /-- The read the user asks for. -/
  | reads (c : CardRef) : e = .readIdentity → s.card = some c → s.identityOp = none →
      s'.toCardReads = s.mintIdentity c → Touches h s e s'
  | warms (c : CardRef) : s.card = some c → s.unlockRequired = false →
      s'.toCardReads = { s.toCardReads with warmed := s.warmed ++ [c] } → Touches h s e s'
  | ends (i : ℕ) (t : Terminal) : e = .finished i t → s' = s.finished h i t → Touches h s e s'
  | sibling (slot : ℕ) (image : Option QImage) : e = .sibling slot image →
      s'.toCardReads = { s.toCardReads with
        photoStore := ⟨Function.update s.photoStore.images slot image⟩ } → Touches h s e s'
  | goes : e = .destroy → s' = s.destroy → Touches h s e s'

/-- **What an event amounts to**, but for the signs. -/
inductive Turn (h : PlasmoidHost) (s : SmartCardHandler) (e : Event) (s' : SmartCardHandler) : Prop
  | aside : Beside s s' → Turn h s e s'
  /-- A refresh, over reads that are as they were. -/
  | refreshes (s₁ : SmartCardHandler) : s.refreshes e = some s₁ →
      s₁.toCardReads = s.toCardReads → s₁.busy = s.busy → s' = s₁.refresh h → Turn h s e s'
  | moves (r : Registry) : s' = s.setRegistry (r.keeping s.client.registry) → Turn h s e s'
  | swaps (r : Registry) : e = .registryChanged r → s' = (s.setRegistry r).refresh h →
      Turn h s e s'
  | classifies : s' = s.classifyActiveCard h → Turn h s e s'
  | frees (s₁ : SmartCardHandler) : Beside s s₁ →
      (s₁.viewActive = true ∨ e = .ensureFreeRead) → s' = s₁.ensureFreeRead → Turn h s e s'
  | asks : e = .readIdentity → s' = s.readIdentity → Turn h s e s'
  | warms (c : CardRef) : s.card = some c → s.unlockRequired = false →
      s' = { s with warmed := s.warmed ++ [c] } → Turn h s e s'
  | ends (i : ℕ) (t : Terminal) : e = .finished i t → s' = s.finished h i t → Turn h s e s'
  | sibling (slot : ℕ) (image : Option QImage) : e = .sibling slot image →
      s' = { s with photoStore := ⟨Function.update s.photoStore.images slot image⟩ } →
      Turn h s e s'
  | goes : e = .destroy → s' = s.destroy → Turn h s e s'

lemma turn (h : PlasmoidHost) (s : SmartCardHandler) (e : Event) : Turn h s e (step h s e) := by
  cases e with
  | registry r => exact .moves r rfl
  | registryChanged r => exact .swaps r rfl rfl
  | refresh => exact .refreshes s rfl rfl rfl rfl
  | cardChanged c =>
      show Turn h s _ (s.cardChanged h c)
      unfold SmartCardHandler.cardChanged
      split_ifs
      · exact .classifies rfl
      · exact .aside (.refl s)
  | setBoundReaderName name =>
      show Turn h s _ (s.setBoundReaderName h name)
      unfold SmartCardHandler.setBoundReaderName
      split_ifs with hsame
      · exact .aside (.refl s)
      · exact .refreshes { s with boundReaderName := name, selectedReaderName := [] }
          (if_neg hsame) rfl rfl rfl
  | selectReader friendlyName =>
      show Turn h s _ (s.selectReader h friendlyName)
      unfold SmartCardHandler.selectReader
      split_ifs with hbound hsame
      · exact .aside (.refl s)
      · exact .aside (.refl s)
      · exact .refreshes { s with selectedReaderName := friendlyName }
          (if_neg (not_or.2 ⟨hbound, hsame⟩)) rfl rfl rfl
  | setViewActive active =>
      show Turn h s _ (s.setViewActive active)
      unfold SmartCardHandler.setViewActive
      dsimp only
      split_ifs with hsame hactive
      · exact .aside (.refl s)
      · exact .frees { s with viewActive := active } ⟨rfl, rfl, rfl, rfl, rfl, .inr rfl⟩
          (.inl hactive) rfl
      · exact .aside ⟨rfl, rfl, rfl, rfl, rfl, .inr rfl⟩
  | readIdentity => exact .asks rfl rfl
  | ensureFreeRead => exact .frees s (.refl s) (.inr rfl) rfl
  | openInFiles =>
      show Turn h s _ s.openInFiles
      rcases s.openInFiles_cases with heq | ⟨c, hc, hunlock, heq⟩
      · rw [heq]
        exact .aside (.refl s)
      · exact .warms c hc hunlock heq
  | startAgent => exact .aside (.startAgent s)
  | agentStartFinished result =>
      show Turn h s _ (s.onAgentStartFinished h result)
      unfold SmartCardHandler.onAgentStartFinished
      split_ifs with hstarting
      · exact .refreshes { s with agentStarting := false, agentStartFailed := result = .failed }
          (if_pos hstarting) rfl rfl rfl
      · exact .aside (.refl s)
  | finished i t => exact .ends i t rfl rfl
  | phaseChanged i phase => exact .aside (.phaseChanged s i phase)
  | signFile url => exact .aside (.signFile s url)
  | dismissSignResult => exact .aside (.dismissSignResult s)
  | jobChooses j cands => exact .aside (.pickFirstCert s j cands)
  | jobPhaseChanged j phase => exact .aside (.onPhaseChanged s j phase)
  | jobSucceeded j path level => exact .aside (.onSucceeded s j path level)
  | jobFailed j message => exact .aside (.onFailed s j message)
  | sibling slot image => exact .sibling slot image rfl rfl
  | destroy => exact .goes rfl rfl

/-- A turn, as the reads see it. -/
lemma touches (h : PlasmoidHost) (s : SmartCardHandler) (e : Event) :
    Touches h s e (step h s e) := by
  cases turn h s e with
  | aside hb => exact .stays hb.reads
  | refreshes s₁ hu hsame _ heq => exact .refreshes s₁ hu hsame heq
  | moves r heq => exact .moves r heq
  | swaps r he heq => exact .swaps r he heq
  | classifies heq => exact .classifies heq
  | frees s₁ hb hwhy heq => exact .frees s₁ hb.reads hwhy heq
  | asks he heq =>
      rw [heq]
      rcases s.readIdentity_cases with hquiet | ⟨c, hc, hfree, hreads⟩
      · exact .stays (by rw [hquiet])
      · exact .reads c he hc hfree (by rw [hreads])
  | warms c hc hunlock heq => exact .warms c hc hunlock (by rw [heq])
  | ends i t he heq => exact .ends i t he heq
  | sibling slot image he heq => exact .sibling slot image he (by rw [heq])
  | goes he heq => exact .goes he heq

/-- Until it is destroyed, every event leaves a handler's reads owned by its card. -/
lemma movesTo_step (ho : Owned h b s.toCardReads) (hal : allows s e) (hne : e ≠ .destroy) :
    MovesTo h b s.toCardReads (step h s e).toCardReads := by
  cases touches h s e with
  | stays heq => exact movesTo_of_eq ho heq
  | refreshes s₁ _ hsame heq =>
      rw [heq, ← hsame]
      rw [← hsame] at ho
      exact movesTo_refresh ho
  -- The registry that moved keeps the cards it had, and the bound one among them.
  | moves r heq =>
      rw [heq]
      have hlive : ∀ c, s.card = some c → (r.keeping s.client.registry).live c = true :=
        fun c hc => Registry.live_keeping (ho.live c hc)
      exact (ho.setRegistry hlive).movesTo (setRegistry_card_of_live hlive)
  | swaps r _ heq =>
      rw [heq]
      exact movesTo_registryChanged ho r
  | classifies heq =>
      rw [heq]
      exact movesTo_of_freely ho s.classifyActiveCard_freely
  | frees s₁ hsame _ heq =>
      rw [heq, ← hsame]
      rw [← hsame] at ho
      exact movesTo_of_freely ho s₁.ensureFreeRead_freely
  | reads c _ hc hfree heq =>
      rw [heq]
      exact (ho.mintIdentity hc hfree).movesTo rfl
  | warms c _ _ heq =>
      rw [heq]
      exact Owned.movesTo { ho with } rfl
  | ends i t he heq =>
      rw [heq]
      subst he
      obtain ⟨howned, hcard⟩ := owned_finished (h := h) ho hal.2
      exact howned.movesTo hcard
  | sibling slot image he heq =>
      rw [heq]
      subst he
      exact (owned_sibling ho hal.2).movesTo rfl
  | goes he _ => exact absurd he hne

/-- Once a widget is gone only other widgets move. -/
lemma eq_sibling_of_destroyed (hgone : s.destroyed = true) (hal : allows s e) :
    ∃ slot image, e = .sibling slot image := by
  obtain ⟨halive, -⟩ := hal
  cases e with
  | sibling slot image => exact ⟨slot, image, rfl⟩
  | _ => simp [hgone, Event.isSibling] at halive

lemma kept_step (hk : Kept h b s) (hal : allows s e) :
    Kept h (noteBound h b s e) (step h s e) := by
  rcases hk with ho | ⟨hgone, hstore⟩
  · by_cases hdestroy : e = .destroy
    · subst hdestroy
      exact .inr ⟨rfl, CardPhotoStore.clear_self _ _⟩
    · exact .inl (movesTo_step ho hal hdestroy).owned
  · obtain ⟨slot, image, rfl⟩ := eq_sibling_of_destroyed hgone hal
    have hslot : slot ≠ s.photoSlot := hal.2
    refine .inr ⟨hgone, ?_⟩
    show Function.update s.photoStore.images slot image s.photoSlot = none
    rw [Function.update_of_ne hslot.symm]
    exact hstore

/-- A handler starts with its reads owned under number 0, and with nothing minted: its view is
closed. -/
lemma Start.owned (hs : Start h s) : Owned h 0 s.toCardReads ∧ s.client.minted = 0 := by
  obtain ⟨client, photoStore, photoSlot, hminted, hstore, rfl⟩ := hs
  have hfresh : Owned h 0
      { client := client, photoStore := photoStore, photoSlot := photoSlot } := {
    alive := rfl
    identity := by simp
    photo := by simp
    pending := by
      intro i hi
      have hlt : i < client.minted := hi.minted
      omega
    heard := by
      intro i hi
      have hlt : i < client.minted := hi
      omega
    live := by simp
    bound := Nat.zero_le _
    unbound := fun _ => hminted.le
    identityOwn := by simp
    photoOwn := by simp
    unread := by
      rintro - t ⟨i, -, hi, -⟩
      have hlt : i < client.minted := hi
      omega
    identityShown := fun hshows => absurd hshows IdentityModel.not_shows_empty
    photoShown := by
      rintro (hshows | hphoto)
      · exact absurd hshows CardPhoto.not_shows_empty
      · exact absurd hstore hphoto }
  have hrefresh := (@movesTo_refresh h
    { client := client, photoStore := photoStore, photoSlot := photoSlot } 0 hfresh).owned
  refine ⟨by simpa [boundAfter, hminted, construct] using hrefresh, ?_⟩
  show (construct h client photoStore photoSlot).toCardReads.client.minted = 0
  rw [construct, refresh_quiet rfl, bindCard_minted]
  exact hminted

/-! ## What else a step leaves alone -/

namespace SmartCardHandler

variable {s u : SmartCardHandler} {e : Event}

namespace SameRoster

variable {v : SmartCardHandler}

lemma ensureFreeRead : SameRoster s s.ensureFreeRead := by
  rcases s.ensureFreeRead_cases with heq | ⟨c, -, -, heq⟩ <;> rw [heq] <;> exact ⟨rfl, rfl, rfl⟩

lemma classifyActiveCard : SameRoster s (s.classifyActiveCard h) := by
  obtain ⟨s', hb, -, -, -, heq | ⟨-, heq⟩⟩ := s.classifyActiveCard_eq (h := h)
  · rw [heq]
    exact hb.sameRoster
  · rw [heq]
    exact hb.sameRoster.trans ensureFreeRead

/-- A refresh takes the rosters over, and leaves them so. -/
lemma refresh : SameRoster (s.updateReaderRosters h) (s.refresh h) := by
  obtain ⟨s', hs', ⟨heq, -⟩ | ⟨heq, -⟩⟩ := s.refresh_eq (h := h)
  · rw [heq]
    exact hs'.roster.trans ⟨rfl, rfl, rfl⟩
  · rw [heq]
    exact hs'.roster.trans (classifyActiveCard.trans ⟨rfl, rfl, rfl⟩)

lemma classified (hv : SameRoster s v) : SameRoster s (v.classifyActiveCard h) :=
  hv.trans classifyActiveCard

lemma withReads (hv : SameRoster s v) (r : CardReads) : SameRoster s { v with toCardReads := r } :=
  ⟨hv.bound, hv.selected, hv.present⟩

lemma onOperationFinished (t : Terminal) : SameRoster s (s.onOperationFinished h t) := by
  unfold SmartCardHandler.onOperationFinished
  cases s.identityOp with
  | none => exact ⟨rfl, rfl, rfl⟩
  | some i =>
      dsimp only
      split_ifs
      · exact classified ⟨rfl, rfl, rfl⟩
      · exact ⟨rfl, rfl, rfl⟩
      · apply withReads
        apply classified
        exact ⟨rfl, rfl, rfl⟩

lemma finished (i : ℕ) (t : Terminal) : SameRoster s (s.finished h i t) := by
  unfold SmartCardHandler.finished
  dsimp only
  split_ifs
  · have hfinish : SameRoster s { s with client := s.client.finish i t } := ⟨rfl, rfl, rfl⟩
    exact hfinish.trans (onOperationFinished t)
  · exact ⟨rfl, rfl, rfl⟩
  · exact ⟨rfl, rfl, rfl⟩

end SameRoster

/-- Every other event leaves the rosters as they are. -/
lemma sameRoster_of_not_refreshes (hn : s.refreshes e = none) : SameRoster s (step h s e) := by
  cases turn h s e with
  | aside hb => exact hb.sameRoster
  | refreshes s₁ hu _ _ _ => cases hn.symm.trans hu
  | moves r heq =>
      rw [heq]
      exact ⟨rfl, rfl, rfl⟩
  | swaps r he _ =>
      subst he
      cases hn
  | classifies heq =>
      rw [heq]
      exact .classifyActiveCard
  | frees s₁ hb _ heq =>
      rw [heq]
      exact hb.sameRoster.trans .ensureFreeRead
  | asks _ heq =>
      rw [heq]
      rcases s.readIdentity_cases with hquiet | ⟨c, -, -, hreads⟩
      · rw [hquiet]
        exact .refl s
      · rw [hreads]
        exact ⟨rfl, rfl, rfl⟩
  | warms c _ _ heq =>
      rw [heq]
      exact ⟨rfl, rfl, rfl⟩
  | ends i t _ heq =>
      rw [heq]
      exact .finished i t
  | sibling slot image _ heq =>
      rw [heq]
      exact ⟨rfl, rfl, rfl⟩
  | goes _ heq =>
      rw [heq]
      exact ⟨rfl, rfl, rfl⟩

/-! ### The card a step leaves bound -/

lemma FreelyFrom.card {base : CardReads} (hf : FreelyFrom base u) : u.card = base.card := by
  cases hf with
  | quiet heq => rw [heq]
  | reads c _ _ heq =>
      rw [heq]
      rfl

lemma refresh_card (s : SmartCardHandler) : (s.refresh h).card = s.target h := by
  rw [s.refresh_freely.card, bindCard_card]

/-- Only a refresh binds another card. -/
lemma card_of_not_refreshes {b : ℕ} (ho : Owned h b s.toCardReads) (hal : allows s e)
    (hn : s.refreshes e = none) : (step h s e).card = s.card := by
  cases touches h s e with
  | stays heq => rw [heq]
  | refreshes s₁ hu _ _ =>
      rw [hn] at hu
      cases hu
  | moves r heq =>
      rw [heq]
      exact setRegistry_card_of_live fun c hc => Registry.live_keeping (ho.live c hc)
  | swaps r he _ =>
      subst he
      cases hn
  | classifies heq =>
      rw [heq]
      exact s.classifyActiveCard_freely.card
  | frees s₁ hsame _ heq =>
      rw [heq, s₁.ensureFreeRead_freely.card, hsame]
  | reads c _ _ _ heq =>
      rw [heq]
      rfl
  | warms c _ _ heq => rw [heq]
  | ends i t he heq =>
      rw [heq]
      subst he
      exact (owned_finished (h := h) ho hal.2).2
  | sibling slot image _ heq => rw [heq]
  | goes _ heq =>
      rw [heq]
      rfl

end SmartCardHandler

/-! ## A widget -/

/-- A widget over a reader that holds a national identity card. -/
def widget : SmartCardHandler :=
  .construct .plain { registry := .desk (qs "r") 1 (.eid true) } ⟨fun _ => none⟩ 1

lemma start_widget : Start .plain widget := ⟨_, _, _, rfl, rfl, rfl⟩

end LibreKDE.Plasmoid
