import LibreKDE.Plasmoid.SignLedger

/-!
# One reader's sign is not another's

A sign the user started goes on across a switch of the displayed reader, and the user may start
others meanwhile.  The state of signing is a table by reader name, written by the slots of jobs
long out of sight and pruned when the roster is read; what is shown of it depends on the reader
displayed and the card bound.  `Isolated` says of one state that each reader's sign stays its
own.

It holds throughout a run except for three slips.  Dismissing a result leaves the phase its job
ended in, which then shows as that of a reader that is not signing.  The chooser changes the label
of the job's entry without publishing it.  And the table has one entry for a name: where two readers
share one, the sign of the one's card overwrites what the other's ended as, and a dismissal over the
one may empty the entry of the other.
-/

namespace LibreKDE.Plasmoid

open Reactive

variable {h : PlasmoidHost}

namespace SmartCardHandler

/-- What was last signalled is what the surfaces are. -/
def Published (s : SmartCardHandler) : Prop :=
  s.publishedSigningBusy = s.signingBusy ∧ s.publishedSignPhase = s.signPhase ∧
    s.publishedSignResult = some s.signResult

lemma published_publishSignSurfaces (s : SmartCardHandler) : s.publishSignSurfaces.Published :=
  ⟨rfl, rfl, rfl⟩

/-! ## Methods that have nothing to do with signing -/

/-- Nothing changes that the sign surfaces depend on, and no card goes. -/
structure Aside (s s' : SmartCardHandler) : Prop where
  signs : s'.toSignStates = s.toSignStates
  card : s'.card = s.card
  readerName : s'.readerName = s.readerName
  live : ∀ c, s.client.registry.live c = true → s'.client.registry.live c = true

namespace Aside

variable {s s' s'' : SmartCardHandler}

@[refl] lemma refl (s : SmartCardHandler) : Aside s s := ⟨rfl, rfl, rfl, fun _ hc => hc⟩

lemma trans (h₁ : Aside s s') (h₂ : Aside s' s'') : Aside s s'' where
  signs := h₂.signs.trans h₁.signs
  card := h₂.card.trans h₁.card
  readerName := h₂.readerName.trans h₁.readerName
  live c hc := h₂.live c (h₁.live c hc)

lemma activeSignState (ha : Aside s s') : s'.activeSignState = s.activeSignState := by
  unfold SmartCardHandler.activeSignState
  rw [ha.signs, ha.card, ha.readerName]

lemma published (ha : Aside s s') (hp : s.Published) : s'.Published := by
  unfold Published signingBusy signPhase signResult at hp ⊢
  rw [ha.activeSignState, ha.signs]
  exact hp

end Aside

variable {s : SmartCardHandler}

lemma readIdentity_aside (s : SmartCardHandler) : Aside s s.readIdentity := by
  rcases s.readIdentity_cases with heq | ⟨c, -, -, heq⟩
  · rw [heq]
  · rw [heq]
    exact ⟨rfl, rfl, rfl, fun _ hc => hc⟩

lemma ensureFreeRead_aside (s : SmartCardHandler) : Aside s s.ensureFreeRead := by
  rcases s.ensureFreeRead_cases with heq | ⟨c, -, -, heq⟩
  · rw [heq]
  · rw [heq]
    exact ⟨rfl, rfl, rfl, fun _ hc => hc⟩

lemma classifyActiveCard_aside (s : SmartCardHandler) : Aside s (s.classifyActiveCard h) := by
  obtain ⟨s', hb, -, hsigns, hname, hto⟩ := s.classifyActiveCard_eq (h := h)
  have hs' : Aside s s' := by
    refine ⟨hsigns, ?_, hname, ?_⟩
    · rw [hb.reads]
    · rw [hb.reads]
      exact fun _ hc => hc
  rcases hto with heq | ⟨-, heq⟩
  · rw [heq]
    exact hs'
  · rw [heq]
    exact hs'.trans s'.ensureFreeRead_aside

lemma openInFiles_aside (s : SmartCardHandler) : Aside s s.openInFiles := by
  rcases s.openInFiles_cases with heq | ⟨c, -, -, heq⟩
  · rw [heq]
  · rw [heq]
    exact ⟨rfl, rfl, rfl, fun _ hc => hc⟩

lemma setViewActive_aside (s : SmartCardHandler) (active : Bool) :
    Aside s (s.setViewActive active) := by
  have hset : Aside s { s with viewActive := active } := ⟨rfl, rfl, rfl, fun _ hc => hc⟩
  unfold setViewActive
  simp only
  split_ifs
  · rfl
  · exact hset.trans (ensureFreeRead_aside _)
  · exact hset

lemma cardChanged_aside (s : SmartCardHandler) (c : CardRef) : Aside s (s.cardChanged h c) := by
  unfold cardChanged
  split_ifs
  · exact s.classifyActiveCard_aside
  · rfl

lemma startPhotoRead_aside (s : SmartCardHandler) :
    Aside s { s with toCardReads := s.startPhotoRead } := by
  rcases s.startPhotoRead_cases with heq | ⟨c, -, -, heq⟩
  · rw [heq]
  · rw [heq]
    exact ⟨rfl, rfl, rfl, fun _ hc => hc⟩

lemma onPhotoFinished_aside (s : SmartCardHandler) (t : Terminal) :
    Aside s { s with toCardReads := s.toCardReads.onPhotoFinished h t } := by
  unfold CardReads.onPhotoFinished
  simp only
  split
  · rfl
  · split_ifs
    · exact ⟨rfl, rfl, rfl, fun _ hc => hc⟩
    · split <;> exact ⟨rfl, rfl, rfl, fun _ hc => hc⟩

lemma onOperationFinished_aside (s : SmartCardHandler) (t : Terminal) :
    Aside s (s.onOperationFinished h t) := by
  unfold onOperationFinished
  simp only
  split
  · exact ⟨rfl, rfl, rfl, fun _ hc => hc⟩
  · split_ifs
    · refine Aside.trans ?_ (classifyActiveCard_aside _)
      exact ⟨rfl, rfl, rfl, fun _ hc => hc⟩
    · exact ⟨rfl, rfl, rfl, fun _ hc => hc⟩
    · refine Aside.trans (Aside.trans ?_ (classifyActiveCard_aside _)) (startPhotoRead_aside _)
      exact ⟨rfl, rfl, rfl, fun _ hc => hc⟩

lemma finished_aside (s : SmartCardHandler) (i : ℕ) (t : Terminal) :
    Aside s (s.finished h i t) := by
  have hend : Aside s { s with client := s.client.finish i t } := ⟨rfl, rfl, rfl, fun _ hc => hc⟩
  unfold finished
  simp only
  split_ifs
  · exact hend.trans (onOperationFinished_aside _ t)
  · exact hend.trans (onPhotoFinished_aside _ t)
  · exact hend

lemma phaseChanged_aside (s : SmartCardHandler) (i : ℕ) (phase : OperationPhase) :
    Aside s (s.phaseChanged i phase) := by
  unfold phaseChanged
  split_ifs
  · exact ⟨rfl, rfl, rfl, fun _ hc => hc⟩
  · rfl

lemma startAgent_aside (s : SmartCardHandler) : Aside s s.startAgent := by
  unfold startAgent
  split_ifs
  · rfl
  · exact ⟨rfl, rfl, rfl, fun _ hc => hc⟩

/-! ## Refreshing -/

/-- A refresh prunes the entries, binds its target, and publishes. -/
structure Refreshed (h : PlasmoidHost) (s s' : SmartCardHandler) : Prop where
  published : s'.Published
  card : s'.card = s.target h
  live : ∀ c, s.client.registry.live c = true → s'.client.registry.live c = true
  signStates : s'.signStates = (s.updateReaderRosters h).signStates
  jobsStarted : s'.jobsStarted = s.jobsStarted
  jobs : s'.jobs = s.jobs

lemma refresh_refreshed (s : SmartCardHandler) : Refreshed h s (s.refresh h) := by
  obtain ⟨s', hs', hto⟩ := s.refresh_eq (h := h)
  obtain ⟨s'', haside, heq⟩ : ∃ s'', Aside s' s'' ∧ s.refresh h = s''.publishSignSurfaces := by
    -- With a card bound refresh() classifies before it publishes; without one it publishes at once.
    rcases hto with ⟨heq, -⟩ | ⟨heq, -⟩
    · exact ⟨s', .refl s', heq⟩
    · exact ⟨_, s'.classifyActiveCard_aside, heq⟩
  have hroster : s''.toSignStates = (s.updateReaderRosters h).toSignStates :=
    haside.signs.trans hs'.signs
  have hstates : s''.signStates = (s.updateReaderRosters h).signStates := by rw [hroster]
  have hstarted : s''.jobsStarted = s.jobsStarted := by rw [hroster]; rfl
  have hjobs : s''.jobs = s.jobs := by rw [hroster]; rfl
  rw [heq]
  exact
    { published := s''.published_publishSignSurfaces
      card := by
        show s''.card = s.target h
        rw [haside.card, hs'.reads, CardReads.bindCard_card]
      live := by
        intro c hc
        apply haside.live c
        rwa [hs'.reads, CardReads.bindCard_registry]
      signStates := hstates
      jobsStarted := hstarted
      jobs := hjobs }

end SmartCardHandler

open SmartCardHandler

/-! ## Following the ledger -/

/-- The handler's table is the ledger, and the bound card is there. -/
structure Faithful (l : Ledger) (s : SmartCardHandler) : Prop where
  tracks : Tracks l s.client.registry s.toSignStates
  bound : ∀ c, s.card = some c → s.client.registry.live c = true

variable {l : Ledger} {s s' : SmartCardHandler} {e : Event}

namespace Faithful

lemma aside (hf : Faithful l s) (ha : Aside s s') : Faithful l s' where
  tracks := by
    rw [ha.signs]
    exact hf.tracks.mono ha.live
  bound c hc := ha.live c (hf.bound c (ha.card.symm.trans hc))

lemma refresh (hf : Faithful l s) : Faithful (l.forget s.client.registry) (s.refresh h) where
  tracks := by
    have hr := s.refresh_refreshed (h := h)
    have htracks : Tracks (l.forget s.client.registry) s.client.registry
        (s.refresh h).toSignStates :=
      hf.tracks.forget hr.signStates hr.jobsStarted hr.jobs
    exact htracks.mono hr.live
  bound c hc := by
    have hr := s.refresh_refreshed (h := h)
    exact hr.live c (live_of_target (hr.card.symm.trans hc))

lemma setRegistry (hf : Faithful l s) (r : Registry) : Faithful (l.lose r) (s.setRegistry r) where
  tracks := hf.tracks.lose rfl rfl rfl
  bound _ hc := (Option.filter_eq_some_iff.1 hc).2

lemma entry_eq (hf : Faithful l s) {reader : QString} {x : JobRecord} (hx : l reader = some x) :
    s.entry reader = x.entry := by
  rw [SmartCardHandler.entry, hf.tracks.entries, hx]
  rfl

lemma entry_job_isSome (hf : Faithful l s) (reader : QString) :
    (s.entry reader).job.isSome = (l reader).any JobRecord.isRunning := by
  cases hx : l reader with
  | none =>
      rw [SmartCardHandler.entry, hf.tracks.entries, hx]
      rfl
  | some x =>
      rw [hf.entry_eq hx, JobRecord.entry_job_isSome]
      rfl

/-- As long as no card goes a move of the registry changes nothing. -/
lemma setRegistry_aside (hf : Faithful l s) {r : Registry}
    (hkeep : ∀ c, s.client.registry.live c = true → r.live c = true) :
    Aside s (s.setRegistry r) where
  signs := by
    -- The map holds QPointers: an entry changes only where its card was destroyed.
    have hstates : (s.setRegistry r).signStates = s.signStates := by
      funext reader
      have hlost := (hf.setRegistry r).tracks.entries reader
      rw [hf.tracks.lose_eq hkeep] at hlost
      rw [hlost, hf.tracks.entries]
    show { s.toSignStates with signStates := (s.setRegistry r).signStates } = s.toSignStates
    rw [hstates]
  card := CardReads.setRegistry_card_of_live fun c hc => hkeep c (hf.bound c hc)
  readerName := rfl
  live := hkeep

end Faithful

/-- The events of signing: those that write the map of the entries, or publish it. -/
def Event.isSigning : Event → Bool
  | .signFile _ | .dismissSignResult | .jobChooses .. | .jobPhaseChanged .. | .jobSucceeded ..
  | .jobFailed .. => true
  | _ => false

/-- What the other events do to the signing state: nothing, a refresh, or a refresh after cards have
gone. -/
inductive Lands (h : PlasmoidHost) (l : Ledger) (s : SmartCardHandler) (e : Event) : Prop
  | aside : Aside s (step h s e) → look h l s e = l → Lands h l s e
  /-- The widget reads the roster. -/
  | reread (s₁ : SmartCardHandler) : Aside s s₁ → step h s e = s₁.refresh h →
      look h l s e = l.forget s₁.client.registry → Lands h l s e
  | moved (r : Registry) : step h s e = (s.setRegistry r).refresh h →
      look h l s e = (l.lose r).forget r → Lands h l s e

/-- A method that reads the roster on a condition, and is idle without. -/
lemma lands_of_eq {S : SmartCardHandler} {p : Prop} [Decidable p] (ha : Aside s S)
    (hregistry : S.client.registry = s.client.registry)
    (hstep : step h s e = if p then S.refresh h else s)
    (hlook : look h l s e = if p then l.forget s.client.registry else l) : Lands h l s e := by
  by_cases hp : p
  · rw [if_pos hp] at hstep hlook
    exact .reread S ha hstep (hregistry ▸ hlook)
  · rw [if_neg hp] at hstep hlook
    exact .aside (by rw [hstep]) hlook

lemma lands (hf : Faithful l s) (he : e.isSigning = false) : Lands h l s e := by
  cases e with
  | registry r => exact .aside (hf.setRegistry_aside fun c hc => Registry.live_keeping hc) rfl
  | registryChanged r => exact .moved r rfl rfl
  | refresh => exact .reread s (.refl s) rfl rfl
  | cardChanged c => exact .aside (s.cardChanged_aside c) rfl
  | setBoundReaderName name =>
      -- The setters return early on an unchanged value, and then neither side has moved.
      refine lands_of_eq (p := s.boundReaderName ≠ name)
        (S := { s with boundReaderName := name, selectedReaderName := [] })
        ⟨rfl, rfl, rfl, fun _ hc => hc⟩ rfl ?_ ?_
      · by_cases hname : s.boundReaderName = name <;>
          simp [step, SmartCardHandler.setBoundReaderName, hname]
      · simp [look, Event.readsRoster]
  | selectReader friendlyName =>
      refine lands_of_eq (p := s.boundReaderName = [] ∧ s.selectedReaderName ≠ friendlyName)
        (S := { s with selectedReaderName := friendlyName })
        ⟨rfl, rfl, rfl, fun _ hc => hc⟩ rfl ?_ ?_
      · by_cases hbound : s.boundReaderName = [] <;>
          by_cases hname : s.selectedReaderName = friendlyName <;>
          simp [step, SmartCardHandler.selectReader, hbound, hname]
      · simp [look, Event.readsRoster]
  | setViewActive active => exact .aside (s.setViewActive_aside active) rfl
  | readIdentity => exact .aside s.readIdentity_aside rfl
  | ensureFreeRead => exact .aside s.ensureFreeRead_aside rfl
  | openInFiles => exact .aside s.openInFiles_aside rfl
  | startAgent => exact .aside s.startAgent_aside rfl
  | agentStartFinished result =>
      refine lands_of_eq (p := s.agentStarting = true)
        (S := { s with agentStarting := false, agentStartFailed := result = .failed })
        ⟨rfl, rfl, rfl, fun _ hc => hc⟩ rfl ?_ ?_
      · by_cases hstarting : s.agentStarting = true <;>
          simp [step, SmartCardHandler.onAgentStartFinished, hstarting]
      · rfl
  | finished i t => exact .aside (s.finished_aside i t) rfl
  | phaseChanged i phase => exact .aside (s.phaseChanged_aside i phase) rfl
  | sibling slot image => exact .aside ⟨rfl, rfl, rfl, fun _ hc => hc⟩ rfl
  | destroy => exact .aside ⟨rfl, rfl, rfl, fun _ hc => hc⟩ rfl
  | _ => cases he

/-! ## Signing -/

namespace Faithful

variable {j : ℕ}

lemma jobPhaseChanged (hf : Faithful l s) (hj : s.LiveJob j) (phase : OperationPhase) :
    Faithful (l.note j fun x => { x with phase := phase }) (s.onPhaseChanged j phase) := by
  obtain ⟨x, hx, rfl, hrun⟩ := hf.tracks.record hj.1 hj.2
  have hstate : s.signStates (s.jobs x.job).reader = some x.entry := by
    rw [hf.tracks.entries, hx]
    rfl
  unfold SmartCardHandler.onPhaseChanged
  simp only [hstate]
  refine ⟨hf.tracks.note hx rfl rfl rfl rfl ?_, hf.bound⟩
  have hself : s.jobs x.job = ⟨(s.jobs x.job).reader, !x.isRunning⟩ := (hf.tracks.jobs _ x hx).2
  exact (Function.update_eq_self_iff.2 hself.symm).symm

lemma jobChooses (hf : Faithful l s) (hj : s.LiveJob j) (cands : List CertificateInfo) :
    Faithful (look h l s (.jobChooses j cands)) (s.pickFirstCert j cands) := by
  obtain ⟨x, hx, rfl, hrun⟩ := hf.tracks.record hj.1 hj.2
  cases cands with
  | nil => exact hf
  | cons picked rest =>
      refine ⟨hf.tracks.note hx rfl rfl ?_ rfl ?_, hf.bound⟩
      · show Function.update s.signStates (s.jobs x.job).reader (some _) = _
        rw [hf.entry_eq hx]
        simp [JobRecord.entry, JobRecord.isRunning, JobRecord.result, hrun, certLabelOf]
      · have hself : s.jobs x.job = ⟨(s.jobs x.job).reader, !x.isRunning⟩ :=
          (hf.tracks.jobs _ x hx).2
        exact (Function.update_eq_self_iff.2 hself.symm).symm

lemma jobSucceeded (hf : Faithful l s) (hj : s.LiveJob j) (outputPath level : QString) :
    Faithful (l.note j fun x => { x with fate := .succeeded outputPath level })
      (s.onSucceeded j outputPath level) := by
  obtain ⟨x, hx, rfl, hrun⟩ := hf.tracks.record hj.1 hj.2
  refine ⟨hf.tracks.note hx rfl rfl ?_ rfl rfl, hf.bound⟩
  show Function.update s.signStates (s.jobs x.job).reader
    (some { s.entry (s.jobs x.job).reader with
      job := none, outcome := _, outputPath := _, level := _, message := _ }) = _
  rw [hf.entry_eq hx]
  simp [JobRecord.entry, JobRecord.isRunning, JobRecord.result, hrun]

lemma jobFailed (hf : Faithful l s) (hj : s.LiveJob j) (message : QString) :
    Faithful (l.note j fun x => { x with fate := .failed message }) (s.onFailed j message) := by
  obtain ⟨x, hx, rfl, hrun⟩ := hf.tracks.record hj.1 hj.2
  refine ⟨hf.tracks.note hx rfl rfl ?_ rfl rfl, hf.bound⟩
  show Function.update s.signStates (s.jobs x.job).reader
    (some { s.entry (s.jobs x.job).reader with
      job := none, outcome := _, outputPath := _, level := _, message := _ }) = _
  rw [hf.entry_eq hx]
  simp [JobRecord.entry, JobRecord.isRunning, JobRecord.result, hrun]

end Faithful

/-- A job is started, and has not reported yet. -/
def SmartCardHandler.signStarted (s : SmartCardHandler) : SmartCardHandler :=
  publishSignSurfaces (setEntry
    { s with
      errorMessage := []
      jobsStarted := s.jobsStarted + 1
      jobs := Function.update s.jobs s.jobsStarted { reader := s.readerName } }
    s.readerName { job := some s.jobsStarted, card := s.card })

/-- A request to sign is refused while the displayed reader's job runs; else it starts one,
which may fail on the spot. -/
lemma signFile_eq (s : SmartCardHandler) (fileUrl : QString) :
    s.signFile h fileUrl =
      if (s.entry s.readerName).job.isSome then s
      else
        match s.failsAtOnce h fileUrl with
        | some message => s.signStarted.onFailed s.jobsStarted message
        | none => s.signStarted := by
  unfold SmartCardHandler.signFile
  simp only
  split_ifs
  · rfl
  · have hsignals : s.signStarted.startSignals h ((h.toLocalFile fileUrl).getD fileUrl) =
        s.startSignals h ((h.toLocalFile fileUrl).getD fileUrl) := rfl
    unfold SmartCardHandler.signStarted at hsignals ⊢
    rw [hsignals]
    unfold failsAtOnce
    cases s.startSignals h ((h.toLocalFile fileUrl).getD fileUrl) with
    | nil => rfl
    | cons signal rest => cases signal <;> rfl

namespace Faithful

lemma signStarted (hf : Faithful l s) (hidle : (l s.readerName).any JobRecord.isRunning = false) :
    Faithful (l.enter s.readerName { job := s.jobsStarted, card := s.card }) s.signStarted where
  tracks := by
    refine hf.tracks.enter rfl ?_ rfl (.inl rfl) ?_ hf.bound
    · exact (max_eq_right (Nat.le_succ _)).symm
    · intro y hy
      rw [hy] at hidle
      exact .inr hidle
  bound := hf.bound

lemma signFile (hf : Faithful l s) (fileUrl : QString) :
    Faithful (look h l s (.signFile fileUrl)) (s.signFile h fileUrl) := by
  have hsome := hf.entry_job_isSome s.readerName
  simp only [look, signFile_eq, hsome]
  split_ifs with hbusy
  · exact hf
  · have hstarted := hf.signStarted (by simpa using hbusy)
    cases hfail : s.failsAtOnce h fileUrl with
    | none => exact hstarted
    | some message =>
        -- The job fails inside start(): its failed() is heard by the slot connected before.
        have hlive : s.signStarted.LiveJob s.jobsStarted :=
          ⟨Nat.lt_succ_self _,
            by simp [SmartCardHandler.signStarted, publishSignSurfaces, setEntry]⟩
        have hfailed := hstarted.jobFailed hlive message
        have hentered : (l.enter s.readerName { job := s.jobsStarted, card := s.card })
            s.readerName = some { job := s.jobsStarted, card := s.card } := by
          simp [Ledger.enter]
        rw [hstarted.tracks.note_eq hentered] at hfailed
        simpa [Ledger.enter] using hfailed

lemma dismissSignResult (hf : Faithful l s) :
    Faithful (l.dismiss s.readerName) s.dismissSignResult := by
  unfold SmartCardHandler.dismissSignResult Ledger.dismiss
  rw [hf.tracks.entries]
  cases hx : l s.readerName with
  | none =>
      have hsame : Function.update l s.readerName none = l := Function.update_eq_self_iff.2 hx.symm
      simpa [hsame] using hf
  | some x =>
      simp only [Option.map_some]
      split_ifs with hnothing
      -- Nothing to dismiss: the slot returns and the record is its own dismissal.
      · have hsame : Function.update l s.readerName (some x.dismiss) = l := by
          rw [JobRecord.dismiss_eq_self hnothing]
          exact Function.update_eq_self_iff.2 hx.symm
        rwa [hsame]
      · have hended : x.dismiss.isRunning = x.isRunning := JobRecord.dismiss_isRunning x
        have hcard : x.dismiss.card = x.card := JobRecord.dismiss_card x
        have hjob : x.dismiss.job = x.job := JobRecord.dismiss_job x
        obtain ⟨hlt, hself⟩ := hf.tracks.jobs _ x hx
        refine ⟨hf.tracks.enter ?_ ?_ ?_ (.inr ⟨x, hx, hjob.symm⟩) ?_ ?_, hf.bound⟩
        · rw [JobRecord.entry_dismiss hnothing]
          rfl
        · show s.jobsStarted = max s.jobsStarted (x.dismiss.job + 1)
          omega
        · rw [hjob, hended, ← hself]
          exact (Function.update_eq_self _ _).symm
        · intro y hy
          obtain rfl : x = y := Option.some.inj (hx.symm.trans hy)
          exact .inl hjob.symm
        · intro c hc
          exact hf.tracks.live _ x c hx (hcard.symm.trans hc)

end Faithful

/-- The handler's table is the ledger, whatever happens. -/
lemma faithful_step (hf : Faithful l s) (hal : allows s e) :
    Faithful (look h l s e) (step h s e) := by
  -- The signing members write the map one entry at a time; the others leave it, or sweep it whole.
  by_cases he : e.isSigning = true
  · cases e with
    | signFile fileUrl => exact hf.signFile fileUrl
    | dismissSignResult => exact hf.dismissSignResult
    | jobChooses j cands => exact hf.jobChooses hal.2 cands
    | jobPhaseChanged j phase => exact hf.jobPhaseChanged hal.2 phase
    | jobSucceeded j outputPath level => exact hf.jobSucceeded hal.2 outputPath level
    | jobFailed j message => exact hf.jobFailed hal.2 message
    | _ => cases he
  · cases lands (h := h) hf (by simpa using he) with
    | aside ha hlook =>
        rw [hlook]
        exact hf.aside ha
    | reread s₁ ha hstep hlook =>
        rw [hlook, hstep]
        exact (hf.aside ha).refresh
    | moved r hstep hlook =>
        rw [hlook, hstep]
        exact (hf.setRegistry r).refresh

/-! ## The three slips -/

/-- A dismissal that empties an entry whose card is there finds that of the bound card, and no phase
to leave behind; the chooser leaves the label of the entry that is shown as it is; and a sign that
starts overwrites no outcome of another card that is there. -/
def Careful (s : SmartCardHandler) : Event → Prop
  | .dismissSignResult =>
      (s.signStates s.readerName).all fun x =>
        x.outcome = .none ∨ x.card = none ∨ x.card = s.card ∧ x.phase = .created
  | .signFile _ =>
      (s.signStates s.readerName).all fun x =>
        x.job.isSome ∨ x.outcome = .none ∨ x.card = none ∨ x.card = s.card
  | .jobChooses j (picked :: _) =>
      (s.jobs j).reader = s.readerName →
        s.activeSignState.all fun x => x.certLabel = certLabelOf picked
  | _ => True

/-- What is dismissed is in no phase, as far as its card is still there. -/
def Calm (l : Ledger) : Prop :=
  ∀ reader x, l reader = some x → x.fate = .dismissed → x.phase = .created ∨ x.card = none

namespace Calm

lemma enter (hc : Calm l) {reader : QString} {x : JobRecord}
    (hx : x.fate = .dismissed → x.phase = .created ∨ x.card = none) :
    Calm (l.enter reader x) := by
  intro reader' y hy
  by_cases hsame : reader' = reader
  · subst hsame
    obtain rfl : x = y := by simpa [Ledger.enter] using hy
    exact hx
  · rw [Ledger.enter, Function.update_of_ne hsame] at hy
    exact hc reader' y hy

lemma lose (hc : Calm l) (r : Registry) : Calm (l.lose r) := by
  intro reader x hx hfate
  obtain ⟨y, hy, rfl⟩ := Option.map_eq_some_iff.1 hx
  rcases hc reader y hy hfate with hphase | hcard
  · exact .inl hphase
  · exact .inr (by simp [hcard])

lemma forget (hc : Calm l) (r : Registry) : Calm (l.forget r) := by
  intro reader x hx
  exact hc reader x (Option.filter_eq_some_iff.1 hx).1

/-- A note on a running job that does not dismiss it. -/
lemma note (hc : Calm l) (hf : Faithful l s) {j : ℕ} (hj : s.LiveJob j)
    {f : JobRecord → JobRecord} (hnote : ∀ x, x.fate = .running → (f x).fate ≠ .dismissed) :
    Calm (l.note j f) := by
  obtain ⟨x, hx, rfl, hrun⟩ := hf.tracks.record hj.1 hj.2
  rw [hf.tracks.note_eq hx]
  exact hc.enter fun hdismissed => absurd hdismissed (hnote x hrun)

end Calm

lemma calm_step (hc : Calm l) (hf : Faithful l s) (hal : allows s e) (hok : Careful s e) :
    Calm (look h l s e) := by
  by_cases he : e.isSigning = true
  · cases e with
    | signFile fileUrl =>
        simp only [look]
        split_ifs
        · exact hc
        · apply hc.enter
          intro hdismissed
          cases hfail : s.failsAtOnce h fileUrl <;> simp [hfail] at hdismissed
    | dismissSignResult =>
        show Calm (Function.update l s.readerName _)
        cases hx : l s.readerName with
        | none =>
            have hsame : Function.update l s.readerName none = l :=
              Function.update_eq_self_iff.2 hx.symm
            rw [Option.map_none, hsame]
            exact hc
        | some x =>
            apply hc.enter
            intro hdismissed
            have hentry : s.signStates s.readerName = some x.entry := by
              rw [hf.tracks.entries, hx]
              rfl
            rw [JobRecord.dismiss_phase, JobRecord.dismiss_card]
            simp only [Careful, hentry, Option.all_some, decide_eq_true_eq] at hok
            -- The three ways a dismissal is harmless: nothing there, its card gone, or its phase
            -- still Created.
            rcases hok with hnothing | hgone | ⟨-, hphase⟩
            · rw [JobRecord.dismiss_eq_self hnothing] at hdismissed
              exact hc _ x hx hdismissed
            · exact .inr hgone
            · exact .inl hphase
    | jobChooses j cands =>
        cases cands with
        | nil => exact hc
        | cons picked rest => exact hc.note hf hal.2 fun x hrun => by simp [hrun]
    | jobPhaseChanged j phase => exact hc.note hf hal.2 fun x hrun => by simp [hrun]
    | jobSucceeded j outputPath level => exact hc.note hf hal.2 fun x _ => by simp
    | jobFailed j message => exact hc.note hf hal.2 fun x _ => by simp
    | _ => cases he
  · cases lands (h := h) hf (by simpa using he) with
    | aside _ hlook =>
        rw [hlook]
        exact hc
    | reread s₁ _ _ hlook =>
        rw [hlook]
        exact hc.forget _
    | moved r _ hlook =>
        rw [hlook]
        exact (hc.lose r).forget r

/-- Noting the label of an entry that is not shown, or noting the label it has, is not seen. -/
lemma pickFirstCert_activeSignState (hf : Faithful l s) {j : ℕ} (hj : s.LiveJob j)
    {cands : List CertificateInfo} (hok : Careful s (.jobChooses j cands)) :
    (s.pickFirstCert j cands).activeSignState = s.activeSignState := by
  obtain ⟨x, hx, rfl, hrun⟩ := hf.tracks.record hj.1 hj.2
  cases cands with
  | nil => rfl
  | cons picked rest =>
      have hshow : (s.pickFirstCert x.job (picked :: rest)).signStates =
          Function.update s.signStates (s.jobs x.job).reader
            (some { x.entry with certLabel := certLabelOf picked }) := by
        rw [← hf.entry_eq hx]
        rfl
      show ((s.pickFirstCert x.job (picked :: rest)).signStates s.readerName).filter _ = _
      rw [hshow]
      by_cases hshown : s.readerName = (s.jobs x.job).reader
      · have hentry : s.signStates s.readerName = some x.entry := by
          rw [hf.tracks.entries, hshown, hx]
          rfl
        rw [← hshown, Function.update_self, SmartCardHandler.activeSignState, hentry]
        -- Picking does not republish, so the label on show must be the one it had.
        by_cases hcard : x.entry.card = s.card
        · have hall := hok hshown.symm
          have hlabel : x.entry.certLabel = certLabelOf picked := by
            simpa [SmartCardHandler.activeSignState, hentry, hcard] using hall
          rw [← hlabel]
          rfl
        · have hsame : (s.pickFirstCert x.job (picked :: rest)).card = s.card := rfl
          simp [Option.filter_some, hcard, hsame]
      · rw [Function.update_of_ne hshown]
        rfl

lemma published_step (hp : s.Published) (hf : Faithful l s) (hal : allows s e)
    (hok : Careful s e) : (step h s e).Published := by
  by_cases he : e.isSigning = true
  · cases e with
    | signFile fileUrl =>
        show (s.signFile h fileUrl).Published
        rw [signFile_eq]
        split_ifs
        · exact hp
        · split
          · exact published_publishSignSurfaces _
          · exact published_publishSignSurfaces _
    | dismissSignResult =>
        show s.dismissSignResult.Published
        unfold SmartCardHandler.dismissSignResult
        split
        · exact hp
        · split_ifs
          · exact hp
          · exact published_publishSignSurfaces _
    | jobChooses j cands =>
        -- The one write that publishes nothing; the condition makes it write what is shown already.
        have hsame := pickFirstCert_activeSignState hf hal.2 hok
        have hpublished : (s.pickFirstCert j cands).publishedSigningBusy = s.publishedSigningBusy ∧
            (s.pickFirstCert j cands).publishedSignPhase = s.publishedSignPhase ∧
            (s.pickFirstCert j cands).publishedSignResult = s.publishedSignResult := by
          cases cands <;> exact ⟨rfl, rfl, rfl⟩
        show (s.pickFirstCert j cands).Published
        unfold Published signingBusy signPhase signResult at hp ⊢
        rwa [hsame, hpublished.1, hpublished.2.1, hpublished.2.2]
    | jobPhaseChanged j phase =>
        show (s.onPhaseChanged j phase).Published
        unfold SmartCardHandler.onPhaseChanged
        simp only
        split
        · exact hp
        · exact published_publishSignSurfaces _
    | jobSucceeded j outputPath level => exact published_publishSignSurfaces _
    | jobFailed j message => exact published_publishSignSurfaces _
    | _ => cases he
  · cases lands (h := h) hf (by simpa using he) with
    | aside ha _ => exact ha.published hp
    | reread s₁ _ hstep _ =>
        rw [hstep]
        exact (s₁.refresh_refreshed).published
    | moved r hstep _ =>
        rw [hstep]
        exact ((s.setRegistry r).refresh_refreshed).published

/-! ## The ledger of the cards -/

variable {m : CardLedger}

/-- The events that are not of signing do the same to both ledgers. -/
lemma reconciled_look (hm : Reconciled l m s.toSignStates) (he : e.isSigning = false) :
    Reconciled (look h l s e) (lookCards h l m s e) s.toSignStates := by
  have hread : Reconciled (if e.readsRoster s then l.forget s.client.registry else l)
      (if e.readsRoster s then m.forget s.client.registry else m) s.toSignStates := by
    split_ifs
    · exact hm.forget _
    · exact hm
  cases e with
  | registryChanged r => exact (hm.lose r).forget r
  | signFile _ | dismissSignResult | jobChooses _ _ | jobPhaseChanged _ _ | jobSucceeded _ _ _
  | jobFailed _ _ => cases he
  | _ => exact hread

/-- They start and end no job. -/
lemma jobs_of_lands (hl : Lands h l s e) :
    (step h s e).jobsStarted = s.jobsStarted ∧ (step h s e).jobs = s.jobs := by
  cases hl with
  | aside ha _ => exact ⟨by rw [ha.signs], by rw [ha.signs]⟩
  | reread s₁ ha hstep _ =>
      have hr := s₁.refresh_refreshed (h := h)
      rw [hstep]
      exact ⟨hr.jobsStarted.trans (by rw [ha.signs]), hr.jobs.trans (by rw [ha.signs])⟩
  | moved r hstep _ =>
      have hr := (s.setRegistry r).refresh_refreshed (h := h)
      rw [hstep]
      exact ⟨hr.jobsStarted, hr.jobs⟩

/-- A job that is started has a number of its own. -/
lemma jobs_signFile (s : SmartCardHandler) (fileUrl : QString) :
    s.jobsStarted ≤ (s.signFile h fileUrl).jobsStarted ∧
      ∀ j, j < s.jobsStarted → (s.signFile h fileUrl).jobs j = s.jobs j := by
  rw [signFile_eq]
  split_ifs
  · exact ⟨le_rfl, fun _ _ => rfl⟩
  · cases s.failsAtOnce h fileUrl with
    | none =>
        exact ⟨Nat.le_succ _, fun j hj => Function.update_of_ne (Nat.ne_of_lt hj) _ _⟩
    | some message =>
        refine ⟨Nat.le_succ _, fun j hj => ?_⟩
        have hne : j ≠ s.jobsStarted := Nat.ne_of_lt hj
        simp [SmartCardHandler.signStarted, onFailed, publishSignSurfaces, setEntry, hne]

/-- The sign that starts has nothing to overwrite but a job of the same card, or one of which there
is nothing left to show. -/
lemma reconciled_signFile (hf : Faithful l s) (hm : Reconciled l m s.toSignStates)
    {fileUrl : QString} (hok : Careful s (.signFile fileUrl)) :
    Reconciled (look h l s (.signFile fileUrl)) (lookCards h l m s (.signFile fileUrl))
      s.toSignStates := by
  simp only [look, lookCards]
  split_ifs with hbusy
  · exact hm
  · refine hm.enter fun y c hy hc hother => ?_
    have hentry : s.signStates s.readerName = some y.entry := by
      rw [hf.tracks.entries, hy]
      rfl
    have hidle : y.isRunning = false := by simpa [hy] using hbusy
    obtain ⟨hlt, hself⟩ := hf.tracks.jobs _ y hy
    refine ⟨?_, hlt, by rw [hself, hidle]; rfl⟩
    simp only [Careful, hentry, Option.all_some, decide_eq_true_eq, JobRecord.entry_job_isSome,
      hidle] at hok
    -- What the new record overwrites: nothing to show, a card that went, or this same card's own.
    rcases hok with hrun | hnothing | hgone | hsame
    · cases hrun
    · refine (JobRecord.entry_outcome_eq_none.1 hnothing).resolve_left fun hrun => ?_
      simp [JobRecord.isRunning, hrun] at hidle
    · have hnone : y.card = none := hgone
      rw [hc] at hnone
      cases hnone
    · exact absurd (hsame.symm.trans hc) hother

/-- The dismissal finds the job of the bound card, or nothing to dismiss. -/
lemma reconciled_dismiss (hf : Faithful l s) (hm : Reconciled l m s.toSignStates)
    (hok : Careful s .dismissSignResult) :
    Reconciled (l.dismiss s.readerName) (m.dismiss s.readerName s.card) s.toSignStates := by
  refine hm.dismiss fun x c hx hc hother => JobRecord.dismiss_eq_self ?_
  have hentry : s.signStates s.readerName = some x.entry := by
    rw [hf.tracks.entries, hx]
    rfl
  simp only [Careful, hentry, Option.all_some, decide_eq_true_eq] at hok
  rcases hok with hnothing | hgone | ⟨hsame, -⟩
  · exact hnothing
  · have hnone : x.card = none := hgone
    rw [hc] at hnone
    cases hnone
  · exact absurd (hsame.symm.trans hc) hother

lemma reconciled_step (hf : Faithful l s) (hm : Reconciled l m s.toSignStates) (hal : allows s e)
    (hok : Careful s e) :
    Reconciled (look h l s e) (lookCards h l m s e) (step h s e).toSignStates := by
  by_cases he : e.isSigning = true
  -- A job that ended stays ended, whichever job the event is about.
  · have hends : ∀ j, s.LiveJob j → ∀ i, i < s.jobsStarted → (s.jobs i).ended = true →
        ((Function.update s.jobs j { s.jobs j with ended := true }) i).ended = true := by
      intro j hj i _ hended
      rw [Function.update_apply]
      split_ifs
      · rfl
      · exact hended
    cases e with
    | signFile fileUrl =>
        obtain ⟨hstarted, hjobs⟩ := jobs_signFile (h := h) s fileUrl
        exact (reconciled_signFile hf hm hok).mono hstarted fun j hj hended => by
          rw [← hended]
          exact congrArg StartedJob.ended (hjobs j hj)
    | dismissSignResult =>
        have hjobs : s.dismissSignResult.jobsStarted = s.jobsStarted ∧
            s.dismissSignResult.jobs = s.jobs := by
          unfold SmartCardHandler.dismissSignResult
          split
          · exact ⟨rfl, rfl⟩
          · split_ifs <;> exact ⟨rfl, rfl⟩
        exact (reconciled_dismiss hf hm hok).mono (le_of_eq hjobs.1.symm) fun j _ hended => by
          rw [← hended]
          exact congrArg (fun jobs : ℕ → StartedJob => (jobs j).ended) hjobs.2
    | jobChooses j cands =>
        cases cands with
        | nil => exact hm
        | cons picked rest =>
            exact (hm.note (f := fun x => { x with certLabel := certLabelOf picked }) hal.2.2
              fun _ => rfl).mono le_rfl fun _ _ hended => hended
    | jobPhaseChanged j phase =>
        have hjobs : (s.onPhaseChanged j phase).jobsStarted = s.jobsStarted ∧
            (s.onPhaseChanged j phase).jobs = s.jobs := by
          unfold SmartCardHandler.onPhaseChanged
          simp only
          split <;> exact ⟨rfl, rfl⟩
        have hnoted := hm.note (f := fun x => { x with phase := phase }) hal.2.2 fun _ => rfl
        exact hnoted.mono (le_of_eq hjobs.1.symm) fun i _ hended => by
          rw [← hended]
          exact congrArg (fun jobs : ℕ → StartedJob => (jobs i).ended) hjobs.2
    | jobSucceeded j outputPath level =>
        have hnoted := hm.note (f := fun x => { x with fate := .succeeded outputPath level })
          hal.2.2 fun _ => rfl
        exact hnoted.mono le_rfl (hends j hal.2)
    | jobFailed j message =>
        have hnoted := hm.note (f := fun x => { x with fate := .failed message }) hal.2.2
          fun _ => rfl
        exact hnoted.mono le_rfl (hends j hal.2)
    | _ => cases he
  · have hunsigned : e.isSigning = false := by simpa using he
    obtain ⟨hstarted, hjobs⟩ := jobs_of_lands (lands (h := h) hf hunsigned)
    refine (reconciled_look hm hunsigned).mono (le_of_eq hstarted.symm) fun j _ hended => ?_
    rw [hjobs]
    exact hended

/-! ## Isolation -/

/-- Each reader's sign is its own: one job a name at most, the surfaces those of the last job for
the very card on show, and every entry one that a job left. -/
structure Isolated (l : Ledger) (m : CardLedger) (s : SmartCardHandler) : Prop where
  /-- No two jobs run under one reader's name. -/
  alone : ∀ i j, s.LiveJob i → s.LiveJob j → (s.jobs i).reader = (s.jobs j).reader → i = j
  /-- Over a card the widget shows the last job started under the displayed reader's name with that
  very card, unless there is none or it was dismissed. -/
  shown : ∀ c, s.card = some c → s.surfaces = m.surfaces s.readerName c
  /-- The entry of a job that runs is there, under the name the job was started under. -/
  kept : ∀ j, s.LiveJob j → ∃ x e, l (s.jobs j).reader = some x ∧ x.job = j ∧
    s.signStates (s.jobs j).reader = some e ∧ e.job = some j
  /-- Every entry is what became of the last job started under its name. -/
  recorded : ∀ reader, s.signStates reader = (l reader).map JobRecord.entry
  published : s.Published

/-- The handler's sign state is in order, seen with both ledgers: what every careful run keeps. -/
structure Settled (l : Ledger) (m : CardLedger) (s : SmartCardHandler) : Prop where
  faithful : Faithful l s
  calm : Calm l
  reconciled : Reconciled l m s.toSignStates
  published : s.Published

namespace Settled

lemma step (hs : Settled l m s) (hal : allows s e) (hok : Careful s e) :
    Settled (look h l s e) (lookCards h l m s e) (step h s e) where
  faithful := faithful_step hs.faithful hal
  calm := calm_step hs.calm hs.faithful hal hok
  reconciled := reconciled_step hs.faithful hs.reconciled hal hok
  published := published_step hs.published hs.faithful hal hok

/-- What is shown over a card is read off the ledger. -/
lemma shown (hs : Settled l m s) {c : CardRef} (hc : s.card = some c) :
    s.surfaces = l.surfaces s.readerName c := by
  unfold surfaces signingBusy signPhase signResult SmartCardHandler.activeSignState Ledger.surfaces
  rw [hs.faithful.tracks.entries, hc]
  cases hx : l s.readerName with
  | none => rfl
  | some x =>
      by_cases hcard : x.card = some c
      · have hentry : x.entry.card = some c := hcard
        simp only [Option.map_some, Option.filter_some, hcard, hentry, decide_true, if_true,
          Option.getD_some, Option.any_some, JobRecord.entry_job_isSome, JobRecord.entry_result,
          JobRecord.surfaces]
        split_ifs with hfate
        -- A dismissed record still has its phase, and a phase other than Created would show.
        · have hphase : x.phase = .created := by
            rcases hs.calm _ x hx hfate with hphase | hgone
            · exact hphase
            · rw [hgone] at hcard
              cases hcard
          simp [Surfaces.idle, JobRecord.isRunning, JobRecord.result, JobRecord.entry, hfate,
            hphase]
        · rfl
      · have hentry : x.entry.card ≠ some c := hcard
        simp [Option.filter_some, hcard, hentry, Surfaces.idle]

lemma isolated (hs : Settled l m s) : Isolated l m s where
  alone i j hi hj hreader := by
    obtain ⟨x, hx, rfl⟩ := hs.faithful.tracks.running i hi.1 hi.2
    obtain ⟨y, hy, rfl⟩ := hs.faithful.tracks.running j hj.1 hj.2
    rw [hreader, hy] at hx
    exact congrArg JobRecord.job (Option.some.inj hx).symm
  shown c hc := (hs.shown hc).trans (hs.reconciled.surfaces_eq _ c).symm
  kept j hj := by
    obtain ⟨x, hx, hjob, hrun⟩ := hs.faithful.tracks.record hj.1 hj.2
    refine ⟨x, x.entry, hx, hjob, ?_, ?_⟩
    · rw [hs.faithful.tracks.entries, hx]
      rfl
    · rw [← hjob]
      exact JobRecord.entry_job_of_running (by simp [JobRecord.isRunning, hrun])
  recorded := hs.faithful.tracks.entries
  published := hs.published

end Settled

lemma Start.settled (hs : Start h s) : Settled .blank .blank s := by
  obtain ⟨client, photoStore, photoSlot, -, -, rfl⟩ := hs
  have hfresh : Faithful .blank
      { client := client, photoStore := photoStore, photoSlot := photoSlot } :=
    ⟨Tracks.blank rfl rfl, by simp⟩
  refine ⟨hfresh.refresh, ?_, .blank _, ?_⟩
  · intro reader x hx
    cases hx
  · exact (refresh_refreshed _).published

/-! ## Terminals -/

/-- What an entry tells of its job's end. -/
def ReaderSignState.told (e : ReaderSignState) : SignResult := { e.result with certLabel := [] }

/-- The terminal an event brings: the job, and what there is to tell of its end. -/
def Event.terminal (h : PlasmoidHost) (s : SmartCardHandler) : Event → Option (ℕ × SignResult)
  | .jobSucceeded j outputPath level =>
      some (j, { outcome := .succeeded, outputPath := outputPath, level := level })
  | .jobFailed j message => some (j, { outcome := .failed, message := message })
  | .signFile fileUrl =>
      if (s.entry s.readerName).job.isSome then none
      else (s.failsAtOnce h fileUrl).map fun message =>
        (s.jobsStarted, { outcome := .failed, message := message })
  | _ => none

/-- A step that leaves the handler in `s'` records the terminal it brings, in the entry of the
reader the job was started on, and records nothing else. -/
structure Records (s s' : SmartCardHandler) (terminal : Option (ℕ × SignResult)) : Prop where
  /-- A job is started under the displayed reader's name. -/
  started : ∀ j, s.jobsStarted ≤ j → j < s'.jobsStarted → (s'.jobs j).reader = s.readerName
  stays : ∀ j, j < s.jobsStarted → (s'.jobs j).reader = (s.jobs j).reader
  /-- A job has one terminal, and it is told. -/
  told : ∀ j t, terminal = some (j, t) →
    (j < s.jobsStarted → (s.jobs j).ended = false) ∧ (s'.jobs j).ended = true ∧
      ∃ e, s'.signStates (s'.jobs j).reader = some e ∧ e.job = none ∧ e.told = t
  /-- Without one, nothing is. -/
  untold : ∀ reader e, s'.signStates reader = some e → e.outcome ≠ .none →
    (∃ e₀, s.signStates reader = some e₀ ∧ e₀.told = e.told) ∨
      ∃ j t, terminal = some (j, t) ∧ (s'.jobs j).reader = reader
  ended : ∀ j, j < s.jobsStarted → (s'.jobs j).ended = true →
    (s.jobs j).ended = true ∨ ∃ t, terminal = some (j, t)

/-- The step records the terminal its event brings, and that one only. -/
def RecordsTerminals (h : PlasmoidHost) (s : SmartCardHandler) (e : Event) : Prop :=
  Records s (step h s e) (e.terminal h s)

/-- A step that leaves the jobs alone, and tells no news. -/
lemma Records.quiet (hstarted : s'.jobsStarted = s.jobsStarted) (hjobs : s'.jobs = s.jobs)
    (htold : ∀ reader x, s'.signStates reader = some x → x.outcome ≠ .none →
      ∃ x₀, s.signStates reader = some x₀ ∧ x₀.told = x.told) : Records s s' none where
  started j hj hj' := by omega
  stays j _ := by rw [hjobs]
  told j t ht := by cases ht
  untold reader x hx hne := .inl (htold reader x hx hne)
  ended j _ hended := .inl (hjobs ▸ hended)

/-- A step that writes one entry, and that brings no news or the terminal of a running job. -/
lemma Records.write {reader : QString} {x : ReaderSignState}
    (hstates : s'.signStates = Function.update s.signStates reader (some x))
    (hstarted : s'.jobsStarted = s.jobsStarted) (hjobs : s'.jobs = s.jobs)
    (htold : x.outcome ≠ .none → ∃ x₀, s.signStates reader = some x₀ ∧ x₀.told = x.told) :
    Records s s' none := by
  refine .quiet hstarted hjobs fun reader' y hy hne => ?_
  rw [hstates] at hy
  by_cases hsame : reader' = reader
  · subst hsame
    obtain rfl : x = y := by simpa using hy
    exact htold hne
  · rw [Function.update_of_ne hsame] at hy
    exact ⟨y, hy, rfl⟩

/-- A running job reports. -/
lemma Records.report {j : ℕ} {x : ReaderSignState} (hj : s.LiveJob j)
    (hstates : s'.signStates = Function.update s.signStates (s.jobs j).reader (some x))
    (hstarted : s'.jobsStarted = s.jobsStarted)
    (hjobs : s'.jobs = Function.update s.jobs j { s.jobs j with ended := true })
    (hjob : x.job = none) : Records s s' (some (j, x.told)) where
  started i hi hi' := by omega
  stays i _ := by
    rw [hjobs, Function.update_apply]
    split_ifs with hsame
    · rw [hsame]
    · rfl
  told i t ht := by
    obtain ⟨rfl, rfl⟩ : j = i ∧ x.told = t := by simpa using ht
    refine ⟨fun _ => hj.2, by simp [hjobs], x, ?_, hjob, rfl⟩
    simp [hjobs, hstates]
  untold reader y hy _ := by
    by_cases hsame : reader = (s.jobs j).reader
    -- The outcome under this name is the one just told; every other was told before.
    · exact .inr ⟨j, x.told, rfl, by simp [hjobs, hsame]⟩
    · rw [hstates, Function.update_of_ne hsame] at hy
      exact .inl ⟨y, hy, rfl⟩
  ended i _ hended := by
    rw [hjobs, Function.update_apply] at hended
    split_ifs at hended with hsame
    · exact .inr ⟨x.told, by rw [hsame]⟩
    · exact .inl hended

/-- A job is started, and may report on the spot. -/
lemma Records.start {x : ReaderSignState} {q : Option (ℕ × SignResult)}
    (hstates : s'.signStates = Function.update s.signStates s.readerName (some x))
    (hstarted : s'.jobsStarted = s.jobsStarted + 1)
    (hjobs : s'.jobs = Function.update s.jobs s.jobsStarted ⟨s.readerName, q.isSome⟩)
    (htold : ∀ j t, q = some (j, t) → j = s.jobsStarted ∧ x.job = none ∧ x.told = t)
    (huntold : q = none → x.outcome = .none) : Records s s' q where
  started j hj hj' := by
    obtain rfl : j = s.jobsStarted := by omega
    simp [hjobs]
  stays j hj := by
    rw [hjobs, Function.update_of_ne (by omega)]
  told j t ht := by
    obtain ⟨rfl, hjob, rfl⟩ := htold j t ht
    refine ⟨fun hlt => by omega, by simp [hjobs, ht], x, ?_, hjob, rfl⟩
    simp [hjobs, hstates]
  untold reader y hy hne := by
    rw [hstates] at hy
    by_cases hsame : reader = s.readerName
    · subst hsame
      obtain rfl : x = y := by simpa using hy
      cases q with
      | none => exact absurd (huntold rfl) hne
      | some terminal =>
          obtain ⟨j, t⟩ := terminal
          obtain ⟨rfl, -, -⟩ := htold j t rfl
          exact .inr ⟨s.jobsStarted, t, rfl, by simp [hjobs]⟩
    · rw [Function.update_of_ne hsame] at hy
      exact .inl ⟨y, hy, rfl⟩
  ended j hj hended := by
    rw [hjobs, Function.update_of_ne (by omega)] at hended
    exact .inl hended

lemma records_signFile (s : SmartCardHandler) (fileUrl : QString) :
    Records s (s.signFile h fileUrl) (Event.terminal h s (.signFile fileUrl)) := by
  rw [signFile_eq]
  unfold Event.terminal
  simp only
  split_ifs
  · exact .quiet rfl rfl fun reader x hx _ => ⟨x, hx, rfl⟩
  · cases s.failsAtOnce h fileUrl with
    | none =>
        refine .start rfl rfl rfl (fun j t ht => ?_) fun _ => rfl
        cases ht
    -- A start that fails writes the entry twice; only the failure is left to see.
    | some message =>
        have hstates : (s.signStarted.onFailed s.jobsStarted message).signStates =
            Function.update s.signStates s.readerName
              (some { card := s.card, outcome := .failed, message := message }) := by
          funext reader
          by_cases hsame : reader = s.readerName <;>
            simp [SmartCardHandler.signStarted, onFailed, publishSignSurfaces, setEntry,
              SmartCardHandler.entry, hsame]
        have hjobs : (s.signStarted.onFailed s.jobsStarted message).jobs =
            Function.update s.jobs s.jobsStarted ⟨s.readerName, true⟩ := by
          simp [SmartCardHandler.signStarted, onFailed, publishSignSurfaces, setEntry]
        refine .start hstates rfl hjobs (fun j t ht => ?_) fun hnone => by cases hnone
        obtain ⟨rfl, rfl⟩ : s.jobsStarted = j ∧ _ = t := by simpa using ht
        exact ⟨rfl, rfl, rfl⟩

/-- A refresh writes no entry. -/
lemma Records.refresh {s₁ : SmartCardHandler} (hr : Refreshed h s₁ s')
    (hstarted : s₁.jobsStarted = s.jobsStarted) (hjobs : s₁.jobs = s.jobs)
    (htold : ∀ reader x, s₁.signStates reader = some x →
      ∃ x₀, s.signStates reader = some x₀ ∧ x₀.told = x.told) : Records s s' none := by
  refine .quiet (hr.jobsStarted.trans hstarted) (hr.jobs.trans hjobs) fun reader x hx _ => ?_
  rw [hr.signStates] at hx
  exact htold reader x (Option.filter_eq_some_iff.1 hx).1

lemma recordsTerminals_of_faithful (hf : Faithful l s) (hal : allows s e) :
    RecordsTerminals h s e := by
  by_cases he : e.isSigning = true
  · cases e with
    | signFile fileUrl => exact records_signFile s fileUrl
    | dismissSignResult =>
        show Records s s.dismissSignResult none
        unfold SmartCardHandler.dismissSignResult
        split
        · exact .quiet rfl rfl fun reader x hx _ => ⟨x, hx, rfl⟩
        · split_ifs
          · exact .quiet rfl rfl fun reader x hx _ => ⟨x, hx, rfl⟩
          · exact .write rfl rfl rfl fun hne => absurd rfl hne
    | jobChooses j cands =>
        cases cands with
        | nil => exact .quiet rfl rfl fun reader x hx _ => ⟨x, hx, rfl⟩
        | cons picked rest =>
            obtain ⟨x, hx, rfl, hrun⟩ := hf.tracks.record hal.2.1 hal.2.2
            refine .write rfl rfl rfl fun hne => absurd ?_ hne
            show (s.entry (s.jobs x.job).reader).outcome = .none
            rw [hf.entry_eq hx]
            exact JobRecord.entry_outcome_eq_none.2 (.inl hrun)
    | jobPhaseChanged j phase =>
        show Records s (s.onPhaseChanged j phase) none
        unfold SmartCardHandler.onPhaseChanged
        simp only
        split
        · exact .quiet rfl rfl fun reader x hx _ => ⟨x, hx, rfl⟩
        · next x hx => exact .write rfl rfl rfl fun _ => ⟨x, hx, rfl⟩
    | jobSucceeded j outputPath level =>
        exact Records.report (x := { s.entry (s.jobs j).reader with
          job := none, outcome := .succeeded, outputPath := outputPath, level := level,
          message := [] }) hal.2 rfl rfl rfl rfl
    | jobFailed j message =>
        exact Records.report (x := { s.entry (s.jobs j).reader with
          job := none, outcome := .failed, outputPath := [], level := [],
          message := message }) hal.2 rfl rfl rfl rfl
    | _ => cases he
  · have hnone : e.terminal h s = none := by
      cases e <;> first | rfl | simp [Event.isSigning] at he
    unfold RecordsTerminals
    rw [hnone]
    cases lands (h := h) hf (by simpa using he) with
    | aside ha _ =>
        refine .quiet (by rw [ha.signs]) (by rw [ha.signs]) fun reader x hx _ => ⟨x, ?_, rfl⟩
        rwa [ha.signs] at hx
    | reread s₁ ha hstep _ =>
        rw [hstep]
        refine .refresh s₁.refresh_refreshed (by rw [ha.signs]) (by rw [ha.signs]) ?_
        intro reader x hx
        rw [ha.signs] at hx
        exact ⟨x, hx, rfl⟩
    | moved r hstep _ =>
        rw [hstep]
        refine .refresh (s.setRegistry r).refresh_refreshed rfl rfl ?_
        intro reader x hx
        obtain ⟨x₀, hx₀, rfl⟩ := Option.map_eq_some_iff.1 hx
        exact ⟨x₀, hx₀, rfl⟩

/-! ## Runs -/

instance (s : SmartCardHandler) : (e : Event) → Decidable (Careful s e)
  | .dismissSignResult | .signFile _ => inferInstanceAs (Decidable (_ = true))
  | .jobChooses _ (_ :: _) => inferInstanceAs (Decidable (_ → _ = true))
  | .jobChooses _ [] | .registry _ | .registryChanged _ | .refresh | .cardChanged _
  | .setBoundReaderName _ | .selectReader _ | .setViewActive _ | .readIdentity | .ensureFreeRead
  | .openInFiles | .startAgent | .agentStartFinished _ | .finished _ _ | .phaseChanged _ _
  | .jobPhaseChanged _ _ | .jobSucceeded _ _ _ | .jobFailed _ _ | .sibling _ _ | .destroy =>
      isTrue trivial

/-- The machine whose steps are careful, with the observer beside it. -/
def carefulMachine (h : PlasmoidHost) :
    Machine (SmartCardHandler × (Ledger × CardLedger)) Event :=
  (ledgersMachine h).restrict fun x e => Careful x.1 e

lemma settled_kept (h : PlasmoidHost) :
    (carefulMachine h).Kept fun x => Settled x.2.1 x.2.2 x.1 :=
  fun _ _ hx hal => hx.step hal.1 hal.2

/-- **Each reader's sign stays its own.**  In a run that dismisses no result whose job left a
phase behind or whose card is not the bound one, in which no chooser relabels the entry that is
shown, and no sign overwrites the outcome of another card under the same name, every state is
isolated, and every step records the terminal it brings, and only that. -/
theorem signs_isolated (h : PlasmoidHost) {s : SmartCardHandler} {es : List Event}
    (hs : Start h s) (ha : (machine h).Admits s es)
    (hok : (machine h).EachStep Careful s es) :
    (ledgersMachine h).Always (fun x => Isolated x.2.1 x.2.2 x.1) (s, (.blank, .blank)) es ∧
      (machine h).EachStep (RecordsTerminals h) s es := by
  have hadmits : (carefulMachine h).Admits (s, (.blank, .blank)) es :=
    Machine.admits_restrict.2 ⟨Machine.admits_watch.2 ha, Machine.eachStep_watch.2 hok⟩
  constructor
  · have hall := (settled_kept h).always hs.settled hadmits
    exact Machine.always_restrict.1 (hall.mono fun _ hx => hx.isolated)
  · have hsteps : (carefulMachine h).EachStep (fun x e => RecordsTerminals h x.1 e)
        (s, (.blank, .blank)) es :=
      (settled_kept h).eachStep hs.settled hadmits fun _ _ hx hal =>
        recordsTerminals_of_faithful hx.faithful hal.1
    exact Machine.eachStep_watch.1 (Machine.eachStep_restrict.1 hsteps)

/-- A desk with two readers of one name, the second of which holds the card `1`. -/
def twins : Registry where
  available := true
  agentState := .ready
  readers :=
    [{ id := qs "r2", name := qs "r", hasCard := true, card := some 2 },
      { id := qs "r", name := qs "r", hasCard := true, card := some 1 }]
  cards d := if d = 1 ∨ d = 2 then some (.eid true) else none
  seated := by simp

/-- The card signs; another one takes its place while it does, and gets the reader's next sign.
Then a twin of the reader comes, whose card signs when there is nothing left to overwrite. -/
def signedAndSwapped : List Event :=
  [.signFile (qs "/a.pdf"), .registryChanged (.desk (qs "r") 2 (.eid true)),
    .signFile (qs "/b.pdf"), .jobPhaseChanged 0 .signing, .jobSucceeded 0 (qs "/a.asice") (qs "B"),
    .signFile (qs "/b.pdf"), .jobFailed 1 (qs "no"), .dismissSignResult,
    .registryChanged twins, .signFile (qs "/c.pdf")]

theorem signs_isolated_signedAndSwapped :
    (ledgersMachine .plain).Always (fun x => Isolated x.2.1 x.2.2 x.1) (widget, (.blank, .blank))
        signedAndSwapped ∧
      (machine .plain).EachStep (RecordsTerminals .plain) widget signedAndSwapped :=
  signs_isolated .plain start_widget (by decide) (by decide)

/-- A sign that ends, and whose result is dismissed. -/
def signedAndDismissed : List Event :=
  [.signFile (qs "/a.pdf"), .jobPhaseChanged 0 .signing, .jobSucceeded 0 (qs "/a.asice") (qs "B"),
    .dismissSignResult]

/-- A sign whose card has two certificates. -/
def signedOfTwo : List Event :=
  [.signFile (qs "/a.pdf"), .jobChooses 0 [{ id := qs "x" }, { id := qs "y" }]]

/-- A sign that ends; then a twin of the reader comes, signs, and goes again. -/
def signedByTwins : List Event :=
  [.signFile (qs "/a.pdf"), .jobSucceeded 0 (qs "/a.asice") (qs "B"), .registryChanged twins,
    .signFile (qs "/b.pdf"), .registryChanged (.desk (qs "r") 1 (.eid true))]

/-- Dismissed, the phase stays on display; the label the chooser notes is not signalled; and of the
card whose twin has signed the result is lost. -/
theorem signs_not_isolated :
    (Start .plain widget ∧ (machine .plain).Admits widget signedAndDismissed ∧
        ¬ (ledgersMachine .plain).Always (fun x => Isolated x.2.1 x.2.2 x.1)
          (widget, (.blank, .blank)) signedAndDismissed) ∧
      ((machine .plain).Admits widget signedOfTwo ∧
        ¬ (ledgersMachine .plain).Always (fun x => Isolated x.2.1 x.2.2 x.1)
          (widget, (.blank, .blank)) signedOfTwo) ∧
      (machine .plain).Admits widget signedByTwins ∧
        ¬ (ledgersMachine .plain).Always (fun x => Isolated x.2.1 x.2.2 x.1)
          (widget, (.blank, .blank)) signedByTwins := by
  refine ⟨⟨start_widget, by decide, fun hall => ?_⟩, ⟨by decide, fun hall => ?_⟩, by decide,
    fun hall => ?_⟩
  · have hshown := hall.last.shown 1 (by decide)
    revert hshown
    decide
  · have hpublished := hall.last.published
    revert hpublished
    unfold Published
    decide
  · have hshown := hall.last.shown 1 (by decide)
    revert hshown
    decide

end LibreKDE.Plasmoid
