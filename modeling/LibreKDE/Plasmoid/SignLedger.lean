import LibreKDE.Plasmoid.Moves

/-!
# The ledger of sign jobs

The widget keeps the state of signing by reader name, and shows of it what belongs to the
displayed reader and to the very card bound there.  An observer would write down two things
instead.  `Ledger` has under each reader's name the last job started there, with the card it was
started on and what became of it.  `CardLedger` has the last job of each card under each name: two
readers may share a name, and then one name has the jobs of several cards.  `look` and `lookCards`
keep them, from the events alone and the reader and card on display when a job starts or a result is
dismissed; `CardLedger.surfaces` reads off what the widget should be showing.

`Tracks` ties the widget to the first: its entries are the ledger's records, and the jobs that still
run are those the ledger has running.  `Reconciled` ties the second to the first: where the two have
different jobs of a card, there is nothing left to show of the older one.
-/

namespace LibreKDE.Plasmoid

/-! ## Records -/

/-- What became of a job, by what it reported. -/
inductive Fate
  | running
  | succeeded (outputPath level : QString)
  | failed (message : QString)
  /-- It ended, and the user dismissed what it ended as. -/
  | dismissed
  deriving DecidableEq, Repr

/-- A job, as the observer sees it: the card it was started on, what it signalled, and how it
ended. -/
structure JobRecord where
  job : ℕ
  /-- The card it was started on, for as long as that card lasts. -/
  card : Option CardRef
  phase : OperationPhase := .created
  certLabel : QString := []
  fate : Fate := .running
  deriving DecidableEq, Repr

/-- The three sign surfaces of a widget, as its properties read. -/
structure Surfaces where
  signingBusy : Bool
  signPhase : OperationPhase
  signResult : SignResult
  deriving DecidableEq, Repr

/-- No job. -/
def Surfaces.idle : Surfaces := ⟨false, .created, {}⟩

/-- The three surfaces as the properties read them. -/
def SmartCardHandler.surfaces (s : SmartCardHandler) : Surfaces :=
  ⟨s.signingBusy, s.signPhase, s.signResult⟩

namespace JobRecord

/-- It has not reported. -/
def isRunning (x : JobRecord) : Bool := x.fate = .running

/-- What a job ended as, and on which certificate. -/
def result (x : JobRecord) : SignResult :=
  match x.fate with
  | .running => { certLabel := x.certLabel }
  | .succeeded outputPath level =>
      { outcome := .succeeded, outputPath := outputPath, certLabel := x.certLabel, level := level }
  | .failed message => { outcome := .failed, certLabel := x.certLabel, message := message }
  | .dismissed => {}

/-- What a widget showing this job shows; of a dismissed one, nothing. -/
def surfaces (x : JobRecord) : Surfaces :=
  if x.fate = .dismissed then .idle else ⟨x.isRunning, x.phase, x.result⟩

/-- What there is to dismiss of a job is dismissed. -/
def dismiss (x : JobRecord) : JobRecord :=
  if x.isRunning then x else { x with fate := .dismissed }

/-- The entry a widget keeps for this job. -/
def entry (x : JobRecord) : ReaderSignState where
  job := if x.isRunning then some x.job else none
  card := x.card
  phase := x.phase
  certLabel := x.result.certLabel
  outcome := x.result.outcome
  outputPath := x.result.outputPath
  level := x.result.level
  message := x.result.message

@[simp] lemma entry_result (x : JobRecord) : x.entry.result = x.result := rfl

@[simp] lemma entry_job_isSome (x : JobRecord) : x.entry.job.isSome = x.isRunning := by
  unfold entry
  cases x.isRunning <;> rfl

lemma entry_job_eq_none {x : JobRecord} : x.entry.job = none ↔ x.isRunning = false := by
  simp [entry]

lemma entry_job_of_running {x : JobRecord} (hx : x.isRunning = true) :
    x.entry.job = some x.job := by
  simp [entry, hx]

/-- There is something to dismiss when the widget's entry has an outcome. -/
lemma entry_outcome_eq_none {x : JobRecord} :
    x.entry.outcome = .none ↔ x.fate = .running ∨ x.fate = .dismissed := by
  simp only [entry, result]
  split <;> simp_all

lemma dismiss_eq_self {x : JobRecord} (hx : x.entry.outcome = .none) : x.dismiss = x := by
  obtain ⟨job, card, phase, certLabel, fate⟩ := x
  rcases entry_outcome_eq_none.1 hx with hfate | hfate
  · simp_all [dismiss, isRunning]
  · simp_all [dismiss]

/-- Dismissing empties the result in the widget's entry. -/
lemma entry_dismiss {x : JobRecord} (hx : x.entry.outcome ≠ .none) :
    x.dismiss.entry = { x.entry with
      outcome := .none, outputPath := [], certLabel := [], level := [], message := [] } := by
  have hended : x.fate ≠ .running := fun hrun => hx (entry_outcome_eq_none.2 (.inl hrun))
  have hdismiss : x.dismiss = { x with fate := .dismissed } := by
    simp [dismiss, isRunning, hended]
  rw [hdismiss]
  simp [entry, result, isRunning, hended]

@[simp] lemma dismiss_job (x : JobRecord) : x.dismiss.job = x.job := by
  unfold dismiss
  split_ifs <;> rfl

@[simp] lemma dismiss_card (x : JobRecord) : x.dismiss.card = x.card := by
  unfold dismiss
  split_ifs <;> rfl

@[simp] lemma dismiss_phase (x : JobRecord) : x.dismiss.phase = x.phase := by
  unfold dismiss
  split_ifs <;> rfl

@[simp] lemma dismiss_isRunning (x : JobRecord) : x.dismiss.isRunning = x.isRunning := by
  unfold dismiss
  split_ifs with hrun
  · rfl
  · simpa [isRunning] using hrun

end JobRecord

/-! ## The ledger -/

/-- The last job started under each reader's name. -/
abbrev Ledger := QString → Option JobRecord

namespace Ledger

variable (l : Ledger)

/-- No job on any reader. -/
def blank : Ledger := fun _ => none

/-- A job is entered under a reader's name, in the place of the one before. -/
def enter (reader : QString) (x : JobRecord) : Ledger := Function.update l reader (some x)

/-- Something is noted of a job, under whichever name it has a record. -/
def note (j : ℕ) (f : JobRecord → JobRecord) : Ledger := fun reader =>
  (l reader).map fun x => if x.job = j then f x else x

/-- What the last job under a reader's name ended as is dismissed. -/
def dismiss (reader : QString) : Ledger :=
  Function.update l reader ((l reader).map JobRecord.dismiss)

/-- Cards go: the pointers of the records to them read null, the records stay. -/
def lose (r : Registry) : Ledger := fun reader =>
  (l reader).map fun x => { x with card := x.card.filter r.live }

/-- Of the readers that are not there any more only the running jobs are kept. -/
def forget (r : Registry) : Ledger := fun reader =>
  (l reader).filter fun x => x.isRunning ∨ reader ∈ r.readers.map fun y => y.name

/-- What a widget that displays a reader, with a card bound, shows: the last job started under the
name, if it was on that card. -/
def surfaces (reader : QString) (c : CardRef) : Surfaces :=
  (((l reader).filter fun x => x.card = some c).map JobRecord.surfaces).getD .idle

end Ledger

/-- The last job started under each reader's name with each card. -/
abbrev CardLedger := QString → CardRef → Option JobRecord

namespace CardLedger

variable (m : CardLedger)

/-- No job on any card. -/
def blank : CardLedger := fun _ _ => none

/-- A job is entered under a reader's name and the card it is started on, if there is one. -/
def enter (reader : QString) (x : JobRecord) : CardLedger := fun reader' c =>
  if reader' = reader ∧ x.card = some c then some x else m reader' c

/-- Something is noted of a job. -/
def note (j : ℕ) (f : JobRecord → JobRecord) : CardLedger := fun reader c =>
  (m reader c).map fun x => if x.job = j then f x else x

/-- What the last job of the bound card under a reader's name ended as is dismissed. -/
def dismiss (reader : QString) (card : Option CardRef) : CardLedger := fun reader' c =>
  if reader' = reader ∧ card = some c then (m reader' c).map JobRecord.dismiss else m reader' c

/-- Cards go, and take what they signed with them. -/
def lose (r : Registry) : CardLedger := fun reader c => if r.live c then m reader c else none

/-- Of the readers that are not there any more only the running jobs are kept. -/
def forget (r : Registry) : CardLedger := fun reader c =>
  (m reader c).filter fun x => x.isRunning ∨ reader ∈ r.readers.map fun y => y.name

/-- What a widget that displays a reader, with a card bound, should show: the last job started
under that name with that very card. -/
def surfaces (reader : QString) (c : CardRef) : Surfaces :=
  ((m reader c).map JobRecord.surfaces).getD .idle

end CardLedger

/-! ## Keeping them -/

/-- The label the chooser notes for its pick. -/
def certLabelOf (picked : CertificateInfo) : QString :=
  if picked.subject = [] then picked.id else picked.subject

/-- What a job started now reports before its `start` returns, if that is its failure. -/
def SmartCardHandler.failsAtOnce (h : PlasmoidHost) (s : SmartCardHandler) (fileUrl : QString) :
    Option QString :=
  match s.startSignals h ((h.toLocalFile fileUrl).getD fileUrl) with
  | .failed message :: _ => some message
  | _ => none

/-- The events, besides a change of the registry, at which the widget reads the roster. -/
def Event.readsRoster (s : SmartCardHandler) : Event → Bool
  | .refresh => true
  | .setBoundReaderName name => s.boundReaderName ≠ name
  | .selectReader friendlyName => s.boundReaderName = [] ∧ s.selectedReaderName ≠ friendlyName
  | .agentStartFinished _ => s.agentStarting
  | _ => false

/-- What an event adds to the ledger, from the event and the state before it, never from what the
slots write. -/
def look (h : PlasmoidHost) (l : Ledger) (s : SmartCardHandler) : Event → Ledger
  | .registryChanged r => (l.lose r).forget r
  | .signFile fileUrl =>
      if (l s.readerName).any JobRecord.isRunning then l
      -- A job that cannot be started enters with its failure: no signal of it follows.
      else l.enter s.readerName
        { job := s.jobsStarted
          card := s.card
          fate := ((s.failsAtOnce h fileUrl).map Fate.failed).getD .running }
  | .dismissSignResult => l.dismiss s.readerName
  | .jobChooses _ [] => l
  | .jobChooses j (picked :: _) => l.note j fun x => { x with certLabel := certLabelOf picked }
  | .jobPhaseChanged j phase => l.note j fun x => { x with phase := phase }
  | .jobSucceeded j outputPath level =>
      l.note j fun x => { x with fate := .succeeded outputPath level }
  | .jobFailed j message => l.note j fun x => { x with fate := .failed message }
  | e => if e.readsRoster s then l.forget s.client.registry else l

/-- The handler and its observer. -/
def signMachine (h : PlasmoidHost) : Reactive.Machine (SmartCardHandler × Ledger) Event :=
  (machine h).watch .blank (look h)

/-- What an event adds to the ledger of the cards.  A job starts only where the first ledger has
none running under the name. -/
def lookCards (h : PlasmoidHost) (l : Ledger) (m : CardLedger) (s : SmartCardHandler) :
    Event → CardLedger
  | .registryChanged r => (m.lose r).forget r
  | .signFile fileUrl =>
      if (l s.readerName).any JobRecord.isRunning then m
      else m.enter s.readerName
        { job := s.jobsStarted
          card := s.card
          fate := ((s.failsAtOnce h fileUrl).map Fate.failed).getD .running }
  | .dismissSignResult => m.dismiss s.readerName s.card
  | .jobChooses _ [] => m
  | .jobChooses j (picked :: _) => m.note j fun x => { x with certLabel := certLabelOf picked }
  | .jobPhaseChanged j phase => m.note j fun x => { x with phase := phase }
  | .jobSucceeded j outputPath level =>
      m.note j fun x => { x with fate := .succeeded outputPath level }
  | .jobFailed j message => m.note j fun x => { x with fate := .failed message }
  | e => if e.readsRoster s then m.forget s.client.registry else m

/-- The handler and both ledgers. -/
def ledgersMachine (h : PlasmoidHost) :
    Reactive.Machine (SmartCardHandler × (Ledger × CardLedger)) Event :=
  (machine h).watch (.blank, .blank) fun o s e => (look h o.1 s e, lookCards h o.1 o.2 s e)

/-! ## The ledger and the entries -/

/-- The widget's entries are the ledger's records, and its running jobs the ones the ledger holds to
be running. -/
structure Tracks (l : Ledger) (r : Registry) (t : SignStates) : Prop where
  entries : ∀ reader, t.signStates reader = (l reader).map JobRecord.entry
  /-- A record is about a job that was started under that name, and that runs if it says so. -/
  jobs : ∀ reader x, l reader = some x →
    x.job < t.jobsStarted ∧ t.jobs x.job = { reader := reader, ended := !x.isRunning }
  /-- A job that runs is the last one under its name. -/
  running : ∀ j, j < t.jobsStarted → (t.jobs j).ended = false →
    ∃ x, l (t.jobs j).reader = some x ∧ x.job = j
  /-- The cards noted are there. -/
  live : ∀ reader x c, l reader = some x → x.card = some c → r.live c = true

namespace Tracks

variable {l : Ledger} {r r' : Registry} {t t' : SignStates} {j : ℕ}

lemma blank (hstates : t.signStates = fun _ => none) (hzero : t.jobsStarted = 0) :
    Tracks .blank r t where
  entries reader := by rw [hstates]; rfl
  jobs reader x hx := by cases hx
  running j hj _ := by omega
  live reader x c hx := by cases hx

lemma mono (ht : Tracks l r t) (hlive : ∀ c, r.live c = true → r'.live c = true) :
    Tracks l r' t :=
  { ht with live := fun reader x c hx hc => hlive c (ht.live reader x c hx hc) }

/-- The record of a running job. -/
lemma record (ht : Tracks l r t) (hj : j < t.jobsStarted) (hrun : (t.jobs j).ended = false) :
    ∃ x, l (t.jobs j).reader = some x ∧ x.job = j ∧ x.fate = .running := by
  obtain ⟨x, hx, rfl⟩ := ht.running j hj hrun
  refine ⟨x, hx, rfl, ?_⟩
  rw [(ht.jobs _ x hx).2] at hrun
  simpa [JobRecord.isRunning] using hrun

/-- A note on a running job concerns the record under its reader's name, and no other. -/
lemma note_eq (ht : Tracks l r t) {reader : QString} {x : JobRecord} (hx : l reader = some x)
    (f : JobRecord → JobRecord) : l.note x.job f = l.enter reader (f x) := by
  funext reader'
  by_cases hsame : reader' = reader
  · subst hsame
    simp [Ledger.note, Ledger.enter, hx]
  · simp only [Ledger.note, Ledger.enter, Function.update_of_ne hsame]
    cases hy : l reader' with
    | none => rfl
    | some y =>
        -- Two names cannot hold one job: each job remembers the one reader it was started for.
        have hne : y.job ≠ x.job := by
          intro hjob
          have hone := (ht.jobs _ y hy).2
          rw [hjob, (ht.jobs _ x hx).2] at hone
          exact hsame (congrArg StartedJob.reader hone).symm
        simp [hne]

/-- A job is entered: one that is new, or the one recorded there. -/
lemma enter (ht : Tracks l r t) {reader : QString} {x : JobRecord}
    (hstates : t'.signStates = Function.update t.signStates reader (some x.entry))
    (hstarted : t'.jobsStarted = max t.jobsStarted (x.job + 1))
    (hjobs : t'.jobs = Function.update t.jobs x.job ⟨reader, !x.isRunning⟩)
    (hnew : t.jobsStarted = x.job ∨ ∃ y, l reader = some y ∧ y.job = x.job)
    (hfree : ∀ y, l reader = some y → y.job = x.job ∨ y.isRunning = false)
    (hlive : ∀ c, x.card = some c → r.live c = true) : Tracks (l.enter reader x) r t' where
  entries reader' := by
    rw [hstates]
    by_cases hsame : reader' = reader
    · subst hsame
      simp [Ledger.enter]
    · simp [Ledger.enter, hsame, ht.entries]
  jobs reader' y hy := by
    by_cases hsame : reader' = reader
    · subst hsame
      obtain rfl : x = y := by simpa [Ledger.enter] using hy
      refine ⟨?_, by simp [hjobs]⟩
      rw [hstarted]
      exact (Nat.lt_succ_self _).trans_le (le_max_right _ _)
    · rw [Ledger.enter, Function.update_of_ne hsame] at hy
      obtain ⟨hlt, hself⟩ := ht.jobs _ y hy
      have hne : y.job ≠ x.job := by
        intro hjob
        rcases hnew with hfresh | ⟨z, hz, hzjob⟩
        · omega
        · have hone := (ht.jobs _ z hz).2
          rw [hzjob, ← hjob, hself] at hone
          exact hsame (congrArg StartedJob.reader hone)
      rw [hjobs, Function.update_of_ne hne, hself, hstarted]
      exact ⟨hlt.trans_le (le_max_left _ _), rfl⟩
  running j hj hrun := by
    by_cases hself : j = x.job
    · subst hself
      refine ⟨x, ?_, rfl⟩
      simp [hjobs, Ledger.enter]
    · rw [hjobs, Function.update_of_ne hself] at hrun ⊢
      -- A running job other than the new one was there before, under a name not overwritten.
      have hold : j < t.jobsStarted := by
        rcases hnew with hfresh | ⟨z, hz, hzjob⟩
        · omega
        · have hlt := (ht.jobs _ z hz).1
          omega
      obtain ⟨y, hy, hyjob, hyrun⟩ := ht.record hold hrun
      refine ⟨y, ?_, hyjob⟩
      rw [Ledger.enter, Function.update_of_ne]
      · exact hy
      · intro hreader
        rw [hreader] at hy
        rcases hfree y hy with hsame | hended
        · exact hself (hyjob.symm.trans hsame)
        · simp [JobRecord.isRunning, hyrun] at hended
  live reader' y c hy hc := by
    by_cases hsame : reader' = reader
    · subst hsame
      obtain rfl : x = y := by simpa [Ledger.enter] using hy
      exact hlive c hc
    · rw [Ledger.enter, Function.update_of_ne hsame] at hy
      exact ht.live _ y c hy hc

/-- Something is noted of a job, and the widget changes its entry likewise. -/
lemma note (ht : Tracks l r t) {reader : QString} {x : JobRecord} {f : JobRecord → JobRecord}
    (hx : l reader = some x) (hjob : (f x).job = x.job) (hcard : (f x).card = x.card)
    (hstates : t'.signStates = Function.update t.signStates reader (some (f x).entry))
    (hstarted : t'.jobsStarted = t.jobsStarted)
    (hjobs : t'.jobs = Function.update t.jobs x.job ⟨reader, !(f x).isRunning⟩) :
    Tracks (l.note x.job f) r t' := by
  obtain ⟨hlt, -⟩ := ht.jobs _ x hx
  rw [ht.note_eq hx]
  refine ht.enter hstates ?_ ?_ (.inr ⟨x, hx, hjob.symm⟩) ?_ ?_
  · rw [hjob, hstarted]
    omega
  · rw [hjob, hjobs]
  · intro y hy
    obtain rfl : x = y := Option.some.inj (hx.symm.trans hy)
    exact .inl hjob.symm
  · intro c hc
    exact ht.live _ x c hx (hcard.symm.trans hc)

/-- Cards go, and the guarded pointers of the entries to them read null. -/
lemma lose (ht : Tracks l r t)
    (hstates : t'.signStates = fun reader =>
      (t.signStates reader).map fun e => { e with card := e.card.filter r'.live })
    (hstarted : t'.jobsStarted = t.jobsStarted) (hjobs : t'.jobs = t.jobs) :
    Tracks (l.lose r') r' t' where
  entries reader := by
    simp only [hstates, ht.entries, Ledger.lose, Option.map_map]
    rfl
  jobs reader x hx := by
    obtain ⟨y, hy, rfl⟩ := Option.map_eq_some_iff.1 hx
    rw [hstarted, hjobs]
    exact ht.jobs _ y hy
  running j hj hrun := by
    rw [hstarted] at hj
    rw [hjobs] at hrun ⊢
    obtain ⟨x, hx, hjob⟩ := ht.running j hj hrun
    exact ⟨{ x with card := x.card.filter r'.live }, by rw [Ledger.lose, hx]; rfl, hjob⟩
  live reader x c hx hc := by
    obtain ⟨y, hy, rfl⟩ := Option.map_eq_some_iff.1 hx
    exact (Option.filter_eq_some_iff.1 hc).2

/-- As long as no card goes the ledger loses nothing. -/
lemma lose_eq (ht : Tracks l r t) (hkeep : ∀ c, r.live c = true → r'.live c = true) :
    l.lose r' = l := by
  funext reader
  cases hx : l reader with
  | none => simp [Ledger.lose, hx]
  | some x =>
      have hcard : x.card.filter r'.live = x.card := by
        cases hc : x.card with
        | none => rfl
        | some c => simp [hkeep c (ht.live reader x c hx hc)]
      simp [Ledger.lose, hx, hcard]

/-- The roster is read, and the entries of readers that left go, but for the running jobs. -/
lemma forget (ht : Tracks l r t)
    (hstates : t'.signStates = fun reader => (t.signStates reader).filter fun e =>
      ¬ (e.job = none ∧ reader ∉ r.readers.map fun y => y.name))
    (hstarted : t'.jobsStarted = t.jobsStarted) (hjobs : t'.jobs = t.jobs) :
    Tracks (l.forget r) r t' where
  entries reader := by
    simp only [hstates, ht.entries]
    cases hx : l reader with
    | none => simp [Ledger.forget, hx]
    | some x =>
        simp only [Ledger.forget, hx, Option.map_some, Option.filter_some,
          JobRecord.entry_job_eq_none]
        by_cases hrun : x.isRunning = true <;>
          by_cases hthere : reader ∈ r.readers.map (fun y => y.name) <;> simp_all
  jobs reader x hx := by
    rw [hstarted, hjobs]
    exact ht.jobs _ x (Option.filter_eq_some_iff.1 hx).1
  running j hj hrun := by
    rw [hstarted] at hj
    rw [hjobs] at hrun ⊢
    obtain ⟨x, hx, hjob, hfate⟩ := ht.record hj hrun
    exact ⟨x, Option.filter_eq_some_iff.2 ⟨hx, by simp [JobRecord.isRunning, hfate]⟩, hjob⟩
  live reader x c hx hc := ht.live _ x c (Option.filter_eq_some_iff.1 hx).1 hc

end Tracks

/-! ## The two ledgers -/

/-- The last job under a name, if it has a card, is the last one of that card there; and of a card
that another one has signed after there is nothing left to show. -/
structure Reconciled (l : Ledger) (m : CardLedger) (t : SignStates) : Prop where
  last : ∀ reader x c, l reader = some x → x.card = some c → m reader c = some x
  older : ∀ reader c y, m reader c = some y →
    (l reader = some y ∧ y.card = some c) ∨
      (y.fate = .dismissed ∧ y.job < t.jobsStarted ∧ (t.jobs y.job).ended = true)

namespace Reconciled

variable {l : Ledger} {m : CardLedger} {r : Registry} {t t' : SignStates} {j : ℕ}

lemma blank (t : SignStates) : Reconciled .blank .blank t where
  last reader x c hx := by cases hx
  older reader c y hy := by cases hy

/-- Both ledgers have the same to show. -/
lemma surfaces_eq (hm : Reconciled l m t) (reader : QString) (c : CardRef) :
    m.surfaces reader c = l.surfaces reader c := by
  unfold CardLedger.surfaces Ledger.surfaces
  cases hx : l reader with
  | none =>
      cases hy : m reader c with
      | none => rfl
      | some y =>
          -- A card whose job is no longer the last under the name counts only if it was dismissed.
          rcases hm.older reader c y hy with ⟨hsome, -⟩ | ⟨hfate, -⟩
          · rw [hx] at hsome
            cases hsome
          · exact if_pos hfate
  | some x =>
      rw [Option.filter_some]
      by_cases hc : x.card = some c
      · rw [hm.last reader x c hx hc, decide_eq_true hc]
        rfl
      · rw [decide_eq_false hc]
        cases hy : m reader c with
        | none => rfl
        | some y =>
            rcases hm.older reader c y hy with ⟨hsome, hcard⟩ | ⟨hfate, -⟩
            · obtain rfl : x = y := Option.some.inj (hx.symm.trans hsome)
              exact absurd hcard hc
            · exact if_pos hfate

/-- The jobs of the older records have ended, and stay so. -/
lemma mono (hm : Reconciled l m t) (hstarted : t.jobsStarted ≤ t'.jobsStarted)
    (hended : ∀ j, j < t.jobsStarted → (t.jobs j).ended = true → (t'.jobs j).ended = true) :
    Reconciled l m t' where
  last := hm.last
  older reader c y hy := (hm.older reader c y hy).imp id fun ⟨hfate, hlt, hend⟩ =>
    ⟨hfate, by omega, hended _ hlt hend⟩

lemma lose (hm : Reconciled l m t) (r : Registry) : Reconciled (l.lose r) (m.lose r) t where
  last reader x c hx hc := by
    obtain ⟨y, hy, rfl⟩ := Option.map_eq_some_iff.1 hx
    obtain ⟨hcard, hlive⟩ := Option.filter_eq_some_iff.1 hc
    have hself : y.card.filter r.live = y.card := by rw [hcard, Option.filter_some, if_pos hlive]
    show (if r.live c then m reader c else none) = _
    rw [if_pos hlive, hm.last reader y c hy hcard, hself]
  older reader c y hy := by
    have hlive : r.live c = true ∧ m reader c = some y := by
      simpa [CardLedger.lose] using hy
    refine (hm.older reader c y hlive.2).imp (fun ⟨hx, hcard⟩ => ⟨?_, hcard⟩) id
    have hself : y.card.filter r.live = y.card := by rw [hcard, Option.filter_some, if_pos hlive.1]
    show (l reader).map _ = _
    rw [hx, Option.map_some, hself]

lemma forget (hm : Reconciled l m t) (r : Registry) : Reconciled (l.forget r) (m.forget r) t where
  last reader x c hx hc := by
    obtain ⟨hx, hkept⟩ := Option.filter_eq_some_iff.1 hx
    exact Option.filter_eq_some_iff.2 ⟨hm.last reader x c hx hc, hkept⟩
  older reader c y hy := by
    obtain ⟨hy, hkept⟩ := Option.filter_eq_some_iff.1 hy
    exact (hm.older reader c y hy).imp
      (fun ⟨hx, hcard⟩ => ⟨Option.filter_eq_some_iff.2 ⟨hx, hkept⟩, hcard⟩) id

/-- A note on a running job, which is the last one under its name. -/
lemma note (hm : Reconciled l m t) (hrun : (t.jobs j).ended = false) {f : JobRecord → JobRecord}
    (hcard : ∀ x, (f x).card = x.card) : Reconciled (l.note j f) (m.note j f) t where
  last reader x c hx hc := by
    obtain ⟨y, hy, rfl⟩ := Option.map_eq_some_iff.1 hx
    have hsame : y.card = some c := by
      rw [← hc]
      split_ifs
      · exact (hcard y).symm
      · rfl
    show (m reader c).map _ = _
    rw [hm.last reader y c hy hsame]
    rfl
  older reader c y hy := by
    obtain ⟨z, hz, rfl⟩ := Option.map_eq_some_iff.1 hy
    rcases hm.older reader c z hz with ⟨hx, hc⟩ | ⟨hfate, hlt, hended⟩
    · refine .inl ⟨by rw [Ledger.note, hx]; rfl, ?_⟩
      split_ifs
      · rw [hcard, hc]
      · exact hc
    · have hother : z.job ≠ j := by
        rintro rfl
        rw [hended] at hrun
        cases hrun
      rw [if_neg hother]
      exact .inr ⟨hfate, hlt, hended⟩

/-- A job is entered where there is nothing left to show of the one before, unless that was of the
same card. -/
lemma enter (hm : Reconciled l m t) {reader : QString} {x : JobRecord}
    (hover : ∀ y c, l reader = some y → y.card = some c → x.card ≠ some c →
      y.fate = .dismissed ∧ y.job < t.jobsStarted ∧ (t.jobs y.job).ended = true) :
    Reconciled (l.enter reader x) (m.enter reader x) t where
  last reader' y c hy hc := by
    by_cases hsame : reader' = reader
    · subst hsame
      obtain rfl : x = y := by simpa [Ledger.enter] using hy
      exact if_pos ⟨rfl, hc⟩
    · rw [Ledger.enter, Function.update_of_ne hsame] at hy
      rw [CardLedger.enter, if_neg fun h => hsame h.1]
      exact hm.last reader' y c hy hc
  older reader' c y hy := by
    by_cases hnew : reader' = reader ∧ x.card = some c
    · rw [CardLedger.enter, if_pos hnew] at hy
      obtain rfl := Option.some.inj hy
      obtain ⟨rfl, hc⟩ := hnew
      exact .inl ⟨by simp [Ledger.enter], hc⟩
    · rw [CardLedger.enter, if_neg hnew] at hy
      by_cases hsame : reader' = reader
      · subst hsame
        rcases hm.older reader' c y hy with ⟨hx, hc⟩ | hold
        · exact .inr (hover y c hx hc fun h => hnew ⟨rfl, h⟩)
        · exact .inr hold
      · rw [Ledger.enter, Function.update_of_ne hsame]
        exact hm.older reader' c y hy

/-- A dismissal that finds the job of the bound card, or nothing to dismiss. -/
lemma dismiss (hm : Reconciled l m t) {reader : QString} {card : Option CardRef}
    (hown : ∀ x c, l reader = some x → x.card = some c → card ≠ some c → x.dismiss = x) :
    Reconciled (l.dismiss reader) (m.dismiss reader card) t where
  last reader' x c hx hc := by
    by_cases hsame : reader' = reader
    · subst hsame
      rw [Ledger.dismiss, Function.update_self, Option.map_eq_some_iff] at hx
      obtain ⟨y, hy, rfl⟩ := hx
      rw [JobRecord.dismiss_card] at hc
      have hlast := hm.last reader' y c hy hc
      unfold CardLedger.dismiss
      by_cases hbound : card = some c
      · rw [if_pos ⟨rfl, hbound⟩, hlast]
        rfl
      · rw [if_neg fun h => hbound h.2, hlast, hown y c hy hc hbound]
    · rw [Ledger.dismiss, Function.update_of_ne hsame] at hx
      rw [CardLedger.dismiss, if_neg fun h => hsame h.1]
      exact hm.last reader' x c hx hc
  older reader' c y hy := by
    by_cases hsame : reader' = reader
    · subst hsame
      unfold CardLedger.dismiss at hy
      rw [Ledger.dismiss, Function.update_self]
      by_cases hbound : card = some c
      · rw [if_pos ⟨rfl, hbound⟩, Option.map_eq_some_iff] at hy
        obtain ⟨z, hz, rfl⟩ := hy
        rcases hm.older reader' c z hz with ⟨hx, hc⟩ | ⟨hfate, hlt, hended⟩
        · exact .inl ⟨by rw [hx]; rfl, by rw [JobRecord.dismiss_card, hc]⟩
        · have hself : z.dismiss = z :=
            JobRecord.dismiss_eq_self (JobRecord.entry_outcome_eq_none.2 (.inr hfate))
          rw [hself]
          exact .inr ⟨hfate, hlt, hended⟩
      · rw [if_neg fun h => hbound h.2] at hy
        refine (hm.older reader' c y hy).imp (fun ⟨hx, hc⟩ => ⟨?_, hc⟩) id
        rw [hx, Option.map_some, hown y c hx hc hbound]
    · rw [CardLedger.dismiss, if_neg fun h => hsame h.1] at hy
      rw [Ledger.dismiss, Function.update_of_ne hsame]
      exact hm.older reader' c y hy

end Reconciled

end LibreKDE.Plasmoid
