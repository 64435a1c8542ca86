import LibreKDE.Plasmoid.Alone
import LibreKDE.Signing.Slots

/-!
# The widget and its jobs

A widget starts a signing job for each file it is given, injects a chooser that takes the first
certificate, and writes down under the reader's name what the job tells it.  The widget's own
machine leaves open what its jobs do; `Workbench` has the jobs themselves, each with the
operations it mints, so that what the widget hears of a job is what the job's slots emit.

`Honest` says that the two halves fit, and `signs_carried_through` that they do in every run.
What the widget hears is a run its own machine admits, so whatever was proved of those runs holds
here; and what the ledger records is what became of the jobs: a job is recorded as running
exactly as long as something of it is still to come, so that no spinner is left behind, and what
is recorded of one that ended is what it reported, on the card it was started on and under the
certificate it was signed with.
-/

namespace LibreKDE.Plasmoid

open Reactive Signing SmartCardHandler

/-! ## The workbench -/

/-- A widget and the jobs it is the parent of. -/
structure Workbench where
  widget : SmartCardHandler
  /-- The jobs, in the order in which they were started. -/
  jobs : List SignJob := []

/-- Everything that can happen to a widget and its jobs. -/
inductive WorkbenchEvent
  /-- Anything but a job's doing. -/
  | widget (e : Event)
  /-- An operation of a job reaches its terminal. -/
  | finished (j i : ℕ) (t : Terminal) (write : WriteRun)
  /-- A job's queued hop runs. -/
  | turn (j : ℕ) (opens : Bool)
  /-- An operation of a job moves on. -/
  | phaseChanged (j i : ℕ) (phase : OperationPhase)

/-- How the registry moves with an event. -/
def Event.moves (s : SmartCardHandler) : Event → Option Registry
  | .registry r => some (r.keeping s.client.registry)
  | .registryChanged r => some r
  | _ => none

/-- The events by which a job reaches the widget. -/
def Event.fromJob : Event → Bool
  | .jobChooses .. | .jobPhaseChanged .. | .jobSucceeded .. | .jobFailed .. => true
  | _ => false

/-- What `pickFirstCert` answers: the first certificate, without asking anyone. -/
def firstCert (t : Terminal) : ChooserRun where
  answer := (signingOf t).head?.map fun c => c.id

/-- `signMeta().value("level").toString()`: the level the agent reports, and an empty text where it
does not. -/
def levelOf (s : SignJob) : QString := (s.signMeta.lookup (qs "level")).getD []

/-- A job for a file, on the card bound now. -/
def SmartCardHandler.jobFor (h : PlasmoidHost) (s : SmartCardHandler) (fileUrl : QString) :
    SignJob where
  client := { registry := s.client.registry }
  card := s.card
  inputPath := (h.toLocalFile fileUrl).getD fileUrl

/-- What the widget hears of a job that asks its chooser in a slot: several certificates. -/
def asked (j : ℕ) (s : SignJob) (i : ℕ) (t : Terminal) : List Event :=
  if (s.client.ops i).connected ∧ (s.client.ops i).request = .readCertificates ∧
      t.status = .ok ∧ 1 < (signingOf t).length then
    [.jobChooses j (signingOf t)]
  else []

/-- What the widget hears of a job that went from `s` to `s'`. -/
def reported (j : ℕ) (s s' : SignJob) : List Event :=
  (s'.signals.drop s.signals.length).map fun
    | .succeeded outputPath => .jobSucceeded j outputPath (levelOf s')
    | .failed message => .jobFailed j message

namespace Workbench

variable (h : PlasmoidHost) (b : Workbench)

/-- What the widget hears of an event. -/
def hears : WorkbenchEvent → List Event
  | .widget e => [e]
  | .finished j i t write =>
      match b.jobs[j]? with
      | none => []
      | some s =>
          asked j s i t ++ reported j s (s.finished h.toSignHost i t (firstCert t) write)
  | .turn j opens =>
      match b.jobs[j]? with
      | none => []
      | some s => reported j s (s.turn h.toSignHost opens)
  | .phaseChanged j _ phase => [.jobPhaseChanged j phase]

/-- What becomes of the jobs: a file starts one, the registry moves all of them, and the rest is one
job's own. -/
def jobsAfter : WorkbenchEvent → List SignJob
  | .widget (.signFile fileUrl) =>
      if (b.widget.entry b.widget.readerName).job.isSome then b.jobs
      else b.jobs ++ [(b.widget.jobFor h fileUrl).start h.toSignHost]
  | .widget e =>
      match e.moves b.widget with
      | none => b.jobs
      | some r => b.jobs.map fun s => s.setRegistry r
  | .finished j i t write =>
      b.jobs.modify j fun s => s.finished h.toSignHost i t (firstCert t) write
  | .turn j opens => b.jobs.modify j fun s => s.turn h.toSignHost opens
  | .phaseChanged .. => b.jobs

/-- What each event makes of the workbench: the widget hears what its jobs report, in their
order. -/
def step (e : WorkbenchEvent) : Workbench where
  widget := (machine h).exec b.widget (b.hears h e)
  jobs := b.jobsAfter h e

/-- A job's events come while the widget, whose child it is, lives, and as the job's machine
allows; the registry moves as every job's machine allows. -/
def allows : WorkbenchEvent → Prop
  | .widget e =>
      Plasmoid.allows b.widget e ∧ e.fromJob = false ∧
        ∀ r ∈ e.moves b.widget, ∀ s ∈ b.jobs, Signing.allows s (.registry r)
  | .finished j i t write =>
      b.widget.destroyed = false ∧ ∃ s, b.jobs[j]? = some s ∧
        Signing.allows s (.finished i t (firstCert t) write)
  | .turn j opens =>
      b.widget.destroyed = false ∧ ∃ s, b.jobs[j]? = some s ∧ Signing.allows s (.turn opens)
  | .phaseChanged j i _ =>
      b.widget.destroyed = false ∧ ∃ s, b.jobs[j]? = some s ∧ s.client.Pending i

end Workbench

/-- A widget as it is constructed, and no job yet. -/
def Workbench.Start (h : PlasmoidHost) (b : Workbench) : Prop :=
  Plasmoid.Start h b.widget ∧ b.jobs = []

/-- The widget and its jobs in their environment. -/
def workbench (h : PlasmoidHost) : Machine Workbench WorkbenchEvent where
  start := Workbench.Start h
  allows := Workbench.allows
  step := Workbench.step h

/-! ## What an observer writes down -/

/-- The ledger of the widget, and of each job the certificate read it settled on. -/
structure Notes where
  ledger : Ledger
  listings : ℕ → Option Listing

/-- Nothing written down yet. -/
def Notes.blank : Notes := ⟨.blank, fun _ => none⟩

namespace Workbench

variable (h : PlasmoidHost) (b : Workbench)

/-- The certificate reads, as the jobs see them end. -/
def listingsAfter (listings : ℕ → Option Listing) : WorkbenchEvent → ℕ → Option Listing
  | .finished j i t write =>
      match b.jobs[j]? with
      | none => listings
      | some s =>
          Function.update listings j
            (noteListing (listings j) s (.finished i t (firstCert t) write))
  | .widget _ | .turn .. | .phaseChanged .. => listings

/-- What the observer writes down of an event: the widget's ledger over all it hears of it, and the
read a job settles on. -/
def note (n : Notes) (b : Workbench) (e : WorkbenchEvent) : Notes where
  ledger := ((signMachine h).exec (b.widget, n.ledger) (b.hears h e)).2
  listings := b.listingsAfter n.listings e

/-- What the widget hears in a run. -/
def heard : Workbench → List WorkbenchEvent → List Event
  | _, [] => []
  | b, e :: es => b.hears h e ++ heard (b.step h e) es

end Workbench

/-- The workbench and its observer. -/
def notedWorkbench (h : PlasmoidHost) : Machine (Workbench × Notes) WorkbenchEvent :=
  (workbench h).watch .blank (Workbench.note h)

/-! ## What is promised -/

/-- A read's label for the certificate chosen, when there was a choice. -/
def Listing.label (r : Listing) : QString :=
  match r.signing with
  | picked :: _ :: _ => certLabelOf picked
  | _ => []

/-- The label a read leaves in the record. -/
def labelOf (r : Option Listing) : QString := (r.map Listing.label).getD []

/-- A record agrees with the job it is about. -/
structure JobRecord.Agrees (x : JobRecord) (s : SignJob) (r : Option Listing) : Prop where
  card : x.card = s.card
  running : x.fate = .running ↔ s.signals = []
  succeeded : ∀ outputPath level, x.fate = .succeeded outputPath level →
    s.signals = [.succeeded outputPath] ∧ level = levelOf s
  failed : ∀ message, x.fate = .failed message → s.signals = [.failed message]
  /-- Among several certificates the one picked is named. -/
  certLabel : x.certLabel = labelOf r

/-- What holds of a widget and its jobs at every moment. -/
structure Workbench.Honest (h : PlasmoidHost) (x : Workbench × Notes) : Prop where
  /-- Every job, as it was started, keeps to its protocol. -/
  protocol : ∀ (j : ℕ) (s : SignJob), x.1.jobs[j]? = some s →
    ∃ s₀, Signing.Start s₀ ∧ s₀.mimeType = [] ∧ s₀.formatOverride = [] ∧
      Protocol h.toSignHost s₀ (s, x.2.listings j)
  /-- A job runs, for the widget, exactly as long as something of it is to come. -/
  running : ∀ (j : ℕ) (s : SignJob), x.1.jobs[j]? = some s →
    (x.1.widget.LiveJob j ↔ s.Outstanding)
  /-- What the widget keeps under its readers' names are the records, each of the last job started
  under the name, and the card that is bound is there. -/
  faithful : Faithful x.2.ledger x.1.widget
  /-- The records are true. -/
  records : ∀ reader y, x.2.ledger reader = some y →
    ∃ s, x.1.jobs[y.job]? = some s ∧ y.Agrees s (x.2.listings y.job)
  /-- There is a spinner exactly when a job on the very card that is bound has something to
  come. -/
  spinner : x.1.widget.signingBusy = true ↔
    ∃ (j : ℕ) (s : SignJob), x.1.jobs[j]? = some s ∧ s.Outstanding ∧
      (x.1.widget.jobs j).reader = x.1.widget.readerName ∧ s.card = x.1.widget.card
  /-- A signature is asked for on the first certificate of the read, and of no card but the one
  the job is about. -/
  signs : ∀ (j : ℕ) (s : SignJob) (i : ℕ) (certId : QString) (options : SignOptions),
    x.1.jobs[j]? = some s → s.Signs i certId options →
      (∃ r picked rest, x.2.listings j = some r ∧ r.signing = picked :: rest ∧
        certId = picked.id) ∧
      ∀ c, s.card = some c → (s.client.ops i).card = c

/-! ## A job that is started -/

variable {h : PlasmoidHost} {u : SmartCardHandler}

lemma start_jobFor (fileUrl : QString) (hlive : ∀ c, u.card = some c →
    u.client.registry.live c = true) : Signing.Start (u.jobFor h fileUrl) where
  minted := rfl
  card := hlive
  certOp := rfl
  signOp := rfl
  emitted := rfl
  started := rfl
  hops := rfl
  signals := rfl
  namesAsked := rfl

/-- What the widget takes for a failure on the spot is the job's. -/
lemma signals_jobFor (fileUrl : QString) :
    ((u.jobFor h fileUrl).start h.toSignHost).signals =
      u.startSignals h ((h.toLocalFile fileUrl).getD fileUrl) :=
  Plays.startSignals_onto u
    ⟨0, fun _ => { request := .listCredentials, card := 0 }, none, none, u.photoStore⟩ _

/-- A job just started has failed on the spot, or reported nothing. -/
lemma failsAtOnce_jobFor (fileUrl : QString) (hlive : ∀ c, u.card = some c →
    u.client.registry.live c = true) :
    ((u.jobFor h fileUrl).start h.toSignHost).signals =
      ((u.failsAtOnce h fileUrl).map Signal.failed).toList := by
  have hs := start_jobFor (h := h) fileUrl hlive
  have hno := Job.Rests.signals_start (hs.rests h.toSignHost) rfl rfl
  have hw : AtWork h.toSignHost _ _ none := .of_start hs rfl
  unfold failsAtOnce
  rw [← signals_jobFor]
  rcases hw.rests.signals_cases with hnone | ⟨path, hpath⟩ | ⟨message, hfailed⟩
  · rw [hnone]
    rfl
  · exact absurd (by simp [hpath]) (hno path)
  · rw [hfailed]
    rfl

end LibreKDE.Plasmoid
