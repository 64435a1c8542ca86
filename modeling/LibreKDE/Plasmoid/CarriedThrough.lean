import LibreKDE.Plasmoid.Workbench

/-!
# The widget and its jobs, through a run

The proof that a widget's records of its jobs are true.  `Hears` is what a slot of one job means
to the widget: what is heard is allowed, and what is noted agrees with where the job now stands.
`Sound` is what every event keeps, a job's by `Sound.goesOn`, the widget's own by
`Sound.alongside` and `Sound.starts`.
-/

namespace LibreKDE.Plasmoid

open Reactive Signing SmartCardHandler

variable {h : PlasmoidHost} {u : SmartCardHandler}

/-! ## What the widget hears of a job -/

namespace JobRecord.Agrees

variable {x : JobRecord} {s s' : SignJob} {r r' : Option Listing}

/-- A job that has reported nothing goes on without a report. -/
lemma goesOn (ha : x.Agrees s r) (hnone : s.signals = []) (hnone' : s'.signals = [])
    (hcard : s'.card = s.card) (hlabel : labelOf r' = labelOf r) : x.Agrees s' r' := by
  have hrun : x.fate = .running := ha.running.2 hnone
  exact
    { card := ha.card.trans hcard.symm
      running := iff_of_true hrun hnone'
      succeeded := fun _ _ hfate => by simp [hrun] at hfate
      failed := fun _ hfate => by simp [hrun] at hfate
      certLabel := ha.certLabel.trans hlabel.symm }

lemma succeeds (ha : x.Agrees s r) {path : QString} (hpath : s'.signals = [.succeeded path])
    (hcard : s'.card = s.card) (hlabel : labelOf r' = labelOf r) :
    { x with fate := .succeeded path (levelOf s') }.Agrees s' r' where
  card := ha.card.trans hcard.symm
  running := by simp [hpath]
  succeeded := by
    rintro _ _ ⟨⟩
    exact ⟨hpath, rfl⟩
  failed _ hfate := by simp at hfate
  certLabel := ha.certLabel.trans hlabel.symm

lemma fails (ha : x.Agrees s r) {message : QString} (hfailed : s'.signals = [.failed message])
    (hcard : s'.card = s.card) (hlabel : labelOf r' = labelOf r) :
    { x with fate := .failed message }.Agrees s' r' where
  card := ha.card.trans hcard.symm
  running := by simp [hfailed]
  succeeded _ _ hfate := by simp at hfate
  failed := by
    rintro _ ⟨⟩
    exact hfailed
  certLabel := ha.certLabel.trans hlabel.symm

/-- The registry moves, and with it the record's card and the job's. -/
lemma registry (ha : x.Agrees s r) (reg : Registry) :
    { x with card := x.card.filter reg.live }.Agrees (s.setRegistry reg) r where
  card := congrArg (fun c : Option CardRef => c.filter reg.live) ha.card
  running := ha.running
  succeeded := ha.succeeded
  failed := ha.failed
  certLabel := ha.certLabel

/-- What a job ended as is dismissed. -/
lemma dismiss (ha : x.Agrees s r) : x.dismiss.Agrees s r := by
  unfold JobRecord.dismiss
  split_ifs with hrun
  · exact ha
  · have hended : s.signals ≠ [] := fun hnone =>
      hrun (by simp [isRunning, ha.running.2 hnone])
    exact
      { card := ha.card
        running := iff_of_false (by simp) hended
        succeeded := fun _ _ hfate => by simp at hfate
        failed := fun _ hfate => by simp at hfate
        certLabel := ha.certLabel }

end JobRecord.Agrees

/-- The widget `u` with the ledger `l` hears `evs` of its job `j`, which went from `s` with the
listing `r` to `s'` with `r'`. -/
structure Hears (h : PlasmoidHost) (u : SmartCardHandler) (l : Ledger) (j : ℕ) (s s' : SignJob)
    (r r' : Option Listing) (evs : List Event) : Prop where
  admits : (machine h).Admits u evs
  faithful : Faithful ((signMachine h).exec (u, l) evs).2 ((machine h).exec u evs)
  jobsStarted : ((machine h).exec u evs).jobsStarted = u.jobsStarted
  ended : (((machine h).exec u evs).jobs j).ended = false ↔ s'.signals = []
  others : ∀ i ≠ j, ((machine h).exec u evs).jobs i = u.jobs i
  records : ∀ reader x', ((signMachine h).exec (u, l) evs).2 reader = some x' →
    ∃ x, l reader = some x ∧ x'.job = x.job ∧ (x.job ≠ j → x' = x) ∧
      (x.job = j → x.Agrees s r → x'.Agrees s' r')

namespace Hears

variable {l : Ledger} {j : ℕ} {s₀ s s' : SignJob} {r r' : Option Listing}

/-- Nothing is heard of a job that goes on. -/
lemma silence (hf : Faithful l u) (hj : u.LiveJob j)
    (hagrees : ∀ x : JobRecord, x.Agrees s r → x.Agrees s' r') (hnone : s'.signals = []) :
    Hears h u l j s s' r r' [] where
  admits := trivial
  faithful := hf
  jobsStarted := rfl
  ended := iff_of_true hj.2 hnone
  others _ _ := rfl
  records _ x hx := ⟨x, hx, rfl, fun _ => rfl, fun _ => hagrees x⟩

/-- One event is heard, and something noted of the job. -/
lemma one {e : Event} {f : JobRecord → JobRecord} (hf : Faithful l u) (hal : Plasmoid.allows u e)
    (hlook : look h l u e = l.note j f) (hjob : ∀ x, (f x).job = x.job)
    (hagrees : ∀ x : JobRecord, x.Agrees s r → (f x).Agrees s' r')
    (hstarted : (Plasmoid.step h u e).jobsStarted = u.jobsStarted)
    (hended : ((Plasmoid.step h u e).jobs j).ended = false ↔ s'.signals = [])
    (hothers : ∀ i ≠ j, (Plasmoid.step h u e).jobs i = u.jobs i) :
    Hears h u l j s s' r r' [e] where
  admits := ⟨hal, trivial⟩
  faithful := faithful_step hf hal
  jobsStarted := hstarted
  ended := hended
  others := hothers
  records reader x' hx' := by
    have hnoted : look h l u e reader = some x' := hx'
    rw [hlook] at hnoted
    obtain ⟨x, hx, rfl⟩ := Option.map_eq_some_iff.1 hnoted
    refine ⟨x, hx, ?_, fun hne => if_neg hne, fun hself ha => ?_⟩
    · split_ifs
      · exact hjob x
      · rfl
    · rw [if_pos hself]
      exact hagrees x ha

/-- What a job that had not reported reports in a slot. -/
lemma report (hf : Faithful l u) (halive : u.destroyed = false) (hj : u.LiveJob j)
    (hnone : s.signals = []) (hw : AtWork h.toSignHost s₀ s' r') (hcard : s'.card = s.card)
    (hlabel : labelOf r' = labelOf r) : Hears h u l j s s' r r' (reported j s s') := by
  have hdrop : s'.signals.drop s.signals.length = s'.signals := by rw [hnone]; rfl
  unfold reported
  rw [hdrop]
  rcases hw.rests.signals_cases with hquiet | ⟨path, hpath⟩ | ⟨message, hfailed⟩
  · rw [hquiet]
    exact silence hf hj (fun x ha => ha.goesOn hnone hquiet hcard hlabel) hquiet
  · rw [hpath]
    refine one hf ⟨.inl halive, hj⟩ rfl (fun _ => rfl)
      (fun x ha => ha.succeeds hpath hcard hlabel) rfl ?_ fun i hi => ?_
    · simp [Plasmoid.step, onSucceeded, publishSignSurfaces, setEntry, hpath]
    · simp [Plasmoid.step, onSucceeded, publishSignSurfaces, setEntry, hi]
  · rw [hfailed]
    refine one hf ⟨.inl halive, hj⟩ rfl (fun _ => rfl)
      (fun x ha => ha.fails hfailed hcard hlabel) rfl ?_ fun i hi => ?_
    · simp [Plasmoid.step, onFailed, publishSignSurfaces, setEntry, hfailed]
    · simp [Plasmoid.step, onFailed, publishSignSurfaces, setEntry, hi]

/-- What is heard when a job asks its chooser: the label of the certificate picked. -/
lemma choice (hf : Faithful l u) (halive : u.destroyed = false) (hj : u.LiveJob j)
    (hnone : s.signals = []) (hnone' : s'.signals = []) (hcard : s'.card = s.card)
    {picked next : CertificateInfo} {rest : List CertificateInfo} {answer : Option QString} :
    Hears h u l j s s' r (some ⟨picked :: next :: rest, answer⟩)
      [.jobChooses j (picked :: next :: rest)] := by
  refine one hf ⟨.inl halive, hj⟩ rfl (fun _ => rfl) (fun x ha => ?_) rfl ?_ fun i _ => rfl
  · have hrun : x.fate = .running := ha.running.2 hnone
    exact
      { card := ha.card.trans hcard.symm
        running := iff_of_true hrun hnone'
        succeeded := fun _ _ hfate => by simp [hrun] at hfate
        failed := fun _ hfate => by simp [hrun] at hfate
        certLabel := rfl }
  · exact iff_of_true hj.2 hnone'

/-- What is heard of a job one of whose operations ends. -/
lemma finished (hf : Faithful l u) (halive : u.destroyed = false) (hj : u.LiveJob j)
    (hw : AtWork h.toSignHost s₀ s r) {i : ℕ} {t : Terminal} {write : WriteRun}
    (hal : Signing.allows s (.finished i t (firstCert t) write)) :
    Hears h u l j s (s.finished h.toSignHost i t (firstCert t) write) r
      (noteListing r s (.finished i t (firstCert t) write))
      (asked j s i t ++ reported j s (s.finished h.toSignHost i t (firstCert t) write)) := by
  have hnone : s.signals = [] := hw.signals_eq_nil hal (by simp)
  obtain ⟨hw', hcard⟩ := hw.finished hal
  have hcard := hcard rfl
  rcases hw.finished_cases hal with ⟨rfl, hread⟩ | ⟨-, -, hreq⟩
  · have hone : s.client.minted = 1 := hread.mints
    have hconn : (s.client.ops 0).connected = true := (hread.listens 0 rfl).1
    have hreq : (s.client.ops 0).request = .readCertificates := hread.reads (by omega)
    have hcert : s.certOp = some 0 := hread.certOp
    have hr : r = none := hw.unread (by simp [hcert])
    -- The list ended. With several certificates the chooser is asked, and the label noted.
    by_cases hok : t.status = .ok
    · have hnote : noteListing r s (.finished 0 t (firstCert t) write) =
          some ⟨signingOf t, (firstCert t).answer⟩ := by
        rw [noteListing, if_pos ⟨hconn, hreq, hok⟩, hw.chooser]
        rfl
      rcases hmany : signingOf t with _ | ⟨picked, _ | ⟨next, rest⟩⟩
      · have hasked : asked j s 0 t = [] := if_neg (by simp [hmany])
        rw [hasked]
        refine report hf halive hj hnone hw' hcard ?_
        rw [hnote, hmany, hr]
        rfl
      · have hasked : asked j s 0 t = [] := if_neg (by simp [hmany])
        rw [hasked]
        refine report hf halive hj hnone hw' hcard ?_
        rw [hnote, hmany, hr]
        rfl
      · have hlength : 1 < (signingOf t).length := by simp [hmany]
        have hanswer : (firstCert t).answer ≠ none := by simp [firstCert, hmany]
        -- The first of several is picked without a dialog, and the job is still at work.
        have hquiet := hread.asksQuietly hw.chooser hok hlength rfl hanswer write
        rw [hnone] at hquiet
        have hreports : reported j s (s.finished h.toSignHost 0 t (firstCert t) write) = [] := by
          rw [reported, hquiet, List.drop_nil]
          rfl
        rw [hreports, hnote, List.append_nil, asked, if_pos ⟨hconn, hreq, hok, hlength⟩, hmany]
        exact choice hf halive hj hnone hquiet hcard
    · have hasked : asked j s 0 t = [] := if_neg fun h => hok h.2.2.1
      have hnote : noteListing r s (.finished 0 t (firstCert t) write) = r := by
        rw [noteListing, if_neg fun h => hok h.2.2]
      rw [hasked]
      exact report hf halive hj hnone hw' hcard (by rw [hnote])
  · have hasked : asked j s i t = [] := if_neg fun h => hreq h.2.1
    have hnote : noteListing r s (.finished i t (firstCert t) write) = r := by
      rw [noteListing, if_neg fun h => hreq h.2.1]
    rw [hasked]
    exact report hf halive hj hnone hw' hcard (by rw [hnote])

/-- What is heard of a job whose operation moves on. -/
lemma phaseChanged (hf : Faithful l u) (halive : u.destroyed = false) (hj : u.LiveJob j)
    (hnone : s.signals = []) (phase : OperationPhase) :
    Hears h u l j s s r r [.jobPhaseChanged j phase] := by
  have hsame : (u.onPhaseChanged j phase).jobsStarted = u.jobsStarted ∧
      (u.onPhaseChanged j phase).jobs = u.jobs := by
    unfold onPhaseChanged
    dsimp only
    split <;> exact ⟨rfl, rfl⟩
  refine one hf ⟨.inl halive, hj⟩ rfl (fun _ => rfl) (fun x ha => { ha with }) hsame.1 ?_
    fun i _ => congrFun hsame.2 i
  have hself : ((Plasmoid.step h u (.jobPhaseChanged j phase)).jobs j) = u.jobs j :=
    congrFun hsame.2 j
  rw [hself]
  exact iff_of_true hj.2 hnone

end Hears

/-! ## What carries the promise -/

namespace Workbench

/-- The job is at work, and was given neither a type nor a format. -/
def Begun (h : SignHost) (s : SignJob) (r : Option Listing) : Prop :=
  ∃ s₀, s₀.mimeType = [] ∧ s₀.formatOverride = [] ∧ AtWork h s₀ s r

/-- The widget, its jobs and the observer's notes belong together. -/
structure Sound (h : PlasmoidHost) (b : Workbench) (n : Notes) : Prop where
  faithful : Faithful n.ledger b.widget
  count : b.jobs.length = b.widget.jobsStarted
  atWork : ∀ (j : ℕ) (s : SignJob), b.jobs[j]? = some s →
    Begun h.toSignHost s (n.listings j)
  /-- The chooser answers with the first certificate. -/
  picks : ∀ j r, n.listings j = some r → r.answer = r.signing.head?.map fun c => c.id
  ended : ∀ (j : ℕ) (s : SignJob), b.jobs[j]? = some s →
    ((b.widget.jobs j).ended = false ↔ s.signals = [])
  records : ∀ reader x (s : SignJob), n.ledger reader = some x → b.jobs[x.job]? = some s →
    x.Agrees s (n.listings x.job)
  fresh : ∀ j, b.jobs.length ≤ j → n.listings j = none

namespace Sound

variable {b b' : Workbench} {n n' : Notes} {j : ℕ} {s s' : SignJob}

lemma lt_length (hj : b.jobs[j]? = some s) : j < b.jobs.length :=
  (List.getElem?_eq_some_iff.1 hj).1

/-- With one job changed the list holds that job and the others. -/
lemma of_modify {jobs : List SignJob} {f : SignJob → SignJob} {i : ℕ} {u : SignJob}
    (hj : jobs[j]? = some s) (hi : (jobs.modify j f)[i]? = some u) :
    i = j ∧ u = f s ∨ i ≠ j ∧ jobs[i]? = some u := by
  rw [List.getElem?_modify] at hi
  by_cases hij : j = i
  · subst hij
    exact .inl ⟨rfl, by simpa [hj, eq_comm] using hi⟩
  · exact .inr ⟨Ne.symm hij, by simpa [hij] using hi⟩

/-- A job that has not reported runs, for the widget. -/
lemma liveJob (hb : Sound h b n) (hj : b.jobs[j]? = some s) (hnone : s.signals = []) :
    b.widget.LiveJob j :=
  ⟨hb.count ▸ lt_length hj, (hb.ended j s hj).2 hnone⟩

/-- One job goes on, and the widget hears of it. -/
lemma goesOn (hb : Sound h b n) (hj : b.jobs[j]? = some s) {r' : Option Listing}
    {evs : List Event} (hh : Hears h b.widget n.ledger j s s' (n.listings j) r' evs)
    (hw : Begun h.toSignHost s' r')
    (hpicks : ∀ l, r' = some l → l.answer = l.signing.head?.map fun c => c.id)
    {f : SignJob → SignJob} (hs' : f s = s')
    (hjobs : b'.jobs = b.jobs.modify j f) (hwidget : b'.widget = (machine h).exec b.widget evs)
    (hledger : n'.ledger = ((signMachine h).exec (b.widget, n.ledger) evs).2)
    (hlistings : n'.listings = Function.update n.listings j r') : Sound h b' n' where
  faithful := by
    rw [hledger, hwidget]
    exact hh.faithful
  count := by
    rw [hjobs, List.length_modify, hwidget, hh.jobsStarted, hb.count]
  atWork i u hi := by
    rw [hjobs] at hi
    rw [hlistings]
    rcases of_modify hj hi with ⟨rfl, rfl⟩ | ⟨hne, hi⟩
    · rw [Function.update_self, hs']
      exact hw
    · rw [Function.update_of_ne hne]
      exact hb.atWork i u hi
  picks i l hl := by
    rw [hlistings, Function.update_apply] at hl
    split_ifs at hl
    · exact hpicks l hl
    · exact hb.picks i l hl
  ended i u hi := by
    rw [hjobs] at hi
    rw [hwidget]
    rcases of_modify hj hi with ⟨rfl, rfl⟩ | ⟨hne, hi⟩
    · rw [hs']
      exact hh.ended
    · rw [hh.others i hne]
      exact hb.ended i u hi
  records reader x' u hx' hi := by
    rw [hledger] at hx'
    obtain ⟨x, hx, hjob, hother, hself⟩ := hh.records reader x' hx'
    rw [hjob, hjobs] at hi
    rw [hjob, hlistings]
    rcases of_modify hj hi with ⟨hsame, rfl⟩ | ⟨hne, hi⟩
    · have hx₀ := hb.records reader x s hx (by rw [hsame, hj])
      rw [hsame] at hx₀ ⊢
      rw [Function.update_self, hs']
      exact hself hsame hx₀
    · rw [Function.update_of_ne hne, hother hne]
      exact hb.records reader x u hx hi
  fresh i hi := by
    rw [hjobs, List.length_modify] at hi
    have hne : i ≠ j := by
      have hlt := lt_length hj
      omega
    rw [hlistings, Function.update_of_ne hne]
    exact hb.fresh i hi

/-- The widget goes on by itself, and the registry may move under the jobs. -/
lemma alongside (hb : Sound h b n) {f : SignJob → SignJob}
    (hf : Faithful n'.ledger b'.widget)
    (hsame : b'.widget.jobs = b.widget.jobs ∧ b'.widget.jobsStarted = b.widget.jobsStarted)
    (hjobs : b'.jobs = b.jobs.map f) (hlistings : n'.listings = n.listings)
    (hsignals : ∀ s, (f s).signals = s.signals)
    (hwork : ∀ s ∈ b.jobs, ∀ s₀ r, AtWork h.toSignHost s₀ s r → AtWork h.toSignHost s₀ (f s) r)
    (hrecords : ∀ reader x', n'.ledger reader = some x' → ∃ x, n.ledger reader = some x ∧
      x'.job = x.job ∧ ∀ s r, x.Agrees s r → x'.Agrees (f s) r) : Sound h b' n' := by
  -- The jobs move with the widget's registry, and keep what they have reported.
  have hmapped : ∀ {i : ℕ} {u : SignJob}, b'.jobs[i]? = some u →
      ∃ s, b.jobs[i]? = some s ∧ f s = u := by
    intro i u hi
    rw [hjobs, List.getElem?_map] at hi
    exact Option.map_eq_some_iff.1 hi
  refine ⟨hf, ?_, fun i u hi => ?_, fun i l hl => ?_, fun i u hi => ?_,
    fun reader x' u hx' hi => ?_, fun i hi => ?_⟩
  · rw [hjobs, List.length_map, hsame.2, hb.count]
  · obtain ⟨s, hs, rfl⟩ := hmapped hi
    obtain ⟨s₀, hmime, hformat, hw⟩ := hb.atWork i s hs
    rw [hlistings]
    exact ⟨s₀, hmime, hformat, hwork s (List.mem_of_getElem? hs) _ _ hw⟩
  · rw [hlistings] at hl
    exact hb.picks i l hl
  · obtain ⟨s, hs, rfl⟩ := hmapped hi
    rw [hsame.1, hsignals]
    exact hb.ended i s hs
  · obtain ⟨x, hx, hjob, hagrees⟩ := hrecords reader x' hx'
    obtain ⟨s, hs, rfl⟩ := hmapped hi
    rw [hjob] at hs ⊢
    rw [hlistings]
    exact hagrees s _ (hb.records reader x s hx hs)
  · rw [hjobs, List.length_map] at hi
    rw [hlistings]
    exact hb.fresh i hi

/-- A job is started. -/
lemma starts (hb : Sound h b n) {fileUrl : QString}
    (hidle : (b.widget.entry b.widget.readerName).job.isSome = false)
    (hf : Faithful n'.ledger b'.widget)
    (hwidget : b'.widget = b.widget.signFile h fileUrl)
    (hjobs : b'.jobs = b.jobs ++ [(b.widget.jobFor h fileUrl).start h.toSignHost])
    (hledger : n'.ledger = look h n.ledger b.widget (.signFile fileUrl))
    (hlistings : n'.listings = n.listings) : Sound h b' n' := by
  have hlive := hb.faithful.bound
  have hsignals := failsAtOnce_jobFor (h := h) fileUrl hlive
  have hnew : Begun h.toSignHost ((b.widget.jobFor h fileUrl).start h.toSignHost) none :=
    ⟨_, rfl, rfl, .of_start (start_jobFor fileUrl hlive) rfl⟩
  have hcard : ((b.widget.jobFor h fileUrl).start h.toSignHost).card = b.widget.card :=
    congrArg Prod.fst ((b.widget.jobFor h fileUrl).start_bearing h.toSignHost)
  rw [signFile_eq, if_neg (by simp [hidle])] at hwidget
  have hlook : n'.ledger = n.ledger.enter b.widget.readerName
      { job := b.widget.jobsStarted
        card := b.widget.card
        fate := ((b.widget.failsAtOnce h fileUrl).map Fate.failed).getD .running } := by
    rw [hledger]
    refine if_neg ?_
    rw [← hb.faithful.entry_job_isSome, hidle]
    decide
  have hstarted : b'.widget.jobsStarted = b.widget.jobsStarted + 1 ∧
      b'.widget.jobs = Function.update b.widget.jobs b.widget.jobsStarted
        ⟨b.widget.readerName, (b.widget.failsAtOnce h fileUrl).isSome⟩ := by
    rw [hwidget]
    -- A job that fails inside `start` has reported before `signFile` returns.
    cases b.widget.failsAtOnce h fileUrl with
    | none => exact ⟨rfl, rfl⟩
    | some message =>
        refine ⟨rfl, ?_⟩
        simp [SmartCardHandler.signStarted, onFailed, publishSignSurfaces, setEntry]
  have happended : ∀ {i : ℕ} {u : SignJob}, b'.jobs[i]? = some u →
      i ≠ b.widget.jobsStarted ∧ b.jobs[i]? = some u ∨
        i = b.widget.jobsStarted ∧ u = (b.widget.jobFor h fileUrl).start h.toSignHost := by
    intro i u hi
    have hlt : i < b'.jobs.length := lt_length hi
    rw [hjobs, List.length_append, List.length_singleton, hb.count] at hlt
    rw [hjobs, List.getElem?_append, hb.count] at hi
    split_ifs at hi with hold
    · exact .inl ⟨by omega, hi⟩
    · obtain rfl : i = b.widget.jobsStarted := by omega
      exact .inr ⟨rfl, by simpa [eq_comm] using hi⟩
  refine ⟨hf, ?_, fun i u hi => ?_, fun i l hl => ?_, fun i u hi => ?_,
    fun reader x u hx hi => ?_, fun i hi => ?_⟩
  · rw [hjobs, List.length_append, List.length_singleton, hb.count, hstarted.1]
  · rw [hlistings]
    rcases happended hi with ⟨-, hi⟩ | ⟨rfl, rfl⟩
    · exact hb.atWork i u hi
    · rw [hb.fresh _ hb.count.le]
      exact hnew
  · rw [hlistings] at hl
    exact hb.picks i l hl
  · rw [hstarted.2]
    rcases happended hi with ⟨hne, hi⟩ | ⟨rfl, rfl⟩
    · rw [Function.update_of_ne hne]
      exact hb.ended i u hi
    · rw [Function.update_self, hsignals]
      cases b.widget.failsAtOnce h fileUrl <;> simp
  · rw [hlook] at hx
    rw [hlistings]
    by_cases hreader : reader = b.widget.readerName
    · subst hreader
      obtain rfl : _ = x := by simpa [Ledger.enter] using hx
      rcases happended hi with ⟨hne, -⟩ | ⟨-, rfl⟩
      · exact absurd rfl hne
      · dsimp only
        rw [hb.fresh _ hb.count.le]
        refine ⟨hcard.symm, ?_, fun path level hfate => ?_, fun message hfate => ?_, rfl⟩
        · rw [hsignals]
          cases b.widget.failsAtOnce h fileUrl <;> simp
        · cases hfails : b.widget.failsAtOnce h fileUrl <;> simp [hfails] at hfate
        · rw [hsignals]
          cases hfails : b.widget.failsAtOnce h fileUrl <;> simp_all
    · rw [Ledger.enter, Function.update_of_ne hreader] at hx
      have hlt := (hb.faithful.tracks.jobs reader x hx).1
      rcases happended hi with ⟨-, hi⟩ | ⟨hsame, -⟩
      · exact hb.records reader x u hx hi
      · omega
  · rw [hjobs, List.length_append, List.length_singleton] at hi
    rw [hlistings]
    exact hb.fresh i (by omega)

/-- The events that are not of signing leave the jobs alone. -/
lemma jobs_of_not_signing {l : Ledger} (hf : Faithful l u) {e : Event}
    (he : e.isSigning = false) :
    (Plasmoid.step h u e).jobs = u.jobs ∧ (Plasmoid.step h u e).jobsStarted = u.jobsStarted := by
  cases lands (h := h) hf he with
  | aside ha _ => exact ⟨by rw [ha.signs], by rw [ha.signs]⟩
  | reread s₁ ha hstep _ =>
      have hr := s₁.refresh_refreshed (h := h)
      rw [hstep]
      exact ⟨hr.jobs.trans (by rw [ha.signs]), hr.jobsStarted.trans (by rw [ha.signs])⟩
  | moved r hstep _ =>
      have hr := (u.setRegistry r).refresh_refreshed (h := h)
      rw [hstep]
      exact ⟨hr.jobs, hr.jobsStarted⟩

/-- Unless the registry moves the observer notes nothing, or that readers have left. -/
lemma look_of_not_signing (l : Ledger) {e : Event} (he : e.isSigning = false)
    (hm : e.moves u = none) :
    look h l u e = if e.readsRoster u then l.forget u.client.registry else l := by
  cases e with
  | registry r | registryChanged r => cases hm
  | signFile | dismissSignResult | jobChooses | jobPhaseChanged | jobSucceeded | jobFailed =>
      cases he
  | _ => rfl

lemma dismissSignResult_jobs (u : SmartCardHandler) :
    u.dismissSignResult.jobs = u.jobs ∧ u.dismissSignResult.jobsStarted = u.jobsStarted := by
  unfold SmartCardHandler.dismissSignResult
  split
  · exact ⟨rfl, rfl⟩
  · split_ifs <;> exact ⟨rfl, rfl⟩

/-- An event of the widget's own. -/
lemma widget (hb : Sound h b n) {e : Event} (hal : b.allows (.widget e)) :
    Sound h (b.step h (.widget e)) (note h n b (.widget e)) := by
  obtain ⟨hallowed, hown, hmoves⟩ := hal
  have hf : Faithful (look h n.ledger b.widget e) (Plasmoid.step h b.widget e) :=
    faithful_step hb.faithful hallowed
  -- the registry moves under the jobs as under the widget
  have hregistry : ∀ {r : Registry}, e.moves b.widget = some r → e.isSigning = false →
      (b.step h (.widget e)).jobs = b.jobs.map (fun s => s.setRegistry r) →
      (∀ reader x', look h n.ledger b.widget e reader = some x' →
        ∃ x, n.ledger reader = some x ∧ x' = { x with card := x.card.filter r.live }) →
      Sound h (b.step h (.widget e)) (note h n b (.widget e)) := by
    intro r hr he hjobs hlook
    refine hb.alongside hf (jobs_of_not_signing hb.faithful he) hjobs rfl (fun _ => rfl)
      (fun s hs s₀ r' hw => hw.registry (hmoves r hr s hs)) fun reader x' hx' => ?_
    obtain ⟨x, hx, rfl⟩ := hlook reader x' hx'
    exact ⟨x, hx, rfl, fun s r' ha => ha.registry r⟩
  -- and without that the jobs stay as they are
  have hquiet : (Plasmoid.step h b.widget e).jobs = b.widget.jobs ∧
      (Plasmoid.step h b.widget e).jobsStarted = b.widget.jobsStarted →
      (b.step h (.widget e)).jobs = b.jobs →
      (∀ reader x', look h n.ledger b.widget e reader = some x' → ∃ x, n.ledger reader = some x ∧
        x'.job = x.job ∧ ∀ s r, x.Agrees s r → x'.Agrees s r) →
      Sound h (b.step h (.widget e)) (note h n b (.widget e)) := by
    intro hsame hjobs hlook
    exact hb.alongside (f := id) hf hsame (by rw [hjobs, List.map_id]) rfl (fun _ => rfl)
      (fun _ _ _ _ hw => hw) hlook
  have hrest : e.isSigning = false → e.moves b.widget = none →
      (b.step h (.widget e)).jobs = b.jobs →
      Sound h (b.step h (.widget e)) (note h n b (.widget e)) := by
    intro he hm hjobs
    refine hquiet (jobs_of_not_signing hb.faithful he) hjobs fun reader x hx =>
      ⟨x, ?_, rfl, fun _ _ ha => ha⟩
    rw [look_of_not_signing n.ledger he hm] at hx
    split_ifs at hx
    · exact (Option.filter_eq_some_iff.1 hx).1
    · exact hx
  cases e with
  | registry r =>
      refine hregistry rfl rfl rfl fun reader x hx => ⟨x, hx, ?_⟩
      have hcard : x.card.filter (r.keeping b.widget.client.registry).live = x.card := by
        cases hc : x.card with
        | none => rfl
        | some c => exact if_pos (Registry.live_keeping (hb.faithful.tracks.live reader x c hx hc))
      rw [hcard]
  | registryChanged r =>
      refine hregistry rfl rfl rfl fun reader x' hx' => ?_
      have hlost := (Option.filter_eq_some_iff.1 hx').1
      obtain ⟨x, hx, rfl⟩ := Option.map_eq_some_iff.1 hlost
      exact ⟨x, hx, rfl⟩
  | signFile fileUrl =>
      by_cases hbusy : (b.widget.entry b.widget.readerName).job.isSome = true
      · have hstep : b.widget.signFile h fileUrl = b.widget := by rw [signFile_eq, if_pos hbusy]
        have hlook : look h n.ledger b.widget (.signFile fileUrl) = n.ledger :=
          if_pos (by rw [← hb.faithful.entry_job_isSome, hbusy])
        refine hquiet ?_ (if_pos hbusy) fun reader x hx => ?_
        · exact ⟨congrArg (fun u : SmartCardHandler => u.jobs) hstep,
            congrArg (fun u : SmartCardHandler => u.jobsStarted) hstep⟩
        · rw [hlook] at hx
          exact ⟨x, hx, rfl, fun _ _ ha => ha⟩
      · exact hb.starts (by simpa using hbusy) hf rfl (if_neg hbusy) rfl rfl
  | dismissSignResult =>
      refine hquiet (dismissSignResult_jobs b.widget) rfl fun reader x' hx' => ?_
      by_cases hreader : reader = b.widget.readerName
      · subst hreader
        have hx'' : (n.ledger b.widget.readerName).map JobRecord.dismiss = some x' := by
          simpa [look, Ledger.dismiss] using hx'
        obtain ⟨x, hx, rfl⟩ := Option.map_eq_some_iff.1 hx''
        exact ⟨x, hx, x.dismiss_job, fun _ _ ha => ha.dismiss⟩
      · refine ⟨x', ?_, rfl, fun _ _ ha => ha⟩
        simpa [look, Ledger.dismiss, hreader] using hx'
  | jobChooses | jobPhaseChanged | jobSucceeded | jobFailed => cases hown
  | _ => exact hrest rfl rfl rfl

/-- **Every event keeps the widget and its jobs together.** -/
lemma step (hb : Sound h b n) {e : WorkbenchEvent} (hal : b.allows e) :
    Sound h (b.step h e) (note h n b e) ∧ (machine h).Admits b.widget (b.hears h e) := by
  cases e with
  | widget e => exact ⟨hb.widget hal, hal.1, trivial⟩
  | finished j i t write =>
      obtain ⟨halive, s, hj, hallowed⟩ := hal
      obtain ⟨s₀, hmime, hformat, hw⟩ := hb.atWork j s hj
      have hnone : s.signals = [] := hw.signals_eq_nil hallowed (by simp)
      have hh := Hears.finished hb.faithful halive (hb.liveJob hj hnone) hw hallowed
      have hpicks : ∀ l, noteListing (n.listings j) s (.finished i t (firstCert t) write) = some l →
          l.answer = l.signing.head?.map fun c => c.id := by
        intro l hl
        rcases hw.of_noteListing hl with hold | rfl
        · exact hb.picks j l hold
        · rfl
      have hhears : b.hears h (.finished j i t write) = asked j s i t ++
          reported j s (s.finished h.toSignHost i t (firstCert t) write) := by
        rw [hears, hj]
      refine ⟨hb.goesOn hj hh ⟨s₀, hmime, hformat, (hw.finished hallowed).1⟩ hpicks rfl rfl ?_ ?_
          ?_,
        hhears ▸ hh.admits⟩
      · rw [← hhears]
        rfl
      · rw [← hhears]
        rfl
      · rw [note, listingsAfter, hj]
  | turn j opens =>
      obtain ⟨halive, s, hj, hallowed⟩ := hal
      obtain ⟨s₀, hmime, hformat, hw⟩ := hb.atWork j s hj
      have hnone : s.signals = [] := hw.signals_eq_nil hallowed (by simp)
      obtain ⟨hw', hcard⟩ := hw.turn hallowed
      have hh := Hears.report (h := h) hb.faithful halive (hb.liveJob hj hnone) hnone hw' hcard rfl
      have hhears : b.hears h (.turn j opens) = reported j s (s.turn h.toSignHost opens) := by
        rw [hears, hj]
      refine ⟨hb.goesOn hj hh ⟨s₀, hmime, hformat, hw'⟩ (hb.picks j) rfl rfl ?_ ?_ ?_,
        hhears ▸ hh.admits⟩
      · rw [← hhears]
        rfl
      · rw [← hhears]
        rfl
      · rw [Function.update_eq_self]
        rfl
  -- A phase is passed on to the widget; the job itself keeps nothing of it.
  | phaseChanged j i phase =>
      obtain ⟨halive, s, hj, hpending⟩ := hal
      obtain ⟨s₀, hmime, hformat, hw⟩ := hb.atWork j s hj
      have hnone : s.signals = [] := hw.outstanding_iff.1 (.inl ⟨i, hpending⟩)
      have hh := Hears.phaseChanged (h := h) (r := n.listings j) hb.faithful halive
        (hb.liveJob hj hnone) hnone phase
      refine ⟨hb.goesOn (f := id) hj hh ⟨s₀, hmime, hformat, hw⟩ (hb.picks j) rfl ?_ rfl rfl ?_,
        hh.admits⟩
      · rw [List.modify_id]
        rfl
      · rw [Function.update_eq_self]
        rfl

/-- Something of a job is to come exactly as long as it has not reported. -/
lemma outstanding_iff (hb : Sound h b n) (hj : b.jobs[j]? = some s) :
    s.Outstanding ↔ s.signals = [] := by
  obtain ⟨s₀, -, -, hw⟩ := hb.atWork j s hj
  exact hw.outstanding_iff

lemma spinner (hb : Sound h b n) : b.widget.signingBusy = true ↔
    ∃ (j : ℕ) (s : SignJob), b.jobs[j]? = some s ∧ s.Outstanding ∧
      (b.widget.jobs j).reader = b.widget.readerName ∧ s.card = b.widget.card := by
  -- The widget is busy for the record under its reader's name, if that is of its card.
  have hbusy : b.widget.signingBusy = true ↔ ∃ x, n.ledger b.widget.readerName = some x ∧
      x.card = b.widget.card ∧ x.isRunning = true := by
    unfold signingBusy activeSignState
    rw [hb.faithful.tracks.entries]
    cases n.ledger b.widget.readerName with
    | none => simp
    | some x =>
        have hcard : x.entry.card = x.card := rfl
        by_cases hc : x.card = b.widget.card <;> simp [hcard, hc]
  rw [hbusy]
  constructor
  · rintro ⟨x, hx, hcard, hrun⟩
    obtain ⟨hlt, hself⟩ := hb.faithful.tracks.jobs _ x hx
    have hlt' : x.job < b.jobs.length := hb.count ▸ hlt
    have hj : b.jobs[x.job]? = some b.jobs[x.job] := List.getElem?_eq_getElem hlt'
    have ha := hb.records _ x _ hx hj
    have hnone : b.jobs[x.job].signals = [] :=
      ha.running.1 (by simpa [JobRecord.isRunning] using hrun)
    exact ⟨x.job, _, hj, (hb.outstanding_iff hj).2 hnone, by rw [hself], ha.card.symm.trans hcard⟩
  · rintro ⟨j, s, hj, hout, hreader, hcard⟩
    have hnone : s.signals = [] := (hb.outstanding_iff hj).1 hout
    obtain ⟨hlt, hrun⟩ := hb.liveJob hj hnone
    obtain ⟨x, hx, rfl, hfate⟩ := hb.faithful.tracks.record hlt hrun
    rw [hreader] at hx
    exact ⟨x, hx, (hb.records _ x s hx hj).card.trans hcard, by simp [JobRecord.isRunning, hfate]⟩

lemma honest (hb : Sound h b n) : Honest h (b, n) where
  protocol j s hj := by
    obtain ⟨s₀, hmime, hformat, hw⟩ := hb.atWork j s hj
    exact ⟨s₀, hw.start, hmime, hformat, hw.rests.protocol⟩
  running j s hj := by
    rw [hb.outstanding_iff hj, ← hb.ended j s hj]
    exact and_iff_right (hb.count ▸ lt_length hj)
  faithful := hb.faithful
  records reader x hx := by
    have hlt : x.job < b.jobs.length := hb.count ▸ (hb.faithful.tracks.jobs reader x hx).1
    have hj : b.jobs[x.job]? = some b.jobs[x.job] := List.getElem?_eq_getElem hlt
    exact ⟨_, hj, hb.records reader x _ hx hj⟩
  spinner := hb.spinner
  signs j s i certId options hj hsigns := by
    obtain ⟨s₀, -, -, hw⟩ := hb.atWork j s hj
    constructor
    · obtain ⟨r, hlisting, hne, hchosen⟩ := hw.rests.protocol.signsListed i certId options hsigns
      have hanswer := hb.picks j r hlisting
      rcases hsigning : r.signing with _ | ⟨picked, _ | ⟨next, rest⟩⟩
      · exact absurd hsigning hne
      · refine ⟨r, picked, [], hlisting, hsigning, ?_⟩
        simpa [Listing.chosen, hsigning, eq_comm] using hchosen
      · refine ⟨r, picked, next :: rest, hlisting, hsigning, ?_⟩
        simpa [Listing.chosen, hsigning, hanswer, eq_comm] using hchosen
    · intro c hc
      exact Option.some.inj ((hw.cards i hsigns.1).symm.trans (hw.card_eq hc))

end Sound

end Workbench

/-! ## Runs -/

namespace Workbench

variable {b : Workbench}

lemma Start.sound (hs : Workbench.Start h b) : Sound h b .blank where
  faithful := hs.1.settled.faithful
  count := by
    obtain ⟨client, photoStore, photoSlot, -, -, heq⟩ := hs.1
    rw [hs.2, heq]
    exact (refresh_refreshed (h := h)
      { client := client, photoStore := photoStore, photoSlot := photoSlot }).jobsStarted.symm
  atWork j s hj := by simp [hs.2] at hj
  picks j r hr := by cases hr
  ended j s hj := by simp [hs.2] at hj
  records reader x s hx _ := by cases hx
  fresh _ _ := rfl

lemma sound_kept (h : PlasmoidHost) : (notedWorkbench h).Kept fun x => Sound h x.1 x.2 :=
  fun _ _ hx hal => (hx.step hal).1

/-- What the widget heard is what it went through. -/
lemma exec_heard (b : Workbench) (es : List WorkbenchEvent) :
    ((workbench h).exec b es).widget = (machine h).exec b.widget (heard h b es) := by
  induction es generalizing b with
  | nil => rfl
  | cons e es ih =>
      rw [heard, Machine.exec_append]
      exact ih (b.step h e)

lemma admits_heard {n : Notes} {es : List WorkbenchEvent} (hb : Sound h b n)
    (ha : (workbench h).Admits b es) : (machine h).Admits b.widget (heard h b es) := by
  induction es generalizing b n with
  | nil => trivial
  | cons e es ih =>
      obtain ⟨hnext, hheard⟩ := hb.step ha.1
      exact Machine.admits_append.2 ⟨hheard, ih hnext ha.2⟩

end Workbench

/-- **What the widget says of its jobs is so.**  What a widget and its jobs go through together is
a run of the widget's own machine; and in every state the widget shows a job as running exactly
while something of it is to come, and of one that ended what it reported. -/
theorem signs_carried_through (h : PlasmoidHost) {b : Workbench} {es : List WorkbenchEvent}
    (hs : b.Start h) (ha : (workbench h).Admits b es) :
    ((machine h).Admits b.widget (b.heard h es) ∧
        ((workbench h).exec b es).widget = (machine h).exec b.widget (b.heard h es)) ∧
      (notedWorkbench h).Always (Workbench.Honest h) (b, .blank) es := by
  have hsound := Workbench.Start.sound hs
  refine ⟨⟨Workbench.admits_heard hsound ha, Workbench.exec_heard b es⟩, ?_⟩
  have hadmits : (notedWorkbench h).Admits (b, .blank) es := Machine.admits_watch.2 ha
  exact ((Workbench.sound_kept h).always hsound hadmits).mono fun _ hx => hx.honest

instance Workbench.decidableAllows (b : Workbench) : (e : WorkbenchEvent) → Decidable (b.allows e)
  | .widget e => inferInstanceAs (Decidable (Plasmoid.allows b.widget e ∧ e.fromJob = false ∧
      ∀ r ∈ e.moves b.widget, ∀ s ∈ b.jobs, Signing.allows s (.registry r)))
  | .finished j i t write => inferInstanceAs (Decidable (b.widget.destroyed = false ∧
      ∃ s ∈ b.jobs[j]?, Signing.allows s (.finished i t (firstCert t) write)))
  | .turn j opens => inferInstanceAs (Decidable (b.widget.destroyed = false ∧
      ∃ s ∈ b.jobs[j]?, Signing.allows s (.turn opens)))
  | .phaseChanged j i _ => inferInstanceAs (Decidable (b.widget.destroyed = false ∧
      ∃ s ∈ b.jobs[j]?, s.client.Pending i))

instance Workbench.decidableSends (b : Workbench) (e : WorkbenchEvent) :
    Decidable ((workbench h).allows b e) :=
  inferInstanceAs (Decidable (b.allows e))

/-- Two files, on a card with two certificates; the second is refused while the first is signed. -/
def signedBySecondJob : List WorkbenchEvent :=
  [.widget (.signFile (qs "/a.pdf")), .widget (.signFile (qs "/b.pdf")),
    .finished 0 0
      { certificatesResult :=
          [{ id := qs "x", subject := qs "Ana", signingCapable := true },
            { id := qs "y", signingCapable := true }] } {},
    .turn 0 true, .phaseChanged 0 1 .signing,
    .finished 0 1 { artifactValid := true, signMeta := [(qs "level", qs "B-T")] }
      { names := [qs "/a-signed.pdf"], result := .ok (qs "/a-signed.pdf") }]

theorem signs_carried_through_second :
    ((workbench .plain).exec { widget := widget } signedBySecondJob).widget.signResult =
        { outcome := .succeeded
          outputPath := qs "/a-signed.pdf"
          certLabel := qs "Ana"
          level := qs "B-T" } ∧
      ((machine .plain).Admits widget (Workbench.heard .plain { widget := widget }
          signedBySecondJob) ∧
        ((workbench .plain).exec { widget := widget } signedBySecondJob).widget =
          (machine .plain).exec widget (Workbench.heard .plain { widget := widget }
            signedBySecondJob)) ∧
      (notedWorkbench .plain).Always (Workbench.Honest .plain)
        ({ widget := widget }, .blank) signedBySecondJob :=
  ⟨by decide, @signs_carried_through .plain { widget := widget } signedBySecondJob
    ⟨start_widget, rfl⟩ (by decide)⟩

end LibreKDE.Plasmoid
