import LibreKDE.Signing.Outcome

/-!
# What the slots of a job leave as it was

Whoever starts a job holds on to four things about it between two events: the card it is for,
that the chooser it injected is still the one asked, that the job was started, and whether the
certificate read is still awaited.  `bearing` is all four; every slot keeps it, but for the
certificate read's own.  With them come the facts such an owner needs of a job's reports: they
come while something of the job is outstanding, one at most, and never while the chooser is being
asked.
-/

namespace LibreKDE.Signing

namespace SignJob

variable (h : SignHost) (s : SignJob)

/-- The card, whether a chooser was injected, whether the job was started, and the certificate
read it waits for. -/
def bearing : Option CardRef × Bool × Bool × Option ℕ := (s.card, s.chooser, s.started, s.certOp)

@[simp] lemma fail_bearing (message : QString) : (s.fail message).bearing = s.bearing := by
  unfold fail
  split_ifs <;> rfl

@[simp] lemma failWith_bearing (context msgid : QString) (args : List QString) :
    (s.failWith h context msgid args).bearing = s.bearing :=
  s.fail_bearing _

@[simp] lemma failOutcome_bearing (t : Terminal) : (s.failOutcome h t).bearing = s.bearing :=
  s.fail_bearing _

lemma setRegistries_bearing (rs : List Registry) :
    (s.setRegistries rs).bearing.2 = s.bearing.2 := by
  induction rs generalizing s with
  | nil => rfl
  | cons r rs ih => exact ih (s.setRegistry r)

/-- The certificates' slot, when the chooser asked is `run`: a loop it spins may cost the job its
card. -/
def Settles (run : ChooserRun) (s' : SignJob) : Prop :=
  s'.bearing.2 = s.bearing.2 ∧ (run.during = [] → s'.card = s.card)

variable {s} in
lemma Settles.of_eq {run : ChooserRun} {s' : SignJob} (heq : s'.bearing = s.bearing) :
    s.Settles run s' :=
  ⟨congrArg Prod.snd heq, fun _ => congrArg Prod.fst heq⟩

lemma choose_settles (run : ChooserRun) : s.Settles run (s.choose h run) := by
  have hmoved : s.Settles run (s.setRegistries run.during) := by
    refine ⟨s.setRegistries_bearing _, fun hduring => ?_⟩
    rw [hduring]
    rfl
  have hkept : s.Settles run (if s.chooser then s.setRegistries run.during else s) := by
    split_ifs
    · exact hmoved
    · exact .of_eq rfl
  unfold choose
  dsimp only
  split
  · have hsame := failWith_bearing h (if s.chooser then s.setRegistries run.during else s)
      (qs "@info:status user cancelled the certificate chooser") (qs "Signing was cancelled.") []
    exact ⟨(congrArg Prod.snd hsame).trans hkept.1,
      fun hduring => (congrArg Prod.fst hsame).trans (hkept.2 hduring)⟩
  · exact hkept

lemma settleOn_settles (signing : List CertificateInfo) (run : ChooserRun) :
    s.Settles run (s.settleOn h signing run) := by
  unfold settleOn
  split
  · exact .of_eq (s.failWith_bearing ..)
  · exact .of_eq rfl
  · exact s.choose_settles h run

lemma writeOut_bearing (run : WriteRun) : (s.writeOut h run).bearing = s.bearing := by
  unfold writeOut
  cases run.result with
  | error error =>
      show (SignJob.failWrite ..).bearing = _
      cases error <;> exact fail_bearing ..
  | ok path =>
      unfold succeed
      dsimp only
      split_ifs <;> rfl

/-- After the certificates' slot no certificate read is awaited. -/
lemma onCertificatesFinished_settles (t : Terminal) (run : ChooserRun) :
    Settles { s with certOp := none } run (s.onCertificatesFinished h t run) := by
  unfold onCertificatesFinished
  split
  · next hnone =>
      have hsame : { s with certOp := none } = s := by rw [← hnone]
      rw [hsame]
      exact .of_eq rfl
  · next i _ =>
      dsimp only
      split_ifs
      · exact .of_eq (failOutcome_bearing ..)
      · exact settleOn_settles h
          { s with certOp := none, client := s.client.deleteLater i } _ run

lemma onSignFinished_bearing (t : Terminal) (write : WriteRun) :
    (s.onSignFinished h t write).bearing = s.bearing := by
  unfold onSignFinished
  split
  · rfl
  · dsimp only
    split_ifs
    · exact failOutcome_bearing ..
    · exact writeOut_bearing ..
    · exact fail_bearing ..

lemma turn_bearing (opens : Bool) : (s.turn h opens).bearing = s.bearing := by
  unfold turn beginSign
  split
  · rfl
  · split
    · exact failWith_bearing ..
    · split_ifs
      · rfl
      · exact failWith_bearing ..

/-- `start` does what it says, and leaves the card and the chooser alone. -/
lemma start_bearing : (s.start h).bearing = (s.card, s.chooser, true, (s.start h).certOp) := by
  have hof : ∀ {u : SignJob}, u.bearing = { s with started := true }.bearing →
      u.bearing = (s.card, s.chooser, true, u.certOp) := by
    intro u hu
    simp only [bearing, Prod.mk.injEq] at hu ⊢
    exact ⟨hu.1, hu.2.1, hu.2.2.1, trivial⟩
  unfold start startOn
  dsimp only
  split
  · exact hof (failWith_bearing ..)
  · split_ifs
    · split
      · exact hof (fail_bearing ..)
      · rfl
    · exact hof (failWith_bearing ..)

/-- The cards the operations run on. -/
lemma steady_cards : Steady fun k => fun i => (k.ops i).card :=
  ⟨by simp, by simp, by simp⟩

end SignJob

namespace Job

variable {h : SignHost} {s₀ s : SignJob} {p : Phase} {l : Option Listing}

/-- Of a started job something is to come exactly as long as it has not reported. -/
lemma Rests.outstanding_iff (hr : Rests h s₀ s l) (hstarted : s.started = true) :
    s.Outstanding ↔ s.signals = [] := by
  constructor
  · intro hout
    obtain ⟨p, -, hj⟩ := hr
    refine hj.signals_eq_nil ?_
    rintro rfl
    rcases hout with ⟨i, hi⟩ | hhops
    · cases (hj.runs i hi.minted).1 hi.running
    · exact hhops hj.hops
  · intro hnone
    by_contra hout
    have hone := hr.protocol.answered hstarted hout
    simp [hnone] at hone

/-- What reaches a job, but for the registry, reaches one that has not reported. -/
lemma Rests.signals_eq_nil (hr : Rests h s₀ s l) {e : Event} (hal : allows s e)
    (he : ∀ r, e ≠ .registry r) : s.signals = [] := by
  obtain ⟨p, -, hj⟩ := hr
  apply hj.signals_eq_nil
  rintro rfl
  obtain ⟨r, hr⟩ := hj.eq_registry hal
  exact he r hr

/-- A job reports nothing, success or failure. -/
lemma Rests.signals_cases (hr : Rests h s₀ s l) :
    s.signals = [] ∨ (∃ path, s.signals = [.succeeded path]) ∨
      ∃ message, s.signals = [.failed message] := by
  have hle : s.signals.length ≤ 1 := hr.protocol.atMostOnce
  rcases hsignals : s.signals with _ | ⟨signal, rest⟩
  · exact .inl rfl
  · rw [hsignals] at hle
    obtain rfl : rest = [] := by simpa using hle
    cases signal with
    | succeeded path => exact .inr (.inl ⟨path, rfl⟩)
    | failed message => exact .inr (.inr ⟨message, rfl⟩)

/-- A job that has just been started can only have failed. -/
lemma Rests.signals_start (hr : Rests h s₀ s₀ none) (hstarted : s₀.started = false)
    (hzero : s₀.client.minted = 0) (path : QString) :
    .succeeded path ∉ (s₀.start h).signals := by
  intro hpath
  obtain ⟨p, -, hj⟩ := hr.step (e := .start) hstarted
  have hminted : 1 < (s₀.start h).client.minted := hj.succeeds path hpath
  have hle := s₀.start_minted_le h
  omega

/-- A job that asks its chooser, and is answered, reports nothing meanwhile. -/
lemma asksQuietly (hj : Job h s₀ .reading s l) (hchooser : s.chooser = true) {t : Terminal}
    (hok : t.status = .ok)
    (hmany : 1 < (t.certificatesResult.filter fun c => c.signingCapable).length)
    {run : ChooserRun} (hduring : run.during = []) (hanswer : run.answer ≠ none)
    (write : WriteRun) : (s.finished h 0 t run write).signals = s.signals := by
  have hconn : (s.client.ops 0).connected = true := (hj.listens 0 rfl).1
  have hone : s.client.minted = 1 := hj.mints
  have hreq : (s.client.ops 0).request = .readCertificates := hj.reads (by omega)
  have hcert : s.certOp = some 0 := hj.certOp
  obtain ⟨certId, hcertId⟩ := Option.ne_none_iff_exists'.1 hanswer
  simp only [SignJob.finished, hconn, hreq, if_true, SignJob.onCertificatesFinished, hcert, hok,
    ne_eq, not_true_eq_false, if_false]
  generalize (t.certificatesResult.filter fun c => c.signingCapable) = signing at hmany
  rcases signing with _ | ⟨picked, _ | ⟨next, rest⟩⟩
  · simp at hmany
  · simp at hmany
  · simp [SignJob.settleOn, SignJob.choose, hchooser, hcertId, hduring, SignJob.setRegistries,
      SignJob.defer]

end Job

/-! ## A job at work -/

/-- The certificates of a read a signature can be made with. -/
def signingOf (t : Terminal) : List CertificateInfo :=
  t.certificatesResult.filter fun c => c.signingCapable

/-- A job that was constructed as `s₀` with a chooser, and started; `r` is the listing of its
read. -/
structure AtWork (h : SignHost) (s₀ s : SignJob) (r : Option Listing) : Prop where
  start : Start s₀
  rests : Job.Rests h s₀ s r
  /-- Nothing is asked of any card but the one the job was constructed for. -/
  cards : ∀ i < s.client.minted, s₀.card = some (s.client.ops i).card
  started : s.started = true
  chooser : s.chooser = true
  /-- While the certificates are awaited there is no listing. -/
  unread : s.certOp ≠ none → r = none

namespace AtWork

variable {h : SignHost} {s₀ s : SignJob} {r : Option Listing}

lemma outstanding_iff (hw : AtWork h s₀ s r) : s.Outstanding ↔ s.signals = [] :=
  hw.rests.outstanding_iff hw.started

lemma signals_eq_nil (hw : AtWork h s₀ s r) {e : Event} (hal : allows s e)
    (he : ∀ r, e ≠ .registry r) : s.signals = [] :=
  hw.rests.signals_eq_nil hal he

/-- What the job has left of its card is the card it was constructed for. -/
lemma card_eq (hw : AtWork h s₀ s r) {c : CardRef} (hc : s.card = some c) : s₀.card = some c := by
  obtain ⟨p, -, hj⟩ := hw.rests
  exact (hj.card c hc).1

/-- What is minted on the job's card. -/
lemma cards_mint {u : SignJob} {c : CardRef} {q : Request}
    (hcards : ∀ i < s.client.minted, s₀.card = some (s.client.ops i).card)
    (hc : s₀.card = some c) (hk : u.client = s.client.mint c q) :
    ∀ i < u.client.minted, s₀.card = some (u.client.ops i).card := by
  intro i hi
  rw [hk, Client.mint_minted] at hi
  rw [hk]
  by_cases hlt : i < s.client.minted
  · rw [Client.mint_ops_of_lt hlt]
    exact hcards i hlt
  · obtain rfl : i = s.client.minted := by omega
    rw [Client.mint_ops_self]
    exact hc

/-- A job that has been constructed is started. -/
lemma of_start (hs : Start s₀) (hchooser : s₀.chooser = true) :
    AtWork h s₀ (s₀.start h) none := by
  have hbearing := s₀.start_bearing h
  simp only [SignJob.bearing, Prod.mk.injEq] at hbearing
  obtain ⟨-, hkept, hstarted, -⟩ := hbearing
  have hnothing : ∀ i < s₀.client.minted, s₀.card = some (s₀.client.ops i).card := by
    simp [hs.minted]
  refine ⟨hs, (hs.rests h).step (e := .start) hs.started, ?_, hstarted, hkept.trans hchooser,
    fun _ => rfl⟩
  rcases s₀.start_cases h with heq | ⟨c, hc, heq⟩
  · rw [heq]
    exact hnothing
  · exact cards_mint hnothing hc heq

/-- What the job's own step says of its rest and of the cards it asks. -/
lemma step (hw : AtWork h s₀ s r) {e : Event} (hal : allows s e)
    (hstarted : (Signing.step h s e).started = s.started)
    (hchooser : (Signing.step h s e).chooser = s.chooser)
    (hcards : ∀ i < (Signing.step h s e).client.minted,
      s₀.card = some ((Signing.step h s e).client.ops i).card)
    (hunread : (Signing.step h s e).certOp ≠ none → noteListing r s e = none) :
    AtWork h s₀ (Signing.step h s e) (noteListing r s e) where
  start := hw.start
  rests := hw.rests.step hal
  cards := hcards
  started := hstarted.trans hw.started
  chooser := hchooser.trans hw.chooser
  unread := hunread

/-- The registry moves. -/
lemma registry (hw : AtWork h s₀ s r) {reg : Registry} (hal : allows s (.registry reg)) :
    AtWork h s₀ (s.setRegistry reg) r :=
  hw.step hal rfl rfl hw.cards hw.unread

/-- The queued hop runs. -/
lemma turn (hw : AtWork h s₀ s r) {opens : Bool} (hal : allows s (.turn opens)) :
    AtWork h s₀ (s.turn h opens) r ∧ (s.turn h opens).card = s.card := by
  have hbearing := s.turn_bearing h opens
  simp only [SignJob.bearing, Prod.mk.injEq] at hbearing
  obtain ⟨hcard, hchooser, hstarted, hcert⟩ := hbearing
  have hcards : ∀ i < (s.turn h opens).client.minted,
      s₀.card = some ((s.turn h opens).client.ops i).card := by
    rcases s.turn_cases h opens with heq | ⟨c, certId, hc, heq⟩
    · rw [heq]
      exact hw.cards
    · exact cards_mint hw.cards (hw.card_eq hc) heq
  exact ⟨hw.step hal hstarted hchooser hcards fun hne => hw.unread (hcert ▸ hne), hcard⟩

/-- The terminal a job is sent is its certificate read's or its signature's. -/
lemma finished_cases (hw : AtWork h s₀ s r) {i : ℕ} {t : Terminal} {run : ChooserRun}
    {write : WriteRun} (hal : allows s (.finished i t run write)) :
    (i = 0 ∧ Job h s₀ .reading s r) ∨
      s.certOp = none ∧ (s.client.ops i).connected = true ∧
        (s.client.ops i).request ≠ .readCertificates := by
  obtain ⟨p, -, hj⟩ := hw.rests
  rcases hj.finished_phase hal with ⟨rfl, rfl⟩ | ⟨rfl, rfl⟩
  · exact .inl ⟨rfl, hj⟩
  · have htwo : s.client.minted = 2 := hj.mints
    obtain ⟨certId, hreq, -⟩ := hj.signs (by omega)
    exact .inr ⟨hj.certOp, (hj.listens 1 rfl).1, by simp [hreq]⟩

/-- An operation's terminal comes; a chooser that spins no loop leaves the job its card. -/
lemma finished (hw : AtWork h s₀ s r) {i : ℕ} {t : Terminal} {run : ChooserRun} {write : WriteRun}
    (hal : allows s (.finished i t run write)) :
    AtWork h s₀ (s.finished h i t run write) (noteListing r s (.finished i t run write)) ∧
      (run.during = [] → (s.finished h i t run write).card = s.card) := by
  have hcards : ∀ j < (s.finished h i t run write).client.minted,
      s₀.card = some ((s.finished h i t run write).client.ops j).card := by
    intro j hj
    have hminted := congrArg Prod.fst (s.finished_asked h i t run write)
    have hsame := congrFun (SignJob.steady_cards.finished h s i t run write) j
    rw [SignJob.asked, SignJob.asked] at hminted
    dsimp only at hminted hsame
    rw [hsame]
    exact hw.cards j (hminted ▸ hj)
  rcases hw.finished_cases hal with ⟨rfl, hj⟩ | ⟨hcert, hconn, hreq⟩
  · have hone : s.client.minted = 1 := hj.mints
    have hconn : (s.client.ops 0).connected = true := (hj.listens 0 rfl).1
    have hreq : (s.client.ops 0).request = .readCertificates := hj.reads (by omega)
    have hsettles : SignJob.Settles { s with certOp := none } run (s.finished h 0 t run write) := by
      rw [SignJob.finished, if_pos hconn, if_pos hreq]
      exact SignJob.onCertificatesFinished_settles h { s with client := s.client.finish 0 t } t run
    obtain ⟨hbearing, hcard⟩ := hsettles
    simp only [SignJob.bearing, Prod.mk.injEq] at hbearing
    obtain ⟨hchooser, hstarted, hcert⟩ := hbearing
    exact ⟨hw.step hal hstarted hchooser hcards fun hne => absurd hcert hne, hcard⟩
  · have hbearing : (s.finished h i t run write).bearing = s.bearing := by
      rw [SignJob.finished, if_pos hconn, if_neg hreq]
      exact SignJob.onSignFinished_bearing ..
    simp only [SignJob.bearing, Prod.mk.injEq] at hbearing
    obtain ⟨hcard, hchooser, hstarted, hsame⟩ := hbearing
    exact ⟨hw.step hal hstarted hchooser hcards fun hne => absurd (hsame.trans hcert) hne,
      fun _ => hcard⟩

/-- What is newly noted of a read is what it listed, and the chooser's answer to it. -/
lemma of_noteListing (hw : AtWork h s₀ s r) {i : ℕ} {t : Terminal} {run : ChooserRun}
    {write : WriteRun} {l : Listing} (hl : noteListing r s (.finished i t run write) = some l) :
    r = some l ∨ l = ⟨signingOf t, run.answer⟩ := by
  simp only [noteListing, hw.chooser, if_true] at hl
  split_ifs at hl
  · exact .inr (Option.some.inj hl).symm
  · exact .inl hl

end AtWork

end LibreKDE.Signing
