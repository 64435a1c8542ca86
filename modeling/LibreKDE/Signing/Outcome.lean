import LibreKDE.Signing.Protocol

/-!
# What a signing job leaves behind

A job that fails is meant to hold no result and to have written no file, and one that succeeds to
hold the file it wrote and what the agent says of the signature in it.  `Outcome` is that promise
in the state after every event, where `Written` is what an observer of the file system notes.

The metadata is kept before the artifact is looked at, and no failing exit takes it back:
`outcome_iff` says that a run keeps the promise throughout exactly if no signature with metadata
ends in an artifact that cannot be written.
-/

namespace LibreKDE.Signing

open Reactive

/-! ## The promise -/

/-- A file that was written. -/
structure Written where
  path : QString
  /-- The operation whose artifact is in it. -/
  op : ℕ
  deriving DecidableEq, Repr

/-- The terminal of operation `i` is delivered to `onSignFinished`, which waits for it. -/
def SignJob.AwaitsSign (s : SignJob) (i : ℕ) : Prop :=
  (s.client.ops i).connected = true ∧ (s.client.ops i).request ≠ .readCertificates ∧
    s.signOp ≠ none

instance (s : SignJob) (i : ℕ) : Decidable (s.AwaitsSign i) := by
  unfold SignJob.AwaitsSign
  infer_instance

/-- The record of the files written: `writeSignedFile` is called on a valid artifact only, and has
committed a file exactly if it returns the path of one. -/
def noteWrite (ws : List Written) (s : SignJob) : Event → List Written
  | .finished i t _ write =>
      if s.AwaitsSign i ∧ t.status = .ok ∧ t.artifactValid = true then
        match write.result with
        | .ok path => ws ++ [⟨path, i⟩]
        | .error _ => ws
      else ws
  | .start | .registry _ | .turn _ => ws

/-- The job and the record of the files it has written. -/
def writeMachine (h : SignHost) : Machine (SignJob × List Written) Event :=
  (machine h).watch [] noteWrite

/-- Nothing of a result is there: no path, no metadata and no file. -/
structure Blank (x : SignJob × List Written) : Prop where
  outputPath : x.1.outputPath = []
  signMeta : x.1.signMeta = []
  written : x.2 = []

/-- A job that has failed leaves nothing behind; one that has succeeded holds the file it wrote and
the metadata of the operation that it comes from. -/
structure Outcome (x : SignJob × List Written) : Prop where
  failed : ∀ message, .failed message ∈ x.1.signals → Blank x
  succeeded : ∀ path, .succeeded path ∈ x.1.signals →
    x.1.outputPath = path ∧ ∃ i t, x.2 = [⟨path, i⟩] ∧ (x.1.client.ops i).ended = some t ∧
      x.1.signMeta = t.signMeta

/-- A signature of which the agent has something to say is one that can be written. -/
def EndsClean (s : SignJob) : Event → Prop
  | .finished i t _ write => s.AwaitsSign i → t.status = .ok → t.signMeta ≠ [] →
      t.artifactValid = true ∧ ∃ path, write.result = .ok path
  | .start | .registry _ | .turn _ => True

/-- A job as its constructor leaves it. -/
structure Constructed (s : SignJob) : Prop extends Start s where
  outputPath : s.outputPath = []
  signMeta : s.signMeta = []

/-! ## Slots without a result -/

/-- Nothing of a result is added: at most a failure is reported. -/
structure Withholds (s s' : SignJob) : Prop where
  outputPath : s'.outputPath = s.outputPath
  signMeta : s'.signMeta = s.signMeta
  reports : ∀ path, .succeeded path ∈ s'.signals → .succeeded path ∈ s.signals

namespace Withholds

variable (h : SignHost) {s s' s'' : SignJob}

lemma refl (s : SignJob) : Withholds s s := ⟨rfl, rfl, fun _ hp => hp⟩

lemma trans (hs : Withholds s s') (hs' : Withholds s' s'') : Withholds s s'' where
  outputPath := hs'.outputPath.trans hs.outputPath
  signMeta := hs'.signMeta.trans hs.signMeta
  reports path hp := hs.reports path (hs'.reports path hp)

lemma fail (s : SignJob) (message : QString) : Withholds s (s.fail message) := by
  unfold SignJob.fail
  split_ifs
  · exact refl s
  · refine ⟨rfl, rfl, fun path hp => ?_⟩
    simpa using hp

lemma setRegistries (s : SignJob) (rs : List Registry) : Withholds s (s.setRegistries rs) := by
  induction rs generalizing s with
  | nil => exact refl s
  | cons r rs ih => exact (⟨rfl, rfl, fun _ hp => hp⟩ : Withholds s (s.setRegistry r)).trans (ih _)

lemma choose (s : SignJob) (run : ChooserRun) : Withholds s (s.choose h run) := by
  unfold SignJob.choose
  cases hchooser : s.chooser with
  | false => exact fail s _
  | true =>
      have hmoves : Withholds s (s.setRegistries run.during) := setRegistries s run.during
      simp only [if_true]
      cases run.answer with
      | none => exact hmoves.trans (fail _ _)
      | some certId => exact hmoves.trans ⟨rfl, rfl, fun _ hp => hp⟩

lemma settleOn (s : SignJob) (signing : List CertificateInfo) (run : ChooserRun) :
    Withholds s (s.settleOn h signing run) := by
  unfold SignJob.settleOn
  split
  · exact fail s _
  · exact ⟨rfl, rfl, fun _ hp => hp⟩
  · exact choose h s run

lemma onCertificatesFinished (s : SignJob) (t : Terminal) (run : ChooserRun) :
    Withholds s (s.onCertificatesFinished h t run) := by
  unfold SignJob.onCertificatesFinished
  split
  · exact refl s
  · next i _ =>
      have hreaped : Withholds s
          { s with certOp := none, client := s.client.deleteLater i } :=
        ⟨rfl, rfl, fun _ hp => hp⟩
      simp only
      split_ifs
      · exact hreaped.trans (fail _ _)
      · exact hreaped.trans (settleOn h _ _ run)

lemma turn (s : SignJob) (opens : Bool) : Withholds s (s.turn h opens) := by
  unfold SignJob.turn
  split
  · exact refl s
  · next certId rest _ =>
      have hhop : Withholds s { s with hops := rest } := ⟨rfl, rfl, fun _ hp => hp⟩
      apply hhop.trans
      unfold SignJob.beginSign
      split
      · exact fail _ _
      · split_ifs
        · exact ⟨rfl, rfl, fun _ hp => hp⟩
        · exact fail _ _

lemma startOn (s : SignJob) (c : CardRef) : Withholds s (s.startOn h c) := by
  have hchosen : Withholds s { s with choice := s.resolveChoice h } :=
    ⟨rfl, rfl, fun _ hp => hp⟩
  apply hchosen.trans
  unfold SignJob.startOn
  simp only
  split
  · exact fail _ _
  · exact ⟨rfl, rfl, fun _ hp => hp⟩

lemma start (s : SignJob) : Withholds s (s.start h) := by
  have hstarted : Withholds s { s with started := true } := ⟨rfl, rfl, fun _ hp => hp⟩
  apply hstarted.trans
  unfold SignJob.start
  simp only
  split
  · exact fail _ _
  · split_ifs
    · exact startOn h { s with started := true } _
    · exact fail _ _

end Withholds

/-! ## The slot of the signature -/

/-- How the slot of the signature ends: refused by the agent, lost after the agent's Ok, or
written. -/
inductive SignEnd (s : SignJob) (t : Terminal) (write : WriteRun) (s' : SignJob) : Prop
  /-- No signature was made. -/
  | refused : t.status ≠ .ok → Withholds s s' → SignEnd s t write s'
  /-- One was made, and not written. -/
  | lost (message : QString) : t.status = .ok →
      ¬ (t.artifactValid = true ∧ ∃ path, write.result = .ok path) →
      s'.outputPath = s.outputPath → s'.signMeta = t.signMeta →
      s'.signals = [.failed message] → SignEnd s t write s'
  | written (path : QString) : t.status = .ok → t.artifactValid = true →
      write.result = .ok path → s'.outputPath = path → s'.signMeta = t.signMeta →
      (s'.client.ops 1).ended = some t → s'.signals = [.succeeded path] → SignEnd s t write s'

section Slot

variable {h : SignHost} {s₀ s : SignJob} {p : Phase} {l : Option Listing} {t : Terminal}
  {write : WriteRun}

lemma SignEnd.of_fail {u : SignJob} (hemitted : u.emitted = false) (hnone : u.signals = [])
    (hok : t.status = .ok) (hlost : ¬ (t.artifactValid = true ∧ ∃ path, write.result = .ok path))
    (houtput : u.outputPath = s.outputPath) (hmeta : u.signMeta = t.signMeta)
    (message : QString) : SignEnd s t write (u.fail message) := by
  rw [SignJob.fail_eq hemitted hnone]
  exact .lost message hok hlost houtput hmeta rfl

lemma SignEnd.of_failWrite {u : SignJob} (hemitted : u.emitted = false) (hnone : u.signals = [])
    (hok : t.status = .ok) (hlost : ¬ (t.artifactValid = true ∧ ∃ path, write.result = .ok path))
    (houtput : u.outputPath = s.outputPath) (hmeta : u.signMeta = t.signMeta)
    (error : SignedFileError) (lastName : QString) :
    SignEnd s t write (u.failWrite h error lastName) := by
  cases error with
  | unreadableArtifact => exact .of_fail hemitted hnone hok hlost houtput hmeta _
  | noFreeName => exact .of_fail hemitted hnone hok hlost houtput hmeta _
  | emptyArtifact => exact .of_fail hemitted hnone hok hlost houtput hmeta _
  | writeFailed => exact .of_fail hemitted hnone hok hlost houtput hmeta _

lemma SignEnd.of_succeed {u : SignJob} {path : QString} (hemitted : u.emitted = false)
    (hnone : u.signals = []) (hok : t.status = .ok) (hvalid : t.artifactValid = true)
    (hresult : write.result = .ok path) (hmeta : u.signMeta = t.signMeta)
    (hended : (u.client.ops 1).ended = some t) : SignEnd s t write (u.succeed path) := by
  rw [SignJob.succeed_eq hemitted hnone]
  exact .written path hok hvalid hresult rfl hmeta hended rfl

namespace Job

lemma signals_eq_nil (hj : Job h s₀ p s l) (hp : p ≠ .reported) : s.signals = [] := by
  have hreports := hj.reports
  rw [if_neg hp] at hreports
  exact List.length_eq_zero_iff.mp hreports

/-- A job that has reported is sent nothing but the registry's moves. -/
lemma eq_registry (hj : Job h s₀ .reported s l) {e : Event} (hal : allows s e) :
    ∃ r, e = .registry r := by
  cases e with
  | start =>
      have hstarted := hj.started
      rw [show s.started = false from hal] at hstarted
      cases hstarted
  | registry r => exact ⟨r, rfl⟩
  | finished i t chooser write =>
      rcases hj.finished_phase hal with ⟨hp, -⟩ | ⟨hp, -⟩ <;> cases hp
  | turn opens => exact absurd hj.hops hal

/-- The signature's terminal comes to the job that waits for it. -/
lemma awaitsSign (hj : Job h s₀ .signing s l) : s.AwaitsSign 1 := by
  have htwo : s.client.minted = 2 := hj.mints
  obtain ⟨certId, hreq, -⟩ := hj.signs (by omega)
  refine ⟨(hj.listens 1 rfl).1, by simp [hreq], ?_⟩
  rw [hj.signOp]
  simp

lemma not_awaitsSign (hj : Job h s₀ .reading s l) : ¬ s.AwaitsSign 0 := by
  have hone : s.client.minted = 1 := hj.mints
  exact fun hsign => hsign.2.1 (hj.reads (by omega))

/-- The certificate read's slot has no result to show. -/
lemma readEnd (hj : Job h s₀ .reading s l) (t : Terminal) (run : ChooserRun)
    (write : WriteRun) : Withholds s (s.finished h 0 t run write) := by
  have hone : s.client.minted = 1 := hj.mints
  have hended : Withholds s { s with client := s.client.finish 0 t } := ⟨rfl, rfl, fun _ hp => hp⟩
  simp only [SignJob.finished, (hj.listens 0 rfl).1, hj.reads (by omega), if_true]
  exact hended.trans (.onCertificatesFinished h _ t run)

lemma signEnd (hj : Job h s₀ .signing s l) (t : Terminal) (run : ChooserRun)
    (write : WriteRun) : SignEnd s t write (s.finished h 1 t run write) := by
  obtain ⟨hconn, hreq, -⟩ := hj.awaitsSign
  have hsign : s.signOp = some 1 := hj.signOp
  have hemitted : s.emitted = false := hj.emitted
  have hnone : s.signals = [] := hj.signals_eq_nil (by decide)
  simp only [SignJob.finished, hconn, hreq, if_true, if_false, SignJob.onSignFinished, hsign]
  split_ifs with hok hvalid
  · have hreaped : Withholds s
        { s with signOp := none, client := (s.client.finish 1 t).deleteLater 1 } :=
      ⟨rfl, rfl, fun _ hp => hp⟩
    exact .refused hok (hreaped.trans (.fail _ _))
  -- Ok with a valid artifact: from here the metadata is set, whether the write succeeds or not.
  · unfold SignJob.writeOut
    cases hresult : write.result with
    | error error =>
        have hlost : ¬ (t.artifactValid = true ∧ ∃ path, write.result = .ok path) := by
          simp [hresult]
        apply SignEnd.of_failWrite
        exacts [hemitted, hnone, not_not.mp hok, hlost, rfl, rfl]
    | ok path =>
        have hended : (((s.client.finish 1 t).deleteLater 1).ops 1).ended = some t := by
          simp [Client.finish_ended]
        apply SignEnd.of_succeed
        exacts [hemitted, hnone, not_not.mp hok, hvalid, hresult, rfl, hended]
  · have hlost : ¬ (t.artifactValid = true ∧ ∃ path, write.result = .ok path) := by
      simp [hvalid]
    apply SignEnd.of_fail
    exacts [hemitted, hnone, not_not.mp hok, hlost, rfl, rfl]

end Job

end Slot

/-! ## Runs -/

/-- What carries the promise along a run: while nothing is reported, nothing is there. -/
structure Held (h : SignHost) (s₀ : SignJob) (x : SignJob × List Written) : Prop where
  rests : ∃ l, Job.Rests h s₀ x.1 l
  blank : x.1.signals = [] → Blank x
  outcome : Outcome x

section Runs

variable {h : SignHost} {s₀ s : SignJob} {x : SignJob × List Written} {e : Event}

lemma Withholds.outcome {s' : SignJob} {ws : List Written} (hw : Withholds s s')
    (hnone : s.signals = []) (hblank : Blank (s, ws)) : Blank (s', ws) ∧ Outcome (s', ws) := by
  have hafter : Blank (s', ws) :=
    ⟨hw.outputPath.trans hblank.outputPath, hw.signMeta.trans hblank.signMeta, hblank.written⟩
  refine ⟨hafter, fun _ _ => hafter, fun path hp => ?_⟩
  have hbefore := hw.reports path hp
  simp [hnone] at hbefore

lemma noteWrite_of_not {ws : List Written} {i : ℕ} {t : Terminal} {run : ChooserRun}
    {write : WriteRun} (hnot : ¬ (s.AwaitsSign i ∧ t.status = .ok ∧ t.artifactValid = true)) :
    noteWrite ws s (.finished i t run write) = ws :=
  if_neg hnot

/-- What the slot of the signature leaves, if it keeps clean. -/
lemma SignEnd.outcome {s' : SignJob} {ws : List Written} {t : Terminal} {run : ChooserRun}
    {write : WriteRun} (hend : SignEnd s t write s') (hsign : s.AwaitsSign 1)
    (hclean : EndsClean s (.finished 1 t run write)) (hnone : s.signals = [])
    (hblank : Blank (s, ws)) :
    Outcome (s', noteWrite ws s (.finished 1 t run write)) ∧
      (s'.signals = [] → Blank (s', noteWrite ws s (.finished 1 t run write))) := by
  cases hend with
  | refused hok hw =>
      rw [noteWrite_of_not fun hwrites => hok hwrites.2.1]
      exact ⟨(hw.outcome hnone hblank).2, fun _ => (hw.outcome hnone hblank).1⟩
  | lost message hok hlost houtput hmeta hsignals =>
      -- A failing exit after Ok keeps the metadata, so a clean end there means the map was empty.
      have hnothing : t.signMeta = [] := by
        by_contra hne
        exact hlost (hclean hsign hok hne)
      have hws : noteWrite ws s (.finished 1 t run write) = ws := by
        simp only [noteWrite]
        split_ifs with hwrites
        · cases hresult : write.result with
          | ok path => exact absurd ⟨hwrites.2.2, path, hresult⟩ hlost
          | error error => rfl
        · rfl
      rw [hws]
      have hafter : Blank (s', ws) :=
        ⟨houtput.trans hblank.outputPath, hmeta.trans hnothing, hblank.written⟩
      refine ⟨⟨fun _ _ => hafter, fun path hp => ?_⟩, fun _ => hafter⟩
      simp [hsignals] at hp
  | written path hok hvalid hresult houtput hmeta hended hsignals =>
      have hempty : ws = [] := hblank.written
      have hws : noteWrite ws s (.finished 1 t run write) = [⟨path, 1⟩] := by
        simp only [noteWrite]
        rw [if_pos ⟨hsign, hok, hvalid⟩, hresult, hempty]
        rfl
      rw [hws]
      refine ⟨⟨fun message hm => ?_, fun path' hp => ?_⟩, fun hn => ?_⟩
      · simp [hsignals] at hm
      · obtain rfl : path' = path := by simpa [hsignals] using hp
        exact ⟨houtput, 1, t, rfl, hended, hmeta⟩
      · simp [hsignals] at hn

/-- A step that ends no signature unwritten keeps the promise. -/
lemma Held.keep (hx : Held h s₀ x) (hal : allows x.1 e) (hclean : EndsClean x.1 e) :
    Held h s₀ (step h x.1 e, noteWrite x.2 x.1 e) := by
  obtain ⟨s, ws⟩ := x
  obtain ⟨⟨l, p, hp, hj⟩, hblank, houtcome⟩ := hx
  have hrests : ∃ l, Job.Rests h s₀ (Signing.step h s e) l :=
    ⟨_, Job.Rests.step ⟨p, hp, hj⟩ hal⟩
  have hquiet (hw : Withholds s (Signing.step h s e)) (hnone : s.signals = [])
      (hws : noteWrite ws s e = ws) : Held h s₀ (Signing.step h s e, noteWrite ws s e) := by
    obtain ⟨hafter, hpromise⟩ := hw.outcome hnone (hblank hnone)
    rw [hws]
    exact ⟨hrests, fun _ => hafter, hpromise⟩
  -- A job that has reported hears only the registry.
  have hnone (hmoves : ∀ r, e ≠ .registry r) : s.signals = [] := by
    apply hj.signals_eq_nil
    rintro rfl
    obtain ⟨r, hr⟩ := hj.eq_registry hal
    exact hmoves r hr
  cases e with
  | start => exact hquiet (.start h s) (hnone (by simp)) rfl
  | registry r =>
      exact ⟨hrests, fun hn => ⟨(hblank hn).1, (hblank hn).2, (hblank hn).3⟩,
        fun m hm => ⟨(houtcome.1 m hm).1, (houtcome.1 m hm).2, (houtcome.1 m hm).3⟩,
        houtcome.2⟩
  | finished i t run write =>
      have hsilent := hnone (by simp)
      rcases hj.finished_phase hal with ⟨rfl, rfl⟩ | ⟨rfl, rfl⟩
      · exact hquiet (hj.readEnd t run write) hsilent
          (noteWrite_of_not fun hwrites => hj.not_awaitsSign hwrites.1)
      · obtain ⟨hpromise, hafter⟩ :=
          (hj.signEnd t run write).outcome hj.awaitsSign hclean hsilent (hblank hsilent)
        exact ⟨hrests, hafter, hpromise⟩
  | turn opens => exact hquiet (.turn h s opens) (hnone (by simp)) rfl

/-- A signature with metadata that is not written breaks the promise. -/
lemma Held.lose (hx : Held h s₀ x) (hal : allows x.1 e) (hdirty : ¬ EndsClean x.1 e) :
    ¬ Outcome (step h x.1 e, noteWrite x.2 x.1 e) := by
  obtain ⟨s, ws⟩ := x
  obtain ⟨⟨l, p, -, hj⟩, -, -⟩ := hx
  cases e with
  | start | registry | turn => exact absurd trivial hdirty
  | finished i t run write =>
      simp only [EndsClean, not_forall] at hdirty
      obtain ⟨hsign, hok, hmeta, hlost⟩ := hdirty
      rcases hj.finished_phase hal with ⟨rfl, rfl⟩ | ⟨rfl, rfl⟩
      · exact absurd hsign hj.not_awaitsSign
      · intro hpromise
        cases hj.signEnd t run write with
        | refused hrefused _ => exact hrefused hok
        | lost message _ _ _ hkept hsignals =>
            have hfailed : .failed message ∈ (s.finished h 1 t run write).signals := by
              simp [hsignals]
            exact hmeta (hkept.symm.trans (hpromise.failed message hfailed).signMeta)
        | written path _ hvalid hresult => exact hlost ⟨hvalid, path, hresult⟩

lemma Constructed.held (h : SignHost) (hs : Constructed s) : Held h s (s, []) where
  rests := ⟨none, hs.toStart.rests h⟩
  blank _ := ⟨hs.outputPath, hs.signMeta, rfl⟩
  outcome := by
    refine ⟨fun message hm => ?_, fun path hp => ?_⟩
    · simp [hs.signals] at hm
    · simp [hs.signals] at hp

end Runs

/-- **What is left behind.**  A job keeps its promise throughout a run exactly if no signature that
came with metadata is lost in it. -/
theorem outcome_iff (h : SignHost) {s : SignJob} {es : List Event} (hs : Constructed s)
    (ha : (machine h).Admits s es) :
    (writeMachine h).Always Outcome (s, []) es ↔ (machine h).EachStep EndsClean s es := by
  have hadmits : (writeMachine h).Admits (s, []) es := Machine.admits_watch.mpr ha
  have hexact : (writeMachine h).Always Outcome (s, []) es ↔
      (writeMachine h).EachStep (fun x e => EndsClean x.1 e) (s, []) es :=
    Machine.always_iff_eachStep (fun _ _ hx hal hclean => Held.keep hx hal hclean)
      (fun _ hx => hx.outcome) (fun _ _ hx hal hdirty => hx.lose hal hdirty) (hs.held h) hadmits
  exact hexact.trans Machine.eachStep_watch

lemma constructed_forFile : Constructed SignJob.forFile where
  toStart := start_forFile
  outputPath := rfl
  signMeta := rfl

theorem outcome_iff_signed :
    (writeMachine .plain).Always Outcome (SignJob.forFile, []) signed ↔
      (machine .plain).EachStep EndsClean SignJob.forFile signed :=
  outcome_iff .plain constructed_forFile (by decide)

/-- A signature comes back, and every name for it is taken. -/
def unwritten : List Event :=
  [.start,
    .finished 0 { certificatesResult := [{ id := qs "a", signingCapable := true }] } {} {},
    .turn true,
    .finished 1 { artifactValid := true, signMeta := [(qs "format", qs "pades")] } {}
      { names := [qs "/home/user/contract-signed.pdf"], result := .error .noFreeName }]

/-- The job has failed, and still tells of a signature. -/
theorem unwritten_signMeta :
    (machine .plain).Admits SignJob.forFile unwritten ∧
      (∃ message, ((machine .plain).exec SignJob.forFile unwritten).signals =
        [.failed message]) ∧
      ((machine .plain).exec SignJob.forFile unwritten).signMeta = [(qs "format", qs "pades")] ∧
      ¬ (writeMachine .plain).Always Outcome (SignJob.forFile, []) unwritten := by
  have hfailed : ((machine .plain).exec SignJob.forFile unwritten).signals =
      [.failed (qs "There is no free name left for the signed copy of contract.pdf.")] := by
    decide
  have hmeta : ((machine .plain).exec SignJob.forFile unwritten).signMeta =
      [(qs "format", qs "pades")] := by
    decide
  refine ⟨by decide, ⟨_, hfailed⟩, hmeta, fun hkept => ?_⟩
  have hmem : .failed (qs "There is no free name left for the signed copy of contract.pdf.") ∈
      ((machine .plain).exec SignJob.forFile unwritten).signals := by
    rw [hfailed]
    exact List.mem_singleton_self _
  have hblank := hkept.last.failed _ hmem
  exact absurd (hmeta.symm.trans hblank.signMeta) (List.cons_ne_nil _ _)

end LibreKDE.Signing
