import LibreKDE.AgentClient.Text
import LibreKDE.Framework.Machine

/-!
# Signing one document

A `SignJob` reads the card's certificates, settles on one (asking an injected chooser when
there are several), lets a turn of the event loop pass, asks the card for a signature and
writes what comes back next to the input.  It reports once, by `succeeded` or `failed`.

`SignJob` is the object with the client it mints on; the functions below are its methods.
Two things are given in by the outside world while a slot runs, and so are part of the event
that runs it: what the chooser does (`ChooserRun`; it may spin a loop of its own, in which
the registry moves) and what writing the file comes to (`WriteRun`).
-/

namespace LibreKDE.Signing

/-! ## Formats -/

/-- A format and its packaging, in the agent's words. -/
structure SignChoice where
  format : QString
  packaging : QString
  deriving DecidableEq, Repr

/-- The signature is put into the document itself. -/
def SignChoice.enveloped (c : SignChoice) : Bool := c.packaging = qs "enveloped"

namespace MimeFormatMap

/-- The choice a MIME type makes; whatever has no format of its own is signed detached, as CAdES. -/
def resolve (mimeType : QString) : SignChoice :=
  if mimeType = qs "application/pdf" then ⟨qs "pades", qs "enveloped"⟩
  else if mimeType = qs "application/xml" ∨ mimeType = qs "text/xml" then
    ⟨qs "xades", qs "detached"⟩
  else if mimeType = qs "application/json" then ⟨qs "jades", qs "detached"⟩
  else if mimeType = qs "application/vnd.etsi.asic-e+zip" then ⟨qs "asice", qs "detached"⟩
  else ⟨qs "cades", qs "detached"⟩

/-- The choice an explicit format makes: `pades` is the only enveloped one. -/
def resolveFormat (format : QString) : SignChoice :=
  if format = qs "pades" then ⟨qs "pades", qs "enveloped"⟩ else ⟨format, qs "detached"⟩

end MimeFormatMap

/-- The typed options of a choice, when its format is in the closed vocabulary. -/
def toSignOptions (choice : SignChoice) : Option SignOptions :=
  let packaging : Packaging := if choice.enveloped then .enveloped else .detached
  if choice.format = qs "pades" then some ⟨.pades, packaging⟩
  else if choice.format = qs "cades" then some ⟨.cades, packaging⟩
  else if choice.format = qs "xades" then some ⟨.xades, packaging⟩
  else if choice.format = qs "jades" then some ⟨.jades, packaging⟩
  else if choice.format = qs "asice" then some ⟨.asice, packaging⟩
  else none

/-! ## The object -/

/-- What the job draws on from outside this repository. -/
structure SignHost extends Host where
  /-- `QMimeDatabase::mimeTypeForFile`. -/
  mimeTypeForFile : QString → QString

/-- A host without a catalogue that takes every file for a PDF. -/
def SignHost.plain : SignHost where
  toHost := .plain
  mimeTypeForFile _ := qs "application/pdf"

/-- What the job reports, once: the file it wrote, or a sentence. -/
inductive Signal
  | succeeded (outputPath : QString)
  | failed (message : QString)
  deriving DecidableEq, Repr

/-- A call of `signedOutputPath`, with the arguments it was made with. -/
structure NameRequest where
  inputPath : QString
  format : SignatureFormat
  packaging : Packaging
  deriving DecidableEq, Repr

/-- What the chooser does when it is asked. -/
structure ChooserRun where
  answer : Option QString := none
  /-- How the registry moves under a loop the chooser spins. -/
  during : List Registry := []

/-- What `writeSignedFile` does: the names it is given, in order, and its result. -/
structure WriteRun where
  names : List QString := []
  result : Except SignedFileError QString := .error .writeFailed

/-- A job: what it was given, the operations it may have in flight, and its results.  The last four
fields are the observer's: what was called, queued, emitted and asked for so far. -/
structure SignJob where
  client : Client
  card : Option CardRef
  inputPath : QString
  /-- "" for a type to be sniffed. -/
  mimeType : QString := []
  /-- "" for the format the type implies. -/
  formatOverride : QString := []
  /-- A chooser was injected. -/
  chooser : Bool := true
  choice : SignChoice := ⟨[], []⟩
  signOptions : SignOptions := {}
  outputPath : QString := []
  signMeta : List (QString × QString) := []
  certOp : Option ℕ := none
  signOp : Option ℕ := none
  emitted : Bool := false
  /-- `start` has been called. -/
  started : Bool := false
  /-- The `beginSign` calls queued on the event loop. -/
  hops : List QString := []
  /-- The signals emitted so far. -/
  signals : List Signal := []
  /-- The output names asked for so far. -/
  namesAsked : List NameRequest := []

/-- `QFileInfo(path).fileName()`. -/
def fileName (path : QString) : QString := (path.splitOn (qc '/')).getLastD []

namespace SignJob

variable (h : SignHost) (s : SignJob)

/-- Report a failure, if nothing has been reported yet. -/
def fail (message : QString) : SignJob :=
  if s.emitted then s
  else { s with emitted := true, signals := s.signals ++ [.failed message] }

/-- Fail with one of the job's own sentences. -/
def failWith (context msgid : QString) (args : List QString) : SignJob :=
  s.fail (i18nc h.locale context msgid args)

/-- Fail with the shared rule's copy of a finished operation. -/
def failOutcome (t : Terminal) : SignJob :=
  s.fail (ErrorText.forOutcome h.toHost t.errorCode t.callError t.messageKey t.messageFallback)

/-- The MIME type: the one given, or the file's own. -/
def mime : QString := if s.mimeType = [] then h.mimeTypeForFile s.inputPath else s.mimeType

/-- Format and packaging: an override brings its own packaging. -/
def resolveChoice : SignChoice :=
  if s.formatOverride = [] then MimeFormatMap.resolve (s.mime h)
  else MimeFormatMap.resolveFormat s.formatOverride

/-- The rest of `start`, on a card that announces PKI. -/
def startOn (c : CardRef) : SignJob :=
  let s := { s with choice := s.resolveChoice h }
  match toSignOptions s.choice with
  | none => s.fail (ErrorText.forCode h.toHost .capabilityMissing [])
  | some options =>
      { s with
        signOptions := options
        certOp := some s.client.minted
        client := s.client.mint c .readCertificates }

/-- Check the card and begin with its certificates.  The checks fail before any operation is
minted. -/
def start : SignJob :=
  let s := { s with started := true }
  match s.card with
  | none =>
      s.failWith h (qs "@info:status sign failed")
        (qs "No smart card is available for signing.") []
  | some c =>
      if ¬ (s.client.registry.cards c).any (fun card => card.capabilities.pki) then
        s.failWith h (qs "@info:status card has no PKI capability")
          (qs "This card does not support signing.") []
      else s.startOn h c

/-- The registry moves: the guarded pointer to a card that is gone reads null. -/
def setRegistry (r : Registry) : SignJob :=
  let k := s.client.setRegistry r
  { s with client := k, card := k.guardCard s.card }

/-- The registry moves any number of times, as it may under a dialog. -/
def setRegistries (rs : List Registry) : SignJob := rs.foldl setRegistry s

/-- Queue `beginSign` on the event loop, so that the chooser's caller is out of the way when it
runs. -/
def defer (certId : QString) : SignJob := { s with hops := s.hops ++ [certId] }

/-- Several certificates: ask the chooser, if there is one.  It may spin a loop of its own, and the
card may go under it. -/
def choose (run : ChooserRun) : SignJob :=
  let s' := if s.chooser then s.setRegistries run.during else s
  match if s.chooser then run.answer else none with
  | none =>
      s'.failWith h (qs "@info:status user cancelled the certificate chooser")
        (qs "Signing was cancelled.") []
  | some certId => s'.defer certId

/-- What follows an `Ok` certificate read: no certificate is an error, a single one is taken, and of
several the chooser decides. -/
def settleOn (signing : List CertificateInfo) (run : ChooserRun) : SignJob :=
  match signing with
  | [] =>
      s.failWith h (qs "@info:status no signing certificate on the card")
        (qs "This card does not support signing.") []
  | [c] => s.defer c.id
  | _ => s.choose h run

/-- The certificate read is over: only the certificates that can sign count from here. -/
def onCertificatesFinished (t : Terminal) (run : ChooserRun) : SignJob :=
  match s.certOp with
  | none => s
  | some i =>
      let s := { s with certOp := none, client := s.client.deleteLater i }
      if t.status ≠ .ok then s.failOutcome h t
      else s.settleOn h (t.certificatesResult.filter fun c => c.signingCapable) run

/-- The queued hop: the card may have gone since, and the file too.  `opens` says whether the input
can be opened for reading. -/
def beginSign (certId : QString) (opens : Bool) : SignJob :=
  match s.card with
  | none =>
      s.failWith h (qs "@info:status sign failed, card removed during selection")
        (qs "The smart card was removed before signing could start.") []
  | some c =>
      if ¬ opens then
        s.failWith h (qs "@info:status sign failed to open input")
          (qs "Could not open the file to sign.") []
      else
        { s with
          signOp := some s.client.minted
          client := s.client.mint c (.sign certId s.signOptions) }

/-- The event loop takes its next turn, and a queued hop runs in it. -/
def turn (opens : Bool) : SignJob :=
  match s.hops with
  | [] => s
  | certId :: rest => { s with hops := rest }.beginSign h certId opens

/-- Report a write that failed; `lastName` is the last name asked for. -/
def failWrite (error : SignedFileError) (lastName : QString) : SignJob :=
  match error with
  | .unreadableArtifact => s.fail (ErrorText.forCode h.toHost .communicationError [])
  | .noFreeName =>
      s.failWith h (qs "@info:status sign failed: every name for the output is taken")
        (qs "There is no free name left for the signed copy of %1.") [fileName s.inputPath]
  | .emptyArtifact =>
      s.failWith h (qs "@info:status sign failed: the signature arrived with no content")
        (qs "The signature for %1 came back empty, so no signed file was saved.")
        [fileName s.inputPath]
  | .writeFailed =>
      s.failWith h (qs "@info:status sign failed to write output")
        (qs "Could not write the signed file %1.") [fileName lastName]

/-- The call of `signedOutputPath` the job makes for each name. -/
def nameRequest : NameRequest where
  inputPath := s.inputPath
  format := s.signOptions.format
  packaging := s.signOptions.packaging

/-- Report the written file, unless something was reported before. -/
def succeed (outPath : QString) : SignJob :=
  let s : SignJob := { s with outputPath := outPath }
  if s.emitted then s
  else { s with emitted := true, signals := s.signals ++ [.succeeded outPath] }

/-- Stream the artifact out under the first free name. -/
def writeOut (run : WriteRun) : SignJob :=
  let s : SignJob := { s with
    namesAsked := s.namesAsked ++ run.names.map fun _ => s.nameRequest }
  match run.result with
  | .error error => s.failWrite h error (run.names.getLastD [])
  | .ok outPath => s.succeed outPath

/-- The sign is over.  The metadata is kept before the artifact is looked at. -/
def onSignFinished (t : Terminal) (run : WriteRun) : SignJob :=
  match s.signOp with
  | none => s
  | some i =>
      let s := { s with signOp := none, client := s.client.deleteLater i }
      if t.status ≠ .ok then s.failOutcome h t
      else
        let s := { s with signMeta := t.signMeta }
        if ¬ t.artifactValid then s.fail (ErrorText.forCode h.toHost .communicationError [])
        else s.writeOut h run

/-- An operation reaches its terminal, which is delivered to the slot connected when it was
minted. -/
def finished (i : ℕ) (t : Terminal) (chooser : ChooserRun) (write : WriteRun) : SignJob :=
  let s' := { s with client := s.client.finish i t }
  if (s.client.ops i).connected then
    if (s.client.ops i).request = .readCertificates then s'.onCertificatesFinished h t chooser
    else s'.onSignFinished h t write
  else s'

end SignJob

/-! ## Reports -/

namespace SignJob

variable {s : SignJob}

/-- A job that has not reported reports a failure, and changes nothing else. -/
lemma fail_eq (hemitted : s.emitted = false) (hnone : s.signals = []) (message : QString) :
    s.fail message = { s with emitted := true, signals := [.failed message] } := by
  simp [fail, hemitted, hnone]

lemma succeed_eq (hemitted : s.emitted = false) (hnone : s.signals = []) (path : QString) :
    s.succeed path =
      { s with outputPath := path, emitted := true, signals := [.succeeded path] } := by
  simp [succeed, hemitted, hnone]

end SignJob

/-! ## What is asked of the card -/

namespace SignJob

/-- Everything the job has asked of the card. -/
def asked (s : SignJob) : ℕ × (ℕ → Request) :=
  (s.client.minted, fun i => (s.client.ops i).request)

/-- A reading of the client that no terminal, no reaping and no move of the registry changes. -/
structure Steady {β : Type*} (g : Client → β) : Prop where
  finish : ∀ k i t, g (k.finish i t) = g k
  deleteLater : ∀ k i, g (k.deleteLater i) = g k
  setRegistry : ∀ k r, g (k.setRegistry r) = g k

lemma steady_asked : Steady fun k => (k.minted, fun i => (k.ops i).request) :=
  ⟨by simp, by simp, by simp⟩

section Steady

variable (h : SignHost) (s : SignJob) {β : Type*} {g : Client → β} (hg : Steady g)

@[simp] lemma fail_client (message : QString) : (s.fail message).client = s.client := by
  unfold fail
  split_ifs <;> rfl

@[simp] lemma failWith_client (context msgid : QString) (args : List QString) :
    (s.failWith h context msgid args).client = s.client :=
  s.fail_client _

@[simp] lemma failOutcome_client (t : Terminal) : (s.failOutcome h t).client = s.client :=
  s.fail_client _

@[simp] lemma failWrite_client (error : SignedFileError) (lastName : QString) :
    (s.failWrite h error lastName).client = s.client := by
  cases error <;> simp [failWrite]

@[simp] lemma succeed_client (path : QString) : (s.succeed path).client = s.client := by
  unfold succeed
  simp only
  split_ifs <;> rfl

@[simp] lemma writeOut_client (run : WriteRun) : (s.writeOut h run).client = s.client := by
  unfold writeOut
  cases run.result with
  | error error => exact failWrite_client h _ error _
  | ok path => exact succeed_client _ path

include hg

lemma Steady.setRegistries (rs : List Registry) :
    g (s.setRegistries rs).client = g s.client := by
  induction rs generalizing s with
  | nil => rfl
  | cons r rs ih => exact (ih (s.setRegistry r)).trans (hg.setRegistry s.client r)

lemma Steady.choose (run : ChooserRun) : g (s.choose h run).client = g s.client := by
  have hmoves := hg.setRegistries s run.during
  unfold SignJob.choose
  by_cases hc : s.chooser = true
  · cases run.answer <;> simpa [hc, defer] using hmoves
  · simp [hc]

lemma Steady.settleOn (signing : List CertificateInfo) (run : ChooserRun) :
    g (s.settleOn h signing run).client = g s.client := by
  unfold SignJob.settleOn
  split
  · rw [failWith_client]
  · rfl
  · exact hg.choose h s run

lemma Steady.onCertificatesFinished (t : Terminal) (run : ChooserRun) :
    g (s.onCertificatesFinished h t run).client = g s.client := by
  unfold SignJob.onCertificatesFinished
  split
  · rfl
  · next i _ =>
      rw [← hg.deleteLater s.client i]
      simp only
      split_ifs
      · rw [failOutcome_client]
      · exact hg.settleOn h { s with certOp := none, client := s.client.deleteLater i } _ run

lemma Steady.onSignFinished (t : Terminal) (run : WriteRun) :
    g (s.onSignFinished h t run).client = g s.client := by
  unfold SignJob.onSignFinished
  split
  · rfl
  · next i _ =>
      rw [← hg.deleteLater s.client i]
      simp only
      split_ifs
      · rw [failOutcome_client]
      · rw [writeOut_client]
      · rw [fail_client]

lemma Steady.finished (i : ℕ) (t : Terminal) (chooser : ChooserRun) (write : WriteRun) :
    g (s.finished h i t chooser write).client = g s.client := by
  rw [← hg.finish s.client i t]
  unfold SignJob.finished
  simp only
  split_ifs
  · exact hg.onCertificatesFinished h { s with client := s.client.finish i t } t chooser
  · exact hg.onSignFinished h { s with client := s.client.finish i t } t write
  · rfl

end Steady

section Asked

variable (h : SignHost) (s : SignJob)

@[simp] lemma setRegistries_minted (rs : List Registry) :
    (s.setRegistries rs).client.minted = s.client.minted :=
  congrArg Prod.fst (steady_asked.setRegistries s rs)

/-- No terminal makes the job ask for anything. -/
lemma finished_asked (i : ℕ) (t : Terminal) (chooser : ChooserRun) (write : WriteRun) :
    (s.finished h i t chooser write).asked = s.asked :=
  steady_asked.finished h s i t chooser write

/-- `start` asks for nothing, or its card for the certificates. -/
lemma start_cases :
    (s.start h).client = s.client ∨
      ∃ c, s.card = some c ∧ (s.start h).client = s.client.mint c .readCertificates := by
  unfold start
  simp only
  split
  · exact .inl (failWith_client ..)
  · next c hc =>
      split_ifs
      · simp only [startOn]
        split
        · exact .inl (fail_client ..)
        · exact .inr ⟨c, hc, rfl⟩
      · exact .inl (failWith_client ..)

/-- `start` asks for one thing at most. -/
lemma start_minted_le : (s.start h).client.minted ≤ s.client.minted + 1 := by
  rcases s.start_cases h with heq | ⟨c, -, heq⟩ <;> simp [heq]

/-- The hop asks for nothing, or its card for a signature. -/
lemma turn_cases (opens : Bool) :
    (s.turn h opens).client = s.client ∨
      ∃ c certId, s.card = some c ∧
        (s.turn h opens).client = s.client.mint c (.sign certId s.signOptions) := by
  unfold turn
  split
  · exact .inl rfl
  · next certId rest _ =>
      unfold beginSign
      split
      · exact .inl (failWith_client ..)
      · next c hc =>
          split_ifs
          · exact .inr ⟨c, certId, hc, rfl⟩
          · exact .inl (failWith_client ..)

end Asked

end SignJob

/-! ## The machine -/

/-- Everything that can happen to a job. -/
inductive Event
  | start
  /-- The client's registry moves. -/
  | registry (r : Registry)
  /-- An operation reaches its terminal. -/
  | finished (i : ℕ) (t : Terminal) (chooser : ChooserRun) (write : WriteRun)
  /-- The queued hop runs. -/
  | turn (opens : Bool)

/-- What each event makes of the job. -/
def step (h : SignHost) (s : SignJob) : Event → SignJob
  | .start => s.start h
  | .registry r => s.setRegistry r
  | .finished i t chooser write => s.finished h i t chooser write
  | .turn opens => s.turn h opens

/-- A job is started once, and a hop runs once it is queued.  An operation has one terminal,
and the client delivers it before it destroys the card the operation runs on. -/
def allows (s : SignJob) : Event → Prop
  | .start => s.started = false
  | .registry r => ∀ i < s.client.minted, s.client.Pending i →
      r.live (s.client.ops i).card = true
  | .finished i _ _ _ =>
      i < s.client.minted ∧ (s.client.ops i).destroyed = false ∧ (s.client.ops i).ended = none
  | .turn _ => s.hops ≠ []

instance (s : SignJob) : (e : Event) → Decidable (allows s e)
  | .start => inferInstanceAs (Decidable (s.started = false))
  | .registry r => inferInstanceAs (Decidable (∀ i < s.client.minted, s.client.Pending i →
      r.live (s.client.ops i).card = true))
  | .finished i _ _ _ => inferInstanceAs (Decidable (i < s.client.minted ∧
      (s.client.ops i).destroyed = false ∧ (s.client.ops i).ended = none))
  | .turn _ => inferInstanceAs (Decidable (s.hops ≠ []))

/-- A freshly constructed job, for any card and any input. -/
structure Start (s : SignJob) : Prop where
  minted : s.client.minted = 0
  card : ∀ c, s.card = some c → s.client.registry.live c = true
  certOp : s.certOp = none
  signOp : s.signOp = none
  emitted : s.emitted = false
  started : s.started = false
  hops : s.hops = []
  signals : s.signals = []
  namesAsked : s.namesAsked = []

/-- The job in its environment. -/
def machine (h : SignHost) : Reactive.Machine SignJob Event where
  start := Start
  allows := allows
  step := step h

end LibreKDE.Signing
