import LibreKDE.Signing.SignSeams

/-!
# The share action

A share signs one local file: it settles on a card (asking when several could sign), runs a
signing job over it, and hands Purpose the output's address or an error.  `SignPurposeJob` is the
object; the card dialog, and what the client is found to hold, come with the event that starts it,
the certificate dialog with the terminal of the job's certificate read.

`share_promise` is what a share promises in every run: it answers once, and not before its job
has nothing left to come; no card is asked for anything unless there is exactly one local file, a
service and a card the user did not decline; and the card and the certificate asked are those in
the rows the user pointed at, whatever the rows read.
-/

namespace LibreKDE.Purpose

open Reactive Signing

/-! ## The object -/

/-- What a share draws on from outside this repository. -/
structure PurposeHost extends SeamHost where
  /-- `QUrl::toLocalFile`, where the text is a local URL. -/
  toLocalFile : QString → Option QString
  /-- `QUrl::fromLocalFile(path).toString()`. -/
  fromLocalFile : QString → QString

/-- The codes a share fails with. -/
inductive JobError
  | userDefined
  /-- `KJob::KilledJobError`. -/
  | killed
  deriving DecidableEq, Repr

/-- What is set when `emitResult` is called: an address to hand on, or an error with its text. -/
inductive ShareResult
  | output (url : QString)
  | error (code : JobError) (text : QString)
  deriving DecidableEq, Repr

/-- A share: the URLs it was given, the job it started, and what it has reported. -/
structure SignPurposeJob where
  /-- `data()["urls"]`. -/
  urls : List QString
  /-- `data()["mimeType"]`. -/
  mimeType : QString := []
  /-- `start` has been called. -/
  started : Bool := false
  signJob : Option SignJob := none
  /-- The questions about cards put so far. -/
  asked : List (List CardChoice) := []
  /-- What was emitted so far. -/
  results : List ShareResult := []

namespace SignPurposeJob

variable (h : PurposeHost) (s : SignPurposeJob)

/-- The share ends with an error that its own checks found. -/
def finishWithError (code : JobError) (message : QString) : SignPurposeJob :=
  { s with results := s.results ++ [.error code message] }

/-- What the slots on the signing job make of its report. -/
def resultOf : Signal → ShareResult
  | .succeeded outputPath => .output (h.fromLocalFile outputPath)
  | .failed message => .error .userDefined message

/-- The signing job went on, and what it reports is handed on. -/
def goOn (before after : SignJob) : SignPurposeJob :=
  { s with
    signJob := some after
    results := s.results ++ (after.signals.drop before.signals.length).map (resultOf h) }

/-- The signing job of a share, over the client as it is found. -/
def jobFor (inputPath : QString) (registry : Registry) (card : CardRef) : SignJob where
  client := { registry := registry }
  card := some card
  inputPath := inputPath
  mimeType := s.mimeType

/-- The rest of `start`, once the card has been settled on. -/
def signWith (inputPath : QString) (selection : SigningCardSelection) (desk : Desk) :
    SignPurposeJob :=
  if selection.cancelled then
    s.finishWithError .killed
      (i18nc h.locale (qs "@info:status user cancelled the card chooser")
        (qs "Signing was cancelled.") [])
  else
    match selection.card with
    | none =>
        s.finishWithError .userDefined
          (i18nc h.locale (qs "@info:status")
            (qs "Insert a smart card that supports signing.") [])
    | some card =>
        let job := s.jobFor inputPath desk.toRegistry card
        s.goOn h job (job.start h.toSignHost)

/-- The rest of `start`, for one local file. -/
def signFile (inputPath : QString) (desk after : Desk) (dialog : Dialog) : SignPurposeJob :=
  if ¬ desk.available then
    s.finishWithError .userDefined
      (i18nc h.locale (qs "@info:status")
        (qs "The LibreSCRS smart-card service is not running.") [])
  else
    let chosen :=
      chooseSigningCard (some (widgetCardChooser dialog after)) { desk := desk, asked := s.asked }
    { s with asked := chosen.2.asked }.signWith h inputPath chosen.1 chosen.2.desk

/-- `start`, over the desk it finds; a card dialog is answered by `dialog` and leaves `after`. -/
def start (desk after : Desk) (dialog : Dialog) : SignPurposeJob :=
  let s := { s with started := true }
  match s.urls with
  | [] =>
      s.finishWithError .userDefined
        (i18nc h.locale (qs "@info:status") (qs "No file was selected to sign.") [])
  | [url] =>
      match h.toLocalFile url with
      | none =>
          s.finishWithError .userDefined
            (i18nc h.locale (qs "@info:status") (qs "Only local files can be signed.") [])
      | some inputPath => s.signFile h inputPath desk after dialog
  | urls =>
      s.finishWithError .userDefined
        (i18ncp h.locale (qs "@info:status")
          (qs "Select a single file to sign — %1 file was shared.")
          (qs "Select a single file to sign — %1 files were shared.") urls.length)

/-- What the certificate dialog answers with, and how the registry moves while it is up. -/
def certRun (t : Terminal) (dialog : Dialog) (during : List Registry) : ChooserRun where
  answer := widgetCertChooser h.toSeamHost dialog (signingOf t)
  during := during

/-- The signing job takes a step. -/
def jobSteps (e : Signing.Event) : SignPurposeJob :=
  match s.signJob with
  | none => s
  | some job => s.goOn h job (Signing.step h.toSignHost job e)

end SignPurposeJob

/-! ## The machine -/

/-- Everything that can happen to a share. -/
inductive Event
  | start (desk after : Desk) (dialog : Dialog)
  /-- The client's registry moves. -/
  | registry (r : Registry)
  /-- An operation of the signing job reaches its terminal. -/
  | finished (i : ℕ) (t : Terminal) (dialog : Dialog) (during : List Registry) (write : WriteRun)
  /-- The signing job's queued hop runs. -/
  | turn (opens : Bool)

/-- What an event is for the signing job. -/
def Event.forJob (h : PurposeHost) : Event → Option Signing.Event
  | .start .. => none
  | .registry r => some (.registry r)
  | .finished i t dialog during write =>
      some (.finished i t (SignPurposeJob.certRun h t dialog during) write)
  | .turn opens => some (.turn opens)

/-- What each event makes of the share. -/
def step (h : PurposeHost) (s : SignPurposeJob) (e : Event) : SignPurposeJob :=
  match e with
  | .start desk after dialog => s.start h desk after dialog
  | e => (e.forJob h).elim s (s.jobSteps h)

/-- The signing job is reached as its machine allows. -/
def reaches (h : PurposeHost) (s : SignPurposeJob) (e : Event) : Prop :=
  ∃ job, s.signJob = some job ∧ ∀ e' ∈ e.forJob h, Signing.allows job e'

/-- A share is started once; everything else reaches its signing job, as that allows. -/
def allows (h : PurposeHost) (s : SignPurposeJob) (e : Event) : Prop :=
  match e with
  | .start .. => s.started = false
  | e => reaches h s e

/-- A share as Purpose creates it, for any files. -/
structure Start (s : SignPurposeJob) : Prop where
  started : s.started = false
  signJob : s.signJob = none
  asked : s.asked = []
  results : s.results = []

/-- The share in its environment. -/
def machine (h : PurposeHost) : Machine SignPurposeJob Event where
  start := Start
  allows := allows h
  step := step h

/-! ## What is promised -/

/-- How a share was started: the desk it found, the one the card dialog left, and what the user did
with the dialog. -/
structure Beginning where
  desk : Desk
  after : Desk
  dialog : Dialog

/-- What an observer writes down: the beginning, the listing of the certificate read, and what the
user did with the certificate dialog. -/
structure Notes where
  beginning : Option Beginning := none
  listing : Option Listing := none
  certDialog : Dialog := fun _ => none

/-- What an event adds: how the share began, the certificate read, and the dialog that it met. -/
def note (h : PurposeHost) (n : Notes) (s : SignPurposeJob) : Event → Notes
  | .start desk after dialog => { n with beginning := some ⟨desk, after, dialog⟩ }
  | .registry _ | .turn _ => n
  | .finished i t dialog during write =>
      match s.signJob with
      | none => n
      | some job =>
          { n with
            listing := noteListing n.listing job
              (.finished i t (SignPurposeJob.certRun h t dialog during) write)
            certDialog :=
              if (job.client.ops i).request = .readCertificates then dialog else n.certDialog }

/-- The share and its observer. -/
def notedMachine (h : PurposeHost) : Machine (SignPurposeJob × Notes) Event :=
  (machine h).watch {} (note h)

/-- The card a share goes to: the only one there is, or the one in the row pointed at. -/
inductive Beginning.Settles (b : Beginning) (c : CardRef) : Prop
  | only : cardsWithPki b.desk.toRegistry = [c] → b.Settles c
  /-- By the time the dialog closes a card is found by the id of that row, and was offered in the
  reader it is in. -/
  | pointed (idx : ℕ) (row offered : CardChoice) : b.desk.Ambiguous →
      b.dialog (b.desk.choices.map cardLabel) = some idx → b.desk.choices[idx]? = some row →
      offered ∈ b.desk.choices → offered.cardId = row.cardId →
      b.after.cardId c = row.cardId → hasPki b.after.toRegistry c = true →
      SitsInNamed b.after.toRegistry c offered.readerName → b.Settles c

/-- The user was asked for a card, and declined. -/
def Beginning.Declined (b : Beginning) : Prop :=
  b.desk.Ambiguous ∧ chooseByIndex (b.desk.choices.map cardLabel) b.dialog = none

/-- The share is for one local file, and the service was there. -/
structure Beginning.Serves (h : PurposeHost) (s : SignPurposeJob) (b : Beginning)
    (inputPath : QString) : Prop where
  single : ∃ url, s.urls = [url] ∧ h.toLocalFile url = some inputPath
  available : b.desk.available = true

/-- The certificate a signature is made with: the only one there is, or the one in the row pointed
at. -/
inductive Notes.Names (h : PurposeHost) (n : Notes) (certId : QString) : Prop
  | only (l : Listing) (c : CertificateInfo) : n.listing = some l → l.signing = [c] →
      c.id = certId → n.Names h certId
  | pointed (l : Listing) (idx : ℕ) (c : CertificateInfo) : n.listing = some l →
      1 < l.signing.length →
      n.certDialog (l.signing.map (certLabel h.toSeamHost)) = some idx →
      l.signing[idx]? = some c → c.id = certId → n.Names h certId

/-- What holds of a share at every moment. -/
structure Promise (h : PurposeHost) (x : SignPurposeJob × Notes) : Prop where
  /-- It answers at most once. -/
  once : x.1.results.length ≤ 1
  /-- Once it is started it has answered, unless its signing job has something to come. -/
  answered : x.1.started = true →
    (x.1.results = [] ↔ ∃ job, x.1.signJob = some job ∧ job.Outstanding)
  /-- There is a signing job only for one local file, and it goes to the card settled on: nothing
  is asked of any other. -/
  job : ∀ job, x.1.signJob = some job → ∃ b c inputPath, x.2.beginning = some b ∧
    b.Serves h x.1 inputPath ∧ b.Settles c ∧ job.inputPath = inputPath ∧
      job.mimeType = x.1.mimeType ∧ ∀ i < job.client.minted, (job.client.ops i).card = c
  /-- A signature is asked for on the certificate settled on. -/
  signs : ∀ job i certId options, x.1.signJob = some job → job.Signs i certId options →
    x.2.Names h certId
  /-- An address is handed on when the signing job has written there. -/
  output : ∀ url, .output url ∈ x.1.results →
    ∃ job path, x.1.signJob = some job ∧ job.signals = [.succeeded path] ∧
      url = h.fromLocalFile path
  /-- The share counts as killed exactly when the user declined to choose a card. -/
  killed : (∃ text, .error .killed text ∈ x.1.results) ↔
    ∃ b inputPath, x.2.beginning = some b ∧ b.Serves h x.1 inputPath ∧ b.Declined

/-! ## What carries the promise -/

/-- Where a share stands once it was started. -/
inductive Stage (h : PurposeHost) (s : SignPurposeJob) (n : Notes) (b : Beginning) : Prop
  /-- It failed as it started. -/
  | refused (code : JobError) (text : QString) : s.signJob = none →
      s.results = [.error code text] →
      (code = .killed ↔ ∃ inputPath, b.Serves h s inputPath ∧ b.Declined) → Stage h s n b
  /-- Its signing job was started. -/
  | works (inputPath : QString) (registry : Registry) (c : CardRef) (job : SignJob) :
      s.signJob = some job → b.Serves h s inputPath → ¬ b.Declined → b.Settles c →
      AtWork h.toSignHost (s.jobFor inputPath registry c) job n.listing →
      s.results = job.signals.map (SignPurposeJob.resultOf h) →
      (∀ l, n.listing = some l →
        l.answer = widgetCertChooser h.toSeamHost n.certDialog l.signing) → Stage h s n b

/-- The share and the observer's notes belong together. -/
structure Sound (h : PurposeHost) (s : SignPurposeJob) (n : Notes) : Prop where
  idle : s.started = false → s.signJob = none ∧ s.results = [] ∧ n = {}
  begun : s.started = true → ∃ b, n.beginning = some b ∧ Stage h s n b

variable {h : PurposeHost} {s : SignPurposeJob} {n : Notes}

/-! ### The start -/

/-- The answer of the card dialog is none exactly when the user accepts no row. -/
lemma answer_widgetCardChooser (b : Beginning) :
    b.desk.answer (widgetCardChooser b.dialog b.after) = none ↔
      chooseByIndex (b.desk.choices.map cardLabel) b.dialog = none :=
  chooseFrom_eq_none

/-- What `chooseSigningCard` comes to, for the dialogs of a share. -/
lemma settles_of_card (b : Beginning) (asked : List (List CardChoice)) {c : CardRef}
    (hc : (chooseSigningCard (some (widgetCardChooser b.dialog b.after))
      { desk := b.desk, asked := asked }).1.card = some c) : b.Settles c := by
  by_cases hmany : b.desk.Ambiguous
  · rw [chooseSigningCard_some hmany] at hc
    cases hanswer : b.desk.answer (widgetCardChooser b.dialog b.after) with
    | none => simp [hanswer] at hc
    | some chosen =>
        rw [hanswer] at hc
        -- The card comes out of the answer: it has the clicked row's id and sits in the reader
        -- offered.
        have hresolved : (b.after.resolve b.desk.choices chosen).card = some c := hc
        obtain ⟨hcard, hpki, offered, hoffered, hid, hname⟩ := resolve_spec hresolved
        obtain ⟨idx, row, hdialog, hrow, hrowId⟩ := chooseFrom_eq_some.1 hanswer
        refine .pointed idx row offered hmany hdialog hrow hoffered (hid.trans hrowId.symm) ?_ hpki
          (hname ▸ sitsInNamed_readerName _ c)
        exact (b.after.found _ _ hcard).2.trans hrowId.symm
  · rw [chooseSigningCard_silent hmany] at hc
    have hlength : (cardsWithPki b.desk.toRegistry).length ≤ 1 := length_le_of_not_ambiguous hmany
    have hfirst : (cardsWithPki b.desk.toRegistry)[0]? = some c := hc
    rcases hcards : cardsWithPki b.desk.toRegistry with _ | ⟨d, rest⟩
    · simp [hcards] at hfirst
    · rw [hcards] at hlength hfirst
      obtain rfl : rest = [] := by simpa using hlength
      obtain rfl : d = c := by simpa using hfirst
      exact .only hcards

/-- A share counts as declined when the choice of a card is cancelled. -/
lemma cancelled_iff (b : Beginning) (asked : List (List CardChoice)) :
    (chooseSigningCard (some (widgetCardChooser b.dialog b.after))
      { desk := b.desk, asked := asked }).1.cancelled = true ↔ b.Declined := by
  rw [(chooseSigningCard_contract _ _).cancelled]
  refine and_congr Iff.rfl ?_
  rw [← answer_widgetCardChooser]
  simp

/-- A card that is settled on is there. -/
lemma live_of_card (b : Beginning) (asked : List (List CardChoice)) {c : CardRef}
    (hc : (chooseSigningCard (some (widgetCardChooser b.dialog b.after))
      { desk := b.desk, asked := asked }).1.card = some c) :
    (chooseSigningCard (some (widgetCardChooser b.dialog b.after))
      { desk := b.desk, asked := asked }).2.desk.live c = true :=
  (chooseSigningCard_contract _ _).live c hc

lemma start_jobFor (inputPath : QString) {registry : Registry} {c : CardRef}
    (hlive : registry.live c = true) : Signing.Start (s.jobFor inputPath registry c) where
  minted := rfl
  card := by
    rintro _ ⟨⟩
    exact hlive
  certOp := rfl
  signOp := rfl
  emitted := rfl
  started := rfl
  hops := rfl
  signals := rfl
  namesAsked := rfl

/-- A share refused for its files or for want of a service was not declined. -/
lemma Stage.refusedFor {b : Beginning} {text : QString} (hjob : s.signJob = none)
    (hresults : s.results = [.error .userDefined text])
    (hnot : ∀ inputPath, b.Serves h s inputPath → ¬ b.Declined) : Stage h s n b := by
  refine .refused .userDefined text hjob hresults ⟨nofun, ?_⟩
  rintro ⟨inputPath, hserves, hdeclined⟩
  exact absurd hdeclined (hnot inputPath hserves)

/-- The card is settled on, and the signing job started, or the share refused. -/
lemma stage_signWith {b : Beginning} {inputPath : QString} (hserves : b.Serves h s inputPath)
    (hjob : s.signJob = none) (hresults : s.results = []) (asked : List (List CardChoice))
    (hlisting : n.listing = none) :
    Stage h (s.signWith h inputPath
      (chooseSigningCard (some (widgetCardChooser b.dialog b.after))
        { desk := b.desk, asked := asked }).1
      (chooseSigningCard (some (widgetCardChooser b.dialog b.after))
        { desk := b.desk, asked := asked }).2.desk) n b := by
  have hcancelled := cancelled_iff b asked
  have hsettles := fun c => settles_of_card b asked (c := c)
  have hlive := fun c => live_of_card b asked (c := c)
  generalize chooseSigningCard (some (widgetCardChooser b.dialog b.after))
    { desk := b.desk, asked := asked } = chosen at hcancelled hsettles hlive
  unfold SignPurposeJob.signWith
  split_ifs with hdeclined
  · refine .refused .killed _ hjob (by simp [SignPurposeJob.finishWithError, hresults]; rfl) ?_
    exact iff_of_true rfl ⟨inputPath, ⟨hserves.single, hserves.available⟩, hcancelled.1 hdeclined⟩
  · split
    · refine .refusedFor hjob (by simp [SignPurposeJob.finishWithError, hresults]; rfl) ?_
      exact fun _ _ hd => hdeclined (hcancelled.2 hd)
    · next c hc =>
        have hs := start_jobFor (s := s) inputPath (hlive c hc)
        refine .works inputPath chosen.2.desk.toRegistry c _ rfl
          ⟨hserves.single, hserves.available⟩ (fun hd => hdeclined (hcancelled.2 hd))
          (hsettles c hc) ?_ ?_ ?_
        · rw [hlisting]
          exact .of_start hs rfl
        · simp [SignPurposeJob.goOn, hresults, SignPurposeJob.jobFor]
        · simp [hlisting]

/-- A share that is started is refused, or its signing job works. -/
lemma stage_start (b : Beginning) (hjob : s.signJob = none) (hresults : s.results = [])
    (hlisting : n.listing = none) : Stage h (s.start h b.desk b.after b.dialog) n b := by
  unfold SignPurposeJob.start
  dsimp only
  split
  · next hurls =>
      refine .refusedFor hjob (by simp [SignPurposeJob.finishWithError, hresults]; rfl) ?_
      rintro inputPath ⟨⟨url, hsingle, -⟩, -⟩ -
      cases hurls.symm.trans hsingle
  · next url hurls =>
      split
      · next hremote =>
          refine .refusedFor hjob (by simp [SignPurposeJob.finishWithError, hresults]; rfl) ?_
          rintro inputPath ⟨⟨url', hsingle, hlocal⟩, -⟩ -
          obtain rfl : url = url' := by simpa using hurls.symm.trans hsingle
          cases hremote.symm.trans hlocal
      · next inputPath hlocal =>
          unfold SignPurposeJob.signFile
          split_ifs with havail
          · exact stage_signWith (s := { s with started := true, asked := _ })
              ⟨⟨url, hurls, hlocal⟩, havail⟩ hjob hresults s.asked hlisting
          · refine .refusedFor hjob (by simp [SignPurposeJob.finishWithError, hresults]; rfl) ?_
            rintro _ ⟨-, havailable⟩ -
            exact havail havailable
  · next hmany =>
      refine .refusedFor hjob (by simp [SignPurposeJob.finishWithError, hresults]; rfl) ?_
      rintro inputPath ⟨⟨url, hsingle, -⟩, -⟩ -
      exact hmany url hsingle

lemma signWith_started (inputPath : QString) (selection : SigningCardSelection) (desk : Desk) :
    (s.signWith h inputPath selection desk).started = s.started := by
  unfold SignPurposeJob.signWith
  split_ifs
  · rfl
  · split <;> rfl

lemma start_started (desk after : Desk) (dialog : Dialog) :
    (s.start h desk after dialog).started = true := by
  unfold SignPurposeJob.start
  dsimp only
  split
  · rfl
  · split
    · rfl
    · unfold SignPurposeJob.signFile
      split_ifs
      · exact signWith_started ..
      · rfl
  · rfl

/-! ### The signing job goes on -/

namespace Stage

/-- The signing job takes a step. -/
lemma jobSteps {b : Beginning} {job : SignJob} {e : Signing.Event} {n' : Notes}
    (hst : Stage h s n b) (hjob : s.signJob = some job) (hal : Signing.allows job e)
    (hwork : ∀ s₀, AtWork h.toSignHost s₀ job n.listing →
      AtWork h.toSignHost s₀ (Signing.step h.toSignHost job e) n'.listing ∧
        ((∀ l, n.listing = some l →
            l.answer = widgetCertChooser h.toSeamHost n.certDialog l.signing) →
          ∀ l, n'.listing = some l →
            l.answer = widgetCertChooser h.toSeamHost n'.certDialog l.signing)) :
    Stage h (s.jobSteps h e) n' b := by
  cases hst with
  | refused code text hnone => cases hnone.symm.trans hjob
  | works inputPath registry c job' hjob' hserves hdeclined hsettles hw hresults hpicks =>
      obtain rfl : job = job' := Option.some.inj (hjob.symm.trans hjob')
      obtain ⟨hw', hpicks'⟩ := hwork _ hw
      have heq : s.jobSteps h e = s.goOn h job (Signing.step h.toSignHost job e) := by
        rw [SignPurposeJob.jobSteps, hjob]
      rw [heq]
      refine .works inputPath registry c _ rfl ⟨hserves.single, hserves.available⟩ hdeclined
        hsettles hw' ?_ (hpicks' hpicks)
      show s.results ++ _ = _
      rw [hresults, ← List.map_append]
      congr 1
      -- Only a registry event is admitted once the job has reported, and it reports nothing.
      by_cases hmoves : ∃ r, e = .registry r
      · obtain ⟨r, rfl⟩ := hmoves
        show job.signals ++ job.signals.drop job.signals.length = job.signals
        rw [List.drop_length, List.append_nil]
      · have hnone := hw.signals_eq_nil hal fun r hr => hmoves ⟨r, hr⟩
        rw [hnone]
        rfl

end Stage

/-- **Every event keeps the share and the observer's notes together.** -/
lemma Sound.step (hs : Sound h s n) {e : Event} (hal : allows h s e) :
    Sound h (Purpose.step h s e) (note h n s e) := by
  -- The events of the inner job: the share hands each on, and its own beginning stays.
  have hgoes : ∀ {job : SignJob} {e' : Signing.Event} {n' : Notes}, s.signJob = some job →
      Signing.allows job e' → n'.beginning = n.beginning →
      (∀ s₀, AtWork h.toSignHost s₀ job n.listing →
        AtWork h.toSignHost s₀ (Signing.step h.toSignHost job e') n'.listing ∧
          ((∀ l, n.listing = some l →
              l.answer = widgetCertChooser h.toSeamHost n.certDialog l.signing) →
            ∀ l, n'.listing = some l →
              l.answer = widgetCertChooser h.toSeamHost n'.certDialog l.signing)) →
      Sound h (s.jobSteps h e') n' := by
    intro job e' n' hjob hal' hbeginning hwork
    have hstarted : s.started = true := by
      by_contra hidle
      have hnone := (hs.idle (by simpa using hidle)).1
      cases hnone.symm.trans hjob
    have hkept : (s.jobSteps h e').started = s.started := by
      rw [SignPurposeJob.jobSteps, hjob]
      rfl
    obtain ⟨b, hb, hstage⟩ := hs.begun hstarted
    refine ⟨fun hidle => ?_, fun _ => ⟨b, hbeginning.trans hb, hstage.jobSteps hjob hal' hwork⟩⟩
    rw [hkept, hstarted] at hidle
    cases hidle
  cases e with
  | start desk after dialog =>
      obtain ⟨hjob, hresults, rfl⟩ := hs.idle hal
      refine ⟨fun hidle => ?_, fun _ => ⟨⟨desk, after, dialog⟩, rfl, ?_⟩⟩
      · have hstarted : (Purpose.step h s (.start desk after dialog)).started = true :=
          start_started desk after dialog
        rw [hstarted] at hidle
        cases hidle
      · exact stage_start ⟨desk, after, dialog⟩ hjob hresults rfl
  | registry r =>
      obtain ⟨job, hjob, hall⟩ := hal
      have hal' : Signing.allows job (.registry r) := hall _ rfl
      exact hgoes hjob hal' rfl fun s₀ hw => ⟨hw.registry hal', id⟩
  | turn opens =>
      obtain ⟨job, hjob, hall⟩ := hal
      have hal' : Signing.allows job (.turn opens) := hall _ rfl
      exact hgoes hjob hal' rfl fun s₀ hw => ⟨(hw.turn hal').1, id⟩
  | finished i t dialog during write =>
      obtain ⟨job, hjob, hall⟩ := hal
      have hal' : Signing.allows job
          (.finished i t (SignPurposeJob.certRun h t dialog during) write) := hall _ rfl
      have hnote : note h n s (.finished i t dialog during write) =
          { n with
            listing := noteListing n.listing job
              (.finished i t (SignPurposeJob.certRun h t dialog during) write)
            certDialog :=
              if (job.client.ops i).request = .readCertificates then dialog
              else n.certDialog } := by
        rw [note, hjob]
      rw [hnote]
      refine hgoes hjob hal' rfl fun s₀ hw => ⟨(hw.finished hal').1, fun hpicks l hl => ?_⟩
      dsimp only at hl ⊢
      rcases hw.finished_cases hal' with ⟨rfl, hread⟩ | ⟨-, -, hreq⟩
      -- The listing is noted at the read's terminal, and the dialog that answers it is the one
      -- then.
      · have hone : job.client.minted = 1 := hread.mints
        have hreq : (job.client.ops 0).request = .readCertificates := hread.reads (by omega)
        have hcert : job.certOp = some 0 := hread.certOp
        have hnone : n.listing = none := hw.unread (by simp [hcert])
        rw [if_pos hreq]
        rcases hw.of_noteListing hl with hold | rfl
        · cases hnone.symm.trans hold
        · rfl
      · rw [if_neg hreq]
        refine hpicks l ?_
        rwa [noteListing, if_neg fun hr => hreq hr.2.1] at hl

/-! ## The promise -/

/-- A share whose signing job works keeps the promise. -/
lemma Stage.promise {b : Beginning} (hst : Stage h s n b) (hb : n.beginning = some b) :
    Promise h (s, n) := by
  cases hst with
  | refused code text hjob hresults hkilled =>
      -- A share refused has no job, so what the promise says about its job is empty.
      have hnojob : ∀ {job : SignJob} {p : Prop}, s.signJob = some job → p :=
        fun hsome => nomatch hjob.symm.trans hsome
      refine ⟨by simp [hresults], fun _ => ?_, fun job hsome => hnojob hsome,
        fun job i certId options hsome => hnojob hsome, fun url hurl => ?_, ?_⟩
      · simp [hresults, hjob]
      · simp [hresults] at hurl
      · constructor
        · rintro ⟨text', htext⟩
          have hboth : ShareResult.error .killed text' = .error code text :=
            List.mem_singleton.1 (hresults ▸ htext)
          have hcode : code = .killed := (ShareResult.error.inj hboth).1.symm
          obtain ⟨inputPath, hserves, hdeclined⟩ := hkilled.1 hcode
          exact ⟨b, inputPath, hb, hserves, hdeclined⟩
        · rintro ⟨b', inputPath, hb', hserves, hdeclined⟩
          obtain rfl : b = b' := Option.some.inj (hb.symm.trans hb')
          obtain rfl := hkilled.2 ⟨inputPath, hserves, hdeclined⟩
          exact ⟨text, by simp [hresults]⟩
  | works inputPath registry c job hjob hserves hdeclined hsettles hw hresults hpicks =>
      have hself : ∀ {job' : SignJob}, s.signJob = some job' → job' = job :=
        fun hsome => (Option.some.inj (hjob.symm.trans hsome)).symm
      have hprotocol := hw.rests.protocol
      refine ⟨?_, fun _ => ?_, fun job' hsome => ?_, fun job' i certId options hsome hsigns => ?_,
        fun url hurl => ?_, ?_⟩
      · show s.results.length ≤ 1
        rw [hresults, List.length_map]
        exact hprotocol.atMostOnce
      · show s.results = [] ↔ ∃ job', s.signJob = some job' ∧ job'.Outstanding
        rw [hresults, List.map_eq_nil_iff, ← hw.outstanding_iff, hjob]
        simp
      · obtain rfl := hself hsome
        obtain ⟨p, -, hj⟩ := hw.rests
        refine ⟨b, c, inputPath, hb, hserves, hsettles, hj.inputPath, hj.mimeType, fun i hi => ?_⟩
        exact (Option.some.inj (hw.cards i hi)).symm
      · obtain rfl := hself hsome
        obtain ⟨l, hl, hne, hchosen⟩ := hprotocol.signsListed i certId options hsigns
        -- One certificate is taken without asking; of several the dialog's row decides.
        rcases hsigning : l.signing with _ | ⟨first, _ | ⟨next, rest⟩⟩
        · exact absurd hsigning hne
        · refine .only l first hl hsigning ?_
          simpa [Listing.chosen, hsigning] using hchosen
        · have hanswer : widgetCertChooser h.toSeamHost n.certDialog l.signing = some certId := by
            rw [← hpicks l hl]
            simpa [Listing.chosen, hsigning] using hchosen
          obtain ⟨idx, cert, hdialog, hcert, hid⟩ := chooseFrom_eq_some.1 hanswer
          exact .pointed l idx cert hl (by simp [hsigning]) hdialog hcert hid
      · have hmapped : .output url ∈ job.signals.map (SignPurposeJob.resultOf h) := hresults ▸ hurl
        obtain ⟨signal, hsignal, heq⟩ := List.mem_map.1 hmapped
        rcases hw.rests.signals_cases with hnone | ⟨path, hpath⟩ | ⟨message, hfailed⟩
        · simp [hnone] at hsignal
        · obtain rfl : signal = .succeeded path := by simpa [hpath] using hsignal
          exact ⟨job, path, hjob, hpath, (ShareResult.output.inj heq).symm⟩
        · obtain rfl : signal = .failed message := by simpa [hfailed] using hsignal
          cases heq
      · constructor
        · rintro ⟨text, htext⟩
          have hmapped : .error .killed text ∈ job.signals.map (SignPurposeJob.resultOf h) :=
            hresults ▸ htext
          obtain ⟨signal, -, heq⟩ := List.mem_map.1 hmapped
          cases signal <;> cases heq
        · rintro ⟨b', _, hb', -, hd⟩
          obtain rfl : b = b' := Option.some.inj (hb.symm.trans hb')
          exact absurd hd hdeclined

lemma Sound.promise (hs : Sound h s n) : Promise h (s, n) := by
  by_cases hstarted : s.started = true
  · obtain ⟨b, hb, hstage⟩ := hs.begun hstarted
    exact hstage.promise hb
  · obtain ⟨hjob, hresults, rfl⟩ := hs.idle (by simpa using hstarted)
    refine ⟨by simp [hresults], fun h => absurd h hstarted, fun job hsome => ?_,
      fun job i certId options hsome => ?_, fun url hurl => ?_, ?_⟩
    · cases hjob.symm.trans hsome
    · cases hjob.symm.trans hsome
    · simp [hresults] at hurl
    · simp [hresults]

lemma Start.sound (hs : Start s) : Sound h s {} where
  idle _ := ⟨hs.signJob, hs.results, rfl⟩
  begun hstarted := by simp [hs.started] at hstarted

/-- **What a share promises**, in every run: it answers once, when its signing job is over; it asks
nothing of any card but the one settled on, nor a signature by another certificate; an address it
hands on was written by its job; and it counts as killed exactly when the user declined to
choose. -/
theorem share_promise (h : PurposeHost) {s : SignPurposeJob} {es : List Event} (hs : Start s)
    (ha : (machine h).Admits s es) : (notedMachine h).Always (Promise h) (s, {}) es := by
  have hkept : (notedMachine h).Kept fun x => Sound h x.1 x.2 :=
    fun _ _ hx hal => hx.step hal
  have hadmits : (notedMachine h).Admits (s, {}) es := Machine.admits_watch.2 ha
  exact (hkept.always hs.sound hadmits).mono fun _ hx => hx.promise

instance (h : PurposeHost) (s : SignPurposeJob) (e : Event) : Decidable (reaches h s e) :=
  inferInstanceAs (Decidable (∃ job ∈ s.signJob, ∀ e' ∈ e.forJob h, Signing.allows job e'))

instance decidableAllows (h : PurposeHost) (s : SignPurposeJob) :
    (e : Event) → Decidable (allows h s e)
  | .start .. => inferInstanceAs (Decidable (_ = false))
  | .registry r => inferInstanceAs (Decidable (reaches h s (.registry r)))
  | .finished i t dialog during write =>
      inferInstanceAs (Decidable (reaches h s (.finished i t dialog during write)))
  | .turn opens => inferInstanceAs (Decidable (reaches h s (.turn opens)))

instance decidableSends (h : PurposeHost) (s : SignPurposeJob) (e : Event) :
    Decidable ((machine h).allows s e) :=
  inferInstanceAs (Decidable (allows h s e))

/-- A host without a catalogue, whose local files are those of the root. -/
def PurposeHost.plain : PurposeHost where
  toSignHost := .plain
  shortDate _ := qs "1/1/30"
  toLocalFile url := if url.take 8 = qs "file:///" then some (url.drop 7) else none
  fromLocalFile path := qs "file://" ++ path

/-- The share of one file. -/
def shared : SignPurposeJob where
  urls := [qs "file:///a.pdf"]
  mimeType := qs "application/pdf"

/-- Of two cards the second is pointed at, and of two certificates that read the same the second. -/
def sharedToSecond : List Event :=
  [.start (twoCards false) (twoCards false) fun _ => some 1,
    .finished 0
      { certificatesResult :=
          [{ id := qs "x", subject := qs "Ana", signingCapable := true },
            { id := qs "y", subject := qs "Ana", signingCapable := true }] }
      (fun _ => some 1) [] {},
    .turn true,
    .finished 1 { artifactValid := true } (fun _ => none) []
      { names := [qs "/a-signed.pdf"], result := .ok (qs "/a-signed.pdf") }]

theorem share_promise_second :
    ((machine .plain).exec shared sharedToSecond).results =
        [.output (qs "file:///a-signed.pdf")] ∧
      (notedMachine .plain).Always (Promise .plain) (shared, {}) sharedToSecond :=
  ⟨by decide, @share_promise .plain shared sharedToSecond ⟨rfl, rfl, rfl, rfl⟩ (by decide)⟩

end LibreKDE.Purpose
