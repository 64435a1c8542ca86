import LibreKDE.Plasmoid.IdentityModel
import LibreKDE.Plasmoid.ReaderNames
import LibreKDE.Qt.Bytes
import LibreKDE.Qt.Format
import LibreKDE.Signing.SignJob

/-!
# The widget's handler

`SmartCardHandler` is the logic behind one plasma widget.  It follows a reader's card,
classifies it by its capabilities, reads the holder's identity and photo when the view is open
or the user asks, and signs files; the results are properties the view renders.

The object is `SmartCardHandler`, and the functions below are its methods.  Its state falls in
three parts:

* `CardReads` — the bound card, the two reads, and what they brought: the identity model, the
  photo, and the photo's slot in the store all widgets share;
* `SignStates` — the outcome of signing, kept by reader name, and the jobs started;
* the rest — what the view renders of the roster and of the card's state.

Change signals are left out, except that the sign surfaces are compared with the values they
were last published with.  The guarded pointers of the source are cleared by the registry event
that destroys what they point to.
-/

namespace LibreKDE.Plasmoid

/-! ## Surroundings -/

/-- A decoded image, by the bytes it was decoded from. -/
structure QImage where
  source : QByteArray
  deriving DecidableEq, Repr

/-- `CardPhotoStore`: the widgets' photos, by slot; it is one object for all widgets of the
process. -/
structure CardPhotoStore where
  images : ℕ → Option QImage

namespace CardPhotoStore

/-- A widget's photo is put into its slot, in place of whatever was there. -/
def setImage (p : CardPhotoStore) (slot : ℕ) (image : QImage) : CardPhotoStore :=
  ⟨Function.update p.images slot (some image)⟩

/-- A slot is emptied; the others are as they were. -/
def clear (p : CardPhotoStore) (slot : ℕ) : CardPhotoStore :=
  ⟨Function.update p.images slot none⟩

@[simp] lemma clear_self (p : CardPhotoStore) (slot : ℕ) : (p.clear slot).images slot = none := by
  simp [clear]

@[simp] lemma setImage_self (p : CardPhotoStore) (slot : ℕ) (image : QImage) :
    (p.setImage slot image).images slot = some image := by
  simp [setImage]

end CardPhotoStore

/-- What the widget draws on from outside this repository. -/
structure PlasmoidHost extends Signing.SignHost where
  digits : CharTable
  /-- Numbers as the session's locale writes them. -/
  numbers : PlaceMarkers.Numbering QChar
  chars : CharClasses
  rules : IdentityRules
  /-- The client library's `resolveCardState`. -/
  resolveCardState : Capabilities → PreReadAuth → Bool → Bool → UiState
  /-- `QImage::fromData`; `none` for a null image. -/
  fromData : QByteArray → Option QImage
  /-- `QImageReader::format`. -/
  imageFormat : QByteArray → QString
  /-- `QUrl::toLocalFile`, where the text is a local URL. -/
  toLocalFile : QString → Option QString

/-- A host without catalogue or tables, which decodes every image and reads every card that
carries identity data as an identity card. -/
def PlasmoidHost.plain : PlasmoidHost where
  toSignHost := .plain
  digits := .plain
  numbers := decimal
  chars := .plain
  rules := .plain
  resolveCardState caps _ _ _ :=
    if caps.identityData then if caps.pki then .hybrid else .identityOnly
    else if caps.pki then .pkiOnly else .unknownCard
  fromData bytes := some ⟨bytes⟩
  imageFormat _ := qs "jpeg"
  toLocalFile _ := none

/-! ## The card's state -/

/-- `CardStateModel::State`. -/
inductive State
  | noCard | preAuthRequired | identityOnly | pkiOnly | hybrid | error | unknownCard
  | agentUnavailable
  deriving DecidableEq, Repr

/-- `CardStateModel::fromUiState`. -/
def State.fromUiState : UiState → State
  | .noCard => .noCard
  | .preAuthRequired => .preAuthRequired
  | .identityOnly => .identityOnly
  | .pkiOnly => .pkiOnly
  | .hybrid => .hybrid
  | .unknownCard => .unknownCard
  | .none | .error => .error

/-! ## Photos -/

/-- The photo a widget holds: its bytes for saving, and the URL its view loads it from. -/
structure CardPhoto where
  photoBytes : QByteArray
  hasCardPhoto : Bool
  cardPhotoUrl : QString
  photoSuggestedFileName : QString
  /-- A file name is suggested for a photo only. -/
  tied : hasCardPhoto = false → cardPhotoUrl = [] → photoSuggestedFileName = []
  deriving DecidableEq

namespace CardPhoto

/-- No photo: no bytes, no URL and no name to save it under. -/
def empty : CardPhoto := ⟨[], false, [], [], fun _ _ => rfl⟩

/-- Something of a photo is held. -/
def Shows (p : CardPhoto) : Prop :=
  p.photoBytes ≠ [] ∨ p.hasCardPhoto = true ∨ p.cardPhotoUrl ≠ [] ∨ p.photoSuggestedFileName ≠ []

/-- The widget's own part of `clearPhoto`; past the bytes it stops where no photo is shown. -/
def clear (p : CardPhoto) : CardPhoto :=
  let p := { p with photoBytes := [] }
  if p.hasCardPhoto = false ∧ p.cardPhotoUrl = [] then p else empty

/-- Clearing leaves nothing, also behind its early return. -/
@[simp] lemma clear_eq (p : CardPhoto) : p.clear = empty := by
  unfold clear
  simp only
  split_ifs with h
  · obtain ⟨bytes, has, url, name, tied⟩ := p
    obtain ⟨hhas, hurl⟩ := h
    have hname : name = [] := tied hhas hurl
    simp only at hhas hurl
    subst hhas hurl hname
    rfl
  · rfl

lemma not_shows_empty : ¬ empty.Shows := by simp [Shows, empty]

end CardPhoto

/-- The suggested name for a photo's bytes. -/
def suggestedPhotoFileName (h : PlasmoidHost) (bytes : QByteArray) : QString :=
  let format := if h.imageFormat bytes = qs "jpeg" then qs "jpg" else h.imageFormat bytes
  let base := qs "card-photo"
  if format = [] then base else base ++ [qc '.'] ++ format

/-- The URL a view loads a photo by. -/
def cardPhotoUrl (h : PlasmoidHost) (photoSlot photoToken : ℕ) : QString :=
  QString.argNumber h.digits h.numbers
    (QString.argNumber h.digits h.numbers (qs "image://librekde/cardphoto/%1?%2") photoSlot)
    photoToken

/-! ## The card and its reads -/

/-- The bound card, its two reads, and what they brought. -/
structure CardReads where
  client : Client
  card : Option CardRef := none
  identityOp : Option ℕ := none
  photoOp : Option ℕ := none
  /-- A read has succeeded on this card. -/
  identityRead : Bool := false
  identity : IdentityModel := .empty
  photo : CardPhoto := .empty
  photoStore : CardPhotoStore
  /-- This widget's slot in the store. -/
  photoSlot : ℕ
  photoToken : ℕ := 0
  /-- The cards `warmCertificates` was called on. -/
  warmed : List CardRef := []
  /-- The object is gone. -/
  destroyed : Bool := false

namespace CardReads

variable (h : PlasmoidHost) (s : CardReads)

/-- The bound card's published record. -/
def boundCard : Option AgentCard := s.card.bind s.client.registry.cards

/-- `preReadUnlockRequired(m_card->preReadAuth())`: a read of the bound card would raise a
prompt. -/
def unlockRequired : Bool := s.boundCard.any fun c => preReadUnlockRequired c.preReadAuth

/-- Stop listening to an operation, cancel it and reap it. -/
def drop (k : Client) : Option ℕ → Client
  | some i => ((k.disconnect i).cancel i).deleteLater i
  | none => k

/-- `clearPhoto`: the photo goes from the widget and its slot of the store is emptied, whatever the
widget held. -/
def clearPhoto : CardReads :=
  { s with photo := s.photo.clear, photoStore := s.photoStore.clear s.photoSlot }

/-- The identity model is emptied. -/
def clearIdentity : CardReads := { s with identity := s.identity.clear }

/-- The part of `bindCard` behind its short circuit: both reads are dropped and everything read from
the card before is blanked, so that nothing of it outlives the binding. -/
def rebind (c : Option CardRef) : CardReads :=
  let s := { s with client := drop s.client s.identityOp, identityOp := none }
  let s := { s with client := drop s.client s.photoOp, photoOp := none }
  let s := { s with card := c, identityRead := false }
  s.clearPhoto.clearIdentity

/-- The registry moves: the guarded pointers to what is gone read null. -/
def setRegistry (r : Registry) : CardReads :=
  let k := s.client.setRegistry r
  { s with
    client := k
    card := k.guardCard s.card
    identityOp := k.guardOp s.identityOp
    photoOp := k.guardOp s.photoOp }

/-- Mint an identity read on a card, and listen to it. -/
def mintIdentity (c : CardRef) : CardReads :=
  { s with identityOp := some s.client.minted, client := s.client.mint c .readIdentity }

/-- Start a photo read, unless there is no card or one is in flight. -/
def startPhotoRead : CardReads :=
  match s.card with
  | none => s
  | some c =>
      if s.photoOp.isSome then s
      else { s with photoOp := some s.client.minted, client := s.client.mint c .getPhoto }

/-- `++m_photoToken`, on 64 bits. -/
def nextToken : ℕ := (s.photoToken + 1) % 2 ^ 64

/-- Show a photo whose bytes decode: it goes into the slot, and under a URL that no view has
cached. -/
def setPhoto (bytes : QByteArray) (image : QImage) : CardReads :=
  { s with
    photoStore := s.photoStore.setImage s.photoSlot image
    photoToken := s.nextToken
    photo :=
      { photoBytes := bytes
        hasCardPhoto := true
        cardPhotoUrl := Plasmoid.cardPhotoUrl h s.photoSlot s.nextToken
        photoSuggestedFileName := suggestedPhotoFileName h bytes
        tied := by simp } }

/-- The first photo of a terminal, when there is one and its bytes can be read and decoded; which of
several comes first is up to the transport. -/
def photoOf (t : Terminal) : Option (QByteArray × QImage) :=
  match t.photos with
  | [] => none
  | item :: _ =>
      match item.payload with
      | none => none
      | some bytes =>
          if bytes = [] then none else (h.fromData bytes).map fun image => (bytes, image)

/-- The photo read reaches its terminal.  A photo that cannot be read or decoded is no photo, and a
read that fails says nothing: the identity is on show already. -/
def onPhotoFinished (t : Terminal) : CardReads :=
  match s.photoOp with
  | none => s
  | some i =>
      let s := { s with photoOp := none, client := s.client.deleteLater i }
      if t.status ≠ .ok then s
      else
        match photoOf h t with
        | none => s
        | some (bytes, image) => s.setPhoto h bytes image

end CardReads

/-! ## Signing -/

/-- What a reader's last sign ended as. -/
inductive SignOutcome
  | none | succeeded | failed
  deriving DecidableEq, Repr

/-- One reader's sign state: the job it has, if any, and what the last one left. -/
structure ReaderSignState where
  /-- The job running, by its number. -/
  job : Option ℕ := none
  card : Option CardRef := none
  phase : OperationPhase := .created
  certLabel : QString := []
  outcome : SignOutcome := .none
  outputPath : QString := []
  level : QString := []
  message : QString := []
  deriving DecidableEq, Repr

/-- The `signResult` property. -/
structure SignResult where
  outcome : SignOutcome := .none
  outputPath : QString := []
  certLabel : QString := []
  level : QString := []
  message : QString := []
  deriving DecidableEq, Repr

/-- What the property shows of an entry: its outcome and the texts that go with it. -/
def ReaderSignState.result (e : ReaderSignState) : SignResult :=
  ⟨e.outcome, e.outputPath, e.certLabel, e.level, e.message⟩

/-- A `SignJob` the widget started, as its slots remember it: the reader's name is captured when
they are connected, and is not looked up again. -/
structure StartedJob where
  reader : QString
  /-- It has reported. -/
  ended : Bool := false
  deriving DecidableEq, Repr

/-- The sign states, by reader name, the published surfaces, and the jobs started. -/
structure SignStates where
  signStates : QString → Option ReaderSignState := fun _ => none
  publishedSigningBusy : Bool := false
  publishedSignPhase : OperationPhase := .created
  /-- `none` is the empty map it starts from. -/
  publishedSignResult : Option SignResult := none
  /-- How many jobs were started; the next one gets this number. -/
  jobsStarted : ℕ := 0
  jobs : ℕ → StartedJob := fun _ => ⟨[], true⟩

/-! ## The object -/

/-- The object behind the widget: what it reads of the card, the signing state of its readers, and
the properties the view is bound to. -/
structure SmartCardHandler extends CardReads, SignStates where
  state : State := .noCard
  readerName : QString := []
  errorMessage : QString := []
  cardLabel : QString := []
  busy : Bool := false
  operationPhase : OperationPhase := .created
  pinManagementAvailable : Bool := false
  cardDetected : Bool := false
  agentInstalled : Bool := false
  agentStarting : Bool := false
  agentStartFailed : Bool := false
  viewActive : Bool := false
  boundReaderName : QString := []
  boundReaderPresent : Bool := false
  selectedReaderName : QString := []
  availableReaderNames : List QString := []
  readersWithCards : List QString := []

namespace SmartCardHandler

variable (h : PlasmoidHost) (s : SmartCardHandler)

/-! ### Sign surfaces -/

/-- The displayed reader's entry, when it is about the bound card; an entry of another card under
the same name is not shown. -/
def activeSignState : Option ReaderSignState :=
  (s.signStates s.readerName).filter fun e => e.card = s.card

/-- The entry shown has a job. -/
def signingBusy : Bool := s.activeSignState.any fun e => e.job.isSome

/-- The phase of the entry shown, also once its job has ended. -/
def signPhase : OperationPhase := (s.activeSignState.map ReaderSignState.phase).getD .created

/-- The outcome of the entry shown, and an empty one where there is none. -/
def signResult : SignResult := (s.activeSignState.map ReaderSignState.result).getD {}

/-- The three surfaces are published as they are now.  The source emits a signal for each that
differs from what was published last. -/
def publishSignSurfaces : SmartCardHandler :=
  { s with
    publishedSigningBusy := s.signingBusy
    publishedSignPhase := s.signPhase
    publishedSignResult := some s.signResult }

/-- Write a reader's entry. -/
def setEntry (reader : QString) (e : ReaderSignState) : SmartCardHandler :=
  { s with signStates := Function.update s.signStates reader (some e) }

/-- `m_signStates[reader]`: the entry, or a fresh one. -/
def entry (reader : QString) : ReaderSignState := (s.signStates reader).getD {}

/-! ### Binding -/

/-- `updateReaderRosters`: the rosters, the entries of readers that left, and
`boundReaderPresent`. -/
def updateReaderRosters : SmartCardHandler :=
  let readers := s.client.registry.readers
  let all := readers.map fun x => x.name
  { s with
    availableReaderNames := all
    readersWithCards := (readers.filter fun x => x.card.isSome).map fun x => x.name
    signStates := fun reader =>
      (s.signStates reader).filter fun e => ¬ (e.job = none ∧ reader ∉ all)
    boundReaderPresent := computeBoundReaderPresent h.chars s.boundReaderName all }

/-- `bindCard`: a no-op for the card already bound.  The null card never short-circuits, since
a removed card has already read null. -/
def bindCard (c : Option CardRef) : SmartCardHandler :=
  if c ≠ none ∧ s.card = c then s
  else
    { s with
      toCardReads := s.rebind c
      busy := if s.identityOp.isSome then false else s.busy }

/-- Whether the bound card manages PINs, by its published record alone. -/
def updatePinManagementAvailable : SmartCardHandler :=
  { s with pinManagementAvailable := s.boundCard.any AgentCard.pinManagement }

/-! ### Reading -/

/-- An identity read of the bound card, unless one is in flight; the card's unlock may be asked for
at that. -/
def readIdentity : SmartCardHandler :=
  match s.card with
  | none => s
  | some c =>
      if s.identityOp.isSome then s
      else
        { s with
          toCardReads := s.mintIdentity c
          errorMessage := []
          busy := true
          operationPhase := .created }

/-- A read nobody asked for, where it costs nobody anything: the card answers without an unlock, it
has not been read yet, and its kind has an identity. -/
def ensureFreeRead : SmartCardHandler :=
  if s.card = none then s
  else if s.unlockRequired ∨ s.identityRead ∨ s.identityOp.isSome then s
  else if s.state ≠ .identityOnly ∧ s.state ≠ .hybrid then s
  else s.readIdentity

/-- What the bound card, whose record is `c`, resolves to. -/
def resolve (c : AgentCard) : UiState :=
  if preReadUnlockRequired c.preReadAuth ∧ ¬ s.identityRead then .preAuthRequired
  else h.resolveCardState c.capabilities .none true s.identityRead

/-- Show the state of the bound card, whose record is `c`. -/
def classify (c : AgentCard) : SmartCardHandler :=
  { s with
    cardLabel := if s.resolve h c = .preAuthRequired then [] else s.cardLabel
    state := .fromUiState (s.resolve h c) }

/-- The bound card's state is resolved anew from its record and from what has been read; an open
view may have the card read at that. -/
def classifyActiveCard : SmartCardHandler :=
  let s := s.updatePinManagementAvailable
  match s.boundCard with
  | none => { s with state := .noCard }
  | some c =>
      let s := s.classify h c
      if s.viewActive then s.ensureFreeRead else s

/-- The registry is looked at anew: the rosters, the card the widget should show, and its state.
Without the agent, and without a card to show, what belonged to the card is blanked. -/
def refresh : SmartCardHandler :=
  if ¬ s.client.registry.available then
    let s := ((s.updateReaderRosters h).bindCard none).updatePinManagementAvailable
    publishSignSurfaces { s with
      readerName := []
      cardLabel := []
      errorMessage := []
      cardDetected := false
      identityRead := false
      agentInstalled := s.client.registry.agentState ≠ .missing
      state := .agentUnavailable }
  else
    let s := s.updateReaderRosters h
    match pickActiveReader h.chars s.client.registry s.boundReaderName s.selectedReaderName with
    | none =>
        let s := (s.bindCard none).updatePinManagementAvailable
        publishSignSurfaces { s with
          readerName := s.boundReaderName
          cardLabel := []
          errorMessage := []
          cardDetected := computeCardDetected h.chars s.client.registry s.boundReaderName
          identityRead := false
          state := .noCard }
    | some reader =>
        let s := { s with cardDetected := false, readerName := reader.name }
        publishSignSurfaces ((s.bindCard reader.card).classifyActiveCard h)

/-- The user's configuration.  A binding that changes also forgets the chip that was picked. -/
def setBoundReaderName (name : QString) : SmartCardHandler :=
  if s.boundReaderName = name then s
  else refresh h { s with boundReaderName := name, selectedReaderName := [] }

/-- A chip is picked, which a bound widget does not listen to. -/
def selectReader (friendlyName : QString) : SmartCardHandler :=
  if s.boundReaderName ≠ [] then s
  else if s.selectedReaderName = friendlyName then s
  else refresh h { s with selectedReaderName := friendlyName }

/-- The popup opens or closes; opening it may read the card. -/
def setViewActive (active : Bool) : SmartCardHandler :=
  if s.viewActive = active then s
  else
    let s := { s with viewActive := active }
    if active then s.ensureFreeRead else s

/-- The identity read reaches its terminal: the user's own cancel leaves no message, a failure
leaves one, and a success is followed by the photo read. -/
def onOperationFinished (t : Terminal) : SmartCardHandler :=
  let op := s.identityOp
  let s := { s with identityOp := none, busy := false }
  match op with
  | none => s
  | some i =>
      let s := { s with client := s.client.deleteLater i }
      if t.status = .cancelled ∧ t.errorCode = .none ∧ t.callError = .none then
        classifyActiveCard h { s with errorMessage := [] }
      else if t.status ≠ .ok then
        { s with
          errorMessage := ErrorText.forOutcome h.toHost t.errorCode t.callError t.messageKey
            t.messageFallback
          state := .error }
      else
        let s := classifyActiveCard h { s with
          identityRead := true
          identity := .rebuild h.rules h.chars t.identityResult }
        { s with toCardReads := s.startPhotoRead }

/-- An operation reaches its terminal, which is delivered to its slot unless the widget has stopped
listening. -/
def finished (i : ℕ) (t : Terminal) : SmartCardHandler :=
  let s' := { s with client := s.client.finish i t }
  if (s.client.ops i).connected then
    if (s.client.ops i).request = .readIdentity then s'.onOperationFinished h t
    else { s' with toCardReads := s'.onPhotoFinished h t }
  else s'

/-- `AgentOperation::phaseChanged`, of either read. -/
def phaseChanged (i : ℕ) (phase : OperationPhase) : SmartCardHandler :=
  if (s.client.ops i).connected then { s with operationPhase := phase } else s

/-- `AgentCard::changed`, which the widget listens to on the bound card. -/
def cardChanged (c : CardRef) : SmartCardHandler :=
  if s.card = some c then s.classifyActiveCard h else s

/-! ### The world moves -/

/-- The registry moves, and the guarded pointers of the sign entries to cards that are gone read
null with it. -/
def setRegistry (r : Registry) : SmartCardHandler :=
  { s with
    toCardReads := s.toCardReads.setRegistry r
    signStates := fun reader =>
      (s.signStates reader).map fun e =>
        { e with card := (s.client.setRegistry r).guardCard e.card } }

/-- `~SmartCardHandler`: the slot is emptied for the next widget; an operation in flight is neither
cancelled nor waited for. -/
def destroy : SmartCardHandler :=
  { s with photoStore := s.photoStore.clear s.photoSlot, destroyed := true }

/-! ### Signing -/

/-- A job reports success, under the name it was started for. -/
def onSucceeded (j : ℕ) (outputPath level : QString) : SmartCardHandler :=
  let reader := (s.jobs j).reader
  let s := { s with jobs := Function.update s.jobs j { s.jobs j with ended := true } }
  publishSignSurfaces (s.setEntry reader { s.entry reader with
    job := none
    outcome := .succeeded
    outputPath := outputPath
    level := level
    message := [] })

/-- A job reports failure, under the name it was started for. -/
def onFailed (j : ℕ) (message : QString) : SmartCardHandler :=
  let reader := (s.jobs j).reader
  let s := { s with jobs := Function.update s.jobs j { s.jobs j with ended := true } }
  publishSignSurfaces (s.setEntry reader { s.entry reader with
    job := none
    outcome := .failed
    outputPath := []
    level := []
    message := message })

/-- A job's operation moves on; a job whose entry was swept writes nothing. -/
def onPhaseChanged (j : ℕ) (phase : OperationPhase) : SmartCardHandler :=
  let reader := (s.jobs j).reader
  match s.signStates reader with
  | none => s
  | some e => publishSignSurfaces (s.setEntry reader { e with phase := phase })

/-- A job asks its chooser, which picks the first certificate and notes its label, the certificate's
subject or else its id.  Nothing is published at that. -/
def pickFirstCert (j : ℕ) (cands : List CertificateInfo) : SmartCardHandler :=
  match cands with
  | [] => s
  | picked :: _ =>
      let reader := (s.jobs j).reader
      s.setEntry reader { s.entry reader with
        certLabel := if picked.subject = [] then picked.id else picked.subject }

/-- What a job reports before its `start` returns. -/
def startSignals (inputPath : QString) : List Signing.Signal :=
  (Signing.SignJob.start h.toSignHost
    { client := s.client, card := s.card, inputPath := inputPath }).signals

/-- A file is chosen to be signed.  While the displayed reader's name has a job the file is dropped;
otherwise a job is started on the bound card, whichever that is by now, and is told at once if it
cannot start. -/
def signFile (fileUrl : QString) : SmartCardHandler :=
  let reader := s.readerName
  if (s.entry reader).job.isSome then s
  else
    let inputPath := (h.toLocalFile fileUrl).getD fileUrl
    let job := s.jobsStarted
    let s := { s with
      errorMessage := []
      jobsStarted := s.jobsStarted + 1
      jobs := Function.update s.jobs s.jobsStarted { reader := reader } }
    let s := publishSignSurfaces (s.setEntry reader { job := some job, card := s.card })
    match s.startSignals h inputPath with
    | .failed message :: _ => s.onFailed job message
    | _ => s

/-- The displayed reader's outcome is taken back.  The entry stays, with its card and with the phase
its job went as far as. -/
def dismissSignResult : SmartCardHandler :=
  match s.signStates s.readerName with
  | none => s
  | some e =>
      if e.outcome = .none then s
      else
        publishSignSurfaces (s.setEntry s.readerName { e with
          outcome := .none
          outputPath := []
          certLabel := []
          level := []
          message := [] })

/-! ### The rest -/

/-- The certificates are read ahead of the file manager, where that raises no prompt. -/
def warmCertificateCache : SmartCardHandler :=
  match s.card with
  | none => s
  | some c => if s.unlockRequired then s else { s with warmed := s.warmed ++ [c] }

/-- `openInFiles`, up to the launch itself: nothing is opened without a name. -/
def openInFiles : SmartCardHandler :=
  if s.readerName = [] then s else s.warmCertificateCache

/-- The agent is asked to start, unless it is being started already. -/
def startAgent : SmartCardHandler :=
  if s.agentStarting then s else { s with agentStarting := true }

/-- The attempt to start the agent is over, one way or the other. -/
def onAgentStartFinished (result : AgentStartResult) : SmartCardHandler :=
  if ¬ s.agentStarting then s
  else refresh h { s with agentStarting := false, agentStartFailed := result = .failed }

/-- A handler and the refresh its constructor runs, over a client and the widgets' store. -/
def construct (client : Client) (photoStore : CardPhotoStore) (photoSlot : ℕ) :
    SmartCardHandler :=
  refresh h { client := client, photoStore := photoStore, photoSlot := photoSlot }

end SmartCardHandler

/-! ## The machine -/

/-- Everything that can happen to a handler. -/
inductive Event
  /-- The registry moves, unnoticed by any slot, and no card goes. -/
  | registry (r : Registry)
  /-- The registry moves, cards may go, and the client announces it. -/
  | registryChanged (r : Registry)
  /-- The client announces something that moved before, or did not move. -/
  | refresh
  | cardChanged (c : CardRef)
  | setBoundReaderName (name : QString)
  | selectReader (friendlyName : QString)
  | setViewActive (active : Bool)
  | readIdentity
  | ensureFreeRead
  | openInFiles
  | startAgent
  | agentStartFinished (result : AgentStartResult)
  /-- A read reaches its terminal. -/
  | finished (i : ℕ) (t : Terminal)
  /-- A read moves on. -/
  | phaseChanged (i : ℕ) (phase : OperationPhase)
  | signFile (fileUrl : QString)
  | dismissSignResult
  /-- A job asks its chooser. -/
  | jobChooses (j : ℕ) (cands : List CertificateInfo)
  | jobPhaseChanged (j : ℕ) (phase : OperationPhase)
  | jobSucceeded (j : ℕ) (outputPath level : QString)
  | jobFailed (j : ℕ) (message : QString)
  /-- Another widget writes to the store. -/
  | sibling (slot : ℕ) (image : Option QImage)
  | destroy

open SmartCardHandler in
/-- What each event makes of the handler. -/
def step (h : PlasmoidHost) (s : SmartCardHandler) : Event → SmartCardHandler
  | .registry r => s.setRegistry (r.keeping s.client.registry)
  | .registryChanged r => (s.setRegistry r).refresh h
  | .refresh => s.refresh h
  | .cardChanged c => s.cardChanged h c
  | .setBoundReaderName name => s.setBoundReaderName h name
  | .selectReader friendlyName => s.selectReader h friendlyName
  | .setViewActive active => s.setViewActive active
  | .readIdentity => s.readIdentity
  | .ensureFreeRead => s.ensureFreeRead
  | .openInFiles => s.openInFiles
  | .startAgent => s.startAgent
  | .agentStartFinished result => s.onAgentStartFinished h result
  | .finished i t => s.finished h i t
  | .phaseChanged i phase => s.phaseChanged i phase
  | .signFile fileUrl => s.signFile h fileUrl
  | .dismissSignResult => s.dismissSignResult
  | .jobChooses j cands => s.pickFirstCert j cands
  | .jobPhaseChanged j phase => s.onPhaseChanged j phase
  | .jobSucceeded j outputPath level => s.onSucceeded j outputPath level
  | .jobFailed j message => s.onFailed j message
  | .sibling slot image =>
      { s with photoStore := ⟨Function.update s.photoStore.images slot image⟩ }
  | .destroy => s.destroy

/-- A job that was started and has not reported. -/
def SmartCardHandler.LiveJob (s : SmartCardHandler) (j : ℕ) : Prop :=
  j < s.jobsStarted ∧ (s.jobs j).ended = false

instance (s : SmartCardHandler) (j : ℕ) : Decidable (s.LiveJob j) :=
  inferInstanceAs (Decidable (_ ∧ _))

/-- What an event needs of the state it comes in: an operation and a job have one terminal, and
each widget writes to its own slot. -/
def Event.guard (s : SmartCardHandler) : Event → Prop
  | .finished i _ | .phaseChanged i _ =>
      i < s.client.minted ∧ (s.client.ops i).destroyed = false ∧ (s.client.ops i).ended = none
  | .jobChooses j _ | .jobPhaseChanged j _ | .jobSucceeded j _ _ | .jobFailed j _ => s.LiveJob j
  | .sibling slot _ => slot ≠ s.photoSlot
  | .registry _ | .registryChanged _ | .refresh | .cardChanged _ | .setBoundReaderName _
  | .selectReader _ | .setViewActive _ | .readIdentity | .ensureFreeRead | .openInFiles
  | .startAgent | .agentStartFinished _ | .signFile _ | .dismissSignResult | .destroy => True

/-- The other widgets go on after the object is gone. -/
def Event.isSibling : Event → Bool
  | .sibling _ _ => true
  | _ => false

/-- Nothing reaches a handler once it is destroyed; the store goes on being written by its
siblings. -/
def allows (s : SmartCardHandler) (e : Event) : Prop :=
  (s.destroyed = false ∨ e.isSibling = true) ∧ e.guard s

instance (s : SmartCardHandler) : (e : Event) → Decidable (e.guard s)
  | .finished i _ | .phaseChanged i _ => inferInstanceAs (Decidable (i < s.client.minted ∧
      (s.client.ops i).destroyed = false ∧ (s.client.ops i).ended = none))
  | .jobChooses j _ | .jobPhaseChanged j _ | .jobSucceeded j _ _ | .jobFailed j _ =>
      inferInstanceAs (Decidable (s.LiveJob j))
  | .sibling slot _ => inferInstanceAs (Decidable (slot ≠ s.photoSlot))
  | .registry _ | .registryChanged _ | .refresh | .cardChanged _ | .setBoundReaderName _
  | .selectReader _ | .setViewActive _ | .readIdentity | .ensureFreeRead | .openInFiles
  | .startAgent | .agentStartFinished _ | .signFile _ | .dismissSignResult | .destroy =>
      isTrue trivial

instance (s : SmartCardHandler) (e : Event) : Decidable (allows s e) :=
  inferInstanceAs (Decidable (_ ∧ _))

/-- A freshly constructed handler, over a client and a store in which its slot is empty. -/
def Start (h : PlasmoidHost) (s : SmartCardHandler) : Prop :=
  ∃ client photoStore photoSlot, client.minted = 0 ∧ photoStore.images photoSlot = none ∧
    s = SmartCardHandler.construct h client photoStore photoSlot

/-- The handler in its environment: every run from a fresh handler, with the events in any order
that their guards admit. -/
def machine (h : PlasmoidHost) : Reactive.Machine SmartCardHandler Event where
  start := Start h
  allows := allows
  step := step h

instance (h : PlasmoidHost) (s : SmartCardHandler) (e : Event) :
    Decidable ((machine h).allows s e) :=
  inferInstanceAs (Decidable (allows s e))

end LibreKDE.Plasmoid
