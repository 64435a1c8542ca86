import LibreKDE.AgentClient.Text
import LibreKDE.Framework.Machine

/-!
# The credentials window's controller

`CredentialController` is the logic behind the credential-management window.  It reflects
one reader's card, keeps the card's credential listing in a model, and drives the PIN verbs:
each verb mints a *mutation* on the bound card, shows the `Working` scrim until its terminal,
renders the outcome in `Result`, and re-lists.

`Controller` is the object's state with the client it co-owns; every function below is the
method of the same name.  The two operations in flight and the bound card are guarded
pointers in the source, and are cleared here by the registry event that destroys what they
point to.  Change signals are left out (every one of them only tells the view to read a
property again); `unblockConfirmRequested`, which carries data, is recorded.

`Event` lists everything that can reach the object: its public invokables, the client
signals it is connected to, and the two ways the world moves under it, a registry change no
slot has seen yet and an operation reaching its terminal.  `machine` puts them together.
-/

namespace LibreKDE.Credentials

/-- The coarse states the window renders, one surface for each. -/
inductive State
  | agentUnavailable | noCard | notManageable | loading | ready | empty | working | result
  | readFailed
  deriving DecidableEq, Repr

/-! ## The model -/

namespace CredentialModel

/-- The record with the given id, when the listing still carries it. -/
def recordById (records : List CredentialRecord) (id : QString) : Option CredentialRecord :=
  records.find? fun r => r.id = id

/-- The first record of a kind: the row `rowOfKind` names, or none. -/
def rowOfKind (records : List CredentialRecord) (kind : CredentialKind) :
    Option CredentialRecord :=
  records.find? fun r => r.kind = kind

lemma mem_of_recordById {records : List CredentialRecord} {id : QString}
    {r : CredentialRecord} (h : recordById records id = some r) : r ∈ records :=
  List.mem_of_find?_eq_some h

lemma id_of_recordById {records : List CredentialRecord} {id : QString}
    {r : CredentialRecord} (h : recordById records id = some r) : r.id = id := by
  simpa using List.find?_some h

end CredentialModel

/-! ## The object -/

/-- The controller, with the client it co-owns: the binding, the two operations it may have in
flight, the rows, and what the window shows. -/
structure Controller where
  client : Client
  /-- `m_client` is not null. -/
  hasClient : Bool := true
  card : Option CardRef := none
  listOp : Option ℕ := none
  mutationOp : Option ℕ := none
  model : List CredentialRecord := []
  /-- The explicit binding, "" for none. -/
  readerId : QString := []
  readerLabel : QString := []
  /-- The reader the binding last resolved to. -/
  resolvedReaderId : QString := []
  resultMessage : QString := []
  resultIsError : Bool := false
  agentStarting : Bool := false
  removalNotice : QString := []
  pendingPresentedKind : CredentialKind := .unknown
  showingResult : Bool := false
  mutationCancelRequested : Bool := false
  listCancelRequested : Bool := false
  state : State := .noCard
  listSettled : Bool := false
  /-- The `unblockConfirmRequested(id, budget)` signals emitted so far. -/
  unblockConfirmRequested : List (QString × QString) := []

namespace Controller

variable (h : Host) (s : Controller)

/-- `m_client && m_client->isAvailable()`. -/
def available : Bool := s.hasClient && s.client.registry.available

/-- The bound card's published record. -/
def boundCard : Option AgentCard := s.card.bind s.client.registry.cards

/-- `Cards::hasCapability(*m_card, Cap::PinManagement)`; without a card there is nothing to
manage. -/
def manageable : Bool := s.boundCard.any AgentCard.pinManagement

/-! ## Dropping operations -/

/-- `resetListState`: stop listening to the list in flight, cancel and reap it, and forget
what is known of the listing. -/
def resetListState : Controller :=
  { s with
    client := match s.listOp with
      | some i => ((s.client.disconnect i).cancel i).deleteLater i
      | none => s.client
    listOp := none
    listSettled := false
    listCancelRequested := false
    showingResult := false }

/-- `detachMutation`: stop listening to the mutation in flight and cancel it. -/
def detachMutation : Controller :=
  { s with
    client := match s.mutationOp with
      | some i => (s.client.disconnect i).cancel i
      | none => s.client
    mutationOp := none
    mutationCancelRequested := false
    pendingPresentedKind := .unknown }

/-- The part of `bindCard` behind its short circuit: both operations belong to the previous
binding and go.  A live card supersedes a card-removed notice; the null bind keeps it. -/
def rebind (c : Option CardRef) : Controller :=
  { s.resetListState.detachMutation with
    card := c
    removalNotice := if c = none then s.removalNotice else [] }

/-- `bindCard`: a no-op for the card already bound.  The null card never short-circuits, since
a removed card has already read null. -/
def bindCard (c : Option CardRef) : Controller :=
  if c ≠ none ∧ s.card = c then s else s.rebind c

/-! ## Listing -/

/-- The three lines every path with nothing to list ends in. -/
def clearRows (st : State) : Controller :=
  { s.resetListState with model := [], state := st }

/-- Mint a list on the bound card; the `Loading` spinner is held back while a verb's result
is still showing. -/
def mintList (c : CardRef) : Controller :=
  { s with
    listOp := some s.client.minted
    client := s.client.mint c .listCredentials
    state := if s.showingResult then s.state else .loading }

/-- `startListCredentials`: list the bound card, unless a verb runs on it, a list is in flight, or
the listing counts as settled. -/
def startListCredentials : Controller :=
  match s.card with
  | none => s.clearRows .noCard
  | some c =>
      if s.mutationOp ≠ none then s
      else if s.listOp ≠ none ∨ s.listSettled then s
      else s.mintList c

/-- `classify`: what the bound card's capabilities come to, a list or a surface without rows. -/
def classify : Controller :=
  if s.card = none then s.clearRows .noCard
  else if s.manageable then s.startListCredentials
  else s.clearRows .notManageable

/-- The explicit binding, when it resolves. -/
def boundReader : Option AgentReader :=
  if s.readerId = [] then none else s.client.registry.reader s.readerId

/-- The reader `refresh` resolves to: a missing or stale binding falls back to the first
reader holding a card. -/
def resolvedReader : Option AgentReader :=
  s.boundReader.or (Readers.firstReaderWithCard s.client.registry)

/-- The four lines of both branches of `refresh` that end with no reader to show. -/
def unbind (st : State) : Controller :=
  { { s with resolvedReaderId := [] }.bindCard none with readerLabel := [], state := st }

/-- What `refresh` notes about the reader it resolved to. -/
def showReader (x : AgentReader) : Controller :=
  { s with resolvedReaderId := x.id, readerLabel := Readers.readerLabel h x }

/-- `refresh`: resolve the binding anew and bind what is found.  Nothing moves while a verb is live,
except that the agent is gone. -/
def refresh : Controller :=
  if ¬ s.available then s.unbind .agentUnavailable
  -- A live mutation pins the binding.
  else if s.mutationOp ≠ none then s
  else
    match s.resolvedReader with
    | none => s.unbind .noCard
    | some x => ((s.showReader h x).bindCard x.card).classify

/-- `bindReader`: an explicit re-bind to another reader abandons the verb in flight. -/
def bindReader (id : QString) : Controller :=
  let s' :=
    if s.mutationOp ≠ none ∧ id ≠ s.resolvedReaderId then s.detachMutation.resetListState
    else s
  { s' with readerId := id }.refresh h

/-- `onListFinished`: an Ok list fills the rows, any other empties them; only a cancelled one counts
as settled, so that a failed one is tried again. -/
def onListFinished (t : Terminal) : Controller :=
  let cancelRequested := s.listCancelRequested
  let s := { s with listOp := none, listCancelRequested := false, showingResult := false }
  if t.status = .ok then
    { s with
      listSettled := true
      model := t.credentialsResult
      state := if t.credentialsResult = [] then .empty else .ready }
  else
    { s with
      model := []
      listSettled := cancelRequested || t.status = .cancelled
      state := .readFailed }

/-- `cancel`: latch the intent, then ask the agent. -/
def cancel : Controller :=
  let s := match s.mutationOp with
    | some i => { s with mutationCancelRequested := true, client := s.client.cancel i }
    | none => s
  match s.listOp with
  | some i => { s with listCancelRequested := true, client := s.client.cancel i }
  | none => s

/-! ## Verbs -/

/-- `kindOf`: the record's own kind, `unknown` when the id is stale. -/
def kindOf (id : QString) : CredentialKind :=
  ((CredentialModel.recordById s.model id).map CredentialRecord.kind).getD .unknown

/-- `canStartMutation`: a bound card and no verb in flight. -/
def canStartMutation : Bool := s.card ≠ none ∧ s.mutationOp = none

/-- `beginMutation`, with the minting call it is handed: adopt the fresh mutation and enter
`Working`; a re-list still in flight is dropped. -/
def beginMutation (c : CardRef) (q : Request) (presented : CredentialKind) : Controller :=
  -- The operation is minted before `beginMutation` runs.
  let op := s.client.minted
  let s := { s with
    client := s.client.mint c q, pendingPresentedKind := presented, removalNotice := [] }
  let s := if s.listOp ≠ none then s.resetListState else s
  { s with mutationOp := some op, mutationCancelRequested := false, state := .working }

/-- The common shape of a verb: nothing without a card or under a running verb. -/
def verb (q : Request) (presented : CredentialKind) : Controller :=
  match s.card with
  | some c => if s.canStartMutation then s.beginMutation c q presented else s
  | none => s

/-- Ask the agent to change a PIN. -/
def changePin (id : QString) : Controller :=
  s.verb (.managePin id .change {}) (s.kindOf id)

/-- `activate`: brings the signing key up in the same flow when it is pending. -/
def activate (id : QString) : Controller :=
  s.verb
    (.managePin id .activatePin
      { activateKey := (CredentialModel.recordById s.model id).any
          CredentialRecord.keyActivationPending })
    (s.kindOf id)

/-- `activateSigningKey`: the request carries no id, since a card has one signing key; what it
presents is the signing PIN. -/
def activateSigningKey (_id : QString) : Controller := s.verb .activateSigningKey .sign

/-- `confirmUnblock`: an unblock presents the PUK. -/
def confirmUnblock (id : QString) : Controller := s.verb (.managePin id .unblock {}) .puk

/-- The budget line of the unblock sheet: the PUK row's remaining uses. -/
def pukBudget : QString :=
  match (CredentialModel.rowOfKind s.model .puk).bind
      fun row => CredentialModel.recordById s.model row.id with
  | none => []
  | some puk =>
      let who := CredentialText.kindName h .puk
      match puk.usesLeft, puk.usesMax with
      | some left, some max =>
          ki18ndc h.locale (qs "unblock sheet: %1 PUK name, %2/%3 remaining/total unblocks")
            (qs "%1: %2 of %3 unblocks left")
            [who, h.locale.number left, h.locale.number max]
      | some left, none =>
          ki18ndc h.locale (qs "unblock sheet: %1 PUK name, %2 remaining unblocks")
            (qs "%1: %2 unblocks left") [who, h.locale.number left]
      | none, _ => []

/-- `requestUnblock`: no card I/O, only the confirm sheet. -/
def requestUnblock (id : QString) : Controller :=
  if s.canStartMutation then
    { s with unblockConfirmRequested := s.unblockConfirmRequested ++ [(id, s.pukBudget h)] }
  else s

/-! ## Terminals of a verb -/

/-- `relistAfterMutation`: the result stays up while the fresh list loads underneath. -/
def relistAfterMutation : Controller :=
  { s.resetListState with showingResult := true }.startListCredentials

/-- What every terminal of a mutation lets go of first. -/
def releaseMutation : Controller :=
  { s with mutationOp := none, mutationCancelRequested := false }

/-- The sentence about a card that was removed during a verb, or none. -/
def setRemovalNotice (notice : QString) : Controller := { s with removalNotice := notice }

/-- `setResult` followed by the transition to `Result`. -/
def showResult (isError : Bool) (message : QString) : Controller :=
  { s with resultIsError := isError, resultMessage := message, state := .result }

/-- `handleRefusal`: what separates the arms is whether the listing is still true. -/
def handleRefusal (named : SyncError) : Controller :=
  match named with
  | .unknownCredential =>
      (s.showResult false (ki18nd h.locale
        (qs "The card's credentials changed; the list was refreshed.") [])).relistAfterMutation
  | .rateLimited =>
      s.showResult false (ki18nd h.locale
        (qs "Please wait a moment before trying again.") [])
  | .invalidRequest =>
      s.showResult false (ki18nd h.locale (qs "The card refused the request.") [])
  | .unknownCard | .keyNotFound | .other _ =>
      (s.showResult false (ki18nd h.locale
        (qs "The action could not be started.") [])).relistAfterMutation

/-- The terminal was the holder's own cancel: requested here, or a `Cancelled` status the
client's death sweeps did not manufacture. -/
def wasCancelled (t : Terminal) : Bool :=
  s.mutationCancelRequested ||
    (t.status = .cancelled &&
      !(t.errorCode = .cardRemoved || t.errorCode = .communicationError))

/-- The outcome a terminal stands for: a card pulled mid-verb usually terminalizes before
the agent's own outcome arrives. -/
def effectiveOutcome (t : Terminal) : CredentialOutcome :=
  if ¬ s.wasCancelled t ∧ t.pinResult.outcome = .unspecified ∧ t.errorCode = .cardRemoved then
    .cardRemoved
  else t.pinResult.outcome

/-- The banner's text for a terminal that was no named refusal. -/
def mutationMessage (t : Terminal) : QString :=
  let effective := s.effectiveOutcome t
  if s.wasCancelled t then
    if effective = .unspecified then []
    else CredentialText.outcomeMessage h effective s.pendingPresentedKind
      t.pinResult.retriesLeft
  else if effective = .unspecified then
    ErrorText.forOutcome h t.errorCode t.callError t.messageKey t.messageFallback
  else
    CredentialText.outcomeMessage h effective s.pendingPresentedKind t.pinResult.retriesLeft

/-- `onMutationDone`: a named refusal has its own arms, and of anything else the banner tells the
outcome before the card is listed again. -/
def onMutationDone (t : Terminal) : Controller :=
  match t.syncError with
  | some named => s.releaseMutation.handleRefusal h named
  | none =>
      let effective := s.effectiveOutcome t
      let isError :=
        !s.wasCancelled t && !CredentialText.isNeutral effective && effective ≠ .ok
      let message := s.mutationMessage h t
      let shown := s.releaseMutation.showResult isError message
      -- No card to re-list: the outcome rides the NoCard surface.
      if effective = .cardRemoved then shown.setRemovalNotice message
      else shown.relistAfterMutation

/-! ## The agent's start -/

/-- `startAgent`: ask once; a controller without a client has nobody to ask and refreshes
instead. -/
def startAgent : Controller :=
  if s.agentStarting then s
  else if ¬ s.hasClient then s.refresh h
  else { s with agentStarting := true }

/-- The slot behind `agentStartFinished`, which the client announces to all its hosts: only the one
that asked refreshes. -/
def onAgentStartFinished : Controller :=
  if s.agentStarting then { s with agentStarting := false }.refresh h else s

/-! ## What happens to the object -/

/-- The registry moves: guarded pointers to what it destroys read null. -/
def setRegistry (r : Registry) : Controller :=
  let k := s.client.setRegistry r
  { s with
    client := k
    card := k.guardCard s.card
    listOp := k.guardOp s.listOp
    mutationOp := k.guardOp s.mutationOp }

/-- An operation reaches its terminal, which is delivered to the slot connected when it was
minted unless the controller has stopped listening. -/
def finished (i : ℕ) (t : Terminal) : Controller :=
  let s' := { s with client := s.client.finish i t }
  if (s.client.ops i).connected then
    if (s.client.ops i).request = .listCredentials then s'.onListFinished t
    else s'.onMutationDone h t
  else s'

end Controller

/-! ## The machine -/

/-- Everything that can happen to the controller. -/
inductive Event
  /-- The client's registry moves; no slot has run yet. -/
  | registry (r : Registry)
  /-- `refresh`, called from any registry signal, by the queued first call, or from QML. -/
  | refresh
  /-- `AgentCard::changed` of a card. -/
  | cardChanged (c : CardRef)
  /-- An operation reaches its terminal. -/
  | finished (i : ℕ) (t : Terminal)
  | bindReader (id : QString)
  | cancel
  | startAgent
  | agentStartFinished (result : AgentStartResult)
  | changePin (id : QString)
  | activate (id : QString)
  | activateSigningKey (id : QString)
  | requestUnblock (id : QString)
  | confirmUnblock (id : QString)

/-- The controller's answer to an event.  `AgentCard::changed` reaches it from the bound
card alone. -/
def step (h : Host) (s : Controller) : Event → Controller
  | .registry r => s.setRegistry r
  | .refresh => s.refresh h
  | .cardChanged c => if s.card = some c then s.classify else s
  | .finished i t => s.finished h i t
  | .bindReader id => s.bindReader h id
  | .cancel => s.cancel
  | .startAgent => s.startAgent h
  | .agentStartFinished _ => s.onAgentStartFinished h
  | .changePin id => s.changePin id
  | .activate id => s.activate id
  | .activateSigningKey id => s.activateSigningKey id
  | .requestUnblock id => s.requestUnblock h id
  | .confirmUnblock id => s.confirmUnblock id

/-- An operation has one terminal, and none once it is destroyed.  Everything else may
happen at any time. -/
def allows (s : Controller) : Event → Prop
  | .finished i _ =>
      i < s.client.minted ∧ (s.client.ops i).destroyed = false ∧
        (s.client.ops i).ended = none
  | _ => True

instance (s : Controller) : (e : Event) → Decidable (allows s e)
  | .finished i _ => inferInstanceAs (Decidable (i < s.client.minted ∧
      (s.client.ops i).destroyed = false ∧ (s.client.ops i).ended = none))
  | .registry _ | .refresh | .cardChanged _ | .bindReader _ | .cancel | .startAgent
  | .agentStartFinished _ | .changePin _ | .activate _ | .activateSigningKey _
  | .requestUnblock _ | .confirmUnblock _ => isTrue trivial

/-- A freshly constructed controller, over whatever client it was handed. -/
structure Start (s : Controller) : Prop where
  card : s.card = none
  listOp : s.listOp = none
  mutationOp : s.mutationOp = none
  model : s.model = []
  state : s.state = .noCard
  /-- The controller has minted nothing yet. -/
  minted : s.client.minted = 0

/-- A controller over a client that has not heard of the agent yet. -/
def Controller.new : Controller where
  client := { registry := .blank }

lemma start_new : Start .new := ⟨rfl, rfl, rfl, rfl, rfl, rfl⟩

/-- The controller in its environment. -/
def machine (h : Host) : Reactive.Machine Controller Event where
  start := Start
  allows := allows
  step := step h

instance (h : Host) (s : Controller) (e : Event) : Decidable ((machine h).allows s e) :=
  inferInstanceAs (Decidable (allows s e))

end LibreKDE.Credentials
