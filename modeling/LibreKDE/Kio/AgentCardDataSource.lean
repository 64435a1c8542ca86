import LibreKDE.Kio.CardDataSource
import LibreKDE.Plasmoid.IdentityModel
import Mathlib.Data.List.Induction

/-!
# The reads, over the agent's client

Each of the worker's four reads mints an operation and waits for it in a loop of its own.  The
three card reads wait for a child of the card: when the card goes, the client ends the operation
and deletes it, and the read finds its guard empty.  The export of a certificate waits for a child
of the client, which outlives the card, and watches the card itself.

`Call.classified` is how an ending is meant to be told: `mapStatus` of the terminal, or
`CardRemoved` of a card that was pulled.  `reads_agree_iff` says for which endings all four reads
tell it so.  The export goes by a classification of its own.
-/

namespace LibreKDE.Kio.AgentCardDataSource

/-! ## Statuses and reasons -/

/-- A terminal outcome as a `ReadStatus`.  A failure carries its reason on one of two axes: the
agent's own answer or, where the call never got one, the transport's, which is looked at where
the first does not decide. -/
def mapStatus (status : OperationStatus) (code : ErrorCode) (call : CallError) : ReadStatus :=
  if status = .ok then .ok
  -- A cancel with a transport reason is the sweep of a lost agent, not the user's.
  else if status = .cancelled ∧ call = .none then .cancelled
  else match code with
    | .credentialWrong | .credentialBlocked | .authFailed => .authFailed
    | .cardRemoved => .cardRemoved
    | .capabilityMissing | .unsupportedCard => .capabilityMissing
    | _ => match call with
      | .agentUnavailable | .timeout => .unavailable
      | .accessDenied => .authFailed
      | .invalidArguments => .capabilityMissing
      | .transportFailure | .protocolError | .none => .error

/-- The localized reason to carry beside a status.  Only the two statuses whose copy in the worker
is generic take one; a cancel gets none, since the user knows about it. -/
def reasonFor (h : Host) (status : ReadStatus) (t : Terminal) : QString :=
  if status ≠ .error ∧ status ≠ .unavailable then []
  else ErrorText.forOutcome h t.errorCode t.callError t.messageKey t.messageFallback

/-! ## The wait -/

/-- What an operation is a child of, and so what it is destroyed with. -/
inductive Owner
  | card | client
  deriving DecidableEq, Repr

/-- What the loop of a wait dispatches. -/
inductive LoopEvent
  /-- The operation has its terminal, from the agent or from the library's stall bound. -/
  | finished (t : Terminal)
  /-- The client drops the card, and says so. -/
  | cardRemoved
  /-- It says something else of a card. -/
  | cardChanged (objectId : QString)
  deriving DecidableEq

/-- What the exits of a wait can see and set: the guarded pointer to the operation, its terminal,
the card as the client's registry has it, and whether the loop was told to quit. -/
structure LoopState where
  /-- The operation exists. -/
  guard : Bool := true
  terminal : Option Terminal := none
  /-- The client has the card. -/
  present : Bool := true
  cardGone : Bool := false
  quit : Bool := false

/-- The export's own exit: a change of its card is looked at, and ends the wait once the client does
not have the card any more. -/
def LoopState.watchCard (s : LoopState) (cardId objectId : QString) : LoopState :=
  if objectId = cardId ∧ s.present = false then { s with cardGone := true, quit := true } else s

/-- One signal delivered to the loop.  An operation that is a child of the card is ended and deleted
with it; one that is a child of the client survives, and its card is watched instead. -/
def step (owner : Owner) (cardId : QString) (s : LoopState) : LoopEvent → LoopState
  | .finished t =>
      if s.guard ∧ s.terminal = none then { s with terminal := some t, quit := true } else s
  | .cardRemoved =>
      match owner with
      -- The sweep ends the operation, which quits the loop, and deletes it with the card.
      | .card => { s with guard := false, present := false, quit := true }
      | .client => LoopState.watchCard { s with present := false } cardId cardId
  | .cardChanged objectId =>
      match owner with
      | .card => s
      | .client => s.watchCard cardId objectId

/-- What the client makes of one read: whether it knows the card, how the operation comes back, and
what happens while it is waited for. -/
structure Call where
  /-- It has the card. -/
  known : Bool := true
  /-- The operation comes back finished already. -/
  minted : Option Terminal := none
  /-- What the loop dispatches before it returns, which may be more than what quits it. -/
  events : List LoopEvent := []
  /-- The operation's `certificateDerResult`. -/
  der : QByteArray := []

/-- The state in which the wait is over, if it ever is.  An operation that comes back finished is
not waited for; otherwise everything the loop dispatches counts until it has been told to quit. -/
def driveToFinished (owner : Owner) (cardId : QString) (c : Call) : Option LoopState :=
  match c.minted with
  | some t => some { terminal := some t }
  | none =>
      let s := c.events.foldl (step owner cardId) {}
      if s.quit then some s else none

/-! ## The reads -/

section Reads

variable (h : Host) (r : Plasmoid.IdentityRules) (cardId : QString)

/-- A read of a child of the card: `early` is what a read without an operation answers, be it that
the card is unknown or that the operation went with it, and `finish` what is made of a terminal. -/
def cardRead {α : Type} (early : ReadStatus → α) (finish : Terminal → α) (c : Call) : Option α :=
  if c.known then
    (driveToFinished .card cardId c).bind fun s =>
      if s.guard then s.terminal.map finish else some (early .cardRemoved)
  else some (early .unavailable)

/-- The rows are assembled by the shared rules, the hidden ones dropped, and each is given its
localized label and value, as the applet shows them. -/
def readIdentity : Call → Option IdentityResult :=
  cardRead cardId (fun status => { status }) fun t =>
    let status := mapStatus t.status t.errorCode t.callError
    if status ≠ .ok then { status, message := reasonFor h status t }
    else
      { status
        fields := ((r.identityRows t.identityResult).filter
            fun row => ¬ Plasmoid.isHiddenIdentityRow row).map fun row =>
          { group := row.groupKey
            fieldKey := row.fieldKey
            labelFallback := Plasmoid.localizedFieldLabel r row
            value := r.localizedFieldValue row } }

/-- The certificate list as the agent has it; `buildCertFolders` decides later which of them get a
folder. -/
def readCertificates : Call → Option CertListResult :=
  cardRead cardId (fun status => { status }) fun t =>
    let status := mapStatus t.status t.errorCode t.callError
    if status ≠ .ok then { status, message := reasonFor h status t }
    else { status, certs := t.certificatesResult }

/-- The first photo of the answer, whichever that is: a card with several exposes the one its
transport put first.  Without a photo, or with an empty one, there is nothing at that address. -/
def getPhoto : Call → Option PhotoResult :=
  cardRead cardId (fun status => { status }) fun t =>
    let status := mapStatus t.status t.errorCode t.callError
    if status ≠ .ok then { status, message := reasonFor h status t }
    else match t.photos with
      | [] => { status := .notAvailable }
      | photo :: _ => match photo.payload with
        -- A descriptor that cannot be read says nothing of whether there is a photo.
        | none => { status := .error, message := ErrorText.forCode h .communicationError [] }
        | some [] => { status := .notAvailable }
        | some (byte :: bytes) => { status, bytes := byte :: bytes }

/-- What the export makes of its wait: the named errors first, since only they tell a missing
certificate from a failed fetch.  It does not go through `mapStatus`. -/
def exported (c : Call) (s : LoopState) : CertDerResult :=
  if s.guard = false then { status := .unavailable }
  else if s.cardGone then { status := .cardRemoved }
  else match s.terminal with
    | none => { status := .unavailable }
    | some t =>
        if t.status = .ok then { status := .ok, der := c.der }
        else if t.syncError = some .keyNotFound ∨ t.syncError = some .unknownCard then
          { status := .notAvailable }
        else
          let status : ReadStatus :=
            if t.callError = .agentUnavailable then .unavailable else .error
          { status, message := reasonFor h status t }

/-- The export, which takes no prompt and no lease.  Its operation belongs to the client, so the
sweep of a pulled card does not end it. -/
def getCertificateDer (c : Call) : Option CertDerResult :=
  if c.known then (driveToFinished .client cardId c).map (exported h c)
  else some { status := .unavailable }

end Reads

/-! ## How a wait ends -/

namespace Call

variable (c : Call)

/-- The card is pulled before the wait is over. -/
def Pulled : Prop := c.minted = none ∧ .cardRemoved ∈ c.events

instance : Decidable c.Pulled := by unfold Pulled; infer_instance

/-- The terminal a dispatched event carries, if it is one. -/
def terminalOf : LoopEvent → Option Terminal
  | .finished t => some t
  | _ => none

/-- The terminal the operation has. -/
def terminal : Option Terminal := c.minted <|> c.events.findSome? terminalOf

/-- How the ending is meant to be told: the card is unknown, it was pulled, or the terminal is
classified by both of its axes.  No answer is meant while the operation has no terminal. -/
def classified : Option ReadStatus :=
  if c.known = false then some .unavailable
  else if c.Pulled then some .cardRemoved
  else c.terminal.map fun t => mapStatus t.status t.errorCode t.callError

end Call

variable {h : Host} {r : Plasmoid.IdentityRules} {cardId : QString}

lemma findSome_concat (events : List LoopEvent) (e : LoopEvent) :
    (events ++ [e]).findSome? Call.terminalOf =
      (events.findSome? Call.terminalOf).or (Call.terminalOf e) := by
  rw [List.findSome?_append, List.findSome?_singleton]

/-- What the loop of a card read leaves: the operation with its first terminal, as long as the card
is there. -/
lemma foldl_card (cardId : QString) (events : List LoopEvent) :
    (events.foldl (step .card cardId) {}).guard = decide (.cardRemoved ∉ events) ∧
      (.cardRemoved ∉ events → (events.foldl (step .card cardId) {}).terminal =
        events.findSome? Call.terminalOf) ∧
      ((events.foldl (step .card cardId) {}).quit = true ↔
        .cardRemoved ∈ events ∨ (events.findSome? Call.terminalOf).isSome) := by
  induction events using List.reverseRecOn with
  | nil => simp
  | append_singleton events e ih =>
      obtain ⟨hguard, hterminal, hquit⟩ := ih
      rw [List.foldl_append, List.foldl_cons, List.foldl_nil, findSome_concat]
      generalize events.foldl (step .card cardId) {} = s at hguard hterminal hquit ⊢
      cases e with
      | finished t =>
          -- A terminal behind the removal is not looked at any more; before it, the first one
          -- counts.
          by_cases hgone : LoopEvent.cardRemoved ∈ events
          · simp [step, hguard, hgone, hquit]
          · have hfirst := hterminal hgone
            cases hfound : events.findSome? Call.terminalOf with
            | none => simp [step, hguard, hgone, hfirst, hfound, Call.terminalOf]
            | some t' => simp [step, hguard, hgone, hfirst, hfound, hquit]
      | cardRemoved => simp [step]
      | cardChanged objectId =>
          have hmem : LoopEvent.cardRemoved ∈ events ++ [.cardChanged objectId] ↔
              LoopEvent.cardRemoved ∈ events := by simp
          simp only [step, Call.terminalOf, Option.or_none, hmem]
          exact ⟨hguard, hterminal, hquit⟩

/-- What the loop of an export leaves: the operation with its first terminal, and whether the card
has gone. -/
lemma foldl_client (cardId : QString) (events : List LoopEvent) :
    (events.foldl (step .client cardId) {}).guard = true ∧
      (events.foldl (step .client cardId) {}).present = decide (.cardRemoved ∉ events) ∧
      (events.foldl (step .client cardId) {}).cardGone = decide (.cardRemoved ∈ events) ∧
      (events.foldl (step .client cardId) {}).terminal = events.findSome? Call.terminalOf ∧
      ((events.foldl (step .client cardId) {}).quit = true ↔
        .cardRemoved ∈ events ∨ (events.findSome? Call.terminalOf).isSome) := by
  induction events using List.reverseRecOn with
  | nil => simp
  | append_singleton events e ih =>
      obtain ⟨hguard, hpresent, hgone, hterminal, hquit⟩ := ih
      rw [List.foldl_append, List.foldl_cons, List.foldl_nil, findSome_concat]
      generalize events.foldl (step .client cardId) {} = s
        at hguard hpresent hgone hterminal hquit ⊢
      cases e with
      | finished t =>
          cases hfound : events.findSome? Call.terminalOf with
          | none => simp [step, hguard, hpresent, hgone, hterminal, hfound, Call.terminalOf]
          | some t' => simp [step, hguard, hpresent, hgone, hterminal, hfound, hquit]
      | cardRemoved => simp [step, LoopState.watchCard, hguard, hterminal, Call.terminalOf]
      | cardChanged objectId =>
          -- Of the card itself only its removal is announced while it is away.
          by_cases hself : objectId = cardId ∧ LoopEvent.cardRemoved ∈ events
          · simp [step, LoopState.watchCard, hself, hguard, hpresent, hterminal, Call.terminalOf]
          · have hstay : step .client cardId s (.cardChanged objectId) = s := by
              apply if_neg
              simpa [hpresent] using hself
            have hmem : LoopEvent.cardRemoved ∈ events ++ [.cardChanged objectId] ↔
                LoopEvent.cardRemoved ∈ events := by simp
            simp only [hstay, Call.terminalOf, Option.or_none, hmem]
            exact ⟨hguard, hpresent, hgone, hterminal, hquit⟩

/-! ## What the reads answer -/

/-- A card read answers by the terminal, unless the card was pulled. -/
lemma cardRead_eq {α : Type} (early : ReadStatus → α) (finish : Terminal → α) (c : Call) :
    cardRead cardId early finish c =
      if c.known = false then some (early .unavailable)
      else if c.Pulled then some (early .cardRemoved)
      else c.terminal.map finish := by
  cases hknown : c.known with
  | false => simp [cardRead, hknown]
  | true =>
      cases hminted : c.minted with
      | some t => simp [cardRead, hknown, driveToFinished, hminted, Call.Pulled, Call.terminal]
      | none =>
          obtain ⟨hguard, hterminal, hquit⟩ := foldl_card cardId c.events
          by_cases hgone : LoopEvent.cardRemoved ∈ c.events
          · simp [cardRead, hknown, driveToFinished, hminted, Call.Pulled, hguard, hquit, hgone]
          · have hfirst := hterminal hgone
            cases hfound : c.events.findSome? Call.terminalOf <;>
              simp [cardRead, hknown, driveToFinished, hminted, Call.Pulled, Call.terminal, hguard,
                hquit, hgone, hfirst, hfound]

/-- The status the export gives a terminal, by its named errors and one axis of the two. -/
def exportStatus (t : Terminal) : ReadStatus :=
  if t.status = .ok then .ok
  else if t.syncError = some .keyNotFound ∨ t.syncError = some .unknownCard then .notAvailable
  else if t.callError = .agentUnavailable then .unavailable
  else .error

lemma exported_status {c : Call} {s : LoopState} (hguard : s.guard = true) :
    (exported h c s).status =
      if s.cardGone then .cardRemoved else (s.terminal.map exportStatus).getD .unavailable := by
  unfold exported exportStatus
  cases s.terminal <;> simp only [hguard] <;> split_ifs <;> simp_all

lemma getCertificateDer_status (c : Call) :
    (getCertificateDer h cardId c).map CertDerResult.status =
      if c.known = false then some .unavailable
      else if c.Pulled then some .cardRemoved
      else c.terminal.map exportStatus := by
  cases hknown : c.known with
  | false => simp [getCertificateDer, hknown]
  | true =>
      cases hminted : c.minted with
      | some t =>
          simp [getCertificateDer, hknown, driveToFinished, hminted, Call.Pulled, Call.terminal,
            exported_status]
      | none =>
          obtain ⟨hguard, -, hgone, hterminal, hquit⟩ := foldl_client cardId c.events
          by_cases hremoved : LoopEvent.cardRemoved ∈ c.events
          · simp [getCertificateDer, hknown, driveToFinished, hminted, Call.Pulled, hquit,
              exported_status hguard, hgone, hremoved]
          · cases hfound : c.events.findSome? Call.terminalOf <;>
              simp [getCertificateDer, hknown, driveToFinished, hminted, Call.Pulled, Call.terminal,
                hquit, exported_status hguard, hgone, hremoved, hterminal, hfound]

/-! ## The endings that all four tell the same way -/

/-- The first photo has something in it, so that the photo read has something to answer with. -/
def PhotoHeld (t : Terminal) : Prop :=
  ∃ byte bytes rest, t.photos = ⟨some (byte :: bytes)⟩ :: rest

/-- The codes that the card reads have a status of their own for. -/
def toldCodes : List ErrorCode :=
  [.credentialWrong, .credentialBlocked, .authFailed, .cardRemoved, .capabilityMissing,
    .unsupportedCard]

/-- The call failures that the export takes for an error of the read. -/
def untoldCalls : List CallError := [.timeout, .accessDenied, .invalidArguments]

/-- The export classifies a failure as the card reads do. -/
structure FailureAgrees (t : Terminal) : Prop where
  unnamed : t.syncError ≠ some .keyNotFound ∧ t.syncError ≠ some .unknownCard
  uncancelled : ¬ (t.status = .cancelled ∧ t.callError = .none)
  code : t.errorCode ∉ toldCodes
  call : t.callError ∉ untoldCalls

/-- All four reads tell of the terminal what is told of it. -/
def ToldByAll (t : Terminal) : Prop := if t.status = .ok then PhotoHeld t else FailureAgrees t

/-- Each read answers as the ending is classified. -/
structure ReadsAgree (h : Host) (r : Plasmoid.IdentityRules) (cardId : QString) (c : Call) :
    Prop where
  identity : (readIdentity h r cardId c).map IdentityResult.status = c.classified
  certificates : (readCertificates h cardId c).map CertListResult.status = c.classified
  photo : (getPhoto h cardId c).map PhotoResult.status = c.classified
  exported : (getCertificateDer h cardId c).map CertDerResult.status = c.classified

lemma cardRead_status {α : Type} {early : ReadStatus → α} {finish : Terminal → α}
    {status : α → ReadStatus} (hearly : ∀ x, status (early x) = x) (c : Call) :
    (cardRead cardId early finish c).map status =
      if c.known = false then some .unavailable
      else if c.Pulled then some .cardRemoved
      else c.terminal.map fun t => status (finish t) := by
  rw [cardRead_eq]
  split_ifs <;> simp [hearly, Function.comp_def]

/-- A card read whose terminal is told by `mapStatus` tells every ending as it is meant to be. -/
lemma cardRead_classified {α : Type} {early : ReadStatus → α} {finish : Terminal → α}
    {status : α → ReadStatus} (hearly : ∀ x, status (early x) = x)
    (hfinish : ∀ t, status (finish t) = mapStatus t.status t.errorCode t.callError) (c : Call) :
    (cardRead cardId early finish c).map status = c.classified := by
  rw [cardRead_status hearly, Call.classified]
  simp only [hfinish]

lemma readIdentity_status (c : Call) :
    (readIdentity h r cardId c).map IdentityResult.status = c.classified := by
  apply cardRead_classified fun _ => rfl
  intro t
  dsimp only
  split_ifs <;> rfl

lemma readCertificates_status (c : Call) :
    (readCertificates h cardId c).map CertListResult.status = c.classified := by
  apply cardRead_classified fun _ => rfl
  intro t
  dsimp only
  split_ifs <;> rfl

lemma mapStatus_eq_ok {status : OperationStatus} (code : ErrorCode) (call : CallError) :
    mapStatus status code call = .ok ↔ status = .ok := by
  unfold mapStatus
  cases status <;> cases code <;> cases call <;> simp

/-- The status of a photo read that has a terminal. -/
def photoStatus (t : Terminal) : ReadStatus :=
  if t.status = .ok then
    match t.photos with
    | [] => .notAvailable
    | photo :: _ => match photo.payload with
      | none => .error
      | some [] => .notAvailable
      | some (_ :: _) => .ok
  else mapStatus t.status t.errorCode t.callError

lemma getPhoto_status (c : Call) :
    (getPhoto h cardId c).map PhotoResult.status =
      if c.known = false then some .unavailable
      else if c.Pulled then some .cardRemoved
      else c.terminal.map photoStatus := by
  rw [getPhoto, cardRead_status fun _ => rfl]
  congr 3
  funext t
  by_cases hok : t.status = .ok
  · have hmap := (mapStatus_eq_ok t.errorCode t.callError).mpr hok
    rw [photoStatus, if_pos hok]
    simp only [hmap, ne_eq, not_true_eq_false, if_false]
    rcases t.photos with _ | ⟨⟨_ | _ | ⟨byte, bytes⟩⟩, rest⟩ <;> rfl
  · have hmap := (mapStatus_eq_ok t.errorCode t.callError).not.mpr hok
    rw [photoStatus, if_neg hok]
    simp only [ne_eq, hmap, not_false_eq_true, if_true]

lemma photoStatus_eq {t : Terminal} :
    photoStatus t = mapStatus t.status t.errorCode t.callError ↔
      (t.status = .ok → PhotoHeld t) := by
  by_cases hok : t.status = .ok
  · have hmap := (mapStatus_eq_ok t.errorCode t.callError).mpr hok
    rw [hmap, photoStatus, if_pos hok]
    simp only [hok, true_imp_iff, PhotoHeld]
    rcases t.photos with _ | ⟨⟨_ | _ | ⟨byte, bytes⟩⟩, rest⟩ <;> simp
  · simp [photoStatus, hok]

lemma exportStatus_eq {t : Terminal} :
    exportStatus t = mapStatus t.status t.errorCode t.callError ↔
      (t.status ≠ .ok → FailureAgrees t) := by
  have hagrees : FailureAgrees t ↔
      (t.syncError ≠ some .keyNotFound ∧ t.syncError ≠ some .unknownCard) ∧
        ¬ (t.status = .cancelled ∧ t.callError = .none) ∧ t.errorCode ∉ toldCodes ∧
        t.callError ∉ untoldCalls :=
    ⟨fun h => ⟨h.unnamed, h.uncancelled, h.code, h.call⟩, fun h => ⟨h.1, h.2.1, h.2.2.1, h.2.2.2⟩⟩
  rw [hagrees]
  by_cases hok : t.status = .ok
  · simp [exportStatus, mapStatus, hok]
  · unfold exportStatus mapStatus
    rw [if_neg hok, if_neg hok]
    -- The export reads an error the service raised at once before anything else; a card read has
    -- none.
    by_cases hnamed : t.syncError = some .keyNotFound ∨ t.syncError = some .unknownCard
    · rw [if_pos hnamed]
      have hnot : ¬ (t.syncError ≠ some .keyNotFound ∧ t.syncError ≠ some .unknownCard) := by
        rw [not_and_or, not_not, not_not]
        exact hnamed
      simp only [hnot, hok, false_and, ne_eq, not_false_eq_true, true_imp_iff, iff_false]
      split_ifs
      · simp
      · cases t.errorCode <;> cases t.callError <;> simp
    · rw [if_neg hnamed]
      have hunnamed : t.syncError ≠ some .keyNotFound ∧ t.syncError ≠ some .unknownCard :=
        not_or.mp hnamed
      simp only [hunnamed, hok, true_and, ne_eq, not_false_eq_true, true_imp_iff]
      by_cases hcancel : t.status = .cancelled ∧ t.callError = .none
      · simp [hcancel]
      · rw [if_neg hcancel]
        simp only [hcancel, not_false_eq_true, true_and, toldCodes, untoldCalls]
        cases t.errorCode <;> cases t.callError <;> simp

/-- The four reads tell a wait's ending the same way exactly if the card was pulled, or the read is
of no card, or the terminal is one the export and the photo read have nothing of their own for. -/
theorem reads_agree_iff (h : Host) (r : Plasmoid.IdentityRules) (cardId : QString) (c : Call) :
    ReadsAgree h r cardId c ↔ c.known = false ∨ c.Pulled ∨ ∀ t ∈ c.terminal, ToldByAll t := by
  have hsame : ReadsAgree h r cardId c ↔
      (getPhoto h cardId c).map PhotoResult.status = c.classified ∧
        (getCertificateDer h cardId c).map CertDerResult.status = c.classified :=
    ⟨fun hagree => ⟨hagree.photo, hagree.exported⟩,
      fun hrest => ⟨readIdentity_status c, readCertificates_status c, hrest.1, hrest.2⟩⟩
  rw [hsame, getPhoto_status, getCertificateDer_status, Call.classified]
  by_cases hknown : c.known = false
  · simp [hknown]
  · by_cases hpulled : c.Pulled
    · simp [hpulled]
    · cases hterminal : c.terminal with
      | none => simp [hknown, hpulled]
      | some t =>
          have htold : ToldByAll t ↔ (t.status = .ok → PhotoHeld t) ∧
              (t.status ≠ .ok → FailureAgrees t) := by
            by_cases hok : t.status = .ok <;> simp [ToldByAll, hok]
          simp only [hknown, hpulled, reduceCtorEq, if_false, false_or, Option.map_some,
            Option.some.injEq, Option.mem_some_iff, forall_eq', htold, photoStatus_eq,
            exportStatus_eq]

/-- The agent goes silent, and the library's stall bound ends the operation. -/
def stalled : Call where
  events := [.finished { status := .error, callError := .timeout }]

/-- A stall reads as an agent that does not answer, and exports as a read error. -/
theorem stalled_export :
    (readCertificates .plain (qs "c1") stalled).map CertListResult.status = some .unavailable ∧
      (getCertificateDer .plain (qs "c1") stalled).map CertDerResult.status = some .error ∧
      ¬ ReadsAgree .plain .plain (qs "c1") stalled := by
  have hcertificates :
      (readCertificates .plain (qs "c1") stalled).map CertListResult.status =
        some .unavailable := by
    decide
  have hexport :
      (getCertificateDer .plain (qs "c1") stalled).map CertDerResult.status = some .error := by
    decide
  refine ⟨hcertificates, hexport, fun hagree => ?_⟩
  have hsame := hagree.exported.trans hagree.certificates.symm
  rw [hcertificates, hexport] at hsame
  exact absurd (Option.some.inj hsame) (by decide)

end LibreKDE.Kio.AgentCardDataSource
