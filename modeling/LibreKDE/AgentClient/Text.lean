import LibreKDE.AgentClient.Client

/-!
# The hosts' localized copy

The client library never translates: it ships vocabularies and failure classifications, and
the sentences a reader sees are composed here, once for every host.

`ErrorText.forOutcome` phrases a failed operation.  Which part of the failure report a user
reads is decided by the client library (`describeFailure`, a function of the library and so
a field of `Host`), and this file keeps only the sentences.  `CredentialText.outcomeMessage`
phrases what a PIN verb did, attributed to the credential it presented.
-/

namespace LibreKDE

/-- Which part of a failure report the client library says to show. -/
inductive FailureSource
  | messageKey | errorCode | agentMessage | transport | generic
  deriving DecidableEq, Repr

/-- The client library's reading of a failure report. -/
structure FailureCopy where
  source : FailureSource
  messageKey : QString := []
  errorCode : ErrorCode := .none
  callError : CallError := .none
  detail : QString := []

/-- What the hosts' copy draws on from outside this repository. -/
structure Host where
  /-- The session's language. -/
  locale : Locale
  /-- The client library's `describeFailure`. -/
  describeFailure : ErrorCode → CallError → QString → QString → FailureCopy

/-- A session without a catalogue, over a client library that classifies nothing. -/
def Host.plain : Host where
  locale := .untranslated
  describeFailure _ _ _ _ := { source := .generic }

/-! ## Failures -/

namespace ErrorText

variable (h : Host)

/-- The floor of the resolution order. -/
def genericFailure : QString :=
  ki18ndc h.locale (qs "@info:status the operation failed without reporting any reason")
    (qs "The operation did not finish, and no reason was reported.") []

/-- Copy for a transport-level call failure. -/
def forCallError : CallError → QString
  | .agentUnavailable => ki18ndc h.locale
      (qs "@info:status the smart-card service could not be reached at all")
      (qs "Could not reach the smart-card service. Check that it is installed and running.") []
  | .timeout => ki18ndc h.locale
      (qs "@info:status the smart-card service did not answer in time")
      (qs "The smart-card service did not answer in time. Try again.") []
  | .accessDenied => ki18ndc h.locale
      (qs "@info:status the system denied this application access to the smart-card service")
      (qs "Permission to use the smart-card service was denied.") []
  | .invalidArguments => ki18ndc h.locale
      (qs ("@info:status the request was rejected before any work on it started; do not name " ++
        "who rejected it, it may be this application, the smart-card service, or the message bus"))
      (qs "This request was refused before any work on it started.") []
  | .transportFailure => ki18ndc h.locale
      (qs "@info:status the connection to the smart-card service broke during the request")
      (qs "The connection to the smart-card service was lost. Try again.") []
  | .protocolError => ki18ndc h.locale
      (qs "@info:status the smart-card service's reply could not be understood")
      (qs ("The smart-card service replied in a way this application does not understand. " ++
        "The two may be different versions.")) []
  | .none => genericFailure h

/-- The message id of a code this client names, `none` for one it does not. -/
def codeMsgid : ErrorCode → Option String
  | .cardRemoved => "The card was removed before the operation finished."
  | .credentialWrong => "The PIN or access code entered was incorrect."
  | .credentialBlocked => "The card credential is blocked. Unblock it before retrying."
  | .communicationError => "Communication with the card reader failed."
  | .parseError => "The data read from the card could not be interpreted."
  | .unsupportedCard => "This card is not supported."
  | .authFailed => "Authentication with the card failed."
  | .prompterError => "The secure entry prompt could not be shown."
  | .capabilityMissing => "This card does not support the requested operation."
  | .watchdogTimeout => "The operation timed out."
  | .keyNotFound => "The selected certificate could not be found on the card."
  | .keyAmbiguous => "More than one key matched the selection."
  | .certExpiredBlocked => "The signing certificate has expired."
  | .chainIncomplete => "The certificate chain could not be completed."
  | .tsaUnreachable => "The timestamp authority is unreachable."
  | .signingEngineError => "The signing engine reported an error."
  | .invalidDocument =>
      "The document you tried to sign is invalid or could not be read. Check the file."
  | .entryExpired => "The entry window closed before a code was entered. Try again."
  | .engineUnavailable =>
      "The signing service is not set up correctly — its security module could not be " ++
        "loaded. Check the installation."
  | .rateLimited => "Too many signing requests. Try again shortly."
  | .none | .other _ => none

/-- This client's own decision for a code, when it names the code at all. -/
def localizedCopyFor (code : ErrorCode) : Option QString :=
  (codeMsgid code).map fun msgid => ki18nd h.locale (qs msgid) []

/-- Copy for one of the agent's message keys.  Three keys name exactly the failure a code of
their own names, and share that code's sentence. -/
def forMessageKey (key : QString) : QString :=
  if key = qs "op.cancelled" then
    ki18ndc h.locale (qs "@info:status the operation was cancelled")
      (qs "The operation was cancelled.") []
  else if key = qs "op.helper_too_old" then
    ki18ndc h.locale
      (qs "@info:status the installed PIN entry helper is older than the smart-card service")
      (qs "The secure entry prompt is out of date. Update the smart-card service.") []
  else if key = qs "op.card_removed" then
    (localizedCopyFor h .cardRemoved).getD []
  else if key = qs "op.entry_expired" then
    (localizedCopyFor h .entryExpired).getD []
  else if key = qs "op.watchdog_timeout" then
    (localizedCopyFor h .watchdogTimeout).getD []
  else
    genericFailure h

/-- The localized copy of a code, or the agent's own line. -/
def forCode (code : ErrorCode) (msgFallback : QString) : QString :=
  (localizedCopyFor h code).getD msgFallback

/-- The copy of a failed operation, from both of its failure axes. -/
def forOutcome (code : ErrorCode) (call : CallError) (messageKey msgFallback : QString) :
    QString :=
  let copy := h.describeFailure code call messageKey msgFallback
  match copy.source with
  | .messageKey => forMessageKey h copy.messageKey
  | .errorCode =>
      let headline := (localizedCopyFor h copy.errorCode).getD (genericFailure h)
      if copy.detail = [] ∨ copy.detail = headline then headline
      else headline ++ [qc '\n'] ++ copy.detail
  | .agentMessage => copy.detail
  | .transport => forCallError h copy.callError
  | .generic => genericFailure h

end ErrorText

/-! ## Credentials -/

namespace CredentialText

variable (h : Host)

/-- A credential's kind, in the words a user knows it by. -/
def kindName (kind : CredentialKind) : QString :=
  let name := match kind with
    | .user => "User PIN"
    | .sign => "Signing PIN"
    | .puk => "PUK"
    | .can => "CAN"
    | .unknown => "Credential"
  ki18ndc h.locale (qs "credential kind") (qs name) []

/-- There is no failure to report: it went well, or the user stopped it. -/
def isNeutral (o : CredentialOutcome) : Bool := o = .ok ∨ o = .userCancelled

/-- What a PIN verb did, attributed to the credential it presented. -/
def outcomeMessage (o : CredentialOutcome) (presented : CredentialKind)
    (retriesLeft : Option ℤ) : QString :=
  let who := kindName h presented
  match o with
  | .ok => ki18nd h.locale (qs "Done.") []
  | .userCancelled => []
  | .invalidPin =>
      match retriesLeft with
      | some n =>
          ki18ndcp h.locale (qs "%1 is the credential name, %2 the remaining attempts")
            (qs "The %1 was not correct — %2 attempt left.")
            (qs "The %1 was not correct — %2 attempts left.") n [who, h.locale.number n]
      | none => ki18nd h.locale (qs "The %1 was not correct.") [who]
  | .blocked => ki18nd h.locale (qs "The %1 is now blocked.") [who]
  | .missingFields => ki18nd h.locale (qs "A required value was not entered.") []
  | .keyActivationFailed => ki18nd h.locale
      (qs "The PIN was set, but activating the signing key failed.") []
  | .unsupported => ki18nd h.locale (qs "This action isn't available on this card.") []
  | .cardRemoved => ki18nd h.locale
      (qs "The card was removed before the operation finished.") []
  | .entryExpired => ki18nd h.locale
      (qs "The entry window closed before a code was entered. Try again.") []
  | .pluginError => ki18nd h.locale (qs "The card reported an error.") []
  | .unspecified => ki18nd h.locale (qs "The operation did not complete.") []

end CredentialText

/-! ## Readers -/

namespace Readers

/-- The first reader, in the client's order, holding a resolvable card. -/
def firstReaderWithCard (r : Registry) : Option AgentReader :=
  r.readers.find? fun x => x.card.isSome

/-- The label a reader is shown under: its model, with the interface said in the holder's
language. -/
def readerLabel (h : Host) (x : AgentReader) : QString :=
  match x.interface with
  | .contact => ki18ndc h.locale (qs "@item reader label: <model> on the contact interface")
      (qs "%1 — contact") [x.model]
  | .contactless => ki18ndc h.locale
      (qs "@item reader label: <model> on the contactless interface")
      (qs "%1 — contactless") [x.model]
  | .unknown => x.model

lemma mem_of_firstReaderWithCard {r : Registry} {x : AgentReader}
    (h : firstReaderWithCard r = some x) : x ∈ r.readers :=
  List.mem_of_find?_eq_some h

end Readers

end LibreKDE
