import LibreKDE.Qt.Text

/-!
# The client library's vocabulary

The value types the agent client library hands its hosts: how an operation ended and why,
what a card says about itself, and the typed results an operation carries.  They are plain
data.  Every enumeration is closed except `ErrorCode` and `SyncError`, which the library
decodes *verbatim* where the agent is newer than this build; their `other` constructor
stands for every such value.

A `Terminal` collects everything a slot may poll off an operation once it has finished.
Which of its fields mean anything depends on the operation and on how it ended, and the
hosts of this development never assume more than they check, so no consistency between the
fields is built into the type.
-/

namespace LibreKDE

/-! ## How an operation ends -/

/-- The terminal status of an operation: it went through, it failed, or it was cancelled, be that by
the user or by a sweep of the client. -/
inductive OperationStatus
  | ok | cancelled | error
  deriving DecidableEq, Repr

/-- The phase of an operation still running, as the agent reports it. -/
inductive OperationPhase
  | created | connecting | authenticating | reading | awaitingConsent | signing
  | timestamping | done
  deriving DecidableEq, Repr

/-- The agent's error taxonomy: wire-frozen and append-only. -/
inductive ErrorCode
  | none | cardRemoved | credentialWrong | credentialBlocked | communicationError
  | parseError | unsupportedCard | authFailed | prompterError | capabilityMissing
  | watchdogTimeout | keyNotFound | keyAmbiguous | certExpiredBlocked | chainIncomplete
  | tsaUnreachable | signingEngineError | invalidDocument | entryExpired
  | engineUnavailable | rateLimited
  /-- A code this build has no name for. -/
  | other (n : ℕ)
  deriving DecidableEq, Repr

/-- Why a call got no answer from the agent. -/
inductive CallError
  | none | agentUnavailable | timeout | accessDenied | invalidArguments
  | transportFailure | protocolError
  deriving DecidableEq, Repr

/-- The name the agent refused a call under, at method entry. -/
inductive SyncError
  | unknownCredential | rateLimited | invalidRequest | unknownCard | keyNotFound
  /-- Any other name of the wire vocabulary. -/
  | other (n : ℕ)
  deriving DecidableEq, Repr

/-! ## Agent, readers and cards -/

/-- What the client knows of the agent: it runs, it could be started, or it is not installed. -/
inductive AgentState
  | ready | stopped | missing
  deriving DecidableEq, Repr

/-- The agent's answer to a request to start it. -/
inductive AgentStartResult
  | requested | failed
  deriving DecidableEq, Repr

/-- The interface a reader exposes. -/
inductive ReaderInterface
  | contact | contactless | unknown
  deriving DecidableEq, Repr

/-- The unlock a card announces before it can be read; `other` is a method this build
cannot name. -/
inductive PreReadAuth
  | none | can | mrz | other
  deriving DecidableEq, Repr

/-- `preReadUnlockRequired`: every method, known or not, except `None`. -/
def preReadUnlockRequired (auth : PreReadAuth) : Bool := auth ≠ .none

/-- The capability bits this client asks about, and whatever else the card announces. -/
structure Capabilities where
  identityData : Bool
  pki : Bool
  emrtdCrypto : Bool
  pinManagement : Bool
  other : ℕ
  deriving DecidableEq, Repr

/-- The coarse surface the library's resolver assigns a card. -/
inductive UiState
  | none | noCard | preAuthRequired | identityOnly | pkiOnly | hybrid | unknownCard | error
  deriving DecidableEq, Repr

/-! ## Credentials -/

/-- What a credential is for. -/
inductive CredentialKind
  | user | sign | puk | can | unknown
  deriving DecidableEq, Repr

/-- Whether a credential can be used as it is, must be changed first, or is blocked. -/
inductive CredentialState
  | unknown | transport | operational | needsChange | blocked
  deriving DecidableEq, Repr

/-- How an operation on a credential ended, as far as the card says. -/
inductive CredentialOutcome
  | unspecified | ok | userCancelled | invalidPin | blocked | missingFields
  | keyActivationFailed | unsupported | cardRemoved | entryExpired | pluginError
  deriving DecidableEq, Repr

/-- One credential of a listing. -/
structure CredentialRecord where
  /-- Opaque, handed back verbatim. -/
  id : QString
  kind : CredentialKind := .unknown
  state : CredentialState := .unknown
  usesLeft : Option ℤ := none
  usesMax : Option ℤ := none
  keyActivationPending : Bool := false
  deriving DecidableEq, Repr

/-- What a PIN verb did to the card. -/
structure PinResult where
  outcome : CredentialOutcome := .unspecified
  retriesLeft : Option ℤ := none
  deriving DecidableEq, Repr

/-- What can be asked of a credential. -/
inductive PinVerb
  | change | unblock | activatePin
  deriving DecidableEq, Repr

/-- The arguments of such a request. -/
structure ManagePinOptions where
  activateKey : Bool := false
  deriving DecidableEq, Repr

/-! ## Identity, photos and certificates -/

/-- One field of an identity read. -/
structure Field where
  key : QString
  labelKey : QString := []
  labelFallback : QString := []
  value : QString := []
  deriving DecidableEq, Repr

/-- One group of an identity read's result, with its fields in the card's order. -/
structure FieldGroup where
  key : QString
  fields : List Field
  deriving DecidableEq, Repr

/-- One photo of a photo read, as `readBoundedPayload` finds its descriptor: unreadable, or
its bytes. -/
structure PhotoItem where
  payload : Option (List UInt8)
  deriving DecidableEq, Repr

/-- A certificate's end of validity, as `Qt::ISODate` spells it. -/
inductive ValidityStamp
  | invalid
  /-- Carries no zone: its own wall clock. -/
  | unzoned (wallClock : QString)
  /-- Carries a zone: the same instant, spelled in UTC. -/
  | zoned (utc : QString)
  deriving DecidableEq, Repr

/-- The metadata of one certificate, as a read brings it; the certificate itself takes an export. -/
structure CertificateInfo where
  /-- Opaque, handed back verbatim. -/
  id : QString
  subject : QString := []
  issuer : QString := []
  notAfter : ValidityStamp := .invalid
  keyUsageBits : UInt32 := 0
  extendedKeyUsageOids : List QString := []
  signingCapable : Bool := false
  chainSubjectCns : List QString := []
  deriving DecidableEq, Repr

/-! ## Signatures -/

/-- The signature formats a request can ask for. -/
inductive SignatureFormat
  | pades | cades | xades | jades | asice
  deriving DecidableEq, Repr

/-- Where the signature is put: into the document, or beside it. -/
inductive Packaging
  | enveloped | detached
  deriving DecidableEq, Repr

/-- What a signature request asks for; the level is always left to the agent. -/
structure SignOptions where
  format : SignatureFormat := .pades
  packaging : Packaging := .enveloped
  deriving DecidableEq, Repr

/-- Why a signed file could not be written. -/
inductive SignedFileError
  | unreadableArtifact | noFreeName | emptyArtifact | writeFailed
  deriving DecidableEq, Repr

/-! ## Terminals -/

/-- Everything a slot may poll off a finished operation. -/
structure Terminal where
  status : OperationStatus := .ok
  errorCode : ErrorCode := .none
  callError : CallError := .none
  messageKey : QString := []
  messageFallback : QString := []
  /-- The name of a refusal at method entry, when the agent gave one. -/
  syncError : Option SyncError := none
  pinResult : PinResult := {}
  credentialsResult : List CredentialRecord := []
  identityResult : List FieldGroup := []
  photos : List PhotoItem := []
  certificatesResult : List CertificateInfo := []
  /-- The agent's metadata of the signature it made. -/
  signMeta : List (QString × QString) := []
  /-- The sealed artifact arrived. -/
  artifactValid : Bool := false
  deriving DecidableEq, Repr

end LibreKDE
