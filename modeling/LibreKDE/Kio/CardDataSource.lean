import LibreKDE.AgentClient.Vocabulary
import LibreKDE.Qt.Bytes

/-!
# The worker's seam to the agent

The `card:/` worker sees the agent through `CardDataSource`: which cards are present, which
costs nothing, and four *reads*, each of which may raise a prompt for the card's unlock.  A
data source is a state of its own type and a function a method, free to answer differently
every time it is asked.

`Worker` is that state together with what can be observed of the worker: the reads it asked
for and what it handed to KIO, each in order.  The methods of the worker are programs over it
(`WorkerM`); the calls at the end of this file are the only ones that touch the source.
-/

namespace LibreKDE.Kio

/-- A reader holding a resolvable card, with what the registry knows of the card; nothing of it
takes a read. -/
structure CardPresence where
  /-- The path segment. -/
  readerName : QString := []
  /-- Opaque, handed back verbatim. -/
  cardId : QString := []
  capabilities : Capabilities :=
    { identityData := false, pki := false, emrtdCrypto := false, pinManagement := false,
      other := 0 }
  preReadAuth : QString := []
  /-- Shown in place of the name when the agent has one. -/
  readerLabel : QString := []
  deriving DecidableEq, Repr

/-- How a read finished, in the worker's terms; each has an error of KIO's, but for `ok`. -/
inductive ReadStatus
  | ok | cancelled | authFailed | cardRemoved | unavailable | capabilityMissing | error
  | notAvailable
  deriving DecidableEq, Repr

/-- One identity field, flat and already a text. -/
structure IdentityFieldView where
  group : QString
  fieldKey : QString
  labelFallback : QString := []
  value : QString := []
  deriving DecidableEq, Repr

/-- An identity read's answer: the fields are empty unless the status is Ok, and the message is the
localized reason, where there is one to give. -/
structure IdentityResult where
  status : ReadStatus := .error
  fields : List IdentityFieldView := []
  message : QString := []

/-- A certificate read's answer, of all certificates on the card and not of the signing ones
only. -/
structure CertListResult where
  status : ReadStatus := .error
  certs : List CertificateInfo := []
  message : QString := []

/-- A photo read's answer, in the encoding the card has it in. -/
structure PhotoResult where
  status : ReadStatus := .error
  bytes : QByteArray := []
  message : QString := []

/-- An export's answer: the certificate in DER. -/
structure CertDerResult where
  status : ReadStatus := .error
  der : QByteArray := []
  message : QString := []

/-- The data source's methods, over its state.  Every one may change it, and none promises to answer
twice alike; the agent's state is looked up without asking anyone. -/
structure CardDataSource (σ : Type) where
  listReadersWithCards : σ → List CardPresence × σ
  readIdentity : QString → σ → IdentityResult × σ
  readCertificates : QString → σ → CertListResult × σ
  getPhoto : QString → σ → PhotoResult × σ
  getCertificateDer : QString → QString → σ → CertDerResult × σ
  agentState : σ → AgentState

/-- A card read, as it was asked for. -/
inductive CardRead
  | readIdentity (cardId : QString)
  | readCertificates (cardId : QString)
  | getPhoto (cardId : QString)
  | getCertificateDer (cardId certId : QString)
  deriving DecidableEq, Repr

/-- A directory entry.  No size is announced: the true one is not known without a read. -/
structure UDSEntry where
  name : QString
  /-- `S_IFDIR` rather than `S_IFREG`. -/
  isDir : Bool
  access : ℕ
  mimeType : Option QString := none
  displayName : Option QString := none
  deriving DecidableEq, Repr

/-- What the worker hands to KIO: entries, a type, and chunks of data. -/
inductive Emission
  | listEntry (entry : UDSEntry)
  | statEntry (entry : UDSEntry)
  | mimeType (mime : QString)
  | data (bytes : QByteArray)
  deriving DecidableEq, Repr

/-- The data source, and what has been observed of the worker over it. -/
structure Worker (σ : Type) where
  source : σ
  reads : List CardRead := []
  emitted : List Emission := []

/-- A method of the worker: a program that may change the source and adds to what has been
observed. -/
abbrev WorkerM (σ : Type) := StateM (Worker σ)

section Calls

variable {σ : Type} (d : CardDataSource σ)

/-- The cards present, from the client's registry: no card is touched, so nothing is recorded. -/
def listReadersWithCards : WorkerM σ (List CardPresence) := fun w =>
  let (present, s) := d.listReadersWithCards w.source
  (present, { w with source := s })

/-- Whether the agent runs, could be started, or is not installed. -/
def agentState : WorkerM σ AgentState := fun w => (d.agentState w.source, w)

/-- One identity read, recorded whether or not it succeeds. -/
def readIdentity (cardId : QString) : WorkerM σ IdentityResult := fun w =>
  let (result, s) := d.readIdentity cardId w.source
  (result, { w with source := s, reads := w.reads ++ [.readIdentity cardId] })

/-- One certificate read, recorded whether or not it succeeds. -/
def readCertificates (cardId : QString) : WorkerM σ CertListResult := fun w =>
  let (result, s) := d.readCertificates cardId w.source
  (result, { w with source := s, reads := w.reads ++ [.readCertificates cardId] })

/-- One photo read, recorded whether or not it succeeds. -/
def getPhoto (cardId : QString) : WorkerM σ PhotoResult := fun w =>
  let (result, s) := d.getPhoto cardId w.source
  (result, { w with source := s, reads := w.reads ++ [.getPhoto cardId] })

/-- One export of a certificate, recorded with the id it was asked by. -/
def getCertificateDer (cardId certId : QString) : WorkerM σ CertDerResult := fun w =>
  let (result, s) := d.getCertificateDer cardId certId w.source
  (result, { w with source := s, reads := w.reads ++ [.getCertificateDer cardId certId] })

/-- The `emit…` hooks, which the tests replace and the worker forwards to KIO: whatever is handed
over is recorded in order. -/
def emit (e : Emission) : WorkerM σ Unit := fun w =>
  ((), { w with emitted := w.emitted ++ [e] })

/-- One entry of a listing. -/
def emitListEntry (entry : UDSEntry) : WorkerM σ Unit := emit (.listEntry entry)
/-- The entry a `stat` answers with. -/
def emitStatEntry (entry : UDSEntry) : WorkerM σ Unit := emit (.statEntry entry)
/-- The type that has to come before the data. -/
def emitMimeType (mime : QString) : WorkerM σ Unit := emit (.mimeType mime)
/-- A chunk of a file; the empty chunk ends it. -/
def emitData (bytes : QByteArray) : WorkerM σ Unit := emit (.data bytes)

end Calls

end LibreKDE.Kio
