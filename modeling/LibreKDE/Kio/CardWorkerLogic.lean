import LibreKDE.Kio.CardRenderers
import LibreKDE.Kio.CardTree

/-!
# The `card:/` worker

The four operations KIO asks for.  `stat` and `mimetype` answer from the tree alone; listing
enters the card for the folders under `PKI` only; `get` reads what the leaf shows.

A certificate's folder is named by its English purpose and the first eight characters of its
id, with an ordinal where an earlier certificate has the same name.  The name is the key a
later `get` is resolved by, through the same list (`buildCertFolders`).
-/

namespace LibreKDE.Kio

/-- KIO's error codes, as far as the worker uses them. -/
inductive KioError
  | userCanceled | accessDenied | workerDied | cannotEnterDirectory | cannotOpenForReading
  | doesNotExist | workerDefined | isDirectory
  deriving DecidableEq, Repr

/-- What a method of the worker returns to KIO. -/
inductive WorkerResult
  | pass
  | fail (error : KioError) (text : QString)
  deriving DecidableEq, Repr

/-- One certificate's folder.  The name is a key and stays English; what is shown beside it is in
the session's language. -/
structure CertFolder where
  /-- The URL segment. -/
  name : QString
  displayName : QString
  certId : QString
  deriving DecidableEq, Repr

namespace CardWorkerLogic

/-- The type of the binary export. -/
def certDerMime : QString := qs "application/pkix-cert"
/-- The type of the armoured one. -/
def certPemMime : QString := qs "application/x-pem-file"

/-- The MIME type a photo leaf's extension announces. -/
def photoMimeForName (name : QString) : QString :=
  if (qs ".jp2").isSuffixOf name then qs "image/jp2" else qs "image/jpeg"

/-- `i18n(msgid)`. -/
def i18n (q : Session) (msgid : QString) : QString := ki18nd q.locale msgid []

/-- The words of the session's catalogue, each with the context its translators see. -/
def workerRenderLabels (q : Session) : RenderLabels :=
  let usage (name : String) := i18nc q.locale (qs "X.509 key usage") (qs name) []
  let certLine (name : String) :=
    i18nc q.locale (qs "certificate info.txt line label") (qs name) []
  let cardLine (name : String) := i18nc q.locale (qs "card info.txt line label") (qs name) []
  { keyUsageNames :=
      [usage "Digital Signature", usage "Non-Repudiation", usage "Key Encipherment",
        usage "Data Encipherment", usage "Key Agreement", usage "Certificate Signing",
        usage "CRL Signing", usage "Encipher Only", usage "Decipher Only"]
    purposeSigning := i18nc q.locale (qs "certificate purpose") (qs "Digital Signature") []
    purposeAuthentication := i18nc q.locale (qs "certificate purpose") (qs "Authentication") []
    trustNotEvaluated := i18nc q.locale (qs "certificate trust status") (qs "not yet evaluated") []
    qualifiedUnknown := i18nc q.locale (qs "certificate qualified status") (qs "unknown") []
    labelSubject := certLine "Subject"
    labelIssuer := certLine "Issuer"
    labelValidUntil := certLine "Valid until"
    labelPurpose := certLine "Purpose"
    labelExtendedKeyUsage := certLine "Extended Key Usage"
    labelSigningCapable := certLine "Signing capable"
    labelTrust := certLine "Trust"
    labelQualified := certLine "Qualified"
    labelChain := certLine "Chain"
    labelReader := cardLine "Reader"
    labelCapabilities := cardLine "Capabilities"
    labelPreReadAuth := cardLine "Pre-read authentication"
    valueYes := i18nc q.locale (qs "boolean value in info.txt") (qs "yes") []
    valueNo := i18nc q.locale (qs "boolean value in info.txt") (qs "no") []
    valueNone := i18nc q.locale (qs "empty capability list in info.txt") (qs "none") []
    valueAuthNone := i18nc q.locale (qs "no pre-read authentication required") (qs "None") []
    capIdentity := i18nc q.locale (qs "card capability flag") (qs "Identity") []
    capPinManagement := i18nc q.locale (qs "card capability flag") (qs "PIN management") [] }

/-- A directory, which its owner may enter and nobody may write. -/
def dirEntry (name : QString) : UDSEntry := { name := name, isDir := true, access := 0o500 }

/-- A file, which its owner may read; the type is left out where it is empty. -/
def fileEntry (name mime : QString) : UDSEntry where
  name := name
  isDir := false
  access := 0o400
  mimeType := if mime = [] then none else some mime

/-! ## Certificate folders -/

/-- The English purpose and the first eight characters of the id, put into a template: the name that
a URL carries. -/
def stableCertFolderName (q : Session) (cert : CertificateInfo) : QString :=
  let purpose := primaryPurpose cert.keyUsageBits defaultRenderLabels
  let shortId := cert.id.take 8
  if purpose = [] then (qs "Certificate (%1)").arg q.digits shortId
  else (qs "%1 (%2)").args q.digits [purpose, shortId]

/-- The same of the session's words, for show only. -/
def displayCertFolderName (q : Session) (cert : CertificateInfo) (labels : RenderLabels) :
    QString :=
  let purpose := primaryPurpose cert.keyUsageBits labels
  let shortId := cert.id.take 8
  if purpose = [] then
    i18nc q.locale (qs "certificate folder fallback name, %1 = short id")
      (qs "Certificate (%1)") [shortId]
  else
    i18nc q.locale (qs "certificate folder name: purpose + short id") (qs "%1 (%2)")
      [purpose, shortId]

/-- The name of the folder of the certificate that `n` certificates with the same base name precede.
The ordinal is substituted into a text that holds the base name already. -/
def suffixedName (q : Session) (base : QString) (n : ℕ) : QString :=
  if n = 0 then base
  else ((qs "%1 ~%2").arg q.digits base).argNumber q.digits q.numbers (n + 1)

/-- The loop of `buildCertFolders`: `seen` counts the base names so far. -/
def buildFolders (q : Session) (seen : QString → ℕ) : List CertificateInfo → List CertFolder
  | [] => []
  | c :: certs =>
      if c.signingCapable then
        let base := stableCertFolderName q c
        let n := seen base
        let displayBase := displayCertFolderName q c (workerRenderLabels q)
        { name := suffixedName q base n
          displayName :=
            if n = 0 then displayBase
            else i18nc q.locale
              (qs "disambiguator for same-purpose cert folders: %1 = base name, %2 = ordinal")
              (qs "%1 (%2)") [displayBase, q.locale.number (n + 1)]
          certId := c.id } :: buildFolders q (Function.update seen base (n + 1)) certs
      else buildFolders q seen certs

/-- The folders of a card's signing-capable certificates, in order. -/
def buildCertFolders (q : Session) (certs : CertListResult) : List CertFolder :=
  buildFolders q (fun _ => 0) certs.certs

/-- One folder a signing-capable certificate, in order. -/
lemma certId_buildFolders (q : Session) (seen : QString → ℕ) (certs : List CertificateInfo) :
    (buildFolders q seen certs).map CertFolder.certId =
      (certs.filter fun c => c.signingCapable).map CertificateInfo.id := by
  induction certs generalizing seen with
  | nil => rfl
  | cons c certs ih =>
      simp only [buildFolders]
      by_cases hc : c.signingCapable = true
      · simp [hc, ih]
      · simp [hc, ih]

section Methods

variable {σ : Type} (d : CardDataSource σ) (q : Session)

/-- The folder's certificate, and the list it was resolved in: the name is looked up among the
folders built anew from a fresh read.  An empty id stands for a folder that is not there. -/
def resolveCertId (cardId certFolder : QString) : WorkerM σ (QString × CertListResult) := do
  let certs ← readCertificates d cardId
  if certs.status ≠ .ok then return ([], certs)
  match (buildCertFolders q certs).find? fun f => f.name = certFolder with
  | some f => return (f.certId, certs)
  | none => return ([], certs)

/-- A failed read as KIO has it: nothing is shown for a cancel, and a service that is not there is
another error for a directory than for a file. -/
def failForRead (status : ReadStatus) (isDirOp : Bool) (message : QString) : WorkerResult :=
  match status with
  | .cancelled => .fail .userCanceled []
  | .authFailed => .fail .accessDenied []
  | .cardRemoved => .fail .workerDied (i18n q (qs "The card was removed."))
  | .unavailable =>
      .fail (if isDirOp then .cannotEnterDirectory else .cannotOpenForReading)
        (if message = [] then i18n q (qs "The smart-card service is unavailable.") else message)
  | .capabilityMissing | .notAvailable => .fail .doesNotExist []
  | .error | .ok =>
      .fail .workerDied
        (if message = [] then i18n q (qs "Could not read the card.") else message)

/-- The folders of a card, by one certificate read; none where the read failed. -/
def pkiCertFolders (cardId : QString) : WorkerM σ (List CertFolder × CertListResult) := do
  let result ← readCertificates d cardId
  if result.status ≠ .ok then return ([], result)
  return (buildCertFolders q result, result)

/-! ## The four operations -/

/-- What stands in the way of listing the root: without an agent an empty folder would read
as "no card". -/
def rootRefusal (state : AgentState) : Option WorkerResult :=
  match state with
  | .ready => none
  | .stopped => some (.fail .workerDefined (i18n q (qs "The smart-card service isn't running.")))
  | .missing =>
      some (.fail .workerDefined
        (i18nc q.locale (qs "@info %1 is the address of the installation guide")
          (qs "The smart-card service isn't installed. To install it, see %1")
          [q.installHelpUrl]))

/-- The second half of `doListDir`: the entries below the directory's own, or the refusal of what is
not a directory. -/
def listEntries (url : QUrl) (node : CardNode) : WorkerM σ WorkerResult := do
  match node.kind with
  | .root =>
      for reader in ← CardTree.list d url do
        emitListEntry (dirEntry reader)
      return .pass
  | .reader =>
      -- `info.txt` is the one file here; the other children are folders.
      for child in ← CardTree.list d url do
        emitListEntry
          (if child = CardTree.infoTxt then fileEntry child (qs "text/plain") else dirEntry child)
      return .pass
  | .identityDir =>
      for child in ← CardTree.list d url do
        emitListEntry
          (if child = CardTree.identityTxt then fileEntry child (qs "text/plain")
            else fileEntry child (photoMimeForName child))
      return .pass
  | .pkiDir =>
      -- The one listing that talks to the card, and the one that can fail after its own entry.
      let (folders, certs) ← pkiCertFolders d q node.presence.cardId
      if certs.status ≠ .ok then return failForRead q certs.status true certs.message
      for folder in folders do
        emitListEntry
          { dirEntry folder.name with
            displayName :=
              if folder.displayName ≠ [] ∧ folder.displayName ≠ folder.name then
                some folder.displayName
              else none }
      return .pass
  | .certDir =>
      emitListEntry (fileEntry CardTree.certInfoTxt (qs "text/plain"))
      emitListEntry (fileEntry CardTree.certDerName certDerMime)
      emitListEntry (fileEntry CardTree.certPemName certPemMime)
      return .pass
  | .invalid => return .fail .cannotEnterDirectory url.toDisplayString
  | _ => return .fail .isDirectory url.toDisplayString

/-- The `.` entry a directory's listing starts with, before the card is asked for anything. -/
def emitSelf (kind : NodeKind) : WorkerM σ Unit :=
  match kind with
  | .root | .reader | .identityDir | .pkiDir | .certDir => emitListEntry (dirEntry (qs "."))
  | _ => return ()

/-- Ask for the agent before the root is listed, and for nothing before any other directory. -/
def refuseListing (kind : NodeKind) : WorkerM σ (Option WorkerResult) := do
  if kind = .root then return rootRefusal q (← agentState d)
  return none

/-- The listing of a node, once it has been resolved. -/
def listNode (url : QUrl) (node : CardNode) : WorkerM σ WorkerResult := do
  match ← refuseListing d q node.kind with
  | some result => return result
  | none =>
      emitSelf node.kind
      listEntries d q url node

/-- `list`: resolve the URL and list its node. -/
def doListDir (url : QUrl) : WorkerM σ WorkerResult := do
  listNode d q url (← CardTree.resolve d url)

/-- `stat`: the entry of a node, without a read.  The two exports are told under their own names,
every other leaf under the URL's file name. -/
def doStat (url : QUrl) : WorkerM σ WorkerResult := do
  let node ← CardTree.resolve d url
  let entry : Option UDSEntry :=
    match node.kind with
    | .root => some (dirEntry (qs "card"))
    | .reader => some (dirEntry node.readerName)
    | .identityDir => some (dirEntry CardTree.identityDirName)
    | .pkiDir => some (dirEntry CardTree.pkiDirName)
    | .certDir => some (dirEntry node.certFolder)
    | .infoLeaf | .identityLeaf | .certInfoLeaf =>
        some (fileEntry url.fileName (qs "text/plain"))
    | .photoLeaf => some (fileEntry url.fileName (photoMimeForName url.fileName))
    | .certDerLeaf => some (fileEntry CardTree.certDerName certDerMime)
    | .certPemLeaf => some (fileEntry CardTree.certPemName certPemMime)
    | .invalid => none
  match entry with
  | some entry =>
      emitStatEntry entry
      return .pass
  | none => return .fail .doesNotExist url.toDisplayString

/-- `mimetype`: the type of a node, without a read; a photo's by the extension in the URL. -/
def doMimetype (url : QUrl) : WorkerM σ WorkerResult := do
  let node ← CardTree.resolve d url
  let mime : Option QString :=
    match node.kind with
    | .infoLeaf | .identityLeaf | .certInfoLeaf => some (qs "text/plain")
    | .certDerLeaf => some certDerMime
    | .certPemLeaf => some certPemMime
    | .photoLeaf => some (photoMimeForName url.fileName)
    | .root | .reader | .identityDir | .pkiDir | .certDir => some (qs "inode/directory")
    | .invalid => none
  match mime with
  | some mime =>
      emitMimeType mime
      return .pass
  | none => return .fail .doesNotExist url.toDisplayString

/-- What a `get` that succeeds emits: its type, its bytes, and the empty chunk that ends
them. -/
def emitFile (mime : QString) (content : QByteArray) : WorkerM σ WorkerResult := do
  emitMimeType mime
  emitData content
  emitData []
  return .pass

/-- `get` of a certificate's `info.txt`: the certificate is looked up in the list its folder was
resolved in. -/
def getCertInfo (url : QUrl) (node : CardNode) : WorkerM σ WorkerResult := do
  let (wantCertId, certs) ← resolveCertId d q node.presence.cardId node.certFolder
  if certs.status ≠ .ok then return failForRead q certs.status false certs.message
  match if wantCertId = [] then none else certs.certs.find? fun c => c.id = wantCertId with
  | some c => emitFile (qs "text/plain") (toUtf8 (renderCertInfoTxt q c (workerRenderLabels q)))
  | none => return .fail .doesNotExist url.toDisplayString

/-- `get` of a certificate's export: the id behind the folder is what it is asked by, and the armour
is put on here. -/
def getCertExport (url : QUrl) (node : CardNode) : WorkerM σ WorkerResult := do
  let (wantCertId, certs) ← resolveCertId d q node.presence.cardId node.certFolder
  if certs.status ≠ .ok then return failForRead q certs.status false certs.message
  if wantCertId = [] then return .fail .doesNotExist url.toDisplayString
  let der ← getCertificateDer d node.presence.cardId wantCertId
  if der.status ≠ .ok then return failForRead q der.status false der.message
  if node.kind = .certPemLeaf then emitFile certPemMime (derToPem der.der)
  else emitFile certDerMime der.der

/-- The content of a leaf, with at most two reads: the certificate list to find the certificate by,
and then its export. -/
def getNode (url : QUrl) (node : CardNode) : WorkerM σ WorkerResult := do
  match node.kind with
  | .infoLeaf =>
      emitFile (qs "text/plain")
        (toUtf8 (renderInfoTxt q node.presence (workerRenderLabels q)))
  | .identityLeaf =>
      let id ← readIdentity d node.presence.cardId
      if id.status ≠ .ok then return failForRead q id.status false id.message
      emitFile (qs "text/plain") (toUtf8 (renderIdentityTxt q id.fields))
  | .photoLeaf =>
      let photo ← getPhoto d node.presence.cardId
      if photo.status ≠ .ok then return failForRead q photo.status false photo.message
      emitFile (sniffImageMime photo.bytes) photo.bytes
  | .certInfoLeaf => getCertInfo d q url node
  | .certDerLeaf | .certPemLeaf => getCertExport d q url node
  | .root | .reader | .identityDir | .pkiDir | .certDir =>
      return .fail .isDirectory url.toDisplayString
  | .invalid => return .fail .doesNotExist url.toDisplayString

/-- `get`: resolve the URL and hand over the content of its leaf. -/
def doGet (url : QUrl) : WorkerM σ WorkerResult := do
  getNode d q url (← CardTree.resolve d url)

end Methods

end CardWorkerLogic

end LibreKDE.Kio
