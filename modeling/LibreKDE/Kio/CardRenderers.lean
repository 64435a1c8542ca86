import LibreKDE.Kio.CardDataSource
import LibreKDE.Qt.Format

/-!
# The leaf files

The texts of `identity.txt` and the two kinds of `info.txt`, the PEM framing of a
certificate, and the MIME type of a photo by its first bytes.  The renderers take every word
they print from `RenderLabels`: the worker's come from the session's catalogue, and the
built-in English ones (`defaultRenderLabels`) name what must not change with the language.
-/

namespace LibreKDE.Kio

/-- Every word the renderers print.  The strings of the two purposes and the key usages fall back to
English where they are empty; the others are printed as they are. -/
structure RenderLabels where
  /-- The nine X.509 key usages by their ordinal; empty falls back to English. -/
  keyUsageNames : List QString
  purposeSigning : QString
  purposeAuthentication : QString
  trustNotEvaluated : QString
  qualifiedUnknown : QString
  labelSubject : QString
  labelIssuer : QString
  labelValidUntil : QString
  labelPurpose : QString
  labelExtendedKeyUsage : QString
  labelSigningCapable : QString
  labelTrust : QString
  labelQualified : QString
  labelChain : QString
  labelReader : QString
  labelCapabilities : QString
  labelPreReadAuth : QString
  valueYes : QString
  valueNo : QString
  valueNone : QString
  valueAuthNone : QString
  capIdentity : QString
  capPinManagement : QString

/-- The English key usage names, by ordinal. -/
def keyUsageEnglish : List QString :=
  [qs "Digital Signature", qs "Non-Repudiation", qs "Key Encipherment", qs "Data Encipherment",
    qs "Key Agreement", qs "Certificate Signing", qs "CRL Signing", qs "Encipher Only",
    qs "Decipher Only"]

/-- What a certificate with the non-repudiation bit is for. -/
def purposeSigningEnglish : QString := qs "Digital Signature"
/-- What a certificate with `digitalSignature` alone is for. -/
def purposeAuthenticationEnglish : QString := qs "Authentication"

/-- The built-in English words.  Folder names are built from them in every session, so that a
bookmark outlives a change of language. -/
def defaultRenderLabels : RenderLabels where
  keyUsageNames := keyUsageEnglish
  purposeSigning := purposeSigningEnglish
  purposeAuthentication := purposeAuthenticationEnglish
  trustNotEvaluated := qs "not yet evaluated"
  qualifiedUnknown := qs "unknown"
  labelSubject := qs "Subject"
  labelIssuer := qs "Issuer"
  labelValidUntil := qs "Valid until"
  labelPurpose := qs "Purpose"
  labelExtendedKeyUsage := qs "Extended Key Usage"
  labelSigningCapable := qs "Signing capable"
  labelTrust := qs "Trust"
  labelQualified := qs "Qualified"
  labelChain := qs "Chain"
  labelReader := qs "Reader"
  labelCapabilities := qs "Capabilities"
  labelPreReadAuth := qs "Pre-read authentication"
  valueYes := qs "yes"
  valueNo := qs "no"
  valueNone := qs "none"
  valueAuthNone := qs "None"
  capIdentity := qs "Identity"
  capPinManagement := qs "PIN management"

/-! ## Key usages and purposes -/

/-- Bit `i` of the mask is X.509 key usage ordinal `i`. -/
def keyUsageBitSet (mask : UInt32) (ordinal : ℕ) : Bool :=
  mask &&& (1 <<< UInt32.ofNat ordinal) ≠ 0

/-- The name of a key usage, in English where the labels leave it out or empty. -/
def usageName (ordinal : ℕ) (labels : RenderLabels) : QString :=
  match labels.keyUsageNames[ordinal]? with
  | some (c :: name) => c :: name
  | some [] | none => keyUsageEnglish.getD ordinal []

/-- The names of the usages whose bit is set, by ordinal; bits beyond the nine are not looked at. -/
def keyUsagePurposes (keyUsageBits : UInt32) (labels : RenderLabels) : List QString :=
  ((List.range 9).filter (keyUsageBitSet keyUsageBits)).map fun i => usageName i labels

/-- `nonRepudiation` marks a signing certificate, `digitalSignature` without it an
authentication one; the other usages name themselves. -/
def primaryPurpose (keyUsageBits : UInt32) (labels : RenderLabels) : QString :=
  if keyUsageBitSet keyUsageBits 1 then
    if labels.purposeSigning = [] then purposeSigningEnglish else labels.purposeSigning
  else if keyUsageBitSet keyUsageBits 0 then
    if labels.purposeAuthentication = [] then purposeAuthenticationEnglish
    else labels.purposeAuthentication
  else
    match (List.range' 2 7).find? (keyUsageBitSet keyUsageBits) with
    | some i => usageName i labels
    | none => []

/-! ## The texts -/

section Texts

variable (q : Session)

/-- One `key: value` line.  Both are put in as they are: a value with a line break goes on in a line
of its own. -/
def line (key value : QString) : QString := (qs "%1: %2\n").args q.digits [key, value]

/-- `join`. -/
def join (separator : QString) : List QString → QString := List.intercalate separator

/-- The groups in the order of their first appearance, and each one's rows. -/
structure GroupedRows where
  groupOrder : List QString := []
  rowsByGroup : QString → Option QString := fun _ => none

/-- Add a field's row to its group; a group that is new goes to the end of the order. -/
def GroupedRows.add (g : GroupedRows) (f : IdentityFieldView) : GroupedRows :=
  let label := if f.labelFallback = [] then f.fieldKey else f.labelFallback
  let rows := (g.rowsByGroup f.group).getD []
  { groupOrder :=
      if g.rowsByGroup f.group = none then g.groupOrder ++ [f.group] else g.groupOrder
    rowsByGroup := Function.update g.rowsByGroup f.group (some (rows ++ line q label f.value)) }

/-- `identity.txt`: a bracketed header for each group and its rows below it, with a blank line
between the groups.  `renderIdentityTxt_groups` says that no field is lost. -/
def renderIdentityTxt (fields : List IdentityFieldView) : QString :=
  let g := fields.foldl (GroupedRows.add q) {}
  g.groupOrder.foldl
    (fun out group =>
      (if out = [] then out else out ++ [qc '\n']) ++ (qs "[%1]\n").arg q.digits group ++
        (g.rowsByGroup group).getD [])
    []

/-- A certificate's `info.txt`.  The lines of the expiry, the extended usages and the chain are
there only where the certificate has them; trust is never evaluated here and says so. -/
def renderCertInfoTxt (cert : CertificateInfo) (labels : RenderLabels) : QString :=
  line q labels.labelSubject cert.subject ++
  line q labels.labelIssuer cert.issuer ++
  (match cert.notAfter with
    | .invalid => []
    | .unzoned wallClock => line q labels.labelValidUntil wallClock
    | .zoned utc => line q labels.labelValidUntil utc) ++
  line q labels.labelPurpose (join (qs ", ") (keyUsagePurposes cert.keyUsageBits labels)) ++
  (if cert.extendedKeyUsageOids = [] then []
    else line q labels.labelExtendedKeyUsage (join (qs ", ") cert.extendedKeyUsageOids)) ++
  line q labels.labelSigningCapable
    (if cert.signingCapable then labels.valueYes else labels.valueNo) ++
  line q labels.labelTrust labels.trustNotEvaluated ++
  line q labels.labelQualified labels.qualifiedUnknown ++
  (if cert.chainSubjectCns = [] then []
    else line q labels.labelChain (join (qs " -> ") cert.chainSubjectCns))

/-- A card's `info.txt`: the reader under its label, the capabilities by name, and the
authentication a read would begin with. -/
def renderInfoTxt (presence : CardPresence) (labels : RenderLabels) : QString :=
  let caps :=
    (if presence.capabilities.pki then [qs "PKI"] else []) ++
    (if presence.capabilities.identityData then [labels.capIdentity] else []) ++
    (if presence.capabilities.emrtdCrypto then [qs "eMRTD"] else []) ++
    (if presence.capabilities.pinManagement then [labels.capPinManagement] else [])
  line q labels.labelReader
    (if presence.readerLabel = [] then presence.readerName else presence.readerLabel) ++
  line q labels.labelCapabilities (if caps = [] then labels.valueNone else join (qs ", ") caps) ++
  line q labels.labelPreReadAuth
    (if presence.preReadAuth = [] then labels.valueAuthNone else presence.preReadAuth)

end Texts

/-! ## Bytes -/

/-- The body lines of a PEM block: 64 characters each, the last with what is left. -/
def pemBody (b64 : QByteArray) : QByteArray :=
  match b64 with
  | [] => []
  | c :: rest =>
      ((c :: rest).take 64 ++ bytes "\n") ++ pemBody ((c :: rest).drop 64)
termination_by b64.length
decreasing_by simp only [List.length_drop, List.length_cons]; omega

/-- The export where the loop's `int` counter does not overflow, as `derToPem?` has it. -/
def derToPem (der : QByteArray) : QByteArray :=
  bytes "-----BEGIN CERTIFICATE-----\n" ++ pemBody (toBase64 der) ++
    bytes "-----END CERTIFICATE-----\n"

/-- The type of an image by its first bytes: a JPEG 2000 box or codestream, a JPEG or a PNG, and
else bytes of no known kind. -/
def sniffImageMime (photo : QByteArray) : QString :=
  if [0x00, 0x00, 0x00, 0x0C, 0x6A, 0x50, 0x20, 0x20, 0x0D, 0x0A].isPrefixOf photo ∨
      [0xFF, 0x4F, 0xFF, 0x51].isPrefixOf photo then qs "image/jp2"
  else if [0xFF, 0xD8, 0xFF].isPrefixOf photo then qs "image/jpeg"
  else if [0x89, 0x50, 0x4E, 0x47].isPrefixOf photo then qs "image/png"
  else qs "application/octet-stream"

end LibreKDE.Kio
