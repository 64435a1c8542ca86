import LibreKDE.Framework.LineForms
import LibreKDE.Kio.IdentityText

/-!
# What card data can do to the shape of a leaf

The text leaves are files that users diff and read with scripts, line by line.  Each of them is a
form: its labels, its headers and the values that come of a bit are the host's, and the rest is
text of the card or of the agent.

Two inputs that agree on all but that text are rendered to lines with the same heads if no piece
of it holds a line break.  A piece that does is written out as it is, and opens lines of its own
(`lines_agree_iff`).
-/

namespace LibreKDE.Kio

open Groups LineForms

variable {q : Session}

/-- The label or header of each line: what a reader goes by who looks for a field. -/
def lineHeads (s : QString) : List QString := heads (qc '\n') (qs ": ") s

/-- A text without a line break of its own. -/
def OneLine (s : QString) : Prop := qc '\n' ∉ s

instance (s : QString) : Decidable (OneLine s) := by unfold OneLine; infer_instance

/-- A form, written out. -/
def formText (form : List (FormPart QChar)) : QString := text (qc '\n') (qs ": ") form

lemma formText_entry (key value : QString) (form : List (FormPart QChar)) :
    formText (.entry key value :: form) = line q key value ++ formText form := by
  rw [formText, text_cons, line_eq, FormPart.body]
  simp [formText]

/-- A line that is the host's: no text of the card's stands in it. -/
def hostLine (key value : QString) : FormPart QChar := .fixed (key ++ qs ": " ++ value)

lemma formText_hostLine (key value : QString) (form : List (FormPart QChar)) :
    formText (hostLine key value :: form) = line q key value ++ formText form := by
  rw [formText, hostLine, text_cons, line_eq, FormPart.body]
  simp [formText]

lemma formText_append (form form' : List (FormPart QChar)) :
    formText (form ++ form') = formText form ++ formText form' :=
  List.flatMap_append

lemma lineHeads_eq_iff {form form' : List (FormPart QChar)} (hshape : SameShape form form')
    (hone : Clean (qc '\n') form ∨ Clean (qc '\n') form') :
    lineHeads (formText form) = lineHeads (formText form') ↔
      Clean (qc '\n') form ∧ Clean (qc '\n') form' :=
  heads_eq_iff (by decide) hshape hone

/-! ## A certificate -/

/-- The stamp that is shown, if there is one: a stamp that cannot be read leaves its line out. -/
def stampText : ValidityStamp → Option QString
  | .invalid => none
  | .unzoned wallClock => some wallClock
  | .zoned utc => some utc

/-- The certificates differ in their texts only, so that their files should have the same lines. -/
structure CertInfoAgree (x y : CertificateInfo) : Prop where
  stamped : x.notAfter = .invalid ↔ y.notAfter = .invalid
  usage : x.keyUsageBits = y.keyUsageBits
  extended : x.extendedKeyUsageOids = [] ↔ y.extendedKeyUsageOids = []
  signing : x.signingCapable = y.signingCapable
  chained : x.chainSubjectCns = [] ↔ y.chainSubjectCns = []

/-- No text of the certificate holds a line break.  A stamp, which is a date in ISO format, never
does. -/
structure CertInfoOneLine (x : CertificateInfo) : Prop where
  subject : OneLine x.subject
  issuer : OneLine x.issuer
  stamp : ∀ stamp ∈ stampText x.notAfter, OneLine stamp
  oids : ∀ oid ∈ x.extendedKeyUsageOids, OneLine oid
  chain : ∀ cn ∈ x.chainSubjectCns, OneLine cn

lemma oneLine_join {separator : QString} (hsep : OneLine separator) (l : List QString) :
    OneLine (join separator l) ↔ ∀ s ∈ l, OneLine s := by
  cases l with
  | nil => simp [join, OneLine]
  | cons s l =>
      rw [join, intercalate_cons]
      unfold OneLine at hsep ⊢
      simp [hsep]

/-- A line of several texts, where there are any. -/
def joinedEntry (key separator : QString) (l : List QString) : List (FormPart QChar) :=
  if l = [] then [] else [.entry key (join separator l)]

lemma clean_joinedEntry {separator : QString} (hsep : OneLine separator) (key : QString)
    (l : List QString) :
    Clean (qc '\n') (joinedEntry key separator l) ↔ ∀ s ∈ l, OneLine s := by
  rw [← oneLine_join hsep, joinedEntry]
  split_ifs with hl
  · simp [hl, Clean, join, OneLine]
  · simp [Clean, FormPart.value, OneLine]

lemma sameShape_joinedEntry {l l' : List QString} (h : l = [] ↔ l' = [])
    (key separator : QString) :
    SameShape (joinedEntry key separator l) (joinedEntry key separator l') := by
  unfold joinedEntry SameShape
  simp only [h]
  split_ifs <;> rfl

/-- A certificate's `info.txt` as a form: which lines there are, which texts of the certificate
stand in them, and which lines the host words alone. -/
def certInfoForm (cert : CertificateInfo) (labels : RenderLabels) : List (FormPart QChar) :=
  [.entry labels.labelSubject cert.subject, .entry labels.labelIssuer cert.issuer] ++
  ((stampText cert.notAfter).map fun stamp => FormPart.entry labels.labelValidUntil stamp).toList ++
  [hostLine labels.labelPurpose (join (qs ", ") (keyUsagePurposes cert.keyUsageBits labels))] ++
  joinedEntry labels.labelExtendedKeyUsage (qs ", ") cert.extendedKeyUsageOids ++
  [hostLine labels.labelSigningCapable
      (if cert.signingCapable then labels.valueYes else labels.valueNo),
    hostLine labels.labelTrust labels.trustNotEvaluated,
    hostLine labels.labelQualified labels.qualifiedUnknown] ++
  joinedEntry labels.labelChain (qs " -> ") cert.chainSubjectCns

lemma formText_certInfoForm (cert : CertificateInfo) (labels : RenderLabels) :
    formText (certInfoForm cert labels) = renderCertInfoTxt q cert labels := by
  have hnil : formText [] = [] := rfl
  unfold certInfoForm joinedEntry renderCertInfoTxt
  cases cert.notAfter <;>
    simp only [formText_append, formText_entry (q := q), formText_hostLine (q := q), hnil,
      stampText, Option.map_none, Option.map_some, Option.toList_none, Option.toList_some,
      List.append_nil, List.append_assoc, apply_ite formText]

lemma clean_certInfoForm {cert : CertificateInfo} (labels : RenderLabels) :
    Clean (qc '\n') (certInfoForm cert labels) ↔ CertInfoOneLine cert := by
  have hstamp : Clean (qc '\n') ((stampText cert.notAfter).map
      fun stamp => FormPart.entry labels.labelValidUntil stamp).toList ↔
      ∀ stamp ∈ stampText cert.notAfter, OneLine stamp := by
    cases stampText cert.notAfter <;> simp [Clean, FormPart.value, OneLine]
  have hnames : Clean (qc '\n') [.entry labels.labelSubject cert.subject,
      .entry labels.labelIssuer cert.issuer] ↔ OneLine cert.subject ∧ OneLine cert.issuer := by
    simp [Clean, FormPart.value, OneLine]
  simp only [certInfoForm, clean_append, hnames, hstamp,
    clean_joinedEntry (show OneLine (qs ", ") by decide),
    clean_joinedEntry (show OneLine (qs " -> ") by decide)]
  constructor
  · rintro ⟨⟨⟨⟨⟨⟨hsubject, hissuer⟩, hstamp⟩, -⟩, hoids⟩, -⟩, hchain⟩
    exact ⟨hsubject, hissuer, hstamp, hoids, hchain⟩
  · rintro ⟨hsubject, hissuer, hstamp, hoids, hchain⟩
    refine ⟨⟨⟨⟨⟨⟨hsubject, hissuer⟩, hstamp⟩, ?_⟩, hoids⟩, ?_⟩, hchain⟩ <;>
      simp [Clean, hostLine, FormPart.value]

lemma sameShape_certInfoForm {x y : CertificateInfo} (h : CertInfoAgree x y)
    (labels : RenderLabels) : SameShape (certInfoForm x labels) (certInfoForm y labels) := by
  -- The expiry line is there on both sides or on neither.
  have hstamp : SameShape
      ((stampText x.notAfter).map fun s => FormPart.entry labels.labelValidUntil s).toList
      ((stampText y.notAfter).map fun s => FormPart.entry labels.labelValidUntil s).toList := by
    have hstamped := h.stamped
    revert hstamped
    cases x.notAfter <;> cases y.notAfter <;> simp [stampText, SameShape, FormPart.blank]
  unfold certInfoForm
  rw [h.usage, h.signing]
  exact (((((SameShape.append rfl hstamp).append rfl).append
    (sameShape_joinedEntry h.extended _ _)).append rfl).append
    (sameShape_joinedEntry h.chained _ _))

/-! ## A reader -/

/-- The reader's name, as it is shown. -/
def readerText (presence : CardPresence) : QString :=
  if presence.readerLabel = [] then presence.readerName else presence.readerLabel

/-- The capabilities, as they are shown. -/
def capabilityText (capabilities : Capabilities) (labels : RenderLabels) : QString :=
  let caps :=
    (if capabilities.pki then [qs "PKI"] else []) ++
    (if capabilities.identityData then [labels.capIdentity] else []) ++
    (if capabilities.emrtdCrypto then [qs "eMRTD"] else []) ++
    (if capabilities.pinManagement then [labels.capPinManagement] else [])
  if caps = [] then labels.valueNone else join (qs ", ") caps

/-- A card's `info.txt` as a form. -/
def infoForm (presence : CardPresence) (labels : RenderLabels) : List (FormPart QChar) :=
  [.entry labels.labelReader (readerText presence),
    hostLine labels.labelCapabilities (capabilityText presence.capabilities labels),
    if presence.preReadAuth = [] then hostLine labels.labelPreReadAuth labels.valueAuthNone
    else .entry labels.labelPreReadAuth presence.preReadAuth]

/-- The presences differ in their texts only, so that their files should have the same lines. -/
structure InfoAgree (x y : CardPresence) : Prop where
  labelled : x.readerLabel = [] ↔ y.readerLabel = []
  capabilities : x.capabilities = y.capabilities
  authenticated : x.preReadAuth = [] ↔ y.preReadAuth = []

/-- No text of the presence that is shown holds a line break. -/
structure InfoOneLine (x : CardPresence) : Prop where
  reader : OneLine (readerText x)
  preReadAuth : OneLine x.preReadAuth

lemma formText_infoForm (presence : CardPresence) (labels : RenderLabels) :
    formText (infoForm presence labels) = renderInfoTxt q presence labels := by
  have hnil : formText [] = [] := rfl
  unfold infoForm renderInfoTxt readerText capabilityText
  by_cases hauth : presence.preReadAuth = [] <;>
    simp only [hauth, if_true, if_false, formText_entry (q := q), formText_hostLine (q := q), hnil,
      List.append_nil, List.append_assoc]

lemma clean_infoForm {presence : CardPresence} (labels : RenderLabels) :
    Clean (qc '\n') (infoForm presence labels) ↔ InfoOneLine presence := by
  have hform : Clean (qc '\n') (infoForm presence labels) ↔
      OneLine (readerText presence) ∧ OneLine presence.preReadAuth := by
    by_cases hauth : presence.preReadAuth = [] <;>
      simp [infoForm, hauth, Clean, hostLine, FormPart.value, OneLine]
  rw [hform]
  exact ⟨fun h => ⟨h.1, h.2⟩, fun h => ⟨h.reader, h.preReadAuth⟩⟩

lemma sameShape_infoForm {x y : CardPresence} (h : InfoAgree x y) (labels : RenderLabels) :
    SameShape (infoForm x labels) (infoForm y labels) := by
  unfold infoForm SameShape
  simp only [h.authenticated, h.capabilities, List.map_cons, List.map_nil]
  split_ifs <;> rfl

/-! ## An identity -/

/-- A group's part of the form; the groups but the first come `after` a blank line. -/
def sectionForm (after : QString) (fields : List IdentityFieldView) (group : QString) :
    List (FormPart QChar) :=
  .fixed (after ++ qs "[" ++ group ++ qs "]") ::
    (rowsOf groupOf group fields).map fun f => .entry (identityLabel f) f.value

/-- `identity.txt` as a form, group by group. -/
def identityForm (fields : List IdentityFieldView) : List (FormPart QChar) :=
  match groupsOf groupOf fields with
  | [] => []
  | group :: groups =>
      sectionForm [] fields group ++ groups.flatMap (sectionForm [qc '\n'] fields)

/-- The fields differ in their values only, so that their files should have the same lines. -/
def IdentityAgree (x y : List IdentityFieldView) : Prop :=
  (x.map fun f => (f.group, identityLabel f)) = y.map fun f => (f.group, identityLabel f)

/-- No field's value breaks the line. -/
def IdentityOneLine (x : List IdentityFieldView) : Prop := ∀ f ∈ x, OneLine f.value

lemma formText_sectionForm (after : QString) (fields : List IdentityFieldView) (group : QString) :
    formText (sectionForm after fields group) = after ++ identitySection fields group := by
  have hrows : ∀ rows : List IdentityFieldView,
      formText (rows.map fun f => FormPart.entry (identityLabel f) f.value) =
        rows.flatMap identityLine := by
    intro rows
    induction rows with
    | nil => rfl
    | cons f rows ih =>
        rw [List.map_cons, formText_entry (q := .plain), ih, line_eq]
        rfl
  have hclose : qs "]\n" = qs "]" ++ [qc '\n'] := by decide
  rw [sectionForm, formText, text_cons, ← formText, hrows, identitySection, hclose, FormPart.body]
  simp

lemma formText_identityForm (fields : List IdentityFieldView) :
    formText (identityForm fields) = renderIdentityTxt q fields := by
  rw [renderIdentityTxt_eq, identityText, identityForm]
  cases groupsOf groupOf fields with
  | nil => rfl
  | cons group groups =>
      have hrest : formText (groups.flatMap (sectionForm [qc '\n'] fields)) =
          groups.flatMap fun group => [qc '\n'] ++ identitySection fields group := by
        induction groups with
        | nil => rfl
        | cons group groups ih =>
            rw [List.flatMap_cons, List.flatMap_cons, formText_append, ih, formText_sectionForm]
      rw [List.map_cons, intercalate_cons, List.flatMap_map, formText_append, hrest,
        formText_sectionForm, List.nil_append]

lemma clean_sectionForm {after : QString} {fields : List IdentityFieldView} {group : QString} :
    Clean (qc '\n') (sectionForm after fields group) ↔
      ∀ f ∈ rowsOf groupOf group fields, OneLine f.value := by
  simp [Clean, sectionForm, FormPart.value, OneLine]

lemma clean_identityForm {fields : List IdentityFieldView} :
    Clean (qc '\n') (identityForm fields) ↔ IdentityOneLine fields := by
  have hgroups : Clean (qc '\n') (identityForm fields) ↔
      ∀ group ∈ groupsOf groupOf fields, ∀ f ∈ rowsOf groupOf group fields, OneLine f.value := by
    rw [identityForm]
    cases groupsOf groupOf fields with
    | nil => simp [Clean]
    | cons group groups =>
        have hrest : Clean (qc '\n') (groups.flatMap (sectionForm [qc '\n'] fields)) ↔
            ∀ group ∈ groups, Clean (qc '\n') (sectionForm [qc '\n'] fields group) := by
          simp only [Clean, List.mem_flatMap]
          grind
        rw [clean_append, hrest, List.forall_mem_cons, clean_sectionForm]
        simp only [clean_sectionForm]
  rw [hgroups]
  constructor
  · intro h f hf
    exact h f.group (mem_groupsOf.mpr ⟨f, hf, rfl⟩) f (mem_rowsOf.mpr ⟨hf, rfl⟩)
  · exact fun h group _ f hf => h f (mem_rowsOf.mp hf).1

lemma sameShape_identityForm {x y : List IdentityFieldView} (h : IdentityAgree x y) :
    SameShape (identityForm x) (identityForm y) := by
  have hgroups : groupsOf groupOf x = groupsOf groupOf y := by
    have hcolumn := congrArg (List.map Prod.fst) h
    simp only [List.map_map, Function.comp_def] at hcolumn
    rw [groupsOf, groupsOf, hcolumn]
  have hlabels : ∀ group, (rowsOf groupOf group x).map identityLabel =
      (rowsOf groupOf group y).map identityLabel := by
    intro group
    have hrows := congrArg (fun l => (l.filter fun row => row.1 = group).map Prod.snd) h
    simpa [rowsOf, List.filter_map, Function.comp_def] using hrows
  have hsection : ∀ after group, (sectionForm after x group).map FormPart.blank =
      (sectionForm after y group).map FormPart.blank := by
    intro after group
    have hentries := congrArg (List.map fun label => (FormPart.entry label [] : FormPart QChar))
      (hlabels group)
    simpa [sectionForm, FormPart.blank, Function.comp_def] using hentries
  unfold SameShape identityForm
  rw [hgroups]
  cases groupsOf groupOf y with
  | nil => rfl
  | cons group groups => simp [List.map_flatMap, hsection]

/-! ## The three leaves -/

/-- The lines of two leaves that differ in their texts only have the same heads if neither text
holds a line break, and do not if one of the two does. -/
theorem lines_agree_iff (q : Session) (labels : RenderLabels) :
    (∀ x y, CertInfoAgree x y → CertInfoOneLine x ∨ CertInfoOneLine y →
      (lineHeads (renderCertInfoTxt q x labels) = lineHeads (renderCertInfoTxt q y labels) ↔
        CertInfoOneLine x ∧ CertInfoOneLine y)) ∧
    (∀ x y, InfoAgree x y → InfoOneLine x ∨ InfoOneLine y →
      (lineHeads (renderInfoTxt q x labels) = lineHeads (renderInfoTxt q y labels) ↔
        InfoOneLine x ∧ InfoOneLine y)) ∧
    (∀ x y, IdentityAgree x y → IdentityOneLine x ∨ IdentityOneLine y →
      (lineHeads (renderIdentityTxt q x) = lineHeads (renderIdentityTxt q y) ↔
        IdentityOneLine x ∧ IdentityOneLine y)) := by
  refine ⟨fun x y hagree hone => ?_, fun x y hagree hone => ?_, fun x y hagree hone => ?_⟩
  · rw [← clean_certInfoForm labels, ← clean_certInfoForm labels] at hone ⊢
    rw [← formText_certInfoForm, ← formText_certInfoForm]
    exact lineHeads_eq_iff (sameShape_certInfoForm hagree labels) hone
  · rw [← clean_infoForm labels, ← clean_infoForm labels] at hone ⊢
    rw [← formText_infoForm, ← formText_infoForm]
    exact lineHeads_eq_iff (sameShape_infoForm hagree labels) hone
  · rw [← clean_identityForm, ← clean_identityForm] at hone ⊢
    rw [← formText_identityForm, ← formText_identityForm]
    exact lineHeads_eq_iff (sameShape_identityForm hagree) hone

/-- A certificate whose texts are one line each. -/
def plainCert : CertificateInfo where
  id := qs "sign"
  subject := qs "CN=Petar"
  issuer := qs "CN=CA"

/-- The same, with a subject that goes on in a line of its own. -/
def forgedCert : CertificateInfo where
  id := qs "sign"
  subject := qs "CN=Petar\nTrust: trusted"
  issuer := qs "CN=CA"

/-- The two agree on all but a text, and one of them has a line of trust more. -/
theorem forged_trust :
    CertInfoAgree plainCert forgedCert ∧
      lineHeads (renderCertInfoTxt .plain plainCert defaultRenderLabels) ≠
        lineHeads (renderCertInfoTxt .plain forgedCert defaultRenderLabels) := by
  constructor
  · constructor <;> decide
  · decide +kernel

end LibreKDE.Kio
