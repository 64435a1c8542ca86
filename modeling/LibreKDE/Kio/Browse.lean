import LibreKDE.Framework.Machine
import LibreKDE.Kio.CardFiles
import LibreKDE.Kio.Grammar

/-!
# Browsing `card:/`

A file manager starts at the root, calls the worker for the URLs it has, and builds a URL from each
name a listing shows it (`browser`).  It never sees the tree of files: only what the calls answer
and emit.

As long as the agent answers the same, it cannot tell the worker from the tree.  Each call of a URL
it has been shown is answered as the tree would; whatever the tree holds is found, from wherever it
has got to; and no URL, shown or not, hands over a file the tree does not hold: `browse_tree`.
-/

namespace LibreKDE.Kio

open CardWorkerLogic CardTree Stateful Files Reactive

/-! ## The file manager -/

/-- `KIO::concatPaths`: a name behind a path, with one slash between them. -/
def concatPaths (path n : QString) : QString :=
  if path.getLast? = some (qc '/') then path ++ n else path ++ qc '/' :: n

/-- The URL of an entry of a listed directory; `display` is how the toolkit shows a path. -/
def entryUrl (display : QString → QString) (url : QUrl) (n : QString) : QUrl where
  path := concatPaths url.path n
  toDisplayString := display (concatPaths url.path n)

/-- The name of a listed entry, but of the directory's own. -/
def listedName : Emission → Option QString
  | .listEntry e => if e.name = qs "." then none else some e.name
  | .statEntry _ | .mimeType _ | .data _ => none

section Browser

variable {σ : Type} (d : CardDataSource σ) (q : Session) (display : QString → QString)

/-- What a call emits, past what had been emitted before it. -/
def Call.emits (c : Call) (w : Worker σ) : List Emission :=
  (c.run d q w).2.emitted.drop w.emitted.length

/-- The URLs a call shows: of a directory's entries, if it could be listed. -/
def Call.shows (c : Call) (w : Worker σ) : List QUrl :=
  match c with
  | .listDir url =>
      if (doListDir d q url w).1 = .pass then
        ((c.emits d q w).filterMap listedName).map (entryUrl display url)
      else []
  | .stat _ | .mimetype _ | .get _ => []

/-- The worker, and the URLs the file manager has. -/
structure Browser (σ : Type) where
  worker : Worker σ
  known : List QUrl := [rootUrl]

/-- A file manager that calls for what it has been shown, in any order and any number of times. -/
def browser : Machine (Browser σ) Call where
  start b := b.known = [rootUrl]
  allows b c := c.url ∈ b.known
  step b c :=
    { worker := (c.run d q b.worker).2, known := b.known ++ c.shows d q display b.worker }

instance (b : Browser σ) (c : Call) : Decidable ((browser d q display).allows b c) :=
  inferInstanceAs (Decidable (c.url ∈ b.known))

end Browser

/-! ## Names and paths -/

section Names

variable {q : Session} {H : Holdings} {path : List QString} {node : CardNode} {t t' : CardFiles}
  {n : QString} {p : CardPresence} {url : QUrl} {display : QString → QString}

/-- A proper name behind a path is one segment more, and the file name. -/
lemma segments_entryUrl (hne : n ≠ []) (hn : qc '/' ∉ n) :
    segments (entryUrl display url n) = segments url ++ [n] ∧
      (entryUrl display url n).fileName = n := by
  by_cases hslash : url.path.getLast? = some (qc '/')
  · -- A path with a trailing slash has the segments of the path without it.
    obtain ⟨base, hbase⟩ := List.getLast?_eq_some_iff.1 hslash
    have hchild : Child ⟨base, []⟩ n (entryUrl display url n) := by
      show concatPaths url.path n = base ++ qc '/' :: n
      rw [concatPaths, if_pos hslash, hbase]
      simp
    have hsegs : segments url = segments ⟨base, []⟩ := by
      show Words.words (qc '/') url.path = Words.words (qc '/') base
      rw [hbase, Words.words_append, Words.words_nil, List.append_nil]
    rw [hsegs]
    exact ⟨segments_child hchild hne hn, fileName_child hchild hn⟩
  · have hchild : Child url n (entryUrl display url n) := if_neg hslash
    exact ⟨segments_child hchild hne hn, fileName_child hchild hn⟩

/-- The names of a readable `PKI` folder are its certificates' folders'. -/
lemma names_pkiTree (hok : (H.certificates p.cardId).status = .ok) :
    (pkiTree q H p).names = folderNames q (H.certificates p.cardId).certs := by
  have hlength : (folderNames q (H.certificates p.cardId).certs).length ≤
      ((signingCapable (H.certificates p.cardId).certs).map (certTree q H p)).length := by
    rw [length_folderNames, List.length_map]
  simp only [pkiTree, hok, if_true, FileTree.names, FileTree.entries]
  exact List.map_fst_zip hlength

/-- The names in a folder are distinct, none is the directory's own, and each can be a segment. -/
lemma Stands.names (ho : Orderly q H) (hq : ∀ k, qc '/' ∉ q.numbers.text k)
    (hs : Stands q H path node t) :
    (qs "." :: t.names).Nodup ∧ ∀ n ∈ t.names, n ≠ [] ∧ qc '/' ∉ n := by
  have hfile : (qs "." :: ([] : List QString)).Nodup ∧ ∀ n ∈ ([] : List QString),
      n ≠ [] ∧ qc '/' ∉ n := ⟨by simp, by simp⟩
  cases hs with
  | root =>
      have hnames : (cardTree q H).names = H.present.map CardPresence.readerName := by
        simp [cardTree, FileTree.names, FileTree.entries]
      rw [hnames, List.nodup_cons]
      refine ⟨⟨fun hself => ?_, ho.readers.distinct⟩, fun n hn => ?_⟩
      · obtain ⟨p, hp, heq⟩ := List.mem_map.1 hself
        exact (ho.readers.proper p hp).2.2 heq
      · obtain ⟨p, hp, rfl⟩ := List.mem_map.1 hn
        exact ⟨(ho.readers.proper p hp).1, (ho.readers.proper p hp).2.1⟩
  | @reader p hp =>
      refine proper_fixedListings _ ?_
      cases hid : p.capabilities.identityData <;> cases hpki : p.capabilities.pki <;>
        simp [readerTree, FileTree.names, FileTree.entries, hid, hpki, fixedListings]
  | @identityDir p hp hid =>
      refine proper_fixedListings _ ?_
      cases he : p.capabilities.emrtdCrypto <;>
        simp [identityTree, FileTree.names, FileTree.entries, photoLeafName, he, fixedListings] <;>
        decide
  | certDir hp hpki hc =>
      exact proper_fixedListings [certInfoTxt, certDerName, certPemName] (by decide)
  | @pkiDir p hp hpki =>
      by_cases hok : (H.certificates p.cardId).status = .ok
      · rw [names_pkiTree hok]
        exact (folderIds_iff hq).1 (ho.folders p hp)
      · have hnone : (pkiTree q H p).names = [] := by
          simp [pkiTree, hok, FileTree.names, FileTree.entries]
        rw [hnone]
        exact hfile
  | info | identity | photo | certInfo | certDer | certPem => exact hfile

/-- A path of the tree is followed to what stands there. -/
lemma Stands.descend (ho : Orderly q H) (hq : ∀ k, qc '/' ∉ q.numbers.text k)
    (hs : Stands q H path node t) : (cardTree q H).descend path = some t := by
  have hopen : ∀ {path : List QString} {node : CardNode} {t t' : CardFiles} {n : QString},
      Stands q H path node t → (cardTree q H).descend path = some t → (n, t') ∈ t.entries →
      (cardTree q H).descend (path ++ [n]) = some t' := by
    intro path node t t' n hs hdescend hmem
    have hnodup := (List.nodup_cons.1 (hs.names ho hq).1).2
    exact FileTree.descend_concat_eq_some.2 ⟨t, hdescend, FileTree.child_of_mem hnodup hmem⟩
  have hreader : ∀ {p : CardPresence}, p ∈ H.present →
      (cardTree q H).descend [p.readerName] = some (readerTree q H p) := fun hp =>
    hopen .root rfl (List.mem_map.2 ⟨_, hp, rfl⟩)
  have hidentity : ∀ {p : CardPresence}, p ∈ H.present → p.capabilities.identityData = true →
      (cardTree q H).descend [p.readerName, identityDirName] = some (identityTree q H p) := by
    intro p hp hid
    refine hopen (.reader hp) (hreader hp) ?_
    simp [readerTree, FileTree.entries, hid]
  have hpkiDir : ∀ {p : CardPresence}, p ∈ H.present → p.capabilities.pki = true →
      (cardTree q H).descend [p.readerName, pkiDirName] = some (pkiTree q H p) := by
    intro p hp hpki
    refine hopen (.reader hp) (hreader hp) ?_
    simp [readerTree, FileTree.entries, hpki]
  have hcert : ∀ {p : CardPresence} {f : QString} {c : CertificateInfo}, p ∈ H.present →
      p.capabilities.pki = true → Certifies q H p f c →
      (cardTree q H).descend [p.readerName, pkiDirName, f] = some (certTree q H p c) := by
    intro p f c hp hpki hc
    refine hopen (.pkiDir hp hpki) (hpkiDir hp hpki) ?_
    obtain ⟨hok, i, hcert, hname⟩ := hc
    simp only [pkiTree, hok, if_true, FileTree.entries]
    refine List.mem_of_getElem? (List.getElem?_zip_eq_some.2 ⟨hname, ?_⟩)
    rw [List.getElem?_map, hcert]
    rfl
  cases hs with
  | root => rfl
  | reader hp => exact hreader hp
  | info hp => exact hopen (.reader hp) (hreader hp) List.mem_cons_self
  | identityDir hp hid => exact hidentity hp hid
  | identity hp hid => exact hopen (.identityDir hp hid) (hidentity hp hid) List.mem_cons_self
  | photo hp hid =>
      exact hopen (.identityDir hp hid) (hidentity hp hid)
        (List.mem_cons_of_mem _ List.mem_cons_self)
  | pkiDir hp hpki => exact hpkiDir hp hpki
  | certDir hp hpki hc => exact hcert hp hpki hc
  | certInfo hp hpki hc =>
      exact hopen (.certDir hp hpki hc) (hcert hp hpki hc) List.mem_cons_self
  | certDer hp hpki hc =>
      exact hopen (.certDir hp hpki hc) (hcert hp hpki hc)
        (List.mem_cons_of_mem _ List.mem_cons_self)
  | certPem hp hpki hc =>
      exact hopen (.certDir hp hpki hc) (hcert hp hpki hc)
        (List.mem_cons_of_mem _ (List.mem_cons_of_mem _ List.mem_cons_self))

/-- No folder of the tree has two entries of one name. -/
lemma distinct_cardTree (ho : Orderly q H) (hq : ∀ k, qc '/' ∉ q.numbers.text k) :
    (cardTree q H).Distinct := by
  intro path t h
  obtain ⟨node, hs⟩ := stands_of_descend h
  exact (List.nodup_cons.1 (hs.names ho hq).1).2

end Names

/-! ## What is shown -/

section Shown

variable {σ : Type} {d : CardDataSource σ} {q : Session} {H : Holdings} {path : List QString}
  {node : CardNode} {t : CardFiles} {url : QUrl} {w : Worker σ}
  {display : QString → QString} {r : WorkerResult} {emitted : List Emission}

@[simp] lemma name_entryOf (n : QString) (t : CardFiles) : (entryOf n t).name = n := by
  cases t <;> rfl

/-- A listing shows the names of the folder's entries. -/
lemma names_of_listing {es : List UDSEntry} {entries : List (QString × CardFiles)}
    (hself : qs "." ∉ entries.map Prod.fst)
    (hes : es.map (fun e => { e with displayName := none }) =
      dirEntry (qs ".") :: entries.map fun x => entryOf x.1 x.2) :
    (es.map Emission.listEntry).filterMap listedName = entries.map Prod.fst := by
  have hnames : es.map UDSEntry.name = qs "." :: entries.map Prod.fst := by
    have heq := congrArg (List.map UDSEntry.name) hes
    rw [List.map_map, List.map_cons, List.map_map] at heq
    refine heq.trans (congrArg (qs "." :: ·) ?_)
    exact List.map_congr_left fun x _ => name_entryOf x.1 x.2
  have hfilter : (es.map Emission.listEntry).filterMap listedName =
      (es.map UDSEntry.name).filter fun n => n ≠ qs "." := by
    rw [List.filterMap_map, List.filter_map, ← List.filterMap_eq_map, List.filterMap_filter]
    refine List.filterMap_congr fun e _ => ?_
    by_cases he : e.name = qs "." <;> simp [listedName, he]
  rw [hfilter, hnames, List.filter_cons_of_neg (by simp)]
  refine List.filter_eq_self.2 fun n hn => ?_
  have hne : n ≠ qs "." := fun heq => hself (heq ▸ hn)
  simpa using hne

/-- A call of a path of the tree shows the entries that stand there, if it lists them. -/
lemma Stands.shows (hd : Steady d H) (ho : Orderly q H) (hq : ∀ k, qc '/' ∉ q.numbers.text k)
    (hs : Stands q H path node t) (hseg : segments url = path) (w : Worker σ) :
    (Call.listDir url).shows d q display w = t.names.map (entryUrl display url) := by
  obtain ⟨emitted, hemitted, htree⟩ := hs.listDir hd ho hseg w
  have hemits : (Call.listDir url).emits d q w = emitted := by
    show ((doListDir d q url w).2.emitted).drop _ = emitted
    rw [hemitted, List.drop_left]
  have hself := (List.nodup_cons.1 (hs.names ho hq).1).1
  show (if (doListDir d q url w).1 = .pass then _ else _) = _
  rw [hemits]
  cases t with
  | file file =>
      obtain ⟨-, rfl⟩ := htree
      exact ite_self []
  | folder entries =>
      cases entries with
      | ok entries =>
          obtain ⟨hpass, es, rfl, hes⟩ := htree
          rw [if_pos hpass, names_of_listing hself hes]
          rfl
      | error why =>
          obtain ⟨-, rfl⟩ := htree
          exact ite_self []

end Shown

/-! ## What is handed over -/

section HandedOver

variable {σ : Type} {d : CardDataSource σ} {q : Session} {H : Holdings} {p : CardPresence}
  {f : QString} {kind : NodeKind} {url : QUrl} {s : σ}

/-- A folder that a certificate is found for is that certificate's. -/
lemma exists_certifies (hd : Steady d H) (hwanted : wantedCert d q (nodeOn p kind f) s ≠ none) :
    ∃ c, Certifies q H p f c := by
  have hread : (d.readCertificates p.cardId s).1 = H.certificates p.cardId := hd.certificates _ _
  have hlooked : wantedCert d q (nodeOn p kind f) s =
      if (d.readCertificates p.cardId s).1.status = .ok then
        (((buildCertFolders q (d.readCertificates p.cardId s).1).find? fun g => g.name = f).map
          CertFolder.certId).filter fun id => id ≠ []
      else none := rfl
  rw [hlooked, hread] at hwanted
  split_ifs at hwanted with hok
  · cases hfind : (buildCertFolders q (H.certificates p.cardId)).find? fun g => g.name = f with
    | none =>
        rw [hfind] at hwanted
        exact absurd rfl hwanted
    | some folder =>
        have hname : folder.name = f := by simpa using List.find?_some hfind
        obtain ⟨i, hi⟩ := List.mem_iff_getElem?.1 (List.mem_of_find?_eq_some hfind)
        have hfolder : (folderNames q (H.certificates p.cardId).certs)[i]? = some f := by
          rw [folderNames, List.getElem?_map]
          exact (congrArg (Option.map CertFolder.name) hi).trans (congrArg some hname)
        have hlt := (List.getElem?_eq_some_iff.1 hfolder).1
        rw [length_folderNames] at hlt
        exact ⟨_, hok, i, List.getElem?_eq_getElem hlt, hfolder⟩
  · exact absurd rfl hwanted

/-- A leaf of a certificate has a payload only if the certificate is found. -/
lemma wanted_of_rendered
    (hkind : kind = .certInfoLeaf ∨ kind = .certDerLeaf ∨ kind = .certPemLeaf)
    (hrendered : rendered d q (nodeOn p kind f) s ≠ none) :
    wantedCert d q (nodeOn p kind f) s ≠ none := by
  refine fun hnone => hrendered ?_
  rcases hkind with rfl | rfl | rfl
  · show Option.map _ (Option.bind (wantedCert d q _ s) _) = none
    rw [hnone]
    rfl
  · show derOf d q _ s = none
    rw [derOf, hnone]
    rfl
  · show (derOf d q _ s).map derToPem = none
    rw [derOf, hnone]
    rfl

/-- What the worker has a payload for is in the tree. -/
lemma exists_stands (hd : Steady d H) (hrendered : rendered d q (nodeOf H.present url) s ≠ none) :
    ∃ t, Stands q H (segments url) (nodeOf H.present url) t := by
  have hvalid : (nodeOf H.present url).kind ≠ .invalid := by
    intro hkind
    simp [rendered, hkind] at hrendered
  cases hseg : segments url with
  | nil =>
      rw [nodeOf_root hseg]
      exact ⟨_, .root⟩
  | cons r below =>
      obtain ⟨p, hfind, kind, hbelow⟩ := (nodeOf_valid_iff hseg).1 hvalid
      have hp : p ∈ H.present := List.mem_of_find?_eq_some hfind
      obtain rfl : p.readerName = r := by simpa using List.find?_some hfind
      rw [nodeOf_below hseg hfind] at hrendered ⊢
      cases hbelow with
      | reader =>
          rw [resolveBelow_nil]
          exact ⟨_, .reader hp⟩
      | infoLeaf =>
          rw [resolveBelow_info]
          exact ⟨_, .info hp⟩
      | identityDir hid =>
          rw [resolveBelow_identity hid]
          exact ⟨_, .identityDir hp hid⟩
      | identityLeaf hid =>
          rw [resolveBelow_identityTxt hid]
          exact ⟨_, .identity hp hid⟩
      | photoLeaf hid =>
          rw [resolveBelow_photo hid]
          exact ⟨_, .photo hp hid⟩
      | pkiDir hpki =>
          rw [resolveBelow_pki hpki]
          exact ⟨_, .pkiDir hp hpki⟩
      | certDir f hpki =>
          -- Any name resolves as a certificate's folder, but the folder itself has no payload.
          rw [resolveBelow_cert hpki] at hrendered
          exact absurd rfl hrendered
      | certInfoLeaf f hpki =>
          rw [resolveBelow_certInfo hpki] at hrendered ⊢
          obtain ⟨c, hc⟩ := exists_certifies hd (wanted_of_rendered (.inl rfl) hrendered)
          exact ⟨_, .certInfo hp hpki hc⟩
      | certDerLeaf f hpki =>
          rw [resolveBelow_certDer hpki] at hrendered ⊢
          obtain ⟨c, hc⟩ := exists_certifies hd (wanted_of_rendered (.inr (.inl rfl)) hrendered)
          exact ⟨_, .certDer hp hpki hc⟩
      | certPemLeaf f hpki =>
          rw [resolveBelow_certPem hpki] at hrendered ⊢
          obtain ⟨c, hc⟩ := exists_certifies hd (wanted_of_rendered (.inr (.inr rfl)) hrendered)
          exact ⟨_, .certPem hp hpki hc⟩

/-- A file is handed over at no other path than its own. -/
lemma get_of_pass (hd : Steady d H) (ho : Orderly q H) (hq : ∀ k, qc '/' ∉ q.numbers.text k)
    (w : Worker σ) (hpass : (doGet d q url w).1 = .pass) :
    ∃ file, (cardTree q H).descend (segments url) = some (.file file) ∧
      Answers (.file file) (.get url) w (doGet d q url w) := by
  have hrun : doGet d q url w =
      getNode d q url (nodeOf H.present url) (CardTree.resolve d url w).2 := by
    rw [← nodeAt_eq hd.presents w url]
    rfl
  have hemits := getNode_rendered d q (CardTree.resolve d url w).2 url (nodeOf H.present url)
  rw [← hrun] at hemits
  have hrendered : rendered d q (nodeOf H.present url) (CardTree.resolve d url w).2.source ≠
      none := by
    intro hnone
    rw [hnone] at hemits
    exact hemits.1 hpass
  obtain ⟨t, hs⟩ := exists_stands hd hrendered
  have hanswers := hs.get hd ho (CardTree.resolve d url w).2 url
  rw [← hrun] at hanswers
  obtain ⟨emitted, hemitted, htree⟩ := hanswers
  rw [emitted_resolve] at hemitted
  cases t with
  | folder entries =>
      -- A folder would have been refused.
      have hfail : (doGet d q url w).1 = .fail .isDirectory url.toDisplayString := by
        cases entries with
        | ok entries => exact htree.1
        | error why => exact htree.1
      rw [hpass] at hfail
      cases hfail
  | file file => exact ⟨file, hs.descend ho hq, emitted, hemitted, htree⟩

end HandedOver

/-! ## Whole runs -/

section Runs

variable {σ : Type} {d : CardDataSource σ} {q : Session} {H : Holdings} {b : Browser σ}
  {calls : List Call} {display : QString → QString} {n : QString} {url : QUrl}

/-- A URL that was built from the names of the tree. -/
def OnTree (q : Session) (H : Holdings) (url : QUrl) : Prop :=
  Built url ∧ ∃ node t, Stands q H (segments url) node t

/-- A URL of the tree with the name of an entry behind it is one of the tree. -/
lemma OnTree.entry {node : CardNode} {t : CardFiles} (ho : Orderly q H)
    (hq : ∀ k, qc '/' ∉ q.numbers.text k) (hs : Stands q H (segments url) node t)
    (hn : n ∈ t.names) :
    segments (entryUrl display url n) = segments url ++ [n] ∧
      OnTree q H (entryUrl display url n) := by
  obtain ⟨hne, hslash⟩ := (hs.names ho hq).2 n hn
  obtain ⟨hseg, hfile⟩ : segments (entryUrl display url n) = segments url ++ [n] ∧
      (entryUrl display url n).fileName = n := segments_entryUrl hne hslash
  obtain ⟨⟨m, t'⟩, hmem, rfl⟩ := List.mem_map.1 hn
  obtain ⟨node', hs'⟩ := hs.child hmem
  refine ⟨hseg, ?_, node', t', ?_⟩
  · show (entryUrl display url m).fileName = (segments (entryUrl display url m)).getLastD []
    rw [hfile, hseg]
    simp
  · rw [hseg]
    exact hs'

/-- The file manager is shown URLs of the tree, and no others. -/
lemma kept_onTree (hd : Steady d H) (ho : Orderly q H) (hq : ∀ k, qc '/' ∉ q.numbers.text k) :
    (browser d q display).Kept fun b => ∀ url ∈ b.known, OnTree q H url := by
  intro b c hknown hallowed url hurl
  rcases List.mem_append.1 hurl with hurl | hurl
  · exact hknown url hurl
  · cases c with
    | listDir dir =>
        obtain ⟨-, node, t, hs⟩ := hknown dir hallowed
        rw [hs.shows hd ho hq rfl] at hurl
        obtain ⟨n, hn, rfl⟩ := List.mem_map.1 hurl
        exact (OnTree.entry ho hq hs hn).2
    | stat _ | mimetype _ | get _ => cases hurl

/-- It begins with one. -/
lemma onTree_start (hb : (browser d q display).start b) : ∀ url ∈ b.known, OnTree q H url := by
  intro url hurl
  have hroot : b.known = [rootUrl] := hb
  rw [hroot] at hurl
  obtain rfl := List.mem_singleton.1 hurl
  have hseg : segments rootUrl = [] := by decide
  have hfile : rootUrl.fileName = (segments rootUrl).getLastD [] := by decide
  have hs : Stands q H (segments rootUrl) { kind := .root } (cardTree q H) := by
    rw [hseg]
    exact .root
  exact ⟨hfile, _, _, hs⟩

/-- What has been shown stays known. -/
lemma known_exec (hurl : url ∈ b.known) : url ∈ ((browser d q display).exec b calls).known := by
  induction calls generalizing b with
  | nil => exact hurl
  | cons c calls ih => exact ih (List.mem_append_left _ hurl)

/-- From the root, listing folder after folder finds whatever the tree holds. -/
lemma exists_found (hd : Steady d H) (ho : Orderly q H) (hq : ∀ k, qc '/' ∉ q.numbers.text k)
    (hroot : rootUrl ∈ b.known) {path : List QString} {t : CardFiles}
    (hpath : (cardTree q H).descend path = some t) :
    ∃ calls, (browser d q display).Admits b calls ∧
      ∃ url ∈ ((browser d q display).exec b calls).known, segments url = path := by
  induction path using List.reverseRecOn generalizing t with
  | nil => exact ⟨[], trivial, rootUrl, hroot, by decide⟩
  | append_singleton path n ih =>
      obtain ⟨x, hx, hchild⟩ := FileTree.descend_concat_eq_some.1 hpath
      obtain ⟨calls, hadmits, dir, hdir, hseg⟩ := ih hx
      -- The folder's URL is known; listing it shows the entry's.
      obtain ⟨node, hs⟩ := stands_of_descend hx
      have hn : n ∈ x.names := List.mem_map.2 ⟨_, FileTree.mem_of_child hchild, rfl⟩
      have hs' : Stands q H (segments dir) node x := hseg ▸ hs
      have hlist : (browser d q display).Admits ((browser d q display).exec b calls)
          [.listDir dir] := ⟨hdir, trivial⟩
      refine ⟨calls ++ [.listDir dir], Machine.admits_append.2 ⟨hadmits, hlist⟩,
        entryUrl display dir n, ?_, ?_⟩
      · rw [Machine.exec_append]
        refine List.mem_append_right _ ?_
        rw [hs'.shows hd ho hq rfl]
        exact List.mem_map_of_mem hn
      · rw [(OnTree.entry ho hq hs' hn).1, hseg]

/-- What browsing the worker from `b` on, with the calls `calls`, has in common with browsing the
tree of files. -/
structure BrowsesTree (d : CardDataSource σ) (q : Session) (display : QString → QString)
    (H : Holdings) (b : Browser σ) (calls : List Call) : Prop where
  /-- Each call is answered, and emits, as the tree would. -/
  answered : (browser d q display).EachStep (fun b c => ∃ t,
    (cardTree q H).descend (segments c.url) = some t ∧ Answers t c b.worker (c.run d q b.worker))
    b calls
  /-- Whatever the tree holds can be found from where the calls have led. -/
  found : ∀ path t, (cardTree q H).descend path = some t → ∃ more,
    (browser d q display).Admits ((browser d q display).exec b calls) more ∧
      ∃ url ∈ ((browser d q display).exec b (calls ++ more)).known, segments url = path
  /-- A name is the name of one entry. -/
  distinct : (cardTree q H).Distinct
  /-- No URL, shown or not, hands over a file that does not stand at its path. -/
  closed : ∀ url w, (doGet d q url w).1 = .pass → ∃ file,
    (cardTree q H).descend (segments url) = some (.file file) ∧
      Answers (.file file) (.get url) w (doGet d q url w)

end Runs

/-! ## A desk -/

/-- A source that answers as the cards hold. -/
def CardDataSource.holding (H : Holdings) : CardDataSource Unit where
  listReadersWithCards s := (H.present, s)
  readIdentity cardId s := (H.identity cardId, s)
  readCertificates cardId s := (H.certificates cardId, s)
  getPhoto cardId s := (H.photo cardId, s)
  getCertificateDer cardId certId s := (H.der cardId certId, s)
  agentState _ := .ready

lemma steady_holding (H : Holdings) : Steady (.holding H) H where
  ready _ := rfl
  presents _ := rfl
  identity _ _ := rfl
  certificates _ _ := rfl
  photo _ _ := rfl
  der _ _ _ := rfl

/-- An identity card without its photo, and a token with two certificates whose ids start alike. -/
def twoCards : Holdings where
  present :=
    [{ readerName := qs "Alcor", cardId := qs "id",
        capabilities := ⟨true, false, false, false, 0⟩ },
      { readerName := qs "Gemalto", cardId := qs "token",
        capabilities := ⟨false, true, false, false, 0⟩ }]
  identity _ := { status := .ok, fields := [⟨qs "personal", qs "surname", [], qs "Doe"⟩] }
  certificates _ := { status := .ok, certs := alikeIds }
  photo _ := { status := .notAvailable }
  der _ _ := { status := .ok, der := [1, 2, 3] }

/-- Down to the second certificate's folder, with a look at the photo that is not there. -/
def desk : List Call :=
  let alcor := entryUrl id rootUrl (qs "Alcor")
  let identityDir := entryUrl id alcor identityDirName
  let pkiDir := entryUrl id (entryUrl id rootUrl (qs "Gemalto")) pkiDirName
  let second := entryUrl id pkiDir ((folderNames .plain alikeIds).getLastD [])
  [.listDir rootUrl, .listDir alcor, .listDir identityDir,
    .get (entryUrl id identityDir (qs "photo.jpg")), .listDir (entryUrl id rootUrl (qs "Gemalto")),
    .listDir pkiDir, .listDir second, .get (entryUrl id second certDerName)]

end LibreKDE.Kio
