import LibreKDE.Framework.Words
import LibreKDE.Kio.CertFolders

/-!
# Paths, nodes and listings

What the worker's calls come to while the agent reports the same cards (`Presents`).  A path is cut
at its slashes and matched to the first reader of that name (`nodeOf`); a node answers `stat` and
`mimetype` by itself (`statOf`, `mimeOf`); and a listing that succeeds emits the entry `.` and then
those of `childEntries` (`doListDir_run`).

`DirBelow` names the directories below a reader together with the paths to them.
-/

namespace LibreKDE.Kio

open CardWorkerLogic CardTree Stateful

/-! ## Paths -/

section Paths

variable {url url' : QUrl} {n : QString}

/-- A name put behind a path. -/
def Child (url : QUrl) (n : QString) (url' : QUrl) : Prop := url'.path = url.path ++ qc '/' :: n

lemma mem_segments (h : n ∈ segments url) : n ≠ [] ∧ qc '/' ∉ n := Words.mem_words h

lemma splitOn_child (hchild : Child url n url') (hn : qc '/' ∉ n) :
    url'.path.splitOn (qc '/') = url.path.splitOn (qc '/') ++ [n] := by
  rw [hchild, List.splitOn_eq_splitOnP, List.splitOnP_append_cons _ _ (by simp),
    ← List.splitOn_eq_splitOnP, ← List.splitOn_eq_splitOnP, List.splitOn_eq_singleton hn]

/-- A proper name is one segment more. -/
lemma segments_child (hchild : Child url n url') (hne : n ≠ []) (hn : qc '/' ∉ n) :
    segments url' = segments url ++ [n] := by
  have hwords : segments url' = Words.words (qc '/') (url.path ++ qc '/' :: n) := by
    rw [← hchild]
    rfl
  rw [hwords, Words.words_append, Words.words_of_notMem hne hn]
  rfl

lemma fileName_child (hchild : Child url n url') (hn : qc '/' ∉ n) : url'.fileName = n := by
  rw [QUrl.fileName, splitOn_child hchild hn]
  simp

end Paths

/-! ## Below a reader -/

/-- A node on a reader's card. -/
def nodeOn (p : CardPresence) (kind : NodeKind) (folder : QString) : CardNode where
  kind := kind
  readerName := p.readerName
  certFolder := folder
  presence := p

section Below

variable {p : CardPresence} {f : QString} {below : List QString}

lemma resolveBelow_nil : resolveBelow p [] = nodeOn p .reader [] := rfl

lemma resolveBelow_info : resolveBelow p [infoTxt] = nodeOn p .infoLeaf [] := by
  unfold resolveBelow
  simp [nodeOn]

lemma resolveBelow_identity (hid : p.capabilities.identityData = true) :
    resolveBelow p [identityDirName] = nodeOn p .identityDir [] := by
  have hinfo : identityDirName ≠ infoTxt := by decide
  unfold resolveBelow
  simp [hid, hinfo, nodeOn]

lemma resolveBelow_identityTxt (hid : p.capabilities.identityData = true) :
    resolveBelow p [identityDirName, identityTxt] = nodeOn p .identityLeaf [] := by
  unfold resolveBelow
  simp [hid, nodeOn]

lemma photoLeafName_ne (caps : Capabilities) : photoLeafName caps ≠ identityTxt := by
  unfold photoLeafName
  split_ifs <;> decide

lemma resolveBelow_photo (hid : p.capabilities.identityData = true) :
    resolveBelow p [identityDirName, photoLeafName p.capabilities] = nodeOn p .photoLeaf [] := by
  unfold resolveBelow
  simp [hid, photoLeafName_ne, nodeOn]

section Pki

variable (hpki : p.capabilities.pki = true)

include hpki

lemma resolveBelow_pki : resolveBelow p [pkiDirName] = nodeOn p .pkiDir [] := by
  have hinfo : pkiDirName ≠ infoTxt := by decide
  have hidentity : pkiDirName ≠ identityDirName := by decide
  unfold resolveBelow
  simp [hpki, hinfo, hidentity, nodeOn]

lemma resolveBelow_cert : resolveBelow p [pkiDirName, f] = nodeOn p .certDir f := by
  have hidentity : pkiDirName ≠ identityDirName := by decide
  unfold resolveBelow
  simp [hpki, hidentity, nodeOn]

lemma resolveBelow_certInfo :
    resolveBelow p [pkiDirName, f, certInfoTxt] = nodeOn p .certInfoLeaf f := by
  have hidentity : pkiDirName ≠ identityDirName := by decide
  unfold resolveBelow
  simp [hpki, hidentity, nodeOn]

lemma resolveBelow_certDer :
    resolveBelow p [pkiDirName, f, certDerName] = nodeOn p .certDerLeaf f := by
  have hidentity : pkiDirName ≠ identityDirName := by decide
  have hinfo : certDerName ≠ certInfoTxt := by decide
  unfold resolveBelow
  simp [hpki, hidentity, hinfo, nodeOn]

lemma resolveBelow_certPem :
    resolveBelow p [pkiDirName, f, certPemName] = nodeOn p .certPemLeaf f := by
  have hidentity : pkiDirName ≠ identityDirName := by decide
  have hinfo : certPemName ≠ certInfoTxt := by decide
  have hder : certPemName ≠ certDerName := by decide
  unfold resolveBelow
  simp [hpki, hidentity, hinfo, hder, nodeOn]

end Pki

/-- The kinds that can be listed, and that `get` refuses. -/
def NodeKind.isDir : NodeKind → Bool
  | .root | .reader | .identityDir | .pkiDir | .certDir => true
  | .invalid | .infoLeaf | .identityLeaf | .photoLeaf | .certInfoLeaf | .certDerLeaf
  | .certPemLeaf => false

/-- The directories below a reader, and the paths to them. -/
inductive DirBelow (p : CardPresence) : List QString → CardNode → Prop
  | reader : DirBelow p [] (nodeOn p .reader [])
  | identityDir : p.capabilities.identityData = true →
      DirBelow p [identityDirName] (nodeOn p .identityDir [])
  | pkiDir : p.capabilities.pki = true → DirBelow p [pkiDirName] (nodeOn p .pkiDir [])
  | certDir (f : QString) : p.capabilities.pki = true →
      DirBelow p [pkiDirName, f] (nodeOn p .certDir f)

/-- A kind tells the path. -/
lemma below_of_kind (p : CardPresence) (below : List QString) :
    (resolveBelow p below).kind ≠ .root ∧
      ((resolveBelow p below).kind = .reader → below = []) ∧
      ((resolveBelow p below).kind = .identityDir →
        below = [identityDirName] ∧ p.capabilities.identityData = true) ∧
      ((resolveBelow p below).kind = .pkiDir →
        below = [pkiDirName] ∧ p.capabilities.pki = true) ∧
      ((resolveBelow p below).kind = .certDir →
        ∃ f, below = [pkiDirName, f] ∧ p.capabilities.pki = true) := by
  unfold resolveBelow
  repeat' split
  all_goals simp_all

lemma dirBelow (hdir : (resolveBelow p below).kind.isDir = true) :
    DirBelow p below (resolveBelow p below) := by
  obtain ⟨hroot, hreader, hidentity, hpki, hcert⟩ := below_of_kind p below
  cases hkind : (resolveBelow p below).kind with
  | root => exact absurd hkind hroot
  | reader =>
      obtain rfl := hreader hkind
      exact .reader
  | identityDir =>
      obtain ⟨rfl, hid⟩ := hidentity hkind
      rw [resolveBelow_identity hid]
      exact .identityDir hid
  | pkiDir =>
      obtain ⟨rfl, hp⟩ := hpki hkind
      rw [resolveBelow_pki hp]
      exact .pkiDir hp
  | certDir =>
      obtain ⟨f, rfl, hp⟩ := hcert hkind
      rw [resolveBelow_cert hp]
      exact .certDir f hp
  | invalid | infoLeaf | identityLeaf | photoLeaf | certInfoLeaf | certDerLeaf | certPemLeaf =>
      rw [hkind] at hdir
      cases hdir

end Below

/-! ## Nodes -/

/-- What a URL resolves to where these cards are present. -/
def nodeOf (present : List CardPresence) (url : QUrl) : CardNode :=
  match segments url with
  | [] => { kind := .root }
  | s0 :: below =>
      ((present.find? fun p => p.readerName = s0).map fun p => resolveBelow p below).getD {}

/-- The agent reports these cards whenever it is asked. -/
def Presents {σ : Type} (d : CardDataSource σ) (present : List CardPresence) : Prop :=
  ∀ s, (d.listReadersWithCards s).1 = present

/-- The entry `doStat` reports, as a function of the node and the URL: no answer of the source has a
part in it. -/
def statOf (url : QUrl) (node : CardNode) : Option UDSEntry :=
  match node.kind with
  | .root => some (dirEntry (qs "card"))
  | .reader => some (dirEntry node.readerName)
  | .identityDir => some (dirEntry identityDirName)
  | .pkiDir => some (dirEntry pkiDirName)
  | .certDir => some (dirEntry node.certFolder)
  | .infoLeaf | .identityLeaf | .certInfoLeaf => some (fileEntry url.fileName (qs "text/plain"))
  | .photoLeaf => some (fileEntry url.fileName (photoMimeForName url.fileName))
  | .certDerLeaf => some (fileEntry certDerName certDerMime)
  | .certPemLeaf => some (fileEntry certPemName certPemMime)
  | .invalid => none

/-- The MIME type `doMimetype` reports, as a function of the node and the URL. -/
def mimeOf (url : QUrl) (node : CardNode) : Option QString :=
  match node.kind with
  | .infoLeaf | .identityLeaf | .certInfoLeaf => some (qs "text/plain")
  | .certDerLeaf => some certDerMime
  | .certPemLeaf => some certPemMime
  | .photoLeaf => some (photoMimeForName url.fileName)
  | .root | .reader | .identityDir | .pkiDir | .certDir => some (qs "inode/directory")
  | .invalid => none

section Nodes

variable {σ : Type} {d : CardDataSource σ} {q : Session} {present : List CardPresence}
  {w : Worker σ} {url : QUrl} {e : UDSEntry} {mime : QString}

lemma nodeAt_run (w : Worker σ) (url : QUrl) :
    nodeAt d w url = nodeOf (d.listReadersWithCards w.source).1 url := by
  unfold nodeAt nodeOf CardTree.resolve
  cases segments url with
  | nil => rfl
  | cons s0 below =>
      have hfound : (presenceFor d s0 w).1 =
          (d.listReadersWithCards w.source).1.find? fun p => p.readerName = s0 := rfl
      simp only [run_bind, hfound]
      cases (d.listReadersWithCards w.source).1.find? fun p => p.readerName = s0 <;> rfl

lemma nodeAt_eq (hd : Presents d present) (w : Worker σ) (url : QUrl) :
    nodeAt d w url = nodeOf present url := by
  rw [nodeAt_run, hd]

lemma emitted_resolve (w : Worker σ) (url : QUrl) :
    (CardTree.resolve d url w).2.emitted = w.emitted :=
  keeps_resolve (fun _ _ => rfl) w

/-- What `doStat` and `doMimetype` end in: they emit their answer, or find nothing. -/
def answer {α : Type} (emission : α → Emission) (url : QUrl) : Option α → WorkerM σ WorkerResult
  | some a => do
      emit (emission a)
      return .pass
  | none => return .fail .doesNotExist url.toDisplayString

lemma answer_run {α : Type} (emission : α → Emission) (url : QUrl) (a : Option α)
    (w : Worker σ) :
    (∃ b, a = some b ∧ (answer emission url a w).1 = .pass ∧
        (answer emission url a w).2.emitted = w.emitted ++ [emission b]) ∨
      a = none ∧ (answer emission url a w).1 ≠ .pass := by
  cases a with
  | none => exact .inr ⟨rfl, by simp [answer, run_pure]⟩
  | some b => exact .inl ⟨b, rfl, rfl, rfl⟩

/-- `doStat` is answered by the node alone. -/
lemma doStat_run (w : Worker σ) (url : QUrl) :
    doStat d url w =
      answer .statEntry url (statOf url (nodeAt d w url)) (CardTree.resolve d url w).2 := by
  rw [doStat, run_bind, nodeAt]
  generalize CardTree.resolve d url w = r
  obtain ⟨node, w'⟩ := r
  unfold statOf
  cases node.kind <;> rfl

lemma doMimetype_run (w : Worker σ) (url : QUrl) :
    doMimetype d url w =
      answer .mimeType url (mimeOf url (nodeAt d w url)) (CardTree.resolve d url w).2 := by
  rw [doMimetype, run_bind, nodeAt]
  generalize CardTree.resolve d url w = r
  obtain ⟨node, w'⟩ := r
  unfold mimeOf
  cases node.kind <;> rfl

lemma doStat_eq (hd : Presents d present) (w : Worker σ) (url : QUrl) :
    doStat d url w =
      answer .statEntry url (statOf url (nodeOf present url)) (CardTree.resolve d url w).2 := by
  rw [doStat_run, nodeAt_eq hd]

lemma doMimetype_eq (hd : Presents d present) (w : Worker σ) (url : QUrl) :
    doMimetype d url w =
      answer .mimeType url (mimeOf url (nodeOf present url)) (CardTree.resolve d url w).2 := by
  rw [doMimetype_run, nodeAt_eq hd]

/-- A directory is the root, or lies below a reader that is present. -/
lemma nodeOf_dir (hdir : (nodeOf present url).kind.isDir = true) :
    segments url = [] ∧ nodeOf present url = { kind := .root } ∨
      ∃ s0 below p, segments url = s0 :: below ∧
        present.find? (fun p => p.readerName = s0) = some p ∧
        DirBelow p below (nodeOf present url) := by
  unfold nodeOf at hdir ⊢
  cases hseg : segments url with
  | nil => exact .inl ⟨rfl, rfl⟩
  | cons s0 below =>
      simp only [hseg] at hdir
      cases hfind : present.find? fun p => p.readerName = s0 with
      | none => simp [hfind, NodeKind.isDir] at hdir
      | some p =>
          simp only [hfind, Option.map_some, Option.getD_some] at hdir
          refine .inr ⟨s0, below, p, rfl, hfind, ?_⟩
          simp only [hfind, Option.map_some, Option.getD_some]
          exact dirBelow hdir

/-- The node one name below a directory. -/
lemma nodeOf_child {s0 n : QString} {below : List QString} {p : CardPresence} {url' : QUrl}
    (hseg : segments url = s0 :: below)
    (hfind : present.find? (fun p => p.readerName = s0) = some p) (hchild : Child url n url')
    (hne : n ≠ []) (hn : qc '/' ∉ n) :
    nodeOf present url' = resolveBelow p (below ++ [n]) := by
  unfold nodeOf
  rw [segments_child hchild hne hn, hseg]
  simp [hfind]

lemma isDir_of_statOf {node : CardNode} (hstat : statOf url node = some e)
    (hdir : e.isDir = true) : node.kind.isDir = true := by
  unfold statOf at hstat
  split at hstat
  all_goals first
    | (next hkind => rw [hkind]; rfl)
    | (obtain rfl := Option.some.inj hstat; cases hdir)
    | cases hstat

/-- A directory reports a name that can be a segment. -/
lemma name_of_statOf (hstat : statOf url (nodeOf present url) = some e) (hdir : e.isDir = true) :
    e.name ≠ [] ∧ qc '/' ∉ e.name := by
  rcases nodeOf_dir (isDir_of_statOf hstat hdir) with
    ⟨-, hnode⟩ | ⟨s0, below, p, hseg, hfind, hbelow⟩
  · rw [hnode] at hstat
    obtain rfl := Option.some.inj hstat
    decide
  · generalize nodeOf present url = node at hstat hbelow
    cases hbelow with
    | reader =>
        obtain rfl := Option.some.inj hstat
        have hname : p.readerName = s0 := by simpa using List.find?_some hfind
        show p.readerName ≠ [] ∧ qc '/' ∉ p.readerName
        rw [hname]
        have hmem : s0 ∈ segments url := by simp [hseg]
        exact mem_segments hmem
    | identityDir hid =>
        obtain rfl := Option.some.inj hstat
        decide
    | pkiDir hpki =>
        obtain rfl := Option.some.inj hstat
        decide
    | certDir f hpki =>
        obtain rfl := Option.some.inj hstat
        have hmem : f ∈ segments url := by simp [hseg]
        exact mem_segments hmem

end Nodes

/-! ## Listings -/

/-- The entry of a certificate's folder. -/
def folderEntry (folder : CertFolder) : UDSEntry :=
  { dirEntry folder.name with
    displayName :=
      if folder.displayName ≠ [] ∧ folder.displayName ≠ folder.name then some folder.displayName
      else none }

/-- The entries of a directory but its own, where the card hands out these certificates. -/
def childEntries (q : Session) (present : List CardPresence) (certs : CertListResult)
    (node : CardNode) : List UDSEntry :=
  match node.kind with
  | .root => present.map fun p => dirEntry p.readerName
  | .reader =>
      fileEntry infoTxt (qs "text/plain") ::
        ((if node.presence.capabilities.identityData then [dirEntry identityDirName] else []) ++
          (if node.presence.capabilities.pki then [dirEntry pkiDirName] else []))
  | .identityDir =>
      [fileEntry identityTxt (qs "text/plain"),
        fileEntry (photoLeafName node.presence.capabilities)
          (photoMimeForName (photoLeafName node.presence.capabilities))]
  | .pkiDir => (buildCertFolders q certs).map folderEntry
  | .certDir =>
      [fileEntry certInfoTxt (qs "text/plain"), fileEntry certDerName certDerMime,
        fileEntry certPemName certPemMime]
  | _ => []

section Listings

variable {σ : Type} {d : CardDataSource σ} {q : Session} {present : List CardPresence}
  {w : Worker σ} {url : QUrl}

/-- Emitting an entry for each of a list. -/
lemma emitEach_run {α : Type} (xs : List α) (entry : α → UDSEntry) (w : Worker σ) :
    (do
      for x in xs do
        emitListEntry (entry x)
      return .pass : WorkerM σ WorkerResult) w =
      (.pass, { w with emitted := w.emitted ++ (xs.map entry).map .listEntry }) := by
  induction xs generalizing w with
  | nil => simp [run_pure]
  | cons x xs ih =>
      have hstep := ih { w with emitted := w.emitted ++ [.listEntry (entry x)] }
      rw [List.append_assoc] at hstep
      rw [List.forIn_cons]
      exact hstep

lemma presenceFor_run (hd : Presents d present) (name : QString) (w : Worker σ) :
    (presenceFor d name w).1 = present.find? fun p => p.readerName = name := by
  rw [← hd w.source]
  rfl

lemma list_root (hd : Presents d present) (hseg : segments url = []) (w : Worker σ) :
    (CardTree.list d url w).1 = present.map CardPresence.readerName := by
  unfold CardTree.list
  simp only [hseg]
  rw [← hd w.source]
  rfl

lemma list_reader {s0 : QString} {p : CardPresence} (hd : Presents d present)
    (hseg : segments url = [s0]) (hfind : present.find? (fun p => p.readerName = s0) = some p)
    (w : Worker σ) :
    (CardTree.list d url w).1 =
      [infoTxt] ++ (if p.capabilities.identityData then [identityDirName] else []) ++
        (if p.capabilities.pki then [pkiDirName] else []) := by
  unfold CardTree.list
  simp only [hseg, run_bind, presenceFor_run hd, hfind]
  rfl

lemma list_identityDir {s0 : QString} {p : CardPresence} (hd : Presents d present)
    (hseg : segments url = [s0, identityDirName])
    (hfind : present.find? (fun p => p.readerName = s0) = some p)
    (hid : p.capabilities.identityData = true) (w : Worker σ) :
    (CardTree.list d url w).1 = identityChildren p.capabilities := by
  unfold CardTree.list
  simp only [hseg, run_bind, presenceFor_run hd, hfind, hid, and_self, if_true]
  rfl

lemma emitted_list (w : Worker σ) (url : QUrl) : (CardTree.list d url w).2.emitted = w.emitted :=
  keeps_list (fun _ _ => rfl) w

lemma failForRead_ne_pass (status : ReadStatus) (isDirOp : Bool) (message : QString) :
    failForRead q status isDirOp message ≠ .pass := by
  cases status <;> simp [failForRead]

/-- A `PKI` folder reads the certificates, and lists their folders or reports the read. -/
lemma listEntries_pki_run (p : CardPresence) (url : QUrl) (w : Worker σ) :
    listEntries d q url (nodeOn p .pkiDir []) w =
      (if (readCertificates d p.cardId w).1.status = .ok then
        (.pass, { (readCertificates d p.cardId w).2 with
          emitted := w.emitted ++ ((buildCertFolders q (readCertificates d p.cardId w).1).map
            folderEntry).map .listEntry })
      else
        (failForRead q (readCertificates d p.cardId w).1.status true
          (readCertificates d p.cardId w).1.message, (readCertificates d p.cardId w).2)) := by
  have hfolders : pkiCertFolders d q p.cardId w =
      ((if (readCertificates d p.cardId w).1.status ≠ .ok then []
        else buildCertFolders q (readCertificates d p.cardId w).1,
        (readCertificates d p.cardId w).1), (readCertificates d p.cardId w).2) := by
    unfold pkiCertFolders
    rw [run_bind]
    split_ifs <;> rfl
  have hrun : listEntries d q url (nodeOn p .pkiDir []) w =
      (do
        let found ← pkiCertFolders d q p.cardId
        if found.2.status ≠ .ok then return failForRead q found.2.status true found.2.message
        for folder in found.1 do
          emitListEntry (folderEntry folder)
        return .pass : WorkerM σ WorkerResult) w := rfl
  rw [hrun, run_bind, hfolders]
  dsimp only
  by_cases hok : (readCertificates d p.cardId w).1.status = .ok
  · rw [if_neg (not_not.2 hok), if_neg (not_not.2 hok), if_pos hok]
    exact emitEach_run (buildCertFolders q (readCertificates d p.cardId w).1) folderEntry
      (readCertificates d p.cardId w).2
  · rw [if_pos hok, if_neg hok]
    rfl

/-- The `PKI` folder's entries come from the certificates read. -/
lemma listEntries_pki {p : CardPresence}
    (hpass : (listEntries d q url (nodeOn p .pkiDir []) w).1 = .pass) :
    (listEntries d q url (nodeOn p .pkiDir []) w).2.emitted =
      w.emitted ++ (childEntries q present (d.readCertificates p.cardId w.source).1
        (nodeOn p .pkiDir [])).map .listEntry := by
  rw [listEntries_pki_run] at hpass ⊢
  split_ifs at hpass ⊢
  · rfl
  · exact absurd hpass (failForRead_ne_pass _ _ _)

/-- What `listEntries` emits of a directory. -/
lemma listEntries_run (hd : Presents d present) (hdir : (nodeOf present url).kind.isDir = true)
    (hpass : (listEntries d q url (nodeOf present url) w).1 = .pass) :
    (listEntries d q url (nodeOf present url) w).2.emitted =
      w.emitted ++ (childEntries q present
        (d.readCertificates (nodeOf present url).presence.cardId w.source).1
        (nodeOf present url)).map .listEntry := by
  rcases nodeOf_dir hdir with ⟨hseg, hnode⟩ | ⟨s0, below, p, hseg, hfind, hbelow⟩
  · rw [hnode]
    have hrun := emitEach_run (CardTree.list d url w).1 dirEntry (CardTree.list d url w).2
    refine (congrArg (fun r => r.2.emitted) hrun).trans ?_
    simp only [emitted_list, list_root hd hseg, childEntries, List.map_map]
    rfl
  -- Below a reader the listing goes by the kind of the directory alone.
  · generalize nodeOf present url = node at hbelow hpass
    cases hbelow with
    | reader =>
        have hrun := emitEach_run (CardTree.list d url w).1
          (fun child =>
            if child = infoTxt then fileEntry child (qs "text/plain") else dirEntry child)
          (CardTree.list d url w).2
        refine (congrArg (fun r => r.2.emitted) hrun).trans ?_
        simp only [emitted_list, list_reader hd hseg hfind]
        have hidentity : identityDirName ≠ infoTxt := by decide
        have hpki : pkiDirName ≠ infoTxt := by decide
        cases hid : p.capabilities.identityData <;> cases hp : p.capabilities.pki <;>
          simp [childEntries, nodeOn, hid, hp, hidentity, hpki]
    | identityDir hid =>
        have hrun := emitEach_run (CardTree.list d url w).1
          (fun child => if child = identityTxt then fileEntry child (qs "text/plain")
            else fileEntry child (photoMimeForName child))
          (CardTree.list d url w).2
        refine (congrArg (fun r => r.2.emitted) hrun).trans ?_
        simp only [emitted_list, list_identityDir hd hseg hfind hid]
        simp [childEntries, nodeOn, identityChildren, photoLeafName_ne]
    | pkiDir hpki => exact listEntries_pki hpass
    | certDir f hpki =>
        show w.emitted ++ [_] ++ [_] ++ [_] = _
        simp [childEntries, nodeOn]

lemma refuseListing_run (kind : NodeKind) (w : Worker σ) :
    refuseListing d q kind w =
      (if kind = .root then rootRefusal q (d.agentState w.source) else none, w) := by
  unfold refuseListing
  split_ifs <;> rfl

lemma rootRefusal_ne_pass {state : AgentState} {result : WorkerResult}
    (h : rootRefusal q state = some result) : result ≠ .pass := by
  cases state with
  | ready => cases h
  | stopped => simp [← Option.some.inj h]
  | missing => simp [← Option.some.inj h]

lemma isDir_of_listEntries {node : CardNode} (hpass : (listEntries d q url node w).1 = .pass) :
    node.kind.isDir = true := by
  unfold listEntries at hpass
  cases hkind : node.kind with
  | root | reader | identityDir | pkiDir | certDir => rfl
  | invalid | infoLeaf | identityLeaf | photoLeaf | certInfoLeaf | certDerLeaf | certPemLeaf =>
      simp [hkind, run_pure] at hpass

/-- **What a listing that succeeds emits.** -/
theorem doListDir_run (hd : Presents d present) (hpass : (doListDir d q url w).1 = .pass) :
    (nodeOf present url).kind.isDir = true ∧
      (doListDir d q url w).2.emitted = w.emitted ++
        (dirEntry (qs ".") :: childEntries q present
          (certsAt d w url (nodeOf present url).presence.cardId)
          (nodeOf present url)).map .listEntry := by
  have hrun : doListDir d q url w =
      listNode d q url (nodeOf present url) (CardTree.resolve d url w).2 := by
    rw [← nodeAt_eq hd w url]
    rfl
  unfold certsAt
  rw [hrun, listNode, run_bind, refuseListing_run] at hpass
  rw [hrun, listNode, run_bind, refuseListing_run]
  have hemitted := emitted_resolve (d := d) w url
  generalize (CardTree.resolve d url w).2 = w' at hpass hemitted ⊢
  rw [← hemitted]
  dsimp only at hpass ⊢
  cases hrefusal : if (nodeOf present url).kind = .root then rootRefusal q (d.agentState w'.source)
      else none with
  | some result =>
      rw [hrefusal] at hpass
      split_ifs at hrefusal
      exact absurd hpass (rootRefusal_ne_pass hrefusal)
  | none =>
      rw [hrefusal] at hpass
      have hdir : (nodeOf present url).kind.isDir = true := isDir_of_listEntries hpass
      have hself : (emitSelf (nodeOf present url).kind w').2 =
          { w' with emitted := w'.emitted ++ [.listEntry (dirEntry (qs "."))] } := by
        cases hkind : (nodeOf present url).kind <;> simp [hkind, NodeKind.isDir] at hdir <;> rfl
      have hlist := listEntries_run (w := (emitSelf (nodeOf present url).kind w').2) hd hdir hpass
      rw [hself] at hlist
      refine ⟨hdir, ?_⟩
      show (listEntries d q url (nodeOf present url)
        (emitSelf (nodeOf present url).kind w').2).2.emitted = _
      rw [hself, hlist]
      simp

end Listings

end LibreKDE.Kio
