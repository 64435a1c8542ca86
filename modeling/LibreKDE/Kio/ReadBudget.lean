import LibreKDE.Framework.Machine
import LibreKDE.Framework.View
import LibreKDE.Kio.CardWorkerLogic

/-!
# The read budget of `card:/`

Every card read may raise a prompt, so what a call may read is fixed: nothing to `stat` or to
tell a MIME type; the certificate list to enter a `PKI` folder; and for a `get` what the leaf
shows, with at most one export after the list that resolved its folder.

`read_budget` states this of every call of every sequence, against a data source that may
answer anything, and differently each time.  All reads go to the card of the presence the
URL's first segment names.
-/

namespace LibreKDE.Kio

open Stateful Reactive

/-- A call of the worker, as KIO makes it. -/
inductive Call
  | listDir (url : QUrl)
  | stat (url : QUrl)
  | mimetype (url : QUrl)
  | get (url : QUrl)

section Budget

variable {σ : Type} (d : CardDataSource σ) (q : Session)

/-- A call's program. -/
def Call.run : Call → WorkerM σ WorkerResult
  | .listDir url => CardWorkerLogic.doListDir d q url
  | .stat url => CardWorkerLogic.doStat d url
  | .mimetype url => CardWorkerLogic.doMimetype d url
  | .get url => CardWorkerLogic.doGet d q url

/-- The worker, called any number of times in any order. -/
def workerMachine : Machine (Worker σ) Call where
  start _ := True
  allows _ _ := True
  step w c := (c.run d q w).2

/-- The card of the reader that the URL's first segment names, if one is present. -/
def firstPresence (w : Worker σ) (url : QUrl) : Option CardPresence :=
  (CardTree.segments url).head?.bind fun s0 =>
    (d.listReadersWithCards w.source).1.find? fun p => p.readerName = s0

/-- What the URL resolves to, over the source as it is. -/
def nodeAt (w : Worker σ) (url : QUrl) : CardNode := (CardTree.resolve d url w).1

/-- The certificate list the source would hand out after resolving the URL. -/
def certsAt (w : Worker σ) (url : QUrl) (cardId : QString) : CertListResult :=
  (d.readCertificates cardId (CardTree.resolve d url w).2.source).1

/-- The folder named by the URL is the certificate's. -/
def FolderOf (certs : CertListResult) (name : QString) (c : CertificateInfo) : Prop :=
  c ∈ certs.certs ∧ c.signingCapable = true ∧
    ∃ f ∈ CardWorkerLogic.buildCertFolders q certs, f.name = name ∧ f.certId = c.id

/-- The reads that a call may ask for. -/
def WithinBudget (w : Worker σ) (reads : List CardRead) : Call → Prop
  | .stat _ | .mimetype _ => reads = []
  | .listDir url =>
      if (nodeAt d w url).kind = .pkiDir then
        ∃ p, firstPresence d w url = some p ∧ reads = [.readCertificates p.cardId]
      else reads = []
  | .get url =>
      match (nodeAt d w url).kind with
      | .identityLeaf =>
          ∃ p, firstPresence d w url = some p ∧ reads = [.readIdentity p.cardId]
      | .photoLeaf => ∃ p, firstPresence d w url = some p ∧ reads = [.getPhoto p.cardId]
      | .certInfoLeaf =>
          ∃ p, firstPresence d w url = some p ∧ reads = [.readCertificates p.cardId]
      | .certDerLeaf | .certPemLeaf =>
          ∃ p, firstPresence d w url = some p ∧
            (reads = [.readCertificates p.cardId] ∨
              ∃ c, (certsAt d w url p.cardId).status = .ok ∧
                FolderOf q (certsAt d w url p.cardId) (nodeAt d w url).certFolder c ∧
                reads = [.readCertificates p.cardId, .getCertificateDer p.cardId c.id])
      | .infoLeaf | .root | .reader | .identityDir | .pkiDir | .certDir | .invalid => reads = []

/-- The call asks for the reads it may, in their order. -/
def Budget (w : Worker σ) (c : Call) : Prop :=
  ∃ reads, ((workerMachine d q).step w c).reads = w.reads ++ reads ∧
    WithinBudget d q w reads c

end Budget

/-! ## Resolution -/

section Resolve

variable {σ : Type} {d : CardDataSource σ} {q : Session} {w : Worker σ} {url : QUrl}

lemma keeps_emit (e : Emission) : Keeps Worker.reads (emit e : WorkerM σ Unit) := fun _ => rfl

section Views

variable {γ : Type} {view : Worker σ → γ} (hv : ∀ w s, view { w with source := s } = view w)

include hv

/-- Asking which cards are present moves the source and nothing else. -/
lemma keeps_listReadersWithCards : Keeps view (listReadersWithCards d) := fun w => hv w _

lemma keeps_presenceFor (name : QString) : Keeps view (CardTree.presenceFor d name) :=
  (keeps_listReadersWithCards hv).bind fun _ => .pure _

lemma keeps_resolve : Keeps view (CardTree.resolve d url) := by
  unfold CardTree.resolve
  split
  · exact .pure _
  · apply (keeps_presenceFor hv _).bind
    intro p
    split <;> exact .pure _

lemma keeps_list : Keeps view (CardTree.list d url) := by
  unfold CardTree.list
  split
  · exact (keeps_listReadersWithCards hv).bind fun _ => .pure _
  · apply (keeps_presenceFor hv _).bind
    intro p
    repeat' split
    all_goals exact .pure _

end Views

/-- A path below a reader leads to a node of that reader's card, or nowhere. -/
lemma resolveBelow_presence {p : CardPresence} {below : List QString}
    (h : (CardTree.resolveBelow p below).kind ≠ .invalid) :
    (CardTree.resolveBelow p below).presence = p := by
  revert h
  unfold CardTree.resolveBelow
  repeat' split
  all_goals simp

/-- The node's card is the one the first segment names. -/
lemma firstPresence_eq (hroot : (nodeAt d w url).kind ≠ .root)
    (hvalid : (nodeAt d w url).kind ≠ .invalid) :
    firstPresence d w url = some (nodeAt d w url).presence := by
  cases hseg : CardTree.segments url with
  | nil =>
      have hnode : nodeAt d w url = { kind := .root } := by
        simp only [nodeAt, CardTree.resolve, hseg]
        rfl
      exact absurd (by rw [hnode]) hroot
  | cons s0 below =>
      have hfirst : firstPresence d w url =
          (d.listReadersWithCards w.source).1.find? fun p => p.readerName = s0 := by
        simp [firstPresence, hseg]
      have hnode : nodeAt d w url =
          ((firstPresence d w url).map fun p => CardTree.resolveBelow p below).getD {} := by
        simp only [nodeAt, CardTree.resolve, hseg, hfirst, run_bind, CardTree.presenceFor]
        simp only [listReadersWithCards, run_pure]
        cases (d.listReadersWithCards w.source).1.find? fun p => p.readerName = s0 <;> rfl
      -- The first reader of the first segment decides, or there is no node at all.
      cases hp : firstPresence d w url with
      | none =>
          rw [hp] at hnode
          exact absurd (by rw [hnode]; rfl) hvalid
      | some p =>
          rw [hp] at hnode
          have hbelow : nodeAt d w url = CardTree.resolveBelow p below := hnode
          rw [hbelow] at hvalid ⊢
          rw [resolveBelow_presence hvalid]

end Resolve

/-! ## The operations -/

section Operations

variable {σ : Type} {d : CardDataSource σ} {q : Session} {w : Worker σ} {url : QUrl}
  {node : CardNode} {rs : List CardRead}

lemma keeps_emitFile (mime : QString) (content : QByteArray) :
    Keeps Worker.reads (CardWorkerLogic.emitFile mime content : WorkerM σ WorkerResult) :=
  (keeps_emit _).bind fun _ => (keeps_emit _).bind fun _ => (keeps_emit _).bind fun _ => .pure _

lemma keeps_emitSelf (kind : NodeKind) :
    Keeps Worker.reads (CardWorkerLogic.emitSelf kind : WorkerM σ Unit) := by
  unfold CardWorkerLogic.emitSelf
  split
  all_goals first | exact keeps_emit _ | exact .pure _

lemma keeps_refuseListing (kind : NodeKind) :
    Keeps Worker.reads (CardWorkerLogic.refuseListing d q kind) := by
  have hagent : Keeps Worker.reads (agentState d) := fun _ => rfl
  unfold CardWorkerLogic.refuseListing
  split
  · exact hagent.bind fun _ => .pure _
  · exact .pure _

lemma keeps_doStat : Keeps Worker.reads (CardWorkerLogic.doStat d url) := by
  apply (keeps_resolve fun _ _ => rfl).bind
  intro node
  dsimp only
  split
  · exact (keeps_emit _).bind fun _ => .pure _
  · exact .pure _

lemma keeps_doMimetype : Keeps Worker.reads (CardWorkerLogic.doMimetype d url) := by
  apply (keeps_resolve fun _ _ => rfl).bind
  intro node
  dsimp only
  split
  · exact (keeps_emit _).bind fun _ => .pure _
  · exact .pure _

/-- Emitting an entry for each name reads nothing. -/
lemma keeps_emitEach (names : List QString) (entry : QString → UDSEntry) :
    Keeps Worker.reads (do
      for name in names do
        emitListEntry (entry name)
      return .pass : WorkerM σ WorkerResult) := by
  refine Keeps.bind (Keeps.forIn (fun name _ => ?_) _ _) fun _ => .pure _
  exact (keeps_emit _).bind fun _ => .pure _

/-- Only the `PKI` folder is listed from a card read. -/
lemma keeps_listEntries (hkind : node.kind ≠ .pkiDir) :
    Keeps Worker.reads (CardWorkerLogic.listEntries d q url node) := by
  unfold CardWorkerLogic.listEntries
  split
  · exact (keeps_list fun _ _ => rfl).bind fun names => keeps_emitEach names _
  · exact (keeps_list fun _ _ => rfl).bind fun names => keeps_emitEach names _
  · exact (keeps_list fun _ _ => rfl).bind fun names => keeps_emitEach names _
  · next h => exact absurd h hkind
  · exact (keeps_emit _).bind fun _ => (keeps_emit _).bind fun _ => (keeps_emit _).bind
      fun _ => .pure _
  · exact .pure _
  · exact .pure _

lemma keeps_listNode (hkind : node.kind ≠ .pkiDir) :
    Keeps Worker.reads (CardWorkerLogic.listNode d q url node) := by
  apply (keeps_refuseListing _).bind
  intro refusal
  split
  · exact .pure _
  · exact (keeps_emitSelf _).bind fun _ => keeps_listEntries hkind

lemma reads_readCertificates (cardId : QString) :
    (readCertificates d cardId w).2.reads = w.reads ++ [.readCertificates cardId] := rfl

/-- Entering the `PKI` folder reads the certificate list once. -/
lemma reads_listEntries (hkind : node.kind = .pkiDir) :
    (CardWorkerLogic.listEntries d q url node w).2.reads =
      w.reads ++ [.readCertificates node.presence.cardId] := by
  have hfolders : (CardWorkerLogic.pkiCertFolders d q node.presence.cardId w).2.reads =
      w.reads ++ [.readCertificates node.presence.cardId] := by
    refine (Keeps.after (fun result => ?_) _ _).trans (reads_readCertificates _)
    split <;> exact .pure _
  simp only [CardWorkerLogic.listEntries, hkind]
  refine (Keeps.after (fun folders => ?_) _ _).trans hfolders
  split
  · exact .pure _
  · refine Keeps.bind (Keeps.forIn (fun folder _ => ?_) _ _) fun _ => .pure _
    exact (keeps_emit _).bind fun _ => .pure _

lemma reads_listNode (hkind : node.kind = .pkiDir) :
    (CardWorkerLogic.listNode d q url node w).2.reads =
      w.reads ++ [.readCertificates node.presence.cardId] := by
  have hrefuse : CardWorkerLogic.refuseListing d q node.kind = pure none := by
    rw [CardWorkerLogic.refuseListing, if_neg (by simp [hkind])]
  have hself := keeps_emitSelf (σ := σ) node.kind w
  unfold CardWorkerLogic.listNode
  rw [run_bind, hrefuse]
  change (CardWorkerLogic.listEntries d q url node
    (CardWorkerLogic.emitSelf node.kind w).2).2.reads = _
  rw [reads_listEntries hkind, hself]

/-- Resolving a folder reads the certificate list once. -/
lemma resolveCertId_run (cardId folder : QString) :
    ∃ id, CardWorkerLogic.resolveCertId d q cardId folder w =
        ((id, (readCertificates d cardId w).1), (readCertificates d cardId w).2) ∧
      (id ≠ [] → (readCertificates d cardId w).1.status = .ok ∧
        ∃ f ∈ CardWorkerLogic.buildCertFolders q (readCertificates d cardId w).1,
          f.name = folder ∧ f.certId = id) := by
  unfold CardWorkerLogic.resolveCertId
  rw [run_bind]
  by_cases hok : (readCertificates d cardId w).1.status = .ok
  · simp only [hok, ne_eq, not_true_eq_false, if_false]
    cases hfind : (CardWorkerLogic.buildCertFolders q (readCertificates d cardId w).1).find?
        fun f => f.name = folder with
    | none => exact ⟨[], rfl, fun h => absurd rfl h⟩
    | some f =>
        have hname : f.name = folder := by simpa using List.find?_some hfind
        exact ⟨f.certId, rfl, fun _ => ⟨trivial, f, List.mem_of_find?_eq_some hfind, hname, rfl⟩⟩
  · simp only [ne_eq, hok, not_false_eq_true, if_true]
    exact ⟨[], rfl, fun h => absurd rfl h⟩

lemma reads_getCertInfo :
    (CardWorkerLogic.getCertInfo d q url node w).2.reads =
      w.reads ++ [.readCertificates node.presence.cardId] := by
  obtain ⟨id, hrun, -⟩ := resolveCertId_run (d := d) (q := q) (w := w) node.presence.cardId
    node.certFolder
  have hresolve : (CardWorkerLogic.resolveCertId d q node.presence.cardId node.certFolder
      w).2.reads = w.reads ++ [.readCertificates node.presence.cardId] := by
    rw [hrun]
    rfl
  refine (Keeps.after (fun found => ?_) _ _).trans hresolve
  dsimp only
  split
  · exact .pure _
  · split
    · exact keeps_emitFile _ _
    · exact .pure _

/-- An export reads the certificate list, and then at most the one certificate its folder
resolved to. -/
lemma reads_getCertExport :
    (CardWorkerLogic.getCertExport d q url node w).2.reads =
        w.reads ++ [.readCertificates node.presence.cardId] ∨
      ∃ id, id ≠ [] ∧ (readCertificates d node.presence.cardId w).1.status = .ok ∧
        (∃ f ∈ CardWorkerLogic.buildCertFolders q (readCertificates d node.presence.cardId w).1,
          f.name = node.certFolder ∧ f.certId = id) ∧
        (CardWorkerLogic.getCertExport d q url node w).2.reads =
          w.reads ++ [.readCertificates node.presence.cardId,
            .getCertificateDer node.presence.cardId id] := by
  obtain ⟨id, hrun, hid⟩ := resolveCertId_run (d := d) (q := q) (w := w) node.presence.cardId
    node.certFolder
  unfold CardWorkerLogic.getCertExport
  rw [run_bind, hrun]
  dsimp only
  split
  · exact .inl rfl
  · by_cases hempty : id = []
    · rw [if_pos hempty]
      exact .inl rfl
    · obtain ⟨hok, hf⟩ := hid hempty
      refine .inr ⟨id, hempty, hok, hf, ?_⟩
      rw [if_neg hempty]
      have hder : (getCertificateDer d node.presence.cardId id
          (readCertificates d node.presence.cardId w).2).2.reads =
          w.reads ++ [.readCertificates node.presence.cardId,
            .getCertificateDer node.presence.cardId id] := by
        simp [getCertificateDer, readCertificates]
      refine (Keeps.after (fun der => ?_) _ _).trans hder
      split
      · exact .pure _
      · split <;> exact keeps_emitFile _ _

/-- A folder stands for a signing-capable certificate of the list. -/
lemma FolderOf.of_mem {certs : CertListResult} {name id : QString}
    (h : ∃ f ∈ CardWorkerLogic.buildCertFolders q certs, f.name = name ∧ f.certId = id) :
    ∃ c, FolderOf q certs name c ∧ c.id = id := by
  obtain ⟨f, hf, hname, hid⟩ := h
  have hmem : f.certId ∈
      (certs.certs.filter fun c => c.signingCapable).map CertificateInfo.id := by
    rw [← CardWorkerLogic.certId_buildFolders q fun _ => 0]
    exact List.mem_map_of_mem hf
  obtain ⟨c, hc, hcid⟩ := List.mem_map.1 hmem
  obtain ⟨hc, hsign⟩ := List.mem_filter.1 hc
  exact ⟨c, ⟨hc, hsign, f, hf, hname, hcid.symm⟩, hcid.trans hid⟩

/-! ## The budget -/

/-- What listing a URL reads. -/
lemma budget_listDir : Budget d q w (.listDir url) := by
  have hresolve : (CardTree.resolve d url w).2.reads = w.reads := keeps_resolve (fun _ _ => rfl) w
  have hstep : (workerMachine d q).step w (.listDir url) =
      (CardWorkerLogic.listNode d q url (nodeAt d w url) (CardTree.resolve d url w).2).2 := rfl
  by_cases hpki : (nodeAt d w url).kind = .pkiDir
  · have hpresence : firstPresence d w url = some (nodeAt d w url).presence :=
      firstPresence_eq (by simp [hpki]) (by simp [hpki])
    refine ⟨[.readCertificates (nodeAt d w url).presence.cardId], ?_, ?_⟩
    · rw [hstep, reads_listNode hpki, hresolve]
    · rw [WithinBudget, if_pos hpki]
      exact ⟨_, hpresence, rfl⟩
  · refine ⟨[], ?_, ?_⟩
    · rw [hstep, keeps_listNode hpki, hresolve, List.append_nil]
    · rw [WithinBudget, if_neg hpki]

/-- What a `get` reads. -/
lemma budget_get : Budget d q w (.get url) := by
  have hresolve : (CardTree.resolve d url w).2.reads = w.reads := keeps_resolve (fun _ _ => rfl) w
  have hstep : (workerMachine d q).step w (.get url) =
      (CardWorkerLogic.getNode d q url (nodeAt d w url) (CardTree.resolve d url w).2).2 := rfl
  have hpresence : (nodeAt d w url).kind ≠ .root → (nodeAt d w url).kind ≠ .invalid →
      firstPresence d w url = some (nodeAt d w url).presence := firstPresence_eq
  -- A node that costs nothing, and one whose single read comes first.
  have hfree : Keeps Worker.reads (CardWorkerLogic.getNode d q url (nodeAt d w url)) →
      ((workerMachine d q).step w (.get url)).reads = w.reads ++ [] := by
    intro hkeep
    rw [hstep, hkeep, hresolve, List.append_nil]
  have hone : ∀ r, (CardWorkerLogic.getNode d q url (nodeAt d w url)
      (CardTree.resolve d url w).2).2.reads = (CardTree.resolve d url w).2.reads ++ [r] →
      ((workerMachine d q).step w (.get url)).reads = w.reads ++ [r] := by
    intro r hr
    rw [hstep, hr, hresolve]
  cases hkind : (nodeAt d w url).kind with
  | identityLeaf =>
      simp only [Budget, WithinBudget, hkind]
      refine ⟨_, hone (.readIdentity (nodeAt d w url).presence.cardId) ?_,
        _, hpresence (by simp [hkind]) (by simp [hkind]), rfl⟩
      simp only [CardWorkerLogic.getNode, hkind]
      refine (Keeps.after (fun id => ?_) _ _).trans rfl
      split
      · exact .pure _
      · exact keeps_emitFile _ _
  | photoLeaf =>
      simp only [Budget, WithinBudget, hkind]
      refine ⟨_, hone (.getPhoto (nodeAt d w url).presence.cardId) ?_,
        _, hpresence (by simp [hkind]) (by simp [hkind]), rfl⟩
      simp only [CardWorkerLogic.getNode, hkind]
      refine (Keeps.after (fun photo => ?_) _ _).trans rfl
      split
      · exact .pure _
      · exact keeps_emitFile _ _
  | certInfoLeaf =>
      simp only [Budget, WithinBudget, hkind]
      refine ⟨_, hone (.readCertificates (nodeAt d w url).presence.cardId) ?_,
        _, hpresence (by simp [hkind]) (by simp [hkind]), rfl⟩
      simp only [CardWorkerLogic.getNode, hkind]
      exact reads_getCertInfo
  | certDerLeaf | certPemLeaf =>
      simp only [Budget, WithinBudget, hkind]
      have hp := hpresence (by simp [hkind]) (by simp [hkind])
      have hnode : CardWorkerLogic.getNode d q url (nodeAt d w url) =
          CardWorkerLogic.getCertExport d q url (nodeAt d w url) := by
        simp only [CardWorkerLogic.getNode, hkind]
      rcases @reads_getCertExport _ d q (CardTree.resolve d url w).2 url (nodeAt d w url) with
        hread | ⟨id, -, hok, hf, hread⟩
      · exact ⟨_, hone _ (by rw [hnode]; exact hread), _, hp, .inl rfl⟩
      · obtain ⟨c, hc, rfl⟩ := FolderOf.of_mem hf
        refine ⟨_, ?_, _, hp, .inr ⟨c, hok, hc, rfl⟩⟩
        rw [hstep, hnode, hread, hresolve]
  | infoLeaf =>
      simp only [Budget, WithinBudget, hkind]
      refine ⟨[], hfree ?_, rfl⟩
      simp only [CardWorkerLogic.getNode, hkind]
      exact keeps_emitFile _ _
  | root | reader | identityDir | pkiDir | certDir | invalid =>
      simp only [Budget, WithinBudget, hkind]
      refine ⟨[], hfree ?_, rfl⟩
      simp only [CardWorkerLogic.getNode, hkind]
      exact .pure _

end Operations

/-- **The read budget.**  In every sequence of calls on any URLs, against any data source,
each call asks for exactly the reads it may. -/
theorem read_budget {σ : Type} (d : CardDataSource σ) (q : Session) (w : Worker σ)
    (calls : List Call) : (workerMachine d q).EachStep (Budget d q) w calls := by
  induction calls generalizing w with
  | nil => trivial
  | cons c calls ih =>
    refine ⟨?_, ih _⟩
    cases c with
    | listDir url => exact budget_listDir
    | stat url => exact ⟨[], (keeps_doStat w).trans (List.append_nil _).symm, rfl⟩
    | mimetype url => exact ⟨[], (keeps_doMimetype w).trans (List.append_nil _).symm, rfl⟩
    | get url => exact budget_get

end LibreKDE.Kio
