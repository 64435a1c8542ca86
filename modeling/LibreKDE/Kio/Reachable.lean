import LibreKDE.Kio.Listing

/-!
# What `card:/` lists is reachable

A directory's entries are named by whatever the agent reports: a reader by its own name, a
certificate's folder by its purpose and a piece of its id.  A file manager finds an entry again by
its name alone, put behind the directory's path.

Every listing but two names its entries itself, and reaches them.  The root and the `PKI` folder
reach theirs as far as the names allow: `listed_reached_iff`.
-/

namespace LibreKDE.Kio

open CardWorkerLogic CardTree Stateful

/-! ## Finding an entry again -/

/-- What `stat` reports of an entry: its name, whether it is a directory, and a file's type. -/
structure SameEntry (e' e : UDSEntry) : Prop where
  name : e'.name = e.name
  isDir : e'.isDir = e.isDir
  mimeType : e.isDir = false → e'.mimeType = e.mimeType

/-- The type an entry announces. -/
def UDSEntry.mime (e : UDSEntry) : Option QString :=
  if e.isDir then some (qs "inode/directory") else e.mimeType

/-- The URL leads to the card the entry was listed for; `stat` reports the entry, and `mimetype` its
type. -/
structure Reached {σ : Type} (d : CardDataSource σ) (url : QUrl) (e : UDSEntry)
    (p : CardPresence) : Prop where
  resolves : ∀ w, (nodeAt d w url).presence = p
  stats : ∀ w, ∃ e', SameEntry e' e ∧ (doStat d url w).1 = .pass ∧
    (doStat d url w).2.emitted = w.emitted ++ [.statEntry e']
  mimetypes : ∀ w, ∃ m, e.mime = some m ∧ (doMimetype d url w).1 = .pass ∧
    (doMimetype d url w).2.emitted = w.emitted ++ [.mimeType m]

/-- The presence an entry of a directory was listed for: the reader's that it names, and below a
reader that one's. -/
def ListedFor (present : List CardPresence) (dir : CardNode) (e : UDSEntry) (p : CardPresence) :
    Prop :=
  if dir.kind = .root then p ∈ present ∧ p.readerName = e.name else p = dir.presence

/-- Each entry but the directory's own is reached by its name, and no two have the same name. -/
structure ListingReached {σ : Type} (d : CardDataSource σ) (present : List CardPresence)
    (url : QUrl) (dir : CardNode) (entries : List UDSEntry) : Prop where
  reached : ∀ e ∈ entries, e.name ≠ qs "." → ∀ p, ListedFor present dir e p →
    ∀ url', Child url e.name url' → Reached d url' e p
  distinct : (entries.map UDSEntry.name).Nodup

/-- `Reached`, of the cards present. -/
structure Found (present : List CardPresence) (url : QUrl) (e : UDSEntry) (p : CardPresence) :
    Prop where
  resolves : (nodeOf present url).presence = p
  stats : ∃ e', SameEntry e' e ∧ statOf url (nodeOf present url) = some e'
  mimetypes : e.mime.isSome = true ∧ mimeOf url (nodeOf present url) = e.mime

section Found

variable {σ : Type} {d : CardDataSource σ} {q : Session} {present : List CardPresence}
  {w : Worker σ} {url url' : QUrl} {e : UDSEntry} {p : CardPresence}

lemma Found.reached (hd : Presents d present) (hf : Found present url e p) : Reached d url e p where
  resolves w := by rw [nodeAt_eq hd, hf.resolves]
  stats w := by
    obtain ⟨e', hsame, hstat⟩ := hf.stats
    refine ⟨e', hsame, ?_⟩
    rw [doStat_eq hd, hstat]
    exact ⟨rfl, by rw [← emitted_resolve (d := d) w url]; rfl⟩
  mimetypes w := by
    obtain ⟨hsome, hmime⟩ := hf.mimetypes
    obtain ⟨m, hm⟩ := Option.isSome_iff_exists.1 hsome
    refine ⟨m, hm, ?_⟩
    rw [doMimetype_eq hd, hmime, hm]
    exact ⟨rfl, by rw [← emitted_resolve (d := d) w url]; rfl⟩

/-- A directory that is reached has a name that can be a segment. -/
lemma Reached.name (hd : Presents d present) (hr : Reached d url e p) (w : Worker σ)
    (hdir : e.isDir = true) : e.name ≠ [] ∧ qc '/' ∉ e.name := by
  obtain ⟨e', hsame, hpass, hemitted⟩ := hr.stats w
  rw [doStat_eq hd] at hpass hemitted
  rcases answer_run Emission.statEntry url (statOf url (nodeOf present url))
    (CardTree.resolve d url w).2 with ⟨b, hb, -, hb'⟩ | ⟨-, hfail⟩
  · have hlast := hb'.symm.trans hemitted
    rw [emitted_resolve] at hlast
    obtain rfl : b = e' := by simpa using hlast
    rw [← hsame.name]
    exact name_of_statOf hb (hsame.isDir.trans hdir)
  · exact absurd hpass hfail

lemma SameEntry.rfl (e : UDSEntry) : SameEntry e e := ⟨Eq.refl _, Eq.refl _, fun _ => Eq.refl _⟩

lemma Found.of_node {k : NodeKind} {f : QString} (hnode : nodeOf present url = nodeOn p k f)
    {e' : UDSEntry} (hstat : statOf url (nodeOn p k f) = some e') (hsame : SameEntry e' e)
    (hsome : e.mime.isSome = true) (hmime : mimeOf url (nodeOn p k f) = e.mime) :
    Found present url e p where
  resolves := by rw [hnode]; rfl
  stats := by
    rw [hnode]
    exact ⟨e', hsame, hstat⟩
  mimetypes := by
    rw [hnode]
    exact ⟨hsome, hmime⟩

/-- A reader's entry at the root. -/
lemma found_reader (hnodup : (present.map CardPresence.readerName).Nodup) (hp : p ∈ present)
    (hseg : segments url = []) (hne : p.readerName ≠ []) (hn : qc '/' ∉ p.readerName)
    (hchild : Child url p.readerName url') : Found present url' (dirEntry p.readerName) p := by
  have hfind : present.find? (fun r => r.readerName = p.readerName) = some p :=
    find?_eq_of_nodup hnodup hp
  have hnode : nodeOf present url' = nodeOn p .reader [] := by
    unfold nodeOf
    rw [segments_child hchild hne hn, hseg]
    simp [hfind, resolveBelow_nil]
  exact .of_node hnode rfl (.rfl _) rfl rfl

lemma photoMime_ne (caps : Capabilities) : photoMimeForName (photoLeafName caps) ≠ [] := by
  unfold photoMimeForName
  split_ifs <;> decide

/-- The entries of a directory below a reader, whose names can be segments. -/
lemma found_below {s0 : QString} {below : List QString} {dir : CardNode} {certs : CertListResult}
    (hseg : segments url = s0 :: below)
    (hfind : present.find? (fun p => p.readerName = s0) = some p) (hbelow : DirBelow p below dir)
    (he : e ∈ childEntries q present certs dir) (hne : e.name ≠ []) (hn : qc '/' ∉ e.name)
    (hchild : Child url e.name url') : Found present url' e p := by
  have hnode := nodeOf_child hseg hfind hchild hne hn
  have hfile := fileName_child hchild hn
  cases hbelow with
  | reader =>
      simp only [childEntries, nodeOn, List.mem_cons, List.mem_append] at he
      rcases he with rfl | he | he
      · refine .of_node (hnode.trans resolveBelow_info) ?_ (.rfl _) rfl rfl
        exact congrArg (fun n => some (fileEntry n (qs "text/plain"))) hfile
      · obtain ⟨hid, he⟩ := List.mem_ite_nil_right.1 he
        obtain rfl := List.mem_singleton.1 he
        exact .of_node (hnode.trans (resolveBelow_identity hid)) rfl (.rfl _) rfl rfl
      · obtain ⟨hpki, he⟩ := List.mem_ite_nil_right.1 he
        obtain rfl := List.mem_singleton.1 he
        exact .of_node (hnode.trans (resolveBelow_pki hpki)) rfl (.rfl _) rfl rfl
  | identityDir hid =>
      simp only [childEntries, nodeOn, List.mem_cons, List.not_mem_nil, or_false] at he
      rcases he with rfl | rfl
      · refine .of_node (hnode.trans (resolveBelow_identityTxt hid)) ?_ (.rfl _) rfl rfl
        exact congrArg (fun n => some (fileEntry n (qs "text/plain"))) hfile
      -- The photo's name says its type, in the listing and from the URL alike.
      · have hmime : (fileEntry (photoLeafName p.capabilities)
            (photoMimeForName (photoLeafName p.capabilities))).mime =
            some (photoMimeForName (photoLeafName p.capabilities)) := if_neg (photoMime_ne _)
        refine .of_node (hnode.trans (resolveBelow_photo hid)) ?_ (.rfl _) (by rw [hmime]; rfl) ?_
        · exact congrArg (fun n => some (fileEntry n (photoMimeForName n))) hfile
        · rw [hmime]
          exact congrArg (fun n => some (photoMimeForName n)) hfile
  | pkiDir hpki =>
      obtain ⟨folder, -, rfl⟩ := List.mem_map.1 he
      exact .of_node (hnode.trans (resolveBelow_cert hpki)) rfl ⟨rfl, rfl, fun _ => rfl⟩ rfl rfl
  | certDir f hpki =>
      simp only [childEntries, nodeOn, List.mem_cons, List.not_mem_nil, or_false] at he
      rcases he with rfl | rfl | rfl
      · refine .of_node (hnode.trans (resolveBelow_certInfo hpki)) ?_ (.rfl _) rfl rfl
        exact congrArg (fun n => some (fileEntry n (qs "text/plain"))) hfile
      · exact .of_node (hnode.trans (resolveBelow_certDer hpki)) rfl (.rfl _) rfl rfl
      · exact .of_node (hnode.trans (resolveBelow_certPem hpki)) rfl (.rfl _) rfl rfl

end Found

/-! ## The names -/

/-- What the names at the root must be. -/
structure RootNames (present : List CardPresence) : Prop where
  distinct : (present.map CardPresence.readerName).Nodup
  proper : ∀ p ∈ present,
    p.readerName ≠ [] ∧ qc '/' ∉ p.readerName ∧ p.readerName ≠ qs "."

/-- What the ids of a card's signing-capable certificates must be. -/
structure FolderIds (q : Session) (certs : List CertificateInfo) : Prop where
  distinct : NoMarkerClash q certs
  proper : ∀ c ∈ signingCapable certs, qc '/' ∉ shortId c

section Names

variable {q : Session} {present : List CardPresence} {certs : CertListResult} {n : QString}

lemma exists_of_mem_folderNames {certs : List CertificateInfo} (hn : n ∈ folderNames q certs) :
    ∃ c ∈ signingCapable certs, ∃ k, n = suffixedName q (stableCertFolderName q c) k := by
  obtain ⟨i, hi⟩ := List.mem_iff_getElem?.1 hn
  have hlt : i < (signingCapable certs).length := by
    rw [← length_folderNames (q := q)]
    exact (List.getElem?_eq_some_iff.1 hi).1
  have hc := List.getElem?_eq_getElem hlt
  rw [folderNames_getElem? hc] at hi
  exact ⟨_, List.mem_of_getElem? hc, _, (Option.some.inj hi).symm⟩

lemma exists_mem_folderNames {certs : List CertificateInfo} {c : CertificateInfo}
    (hc : c ∈ signingCapable certs) :
    ∃ k, suffixedName q (stableCertFolderName q c) k ∈ folderNames q certs := by
  obtain ⟨i, hi⟩ := List.mem_iff_getElem?.1 hc
  exact ⟨_, List.mem_of_getElem? (folderNames_getElem? hi)⟩

/-- The listings whose names are the tree's own. -/
def fixedListings : List (List QString) :=
  [[infoTxt], [infoTxt, identityDirName], [infoTxt, pkiDirName],
    [infoTxt, identityDirName, pkiDirName], [identityTxt, qs "photo.jp2"],
    [identityTxt, qs "photo.jpg"], [certInfoTxt, certDerName, certPemName]]

lemma proper_fixedListings : ∀ names ∈ fixedListings,
    (qs "." :: names).Nodup ∧ ∀ n ∈ names, n ≠ [] ∧ qc '/' ∉ n := by
  decide

lemma names_below (q : Session) (present : List CardPresence) (certs : CertListResult)
    {p : CardPresence} {below : List QString} {dir : CardNode}
    (hbelow : DirBelow p below dir) (hkind : dir.kind ≠ .pkiDir) :
    (childEntries q present certs dir).map UDSEntry.name ∈ fixedListings := by
  cases hbelow with
  | reader =>
      cases hid : p.capabilities.identityData <;> cases hp : p.capabilities.pki <;>
        simp only [childEntries, nodeOn, hid, hp] <;> decide
  | identityDir hid =>
      cases he : p.capabilities.emrtdCrypto <;>
        simp only [childEntries, nodeOn, photoLeafName, he] <;> decide
  | pkiDir hpki => exact absurd rfl hkind
  | certDir f hpki => simp only [childEntries, nodeOn]; decide

lemma names_of_pki {dir : CardNode} (hkind : dir.kind = .pkiDir) :
    (childEntries q present certs dir).map UDSEntry.name = folderNames q certs.certs := by
  simp only [childEntries, hkind, List.map_map]
  rfl

/-- The folders' names are distinct, none is the directory's own, and each can be a segment, exactly
when the ids allow it. -/
lemma folderIds_iff {certs : List CertificateInfo} (hq : ∀ k, qc '/' ∉ q.numbers.text k) :
    FolderIds q certs ↔ (qs "." :: folderNames q certs).Nodup ∧
      ∀ n ∈ folderNames q certs, n ≠ [] ∧ qc '/' ∉ n := by
  constructor
  · intro h
    have hself : qs "." ∉ folderNames q certs := by
      intro hmem
      obtain ⟨c, -, k, heq⟩ := exists_of_mem_folderNames hmem
      have hopen := open_mem_suffixedName q c k
      rw [← heq] at hopen
      exact absurd hopen (by decide)
    refine ⟨List.nodup_cons.2 ⟨hself, nodup_folderNames_iff.2 h.distinct⟩, fun n hn => ?_⟩
    obtain ⟨c, hc, k, rfl⟩ := exists_of_mem_folderNames hn
    refine ⟨List.ne_nil_of_mem (open_mem_suffixedName q c k), fun hslash => ?_⟩
    exact h.proper c hc ((slash_mem_suffixedName q hq c k).1 hslash)
  · rintro ⟨hnodup, hproper⟩
    refine ⟨nodup_folderNames_iff.1 (List.nodup_cons.1 hnodup).2, fun c hc hslash => ?_⟩
    obtain ⟨k, hk⟩ := exists_mem_folderNames (q := q) hc
    exact (hproper _ hk).2 ((slash_mem_suffixedName q hq c k).2 hslash)

end Names

/-! ## The listings that reach what they list -/

section Main

variable {σ : Type} {d : CardDataSource σ} {q : Session} {present : List CardPresence}
  {w : Worker σ} {url : QUrl} {certs : CertListResult}

/-- A name can be put behind any path. -/
def childUrl (url : QUrl) (n : QString) : QUrl := ⟨url.path ++ qc '/' :: n, []⟩

lemma root_reached_iff (hd : Presents d present) (w : Worker σ) (hseg : segments url = []) :
    ListingReached d present url { kind := .root }
        (dirEntry (qs ".") :: present.map fun p => dirEntry p.readerName) ↔
      RootNames present := by
  have hnames : (dirEntry (qs ".") :: present.map fun p => dirEntry p.readerName).map
      UDSEntry.name = qs "." :: present.map CardPresence.readerName := by
    rw [List.map_cons, List.map_map]
    rfl
  constructor
  · intro h
    have hnodup := h.distinct
    rw [hnames] at hnodup
    obtain ⟨hself, hdistinct⟩ := List.nodup_cons.1 hnodup
    refine ⟨hdistinct, fun p hp => ?_⟩
    have hne : p.readerName ≠ qs "." := fun heq => hself (heq ▸ List.mem_map_of_mem hp)
    have hmem : dirEntry p.readerName ∈
        dirEntry (qs ".") :: present.map fun p => dirEntry p.readerName :=
      List.mem_cons_of_mem _ (List.mem_map_of_mem hp)
    -- Each reader's own URL leads back to it, so its name has come through as one segment.
    have hreached := h.reached _ hmem hne p ⟨hp, rfl⟩ (childUrl url p.readerName) rfl
    obtain ⟨hempty, hslash⟩ := hreached.name hd w rfl
    exact ⟨hempty, hslash, hne⟩
  · intro h
    refine ⟨fun e he hne p hp url' hchild => ?_, ?_⟩
    · rcases List.mem_cons.1 he with rfl | he
      · exact absurd rfl hne
      · obtain ⟨p', -, rfl⟩ := List.mem_map.1 he
        obtain ⟨hpresent, hname⟩ : p ∈ present ∧ p.readerName = p'.readerName := hp
        obtain ⟨hempty, hslash, -⟩ := h.proper p hpresent
        have hchild' : Child url p.readerName url' := by
          rw [hname]
          exact hchild
        have hfound := found_reader h.distinct hpresent hseg hempty hslash hchild'
        rw [hname] at hfound
        exact hfound.reached hd
    · rw [hnames, List.nodup_cons]
      refine ⟨fun hself => ?_, h.distinct⟩
      obtain ⟨p, hp, heq⟩ := List.mem_map.1 hself
      exact (h.proper p hp).2.2 heq

/-- Below a reader only the names matter. -/
lemma below_reached_iff {s0 : QString} {below : List QString} {p : CardPresence} {dir : CardNode}
    (hd : Presents d present) (w : Worker σ) (hseg : segments url = s0 :: below)
    (hfind : present.find? (fun p => p.readerName = s0) = some p) (hbelow : DirBelow p below dir)
    (hdirs : ∀ e ∈ childEntries q present certs dir, e.isDir = true ∨
      e.name ≠ [] ∧ qc '/' ∉ e.name) :
    ListingReached d present url dir
        (dirEntry (qs ".") :: childEntries q present certs dir) ↔
      (qs "." :: (childEntries q present certs dir).map UDSEntry.name).Nodup ∧
        ∀ n ∈ (childEntries q present certs dir).map UDSEntry.name, n ≠ [] ∧ qc '/' ∉ n := by
  have hpresence : dir.presence = p := by cases hbelow <;> rfl
  have hroot : dir.kind ≠ .root := by cases hbelow <;> simp [nodeOn]
  constructor
  · intro h
    refine ⟨h.distinct, fun n hn => ?_⟩
    obtain ⟨e, he, rfl⟩ := List.mem_map.1 hn
    -- A folder that is reached has a proper name; the files have theirs from the tree.
    rcases hdirs e he with hdir | hproper
    · have hself := (List.nodup_cons.1 h.distinct).1
      have hne : e.name ≠ qs "." := fun heq => hself (List.mem_map.2 ⟨e, he, heq⟩)
      have hlisted : ListedFor present dir e p := by
        rw [ListedFor, if_neg hroot, hpresence]
      exact (h.reached e (List.mem_cons_of_mem _ he) hne p hlisted (childUrl url e.name) rfl).name
        hd w hdir
    · exact hproper
  · rintro ⟨hnodup, hproper⟩
    refine ⟨fun e he hne p' hp' url' hchild => ?_, hnodup⟩
    rw [ListedFor, if_neg hroot, hpresence] at hp'
    subst hp'
    rcases List.mem_cons.1 he with rfl | he
    · exact absurd rfl hne
    · obtain ⟨hempty, hslash⟩ := hproper _ (List.mem_map_of_mem he)
      exact (found_below hseg hfind hbelow he hempty hslash hchild).reached hd

/-- `SmartCardHandler::cardUrlForReader`: the URL the widget opens; `display` is how the toolkit
shows such a URL. -/
def cardUrlForReader (display : QString → QString) (readerName : QString) : QUrl where
  path := qc '/' :: readerName
  toDisplayString := display readerName

/-- What the names of the readers the widget opens must be. -/
structure WidgetNames (present : List CardPresence) : Prop where
  distinct : ∀ p ∈ present, ∀ p' ∈ present, p.readerName = p'.readerName → p = p'
  proper : ∀ p ∈ present, p.readerName ≠ [] ∧ qc '/' ∉ p.readerName

lemma cardUrl_iff (display : QString → QString) :
    (∀ p ∈ present, nodeOf present (cardUrlForReader display p.readerName) = nodeOn p .reader []) ↔
      WidgetNames present := by
  have hchild : ∀ n, Child ⟨[], []⟩ n (cardUrlForReader display n) := fun n => rfl
  have hseg : segments ⟨[], []⟩ = [] := rfl
  constructor
  · intro h
    have hstat : ∀ p ∈ present, statOf (cardUrlForReader display p.readerName)
        (nodeOf present (cardUrlForReader display p.readerName)) =
          some (dirEntry p.readerName) := by
      intro p hp
      rw [h p hp]
      rfl
    refine ⟨fun p hp p' hp' hname => ?_, fun p hp => name_of_statOf (hstat p hp) rfl⟩
    have hnode := h p' hp'
    rw [← hname, h p hp] at hnode
    exact congrArg CardNode.presence hnode
  · intro h p hp
    obtain ⟨hne, hslash⟩ := h.proper p hp
    unfold nodeOf
    rw [segments_child (hchild _) hne hslash, hseg]
    -- The first reader of the name answers, and there is only one.
    cases hfind : present.find? fun r => r.readerName = p.readerName with
    | none => simpa using List.find?_eq_none.1 hfind p hp
    | some r =>
        have hname : r.readerName = p.readerName := by simpa using List.find?_some hfind
        obtain rfl := h.distinct r (List.mem_of_find?_eq_some hfind) p hp hname
        simp [resolveBelow_nil, hfind]

end Main

/-- **What `card:/` lists is reachable.**  Let the agent report the same cards throughout, in a
locale that writes numbers without a slash.  The listing of the root reaches its entries exactly
when the readers' names are distinct, not empty, without a slash and none is a dot; that of a `PKI`
folder, exactly when no two folders' names clash and no short id has a slash; and every other
listing reaches its entries.  The URLs the widget opens lead to their readers exactly when the
names are not empty, without a slash, and each names one reader. -/
theorem listed_reached_iff {σ : Type} (d : CardDataSource σ) (q : Session)
    {present : List CardPresence} (hd : Presents d present)
    (hq : ∀ k, qc '/' ∉ q.numbers.text k) (w : Worker σ) :
    (∀ (url : QUrl) (entries : List UDSEntry), (doListDir d q url w).1 = .pass →
      (doListDir d q url w).2.emitted = w.emitted ++ entries.map .listEntry →
      (ListingReached d present url (nodeAt d w url) entries ↔
        ((nodeAt d w url).kind = .root → RootNames present) ∧
          ((nodeAt d w url).kind = .pkiDir →
            FolderIds q (certsAt d w url (nodeAt d w url).presence.cardId).certs))) ∧
      ∀ display : QString → QString,
        (∀ p ∈ present, nodeAt d w (cardUrlForReader display p.readerName) =
          nodeOn p .reader []) ↔ WidgetNames present := by
  refine ⟨fun url entries hpass hlisted => ?_, fun display => ?_⟩
  · rw [nodeAt_eq hd]
    obtain ⟨hdir, hrun⟩ := doListDir_run hd hpass
    have hinj : Function.Injective Emission.listEntry := fun _ _ h => Emission.listEntry.inj h
    -- What was listed is what the tree has there: the entries are determined.
    obtain rfl := List.map_injective_iff.2 hinj (List.append_cancel_left (hlisted.symm.trans hrun))
    rcases nodeOf_dir hdir with ⟨hseg, hnode⟩ | ⟨s0, below, p, hseg, hfind, hbelow⟩
    · rw [hnode]
      refine (root_reached_iff hd w hseg).trans ?_
      simp
    · have hroot : (nodeOf present url).kind ≠ .root := by
        generalize nodeOf present url = dir at hbelow
        cases hbelow <;> simp [nodeOn]
      by_cases hpki : (nodeOf present url).kind = .pkiDir
      · refine (below_reached_iff hd w hseg hfind hbelow fun e he => .inl ?_).trans ?_
        · simp only [childEntries, hpki] at he
          obtain ⟨folder, -, rfl⟩ := List.mem_map.1 he
          rfl
        · rw [names_of_pki hpki, ← folderIds_iff hq]
          simp [hpki]
      · have hfixed := proper_fixedListings _ (names_below q present
          (certsAt d w url (nodeOf present url).presence.cardId) hbelow hpki)
        refine (below_reached_iff hd w hseg hfind hbelow fun e he =>
          .inr (hfixed.2 _ (List.mem_map_of_mem he))).trans ?_
        simp only [hroot, hpki, false_imp_iff, and_self, iff_true]
        exact hfixed
  · simp only [nodeAt_eq hd]
    exact cardUrl_iff display

/-- A source that answers the same each time, and knows no card's content. -/
def CardDataSource.fixed (present : List CardPresence) : CardDataSource Unit where
  listReadersWithCards s := (present, s)
  readIdentity _ s := ({}, s)
  readCertificates _ s := ({}, s)
  getPhoto _ s := ({}, s)
  getCertificateDer _ _ s := ({}, s)
  agentState _ := .ready

def rootUrl : QUrl := ⟨qs "/", qs "card:/"⟩

/-- The same, of cards that list these certificates. -/
def CardDataSource.issuing (present : List CardPresence) (certs : List CertificateInfo) :
    CardDataSource Unit where
  __ := CardDataSource.fixed present
  readCertificates _ s := ({ status := .ok, certs := certs }, s)

/-- A reader with a PKI token. -/
def token : CardPresence :=
  { readerName := qs "Gemalto", capabilities := ⟨false, true, false, false, 0⟩ }

def tokenPki : QUrl := ⟨qs "/Gemalto/PKI", qs "card:/Gemalto/PKI"⟩

/-- What its `PKI` folder lists. -/
def tokenFolders : List UDSEntry :=
  dirEntry (qs ".") :: (buildCertFolders .plain { certs := alikeIds }).map folderEntry

/-- The root lists the reader, and its `PKI` folder two certificates whose ids start alike. -/
theorem listed_reached_iff_desk :
    ListingReached (.issuing [token] alikeIds) [token] rootUrl { kind := .root }
      [dirEntry (qs "."), dirEntry (qs "Gemalto")] ∧
    ListingReached (.issuing [token] alikeIds) [token] tokenPki (nodeOn token .pkiDir [])
      tokenFolders := by
  have hlisted := (listed_reached_iff (.issuing [token] alikeIds) .plain
    (fun _ => rfl) CardWorkerLogic.slash_notMem_numberText ⟨(), [], []⟩).1
  have hroot := hlisted rootUrl [dirEntry (qs "."), dirEntry (qs "Gemalto")] rfl rfl
  have hpki := hlisted tokenPki tokenFolders (by decide +kernel) (by decide +kernel)
  have hat : nodeAt (.issuing [token] alikeIds) ⟨(), [], []⟩ tokenPki =
      nodeOn token .pkiDir [] := by decide +kernel
  have hdistinct : (folderNames .plain alikeIds).Nodup := by decide +kernel
  have hfolders : FolderIds .plain alikeIds := ⟨nodup_folderNames_iff.1 hdistinct, by decide⟩
  rw [hat] at hpki
  exact ⟨hroot.2 ⟨fun _ => ⟨by decide, by decide⟩, fun h => nomatch h⟩,
    hpki.2 ⟨(fun h => nomatch h), fun _ => hfolders⟩⟩

/-- A reader whose name has a slash is listed, and not found again. -/
theorem slash_unreachable :
    ∃ present : List CardPresence, ∃ w : Worker Unit,
      (doListDir (.fixed present) .plain rootUrl w).1 = .pass ∧
      (doListDir (.fixed present) .plain rootUrl w).2.emitted =
        [.listEntry (dirEntry (qs ".")), .listEntry (dirEntry (qs "Reader 1/2"))] ∧
      (doStat (.fixed present) (childUrl rootUrl (qs "Reader 1/2")) w).1 ≠ .pass ∧
      ¬ ListingReached (.fixed present) present rootUrl { kind := .root }
        [dirEntry (qs "."), dirEntry (qs "Reader 1/2")] := by
  refine ⟨[{ readerName := qs "Reader 1/2" }], ⟨(), [], []⟩, by decide, by decide, by decide,
    fun h => ?_⟩
  have hreached := h.reached (dirEntry (qs "Reader 1/2")) (by simp) (by decide)
    { readerName := qs "Reader 1/2" } ⟨by simp, rfl⟩ (childUrl rootUrl (qs "Reader 1/2")) rfl
  obtain ⟨-, -, hpass, -⟩ := hreached.stats ⟨(), [], []⟩
  exact absurd hpass (by decide)

end LibreKDE.Kio
