import LibreKDE.Kio.Reachable

/-!
# The paths of the tree

The resolver and the lister are two readings of one tree.  `NodeBelow` is that tree below a
reader: the paths that lead to a node, and what capability each needs.  The resolver finds a node
exactly on these paths (`resolveBelow_valid_iff`), and above the certificates they are the walks
of the lister (`isWalk_iff`).  The certificates' folders are not listed without reading the card,
so below `PKI` the resolver takes any one name for a folder, and three names in it.
-/

namespace LibreKDE.Kio

open CardWorkerLogic CardTree Stateful

/-! ## Walks -/

/-- Each name of the path is among those listed where the names before it lead. -/
def IsWalk (names : List QString → List QString) (path : List QString) : Prop :=
  ∀ before n after, path = before ++ n :: after → n ∈ names before

section Walks

variable {names : List QString → List QString} {path : List QString} {n : QString}

lemma isWalk_nil : IsWalk names [] := fun before n after h =>
  absurd h.symm (List.append_ne_nil_of_right_ne_nil before (List.cons_ne_nil n after))

/-- A walk goes one name further. -/
lemma isWalk_concat : IsWalk names (path ++ [n]) ↔ IsWalk names path ∧ n ∈ names path := by
  constructor
  · intro hwalk
    refine ⟨fun before m after hpath => ?_, hwalk path n [] rfl⟩
    exact hwalk before m (after ++ [n]) (by rw [hpath, List.append_assoc, List.cons_append])
  · rintro ⟨hwalk, hn⟩ before m after hpath
    rcases List.eq_nil_or_concat after with rfl | ⟨after', x, rfl⟩
    · obtain ⟨rfl, hm⟩ := List.append_inj' hpath rfl
      rw [← List.singleton_inj.1 hm]
      exact hn
    · rw [List.concat_eq_append, ← List.cons_append, ← List.append_assoc] at hpath
      exact hwalk before m after' (List.append_inj' hpath rfl).1

/-- A walk has been at each place on its way. -/
lemma isWalk_of_append {after : List QString} (hwalk : IsWalk names (path ++ after)) :
    IsWalk names path := fun before m after' hpath =>
  hwalk before m (after' ++ after) (by rw [hpath, List.append_assoc, List.cons_append])

lemma isWalk_congr {names' : List QString → List QString}
    (hnames : ∀ before after, path = before ++ after → names before = names' before) :
    IsWalk names path ↔ IsWalk names' path :=
  forall_congr' fun before => forall_congr' fun n => forall_congr' fun after =>
    imp_congr_right fun hpath => by rw [hnames before (n :: after) hpath]

end Walks

/-! ## Names listed -/

/-- The URL of a path, one slash before each segment. -/
def urlOf (path : List QString) : QUrl := ⟨path.flatMap fun n => qc '/' :: n, []⟩

lemma segments_urlOf {path : List QString} (hpath : ∀ n ∈ path, n ≠ [] ∧ qc '/' ∉ n) :
    segments (urlOf path) = path := by
  induction path using List.reverseRecOn with
  | nil => rfl
  | append_singleton path n ih =>
      have hn := hpath n (List.mem_append_right path List.mem_cons_self)
      have hurl : Child (urlOf path) n (urlOf (path ++ [n])) := by
        rw [Child, urlOf, List.flatMap_append, List.flatMap_singleton]
        rfl
      rw [segments_child hurl hn.1 hn.2, ih fun m hm => hpath m (List.mem_append_left [n] hm)]

/-- The names of a directory below a reader. -/
def namesBelow (p : CardPresence) : List QString → List QString
  | [] =>
      [infoTxt] ++ (if p.capabilities.identityData then [identityDirName] else []) ++
        (if p.capabilities.pki then [pkiDirName] else [])
  | [s1] =>
      if s1 = identityDirName ∧ p.capabilities.identityData then identityChildren p.capabilities
      else []
  | _ => []

/-- The names `list` returns for a path, where these cards are present. -/
def namesOf (present : List CardPresence) : List QString → List QString
  | [] => present.map CardPresence.readerName
  | s0 :: below =>
      ((present.find? fun p => p.readerName = s0).map fun p => namesBelow p below).getD []

/-! ## Nodes -/

/-- The files of a certificate's folder. -/
def certLeaves : List QString := [certInfoTxt, certDerName, certPemName]

/-- The paths below a reader that lead to a node, and the node's kind. -/
inductive NodeBelow (p : CardPresence) : List QString → NodeKind → Prop
  | reader : NodeBelow p [] .reader
  | infoLeaf : NodeBelow p [infoTxt] .infoLeaf
  | identityDir : p.capabilities.identityData = true →
      NodeBelow p [identityDirName] .identityDir
  | identityLeaf : p.capabilities.identityData = true →
      NodeBelow p [identityDirName, identityTxt] .identityLeaf
  | photoLeaf : p.capabilities.identityData = true →
      NodeBelow p [identityDirName, photoLeafName p.capabilities] .photoLeaf
  | pkiDir : p.capabilities.pki = true → NodeBelow p [pkiDirName] .pkiDir
  | certDir (f : QString) : p.capabilities.pki = true → NodeBelow p [pkiDirName, f] .certDir
  | certInfoLeaf (f : QString) : p.capabilities.pki = true →
      NodeBelow p [pkiDirName, f, certInfoTxt] .certInfoLeaf
  | certDerLeaf (f : QString) : p.capabilities.pki = true →
      NodeBelow p [pkiDirName, f, certDerName] .certDerLeaf
  | certPemLeaf (f : QString) : p.capabilities.pki = true →
      NodeBelow p [pkiDirName, f, certPemName] .certPemLeaf

section Nodes

variable {p : CardPresence} {below : List QString} {kind : NodeKind}

/-- The resolver's node on a path of the tree. -/
lemma NodeBelow.node_eq (h : NodeBelow p below kind) :
    ∃ folder, resolveBelow p below = nodeOn p kind folder := by
  cases h with
  | reader => exact ⟨_, resolveBelow_nil⟩
  | infoLeaf => exact ⟨_, resolveBelow_info⟩
  | identityDir hid => exact ⟨_, resolveBelow_identity hid⟩
  | identityLeaf hid => exact ⟨_, resolveBelow_identityTxt hid⟩
  | photoLeaf hid => exact ⟨_, resolveBelow_photo hid⟩
  | pkiDir hpki => exact ⟨_, resolveBelow_pki hpki⟩
  | certDir f hpki => exact ⟨_, resolveBelow_cert hpki⟩
  | certInfoLeaf f hpki => exact ⟨_, resolveBelow_certInfo hpki⟩
  | certDerLeaf f hpki => exact ⟨_, resolveBelow_certDer hpki⟩
  | certPemLeaf f hpki => exact ⟨_, resolveBelow_certPem hpki⟩

lemma NodeBelow.kind_eq (h : NodeBelow p below kind) : (resolveBelow p below).kind = kind := by
  obtain ⟨folder, hnode⟩ := h.node_eq
  rw [hnode]
  rfl

lemma NodeBelow.presence_eq (h : NodeBelow p below kind) :
    (resolveBelow p below).presence = p := by
  obtain ⟨folder, hnode⟩ := h.node_eq
  rw [hnode]
  rfl

lemma NodeBelow.ne_invalid (h : NodeBelow p below kind) : kind ≠ .invalid := by
  cases h <;> exact fun heq => by cases heq

/-- The resolver finds nothing off the tree. -/
lemma nodeBelow_of_valid (hvalid : (resolveBelow p below).kind ≠ .invalid) :
    NodeBelow p below (resolveBelow p below).kind := by
  cases below with
  | nil => exact .reader
  | cons s1 rest =>
      unfold resolveBelow at hvalid ⊢
      by_cases hinfo : rest = [] ∧ s1 = infoTxt
      · obtain ⟨rfl, rfl⟩ := hinfo
        simpa using NodeBelow.infoLeaf
      by_cases hid : s1 = identityDirName ∧ p.capabilities.identityData = true
      · simp only [if_neg hinfo, if_pos hid] at hvalid ⊢
        obtain ⟨rfl, hid⟩ := hid
        -- Below a card's `Identity` folder stand two files, and nothing below those.
        match rest with
        | [] => exact .identityDir hid
        | [s2] =>
            by_cases htext : s2 = identityTxt
            · subst htext
              simpa using NodeBelow.identityLeaf hid
            by_cases hphoto : s2 = photoLeafName p.capabilities
            · subst hphoto
              simpa [photoLeafName_ne] using NodeBelow.photoLeaf hid
            · simp [htext, hphoto] at hvalid
        | _ :: _ :: _ => exact absurd rfl hvalid
      by_cases hpki : s1 = pkiDirName ∧ p.capabilities.pki = true
      · simp only [if_neg hinfo, if_neg hid, if_pos hpki] at hvalid ⊢
        obtain ⟨rfl, hpki⟩ := hpki
        match rest with
        | [] => exact .pkiDir hpki
        | [f] => exact .certDir f hpki
        -- The folder's name is not looked at; of the files in it there are three.
        | [f, leaf] =>
            by_cases hcert : leaf = certInfoTxt
            · subst hcert
              simpa using NodeBelow.certInfoLeaf f hpki
            by_cases hder : leaf = certDerName
            · subst hder
              simpa [hcert] using NodeBelow.certDerLeaf f hpki
            by_cases hpem : leaf = certPemName
            · subst hpem
              simpa [hcert, hder] using NodeBelow.certPemLeaf f hpki
            · simp [hcert, hder, hpem] at hvalid
        | _ :: _ :: _ :: _ => exact absurd rfl hvalid
      · simp [if_neg hinfo, if_neg hid, if_neg hpki] at hvalid

lemma resolveBelow_valid_iff :
    (resolveBelow p below).kind ≠ .invalid ↔ ∃ kind, NodeBelow p below kind :=
  ⟨fun h => ⟨_, nodeBelow_of_valid h⟩, fun ⟨_, h⟩ => h.kind_eq ▸ h.ne_invalid⟩

lemma NodeBelow.identityData {path : List QString}
    (h : NodeBelow p (identityDirName :: path) kind) : p.capabilities.identityData = true := by
  generalize hbelow : identityDirName :: path = below at h
  cases h with
  | identityDir hid | identityLeaf hid | photoLeaf hid => exact hid
  | reader => exact absurd hbelow (List.cons_ne_nil _ _)
  | infoLeaf | pkiDir | certDir | certInfoLeaf | certDerLeaf | certPemLeaf =>
      exact absurd (List.cons.inj hbelow).1 (by decide)

lemma NodeBelow.pki {path : List QString} (h : NodeBelow p (pkiDirName :: path) kind) :
    p.capabilities.pki = true := by
  generalize hbelow : pkiDirName :: path = below at h
  cases h with
  | pkiDir hpki => exact hpki
  | certDir f hpki | certInfoLeaf f hpki | certDerLeaf f hpki | certPemLeaf f hpki => exact hpki
  | reader => exact absurd hbelow (List.cons_ne_nil _ _)
  | infoLeaf | identityDir | identityLeaf | photoLeaf =>
      exact absurd (List.cons.inj hbelow).1 (by decide)

/-- Below a `PKI` folder: any name, and in it the three files. -/
lemma nodeBelow_pki_iff {f : QString} {rest : List QString} :
    NodeBelow p (pkiDirName :: f :: rest) kind ↔ p.capabilities.pki = true ∧
      (rest = [] ∧ kind = .certDir ∨ rest = [certInfoTxt] ∧ kind = .certInfoLeaf ∨
        rest = [certDerName] ∧ kind = .certDerLeaf ∨
        rest = [certPemName] ∧ kind = .certPemLeaf) := by
  constructor
  · intro h
    refine ⟨h.pki, ?_⟩
    generalize hbelow : pkiDirName :: f :: rest = below at h
    cases h with
    | certDir => exact .inl ⟨by simpa using (List.cons.inj (List.cons.inj hbelow).2).2, rfl⟩
    | certInfoLeaf => exact .inr (.inl ⟨(List.cons.inj (List.cons.inj hbelow).2).2, rfl⟩)
    | certDerLeaf => exact .inr (.inr (.inl ⟨(List.cons.inj (List.cons.inj hbelow).2).2, rfl⟩))
    | certPemLeaf => exact .inr (.inr (.inr ⟨(List.cons.inj (List.cons.inj hbelow).2).2, rfl⟩))
    | reader => exact absurd hbelow (List.cons_ne_nil _ _)
    | infoLeaf | identityDir | pkiDir =>
        exact absurd (List.cons.inj hbelow).2 (List.cons_ne_nil _ _)
    | identityLeaf | photoLeaf => exact absurd (List.cons.inj hbelow).1 (by decide)
  · rintro ⟨hpki, ⟨rfl, rfl⟩ | ⟨rfl, rfl⟩ | ⟨rfl, rfl⟩ | ⟨rfl, rfl⟩⟩
    · exact .certDir f hpki
    · exact .certInfoLeaf f hpki
    · exact .certDerLeaf f hpki
    · exact .certPemLeaf f hpki

lemma exists_nodeBelow_pki_iff {f : QString} {rest : List QString} :
    (∃ kind, NodeBelow p (pkiDirName :: f :: rest) kind) ↔
      p.capabilities.pki = true ∧ (rest = [] ∨ ∃ leaf ∈ certLeaves, rest = [leaf]) := by
  constructor
  · rintro ⟨kind, h⟩
    obtain ⟨hpki, hrest⟩ := nodeBelow_pki_iff.1 h
    refine ⟨hpki, ?_⟩
    rcases hrest with ⟨hrest, -⟩ | ⟨hrest, -⟩ | ⟨hrest, -⟩ | ⟨hrest, -⟩
    · exact .inl hrest
    · exact .inr ⟨_, by simp [certLeaves], hrest⟩
    · exact .inr ⟨_, by simp [certLeaves], hrest⟩
    · exact .inr ⟨_, by simp [certLeaves], hrest⟩
  · rintro ⟨hpki, rfl | ⟨leaf, hleaf, rfl⟩⟩
    · exact ⟨_, .certDir f hpki⟩
    · simp only [certLeaves, List.mem_cons, List.not_mem_nil, or_false] at hleaf
      rcases hleaf with rfl | rfl | rfl
      · exact ⟨_, .certInfoLeaf f hpki⟩
      · exact ⟨_, .certDerLeaf f hpki⟩
      · exact ⟨_, .certPemLeaf f hpki⟩

/-- What is listed below a reader leads one step on. -/
lemma namesBelow_cases {n : QString} (hn : n ∈ namesBelow p below) :
    below = [] ∧ (n = infoTxt ∨ n = identityDirName ∧ p.capabilities.identityData = true ∨
        n = pkiDirName ∧ p.capabilities.pki = true) ∨
      below = [identityDirName] ∧ p.capabilities.identityData = true ∧
        (n = identityTxt ∨ n = photoLeafName p.capabilities) := by
  match below with
  | [] =>
      simp only [namesBelow, List.mem_append, List.mem_singleton] at hn
      rcases hn with (hinfo | hid) | hpki
      · exact .inl ⟨rfl, .inl hinfo⟩
      · split_ifs at hid with hcap
        · exact .inl ⟨rfl, .inr (.inl ⟨List.mem_singleton.1 hid, hcap⟩)⟩
        · exact absurd hid List.not_mem_nil
      · split_ifs at hpki with hcap
        · exact .inl ⟨rfl, .inr (.inr ⟨List.mem_singleton.1 hpki, hcap⟩)⟩
        · exact absurd hpki List.not_mem_nil
  | [s1] =>
      simp only [namesBelow] at hn
      split_ifs at hn with hid
      · simp only [identityChildren, List.mem_cons, List.not_mem_nil, or_false] at hn
        exact .inr ⟨by rw [hid.1], hid.2, hn⟩
      · exact absurd hn List.not_mem_nil
  | _ :: _ :: _ => exact absurd hn List.not_mem_nil

end Nodes

/-! ## The two readings -/

/-- The path goes on below a `PKI` folder. -/
def BelowPki (path : List QString) : Prop := ∃ r x rest, path = r :: pkiDirName :: x :: rest

/-- The path of a directory that is not below a `PKI` folder. -/
def DirPath (path : List QString) : Prop :=
  path = [] ∨ ∃ r, path = [r] ∨ path = [r, identityDirName] ∨ path = [r, pkiDirName]

section Readings

variable {present : List CardPresence} {p : CardPresence} {r : QString} {below : List QString}
  {kind : NodeKind}

lemma namesOf_cons (hfind : present.find? (fun p => p.readerName = r) = some p)
    (below : List QString) : namesOf present (r :: below) = namesBelow p below := by
  rw [namesOf, hfind]
  rfl

lemma isWalk_reader : IsWalk (namesOf present) [r] ↔
    ∃ p, present.find? (fun p => p.readerName = r) = some p := by
  rw [← List.nil_append [r], isWalk_concat, and_iff_right isWalk_nil, ← Option.isSome_iff_exists,
    List.find?_isSome, namesOf, List.mem_map]
  simp only [decide_eq_true_eq]

lemma isWalk_below {n : QString} (hfind : present.find? (fun p => p.readerName = r) = some p)
    (hwalk : IsWalk (namesOf present) (r :: below)) (hn : n ∈ namesBelow p below) :
    IsWalk (namesOf present) (r :: (below ++ [n])) := by
  rw [← List.cons_append, isWalk_concat, namesOf_cons hfind]
  exact ⟨hwalk, hn⟩

/-- The lister walks wherever the tree goes, but below a `PKI` folder. -/
lemma NodeBelow.isWalk (h : NodeBelow p below kind)
    (hfind : present.find? (fun p => p.readerName = r) = some p)
    (hpki : ¬ BelowPki (r :: below)) : IsWalk (namesOf present) (r :: below) := by
  have hreader : IsWalk (namesOf present) [r] := isWalk_reader.2 ⟨p, hfind⟩
  have hidentity (hid : p.capabilities.identityData = true) :
      IsWalk (namesOf present) [r, identityDirName] :=
    isWalk_below hfind hreader (by simp [namesBelow, hid])
  cases h with
  | reader => exact hreader
  | infoLeaf => exact isWalk_below hfind hreader (by simp [namesBelow])
  | identityDir hid => exact hidentity hid
  | identityLeaf hid =>
      exact isWalk_below hfind (hidentity hid) (by simp [namesBelow, hid, identityChildren])
  | photoLeaf hid =>
      exact isWalk_below hfind (hidentity hid) (by simp [namesBelow, hid, identityChildren])
  | pkiDir hcap => exact isWalk_below hfind hreader (by simp [namesBelow, hcap])
  | certDir f | certInfoLeaf f | certDerLeaf f | certPemLeaf f =>
      exact absurd ⟨r, f, _, rfl⟩ hpki

/-- The lister leaves the tree nowhere. -/
lemma nodeBelow_of_isWalk (hfind : present.find? (fun p => p.readerName = r) = some p)
    (hwalk : IsWalk (namesOf present) (r :: below)) : ∃ kind, NodeBelow p below kind := by
  rcases List.eq_nil_or_concat below with rfl | ⟨before, n, rfl⟩
  · exact ⟨_, .reader⟩
  · rw [List.concat_eq_append, ← List.cons_append, isWalk_concat, namesOf_cons hfind] at hwalk
    rw [List.concat_eq_append]
    rcases namesBelow_cases hwalk.2 with
      ⟨rfl, rfl | ⟨rfl, hid⟩ | ⟨rfl, hpki⟩⟩ | ⟨rfl, hid, rfl | rfl⟩
    · exact ⟨_, .infoLeaf⟩
    · exact ⟨_, .identityDir hid⟩
    · exact ⟨_, .pkiDir hpki⟩
    · exact ⟨_, .identityLeaf hid⟩
    · exact ⟨_, .photoLeaf hid⟩

lemma nodeOf_root {url : QUrl} (hseg : segments url = []) :
    nodeOf present url = { kind := .root } := by rw [nodeOf, hseg]

lemma nodeOf_below {url : QUrl} (hseg : segments url = r :: below)
    (hfind : present.find? (fun p => p.readerName = r) = some p) :
    nodeOf present url = resolveBelow p below := by
  unfold nodeOf
  simp only [hseg, hfind, Option.map_some, Option.getD_some]

/-- A node is found on a path of the tree, below the first reader of its name. -/
lemma nodeOf_valid_iff {url : QUrl} (hseg : segments url = r :: below) :
    (nodeOf present url).kind ≠ .invalid ↔
      ∃ p, present.find? (fun p => p.readerName = r) = some p ∧
        ∃ kind, NodeBelow p below kind := by
  unfold nodeOf
  simp only [hseg]
  cases hfind : present.find? fun p => p.readerName = r with
  | none => simp
  | some p => simp [resolveBelow_valid_iff]

/-- Above the certificates, a node is found exactly where the lister walks. -/
lemma isWalk_iff {url : QUrl} (hpki : ¬ BelowPki (segments url)) :
    (nodeOf present url).kind ≠ .invalid ↔ IsWalk (namesOf present) (segments url) := by
  cases hseg : segments url with
  | nil =>
      rw [nodeOf_root hseg]
      exact iff_of_true (fun h => by cases h) isWalk_nil
  | cons r below =>
      rw [hseg] at hpki
      rw [nodeOf_valid_iff hseg]
      constructor
      · rintro ⟨p, hfind, kind, h⟩
        exact h.isWalk hfind hpki
      · intro hwalk
        have hreader : IsWalk (namesOf present) [r] :=
          isWalk_of_append (show IsWalk (namesOf present) ([r] ++ below) from hwalk)
        obtain ⟨p, hfind⟩ := isWalk_reader.1 hreader
        exact ⟨p, hfind, nodeBelow_of_isWalk hfind hwalk⟩

/-- A directory's path, where it is not below a `PKI` folder. -/
lemma NodeBelow.isDir_iff (h : NodeBelow p below kind) (hpki : ¬ BelowPki (r :: below)) :
    kind.isDir = true ↔ DirPath (r :: below) := by
  cases h with
  | reader => exact iff_of_true rfl (.inr ⟨r, .inl rfl⟩)
  | identityDir => exact iff_of_true rfl (.inr ⟨r, .inr (.inl rfl)⟩)
  | pkiDir => exact iff_of_true rfl (.inr ⟨r, .inr (.inr rfl)⟩)
  | infoLeaf =>
      have hidentity : infoTxt ≠ identityDirName := by decide
      have hfolder : infoTxt ≠ pkiDirName := by decide
      simp [NodeKind.isDir, DirPath, hidentity, hfolder]
  | identityLeaf | photoLeaf => simp [NodeKind.isDir, DirPath]
  | certDir f | certInfoLeaf f | certDerLeaf f | certPemLeaf f =>
      exact absurd ⟨r, f, _, rfl⟩ hpki

/-- A node that is found is on the tree below the first reader of its name. -/
lemma exists_nodeBelow {url : QUrl} (hseg : segments url = r :: below)
    (hvalid : (nodeOf present url).kind ≠ .invalid) :
    present.find? (fun p => p.readerName = r) = some (nodeOf present url).presence ∧
      NodeBelow (nodeOf present url).presence below (nodeOf present url).kind := by
  obtain ⟨p, hfind, kind, h⟩ := (nodeOf_valid_iff hseg).1 hvalid
  rw [nodeOf_below hseg hfind, h.presence_eq, h.kind_eq]
  exact ⟨hfind, h⟩

/-- The directories above the certificates. -/
lemma nodeOf_isDir_iff {url : QUrl} (hpki : ¬ BelowPki (segments url)) :
    (nodeOf present url).kind.isDir = true ↔
      (nodeOf present url).kind ≠ .invalid ∧ DirPath (segments url) := by
  cases hseg : segments url with
  | nil =>
      rw [nodeOf_root hseg]
      exact iff_of_true rfl ⟨fun h => (by cases h), .inl rfl⟩
  | cons r below =>
      rw [hseg] at hpki
      constructor
      · intro hdir
        have hvalid : (nodeOf present url).kind ≠ .invalid := fun h => by
          rw [h] at hdir
          cases hdir
        exact ⟨hvalid, ((exists_nodeBelow hseg hvalid).2.isDir_iff hpki).1 hdir⟩
      · rintro ⟨hvalid, hpath⟩
        exact ((exists_nodeBelow hseg hvalid).2.isDir_iff hpki).2 hpath

/-- What is found below a `PKI` folder. -/
lemma nodeOf_pki_valid_iff {url : QUrl} {f : QString} {rest : List QString}
    (hseg : segments url = r :: pkiDirName :: f :: rest) :
    (nodeOf present url).kind ≠ .invalid ↔
      (∃ p, present.find? (fun p => p.readerName = r) = some p ∧ p.capabilities.pki = true) ∧
        (rest = [] ∨ ∃ leaf ∈ certLeaves, rest = [leaf]) := by
  simp only [nodeOf_valid_iff hseg, exists_nodeBelow_pki_iff]
  constructor
  · rintro ⟨p, hfind, hpki, hrest⟩
    exact ⟨⟨p, hfind, hpki⟩, hrest⟩
  · rintro ⟨⟨p, hfind, hpki⟩, hrest⟩
    exact ⟨p, hfind, hpki, hrest⟩

/-- A certificate's folder is one name below a `PKI` folder. -/
lemma nodeOf_certDir_iff {url : QUrl} {f : QString} {rest : List QString}
    (hseg : segments url = r :: pkiDirName :: f :: rest) :
    (nodeOf present url).kind = .certDir ↔
      (nodeOf present url).kind ≠ .invalid ∧ rest = [] := by
  constructor
  · intro hcert
    have hvalid : (nodeOf present url).kind ≠ .invalid := fun h => by
      rw [hcert] at h
      cases h
    have h := (nodeBelow_pki_iff.1 (exists_nodeBelow hseg hvalid).2).2
    rw [hcert] at h
    exact ⟨hvalid, by simpa using h⟩
  · rintro ⟨hvalid, rfl⟩
    have h := (nodeBelow_pki_iff.1 (exists_nodeBelow hseg hvalid).2).2
    simpa using h

/-- Only a directory has names to list. -/
lemma isDir_of_namesOf {url : QUrl} (hnames : namesOf present (segments url) ≠ []) :
    (nodeOf present url).kind.isDir = true := by
  cases hseg : segments url with
  | nil =>
      rw [nodeOf_root hseg]
      rfl
  | cons r below =>
      rw [hseg] at hnames
      obtain ⟨n, hn⟩ := List.exists_mem_of_ne_nil _ hnames
      cases hfind : present.find? fun p => p.readerName = r with
      | none => simp [namesOf, hfind] at hn
      | some p =>
          rw [namesOf_cons hfind] at hn
          have hdir : ∃ kind, NodeBelow p below kind ∧ kind.isDir = true := by
            rcases namesBelow_cases hn with ⟨rfl, -⟩ | ⟨rfl, hid, -⟩
            · exact ⟨_, .reader, rfl⟩
            · exact ⟨_, .identityDir hid, rfl⟩
          obtain ⟨kind, h, hkind⟩ := hdir
          rw [nodeOf_below hseg hfind, h.kind_eq]
          exact hkind

end Readings

/-- The lister and the resolver define one tree. -/
structure PathGrammar (present : List CardPresence) (names : QUrl → List QString)
    (node : QUrl → CardNode) : Prop where
  valid : ∀ url, ¬ BelowPki (segments url) →
    ((node url).kind ≠ .invalid ↔ IsWalk (fun path => names (urlOf path)) (segments url))
  dir : ∀ url, ¬ BelowPki (segments url) →
    ((node url).kind.isDir = true ↔ (node url).kind ≠ .invalid ∧ DirPath (segments url))
  presence : ∀ url r below, segments url = r :: below → (node url).kind ≠ .invalid →
    present.find? (fun p => p.readerName = r) = some (node url).presence
  cert : ∀ url r f rest, segments url = r :: pkiDirName :: f :: rest →
    ((node url).kind ≠ .invalid ↔
      (∃ p, present.find? (fun p => p.readerName = r) = some p ∧ p.capabilities.pki = true) ∧
        (rest = [] ∨ ∃ leaf ∈ certLeaves, rest = [leaf]))
  certDir : ∀ url r f rest, segments url = r :: pkiDirName :: f :: rest →
    ((node url).kind = .certDir ↔ (node url).kind ≠ .invalid ∧ rest = [])
  listed : ∀ url, names url ≠ [] → (node url).kind.isDir = true
  identity : ∀ url r below, segments url = r :: identityDirName :: below →
    (node url).kind ≠ .invalid → (node url).presence.capabilities.identityData = true
  pki : ∀ url r below, segments url = r :: pkiDirName :: below →
    (node url).kind ≠ .invalid → (node url).presence.capabilities.pki = true

section Grammar

variable {σ : Type} {d : CardDataSource σ} {present : List CardPresence}

lemma list_run (hd : Presents d present) (w : Worker σ) (url : QUrl) :
    (CardTree.list d url w).1 = namesOf present (segments url) := by
  cases hseg : segments url with
  | nil => exact list_root hd hseg w
  | cons s0 below =>
      unfold CardTree.list namesOf
      simp only [hseg, run_bind, presenceFor_run hd]
      cases present.find? fun p => p.readerName = s0 with
      | none => rfl
      | some p =>
          match below with
          | [] => rfl
          | [s1] =>
              simp only [Option.map_some, Option.getD_some, namesBelow]
              split_ifs <;> rfl
          | _ :: _ :: _ => rfl

lemma pathGrammar_nodeOf (present : List CardPresence) :
    PathGrammar present (fun url => namesOf present (segments url)) (nodeOf present) where
  valid url hpki := by
    rw [isWalk_iff hpki]
    refine isWalk_congr fun before after hpath => ?_
    rw [segments_urlOf fun n hn => mem_segments (by rw [hpath]; exact List.mem_append_left _ hn)]
  dir _ hpki := nodeOf_isDir_iff hpki
  presence url r below hseg hvalid := (exists_nodeBelow hseg hvalid).1
  cert _ _ _ _ hseg := nodeOf_pki_valid_iff hseg
  certDir _ _ _ _ hseg := nodeOf_certDir_iff hseg
  listed _ hnames := isDir_of_namesOf hnames
  identity url r below hseg hvalid := (exists_nodeBelow hseg hvalid).2.identityData
  pki url r below hseg hvalid := (exists_nodeBelow hseg hvalid).2.pki

/-- **The path grammar**, where the agent reports these cards whenever it is asked: the lister and
the resolver define one tree, and below `PKI` a path is valid by its shape and its card alone. -/
theorem pathGrammar (hd : Presents d present) (w w' : Worker σ) :
    PathGrammar present (fun url => (CardTree.list d url w).1)
      (fun url => (CardTree.resolve d url w').1) := by
  have hlist : (fun url => (CardTree.list d url w).1) =
      fun url => namesOf present (segments url) := funext fun url => list_run hd w url
  have hresolve : (fun url => (CardTree.resolve d url w').1) = nodeOf present :=
    funext fun url => nodeAt_eq hd w' url
  rw [hlist, hresolve]
  exact pathGrammar_nodeOf present

/-- Two readers of one name, of which the second opens nothing: an identity card with certificates
and a travel document's chip, and a bare token. -/
def namesakes : List CardPresence :=
  [{ readerName := qs "Gemalto", capabilities := ⟨true, true, true, false, 0⟩ },
    { readerName := qs "Gemalto", capabilities := ⟨false, true, false, false, 0⟩ }]

theorem pathGrammar_desk :
    PathGrammar namesakes
      (fun url => (CardTree.list (.fixed namesakes) url (⟨(), [], []⟩ : Worker Unit)).1)
      (fun url => (CardTree.resolve (.fixed namesakes) url (⟨(), [], []⟩ : Worker Unit)).1) :=
  pathGrammar (fun _ => rfl) _ _

end Grammar

end LibreKDE.Kio
