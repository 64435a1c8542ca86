import LibreKDE.Kio.Reachable

/-!
# The spelling of a URL

A path is resolved by its segments, so any number of slashes may stand between them, before them
and after them.  Listing and `get` go by what the path resolves to; `stat` and `mimetype` take the
name of some leaves from the URL, whose last component is empty behind a trailing slash.

`spelling_iff` compares two spellings of one path: all four operations answer the same and tell
each leaf's own name exactly if neither spelling of such a leaf ends in a slash.
-/

namespace LibreKDE.Kio

open CardWorkerLogic CardTree Stateful

/-! ## The last component -/

section Path

variable {url : QUrl} {n : QString}

/-- The path ends in a slash, and its file name is empty. -/
def QUrl.Trailing (url : QUrl) : Prop := url.path.getLast? = some (qc '/')

instance : Decidable url.Trailing := by unfold QUrl.Trailing; infer_instance

/-- A path with a slash is cut at its last one. -/
lemma exists_child (hslash : qc '/' ∈ url.path) :
    ∃ dir : QUrl, ∃ n, qc '/' ∉ n ∧ Child dir n url := by
  obtain ⟨after, before, hpath, hafter⟩ :=
    List.eq_append_cons_of_mem (List.mem_reverse.mpr hslash)
  refine ⟨⟨before.reverse, []⟩, after.reverse, by simpa using hafter, ?_⟩
  rw [Child, ← List.reverse_reverse url.path, hpath]
  simp

lemma trailing_child {dir : QUrl} (hchild : Child dir n url) (hn : qc '/' ∉ n) :
    url.Trailing ↔ n = [] := by
  rw [QUrl.Trailing, hchild]
  cases hlast : n.getLast? with
  | none => simp [List.getLast?_eq_none_iff.mp hlast]
  | some c =>
      have hc : c ∈ n := List.mem_of_getLast? hlast
      have hne : c ≠ qc '/' := fun heq => hn (heq ▸ hc)
      have hnil : n ≠ [] := List.ne_nil_of_mem hc
      simp [List.getLast?_append, List.getLast?_cons, hlast, hne, hnil]

/-- The last component is the last segment, unless a slash follows that. -/
lemma fileName_eq (hlast : (segments url).getLast? = some n) :
    url.fileName = if url.Trailing then [] else n := by
  by_cases hslash : qc '/' ∈ url.path
  · obtain ⟨dir, m, hm, hchild⟩ := exists_child hslash
    rw [fileName_child hchild hm]
    by_cases hnil : m = []
    · rw [if_pos ((trailing_child hchild hm).mpr hnil), hnil]
    · rw [if_neg ((trailing_child hchild hm).not.mpr hnil)]
      rw [segments_child hchild hnil hm, List.getLast?_concat] at hlast
      exact Option.some.inj hlast
  · have htrailing : ¬ url.Trailing := fun h => hslash (List.mem_of_getLast? h)
    rw [if_neg htrailing, QUrl.fileName]
    rw [segments] at hlast
    rw [List.splitOn_eq_singleton hslash] at hlast ⊢
    by_cases hnil : url.path = []
    · simp [hnil] at hlast
    · simpa [hnil] using hlast

end Path

/-! ## Leaves -/

/-- The kinds whose name `stat` takes from the URL. -/
def NodeKind.urlNamed : NodeKind → Bool
  | .infoLeaf | .identityLeaf | .certInfoLeaf | .photoLeaf => true
  | _ => false

/-- The name that a leaf has in its folder. -/
def leafName (node : CardNode) : Option QString :=
  match node.kind with
  | .infoLeaf => some infoTxt
  | .identityLeaf => some identityTxt
  | .photoLeaf => some (photoLeafName node.presence.capabilities)
  | .certInfoLeaf => some certInfoTxt
  | .certDerLeaf => some certDerName
  | .certPemLeaf => some certPemName
  | .invalid | .root | .reader | .identityDir | .pkiDir | .certDir => none

lemma leafName_below {p : CardPresence} {below : List QString} {n : QString}
    (hname : leafName (resolveBelow p below) = some n) : below.getLast? = some n := by
  revert hname
  unfold resolveBelow
  repeat' split
  all_goals simp_all [leafName]

section Leaves

variable {σ : Type} {d : CardDataSource σ} {q : Session} {w : Worker σ} {url url' : QUrl}
  {n : QString}

/-- A leaf is reached under its own name. -/
lemma leafName_nodeAt (hname : leafName (nodeAt d w url) = some n) :
    (segments url).getLast? = some n := by
  rw [nodeAt_run, nodeOf] at hname
  cases hseg : segments url with
  | nil => simp [hseg, leafName] at hname
  | cons s0 below =>
      simp only [hseg] at hname
      cases hfind : (d.listReadersWithCards w.source).1.find? fun p => p.readerName = s0 with
      | none => simp [hfind, leafName] at hname
      | some p =>
          rw [hfind] at hname
          have hlast : below.getLast? = some n := leafName_below hname
          simp [List.getLast?_cons, hlast]

/-! ## What the operations tell -/

/-- The error code of a call, whatever it says. -/
def WorkerResult.code : WorkerResult → Option KioError
  | .pass => none
  | .fail error _ => some error

/-- Two calls end with the same code, and have handed the same to KIO. -/
structure SameAnswer (r r' : WorkerResult × Worker σ) : Prop where
  code : r.1.code = r'.1.code
  emitted : r.2.emitted = r'.2.emitted

/-- `stat` tells a leaf's own name, and the photo's type follows its extension. -/
structure LeafTold (d : CardDataSource σ) (w : Worker σ) (url : QUrl) : Prop where
  name : ∀ n ∈ leafName (nodeAt d w url), ∃ mime,
    (doStat d url w).2.emitted = w.emitted ++ [.statEntry (fileEntry n mime)]
  photo : (nodeAt d w url).kind = .photoLeaf → ∀ n ∈ leafName (nodeAt d w url),
    (doMimetype d url w).2.emitted = w.emitted ++ [.mimeType (photoMimeForName n)] ∧
      ∃ name, (doStat d url w).2.emitted =
        w.emitted ++ [.statEntry (fileEntry name (photoMimeForName n))]

/-- The worker answers the two URLs the same way, and by the leaf's name. -/
structure SpellingFree (d : CardDataSource σ) (q : Session) (w : Worker σ) (url url' : QUrl) :
    Prop where
  stat : SameAnswer (doStat d url w) (doStat d url' w)
  mimetype : SameAnswer (doMimetype d url w) (doMimetype d url' w)
  listDir : SameAnswer (doListDir d q url w) (doListDir d q url' w)
  get : SameAnswer (doGet d q url w) (doGet d q url' w)
  told : LeafTold d w url ∧ LeafTold d w url'

/-- The URL of a leaf that is named after it does not end in a slash. -/
def LeafSpelled (d : CardDataSource σ) (w : Worker σ) (url : QUrl) : Prop :=
  (nodeAt d w url).kind.urlNamed = true → ¬ url.Trailing

/-! ## Listing and reading -/

lemma SameAnswer.of_alike {x y : WorkerM σ WorkerResult} (h : Alike WorkerResult.code x y)
    (w : Worker σ) : SameAnswer (x w) (y w) :=
  ⟨(h w).1, by rw [(h w).2]⟩

/-- Resolution goes by the segments. -/
lemma resolve_congr (hseg : segments url = segments url') : resolve d url = resolve d url' := by
  unfold resolve
  rw [hseg]

lemma list_congr (hseg : segments url = segments url') :
    CardTree.list d url = CardTree.list d url' := by
  unfold CardTree.list
  rw [hseg]

lemma alike_listEntries (hseg : segments url = segments url') (node : CardNode) :
    Alike WorkerResult.code (listEntries d q url node) (listEntries d q url' node) := by
  unfold listEntries
  rw [list_congr hseg]
  cases node.kind with
  | root | reader | identityDir | pkiDir | certDir => exact .refl _
  | infoLeaf | identityLeaf | photoLeaf | certInfoLeaf | certDerLeaf | certPemLeaf | invalid =>
      exact .pure rfl

lemma alike_listDir (hseg : segments url = segments url') :
    Alike WorkerResult.code (doListDir d q url) (doListDir d q url') := by
  unfold doListDir
  rw [resolve_congr hseg]
  apply Alike.bind
  intro node
  apply Alike.bind
  intro refusal
  cases refusal with
  | some result => exact .refl _
  | none =>
      apply Alike.bind
      intro _
      exact alike_listEntries hseg node

lemma alike_getCertInfo (node : CardNode) :
    Alike WorkerResult.code (getCertInfo d q url node) (getCertInfo d q url' node) := by
  apply Alike.bind
  intro found
  dsimp only
  split
  · exact .refl _
  · split
    · exact .refl _
    · exact .pure rfl

lemma alike_getCertExport (node : CardNode) :
    Alike WorkerResult.code (getCertExport d q url node) (getCertExport d q url' node) := by
  apply Alike.bind
  intro found
  dsimp only
  split
  · exact .refl _
  · split
    · exact .pure rfl
    · exact .refl _

lemma alike_get (hseg : segments url = segments url') :
    Alike WorkerResult.code (doGet d q url) (doGet d q url') := by
  unfold doGet
  rw [resolve_congr hseg]
  apply Alike.bind
  intro node
  unfold getNode
  -- Where nothing is emitted but an error, the text may quote the URL; the code is the same.
  cases node.kind with
  | infoLeaf | identityLeaf | photoLeaf => exact .refl _
  | certInfoLeaf => exact alike_getCertInfo node
  | certDerLeaf | certPemLeaf => exact alike_getCertExport node
  | root | reader | identityDir | pkiDir | certDir | invalid => exact .pure rfl

/-! ## `stat` and `mimetype` -/

/-- A leaf that is named after its URL has a name of its own. -/
lemma exists_leafName {node : CardNode} (hurl : node.kind.urlNamed = true) :
    ∃ n, leafName node = some n ∧ n ≠ [] := by
  unfold leafName
  cases hkind : node.kind with
  | infoLeaf | identityLeaf | certInfoLeaf => exact ⟨_, rfl, by decide⟩
  | photoLeaf =>
      have hphoto : photoNodeName ≠ [] := by decide
      exact ⟨_, rfl, by simp [photoLeafName, hphoto]⟩
  | invalid | root | reader | identityDir | pkiDir | certDir | certDerLeaf | certPemLeaf =>
      rw [hkind] at hurl
      cases hurl

/-- Nothing else of the URL is told of a node. -/
lemma told_congr {node : CardNode}
    (hname : node.kind.urlNamed = true → url.fileName = url'.fileName) :
    statOf url node = statOf url' node ∧ mimeOf url node = mimeOf url' node := by
  unfold statOf mimeOf
  cases hkind : node.kind with
  | infoLeaf | identityLeaf | certInfoLeaf | photoLeaf =>
      rw [hkind] at hname
      rw [hname rfl]
      exact ⟨rfl, rfl⟩
  | invalid | root | reader | identityDir | pkiDir | certDir | certDerLeaf | certPemLeaf =>
      exact ⟨rfl, rfl⟩

lemma statOf_urlNamed (url : QUrl) {node : CardNode} (hurl : node.kind.urlNamed = true) :
    ∃ mime, statOf url node = some (fileEntry url.fileName mime) := by
  unfold statOf
  cases hkind : node.kind with
  | infoLeaf | identityLeaf | certInfoLeaf | photoLeaf => exact ⟨_, rfl⟩
  | invalid | root | reader | identityDir | pkiDir | certDir | certDerLeaf | certPemLeaf =>
      rw [hkind] at hurl
      cases hurl

lemma statOf_leaf {node : CardNode} (hname : leafName node = some n)
    (hfile : node.kind.urlNamed = true → url.fileName = n) :
    ∃ mime, statOf url node = some (fileEntry n mime) := by
  -- Kinds whose name is taken from the URL, and those that carry their own.
  cases hurl : node.kind.urlNamed with
  | true =>
      rw [← hfile hurl]
      exact statOf_urlNamed url hurl
  | false =>
      unfold statOf
      unfold leafName at hname
      cases hkind : node.kind with
      | certDerLeaf | certPemLeaf =>
          rw [hkind] at hname
          obtain rfl := Option.some.inj hname
          exact ⟨_, rfl⟩
      | infoLeaf | identityLeaf | certInfoLeaf | photoLeaf =>
          rw [hkind] at hurl
          cases hurl
      | invalid | root | reader | identityDir | pkiDir | certDir =>
          rw [hkind] at hname
          cases hname

/-- The last component of a leaf's URL is its name, unless a slash follows. -/
lemma fileName_leaf (hname : leafName (nodeAt d w url) = some n) :
    url.fileName = if url.Trailing then [] else n :=
  fileName_eq (leafName_nodeAt hname)

lemma LeafSpelled.fileName (hspelled : LeafSpelled d w url)
    (hname : leafName (nodeAt d w url) = some n)
    (hurl : (nodeAt d w url).kind.urlNamed = true) : url.fileName = n := by
  rw [fileName_leaf hname, if_neg (hspelled hurl)]

lemma emitted_doStat {e : UDSEntry} (he : statOf url (nodeAt d w url) = some e) :
    (doStat d url w).2.emitted = w.emitted ++ [.statEntry e] := by
  rw [doStat_run, he, ← emitted_resolve (d := d) w url]
  rfl

lemma emitted_doMimetype {mime : QString} (hm : mimeOf url (nodeAt d w url) = some mime) :
    (doMimetype d url w).2.emitted = w.emitted ++ [.mimeType mime] := by
  rw [doMimetype_run, hm, ← emitted_resolve (d := d) w url]
  rfl

/-- A leaf is told by its own name unless it is named after a URL that ends in a slash. -/
lemma leafTold_iff : LeafTold d w url ↔ LeafSpelled d w url := by
  constructor
  · intro htold hurl htrailing
    obtain ⟨n, hname, hne⟩ := exists_leafName hurl
    have hfile : url.fileName = [] := by rw [fileName_leaf hname, if_pos htrailing]
    obtain ⟨mime, hown⟩ := htold.name n hname
    obtain ⟨mime', hstat⟩ := statOf_urlNamed url hurl
    have hsame := hown.symm.trans (emitted_doStat hstat)
    -- Behind a trailing slash the entry told has the empty name, which no leaf has.
    have hentry : fileEntry n mime = fileEntry url.fileName mime' := by simpa using hsame
    exact hne ((congrArg UDSEntry.name hentry).trans hfile)
  · intro hspelled
    refine ⟨fun n hname => ?_, fun hphoto n hname => ?_⟩
    · obtain ⟨mime, hstat⟩ := statOf_leaf hname (hspelled.fileName hname)
      exact ⟨mime, emitted_doStat hstat⟩
    · have hfile : url.fileName = n := hspelled.fileName hname (by rw [hphoto]; rfl)
      have hmime : mimeOf url (nodeAt d w url) = some (photoMimeForName n) := by
        rw [mimeOf, hphoto, hfile]
      have hstat : statOf url (nodeAt d w url) =
          some (fileEntry n (photoMimeForName n)) := by
        rw [statOf, hphoto, hfile]
      exact ⟨emitted_doMimetype hmime, n, emitted_doStat hstat⟩

lemma sameAnswer_answer {α : Type} (emission : α → Emission) (a : Option α) :
    SameAnswer (answer emission url a w) (answer emission url' a w) := by
  cases a with
  | some _ => exact ⟨rfl, rfl⟩
  | none => exact ⟨rfl, rfl⟩

/-- Two spellings of one path are answered the same, each leaf by its own name, exactly if neither
ends in a slash where the leaf is named after it. -/
theorem spelling_iff {σ : Type} (d : CardDataSource σ) (q : Session) (w : Worker σ)
    {url url' : QUrl} (hseg : segments url = segments url') :
    SpellingFree d q w url url' ↔ LeafSpelled d w url ∧ LeafSpelled d w url' := by
  constructor
  · exact fun h => ⟨leafTold_iff.mp h.told.1, leafTold_iff.mp h.told.2⟩
  · rintro ⟨hspelled, hspelled'⟩
    have hnode : nodeAt d w url' = nodeAt d w url := by rw [nodeAt, nodeAt, resolve_congr hseg]
    -- Both spellings name the leaf, so their file names are the same text.
    have hfile (hurl : (nodeAt d w url).kind.urlNamed = true) : url.fileName = url'.fileName := by
      obtain ⟨n, hname, -⟩ := exists_leafName hurl
      rw [hspelled.fileName hname hurl]
      rw [← hnode] at hname hurl
      rw [hspelled'.fileName hname hurl]
    obtain ⟨hstat, hmime⟩ := told_congr hfile
    refine ⟨?_, ?_, .of_alike (alike_listDir hseg) w, .of_alike (alike_get hseg) w,
      leafTold_iff.mpr hspelled, leafTold_iff.mpr hspelled'⟩
    · rw [doStat_run, doStat_run, hnode, hstat, resolve_congr hseg]
      exact sameAnswer_answer _ _
    · rw [doMimetype_run, doMimetype_run, hnode, hmime, resolve_congr hseg]
      exact sameAnswer_answer _ _

end Leaves

/-! ## Spellings of a photo -/

def photoUrl : QUrl := ⟨qs "/Gemalto/Identity/photo.jp2", qs "card:/Gemalto/Identity/photo.jp2"⟩

/-- The photo's path with more slashes between and before its segments. -/
def doubledUrl : QUrl :=
  ⟨qs "//Gemalto//Identity/photo.jp2", qs "card:////Gemalto//Identity/photo.jp2"⟩

/-- The photo's path as a folder's is written. -/
def trailingUrl : QUrl :=
  ⟨qs "/Gemalto/Identity/photo.jp2/", qs "card:/Gemalto/Identity/photo.jp2/"⟩

/-- A reader with a passport. -/
def passport : CardPresence where
  readerName := qs "Gemalto"
  capabilities :=
    { identityData := true, pki := false, emrtdCrypto := true, pinManagement := false, other := 0 }

theorem spelling_iff_doubled :
    SpellingFree (.fixed [passport]) .plain ⟨(), [], []⟩ photoUrl doubledUrl ↔
      LeafSpelled (.fixed [passport]) ⟨(), [], []⟩ photoUrl ∧
        LeafSpelled (.fixed [passport]) ⟨(), [], []⟩ doubledUrl :=
  spelling_iff (.fixed [passport]) .plain ⟨(), [], []⟩ (by decide)

/-- With a slash behind it the photo has no name, and another type. -/
theorem trailing_photo :
    segments photoUrl = segments trailingUrl ∧
      (doStat (.fixed [passport]) trailingUrl ⟨(), [], []⟩).2.emitted =
        [.statEntry (fileEntry [] (qs "image/jpeg"))] ∧
      (doMimetype (.fixed [passport]) photoUrl ⟨(), [], []⟩).2.emitted =
        [.mimeType (qs "image/jp2")] ∧
      (doMimetype (.fixed [passport]) trailingUrl ⟨(), [], []⟩).2.emitted =
        [.mimeType (qs "image/jpeg")] ∧
      ¬ SpellingFree (.fixed [passport]) .plain ⟨(), [], []⟩ photoUrl trailingUrl := by
  have hphoto : (doMimetype (.fixed [passport]) photoUrl ⟨(), [], []⟩).2.emitted =
      [.mimeType (qs "image/jp2")] := by
    decide
  have htrailing : (doMimetype (.fixed [passport]) trailingUrl ⟨(), [], []⟩).2.emitted =
      [.mimeType (qs "image/jpeg")] := by
    decide
  refine ⟨by decide, by decide, hphoto, htrailing, fun h => ?_⟩
  have hsame := h.mimetype.emitted
  rw [hphoto, htrailing] at hsame
  exact absurd hsame (by decide)

end LibreKDE.Kio
