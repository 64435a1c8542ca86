import LibreKDE.Plasmoid.ReaderShown
import LibreKDE.Credentials.Launch
import LibreKDE.Kio.Reachable

/-!
# What a widget hands over

A widget hands its card to two other programs, each with a client of its own.  To the file manager
it gives a URL, made of the reader's name, which the `card:/` worker looks up among the cards its
own client lists; to the credentials window it gives the id of the reader the card names.

Neither hands over the card itself.  That both programs nevertheless come to the card the widget
shows is shown here over all runs: `files_open_card` for the worker, with the names for which it
is so, and `window_shows_card` for the window, which may be running a verb of its own.
-/

namespace LibreKDE

open Reactive

/-! ## The file manager -/

namespace Kio.AgentCardDataSource

/-- What the client publishes of a card as texts. -/
structure CardWire where
  cardId : CardRef → QString
  preReadAuth : CardRef → QString

variable (h : Host) (wire : CardWire) (r : Registry)

/-- The record of a reader's card, as the worker's data source makes it of the registry. -/
def presence (x : AgentReader) (c : CardRef) (card : AgentCard) : CardPresence where
  readerName := x.name
  readerLabel := Readers.readerLabel h x
  cardId := wire.cardId c
  capabilities := card.capabilities
  preReadAuth := wire.preReadAuth c

/-- The record a reader adds to the list, if it does. -/
def presenceOf (x : AgentReader) : Option CardPresence :=
  if x.hasCard = false then none
  else x.card.bind fun c => (r.cards c).map fun card => presence h wire x c card

/-- `listReadersWithCards`, over the client's registry. -/
def listReadersWithCards : List CardPresence := r.readers.filterMap (presenceOf h wire r)

/-- A reader reports the card it holds; it may report one that is not resolved yet. -/
def Reports (r : Registry) : Prop := ∀ x ∈ r.readers, x.card ≠ none → x.hasCard = true

section Listed

variable {h wire r} {x : AgentReader} {p : CardPresence} {name : QString}

lemma readerName_of_presenceOf (hp : presenceOf h wire r x = some p) : p.readerName = x.name := by
  unfold presenceOf at hp
  split_ifs at hp
  obtain ⟨c, -, hc⟩ := Option.bind_eq_some_iff.1 hp
  obtain ⟨card, -, rfl⟩ := Option.map_eq_some_iff.1 hc
  rfl

/-- A reader is listed when it holds a card. -/
lemma presenceOf_isSome (hr : Reports r) (hx : x ∈ r.readers) :
    (presenceOf h wire r x).isSome = x.card.isSome := by
  cases hc : x.card with
  | none => simp [presenceOf, hc]
  | some c =>
      obtain ⟨card, hcard⟩ := Option.isSome_iff_exists.1 (r.seated x hx c hc)
      have hhas : x.hasCard = true := hr x hx (by simp [hc])
      simp [presenceOf, hhas, hc, hcard]

/-- The worker finds the first reader of the name that holds a card. -/
lemma find?_listReadersWithCards (hr : Reports r) :
    (listReadersWithCards h wire r).find? (fun p => p.readerName = name) =
      (r.readers.find? fun x => x.name = name ∧ x.card.isSome).bind (presenceOf h wire r) := by
  have hlisted : ∀ x ∈ r.readers, (presenceOf h wire r x).isSome = x.card.isSome :=
    fun x hx => presenceOf_isSome hr hx
  unfold listReadersWithCards
  generalize r.readers = readers at hlisted
  induction readers with
  | nil => rfl
  | cons x readers ih =>
      have hx := hlisted x List.mem_cons_self
      have hrest := ih fun y hy => hlisted y (List.mem_cons_of_mem _ hy)
      rw [List.filterMap_cons, List.find?_cons]
      cases hp : presenceOf h wire r x with
      | none =>
          have hc : x.card.isSome = false := by rw [← hx, hp]; rfl
          simp [hc, hrest]
      | some p =>
          have hc : x.card.isSome = true := by rw [← hx, hp]; rfl
          have hname := readerName_of_presenceOf hp
          by_cases hsame : x.name = name
          · simp [hname, hsame, hc, hp]
          · simp [hname, hsame, hrest]

end Listed

end Kio.AgentCardDataSource

namespace Plasmoid

open Kio Kio.AgentCardDataSource Kio.CardWorkerLogic

/-- What `openInFiles` opens. -/
def SmartCardHandler.openedUrl (display : QString → QString) (s : SmartCardHandler) : Option QUrl :=
  if s.readerName = [] then none else some (cardUrlForReader display s.readerName)

/-- A name that makes one path segment. -/
def IsSegment (name : QString) : Prop := name ≠ [] ∧ qc '/' ∉ name

/-- The worker takes the URL the widget opens to the folder of the card. -/
def OpensFolder (h : PlasmoidHost) (wire : CardWire) (seen : Registry) (s : SmartCardHandler)
    (c : CardRef) : Prop :=
  ∀ display, ∃ url, s.openedUrl display = some url ∧
    ∃ x card, x.name = s.readerName ∧ seen.cards c = some card ∧
      ∀ (σ : Type) (d : CardDataSource σ), Presents d (listReadersWithCards h.toHost wire seen) →
        ∀ w, nodeAt d w url = nodeOn (presence h.toHost wire x c card) .reader []

/-- What is promised of the URL a widget opens, to a worker whose client lists what the widget last
saw. -/
structure FilesHandover (h : PlasmoidHost) (wire : CardWire) (x : SmartCardHandler × Registry) :
    Prop where
  /-- It leads to the card that is shown, exactly when the reader's name is one segment. -/
  shown : ∀ c, x.1.card = some c → (OpensFolder h wire x.2 x.1 c ↔ IsSegment x.1.readerName)
  /-- With no card shown it leads nowhere, provided the name is one segment: of a name with a slash
  the part in front may be another reader's, with a card. -/
  unshown : x.1.card = none → IsSegment x.1.readerName → ∀ display,
    nodeOf (listReadersWithCards h.toHost wire x.2) (cardUrlForReader display x.1.readerName) = {}

section Files

variable {h : PlasmoidHost} {wire : CardWire} {s : SmartCardHandler} {seen : Registry}
  {c : CardRef} {name : QString} {display : QString → QString} {present : List CardPresence}

lemma segments_cardUrl (hname : IsSegment name) :
    CardTree.segments (cardUrlForReader display name) = [name] := by
  have hchild : Child ⟨[], []⟩ name (cardUrlForReader display name) := rfl
  rw [segments_child hchild hname.1 hname.2]
  rfl

/-- A name that is one segment leads to the record of that name, if there is one. -/
lemma nodeOf_cardUrl (hname : IsSegment name) :
    nodeOf present (cardUrlForReader display name) =
      ((present.find? fun p => p.readerName = name).map fun p => nodeOn p .reader []).getD {} := by
  rw [nodeOf, segments_cardUrl hname]
  rfl

/-- A folder of a reader is reached by its name as one segment. -/
lemma isSegment_of_nodeOf {p : CardPresence} (hp : p.readerName = name)
    (hnode : nodeOf present (cardUrlForReader display name) = nodeOn p .reader []) :
    IsSegment name := by
  have hstat : statOf (cardUrlForReader display name)
      (nodeOf present (cardUrlForReader display name)) = some (dirEntry name) := by
    rw [hnode, ← hp]
    rfl
  exact name_of_statOf hstat rfl

/-- **The folder opened is that of the card shown.** -/
lemma Displays.filesHandover (hd : Displays h s seen) (hr : Reports seen) :
    FilesHandover h wire (s, seen) where
  shown c hc := by
    obtain ⟨x, hpick, hxc, hname, hav⟩ := hd.picked hc
    obtain ⟨hx, -⟩ := pickActiveReader_spec hpick
    obtain ⟨card, hcard⟩ := Option.isSome_iff_exists.1 (seen.seated x hx c hxc)
    have hpresence : presenceOf h.toHost wire seen x = some (presence h.toHost wire x c card) := by
      have hhas : x.hasCard = true := hr x hx (by simp [hxc])
      simp [presenceOf, hhas, hxc, hcard]
    have hfound : (listReadersWithCards h.toHost wire seen).find? (fun p => p.readerName = x.name) =
        some (presence h.toHost wire x c card) := by
      rw [find?_listReadersWithCards hr, find?_of_pickActiveReader hpick]
      exact hpresence
    -- A name with a slash is two segments, and the folder the URL leads to is not the reader's.
    show OpensFolder h wire seen s c ↔ IsSegment s.readerName
    constructor
    · intro hopens
      obtain ⟨url, hurl, y, card', hyname, -, hnode⟩ := hopens id
      have hpresents : Presents (.fixed (listReadersWithCards h.toHost wire seen))
          (listReadersWithCards h.toHost wire seen) := fun _ => rfl
      rw [SmartCardHandler.openedUrl] at hurl
      split_ifs at hurl
      have hat := hnode Unit _ hpresents ⟨(), [], []⟩
      rw [nodeAt_eq hpresents, ← Option.some.inj hurl] at hat
      exact isSegment_of_nodeOf hyname hat
    · intro hsegment display
      refine ⟨cardUrlForReader display s.readerName, if_neg hsegment.1, x, card, hname.symm, hcard,
        fun σ d hpresents w => ?_⟩
      rw [nodeAt_eq hpresents, nodeOf_cardUrl hsegment, hname, hfound]
      rfl
  unshown hnone hsegment display := by
    have hcard := hd.card
    have hname := hd.readerName
    rw [show s.card = none from hnone] at hcard
    show nodeOf _ (cardUrlForReader display s.readerName) = {}
    rw [nodeOf_cardUrl hsegment, find?_listReadersWithCards hr]
    rw [nameShown] at hname
    split_ifs at hcard hname with hav
    · have hpick : pickActiveReader h.chars seen s.boundReaderName s.selectedReaderName = none := by
        by_contra hsome
        obtain ⟨x, hx⟩ := Option.ne_none_iff_exists'.1 hsome
        have hlive := (pickActiveReader_spec hx).2
        rw [hx, Option.bind_some] at hcard
        rw [← hcard] at hlive
        cases hlive
      rw [hpick] at hname
      have hbound : s.readerName = s.boundReaderName := hname
      have hmissing :
          (seen.readers.find? fun x => x.name = s.readerName ∧ x.card.isSome) = none := by
        rw [List.find?_eq_none]
        intro y hy
        -- A reader of the bound name with a card would have been picked, so the worker finds none
        -- either.
        by_cases hyname : y.name = s.boundReaderName
        · simp [card_of_not_picked hpick hy (.inr hyname)]
        · simp [hbound, hyname]
      rw [hmissing]
      rfl
    · exact absurd hname hsegment.1

end Files

/-- **The file manager opens the card that is shown.**  In every state of every run of a widget, the
URL it opens leads the worker to the folder of the very card it shows, whatever other readers carry
the same name, exactly when that name makes one path segment; and while no card is shown the URL of
such a name leads nowhere. -/
theorem files_open_card (h : PlasmoidHost) (wire : CardWire) {s : SmartCardHandler}
    {es : List Event} (hs : Start h s) (ha : (machine h).Admits s es) :
    (seenMachine h).Always (fun x => Reports x.2 → FilesHandover h wire x)
      (s, s.client.registry) es :=
  ((displays_kept h).always (displays_start hs) (Machine.admits_watch.2 ha)).mono
    fun _ hd hr => hd.filesHandover hr

theorem files_open_card_renamed :
    (seenMachine .plain).Always
      (fun x => Reports x.2 → FilesHandover .plain ⟨fun _ => [], fun _ => []⟩ x)
      (widget, widget.client.registry) renamed :=
  files_open_card .plain ⟨fun _ => [], fun _ => []⟩ start_widget (by decide)

/-- A name with a slash leads into the folder of the reader in front of the slash, card shown or
not. -/
example : (nodeOf [{ readerName := qs "A", capabilities := ⟨true, false, false, false, 0⟩ }]
    (cardUrlForReader id (qs "A/Identity"))).kind = .identityDir := by decide

/-! ## The credentials window -/

/-- The arguments of the credentials application: the reader whose card it is to show, by the
agent's id. -/
def credentialsLaunchArgs (readerId : QString) : List QString :=
  [Credentials.readerFlag, readerId]

/-- The arguments `manageCredentials` launches the window with, if it does. -/
def SmartCardHandler.manageCredentials (s : SmartCardHandler) : Option (List QString) :=
  s.boundCard.map fun c => credentialsLaunchArgs c.readerId

/-- What the launch makes of the window, on either way the arguments reach it. -/
structure WindowHandover (hw : Host) (w : Credentials.Controller) (args : List QString)
    (id : QString) (c : CardRef) : Prop where
  first : Credentials.ShowsCard w (w.firstLaunch hw args) id c
  again : ∀ program, program ≠ Credentials.readerFlag →
    Credentials.ShowsCard w (w.activateRequested hw (program :: args)) id c

/-- What is promised of a launch while the window's client lists what the widget's does. -/
structure Manages (hw : Host) (s : SmartCardHandler) (w : Credentials.Controller) : Prop where
  /-- Without a card nothing is launched. -/
  unshown : s.card = none → s.manageCredentials = none
  /-- The window shows the card the widget shows. -/
  shown : ∀ c, s.card = some c → ∃ args card, s.manageCredentials = some args ∧
    s.client.registry.cards c = some card ∧ WindowHandover hw w args card.readerId c

lemma manages {hw : Host} {s : SmartCardHandler} {w : Credentials.Controller}
    (hlive : ∀ c, s.card = some c → s.client.registry.live c = true)
    (hseated : Credentials.Seated w) (hroster : w.client.registry = s.client.registry)
    (hsettled : Credentials.Settled s.client.registry) (hav : w.available = true) :
    Manages hw s w where
  unshown hnone := by rw [SmartCardHandler.manageCredentials, CardReads.boundCard, hnone]; rfl
  shown c hc := by
    obtain ⟨card, hcard⟩ := Option.isSome_iff_exists.1 (hlive c hc)
    rw [← hroster] at hsettled
    have hshows := Credentials.bindReader_shows (h := hw) hseated hsettled hav
      (hroster.symm ▸ hcard : w.client.registry.cards c = some card)
    refine ⟨credentialsLaunchArgs card.readerId, card, ?_, hcard, ?_, fun program hprogram => ?_⟩
    · rw [SmartCardHandler.manageCredentials, CardReads.boundCard, hc, Option.bind_some, hcard]
      rfl
    · rw [credentialsLaunchArgs, Credentials.firstLaunch_eq]
      exact hshows
    · rw [credentialsLaunchArgs, Credentials.activateRequested_eq hprogram]
      exact hshows

/-- **The credentials window shows the card the widget shows.**  Let a widget and a credentials
window each be anywhere in a run, the window's agent truthful throughout, and let both clients see
one settled roster.  The arguments with which a living widget launches the window lead it to the
card the widget shows, whether it is launched or runs already, whatever it showed before and
whichever verb it runs: a verb on that very card goes on, and one on another card is abandoned. -/
theorem window_shows_card {h : PlasmoidHost} {hw : Host} {s : SmartCardHandler} {es : List Event}
    {w : Credentials.Controller} {fs : List Credentials.Event} (hs : Start h s)
    (ha : (machine h).Admits s es) (hws : Credentials.Start w)
    (htruthful : Credentials.Truthful w.client.registry)
    (hwa : (Credentials.lawfulMachine hw).Admits w fs)
    (hliving : ((machine h).exec s es).destroyed = false)
    (hroster : ((Credentials.machine hw).exec w fs).client.registry =
      ((machine h).exec s es).client.registry)
    (hsettled : Credentials.Settled ((machine h).exec s es).client.registry)
    (hav : ((Credentials.machine hw).exec w fs).available = true) :
    Manages hw ((machine h).exec s es) ((Credentials.machine hw).exec w fs) := by
  have hkept : (machine h).Kept fun s => ∃ b, Kept h b s := fun _ _ hk hal =>
    hk.elim fun _ hk => ⟨_, kept_step hk hal⟩
  have hseated := (Credentials.seated_kept hw).exec (hws.seated htruthful) hwa
  refine manages (fun c hc => ?_) hseated hroster hsettled hav
  obtain ⟨b, howned | ⟨hgone, -⟩⟩ := hkept.exec ⟨0, .inl hs.owned.1⟩ ha
  · exact howned.live c hc
  · rw [hliving] at hgone
    cases hgone

/-- A card that names its reader. -/
def passport : AgentCard := { AgentCard.eid true with readerId := qs "/reader/1" }

/-- The window comes up over an agent it then hears of, and a PIN is being changed. -/
def comesUp : List Credentials.Event :=
  [.refresh, .registry (.desk (qs "/reader/1") 1 passport), .refresh,
    .finished 0 { credentialsResult := [{ id := qs "pin", kind := .sign }] },
    .changePin (qs "pin")]

lemma truthful_desk : Credentials.Truthful (.desk (qs "/reader/1") 1 passport) := by
  intro x hx c card hxc hcard
  obtain rfl := List.mem_singleton.1 hx
  obtain rfl : 1 = c := Option.some.inj hxc
  rw [← Option.some.inj hcard]
  rfl

lemma settled_desk : Credentials.Settled (.desk (qs "/reader/1") 1 passport) where
  distinct := by decide
  named x hx := by
    obtain rfl := List.mem_singleton.1 hx
    decide
  housed c card hc := by
    by_cases h1 : c = 1
    · subst h1
      refine ⟨_, List.mem_singleton.2 rfl, ?_, rfl⟩
      rw [← Option.some.inj hc]
      rfl
    · rw [show (Registry.desk (qs "/reader/1") 1 passport).cards c = none from if_neg h1] at hc
      cases hc

theorem window_shows_card_desk :
    ((Credentials.machine .plain).exec .new comesUp).mutationOp = some 1 ∧
      Manages .plain
        ((machine .plain).exec widget [.registryChanged (.desk (qs "/reader/1") 1 passport)])
        ((Credentials.machine .plain).exec .new comesUp) :=
  ⟨by decide, window_shows_card start_widget (by decide) Credentials.start_new
    (fun x hx => nomatch hx)
    ⟨⟨trivial, trivial⟩, ⟨trivial, truthful_desk, fun _ _ _ hnone => nomatch hnone⟩,
      ⟨trivial, trivial⟩, ⟨by decide, trivial⟩, ⟨trivial, trivial⟩, trivial⟩ rfl rfl settled_desk
    rfl⟩

end Plasmoid

end LibreKDE
