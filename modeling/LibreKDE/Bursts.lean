import LibreKDE.Credentials.Steps
import LibreKDE.Plasmoid.FreeReads

/-!
# Bursts of announcements

Every announcement of the client runs `refresh`, and announcements come in bursts.  In both hosts
a second `refresh` over the same registry finds everything as it would make it: `refresh` is
idempotent on every state, reachable or not, and what is left equal is the whole object, with the
client's table of operations (`refresh_idempotent`).  A burst therefore does what its first
announcement does (`exec_refreshes`).

Either proof goes through the steps of `refresh` and shows that each is a fixed point at the end:
a step that would act again is kept by a latch or a guarded pointer that the first run set, and
the later steps leave both alone.
-/

namespace LibreKDE

/-! ## The credentials window -/

namespace Credentials.Controller

variable {h : Host} {s u v : Controller} {x : AgentReader}

/-- With no reader to show, unbinding finds nothing to drop. -/
lemma unbind_unbind (s : Controller) (st : State) : (s.unbind st).unbind st = s.unbind st := by
  rw [unbind, bindCard_none, unbind, bindCard_none]
  rfl

/-- What a reader is resolved from stays, and no verb starts. -/
structure Resolves (s u : Controller) : Prop where
  hasClient : u.hasClient = s.hasClient
  registry : u.client.registry = s.client.registry
  readerId : u.readerId = s.readerId
  mutationOp : s.mutationOp = none → u.mutationOp = none

/-- The reader shown stays as well. -/
structure SameReader (s u : Controller) : Prop extends Resolves s u where
  resolvedReaderId : u.resolvedReaderId = s.resolvedReaderId
  readerLabel : u.readerLabel = s.readerLabel

lemma Resolves.available (hs : Resolves s u) : u.available = s.available := by
  rw [Controller.available, Controller.available, hs.hasClient, hs.registry]

/-- The same reader is resolved. -/
lemma Resolves.resolvedReader (hs : Resolves s u) : u.resolvedReader = s.resolvedReader := by
  rw [Controller.resolvedReader, Controller.resolvedReader, boundReader, boundReader, hs.registry,
    hs.readerId]

namespace SameReader

lemma refl (s : Controller) : SameReader s s := ⟨⟨rfl, rfl, rfl, id⟩, rfl, rfl⟩

lemma trans (hsv : SameReader s v) (hvu : SameReader v u) : SameReader s u where
  hasClient := hvu.hasClient.trans hsv.hasClient
  registry := hvu.registry.trans hsv.registry
  readerId := hvu.readerId.trans hsv.readerId
  mutationOp := hvu.mutationOp ∘ hsv.mutationOp
  resolvedReaderId := hvu.resolvedReaderId.trans hsv.resolvedReaderId
  readerLabel := hvu.readerLabel.trans hsv.readerLabel

lemma rebind (s : Controller) (c : Option CardRef) : SameReader s (s.rebind c) :=
  ⟨⟨rfl, by simp [Controller.rebind], rfl, fun _ => rfl⟩, rfl, rfl⟩

lemma bindCard (s : Controller) (c : Option CardRef) : SameReader s (s.bindCard c) := by
  rcases s.bindCard_cases c with ⟨-, -, heq⟩ | ⟨-, heq⟩
  · rw [heq]
    exact refl s
  · rw [heq]
    exact rebind s c

lemma clearRows (s : Controller) (st : State) : SameReader s (s.clearRows st) :=
  ⟨⟨rfl, s.resetListState_registry, rfl, id⟩, rfl, rfl⟩

lemma classify (s : Controller) : SameReader s s.classify := by
  rcases s.classify_cases with ⟨-, heq⟩ | ⟨-, -, heq⟩ | ⟨-, -, heq⟩ | ⟨c, -, -, -, -, -, heq⟩
  · rw [heq]
    exact clearRows s _
  · rw [heq]
    exact clearRows s _
  · rw [heq]
    exact refl s
  · rw [heq]
    exact ⟨⟨rfl, rfl, rfl, id⟩, rfl, rfl⟩

end SameReader

lemma resolves_unbind (s : Controller) (st : State) : Resolves s (s.unbind st) := by
  rw [unbind, bindCard_none]
  exact ⟨rfl, by simp [rebind], rfl, fun _ => rfl⟩

/-- A list that was fetched is in flight, and one that was not is settled. -/
lemma classify_classify (s : Controller) : s.classify.classify = s.classify := by
  have hmanageable : s.classify.manageable = s.manageable := by
    rw [manageable, manageable, boundCard, boundCard, classify_card,
      (SameReader.classify s).registry]
  rcases s.classify_cases with
    ⟨hn, heq⟩ | ⟨hn, hm, heq⟩ | ⟨hm, -, heq⟩ | ⟨c, hc, hm, hmut, hop, hsettled, heq⟩
  · have hcard : s.classify.card = none := classify_card.trans hn
    rw [Controller.classify, if_pos hcard, heq]
    rfl
  · have hcard : s.classify.card ≠ none := classify_card (s := s) ▸ hn
    rw [Controller.classify, if_neg hcard, hmanageable, hm, heq]
    rfl
  · rw [heq, heq]
  · have hcard : s.classify.card = some c := classify_card.trans hc
    rw [Controller.classify, if_neg (by rw [hcard]; simp), hmanageable, if_pos hm,
      startListCredentials, hcard, heq]
    simp only
    rw [if_neg (by simpa [mintList] using hmut), if_pos (.inl (by simp [mintList]))]

/-- The card bound is not bound again, and the null card has nothing to drop. -/
lemma bindCard_classify (s : Controller) (c : Option CardRef) :
    (s.bindCard c).classify.bindCard c = (s.bindCard c).classify := by
  cases c with
  | none =>
      have hcard : (s.rebind none).card = none := rfl
      rw [bindCard_none, bindCard_none, Controller.classify, if_pos hcard]
      rfl
  | some c =>
      have hcard : (s.bindCard (some c)).classify.card = some c := by
        rw [classify_card]
        rcases s.bindCard_cases (some c) with ⟨-, hc, heq⟩ | ⟨-, heq⟩
        · rw [heq, hc]
        · rw [heq]
          rfl
      exact if_pos ⟨by simp, hcard⟩

lemma showReader_eq_self (hid : s.resolvedReaderId = x.id)
    (hlabel : s.readerLabel = Readers.readerLabel h x) : s.showReader h x = s := by
  rw [showReader, ← hid, ← hlabel]

lemma refresh_of_reader (havail : s.available = true) (hmut : s.mutationOp = none)
    (hreader : s.resolvedReader = some x) :
    s.refresh h = ((s.showReader h x).bindCard x.card).classify := by
  rw [refresh, if_neg (not_not.2 havail), if_neg (not_not.2 hmut), hreader]

/-- A second `refresh` of the window changes nothing. -/
lemma refresh_refresh (s : Controller) : (s.refresh h).refresh h = s.refresh h := by
  rcases s.refresh_cases (h := h) with
    ⟨havail, heq⟩ | ⟨-, -, heq⟩ | ⟨havail, hmut, hreader, heq⟩ | ⟨x, havail, hmut, hreader, heq⟩
  · have hr := s.resolves_unbind .agentUnavailable
    rw [heq, refresh, if_pos (by rw [hr.available, havail]; simp), unbind_unbind]
  · rw [heq, heq]
  · have hr := s.resolves_unbind .noCard
    rw [heq, refresh, if_neg (by rw [hr.available, havail]; simp),
      if_neg (not_not.2 (hr.mutationOp hmut)), hr.resolvedReader, hreader]
    exact s.unbind_unbind .noCard
  · have hr : SameReader (s.showReader h x) (s.refresh h) := by
      rw [heq]
      exact (SameReader.bindCard _ _).trans (SameReader.classify _)
    have hfrom : Resolves s (s.showReader h x) := ⟨rfl, rfl, rfl, id⟩
    have hsecond := refresh_of_reader (h := h) (hr.available.trans (hfrom.available.trans havail))
      (hr.mutationOp (hfrom.mutationOp hmut)) (hr.resolvedReader.trans
        (hfrom.resolvedReader.trans hreader))
    rw [hsecond, showReader_eq_self hr.resolvedReaderId hr.readerLabel, heq, bindCard_classify,
      classify_classify]

/-- A burst of announcements does what its first one does. -/
lemma exec_refreshes (s : Controller) (n : ℕ) :
    (machine h).exec s (List.replicate (n + 1) .refresh) = s.refresh h :=
  (machine h).exec_replicate (s := s) (e := .refresh) s.refresh_refresh n

end Credentials.Controller

/-! ## The widget -/

namespace Plasmoid.SmartCardHandler

variable {h : PlasmoidHost} {s u v : SmartCardHandler} {c : CardRef} {a : AgentCard}

/-! ### The rosters -/

/-- The readers and what is noted about them stay. -/
structure SameReaders (s u : SmartCardHandler) : Prop extends SameRoster s u where
  registry : u.client.registry = s.client.registry
  names : u.availableReaderNames = s.availableReaderNames
  withCards : u.readersWithCards = s.readersWithCards
  signStates : u.signStates = s.signStates

/-- The reader shown stays as well. -/
structure SameShown (s u : SmartCardHandler) : Prop extends SameReaders s u where
  readerName : u.readerName = s.readerName
  cardDetected : u.cardDetected = s.cardDetected

namespace SameShown

lemma refl (s : SmartCardHandler) : SameShown s s := ⟨⟨.refl s, rfl, rfl, rfl, rfl⟩, rfl, rfl⟩

lemma trans (hsv : SameShown s v) (hvu : SameShown v u) : SameShown s u where
  toSameRoster := hsv.toSameRoster.trans hvu.toSameRoster
  registry := hvu.registry.trans hsv.registry
  names := hvu.names.trans hsv.names
  withCards := hvu.withCards.trans hsv.withCards
  signStates := hvu.signStates.trans hsv.signStates
  readerName := hvu.readerName.trans hsv.readerName
  cardDetected := hvu.cardDetected.trans hsv.cardDetected

lemma bindCard (s : SmartCardHandler) (c : Option CardRef) : SameShown s (s.bindCard c) := by
  unfold SmartCardHandler.bindCard
  split_ifs
  · exact refl s
  · exact ⟨⟨⟨rfl, rfl, rfl⟩, by simp [CardReads.rebind_eq], rfl, rfl, rfl⟩, rfl, rfl⟩
  · exact ⟨⟨⟨rfl, rfl, rfl⟩, by simp [CardReads.rebind_eq], rfl, rfl, rfl⟩, rfl, rfl⟩

lemma ensureFreeRead (s : SmartCardHandler) : SameShown s s.ensureFreeRead := by
  rcases s.ensureFreeRead_cases with heq | ⟨c, -, -, heq⟩
  · rw [heq]
    exact refl s
  · rw [heq]
    exact ⟨⟨⟨rfl, rfl, rfl⟩, rfl, rfl, rfl, rfl⟩, rfl, rfl⟩

lemma classifyActiveCard (s : SmartCardHandler) : SameShown s (s.classifyActiveCard h) := by
  unfold SmartCardHandler.classifyActiveCard
  dsimp only
  split
  · exact ⟨⟨⟨rfl, rfl, rfl⟩, rfl, rfl, rfl, rfl⟩, rfl, rfl⟩
  · next a _ =>
      have hclassify : SameShown s (s.updatePinManagementAvailable.classify h a) :=
        ⟨⟨⟨rfl, rfl, rfl⟩, rfl, rfl, rfl, rfl⟩, rfl, rfl⟩
      split_ifs
      · exact hclassify.trans (ensureFreeRead _)
      · exact hclassify

end SameShown

/-- Rosters taken over from the registry are not taken over again: whoever left has no entry
left to lose. -/
lemma updateReaderRosters_eq_self (hu : SameReaders (s.updateReaderRosters h) u) :
    u.updateReaderRosters h = u := by
  have hregistry : u.client.registry = s.client.registry := hu.registry
  have hnames : (s.client.registry.readers.map fun x => x.name) = u.availableReaderNames :=
    hu.names.symm
  have hwith : ((s.client.registry.readers.filter fun x => x.card.isSome).map fun x => x.name) =
      u.readersWithCards := hu.withCards.symm
  have hpresent : computeBoundReaderPresent h.chars u.boundReaderName u.availableReaderNames =
      u.boundReaderPresent := by
    rw [hu.bound, ← hnames]
    exact hu.present.symm
  have hsigns : (fun reader => (u.signStates reader).filter fun e =>
      ¬ (e.job = none ∧ reader ∉ u.availableReaderNames)) = u.signStates := by
    rw [hu.signStates, ← hnames]
    funext reader
    simp only [updateReaderRosters, Option.filter_filter, Bool.and_self]
  rw [updateReaderRosters, hregistry, hnames, hwith, hpresent, hsigns]

/-! ### The card -/

/-- With no card to bind, binding finds nothing to drop. -/
lemma rebind_rebind (r : CardReads) : (r.rebind none).rebind none = r.rebind none := by
  have hcleared : (r.photoStore.clear r.photoSlot).clear r.photoSlot =
      r.photoStore.clear r.photoSlot := by
    simp [CardPhotoStore.clear]
  rw [CardReads.rebind_eq, CardReads.rebind_eq]
  dsimp only
  rw [hcleared]
  rfl

/-- What is shown of a card is what its record resolves to. -/
structure Classed (h : PlasmoidHost) (u : SmartCardHandler) (c : CardRef) (a : AgentCard) :
    Prop where
  card : u.card = some c
  record : u.client.registry.cards c = some a
  pin : u.pinManagementAvailable = a.pinManagement
  state : u.state = .fromUiState (u.resolve h a)
  label : u.resolve h a = .preAuthRequired → u.cardLabel = []

namespace Classed

lemma classify (hc : s.card = some c) (ha : s.client.registry.cards c = some a) :
    Classed h (s.updatePinManagementAvailable.classify h a) c a where
  card := hc
  record := ha
  pin := by
    show (s.card.bind s.client.registry.cards).any AgentCard.pinManagement = _
    rw [hc, Option.bind_some, ha, Option.any_some]
  state := rfl
  label := fun hauth => if_pos hauth

lemma ensureFreeRead (hu : Classed h u c a) : Classed h u.ensureFreeRead c a := by
  rcases u.ensureFreeRead_cases with heq | ⟨d, -, -, heq⟩
  · rw [heq]
    exact hu
  · rw [heq]
    exact ⟨hu.card, hu.record, hu.pin, hu.state, hu.label⟩

/-- Classifying it again shows the same. -/
lemma classify_eq (hu : Classed h u c a) : u.updatePinManagementAvailable.classify h a = u := by
  have hpin : u.boundCard.any AgentCard.pinManagement = u.pinManagementAvailable := by
    rw [CardReads.boundCard, hu.card, Option.bind_some, hu.record, Option.any_some, hu.pin]
  have hlabel : (if u.resolve h a = .preAuthRequired then [] else u.cardLabel) = u.cardLabel :=
    ite_eq_right_iff.2 fun hauth => (hu.label hauth).symm
  rw [updatePinManagementAvailable, hpin, SmartCardHandler.classify]
  show { u with cardLabel := _, state := _ } = u
  rw [← hu.state, hlabel]

end Classed

/-- A free read that is issued is not due any more. -/
lemma freeReadDue_ensureFreeRead (s : SmartCardHandler) :
    s.ensureFreeRead.freeReadDue = false := by
  cases hdue : s.freeReadDue with
  | false => rw [ensureFreeRead_of_not_due hdue, hdue]
  | true =>
      obtain ⟨c, -, hmint, -⟩ := ensureFreeRead_reads hdue
      have hop : s.ensureFreeRead.identityOp = some s.client.minted := by
        rw [hmint]
        rfl
      simp [freeReadDue, hop]

/-- A card classified is classified as it was, and its free read is on its way. -/
lemma classifyActiveCard_classifyActiveCard (s : SmartCardHandler) :
    (s.classifyActiveCard h).classifyActiveCard h = s.classifyActiveCard h := by
  cases hrecord : s.card.bind s.client.registry.cards with
  | none =>
      rw [classifyActiveCard_of_no_record hrecord]
      exact classifyActiveCard_of_no_record (h := h)
        (s := { s.updatePinManagementAvailable with state := .noCard }) hrecord
  | some a =>
      obtain ⟨c, hc, ha⟩ := Option.bind_eq_some_iff.1 hrecord
      have hclassed : Classed h (s.updatePinManagementAvailable.classify h a) c a :=
        .classify hc ha
      rw [classifyActiveCard_of_record hc ha]
      cases hview : s.viewActive with
      | false =>
          have hclosed : (s.updatePinManagementAvailable.classify h a).viewActive = false := hview
          rw [if_neg Bool.false_ne_true,
            classifyActiveCard_of_record hclassed.card hclassed.record, hclassed.classify_eq,
            hclosed, if_neg Bool.false_ne_true]
      | true =>
          -- the second time the free read is in flight, or was not due
          have hread := hclassed.ensureFreeRead
          have hopen : (s.updatePinManagementAvailable.classify h a).ensureFreeRead.viewActive =
              true := (ensureFreeRead_viewActive _).trans hview
          rw [if_pos rfl, classifyActiveCard_of_record hread.card hread.record,
            hread.classify_eq, if_pos hopen,
            ensureFreeRead_of_not_due (freeReadDue_ensureFreeRead _)]

/-- The sign surfaces may as well be published first. -/
lemma ensureFreeRead_publishSignSurfaces (s : SmartCardHandler) :
    s.publishSignSurfaces.ensureFreeRead = s.ensureFreeRead.publishSignSurfaces := by
  cases hdue : s.freeReadDue with
  | false =>
      rw [ensureFreeRead_of_not_due hdue]
      exact ensureFreeRead_of_not_due hdue
  | true =>
      rw [ensureFreeRead_of_due hdue, ensureFreeRead_of_due (s := s.publishSignSurfaces) hdue]
      unfold readIdentity
      rw [publishSignSurfaces_toCardReads]
      split
      · rfl
      · split_ifs <;> rfl

lemma classifyActiveCard_publishSignSurfaces (s : SmartCardHandler) :
    s.publishSignSurfaces.classifyActiveCard h = (s.classifyActiveCard h).publishSignSurfaces := by
  cases hrecord : s.card.bind s.client.registry.cards with
  | none =>
      rw [classifyActiveCard_of_no_record hrecord]
      exact classifyActiveCard_of_no_record (s := s.publishSignSurfaces) hrecord
  | some a =>
      obtain ⟨c, hc, ha⟩ := Option.bind_eq_some_iff.1 hrecord
      have hview : s.publishSignSurfaces.viewActive = s.viewActive := rfl
      rw [classifyActiveCard_of_record hc ha,
        classifyActiveCard_of_record (s := s.publishSignSurfaces) hc ha, hview]
      split_ifs
      · exact ensureFreeRead_publishSignSurfaces (s.updatePinManagementAvailable.classify h a)
      · rfl

/-! ### The branches of `refresh` -/

/-- Both branches of `refresh` with no reader to show. -/
def showNothing (h : PlasmoidHost) (s : SmartCardHandler) (name : QString)
    (detected installed : Bool) (st : State) : SmartCardHandler :=
  publishSignSurfaces
    { ((s.updateReaderRosters h).bindCard none).updatePinManagementAvailable with
      readerName := name
      cardLabel := []
      errorMessage := []
      cardDetected := detected
      identityRead := false
      agentInstalled := installed
      state := st }

lemma sameReaders_showNothing (s : SmartCardHandler) (name : QString) (detected installed : Bool)
    (st : State) :
    SameReaders (s.updateReaderRosters h) (s.showNothing h name detected installed st) := by
  have hbind := SameShown.bindCard (s.updateReaderRosters h) none
  exact ⟨⟨hbind.bound, hbind.selected, hbind.present⟩, hbind.registry, hbind.names,
    hbind.withCards, hbind.signStates⟩

/-- The null card is bound again, and there is nothing left to drop. -/
lemma showNothing_showNothing (s : SmartCardHandler) (name : QString) (detected installed : Bool)
    (st : State) :
    (s.showNothing h name detected installed st).showNothing h name detected installed st =
      s.showNothing h name detected installed st := by
  have hreads : (s.showNothing h name detected installed st).toCardReads =
      s.toCardReads.rebind none := by
    rw [CardReads.rebind_eq]
    show { ((s.updateReaderRosters h).bindCard none).toCardReads with identityRead := false } = _
    rw [bindCard_toCardReads, CardReads.bindCard, if_neg (by simp), CardReads.rebind_eq]
    rfl
  have hbind : (s.showNothing h name detected installed st).bindCard none =
      s.showNothing h name detected installed st := by
    rw [SmartCardHandler.bindCard, if_neg (by simp), hreads, rebind_rebind, ← hreads]
    rfl
  have hrosters :=
    updateReaderRosters_eq_self (s.sameReaders_showNothing (h := h) name detected installed st)
  rw [showNothing, hrosters, hbind]
  rfl

/-- The branch of `refresh` with a reader to show. -/
def showCard (h : PlasmoidHost) (s : SmartCardHandler) (x : AgentReader) : SmartCardHandler :=
  (({ s.updateReaderRosters h with cardDetected := false, readerName := x.name }.bindCard
    x.card).classifyActiveCard h).publishSignSurfaces

lemma sameShown_showCard (s : SmartCardHandler) (x : AgentReader) :
    SameShown { s.updateReaderRosters h with cardDetected := false, readerName := x.name }
      (s.showCard h x) :=
  ((SameShown.bindCard _ x.card).trans (.classifyActiveCard _)).trans
    ⟨⟨⟨rfl, rfl, rfl⟩, rfl, rfl, rfl, rfl⟩, rfl, rfl⟩

lemma sameReaders_showCard (s : SmartCardHandler) (x : AgentReader) :
    SameReaders (s.updateReaderRosters h) (s.showCard h x) := by
  have hshown := s.sameShown_showCard (h := h) x
  exact ⟨⟨hshown.bound, hshown.selected, hshown.present⟩, hshown.registry, hshown.names,
    hshown.withCards, hshown.signStates⟩

/-- The card shown is still bound, so it is not bound again, and it stays as it is classified. -/
lemma showCard_showCard {x : AgentReader} (hx : x.card ≠ none) (s : SmartCardHandler) :
    (s.showCard h x).showCard h x = s.showCard h x := by
  have hrosters := updateReaderRosters_eq_self (s.sameReaders_showCard (h := h) x)
  have hshown : { s.showCard h x with cardDetected := false, readerName := x.name } =
      s.showCard h x := by
    have hfrom := s.sameShown_showCard (h := h) x
    have hdetected : (s.showCard h x).cardDetected = false := hfrom.cardDetected
    have hname : (s.showCard h x).readerName = x.name := hfrom.readerName
    rw [← hdetected, ← hname]
  have hcard : (s.showCard h x).card = x.card := by
    show ((SmartCardHandler.bindCard _ x.card).classifyActiveCard h).card = x.card
    rw [(classifyActiveCard_freely _).card, bindCard_toCardReads, CardReads.bindCard_card]
  have hbind : (s.showCard h x).bindCard x.card = s.showCard h x := if_pos ⟨hx, hcard⟩
  have hclassify : (s.showCard h x).classifyActiveCard h = s.showCard h x := by
    rw [showCard, classifyActiveCard_publishSignSurfaces, classifyActiveCard_classifyActiveCard]
  rw [showCard, hrosters, hshown, hbind, hclassify]
  rfl

/-- The reader a refresh goes for, whether it holds a card or not. -/
def activeReader (h : PlasmoidHost) (s : SmartCardHandler) : Option AgentReader :=
  pickActiveReader h.chars s.client.registry s.boundReaderName s.selectedReaderName

/-- Taking the rosters over makes no difference to it. -/
lemma activeReader_of_sameReaders (hu : SameReaders (s.updateReaderRosters h) u) :
    u.activeReader h = s.activeReader h := by
  rw [activeReader, hu.registry, hu.bound, hu.selected]
  rfl

lemma refresh_unavailable (havail : s.client.registry.available = false) :
    s.refresh h = s.showNothing h [] false (s.client.registry.agentState ≠ .missing)
      .agentUnavailable := by
  have hregistry := (SameShown.bindCard (s.updateReaderRosters h) none).registry
  rw [refresh, if_pos (by simp [havail]), showNothing]
  dsimp only [updatePinManagementAvailable]
  rw [hregistry]
  rfl

lemma refresh_none (havail : s.client.registry.available = true)
    (hnone : s.activeReader h = none) :
    s.refresh h = s.showNothing h s.boundReaderName
      (computeCardDetected h.chars s.client.registry s.boundReaderName) s.agentInstalled
      .noCard := by
  have hbind := SameShown.bindCard (s.updateReaderRosters h) none
  have hpick : (s.updateReaderRosters h).activeReader h = none := hnone
  rw [activeReader] at hpick
  rw [refresh, if_neg (not_not.2 havail), showNothing]
  dsimp only [updatePinManagementAvailable]
  rw [hpick]
  dsimp only
  rw [hbind.registry, hbind.bound]
  rfl

lemma refresh_some {x : AgentReader} (havail : s.client.registry.available = true)
    (hsome : s.activeReader h = some x) : s.refresh h = s.showCard h x := by
  have hpick : (s.updateReaderRosters h).activeReader h = some x := hsome
  rw [activeReader] at hpick
  rw [refresh, if_neg (not_not.2 havail), showCard]
  dsimp only
  rw [hpick]

/-- A second `refresh` of the widget changes nothing. -/
lemma refresh_refresh (s : SmartCardHandler) : (s.refresh h).refresh h = s.refresh h := by
  cases havail : s.client.registry.available with
  | false =>
      have hu := s.sameReaders_showNothing (h := h) [] false
        (s.client.registry.agentState ≠ .missing) .agentUnavailable
      rw [refresh_unavailable havail, refresh_unavailable (by rw [hu.registry]; exact havail),
        hu.registry]
      exact s.showNothing_showNothing _ _ _ _
  | true =>
      cases hpick : s.activeReader h with
      | none =>
          have hu := s.sameReaders_showNothing (h := h) s.boundReaderName
            (computeCardDetected h.chars s.client.registry s.boundReaderName) s.agentInstalled
            .noCard
          rw [refresh_none havail hpick, refresh_none (by rw [hu.registry]; exact havail)
            ((activeReader_of_sameReaders hu).trans hpick), hu.registry, hu.bound]
          exact s.showNothing_showNothing _ _ _ _
      | some x =>
          have hu := s.sameReaders_showCard (h := h) x
          have hx : x.card ≠ none := Option.isSome_iff_ne_none.1 (pickActiveReader_spec hpick).2
          rw [refresh_some havail hpick, refresh_some (by rw [hu.registry]; exact havail)
            ((activeReader_of_sameReaders hu).trans hpick), showCard_showCard hx]

/-- A burst of announcements does what its first one does. -/
lemma exec_refreshes (s : SmartCardHandler) (n : ℕ) :
    (machine h).exec s (List.replicate (n + 1) .refresh) = s.refresh h :=
  (machine h).exec_replicate (s := s) (e := .refresh) s.refresh_refresh n

end Plasmoid.SmartCardHandler

/-! ## Both hosts -/

open Plasmoid Credentials in
/-- **Refreshing twice is refreshing once.**  In every state of the handler and of the controller a
second `refresh` starts, drops and binds nothing, and shows what the first one showed: a burst of
announcements costs what one costs. -/
theorem refresh_idempotent (hp : PlasmoidHost) (hc : Host) :
    (∀ s : SmartCardHandler, (s.refresh hp).refresh hp = s.refresh hp) ∧
      ∀ s : Controller, (s.refresh hc).refresh hc = s.refresh hc :=
  ⟨SmartCardHandler.refresh_refresh, Controller.refresh_refresh⟩

end LibreKDE
