import LibreKDE.Plasmoid.Moves

/-!
# When the free read is issued

`FreelyFrom` gives the reasons of a free read; this file gives its exact condition.
`readsFreely` is about the card alone: it announces no unlock and resolves to a state that
shows an identity.  `classifyReads` and `refreshReads` add what the widget knows, and say which
card a classification and a refresh read, if they read one.  The identity read's terminal is
treated the same way.
-/

namespace LibreKDE.Plasmoid

open CardReads

variable {h : PlasmoidHost}

/-- The card's identity is there to be read, and takes no secret. -/
def readsFreely (h : PlasmoidHost) (c : AgentCard) : Bool :=
  !preReadUnlockRequired c.preReadAuth &&
    (State.fromUiState (h.resolveCardState c.capabilities .none true false) = .identityOnly ∨
      State.fromUiState (h.resolveCardState c.capabilities .none true false) = .hybrid)

namespace SmartCardHandler

variable {s : SmartCardHandler} {c : CardRef} {a : AgentCard}

/-! ## Classifying -/

/-- `ensureFreeRead` goes through: a card is bound that is read freely, and it has not been read. -/
def freeReadDue (s : SmartCardHandler) : Bool :=
  s.card.isSome && !s.unlockRequired && !s.identityRead && s.identityOp.isNone &&
    (s.state = .identityOnly ∨ s.state = .hybrid)

lemma ensureFreeRead_of_due (hdue : s.freeReadDue = true) :
    s.ensureFreeRead = s.readIdentity := by
  simp only [freeReadDue, Bool.and_eq_true, Bool.not_eq_true', decide_eq_true_eq] at hdue
  obtain ⟨⟨⟨⟨hcard, hunlock⟩, hread⟩, hop⟩, hstate⟩ := hdue
  have hsome : s.card ≠ none := Option.isSome_iff_ne_none.1 hcard
  have hfree : s.identityOp = none := by simpa using hop
  unfold ensureFreeRead
  rw [if_neg hsome, if_neg (by simp [hunlock, hread, hfree]), if_neg (by tauto)]

lemma ensureFreeRead_of_not_due (hdue : s.freeReadDue = false) : s.ensureFreeRead = s := by
  unfold ensureFreeRead
  split_ifs with hcard hguard hstate
  · rfl
  · rfl
  · rfl
  · exfalso
    simp only [not_or, Bool.not_eq_true, Option.isSome_eq_false_iff] at hguard
    have hstate' : s.state = .identityOnly ∨ s.state = .hybrid := by tauto
    simp [freeReadDue, Option.isSome_iff_ne_none.2 hcard, hguard.1, hguard.2.1, hguard.2.2,
      hstate'] at hdue

lemma readIdentity_of_free (hc : s.card = some c) (hop : s.identityOp = none) :
    s.readIdentity.toCardReads = s.mintIdentity c ∧ s.readIdentity.errorMessage = [] := by
  unfold readIdentity
  split
  · next hnone =>
      rw [hc] at hnone
      cases hnone
  · next d hd =>
      obtain rfl : c = d := Option.some.inj (hc.symm.trans hd)
      rw [if_neg (by simp [hop])]
      exact ⟨rfl, rfl⟩

/-- A free read that is due is one of the card shown. -/
lemma ensureFreeRead_reads (hdue : s.freeReadDue = true) :
    ∃ c, s.card = some c ∧ s.ensureFreeRead.toCardReads = s.mintIdentity c ∧
      s.ensureFreeRead.errorMessage = [] := by
  rw [ensureFreeRead_of_due hdue]
  simp only [freeReadDue, Bool.and_eq_true, Option.isNone_iff_eq_none] at hdue
  obtain ⟨⟨⟨⟨hcard, -⟩, -⟩, hop⟩, -⟩ := hdue
  obtain ⟨c, hc⟩ := Option.isSome_iff_exists.1 hcard
  exact ⟨c, hc, readIdentity_of_free hc hop⟩

/-- The card a classification reads, if it reads it. -/
def classifyReads (h : PlasmoidHost) (s : SmartCardHandler) : Option CardRef :=
  s.card.filter fun c =>
    s.viewActive && !s.identityRead && s.identityOp.isNone &&
      (s.client.registry.cards c).any (readsFreely h)

lemma freeReadDue_classify (hc : s.card = some c) (ha : s.client.registry.cards c = some a) :
    (s.updatePinManagementAvailable.classify h a).freeReadDue =
      (!s.identityRead && s.identityOp.isNone && readsFreely h a) := by
  have hunlock : (s.updatePinManagementAvailable.classify h a).unlockRequired =
      preReadUnlockRequired a.preReadAuth := by
    show (s.card.bind s.client.registry.cards).any _ = _
    simp [hc, ha]
  have hsome : (s.updatePinManagementAvailable.classify h a).card.isSome = true := by
    show s.card.isSome = true
    simp [hc]
  have hstate : (s.updatePinManagementAvailable.classify h a).state =
      .fromUiState (s.resolve h a) := rfl
  have hread : (s.updatePinManagementAvailable.classify h a).identityRead = s.identityRead := rfl
  have hop : (s.updatePinManagementAvailable.classify h a).identityOp = s.identityOp := rfl
  rw [freeReadDue, hsome, hunlock, hread, hop, hstate, readsFreely, resolve]
  cases preReadUnlockRequired a.preReadAuth <;> cases s.identityRead <;>
    cases s.identityOp.isNone <;> simp

/-- What a classification does to the reads and to the message. -/
inductive Classified (h : PlasmoidHost) (s s' : SmartCardHandler) : Prop
  | unread : s.classifyReads h = none → s'.toCardReads = s.toCardReads →
      s'.errorMessage = s.errorMessage → Classified h s s'
  | reads (c : CardRef) : s.classifyReads h = some c → s'.toCardReads = s.mintIdentity c →
      s'.errorMessage = [] → Classified h s s'

/-- Classifying a card with a record shows its state, and goes on to the free read of an open
view. -/
lemma classifyActiveCard_of_record (hc : s.card = some c)
    (ha : s.client.registry.cards c = some a) :
    s.classifyActiveCard h =
      if s.viewActive then (s.updatePinManagementAvailable.classify h a).ensureFreeRead
      else s.updatePinManagementAvailable.classify h a := by
  have hrecord : s.updatePinManagementAvailable.boundCard = some a := by
    show s.card.bind s.client.registry.cards = some a
    simp [hc, ha]
  simp only [classifyActiveCard, hrecord]
  rfl

lemma classifyActiveCard_of_no_record (hn : s.card.bind s.client.registry.cards = none) :
    s.classifyActiveCard h = { s.updatePinManagementAvailable with state := .noCard } := by
  have hrecord : s.updatePinManagementAvailable.boundCard = none := hn
  simp only [classifyActiveCard, hrecord]

lemma classifyReads_of_record (hc : s.card = some c) (ha : s.client.registry.cards c = some a) :
    s.classifyReads h =
      if s.viewActive && (s.updatePinManagementAvailable.classify h a).freeReadDue then some c
      else none := by
  rw [freeReadDue_classify hc ha, classifyReads, hc, Option.filter_some, ha]
  simp [Bool.and_assoc]

lemma classifyReads_of_no_record (hn : s.card.bind s.client.registry.cards = none) :
    s.classifyReads h = none := by
  cases hc : s.card with
  | none => simp [classifyReads, hc]
  | some c =>
      have hnone : s.client.registry.cards c = none := by simpa [hc] using hn
      simp [classifyReads, hc, hnone]

lemma classified (s : SmartCardHandler) : Classified h s (s.classifyActiveCard h) := by
  cases hrecord : s.card.bind s.client.registry.cards with
  | none =>
      rw [classifyActiveCard_of_no_record hrecord]
      exact .unread (classifyReads_of_no_record hrecord) rfl rfl
  | some a =>
      obtain ⟨c, hc, ha⟩ := Option.bind_eq_some_iff.1 hrecord
      have hreads := classifyReads_of_record (h := h) hc ha
      rw [classifyActiveCard_of_record hc ha]
      -- The popup must be open; then the record says whether a read is due.
      cases hview : s.viewActive with
      | false =>
          rw [hview] at hreads
          exact .unread hreads rfl rfl
      | true =>
          rw [hview, Bool.true_and] at hreads
          rw [if_pos rfl]
          cases hdue : (s.updatePinManagementAvailable.classify h a).freeReadDue with
          | false =>
              rw [hdue] at hreads
              rw [ensureFreeRead_of_not_due hdue]
              exact .unread hreads rfl rfl
          | true =>
              have hop : s.identityOp = none := by
                have hfree := hdue
                rw [freeReadDue_classify hc ha] at hfree
                simp only [Bool.and_eq_true, Option.isNone_iff_eq_none] at hfree
                exact hfree.1.2
              rw [hdue] at hreads
              rw [ensureFreeRead_of_due hdue]
              obtain ⟨hmint, hmessage⟩ := readIdentity_of_free
                (s := s.updatePinManagementAvailable.classify h a) hc hop
              exact .reads c hreads hmint hmessage

/-! ## Refreshing -/

/-- The card a refresh reads, if it reads it: it binds it, and nothing of it was read yet or is
being read. -/
def refreshReads (h : PlasmoidHost) (s : SmartCardHandler) : Option CardRef :=
  (s.target h).filter fun c =>
    s.viewActive && !(decide (s.card = some c) && (s.identityRead || s.identityOp.isSome)) &&
      (s.client.registry.cards c).any (readsFreely h)

/-- What a refresh does to the reads and to the message. -/
inductive RefreshOutcome (h : PlasmoidHost) (s s' : SmartCardHandler) : Prop
  | unbound : s.target h = none → s'.toCardReads = s.toCardReads.bindCard none →
      s'.errorMessage = [] → RefreshOutcome h s s'
  | unread (c : CardRef) : s.target h = some c → s.refreshReads h = none →
      s'.toCardReads = s.toCardReads.bindCard (some c) → s'.errorMessage = s.errorMessage →
      RefreshOutcome h s s'
  | reads (c : CardRef) : s.target h = some c → s.refreshReads h = some c →
      s'.toCardReads = (s.toCardReads.bindCard (some c)).mintIdentity c →
      s'.errorMessage = [] → RefreshOutcome h s s'

/-- Of the card just bound, classifying reads what the refresh reads. -/
lemma classifyReads_of_bindCard {v : SmartCardHandler} (ht : s.target h = some c)
    (hreads : v.toCardReads = s.toCardReads.bindCard (some c))
    (hview : v.viewActive = s.viewActive) : v.classifyReads h = s.refreshReads h := by
  have hcard : v.card = some c := (congrArg CardReads.card hreads).trans (bindCard_card _ _)
  unfold classifyReads refreshReads
  rw [ht, hcard, Option.filter_some, Option.filter_some, hview, hreads]
  by_cases hsame : s.card = some c
  · have hstay : s.toCardReads.bindCard (some c) = s.toCardReads := by
      rw [CardReads.bindCard, if_pos ⟨by simp, hsame⟩]
    rw [hstay, hsame]
    cases s.identityRead <;> cases s.identityOp <;> simp
  · have hrebind : s.toCardReads.bindCard (some c) = s.toCardReads.rebind (some c) := by
      rw [CardReads.bindCard, if_neg (fun hboth => hsame hboth.2)]
    rw [hrebind, rebind_eq]
    simp [hsame]

lemma refreshOutcome (s : SmartCardHandler) : RefreshOutcome h s (s.refresh h) := by
  obtain ⟨v, hv, ⟨heq, hnone, hmessage⟩ | ⟨heq, hsome, hmessage⟩⟩ := s.refresh_eq (h := h)
  · rw [heq]
    refine .unbound hnone ?_ hmessage
    rw [← hnone]
    exact hv.reads
  · obtain ⟨c, ht⟩ := Option.ne_none_iff_exists'.1 hsome
    have hreads : v.toCardReads = s.toCardReads.bindCard (some c) := by rw [← ht, hv.reads]
    have hdue := classifyReads_of_bindCard ht hreads hv.view
    rw [heq]
    cases v.classified (h := h) with
    | unread hnone hsame hkeep =>
        exact .unread c ht (hdue.symm.trans hnone) (hsame.trans hreads) (hkeep.trans hmessage)
    | reads d hd hmint hclear =>
        have hcd : s.refreshReads h = some d := hdue.symm.trans hd
        obtain rfl : c = d := by
          have hmem := (Option.filter_eq_some_iff.1 hcd).1
          exact Option.some.inj (ht.symm.trans hmem)
        refine .reads c ht hcd ?_ hclear
        rw [← hreads]
        exact hmint

/-! ## The terminal of an identity read -/

/-- The holder dismissed the prompt, and nothing else went wrong. -/
def isDismissed (t : Terminal) : Bool :=
  t.status = .cancelled ∧ t.errorCode = .none ∧ t.callError = .none

/-- What the terminal of an identity read does to the reads and to the message. -/
inductive IdentityEnded (h : PlasmoidHost) (s : SmartCardHandler) (i : ℕ) (t : Terminal)
    (s' : SmartCardHandler) : Prop
  /-- The card is classified as it was before the read. -/
  | dismissed : isDismissed t = true →
      Classified h (s.identityDismissed i t) s' → IdentityEnded h s i t s'
  | failed : isDismissed t = false → t.status ≠ .ok → s'.toCardReads = s.identityEnds i t →
      s'.errorMessage =
        ErrorText.forOutcome h.toHost t.errorCode t.callError t.messageKey t.messageFallback →
      IdentityEnded h s i t s'
  /-- The card counts as read, so that no free read follows; the photo may. -/
  | answered (s₁ : CardReads) : t.status = .ok →
      s₁ = (s.identityAnswered h i t).toCardReads → s'.toCardReads = s₁.startPhotoRead →
      s'.errorMessage = s.errorMessage → IdentityEnded h s i t s'

lemma identityEnded_spec (hw : Wired s.toCardReads) {i : ℕ} (hop : s.identityOp = some i)
    (t : Terminal) : IdentityEnded h s i t (s.finished h i t) := by
  obtain ⟨hp, hreq⟩ := hw.identity i hop
  simp only [finished, hp.connected, hreq, if_true, onOperationFinished, hop]
  split_ifs with hcancel hok
  · exact .dismissed (by simpa [isDismissed] using hcancel) (classified _)
  · exact .failed (by simpa [isDismissed] using hcancel) hok rfl rfl
  · have hread : (s.identityAnswered h i t).classifyReads h = none := by
      cases hc : s.card <;> simp [classifyReads, identityAnswered, identityEnded,
        CardReads.identityEnds, hc]
    cases (s.identityAnswered h i t).classified (h := h) with
    | unread _ hsame hkeep =>
        refine .answered _ (not_not.1 hok) rfl ?_ hkeep
        exact congrArg CardReads.startPhotoRead hsame
    | reads c hc _ _ =>
        rw [hread] at hc
        cases hc

end SmartCardHandler

end LibreKDE.Plasmoid
