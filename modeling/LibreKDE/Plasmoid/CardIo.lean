import LibreKDE.Plasmoid.Moves

/-!
# What is read, and when

A read costs the holder a prompt, or brings a holder's data into a process that may not need
it, so the widget reads on few occasions only.  `MintedBy` lists them: the user asks; the view
is open (or the caller says so) on a card that needs no secret and was not read yet; and, for
the photo, the identity has just been read.  Certificates are warmed only on a card that needs
no secret.
-/

namespace LibreKDE.Plasmoid

open Reactive CardReads SmartCardHandler

variable {h : PlasmoidHost}

/-- The record of the bound card, when it announces no unlock. -/
def AnnouncesNoUnlock (s : SmartCardHandler) (c : CardRef) : Prop :=
  ∃ record, s.client.registry.cards c = some record ∧
    preReadUnlockRequired record.preReadAuth = false

/-- No other operation of a kind is in flight. -/
def OnlyOneInFlight (s : SmartCardHandler) (q : Request) (i : ℕ) : Prop :=
  ∀ j, s.client.Pending j → (s.client.ops j).request = q → j = i

/-- Why operation `i` was minted by an event that led from `s` to `s'`; the card of `s'` was
bound under number `b`. -/
inductive MintedBy (s s' : SmartCardHandler) (b : ℕ) (e : Event) (i : ℕ) : Prop
  /-- The user asked for an identity read. -/
  | asked : (s'.client.ops i).request = .readIdentity → e = .readIdentity →
      MintedBy s s' b e i
  /-- The free read: the bound card announces no unlock and was not read since it was bound, no
  other identity read is in flight, and the view is open or the read was called for. -/
  | freeRead (c : CardRef) : (s'.client.ops i).request = .readIdentity →
      (s'.client.ops i).card = c → s'.card = some c → AnnouncesNoUnlock s' c →
      (∀ t, ¬ s'.Answered b .readIdentity t) → OnlyOneInFlight s' .readIdentity i →
      (s'.state = .identityOnly ∨ s'.state = .hybrid) →
      (s'.viewActive = true ∨ e = .ensureFreeRead) → MintedBy s s' b e i
  /-- The photo read that follows an `Ok` identity read of the same card, the bound one. -/
  | photo (j : ℕ) (t : Terminal) (c : CardRef) : (s'.client.ops i).request = .getPhoto →
      (s'.client.ops i).card = c → s'.card = some c → e = .finished j t → t.status = .ok →
      (s.client.ops j).request = .readIdentity → (s.client.ops j).card = c →
      OnlyOneInFlight s' .getPhoto i → MintedBy s s' b e i

/-- Every operation a step mints has its reason. -/
def MintsForReason (h : PlasmoidHost) (x : SmartCardHandler × ℕ) (e : Event) : Prop :=
  ∀ i, x.1.client.minted ≤ i → i < (step h x.1 e).client.minted →
    MintedBy x.1 (step h x.1 e) (noteBound h x.2 x.1 e) e i

/-- A step warms no card, or the bound one, which announces no unlock. -/
def WarmsForFree (h : PlasmoidHost) (s : SmartCardHandler) (e : Event) : Prop :=
  (step h s e).warmed = s.warmed ∨
    ∃ c, (step h s e).warmed = s.warmed ++ [c] ∧ s.card = some c ∧ AnnouncesNoUnlock s c

/-! ## One step -/

section Step

variable {s s' : SmartCardHandler} {b i : ℕ} {e : Event}

lemma announcesNoUnlock {c : CardRef} (hc : s.card = some c)
    (hlive : s.client.registry.live c = true) (hunlock : s.unlockRequired = false) :
    AnnouncesNoUnlock s c := by
  obtain ⟨record, hrecord⟩ := Option.isSome_iff_exists.1 hlive
  refine ⟨record, hrecord, ?_⟩
  simpa [unlockRequired, boundCard, hc, hrecord] using hunlock

/-- The identity read in flight is the only one. -/
lemma onlyIdentity (hw : Wired s.toCardReads) (hop : s.identityOp = some i) :
    OnlyOneInFlight s .readIdentity i := by
  intro j hj hreq
  rcases hw.pending j hj with hidentity | hphoto
  · exact Option.some.inj (hidentity.symm.trans hop)
  · rw [(hw.photo j hphoto).2] at hreq
    cases hreq

lemma onlyPhoto (hw : Wired s.toCardReads) (hop : s.photoOp = some i) :
    OnlyOneInFlight s .getPhoto i := by
  intro j hj hreq
  rcases hw.pending j hj with hidentity | hphoto
  · rw [(hw.identity j hidentity).2] at hreq
    cases hreq
  · exact Option.some.inj (hphoto.symm.trans hop)

/-- What a method mints that may go on to a free read: the free read. -/
lemma mintedBy_of_freely {base : CardReads} (hf : FreelyFrom base s')
    (ho : Owned h b s'.toCardReads) (hminted : base.client.minted = s.client.minted)
    (hwhy : s'.viewActive = true ∨ e = .ensureFreeRead) (hi : s.client.minted ≤ i)
    (hlt : i < s'.client.minted) : MintedBy s s' b e i := by
  cases hf with
  | quiet heq =>
      have hlt' : i < s'.toCardReads.client.minted := hlt
      rw [heq] at hlt'
      omega
  | reads c hfree hread heq =>
      have hclient : s'.client = base.client.mint c .readIdentity := congrArg CardReads.client heq
      have hop : s'.identityOp = some base.client.minted := congrArg CardReads.identityOp heq
      have hself : i = base.client.minted := by
        rw [hclient] at hlt
        have hle : i < base.client.minted + 1 := hlt
        omega
      subst hself
      refine .freeRead c ?_ ?_ hread.card ?_ (ho.unread hread.unread) ?_ hread.state hwhy
      · simp [hclient]
      · simp [hclient]
      · exact announcesNoUnlock hread.card (ho.live c hread.card) hread.unlock
      · exact onlyIdentity ho.toWired hop

/-- What a refresh mints is the free read of an open view. -/
lemma mintedBy_refresh {s₁ : SmartCardHandler} (ho : Owned h b (s₁.refresh h).toCardReads)
    (hminted : s₁.client.minted = s.client.minted) (hi : s.client.minted ≤ i)
    (hlt : i < (s₁.refresh h).client.minted) : MintedBy s (s₁.refresh h) b e i := by
  cases hview : s₁.viewActive with
  | true =>
      refine mintedBy_of_freely s₁.refresh_freely ho ?_ (.inl ?_) hi hlt
      · rw [bindCard_minted, hminted]
      · rw [refresh_viewActive, hview]
  | false =>
      have hlt' : i < (s₁.refresh h).toCardReads.client.minted := hlt
      rw [refresh_quiet hview, bindCard_minted] at hlt'
      omega

/-- What classifying mints is the free read of an open view. -/
lemma mintedBy_classify {s₁ : SmartCardHandler}
    (ho : Owned h b (s₁.classifyActiveCard h).toCardReads)
    (hminted : s₁.client.minted = s.client.minted) (hi : s.client.minted ≤ i)
    (hlt : i < (s₁.classifyActiveCard h).client.minted) :
    MintedBy s (s₁.classifyActiveCard h) b e i := by
  cases hview : s₁.viewActive with
  | true =>
      refine mintedBy_of_freely s₁.classifyActiveCard_freely ho hminted (.inl ?_) hi hlt
      rw [classifyActiveCard_viewActive, hview]
  | false =>
      have hlt' : i < (s₁.classifyActiveCard h).toCardReads.client.minted := hlt
      rw [classifyActiveCard_quiet hview] at hlt'
      omega

/-- Nothing is minted where the reads stay. -/
lemma mintedBy_of_eq (heq : s'.toCardReads = s.toCardReads) (hi : s.client.minted ≤ i)
    (hlt : i < s'.client.minted) : MintedBy s s' b e i := by
  have hlt' : i < s'.toCardReads.client.minted := hlt
  rw [heq] at hlt'
  omega

lemma onPhotoFinished_minted (r : CardReads) (t : Terminal) :
    (r.onPhotoFinished h t).client.minted = r.client.minted := by
  unfold CardReads.onPhotoFinished
  split
  · rfl
  · simp only
    split_ifs
    · rfl
    · split <;> rfl

/-- Once the identity is read no further read is free. -/
lemma FreelyFrom.quiet_of_read {base : CardReads} (hf : FreelyFrom base s')
    (hread : base.identityRead = true) : s'.toCardReads = base := by
  cases hf with
  | quiet heq => exact heq
  | reads c hfree hfreely heq =>
      have hunread := hfreely.unread
      rw [heq] at hunread
      have hbase : base.identityRead = false := hunread
      rw [hread] at hbase
      cases hbase

/-- What a terminal mints: the photo read after an identity, or, after a prompt that was
dismissed, the free read again. -/
lemma mintedBy_finished (ho : Owned h b s.toCardReads) {b' j : ℕ} {t : Terminal}
    (hal : Event.guard s (.finished j t)) (howned : Owned h b' (s.finished h j t).toCardReads)
    (hi : s.client.minted ≤ i) (hlt : i < (s.finished h j t).client.minted) :
    MintedBy s (s.finished h j t) b' (.finished j t) i := by
  rcases s.finished_cases (h := h) ho.toWired hal with ⟨hop, hend⟩ | ⟨-, heq⟩
  · cases hend with
    | dismissed hfail heq =>
        rw [heq] at howned hlt ⊢
        exact mintedBy_classify howned rfl hi hlt
    | failed hfail heq =>
        have hlt' : i < (s.finished h j t).toCardReads.client.minted := hlt
        rw [heq] at hlt'
        have hle : i < s.client.minted := hlt'
        omega
    | answered s₁ hok hs₁ heq =>
        -- The card is classified before the photo is asked for, and nothing is read for that.
        have hquiet : s₁.toCardReads = (s.identityAnswered h j t).toCardReads := by
          rw [hs₁]
          exact FreelyFrom.quiet_of_read (classifyActiveCard_freely _) rfl
        have hcard : s₁.card = s.card := (congrArg CardReads.card hquiet).trans rfl
        have hminted : s₁.client.minted = s.client.minted :=
          (congrArg (fun r : CardReads => r.client.minted) hquiet).trans rfl
        have hreads : (s.finished h j t).toCardReads = s₁.startPhotoRead := by rw [heq]
        have hlt' : i < (s.finished h j t).toCardReads.client.minted := hlt
        rcases s₁.startPhotoRead_cases with hsame | ⟨c, hc, hfree, hmint⟩
        · rw [hreads, hsame] at hlt'
          omega
        · rw [hmint] at hreads
          have hself : i = s₁.client.minted := by
            rw [hreads] at hlt'
            have hle : i < s₁.client.minted + 1 := hlt'
            omega
          have hclient : (s.finished h j t).client = s₁.client.mint c .getPhoto :=
            congrArg CardReads.client hreads
          have hphoto : (s.finished h j t).photoOp = some i := by
            rw [hself]
            exact congrArg CardReads.photoOp hreads
          have hown : s.card = some (s.client.ops j).card := (ho.identityOwn j hop).2
          have hsame : (s.client.ops j).card = c := by
            rw [hcard, hown] at hc
            exact Option.some.inj hc
          refine .photo j t c ?_ ?_ ?_ rfl hok (ho.identity j hop).2 hsame
            (onlyPhoto howned.toWired hphoto)
          · rw [hclient, hself]
            simp
          · rw [hclient, hself]
            simp
          · exact (congrArg CardReads.card hreads).trans hc
  · have hlt' : i < (s.finished h j t).toCardReads.client.minted := hlt
    rw [heq, onPhotoFinished_minted] at hlt'
    have hle : i < s.client.minted := hlt'
    omega

/-- What a step mints has its reason, for the number `b'` the card is bound under after it. -/
lemma mintedBy_step (ho : Owned h b s.toCardReads) (hal : allows s e) {b' : ℕ}
    (howned : Owned h b' (step h s e).toCardReads) (hi : s.client.minted ≤ i)
    (hlt : i < (step h s e).client.minted) : MintedBy s (step h s e) b' e i := by
  -- By what the event does to the reads; few of these mint, and each says for what.
  cases touches h s e with
  | stays heq => exact mintedBy_of_eq heq hi hlt
  | refreshes s₁ _ hsame heq =>
      rw [heq] at howned hlt ⊢
      exact mintedBy_refresh howned (by rw [hsame]) hi hlt
  | moves r heq =>
      rw [heq] at hlt
      exact absurd hlt (Nat.not_lt.2 hi)
  | swaps r _ heq =>
      rw [heq] at howned hlt ⊢
      exact mintedBy_refresh howned rfl hi hlt
  | classifies heq =>
      rw [heq] at howned hlt ⊢
      exact mintedBy_classify howned rfl hi hlt
  | frees s₁ hsame hwhy heq =>
      rw [heq] at howned hlt ⊢
      refine mintedBy_of_freely s₁.ensureFreeRead_freely howned (by rw [hsame]) ?_ hi hlt
      rwa [ensureFreeRead_viewActive]
  | reads c he hc hfree heq =>
      refine .asked ?_ he
      have hclient : (step h s e).client = s.client.mint c .readIdentity :=
        congrArg CardReads.client heq
      rw [hclient] at hlt ⊢
      have hself : i = s.client.minted := by
        have hle : i < s.client.minted + 1 := hlt
        omega
      simp [hself]
  | warms c _ _ heq =>
      have hclient : (step h s e).client = s.client := (congrArg CardReads.client heq).trans rfl
      rw [hclient] at hlt
      omega
  | ends j t he heq =>
      rw [heq] at howned hlt ⊢
      subst he
      exact mintedBy_finished ho hal.2 howned hi hlt
  | sibling slot image _ heq =>
      have hclient : (step h s e).client = s.client := (congrArg CardReads.client heq).trans rfl
      rw [hclient] at hlt
      omega
  | goes _ heq =>
      rw [heq] at hlt
      exact absurd hlt (Nat.not_lt.2 hi)

/-! ## Warming -/

lemma FreelyFrom.warmed {base : CardReads} (hf : FreelyFrom base s') :
    s'.warmed = base.warmed := by
  cases hf with
  | quiet heq => exact congrArg CardReads.warmed heq
  | reads c hfree hread heq => exact (congrArg CardReads.warmed heq).trans rfl

lemma ensureFreeRead_warmed (s₁ : SmartCardHandler) : s₁.ensureFreeRead.warmed = s₁.warmed :=
  FreelyFrom.warmed s₁.ensureFreeRead_freely

lemma refresh_warmed (s₁ : SmartCardHandler) : (s₁.refresh h).warmed = s₁.warmed := by
  rw [FreelyFrom.warmed s₁.refresh_freely, bindCard_warmed]

lemma onPhotoFinished_warmed (r : CardReads) (t : Terminal) :
    (r.onPhotoFinished h t).warmed = r.warmed := by
  unfold CardReads.onPhotoFinished
  split
  · rfl
  · simp only
    split_ifs
    · rfl
    · split <;> rfl

lemma finished_warmed (hw : Wired s.toCardReads) {j : ℕ} {t : Terminal}
    (hal : Event.guard s (.finished j t)) : (s.finished h j t).warmed = s.warmed := by
  rcases s.finished_cases (h := h) hw hal with ⟨-, hend⟩ | ⟨-, heq⟩
  · cases hend with
    | dismissed hfail heq =>
        rw [heq, FreelyFrom.warmed (classifyActiveCard_freely _)]
        rfl
    | failed hfail heq => exact (congrArg CardReads.warmed heq).trans rfl
    | answered s₁ hok hs₁ heq =>
        have hstart : s₁.startPhotoRead.warmed = s₁.warmed := by
          rcases s₁.startPhotoRead_cases with hsame | ⟨c, -, -, hsame⟩
          · rw [hsame]
          · rw [hsame]
            rfl
        have hwarmed : (s.finished h j t).warmed = s₁.startPhotoRead.warmed := by rw [heq]
        rw [hwarmed, hstart, hs₁, FreelyFrom.warmed (classifyActiveCard_freely _)]
        rfl
  · rw [heq]
    exact onPhotoFinished_warmed _ t

lemma warmsForFree_step (ho : Owned h b s.toCardReads) (hal : allows s e) :
    WarmsForFree h s e := by
  unfold WarmsForFree
  cases touches h s e with
  | stays heq => exact .inl (congrArg CardReads.warmed heq)
  | refreshes s₁ _ hsame heq =>
      rw [heq, refresh_warmed, hsame]
      exact .inl rfl
  | moves r heq =>
      rw [heq]
      exact .inl rfl
  | swaps r _ heq =>
      rw [heq, refresh_warmed]
      exact .inl rfl
  | classifies heq =>
      rw [heq]
      exact .inl (FreelyFrom.warmed s.classifyActiveCard_freely)
  | frees s₁ hsame _ heq =>
      rw [heq, ensureFreeRead_warmed, hsame]
      exact .inl rfl
  | reads c _ _ _ heq => exact .inl ((congrArg CardReads.warmed heq).trans rfl)
  -- Opening the files is the one call that warms, and it asks about the secret first.
  | warms c hc hunlock heq =>
      refine .inr ⟨c, (congrArg CardReads.warmed heq).trans rfl, hc, ?_⟩
      exact announcesNoUnlock hc (ho.live c hc) hunlock
  | ends j t he heq =>
      subst he
      rw [heq]
      exact .inl (finished_warmed ho.toWired hal.2)
  | sibling slot image _ heq => exact .inl ((congrArg CardReads.warmed heq).trans rfl)
  | goes _ heq =>
      rw [heq]
      exact .inl rfl

end Step

/-! ## Runs -/

lemma mintsForReason_of_kept {s : SmartCardHandler} {b : ℕ} {e : Event} (hk : Kept h b s)
    (hal : allows s e) : MintsForReason h (s, b) e := by
  intro i hi hlt
  rcases hk with ho | ⟨hgone, -⟩
  · by_cases hdestroy : e = .destroy
    · subst hdestroy
      exact absurd hlt (Nat.not_lt.2 hi)
    · exact mintedBy_step ho hal (movesTo_step ho hal hdestroy).owned hi hlt
  · obtain ⟨slot, image, rfl⟩ := eq_sibling_of_destroyed hgone hal
    exact absurd hlt (Nat.not_lt.2 hi)

lemma warmsForFree_of_kept {s : SmartCardHandler} {b : ℕ} {e : Event} (hk : Kept h b s)
    (hal : allows s e) : WarmsForFree h s e := by
  rcases hk with ho | ⟨hgone, -⟩
  · exact warmsForFree_step ho hal
  · obtain ⟨slot, image, rfl⟩ := eq_sibling_of_destroyed hgone hal
    exact .inl rfl

/-- Neither the user nor the caller asks for a read, and the view stays closed. -/
def AsksNothing (h : PlasmoidHost) (s : SmartCardHandler) (e : Event) : Prop :=
  e ≠ .readIdentity ∧ e ≠ .ensureFreeRead ∧ (step h s e).viewActive = false

/-- Where nothing is asked nothing is minted. -/
lemma minted_eq_zero_of_asksNothing {s : SmartCardHandler} {b : ℕ} {e : Event}
    (hzero : s.client.minted = 0) (hal : allows s e) (hasks : AsksNothing h s e)
    (hmints : MintsForReason h (s, b) e) : (step h s e).client.minted = 0 := by
  by_contra hpos
  obtain ⟨hread, hfree, hclosed⟩ := hasks
  have hle : s.client.minted ≤ 0 := by omega
  have hlt : 0 < (step h s e).client.minted := by omega
  cases hmints 0 hle hlt with
  | asked hreq heq => exact hread heq
  | freeRead c hreq hcard hbound hunlock hunread honly hstate hwhy =>
      rcases hwhy with hopen | heq
      · have hopen' : (step h s e).viewActive = true := hopen
        rw [hclosed] at hopen'
        cases hopen'
      · exact hfree heq
  | photo j t c hreq hcard hbound heq hok hj hsame honly =>
      subst heq
      have hj : j < s.client.minted := hal.2.1
      omega

/-- The machine in which nothing is asked. -/
def quietMachine (h : PlasmoidHost) : Machine (SmartCardHandler × ℕ) Event :=
  (boundMachine h).restrict fun x e => AsksNothing h x.1 e

lemma quiet_kept (h : PlasmoidHost) :
    (quietMachine h).Kept fun x => Kept h x.2 x.1 ∧ x.1.client.minted = 0 := by
  rintro x e ⟨hk, hzero⟩ ⟨hal, hask⟩
  exact ⟨kept_step hk hal,
    minted_eq_zero_of_asksNothing hzero hal hask (mintsForReason_of_kept hk hal)⟩

/-- **No card is read unasked.**  In every run each operation the widget mints was asked for, or
is a free read under its conditions, or the photo read after an identity; certificates are
warmed for free only; and a run in which nobody asks and the view stays closed mints nothing. -/
theorem reads_have_reason (h : PlasmoidHost) {s : SmartCardHandler} {es : List Event}
    (hs : Start h s) (ha : (machine h).Admits s es) :
    (boundMachine h).EachStep (MintsForReason h) (s, 0) es ∧
      (machine h).EachStep (WarmsForFree h) s es ∧
      ((machine h).EachStep (AsksNothing h) s es →
        (machine h).Always (fun s => s.client.minted = 0) s es) := by
  have hkept : (boundMachine h).Kept fun x => Kept h x.2 x.1 := fun _ _ hk hal => kept_step hk hal
  have hstart : Kept h 0 s := .inl hs.owned.1
  have hadmits : (boundMachine h).Admits (s, 0) es := Machine.admits_watch.2 ha
  refine ⟨?_, ?_, fun hasks => ?_⟩
  · exact hkept.eachStep hstart hadmits fun _ _ hk hal => mintsForReason_of_kept hk hal
  · have hsteps : (boundMachine h).EachStep (fun x e => WarmsForFree h x.1 e) (s, 0) es :=
      hkept.eachStep hstart hadmits fun _ _ hk hal => warmsForFree_of_kept hk hal
    exact Machine.eachStep_watch.1 hsteps
  · have hasks' : (boundMachine h).EachStep (fun x e => AsksNothing h x.1 e) (s, 0) es :=
      Machine.eachStep_watch.2 hasks
    have hall := (quiet_kept h).always ⟨hstart, hs.owned.2⟩
      (Machine.admits_restrict.2 ⟨hadmits, hasks'⟩)
    have hzero := (Machine.always_restrict.1 hall).mono fun x hx => hx.2
    exact Machine.always_watch.1 hzero

/-- A closed widget, a prompt dismissed in an open one, and the read that succeeds. -/
def dismissedAndRead : List Event :=
  [.openInFiles, .setViewActive true, .finished 0 { status := .cancelled },
    .finished 1 { identityResult :=
      [⟨qs "personal", [{ key := qs "surname", value := qs "Ana" }]⟩] }]

theorem reads_have_reason_dismissedAndRead :
    ((machine .plain).exec widget dismissedAndRead).client.minted = 3 ∧
      ((boundMachine .plain).EachStep (MintsForReason .plain) (widget, 0)
          dismissedAndRead ∧
        (machine .plain).EachStep (WarmsForFree .plain) widget dismissedAndRead ∧
        ((machine .plain).EachStep (AsksNothing .plain) widget dismissedAndRead →
          (machine .plain).Always (fun s => s.client.minted = 0) widget
            dismissedAndRead)) :=
  ⟨by decide, reads_have_reason .plain start_widget (by decide)⟩

end LibreKDE.Plasmoid
