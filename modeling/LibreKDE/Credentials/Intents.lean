import LibreKDE.Credentials.Wiring

/-!
# Whose cancel, whose result

The controller keeps one request to cancel for the list and one for the verb in flight, and one
kind of credential that the verb's result is attributed to.  `noteIntent` is an observer that
keeps the same for every operation ever minted, under its own number, and so cannot confuse two
of them.  `Attributed` says that the controller's fields agree with the observer's about the
operations in flight, and `intents_attributed` what follows for every terminal.

A verb's result is compared with `verdictOf`, the result of a controller that has begun this one
verb and nothing else.
-/

namespace LibreKDE.Credentials

open Reactive

/-! ## The observer -/

/-- What the calls made on the controller say of each operation. -/
structure Intents where
  /-- `cancel` was called while the operation was in flight. -/
  cancelled : ℕ → Bool := fun _ => false
  /-- The kind that the event it was minted by presents. -/
  kind : ℕ → CredentialKind := fun _ => .unknown

/-- The user asks for the operation in flight to be cancelled. -/
def Event.isCancel : Event → Bool
  | .cancel => true
  | _ => false

/-- The operation is the list or the mutation in flight. -/
def Controller.inFlight (s : Controller) (i : ℕ) : Bool :=
  s.listOp = some i ∨ s.mutationOp = some i

/-- What is written down of an event: a cancel, for the operation in flight when it comes and for no
other, and the kind that the next operation would present. -/
def noteIntent (o : Intents) (s : Controller) (e : Event) : Intents where
  cancelled i := o.cancelled i || (e.isCancel && s.inFlight i)
  kind i := if i = s.client.minted then presented s e else o.kind i

/-- The controller, with the intents behind its operations. -/
def intentMachine (h : Host) : Machine (Controller × Intents) Event :=
  (machine h).watch {} noteIntent

instance (h : Host) (x : Controller × Intents) (e : Event) :
    Decidable ((intentMachine h).allows x e) :=
  inferInstanceAs (Decidable (allows x.1 e))

/-! ## What is promised -/

/-- The result banner. -/
structure Verdict where
  isError : Bool
  message : QString
  deriving DecidableEq, Repr

/-- What the result surface says. -/
def Controller.verdict (s : Controller) : Verdict := ⟨s.resultIsError, s.resultMessage⟩

/-- The result of a terminal for a controller that has done nothing but begin its verb: it can
depend on whether this verb was cancelled, on the kind it presented, and on nothing else. -/
def verdictOf (h : Host) (cancelled : Bool) (kind : CredentialKind) (t : Terminal) : Verdict :=
  ({ Controller.new with
      mutationCancelRequested := cancelled
      pendingPresentedKind := kind }.onMutationDone h t).verdict

/-- What a step makes of the terminal of an operation the controller listens to. -/
structure Attribution (h : Host) (x : Controller × Intents) (e : Event) : Prop where
  /-- A verb's result is that of this verb, cancelled or not, for the kind it presented. -/
  verb : ∀ i t, e = .finished i t → x.1.client.Pending i →
    (x.1.client.ops i).request.isMutation = true →
    (step h x.1 e).verdict = verdictOf h (x.2.cancelled i) (x.2.kind i) t
  /-- A verb that was cancelled never ends in an error. -/
  neutral : ∀ i t, e = .finished i t → x.1.client.Pending i →
    (x.1.client.ops i).request.isMutation = true → x.2.cancelled i = true →
    (step h x.1 e).resultIsError = false
  /-- A list is taken for cancelled if it was, or says so itself. -/
  list : ∀ i t, e = .finished i t → x.1.client.Pending i →
    (x.1.client.ops i).request = .listCredentials → t.status ≠ .ok →
    ((step h x.1 e).listSettled = true ↔ x.2.cancelled i = true ∨ t.status = .cancelled)

/-! ## The slots of the operations in flight -/

namespace Controller

variable {h : Host} {s u v : Controller} {c : CardRef} {q : Request} {kind : CredentialKind}

/-- With a card bound, no request to cancel outlives its list. -/
def NoStrayCancel (s : Controller) : Prop :=
  s.card ≠ none → s.listOp = none → s.listCancelRequested = false

/-- What is in flight in `u` was in flight in `s`, with the same request and kind, or is a new
list with neither. -/
structure SlotsFrom (s u : Controller) : Prop where
  minted : s.client.minted ≤ u.client.minted
  verb : ∀ i, u.mutationOp = some i → s.mutationOp = some i ∧
    u.mutationCancelRequested = s.mutationCancelRequested ∧
    u.pendingPresentedKind = s.pendingPresentedKind
  list : ∀ i, u.listOp = some i →
    s.listOp = some i ∧ u.listCancelRequested = s.listCancelRequested ∨
      s.client.minted ≤ i ∧ u.listCancelRequested = false
  stray : NoStrayCancel u

namespace SlotsFrom

lemma trans (hsv : SlotsFrom s v) (hvu : SlotsFrom v u) : SlotsFrom s u where
  minted := hsv.minted.trans hvu.minted
  verb i hi := by
    obtain ⟨hv, hreq, hkind⟩ := hvu.verb i hi
    obtain ⟨hs, hreq', hkind'⟩ := hsv.verb i hv
    exact ⟨hs, hreq.trans hreq', hkind.trans hkind'⟩
  list i hi := by
    rcases hvu.list i hi with ⟨hv, hreq⟩ | ⟨hnew, hreq⟩
    · rcases hsv.list i hv with ⟨hs, hreq'⟩ | ⟨hnew, hreq'⟩
      · exact .inl ⟨hs, hreq.trans hreq'⟩
      · exact .inr ⟨hnew, hreq.trans hreq'⟩
    · exact .inr ⟨hsv.minted.trans hnew, hreq⟩
  stray := hvu.stray

/-- Nothing of the slots changes. -/
lemma of_same (hs : NoStrayCancel s) (hk : u.client.minted = s.client.minted)
    (hc : u.card = s.card) (hl : u.listOp = s.listOp) (hm : u.mutationOp = s.mutationOp)
    (hi : SameIntents s u) : SlotsFrom s u where
  minted := hk.ge
  verb i hu := ⟨hm ▸ hu, hi.mutationCancelRequested, hi.pendingPresentedKind⟩
  list i hu := .inl ⟨hl ▸ hu, hi.listCancelRequested⟩
  stray := by
    unfold NoStrayCancel
    rw [hc, hl, hi.listCancelRequested]
    exact hs

lemma finish (hs : NoStrayCancel s) (i : ℕ) (t : Terminal) :
    SlotsFrom s { s with client := s.client.finish i t } :=
  .of_same hs rfl rfl rfl rfl ⟨rfl, rfl, rfl, rfl⟩

/-- No list is in flight, and none is asked to be cancelled; the verb is left alone. -/
lemma of_no_list (hk : u.client.minted = s.client.minted) (hl : u.listOp = none)
    (hr : u.listCancelRequested = false) (hm : u.mutationOp = none ∨ u.mutationOp = s.mutationOp ∧
      u.mutationCancelRequested = s.mutationCancelRequested ∧
      u.pendingPresentedKind = s.pendingPresentedKind) : SlotsFrom s u where
  minted := hk.ge
  verb i hi := by
    rcases hm with hnone | ⟨heq, hreq, hkind⟩
    · simp [hnone] at hi
    · exact ⟨heq ▸ hi, hreq, hkind⟩
  list i hi := by simp [hl] at hi
  stray _ _ := hr

lemma clearRows (st : State) : SlotsFrom s (s.clearRows st) :=
  .of_no_list (by simp [Controller.clearRows]) rfl rfl (.inr ⟨rfl, rfl, rfl⟩)

lemma rebind (c : Option CardRef) : SlotsFrom s (s.rebind c) :=
  .of_no_list (by simp) rfl rfl (.inl rfl)

lemma bindCard (hs : NoStrayCancel s) (c : Option CardRef) : SlotsFrom s (s.bindCard c) := by
  rcases s.bindCard_cases c with ⟨-, -, heq⟩ | ⟨-, heq⟩
  · rw [heq]
    exact .of_same hs rfl rfl rfl rfl (.refl s)
  · rw [heq]
    exact .rebind c

/-- A list minted on the bound card starts without a request. -/
lemma mintList (hs : NoStrayCancel s) (hc : s.card = some c) (hl : s.listOp = none) :
    SlotsFrom s (s.mintList c) where
  minted := Nat.le_succ _
  verb i hi := ⟨hi, rfl, rfl⟩
  list i hi := by
    obtain rfl : s.client.minted = i := Option.some.inj hi
    exact .inr ⟨le_rfl, hs (by simp [hc]) hl⟩
  stray _ hnone := by cases hnone

lemma classify (hs : NoStrayCancel s) : SlotsFrom s s.classify := by
  rcases s.classify_cases with ⟨-, heq⟩ | ⟨-, -, heq⟩ | ⟨-, -, heq⟩ | ⟨c, hc, -, -, hl, -, heq⟩
  · rw [heq]
    exact .clearRows _
  · rw [heq]
    exact .clearRows _
  · rw [heq]
    exact .of_same hs rfl rfl rfl rfl (.refl s)
  · rw [heq]
    exact .mintList hs hc hl

lemma unbind (st : State) : SlotsFrom s (s.unbind st) := by
  rw [Controller.unbind, bindCard_none]
  exact .of_no_list (by simp) rfl rfl (.inl rfl)

lemma refresh (hs : NoStrayCancel s) : SlotsFrom s (s.refresh h) := by
  rcases s.refresh_cases (h := h) with ⟨-, heq⟩ | ⟨-, -, heq⟩ | ⟨-, -, -, heq⟩ | ⟨x, -, -, -, heq⟩
  · rw [heq]
    exact .unbind _
  · rw [heq]
    exact .of_same hs rfl rfl rfl rfl (.refl s)
  · rw [heq]
    exact .unbind _
  · rw [heq]
    have hshow : SlotsFrom s (s.showReader h x) :=
      .of_same hs rfl rfl rfl rfl ⟨rfl, rfl, rfl, rfl⟩
    have hbind := hshow.trans (.bindCard hshow.stray x.card)
    exact hbind.trans (.classify hbind.stray)

lemma of_refreshes (hs : NoStrayCancel s) {e : Event} (hu : s.refreshes e = some u) :
    SlotsFrom s u := by
  rcases refreshes_cases hu with ⟨hk, -, hc, -, hl, hm, -, hi⟩ | ⟨id, -, -, -, rfl⟩
  · exact .of_same hs (by rw [hk]) hc hl hm hi
  · exact .of_no_list (by simp) rfl rfl (.inl rfl)

lemma relistAfterMutation (hm : s.mutationOp = none) : SlotsFrom s s.relistAfterMutation := by
  have hreset : SlotsFrom s { s.resetListState with showingResult := true } :=
    .of_no_list (by simp) rfl rfl (.inr ⟨rfl, rfl, rfl⟩)
  cases hc : s.card with
  | none =>
      have heq : s.relistAfterMutation =
          { s.resetListState with showingResult := true }.clearRows .noCard := by
        simp [Controller.relistAfterMutation, startListCredentials, resetListState, hc]
      rw [heq]
      exact hreset.trans (.clearRows _)
  | some c =>
      rw [relistAfterMutation_of_card hc hm]
      exact hreset.trans (.mintList hreset.stray hc rfl)

/-- The terminal of the verb in flight. -/
lemma onMutationDone (hs : NoStrayCancel s) (t : Terminal) :
    SlotsFrom s (s.onMutationDone h t) := by
  have hshow : ∀ isError message,
      SlotsFrom s (s.releaseMutation.showResult isError message) := fun _ _ =>
    { minted := le_rfl
      verb := by simp [releaseMutation, showResult]
      list := fun _ hi => .inl ⟨hi, rfl⟩
      stray := hs }
  rcases s.onMutationDone_cases (h := h) t with
    ⟨-, isError, message, heq⟩ | ⟨-, isError, message, notice, heq⟩
  · rw [heq]
    exact (hshow isError message).trans (.relistAfterMutation rfl)
  · rw [heq]
    exact { hshow isError message with }

lemma onListFinished (t : Terminal) : SlotsFrom s (s.onListFinished t) := by
  unfold Controller.onListFinished
  split <;> exact .of_no_list rfl rfl rfl (.inr ⟨rfl, rfl, rfl⟩)

lemma setRegistry (hw : Wired s) (hs : NoStrayCancel s) (r : Registry) :
    SlotsFrom s (s.setRegistry r) := by
  rcases hw.setRegistry_cases r with ⟨-, hc, hl, hm⟩ | ⟨-, -, -, hc, hl, hm⟩
  · exact .of_same hs rfl hc hl hm ⟨rfl, rfl, rfl, rfl⟩
  · exact {
      minted := le_rfl
      verb := by simp [hm]
      list := by simp [hl]
      stray := fun hne => absurd hc hne }

end SlotsFrom

end Controller

/-! ## The invariant -/

/-- The controller's requests to cancel and its stashed kind are those of the operations they
are kept for. -/
structure Attributed (s : Controller) (o : Intents) : Prop where
  wired : Wired s
  /-- An operation that is still to come has not been cancelled. -/
  fresh : ∀ i, s.client.minted ≤ i → o.cancelled i = false
  verb : ∀ i, s.mutationOp = some i →
    s.mutationCancelRequested = o.cancelled i ∧ s.pendingPresentedKind = o.kind i
  list : ∀ i, s.listOp = some i → s.listCancelRequested = o.cancelled i
  stray : Controller.NoStrayCancel s

namespace Attributed

variable {h : Host} {s u : Controller} {o : Intents} {e : Event} {c : CardRef} {q : Request}
  {kind : CredentialKind}

lemma start (hs : Start s) : Attributed s {} where
  wired := hs.wired
  fresh _ _ := rfl
  verb i hi := by simp [hs.mutationOp] at hi
  list i hi := by simp [hs.listOp] at hi
  stray hc := absurd hs.card hc

lemma noteIntent_cancelled (he : e.isCancel = false) (i : ℕ) :
    (noteIntent o s e).cancelled i = o.cancelled i := by
  simp [noteIntent, he]

lemma noteIntent_kind {i : ℕ} (hi : i < s.client.minted) : (noteIntent o s e).kind i = o.kind i :=
  if_neg hi.ne

/-- A step that begins no verb and is no cancel keeps it. -/
lemma of_slots (ho : Attributed s o) (hu : Wired u) (he : e.isCancel = false)
    (hslots : Controller.SlotsFrom s u) : Attributed u (noteIntent o s e) where
  wired := hu
  fresh i hi := by
    rw [noteIntent_cancelled he]
    exact ho.fresh i (hslots.minted.trans hi)
  verb i hi := by
    obtain ⟨hs, hreq, hkind⟩ := hslots.verb i hi
    have hlt : i < s.client.minted := (ho.wired.mutation i hs).1.minted
    rw [noteIntent_cancelled he, noteIntent_kind hlt, hreq, hkind]
    exact ho.verb i hs
  list i hi := by
    rw [noteIntent_cancelled he]
    rcases hslots.list i hi with ⟨hs, hreq⟩ | ⟨hnew, hreq⟩
    · rw [hreq, ho.list i hs]
    · rw [hreq, ho.fresh i hnew]
  stray := hslots.stray

lemma beginMutation_requests (hs : Controller.NoStrayCancel s) (hc : s.card = some c) :
    (s.beginMutation c q kind).mutationCancelRequested = false ∧
      (s.beginMutation c q kind).listCancelRequested = false := by
  refine ⟨rfl, ?_⟩
  by_cases hl : s.listOp = none
  · have hreq : s.listCancelRequested = false := hs (by simp [hc]) hl
    simpa [Controller.beginMutation, hl] using hreq
  · simp [Controller.beginMutation, Controller.resetListState, hl]

/-- A verb begins with no request to cancel it, and with the kind its own event presents. -/
lemma beginMutation (ho : Attributed s o) (hc : s.card = some c) (hm : s.mutationOp = none)
    (hq : q.isMutation = true) (he : e.isCancel = false) :
    Attributed (s.beginMutation c q (presented s e)) (noteIntent o s e) := by
  obtain ⟨hmut, hlist⟩ : (s.beginMutation c q (presented s e)).mutationCancelRequested = false ∧
      (s.beginMutation c q (presented s e)).listCancelRequested = false :=
    beginMutation_requests ho.stray hc
  constructor
  · exact ho.wired.beginMutation hc hm hq
  · intro i hi
    rw [noteIntent_cancelled he]
    rw [Controller.beginMutation_minted] at hi
    exact ho.fresh i (by omega)
  · intro i hi
    obtain rfl : s.client.minted = i := by simpa using hi
    rw [noteIntent_cancelled he, ho.fresh _ le_rfl, Controller.beginMutation_kind]
    exact ⟨hmut, (if_pos rfl).symm⟩
  · intro i hi
    simp at hi
  · exact fun _ _ => hlist

lemma cancel_fields (s : Controller) :
    (s.cancel.mutationCancelRequested = (s.mutationCancelRequested || s.mutationOp.isSome)) ∧
    (s.cancel.listCancelRequested = (s.listCancelRequested || s.listOp.isSome)) ∧
    s.cancel.pendingPresentedKind = s.pendingPresentedKind := by
  cases hm : s.mutationOp <;> cases hl : s.listOp <;> simp [Controller.cancel, hm, hl]

/-- `cancel` requests it of the operations in flight, and of no other. -/
lemma cancel (ho : Attributed s o) : Attributed s.cancel (noteIntent o s .cancel) := by
  obtain ⟨hmut, hlist, hkind⟩ := cancel_fields s
  constructor
  · exact ho.wired.cancel
  · intro i hi
    rw [Controller.cancel_minted] at hi
    have hnl : s.listOp ≠ some i := fun hl => by
      have hlt := (ho.wired.list i hl).1.minted
      omega
    have hnm : s.mutationOp ≠ some i := fun hm => by
      have hlt := (ho.wired.mutation i hm).1.minted
      omega
    simp [noteIntent, Controller.inFlight, ho.fresh i hi, hnl, hnm]
  · intro i hi
    rw [Controller.cancel_mutationOp] at hi
    rw [noteIntent_kind (ho.wired.mutation i hi).1.minted, hkind, hmut]
    exact ⟨by simp [noteIntent, Event.isCancel, Controller.inFlight, hi], (ho.verb i hi).2⟩
  · intro i hi
    rw [Controller.cancel_listOp] at hi
    rw [hlist]
    simp [noteIntent, Event.isCancel, Controller.inFlight, hi]
  · intro hc hl
    rw [Controller.cancel_card] at hc
    rw [Controller.cancel_listOp] at hl
    rw [hlist, hl, ho.stray hc hl]
    rfl

/-- **Every step keeps the attribution.** -/
lemma step (ho : Attributed s o) (ha : allows s e) :
    Attributed (step h s e) (noteIntent o s e) := by
  have hmove := ho.wired.move (h := h) ha
  have hwired := ho.wired.of_move hmove
  -- Cancelling is the one call that notes an intent; every other one moves the slots only.
  by_cases he : e.isCancel = true
  · obtain rfl : e = .cancel := by cases e <;> first | rfl | simp [Event.isCancel] at he
    exact ho.cancel
  rw [Bool.not_eq_true] at he
  generalize hu : LibreKDE.Credentials.step h s e = u at hmove hwired
  cases hmove with
  | refreshed hr =>
      have hfrom := Controller.SlotsFrom.of_refreshes ho.stray hr
      exact ho.of_slots hwired he (hfrom.trans (.refresh hfrom.stray))
  | registry r => exact ho.of_slots hwired he (.setRegistry ho.wired ho.stray r)
  | classified hc => exact ho.of_slots hwired he (.classify ho.stray)
  | @listed i t hi =>
      have hfinish := Controller.SlotsFrom.finish ho.stray i t
      exact ho.of_slots hwired he (hfinish.trans (.onListFinished t))
  | @mutated i t hi =>
      have hfinish := Controller.SlotsFrom.finish ho.stray i t
      exact ho.of_slots hwired he (hfinish.trans (.onMutationDone hfinish.stray t))
  | unheard hcon hrun hl hm => exact ho.of_slots hwired he (.finish ho.stray _ _)
  | cancelled => cases he
  | verb hne hc hm hq hk =>
      rw [hk]
      exact ho.beginMutation hc hm hq he
  | quiet hne hq =>
      exact ho.of_slots hwired he
        (.of_same ho.stray (by rw [hq.client]) hq.card hq.listOp hq.mutationOp hq.intents)

end Attributed

lemma attributed_kept (h : Host) :
    (intentMachine h).Kept fun x => Attributed x.1 x.2 :=
  fun _ _ hx ha => hx.step ha

/-! ## What a terminal shows -/

namespace Controller

variable {h : Host} {s : Controller}

lemma relistAfterMutation_verdict : s.relistAfterMutation.verdict = s.verdict := by
  unfold relistAfterMutation startListCredentials
  split
  · rfl
  · split
    · rfl
    · split <;> rfl

lemma verdict_handleRefusal (s u : Controller) (named : SyncError) :
    (s.handleRefusal h named).verdict = (u.handleRefusal h named).verdict := by
  cases named <;> simp only [handleRefusal, relistAfterMutation_verdict] <;> rfl

/-- The result depends on the request to cancel and on the stashed kind, and on nothing else. -/
lemma onMutationDone_verdict (t : Terminal) :
    (s.onMutationDone h t).verdict =
      verdictOf h s.mutationCancelRequested s.pendingPresentedKind t := by
  unfold verdictOf onMutationDone
  split
  · exact verdict_handleRefusal _ _ _
  · dsimp only
    split
    · next heff => exact (if_pos heff).symm ▸ rfl
    · next heff =>
        rw [if_neg (show ¬ effectiveOutcome { Controller.new with
          mutationCancelRequested := s.mutationCancelRequested
          pendingPresentedKind := s.pendingPresentedKind } t = .cardRemoved from heff)]
        rw [relistAfterMutation_verdict, relistAfterMutation_verdict]
        rfl

end Controller

/-- What was cancelled is never shown as an error. -/
lemma verdictOf_cancelled (h : Host) (kind : CredentialKind) (t : Terminal) :
    (verdictOf h true kind t).isError = false := by
  unfold verdictOf Controller.onMutationDone
  split
  · next named hn =>
      cases named <;>
        simp only [Controller.handleRefusal, Controller.relistAfterMutation_verdict] <;> rfl
  · dsimp only
    split
    · rfl
    · rw [Controller.relistAfterMutation_verdict]
      rfl

/-! ## Attribution -/

section Terminals

variable {h : Host} {s : Controller} {o : Intents} {i : ℕ} {t : Terminal}

/-- The slot a pending verb's terminal reaches. -/
lemma step_finished_verb (hs : Wired s) (hp : s.client.Pending i)
    (hq : (s.client.ops i).request.isMutation = true) :
    s.mutationOp = some i ∧
      step h s (.finished i t) = { s with client := s.client.finish i t }.onMutationDone h t := by
  have ha : allows s (.finished i t) := ⟨hp.minted, hp.alive, hp.running⟩
  rcases hs.finished_cases (h := h) ha with ⟨hi, -⟩ | ⟨hi, heq⟩ | ⟨hcon, -, -, -⟩
  · rw [(hs.list i hi).2.1] at hq
    cases hq
  · exact ⟨hi, heq⟩
  · rw [hp.connected] at hcon
    cases hcon

/-- The slot a pending list's terminal reaches. -/
lemma step_finished_list (hs : Wired s) (hp : s.client.Pending i)
    (hq : (s.client.ops i).request = .listCredentials) :
    s.listOp = some i ∧
      step h s (.finished i t) = { s with client := s.client.finish i t }.onListFinished t := by
  have ha : allows s (.finished i t) := ⟨hp.minted, hp.alive, hp.running⟩
  rcases hs.finished_cases (h := h) ha with ⟨hi, heq⟩ | ⟨hi, -⟩ | ⟨hcon, -, -, -⟩
  · exact ⟨hi, heq⟩
  · have hmut := (hs.mutation i hi).2.1
    rw [hq] at hmut
    cases hmut
  · rw [hp.connected] at hcon
    cases hcon

lemma onListFinished_settled (s : Controller) (ht : t.status ≠ .ok) :
    (s.onListFinished t).listSettled = (s.listCancelRequested || t.status = .cancelled) := by
  unfold Controller.onListFinished
  rw [if_neg ht]

namespace Attributed

lemma verdict_of_verb (ho : Attributed s o) (hp : s.client.Pending i)
    (hq : (s.client.ops i).request.isMutation = true) :
    (LibreKDE.Credentials.step h s (.finished i t)).verdict =
      verdictOf h (o.cancelled i) (o.kind i) t := by
  obtain ⟨hi, heq⟩ := step_finished_verb (h := h) (t := t) ho.wired hp hq
  obtain ⟨hreq, hkind⟩ := ho.verb i hi
  rw [heq, Controller.onMutationDone_verdict, hreq, hkind]

lemma attribution (ho : Attributed s o) (e : Event) : Attribution h (s, o) e where
  verb i t he hp hq := by
    rw [he]
    exact ho.verdict_of_verb hp hq
  neutral i t he hp hq hcancelled := by
    have hv := ho.verdict_of_verb (h := h) (t := t) hp hq
    rw [hcancelled] at hv
    have hneutral := verdictOf_cancelled h (o.kind i) t
    rw [← hv] at hneutral
    rw [he]
    exact hneutral
  list i t he hp hq ht := by
    obtain ⟨hi, heq⟩ := step_finished_list (h := h) (t := t) ho.wired hp hq
    have hreq : s.listCancelRequested = o.cancelled i := ho.list i hi
    rw [he, heq, onListFinished_settled _ ht]
    simp [hreq]

end Attributed

end Terminals

/-- **Cancel intents and attribution never leak between operations.**  Whatever was in flight
before, the result of a verb's terminal depends on that terminal, on whether this very verb was
cancelled, and on the kind it presented; a cancelled verb is no error; and a list is taken for
cancelled only by its own. -/
theorem intents_attributed (h : Host) {s : Controller} {es : List Event} (hs : Start s)
    (ha : (machine h).Admits s es) :
    (intentMachine h).EachStep (Attribution h) (s, {}) es :=
  (attributed_kept h).eachStep (.start hs) (Machine.admits_watch.2 ha)
    fun _ e hx _ => hx.attribution e

/-- A PIN change that is cancelled and refused, then an activation that fails on its own. -/
def cancelledThenFailed : List Event :=
  [.registry (.desk (qs "r") 1 (.eid true)), .refresh,
    .finished 0 { credentialsResult := [{ id := qs "pin" }] }, .changePin (qs "pin"), .cancel,
    .finished 1 { status := .error, errorCode := .communicationError }, .activate (qs "pin"),
    .finished 3 { status := .error, errorCode := .communicationError }]

theorem intents_attributed_cancelledThenFailed :
    (intentMachine .plain).EachStep (Attribution .plain) (.new, {}) cancelledThenFailed :=
  intents_attributed .plain start_new (by decide)

end LibreKDE.Credentials
