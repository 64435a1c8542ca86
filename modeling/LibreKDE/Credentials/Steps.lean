import LibreKDE.Credentials.Controller

/-!
# What one step of the controller can do

The controller has a dozen entry points but few moves.  `classify` clears the rows, leaves
everything as it is, or mints a list (`classify_cases`); `refresh` unbinds, does nothing, or
binds and classifies (`refresh_cases`); a verb does nothing or begins a mutation
(`verb_cases`); and the terminal of a mutation shows its outcome and re-lists, or rests
there (`onMutationDone_cases`).  These lemmas say so once, with their guards; the invariants
of the following files are proved about the moves and never unfold an entry point.

The last two sections are the frame of the moves: an operation that is neither the list nor
the mutation in flight is left exactly as it was, every operation a move mints on its own is
a list, and no move changes what was asked of an operation or how it ended.
-/

namespace LibreKDE.Credentials

open Reactive

namespace Controller

variable {h : Host} {s : Controller} {c : CardRef} {i : ℕ} {t : Terminal} {q : Request}
  {kind : CredentialKind}

/-! ## The moves behind each entry point -/

lemma bindCard_none : s.bindCard none = s.rebind none := by
  simp [bindCard]

/-- `bindCard` is a no-op on the card already bound, and a re-bind otherwise. -/
lemma bindCard_cases (c : Option CardRef) :
    (c ≠ none ∧ s.card = c ∧ s.bindCard c = s) ∨
      ((c = none ∨ s.card ≠ c) ∧ s.bindCard c = s.rebind c) := by
  by_cases hc : c ≠ none ∧ s.card = c
  · exact .inl ⟨hc.1, hc.2, by simp only [bindCard, if_pos hc]⟩
  · refine .inr ⟨?_, by simp only [bindCard, if_neg hc]⟩
    tauto

/-- `classify` empties the model, leaves everything alone, or fetches the list. -/
lemma classify_cases :
    (s.card = none ∧ s.classify = s.clearRows .noCard) ∨
    (s.card ≠ none ∧ s.manageable = false ∧ s.classify = s.clearRows .notManageable) ∨
    (s.manageable = true ∧ (s.mutationOp ≠ none ∨ s.listOp ≠ none ∨ s.listSettled = true) ∧
      s.classify = s) ∨
    ∃ c, s.card = some c ∧ s.manageable = true ∧ s.mutationOp = none ∧ s.listOp = none ∧
      s.listSettled = false ∧ s.classify = s.mintList c := by
  by_cases hn : s.card = none
  · exact .inl ⟨hn, by simp [classify, hn]⟩
  by_cases hm : s.manageable = true
  · right; right
    obtain ⟨c, hc⟩ := Option.ne_none_iff_exists'.1 hn
    have hcl : s.classify = s.startListCredentials := by simp [classify, hc, hm]
    simp only [hcl, startListCredentials, hc]
    by_cases hmut : s.mutationOp ≠ none
    · exact .inl ⟨hm, .inl hmut, by simp only [if_pos hmut]⟩
    by_cases hbusy : s.listOp ≠ none ∨ s.listSettled = true
    · exact .inl ⟨hm, .inr hbusy, by simp only [if_neg hmut, if_pos hbusy]⟩
    · refine .inr ⟨c, rfl, hm, by tauto, by tauto, ?_, by simp only [if_neg hmut, if_neg hbusy]⟩
      simpa using fun hset => hbusy (.inr hset)
  · exact .inr (.inl ⟨hn, by simpa using hm, by simp [classify, hn, hm]⟩)

/-- `refresh` unbinds, is pinned by the verb in flight, or binds and classifies. -/
lemma refresh_cases :
    (s.available = false ∧ s.refresh h = s.unbind .agentUnavailable) ∨
    (s.available = true ∧ s.mutationOp ≠ none ∧ s.refresh h = s) ∨
    (s.available = true ∧ s.mutationOp = none ∧ s.resolvedReader = none ∧
      s.refresh h = s.unbind .noCard) ∨
    ∃ x, s.available = true ∧ s.mutationOp = none ∧ s.resolvedReader = some x ∧
      s.refresh h = ((s.showReader h x).bindCard x.card).classify := by
  unfold refresh
  cases ha : s.available with
  | false => simp
  | true =>
      by_cases hm : s.mutationOp = none
      · cases hr : s.resolvedReader with
        | none => simp [hm]
        | some x => simp [hm]
      · simp [hm]

/-- A verb does nothing without a card or under another verb, and begins a mutation on the
bound card otherwise. -/
lemma verb_cases :
    ((s.card = none ∨ s.mutationOp ≠ none) ∧ s.verb q kind = s) ∨
    ∃ c, s.card = some c ∧ s.mutationOp = none ∧ s.verb q kind = s.beginMutation c q kind := by
  unfold verb canStartMutation
  cases hc : s.card with
  | none => simp
  | some c =>
      by_cases hm : s.mutationOp = none
      · exact .inr ⟨c, rfl, hm, by simp [hm]⟩
      · exact .inl ⟨.inr hm, by simp [hm]⟩

/-- The listing the dashboard shows may no longer be true after this terminal: it is not one
of the two refusals that leave it valid, and the mutation did not end with the card. -/
def dirties (s : Controller) (t : Terminal) : Bool :=
  match t.syncError with
  | some .rateLimited | some .invalidRequest => false
  | some _ => true
  | none => s.effectiveOutcome t ≠ .cardRemoved

/-- With a card to list, the mandatory re-list fetches whatever was in flight or settled. -/
lemma relistAfterMutation_of_card (hc : s.card = some c) (hm : s.mutationOp = none) :
    s.relistAfterMutation =
      { s.resetListState with showingResult := true }.mintList c := by
  simp [relistAfterMutation, startListCredentials, resetListState, hc, hm]

lemma relistAfterMutation_card : s.relistAfterMutation.card = s.card := by
  unfold relistAfterMutation startListCredentials
  split
  · rfl
  · split
    · rfl
    · split <;> rfl

/-- A mutation's terminal shows its outcome and re-lists, or rests on the outcome when the
listing is still valid. -/
lemma onMutationDone_cases (s : Controller) (t : Terminal) :
    (s.dirties t = true ∧ ∃ isError message,
      s.onMutationDone h t =
        (s.releaseMutation.showResult isError message).relistAfterMutation) ∨
    (s.dirties t = false ∧ ∃ isError message notice,
      s.onMutationDone h t =
        (s.releaseMutation.showResult isError message).setRemovalNotice notice) := by
  cases hn : t.syncError with
  | none =>
      by_cases he : s.effectiveOutcome t = .cardRemoved
      · exact .inr ⟨by simp [dirties, hn, he], _, _, _, by simp only [onMutationDone, hn, he]; rfl⟩
      · exact .inl ⟨by simp [dirties, hn, he], _, _, by
          simp only [onMutationDone, hn, if_neg he]; rfl⟩
  | some named =>
      cases named with
      | rateLimited | invalidRequest =>
          exact .inr ⟨by simp [dirties, hn], _, _, s.removalNotice, by
            simp only [onMutationDone, hn]; rfl⟩
      | unknownCredential | unknownCard | keyNotFound | other n =>
          exact .inl ⟨by simp [dirties, hn], _, _, by simp only [onMutationDone, hn]; rfl⟩

/-- The state in which an event runs `refresh`, when it does. -/
def refreshes (s : Controller) : Event → Option Controller
  | .refresh => some s
  | .bindReader id =>
      let s' :=
        if s.mutationOp ≠ none ∧ id ≠ s.resolvedReaderId then s.detachMutation.resetListState
        else s
      some { s' with readerId := id }
  | .startAgent => if ¬ s.agentStarting ∧ ¬ s.hasClient then some s else none
  | .agentStartFinished _ =>
      if s.agentStarting then some { s with agentStarting := false } else none
  | _ => none

lemma step_of_refreshes {e : Event} {u : Controller} (hu : s.refreshes e = some u) :
    step h s e = u.refresh h := by
  cases e <;> simp only [refreshes, Option.some.injEq, reduceCtorEq] at hu
  case refresh => rw [← hu]; rfl
  case bindReader id => rw [← hu]; rfl
  case startAgent =>
    split at hu
    · next hs =>
        obtain rfl := Option.some.inj hu
        simp [step, startAgent, hs.1, hs.2]
    · cases hu
  case agentStartFinished =>
    split at hu
    · next hs =>
        obtain rfl := Option.some.inj hu
        simp [step, onAgentStartFinished, hs]
    · cases hu

/-- What the two requests to cancel, the stashed kind and the settled latch are in both. -/
structure SameIntents (s u : Controller) : Prop where
  listSettled : u.listSettled = s.listSettled
  listCancelRequested : u.listCancelRequested = s.listCancelRequested
  mutationCancelRequested : u.mutationCancelRequested = s.mutationCancelRequested
  pendingPresentedKind : u.pendingPresentedKind = s.pendingPresentedKind

lemma SameIntents.refl (s : Controller) : SameIntents s s := ⟨rfl, rfl, rfl, rfl⟩

/-- An event that runs `refresh` runs it on the controller as it is, up to the reader asked
for, unless it is a re-bind that abandons the verb in flight. -/
lemma refreshes_cases {e : Event} {u : Controller} (hu : s.refreshes e = some u) :
    (u.client = s.client ∧ u.hasClient = s.hasClient ∧ u.card = s.card ∧ u.model = s.model ∧
      u.listOp = s.listOp ∧ u.mutationOp = s.mutationOp ∧ u.state = s.state ∧
      SameIntents s u) ∨
    ∃ id, e = .bindReader id ∧ s.mutationOp ≠ none ∧ id ≠ s.resolvedReaderId ∧
      u = { s.detachMutation.resetListState with readerId := id } := by
  cases e <;> simp only [refreshes, Option.some.injEq, reduceCtorEq] at hu
  case refresh =>
    rw [← hu]
    exact .inl ⟨rfl, rfl, rfl, rfl, rfl, rfl, rfl, .refl s⟩
  case bindReader id =>
    -- Only a re-target past a running verb touches more than the name before it refreshes.
    by_cases hid : s.mutationOp ≠ none ∧ id ≠ s.resolvedReaderId
    · rw [if_pos hid] at hu
      exact .inr ⟨id, rfl, hid.1, hid.2, hu.symm⟩
    · rw [if_neg hid] at hu
      rw [← hu]
      exact .inl ⟨rfl, rfl, rfl, rfl, rfl, rfl, rfl, ⟨rfl, rfl, rfl, rfl⟩⟩
  case startAgent =>
    split at hu
    · rw [← Option.some.inj hu]
      exact .inl ⟨rfl, rfl, rfl, rfl, rfl, rfl, rfl, .refl s⟩
    · cases hu
  case agentStartFinished =>
    split at hu
    · rw [← Option.some.inj hu]
      exact .inl ⟨rfl, rfl, rfl, rfl, rfl, rfl, rfl, ⟨rfl, rfl, rfl, rfl⟩⟩
    · cases hu

/-- The way to a refresh keeps the binding and the rows. -/
lemma refreshes_frame {e : Event} {u : Controller} (hu : s.refreshes e = some u) :
    u.card = s.card ∧ u.model = s.model ∧ (u.listOp = s.listOp ∨ u.listOp = none) := by
  rcases refreshes_cases hu with ⟨-, -, hc, hm, hl, -⟩ | ⟨id, -, -, -, rfl⟩
  · exact ⟨hc, hm, .inl hl⟩
  · exact ⟨rfl, rfl, .inr rfl⟩

lemma classify_card : s.classify.card = s.card := by
  rcases s.classify_cases with ⟨-, heq⟩ | ⟨-, -, heq⟩ | ⟨-, -, heq⟩ | ⟨c, -, -, -, -, -, heq⟩ <;>
    rw [heq] <;> rfl

/-- Unbinding leaves the rows behind. -/
lemma unbind_frame (st : State) :
    (s.unbind st).card = none ∧ (s.unbind st).model = s.model ∧ (s.unbind st).listOp = none ∧
      (s.unbind st).mutationOp = none ∧ (s.unbind st).state = st := by
  rw [unbind, bindCard_none]
  exact ⟨rfl, rfl, rfl, rfl, rfl⟩

/-! ## What dropping or cancelling an operation leaves alone -/

@[simp] lemma cancel_card : s.cancel.card = s.card := by
  cases hm : s.mutationOp <;> cases hl : s.listOp <;> simp [cancel, hm, hl]

@[simp] lemma cancel_listOp : s.cancel.listOp = s.listOp := by
  cases hm : s.mutationOp <;> cases hl : s.listOp <;> simp [cancel, hm, hl]

@[simp] lemma cancel_mutationOp : s.cancel.mutationOp = s.mutationOp := by
  cases hm : s.mutationOp <;> cases hl : s.listOp <;> simp [cancel, hm, hl]

@[simp] lemma cancel_model : s.cancel.model = s.model := by
  cases hm : s.mutationOp <;> cases hl : s.listOp <;> simp [cancel, hm, hl]

@[simp] lemma cancel_state : s.cancel.state = s.state := by
  cases hm : s.mutationOp <;> cases hl : s.listOp <;> simp [cancel, hm, hl]

@[simp] lemma cancel_registry : s.cancel.client.registry = s.client.registry := by
  cases hm : s.mutationOp <;> cases hl : s.listOp <;> simp [cancel, hm, hl]

@[simp] lemma cancel_minted : s.cancel.client.minted = s.client.minted := by
  cases hm : s.mutationOp <;> cases hl : s.listOp <;> simp [cancel, hm, hl]

@[simp] lemma cancel_pending : s.cancel.client.Pending i ↔ s.client.Pending i := by
  cases hm : s.mutationOp <;> cases hl : s.listOp <;> simp [cancel, hm, hl]

@[simp] lemma cancel_request :
    (s.cancel.client.ops i).request = (s.client.ops i).request := by
  cases hm : s.mutationOp <;> cases hl : s.listOp <;> simp [cancel, hm, hl]

@[simp] lemma cancel_opCard : (s.cancel.client.ops i).card = (s.client.ops i).card := by
  cases hm : s.mutationOp <;> cases hl : s.listOp <;> simp [cancel, hm, hl]

lemma cancel_connected :
    (s.cancel.client.ops i).connected = (s.client.ops i).connected := by
  cases hm : s.mutationOp <;> cases hl : s.listOp <;> simp [cancel, hm, hl]

@[simp] lemma cancel_ended : (s.cancel.client.ops i).ended = (s.client.ops i).ended := by
  cases hm : s.mutationOp <;> cases hl : s.listOp <;> simp [cancel, hm, hl]

@[simp] lemma resetListState_registry :
    s.resetListState.client.registry = s.client.registry := by
  cases hl : s.listOp <;> simp [resetListState, hl]

@[simp] lemma resetListState_minted : s.resetListState.client.minted = s.client.minted := by
  cases hl : s.listOp <;> simp [resetListState, hl]

@[simp] lemma resetListState_request :
    (s.resetListState.client.ops i).request = (s.client.ops i).request := by
  cases hl : s.listOp <;> simp [resetListState, hl]

@[simp] lemma resetListState_opCard :
    (s.resetListState.client.ops i).card = (s.client.ops i).card := by
  cases hl : s.listOp <;> simp [resetListState, hl]

@[simp] lemma resetListState_ended :
    (s.resetListState.client.ops i).ended = (s.client.ops i).ended := by
  cases hl : s.listOp <;> simp [resetListState, hl]

@[simp] lemma detachMutation_registry :
    s.detachMutation.client.registry = s.client.registry := by
  cases hm : s.mutationOp <;> simp [detachMutation, hm]

@[simp] lemma detachMutation_minted : s.detachMutation.client.minted = s.client.minted := by
  cases hm : s.mutationOp <;> simp [detachMutation, hm]

@[simp] lemma detachMutation_request :
    (s.detachMutation.client.ops i).request = (s.client.ops i).request := by
  cases hm : s.mutationOp <;> simp [detachMutation, hm]

@[simp] lemma detachMutation_opCard :
    (s.detachMutation.client.ops i).card = (s.client.ops i).card := by
  cases hm : s.mutationOp <;> simp [detachMutation, hm]

@[simp] lemma detachMutation_ended :
    (s.detachMutation.client.ops i).ended = (s.client.ops i).ended := by
  cases hm : s.mutationOp <;> simp [detachMutation, hm]

/-! ## What beginning a mutation does -/

section BeginMutation

variable (s c q kind)

@[simp] lemma beginMutation_card : (s.beginMutation c q kind).card = s.card := by
  by_cases hl : s.listOp = none <;> simp [beginMutation, resetListState, hl]

@[simp] lemma beginMutation_listOp : (s.beginMutation c q kind).listOp = none := by
  by_cases hl : s.listOp = none <;> simp [beginMutation, resetListState, hl]

@[simp] lemma beginMutation_mutationOp :
    (s.beginMutation c q kind).mutationOp = some s.client.minted := by
  by_cases hl : s.listOp = none <;> simp [beginMutation, resetListState, hl]

@[simp] lemma beginMutation_model : (s.beginMutation c q kind).model = s.model := by
  by_cases hl : s.listOp = none <;> simp [beginMutation, resetListState, hl]

@[simp] lemma beginMutation_state : (s.beginMutation c q kind).state = .working := by
  by_cases hl : s.listOp = none <;> simp [beginMutation, resetListState, hl]

@[simp] lemma beginMutation_kind :
    (s.beginMutation c q kind).pendingPresentedKind = kind := by
  by_cases hl : s.listOp = none <;> simp [beginMutation, resetListState, hl]

@[simp] lemma beginMutation_registry :
    (s.beginMutation c q kind).client.registry = s.client.registry := by
  cases hl : s.listOp <;> simp [beginMutation, resetListState, hl]

@[simp] lemma beginMutation_minted :
    (s.beginMutation c q kind).client.minted = s.client.minted + 1 := by
  cases hl : s.listOp <;> simp [beginMutation, resetListState, hl]

@[simp] lemma beginMutation_request :
    ((s.beginMutation c q kind).client.ops i).request = ((s.client.mint c q).ops i).request := by
  cases hl : s.listOp <;> simp [beginMutation, resetListState, hl]

@[simp] lemma beginMutation_opCard :
    ((s.beginMutation c q kind).client.ops i).card = ((s.client.mint c q).ops i).card := by
  cases hl : s.listOp <;> simp [beginMutation, resetListState, hl]

@[simp] lemma beginMutation_ended :
    ((s.beginMutation c q kind).client.ops i).ended = ((s.client.mint c q).ops i).ended := by
  cases hl : s.listOp <;> simp [beginMutation, resetListState, hl]

/-- The re-list in flight, if any, is dropped; the mutation is new. -/
@[simp] lemma beginMutation_pending :
    (s.beginMutation c q kind).client.Pending i ↔
      (s.client.Pending i ∨ i = s.client.minted) ∧ s.listOp ≠ some i := by
  cases hl : s.listOp with
  | none => simp [beginMutation, hl]
  | some l =>
      simp only [beginMutation, resetListState, hl, ne_eq, reduceCtorEq, not_false_eq_true,
        if_true, Client.pending_deleteLater, Client.pending_cancel, Client.pending_disconnect,
        Client.pending_mint, Option.some.injEq]
      tauto

end BeginMutation

/-! ## The frame of the moves -/

section Frame

variable {j : ℕ}

lemma resetListState_ops (hl : s.listOp ≠ some j) :
    s.resetListState.client.ops j = s.client.ops j := by
  cases h : s.listOp with
  | none => simp [resetListState, h]
  | some i =>
      have hne : j ≠ i := fun hji => hl (by rw [h, hji])
      simp only [resetListState, h]
      rw [Client.deleteLater_ops_of_ne _ hne, Client.cancel_ops_of_ne _ hne,
        Client.disconnect_ops_of_ne _ hne]

lemma detachMutation_ops (hm : s.mutationOp ≠ some j) :
    s.detachMutation.client.ops j = s.client.ops j := by
  cases h : s.mutationOp with
  | none => simp [detachMutation, h]
  | some i =>
      have hne : j ≠ i := fun hji => hm (by rw [h, hji])
      simp only [detachMutation, h]
      rw [Client.cancel_ops_of_ne _ hne, Client.disconnect_ops_of_ne _ hne]

lemma rebind_ops (hl : s.listOp ≠ some j) (hm : s.mutationOp ≠ some j) (c : Option CardRef) :
    (s.rebind c).client.ops j = s.client.ops j :=
  (detachMutation_ops (s := s.resetListState) hm).trans (resetListState_ops hl)

lemma bindCard_ops (hl : s.listOp ≠ some j) (hm : s.mutationOp ≠ some j)
    (c : Option CardRef) : (s.bindCard c).client.ops j = s.client.ops j := by
  rcases s.bindCard_cases c with ⟨-, -, heq⟩ | ⟨-, heq⟩
  · rw [heq]
  · rw [heq]
    exact rebind_ops hl hm c

@[simp] lemma rebind_minted (c : Option CardRef) :
    (s.rebind c).client.minted = s.client.minted := by
  simp [rebind]

@[simp] lemma bindCard_minted (c : Option CardRef) :
    (s.bindCard c).client.minted = s.client.minted := by
  rcases s.bindCard_cases c with ⟨-, -, heq⟩ | ⟨-, heq⟩ <;> simp [heq]

@[simp] lemma unbind_minted (st : State) :
    (s.unbind st).client.minted = s.client.minted := by
  simp [unbind]

lemma unbind_ops (hl : s.listOp ≠ some j) (hm : s.mutationOp ≠ some j) (st : State) :
    (s.unbind st).client.ops j = s.client.ops j :=
  bindCard_ops (s := { s with resolvedReaderId := [] }) hl hm none

lemma mintList_ops (hj : j < s.client.minted) :
    (s.mintList c).client.ops j = s.client.ops j :=
  Client.mint_ops_of_lt hj

lemma classify_ops (hj : j < s.client.minted) (hl : s.listOp ≠ some j) :
    s.classify.client.ops j = s.client.ops j := by
  rcases s.classify_cases with ⟨-, heq⟩ | ⟨-, -, heq⟩ | ⟨-, -, heq⟩ | ⟨c, -, -, -, -, -, heq⟩
  · rw [heq]
    exact resetListState_ops hl
  · rw [heq]
    exact resetListState_ops hl
  · rw [heq]
  · rw [heq]
    exact mintList_ops hj

lemma refresh_ops (hj : j < s.client.minted) (hl : s.listOp ≠ some j)
    (hm : s.mutationOp ≠ some j) : (s.refresh h).client.ops j = s.client.ops j := by
  rcases s.refresh_cases (h := h) with ⟨-, heq⟩ | ⟨-, -, heq⟩ | ⟨-, -, -, heq⟩ | ⟨x, -, -, -, heq⟩
  · rw [heq]
    exact unbind_ops hl hm _
  · rw [heq]
  · rw [heq]
    exact unbind_ops hl hm _
  · rw [heq]
    have hbind : ((s.showReader h x).bindCard x.card).client.ops j = s.client.ops j :=
      bindCard_ops (s := s.showReader h x) hl hm x.card
    rw [← hbind]
    apply classify_ops (by simpa [showReader] using hj)
    intro hb
    rcases (s.showReader h x).bindCard_cases x.card with ⟨-, -, heq⟩ | ⟨-, heq⟩
    · rw [heq] at hb
      exact hl hb
    · rw [heq] at hb
      cases hb

lemma cancel_ops (hl : s.listOp ≠ some j) (hm : s.mutationOp ≠ some j) :
    s.cancel.client.ops j = s.client.ops j := by
  cases hl' : s.listOp <;> cases hm' : s.mutationOp <;> simp only [cancel, hl', hm']
  · rw [Client.cancel_ops_of_ne]
    exact fun hji => hm (by rw [hm', hji])
  · rw [Client.cancel_ops_of_ne]
    exact fun hji => hl (by rw [hl', hji])
  · rw [Client.cancel_ops_of_ne, Client.cancel_ops_of_ne]
    · exact fun hji => hm (by rw [hm', hji])
    · exact fun hji => hl (by rw [hl', hji])

lemma beginMutation_ops (hj : j < s.client.minted) (hl : s.listOp ≠ some j) :
    (s.beginMutation c q kind).client.ops j = s.client.ops j := by
  have hmint : (s.client.mint c q).ops j = s.client.ops j := Client.mint_ops_of_lt hj
  by_cases h : s.listOp = none
  · simp [beginMutation, h, hmint]
  · have hdrop := resetListState_ops (j := j)
      (s := { s with client := s.client.mint c q, pendingPresentedKind := kind,
                     removalNotice := [] }) hl
    simp only [beginMutation, ne_eq, h, not_false_eq_true, if_true]
    exact hdrop.trans hmint

lemma relistAfterMutation_ops (hj : j < s.client.minted) (hl : s.listOp ≠ some j) :
    s.relistAfterMutation.client.ops j = s.client.ops j := by
  have hreset : s.resetListState.client.ops j = s.client.ops j := resetListState_ops hl
  unfold relistAfterMutation startListCredentials
  split
  · exact (resetListState_ops (s := { s.resetListState with showingResult := true })
      (by simp [resetListState])).trans hreset
  · split
    · exact hreset
    · split
      · exact hreset
      · exact (mintList_ops (s := { s.resetListState with showingResult := true })
          (by simpa using hj)).trans hreset

lemma onMutationDone_ops (hj : j < s.client.minted) (hl : s.listOp ≠ some j) :
    (s.onMutationDone h t).client.ops j = s.client.ops j := by
  rcases s.onMutationDone_cases (h := h) t with ⟨-, e, m, heq⟩ | ⟨-, e, m, n, heq⟩
  · rw [heq]
    exact relistAfterMutation_ops (s := s.releaseMutation.showResult e m) hj hl
  · rw [heq]
    rfl

/-- Every operation `u` has and `s` had not is a list. -/
def MintsLists (s u : Controller) : Prop :=
  ∀ j, s.client.minted ≤ j → j < u.client.minted →
    (u.client.ops j).request = .listCredentials

lemma MintsLists.of_minted {u : Controller} (hu : u.client.minted = s.client.minted) :
    MintsLists s u := fun j hj hlt => by omega

lemma mintsLists_mintList : MintsLists s (s.mintList c) := by
  intro j hj hlt
  have hlt' : j < s.client.minted + 1 := hlt
  obtain rfl : j = s.client.minted := by omega
  simp [mintList]

lemma mintsLists_classify : MintsLists s s.classify := by
  rcases s.classify_cases with ⟨-, heq⟩ | ⟨-, -, heq⟩ | ⟨-, -, heq⟩ | ⟨c, -, -, -, -, -, heq⟩
  · exact .of_minted (by simp [heq, clearRows])
  · exact .of_minted (by simp [heq, clearRows])
  · exact .of_minted (by rw [heq])
  · rw [heq]
    exact mintsLists_mintList

lemma mintsLists_refresh : MintsLists s (s.refresh h) := by
  rcases s.refresh_cases (h := h) with ⟨-, heq⟩ | ⟨-, -, heq⟩ | ⟨-, -, -, heq⟩ | ⟨x, -, -, -, heq⟩
  · exact .of_minted (by simp [heq])
  · exact .of_minted (by rw [heq])
  · exact .of_minted (by simp [heq])
  · rw [heq]
    intro j hj hlt
    exact mintsLists_classify j (by simpa [showReader] using hj) hlt

lemma mintsLists_relistAfterMutation : MintsLists s s.relistAfterMutation := by
  unfold relistAfterMutation startListCredentials
  split
  · exact .of_minted (by simp [clearRows])
  · split
    · exact .of_minted (by simp)
    · split
      · exact .of_minted (by simp)
      · intro j hj hlt
        exact mintsLists_mintList j (by simpa using hj) hlt

lemma mintsLists_onMutationDone : MintsLists s (s.onMutationDone h t) := by
  rcases s.onMutationDone_cases (h := h) t with ⟨-, e, m, heq⟩ | ⟨-, e, m, n, heq⟩
  · rw [heq]
    intro j hj hlt
    exact mintsLists_relistAfterMutation j hj hlt
  · exact .of_minted (by rw [heq]; rfl)

end Frame

/-! ## The table of operations only grows -/

/-- `u` has every operation `s` had, asked the same and ended the same, and whatever it has
besides is still running. -/
structure Extends (s u : Controller) : Prop where
  minted : s.client.minted ≤ u.client.minted
  request : ∀ j < s.client.minted, (u.client.ops j).request = (s.client.ops j).request
  card : ∀ j < s.client.minted, (u.client.ops j).card = (s.client.ops j).card
  ended : ∀ j < s.client.minted, (u.client.ops j).ended = (s.client.ops j).ended
  running : ∀ j, s.client.minted ≤ j → j < u.client.minted → (u.client.ops j).ended = none

namespace Extends

variable {u v : Controller}

lemma of_eq (hk : u.client = s.client) : Extends s u :=
  ⟨by rw [hk], by simp [hk], by simp [hk], by simp [hk], fun j hj hlt => by
    rw [hk] at hlt
    omega⟩

lemma trans (hsu : Extends s u) (huv : Extends u v) : Extends s v where
  minted := hsu.minted.trans huv.minted
  request j hj := (huv.request j (hj.trans_le hsu.minted)).trans (hsu.request j hj)
  card j hj := (huv.card j (hj.trans_le hsu.minted)).trans (hsu.card j hj)
  ended j hj := (huv.ended j (hj.trans_le hsu.minted)).trans (hsu.ended j hj)
  running j hj hlt := by
    by_cases hju : j < u.client.minted
    · rw [huv.ended j hju]
      exact hsu.running j hj hju
    · exact huv.running j (by omega) hlt

/-- A move that mints nothing, and keeps what was asked and how it ended. -/
lemma of_same (hn : u.client.minted = s.client.minted)
    (hq : ∀ j, (u.client.ops j).request = (s.client.ops j).request)
    (hc : ∀ j, (u.client.ops j).card = (s.client.ops j).card)
    (he : ∀ j, (u.client.ops j).ended = (s.client.ops j).ended) : Extends s u :=
  ⟨hn.ge, fun j _ => hq j, fun j _ => hc j, fun j _ => he j, fun j hj hlt => by omega⟩

lemma resetListState : Extends s s.resetListState :=
  .of_same (by simp) (by simp) (by simp) (by simp)

lemma detachMutation : Extends s s.detachMutation :=
  .of_same (by simp) (by simp) (by simp) (by simp)

lemma cancel : Extends s s.cancel :=
  .of_same (by simp) (by simp) (by simp) (by simp)

lemma of_mint (hk : u.client = s.client.mint c q) : Extends s u where
  minted := by simp [hk]
  request j hj := by rw [hk, Client.mint_ops_of_lt hj]
  card j hj := by rw [hk, Client.mint_ops_of_lt hj]
  ended j hj := by rw [hk, Client.mint_ops_of_lt hj]
  running j hj hlt := by
    rw [hk, Client.mint_minted] at hlt
    obtain rfl : j = s.client.minted := by omega
    simp [hk]

lemma bindCard (c : Option CardRef) : Extends s (s.bindCard c) := by
  rcases s.bindCard_cases c with ⟨-, -, heq⟩ | ⟨-, heq⟩
  · exact .of_eq (by rw [heq])
  · rw [heq]
    exact (resetListState.trans detachMutation).trans (.of_eq rfl)

lemma unbind (st : State) : Extends s (s.unbind st) := by
  have hclear : Extends s { s with resolvedReaderId := [] } := .of_eq rfl
  exact (hclear.trans (bindCard none)).trans (.of_eq rfl)

lemma classify : Extends s s.classify := by
  rcases s.classify_cases with ⟨-, heq⟩ | ⟨-, -, heq⟩ | ⟨-, -, heq⟩ | ⟨c, -, -, -, -, -, heq⟩
  · rw [heq]
    exact resetListState.trans (.of_eq rfl)
  · rw [heq]
    exact resetListState.trans (.of_eq rfl)
  · exact .of_eq (by rw [heq])
  · rw [heq]
    exact .of_mint rfl

lemma refresh : Extends s (s.refresh h) := by
  rcases s.refresh_cases (h := h) with ⟨-, heq⟩ | ⟨-, -, heq⟩ | ⟨-, -, -, heq⟩ | ⟨x, -, -, -, heq⟩
  · rw [heq]
    exact unbind _
  · exact .of_eq (by rw [heq])
  · rw [heq]
    exact unbind _
  · rw [heq]
    have hshow : Extends s (s.showReader h x) := .of_eq rfl
    exact (hshow.trans (bindCard _)).trans classify

lemma beginMutation : Extends s (s.beginMutation c q kind) := by
  have hmint : Extends s { s with client := s.client.mint c q } := .of_mint rfl
  refine ⟨by simp, fun j hj => ?_, fun j hj => ?_, fun j hj => ?_, fun j hj hlt => ?_⟩
  · simpa using hmint.request j hj
  · simpa using hmint.card j hj
  · simpa using hmint.ended j hj
  · simpa using hmint.running j hj (by simpa using hlt)

lemma relistAfterMutation : Extends s s.relistAfterMutation := by
  have hreset : Extends s { s.resetListState with showingResult := true } :=
    resetListState.trans (.of_eq rfl)
  unfold Controller.relistAfterMutation startListCredentials
  split
  · exact hreset.trans (resetListState.trans (.of_eq rfl))
  · split
    · exact hreset
    · split
      · exact hreset
      · exact hreset.trans (.of_mint rfl)

lemma onMutationDone : Extends s (s.onMutationDone h t) := by
  rcases s.onMutationDone_cases (h := h) t with ⟨-, e, m, heq⟩ | ⟨-, e, m, n, heq⟩
  · rw [heq]
    have hshow : Extends s (s.releaseMutation.showResult e m) := .of_eq rfl
    exact hshow.trans relistAfterMutation
  · rw [heq]
    exact .of_eq rfl

lemma of_refreshes {e : Event} (hu : s.refreshes e = some u) : Extends s u := by
  rcases refreshes_cases hu with ⟨hk, -⟩ | ⟨id, -, -, -, rfl⟩
  · exact .of_eq hk
  · exact (detachMutation.trans resetListState).trans (.of_eq rfl)

end Extends

/-- Nothing is minted on the way to a refresh. -/
lemma refreshes_minted {e : Event} {u : Controller} (hu : s.refreshes e = some u) :
    u.client.minted = s.client.minted := by
  rcases refreshes_cases hu with ⟨hk, -⟩ | ⟨id, -, -, -, rfl⟩
  · rw [hk]
  · simp

/-- The re-list is the next operation minted. -/
lemma relistAfterMutation_listOp (hc : s.card = some c) (hm : s.mutationOp = none) :
    s.relistAfterMutation.listOp = some s.client.minted := by
  rw [relistAfterMutation_of_card hc hm]
  simp [mintList]

end Controller

end LibreKDE.Credentials
