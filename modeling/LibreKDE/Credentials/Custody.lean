import LibreKDE.AgentClient.Custody
import LibreKDE.Credentials.Scrim

/-!
# The operations of a credential controller

Every slot of the controller that lets go of an operation goes through `resetListState` or
`detachMutation`, which stop listening to it and cancel it.  So each of its steps only handles its
operations (`Client.Handles`), and as long as it lives each of them is accounted for.

Its destructor is the compiler's own, and cancels nothing.
-/

namespace LibreKDE.Credentials

open Client (Handles)

namespace Controller

variable {h : Host} {s u : Controller} {c : CardRef} {q : Request} {kind : CredentialKind}

lemma handles_resetListState (s : Controller) : Handles s.client s.resetListState.client := by
  unfold resetListState
  cases s.listOp with
  | none => exact .refl _
  | some i => exact .drop _ i

lemma handles_detachMutation (s : Controller) : Handles s.client s.detachMutation.client := by
  unfold detachMutation
  cases s.mutationOp with
  | none => exact .refl _
  | some i => exact .abandon _ i

lemma handles_bindCard (s : Controller) (c : Option CardRef) :
    Handles s.client (s.bindCard c).client := by
  unfold bindCard
  split_ifs
  · exact .refl _
  · exact s.handles_resetListState.trans s.resetListState.handles_detachMutation

lemma handles_classify (s : Controller) : Handles s.client s.classify.client := by
  rcases s.classify_cases with ⟨-, heq⟩ | ⟨-, -, heq⟩ | ⟨-, -, heq⟩ | ⟨c, -, -, -, -, -, heq⟩
  · rw [heq]
    exact s.handles_resetListState
  · rw [heq]
    exact s.handles_resetListState
  · rw [heq]
    exact .refl _
  · rw [heq]
    exact .mint _ c _

lemma handles_unbind (s : Controller) (st : State) : Handles s.client (s.unbind st).client :=
  handles_bindCard { s with resolvedReaderId := [] } none

lemma handles_refresh (s : Controller) : Handles s.client (s.refresh h).client := by
  rcases s.refresh_cases (h := h) with ⟨-, heq⟩ | ⟨-, -, heq⟩ | ⟨-, -, -, heq⟩ | ⟨x, -, -, -, heq⟩
  · rw [heq]
    exact s.handles_unbind _
  · rw [heq]
    exact .refl _
  · rw [heq]
    exact s.handles_unbind _
  · rw [heq]
    exact ((s.showReader h x).handles_bindCard x.card).trans (handles_classify _)

/-- What a step does before it refreshes, if it refreshes. -/
lemma handles_of_refreshes {e : Event} (hu : s.refreshes e = some u) :
    Handles s.client u.client := by
  rcases refreshes_cases hu with ⟨hk, -⟩ | ⟨id, -, -, -, rfl⟩
  · rw [hk]
    exact .refl _
  · exact s.handles_detachMutation.trans s.detachMutation.handles_resetListState

lemma handles_cancel (s : Controller) : Handles s.client s.cancel.client := by
  unfold cancel
  cases hm : s.mutationOp with
  | none =>
      simp only
      cases s.listOp with
      | none => exact .refl _
      | some i => exact .cancel _ i
  | some j =>
      cases hl : s.listOp with
      | none =>
          simp only
          exact .cancel _ j
      | some i =>
          simp only
          exact (Handles.cancel s.client j).trans (.cancel _ i)

lemma handles_beginMutation (s : Controller) (c : CardRef) (q : Request) (kind : CredentialKind) :
    Handles s.client (s.beginMutation c q kind).client := by
  unfold beginMutation
  simp only
  split_ifs
  · apply (Handles.mint s.client c q).trans
    exact handles_resetListState { s with
      client := s.client.mint c q, pendingPresentedKind := kind, removalNotice := [] }
  · exact .mint s.client c q

lemma handles_verb (s : Controller) (q : Request) (kind : CredentialKind) :
    Handles s.client (s.verb q kind).client := by
  unfold verb
  split
  · next c _ =>
      split_ifs
      · exact s.handles_beginMutation c q kind
      · exact .refl _
  · exact .refl _

lemma handles_startListCredentials (s : Controller) :
    Handles s.client s.startListCredentials.client := by
  unfold startListCredentials
  split
  · exact s.handles_resetListState
  · next c _ =>
      split_ifs
      · exact .refl _
      · exact .refl _
      · exact .mint s.client c _

lemma handles_relistAfterMutation (s : Controller) :
    Handles s.client s.relistAfterMutation.client :=
  s.handles_resetListState.trans
    (handles_startListCredentials { s.resetListState with showingResult := true })

lemma handles_onMutationDone (s : Controller) (t : Terminal) :
    Handles s.client (s.onMutationDone h t).client := by
  rcases s.onMutationDone_cases (h := h) t with ⟨-, e, m, heq⟩ | ⟨-, e, m, n, heq⟩
  · rw [heq]
    exact (s.releaseMutation.showResult e m).handles_relistAfterMutation
  · rw [heq]
    exact .refl _

lemma onListFinished_client (s : Controller) (t : Terminal) :
    (s.onListFinished t).client = s.client := by
  unfold onListFinished
  split_ifs <;> rfl

lemma handles_finished (s : Controller) (i : ℕ) (t : Terminal) :
    Handles s.client (s.finished h i t).client := by
  have hfinish : Handles s.client (s.client.finish i t) := .finish s.client i t
  unfold finished
  simp only
  split_ifs
  · rw [onListFinished_client]
    exact hfinish
  · apply hfinish.trans
    exact handles_onMutationDone { s with client := s.client.finish i t } t
  · exact hfinish

end Controller

open Controller in
/-- **Each step of a controller only handles its operations.** -/
theorem handles_step {h : Host} {s : Controller} {e : Event} (hswept : Swept s e) :
    Handles s.client (step h s e).client := by
  cases e with
  -- A client that sweeps leaves no pending operation on a card it drops.
  | registry r => exact .registry s.client r fun i hp => hswept i hp.minted hp
  | refresh => exact s.handles_refresh
  | cardChanged c =>
      show Handles s.client (if s.card = some c then s.classify else s).client
      split_ifs
      · exact s.handles_classify
      · exact .refl _
  | finished i t => exact s.handles_finished i t
  | bindReader id =>
      exact (handles_of_refreshes (s := s) (e := .bindReader id) rfl).trans (handles_refresh _)
  | cancel => exact s.handles_cancel
  | startAgent =>
      show Handles s.client (s.startAgent h).client
      unfold startAgent
      split_ifs
      · exact .refl _
      · exact .refl _
      · exact s.handles_refresh
  | agentStartFinished result =>
      show Handles s.client (s.onAgentStartFinished h).client
      unfold onAgentStartFinished
      split_ifs
      · exact handles_refresh { s with agentStarting := false }
      · exact .refl _
  | changePin id => exact s.handles_verb _ _
  | activate id => exact s.handles_verb _ _
  | activateSigningKey id => exact s.handles_verb _ _
  | requestUnblock id =>
      show Handles s.client (s.requestUnblock h id).client
      unfold requestUnblock
      split_ifs <;> exact .refl _
  | confirmUnblock id => exact s.handles_verb _ _

lemma kept_accounted (h : Host) : (sweptMachine h).Kept fun s => s.client.Accounted true :=
  fun _ _ hs hal => (handles_step hal.2).accounted hs

end LibreKDE.Credentials
