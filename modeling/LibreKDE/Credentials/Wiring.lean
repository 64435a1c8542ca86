import LibreKDE.Credentials.Steps

/-!
# The controller's pointers and the client's table

`Wired` is the invariant every result about the controller rests on: the two operation
pointers and the bound card are exactly what the client's table of operations says is
pending.  A pending operation is the list or the mutation in flight, never both, and it runs
on the bound card.

`Move` then lists what one step of a wired controller can be, one constructor an entry
point, and `Wired.move` says that there is nothing else.  The properties of the following
files are proved by cases on it.
-/

namespace LibreKDE.Credentials

open Reactive

/-! ## The wiring invariant -/

/-- The controller's pointers against the client's table of operations. -/
structure Wired (s : Controller) : Prop where
  /-- The list pointer is a pending list on the bound card. -/
  list : ∀ i, s.listOp = some i →
    s.client.Pending i ∧ (s.client.ops i).request = .listCredentials ∧
      s.card = some (s.client.ops i).card
  /-- The mutation pointer is a pending mutation on the bound card. -/
  mutation : ∀ i, s.mutationOp = some i →
    s.client.Pending i ∧ (s.client.ops i).request.isMutation = true ∧
      s.card = some (s.client.ops i).card
  /-- Nothing else is pending. -/
  tracked : ∀ i, s.client.Pending i → s.listOp = some i ∨ s.mutationOp = some i
  /-- A list and a mutation never run together. -/
  exclusive : s.listOp = none ∨ s.mutationOp = none
  /-- The bound card exists. -/
  seated : ∀ c, s.card = some c → s.client.registry.live c = true

/-- Nothing is in flight, and nothing the client could still deliver is listened to. -/
structure Idle (s : Controller) : Prop where
  list : s.listOp = none
  mutation : s.mutationOp = none
  none_pending : ∀ i, ¬ s.client.Pending i

namespace Wired

variable {h : Host} {s u : Controller} {c : CardRef} {i : ℕ} {t : Terminal} {q : Request}
  {kind : CredentialKind}

/-- The invariant reads four fields only. -/
lemma congr (hs : Wired s) (hk : u.client = s.client) (hc : u.card = s.card)
    (hl : u.listOp = s.listOp) (hm : u.mutationOp = s.mutationOp) : Wired u := by
  constructor
  · simpa only [hk, hc, hl] using hs.list
  · simpa only [hk, hc, hm] using hs.mutation
  · simpa only [hk, hl, hm] using hs.tracked
  · simpa only [hl, hm] using hs.exclusive
  · simpa only [hk, hc] using hs.seated

lemma of_idle (hs : Idle s) (hc : ∀ c, s.card = some c → s.client.registry.live c = true) :
    Wired s where
  list i hi := by simp [hs.list] at hi
  mutation i hi := by simp [hs.mutation] at hi
  tracked i hi := absurd hi (hs.none_pending i)
  exclusive := .inl hs.list
  seated := hc

lemma idle (hs : Wired s) (hl : s.listOp = none) (hm : s.mutationOp = none) : Idle s where
  list := hl
  mutation := hm
  none_pending i hi := by
    rcases hs.tracked i hi with h | h
    · simp [hl] at h
    · simp [hm] at h

lemma list_ne_mutation (hs : Wired s) {j : ℕ} (hi : s.listOp = some i)
    (hj : s.mutationOp = some j) : False := by
  rcases hs.exclusive with h | h
  · simp [h] at hi
  · simp [h] at hj

/-- Dropping the list leaves at most the mutation. -/
lemma resetListState (hs : Wired s) : Wired s.resetListState := by
  cases hl : s.listOp with
  | none =>
      refine hs.congr ?_ rfl hl.symm rfl
      simp [Controller.resetListState, hl]
  | some i =>
      have hm : s.mutationOp = none := hs.exclusive.resolve_left (by simp [hl])
      refine of_idle ⟨rfl, hm, fun j hj => ?_⟩ ?_
      · simp only [Controller.resetListState, hl, Client.pending_deleteLater,
          Client.pending_cancel, Client.pending_disconnect] at hj
        rcases hs.tracked j hj.1.1 with h | h
        · exact hj.2 (by simpa [hl, eq_comm] using h)
        · simp [hm] at h
      · intro c hc
        simpa [Controller.resetListState, hl] using hs.seated c hc

/-- Detaching the mutation leaves at most the list. -/
lemma detachMutation (hs : Wired s) : Wired s.detachMutation := by
  cases hm : s.mutationOp with
  | none =>
      refine hs.congr ?_ rfl rfl hm.symm
      simp [Controller.detachMutation, hm]
  | some i =>
      have hl : s.listOp = none := hs.exclusive.resolve_right (by simp [hm])
      refine of_idle ⟨hl, rfl, fun j hj => ?_⟩ ?_
      · simp only [Controller.detachMutation, hm, Client.pending_cancel,
          Client.pending_disconnect] at hj
        rcases hs.tracked j hj.1 with h | h
        · simp [hl] at h
        · exact hj.2 (by simpa [hm, eq_comm] using h)
      · intro c hc
        simpa [Controller.detachMutation, hm] using hs.seated c hc

/-- Dropping both leaves nothing in flight. -/
lemma idle_detach (hs : Wired s) : Idle s.resetListState.detachMutation :=
  hs.resetListState.detachMutation.idle rfl rfl

/-! ### Every move keeps it -/

lemma clearRows (hs : Wired s) (st : State) : Wired (s.clearRows st) :=
  hs.resetListState.congr rfl rfl rfl rfl

lemma mintList (hs : Idle s) (hc : s.card = some c)
    (hlive : s.client.registry.live c = true) : Wired (s.mintList c) where
  list i hi := by
    obtain rfl : s.client.minted = i := by simpa [Controller.mintList] using hi
    simpa [Controller.mintList] using hc
  mutation i hi := by simp [Controller.mintList, hs.mutation] at hi
  tracked i hi := by
    rcases Client.pending_mint.1 hi with h | rfl
    · exact absurd h (hs.none_pending i)
    · exact .inl rfl
  exclusive := .inr hs.mutation
  seated d hd := by
    obtain rfl : c = d := by simpa [Controller.mintList, hc] using hd
    simpa [Controller.mintList] using hlive

lemma idle_rebind (hs : Wired s) (c : Option CardRef) : Idle (s.rebind c) :=
  ⟨rfl, rfl, hs.idle_detach.none_pending⟩

lemma rebind (hs : Wired s) {c : Option CardRef}
    (hc : ∀ d, c = some d → s.client.registry.live d = true) : Wired (s.rebind c) :=
  of_idle (hs.idle_rebind c) fun d hd => by simpa [Controller.rebind] using hc d hd

lemma bindCard (hs : Wired s) {c : Option CardRef}
    (hc : ∀ d, c = some d → s.client.registry.live d = true) : Wired (s.bindCard c) := by
  rcases s.bindCard_cases c with ⟨-, -, heq⟩ | ⟨-, heq⟩
  · rwa [heq]
  · rw [heq]
    exact hs.rebind hc

lemma classify (hs : Wired s) : Wired s.classify := by
  rcases s.classify_cases with ⟨-, heq⟩ | ⟨-, -, heq⟩ | ⟨-, -, heq⟩ | ⟨c, hc, -, hm, hl, -, heq⟩
  · rw [heq]
    exact hs.clearRows _
  · rw [heq]
    exact hs.clearRows _
  · rwa [heq]
  · rw [heq]
    exact mintList (hs.idle hl hm) hc (hs.seated c hc)

lemma unbind (hs : Wired s) (st : State) : Wired (s.unbind st) := by
  have hclear : Wired { s with resolvedReaderId := [] } := hs.congr rfl rfl rfl rfl
  have hb := hclear.bindCard (c := none) fun d hd => by cases hd
  exact hb.congr rfl rfl rfl rfl

/-- A reader the client resolves to holds an existing card. -/
lemma live_of_resolvedReader {x : AgentReader} (hx : s.resolvedReader = some x) {d : CardRef}
    (hd : x.card = some d) : s.client.registry.live d = true := by
  refine Registry.live_of_mem ?_ hd
  rcases Option.or_eq_some_iff.1 hx with hb | ⟨-, hf⟩
  · unfold Controller.boundReader at hb
    split at hb
    · cases hb
    · exact Registry.mem_readers_of_reader hb
  · exact Readers.mem_of_firstReaderWithCard hf

lemma refresh (hs : Wired s) : Wired (s.refresh h) := by
  rcases s.refresh_cases (h := h) with ⟨-, heq⟩ | ⟨-, -, heq⟩ | ⟨-, -, -, heq⟩ | ⟨x, -, -, hx, heq⟩
  · rw [heq]
    exact hs.unbind _
  · rwa [heq]
  · rw [heq]
    exact hs.unbind _
  · rw [heq]
    have hshow : Wired (s.showReader h x) := hs.congr rfl rfl rfl rfl
    exact (hshow.bindCard fun d hd => live_of_resolvedReader hx hd).classify

lemma cancel (hs : Wired s) : Wired s.cancel := by
  constructor
  · simpa using hs.list
  · simpa using hs.mutation
  · simpa using hs.tracked
  · simpa using hs.exclusive
  · simpa using hs.seated

lemma beginMutation (hs : Wired s) (hc : s.card = some c) (hm : s.mutationOp = none)
    (hq : q.isMutation = true) : Wired (s.beginMutation c q kind) := by
  have hlt : ∀ l, s.listOp = some l → l < s.client.minted := fun l hl => (hs.list l hl).1.minted
  constructor
  · intro i hi
    simp at hi
  · intro i hi
    obtain rfl : s.client.minted = i := by simpa using hi
    refine ⟨?_, by simpa using hq, by simpa using hc⟩
    rw [Controller.beginMutation_pending]
    exact ⟨.inr rfl, fun hl => absurd (hlt _ hl) (lt_irrefl _)⟩
  · intro i hi
    rw [Controller.beginMutation_pending] at hi
    rcases hi with ⟨hp | rfl, hne⟩
    · rcases hs.tracked i hp with h | h
      · exact absurd h hne
      · simp [hm] at h
    · exact .inr (by simp)
  · exact .inl (by simp)
  · simpa using hs.seated

lemma verb (hs : Wired s) (hq : q.isMutation = true) : Wired (s.verb q kind) := by
  rcases @s.verb_cases q kind with ⟨-, heq⟩ | ⟨c, hc, hm, heq⟩
  · rwa [heq]
  · rw [heq]
    exact hs.beginMutation hc hm hq

lemma relistAfterMutation (hs : Wired s) (hm : s.mutationOp = none) :
    Wired s.relistAfterMutation := by
  have hreset : Wired s.resetListState := hs.resetListState
  cases hc : s.card with
  | none =>
      have heq : s.relistAfterMutation =
          { s.resetListState with showingResult := true }.clearRows .noCard := by
        simp [Controller.relistAfterMutation, Controller.startListCredentials,
          Controller.resetListState, hc]
      rw [heq]
      have hshow : Wired { s.resetListState with showingResult := true } :=
        hreset.congr rfl rfl rfl rfl
      exact hshow.clearRows _
  | some c =>
      rw [Controller.relistAfterMutation_of_card hc hm]
      have hidle := hreset.idle rfl hm
      exact mintList ⟨rfl, hm, hidle.none_pending⟩ hc (by simpa using hs.seated c hc)

/-- The terminal of the list in flight leaves nothing in flight. -/
lemma idle_of_list (hs : Wired s) (hi : s.listOp = some i) (t : Terminal) :
    Idle { s with client := s.client.finish i t, listOp := none } where
  list := rfl
  mutation := hs.exclusive.resolve_left (by simp [hi])
  none_pending j hj := by
    rw [Client.pending_finish] at hj
    rcases hs.tracked j hj.1 with h | h
    · exact hj.2 (by simpa [hi, eq_comm] using h)
    · exact hs.list_ne_mutation hi h

/-- The terminal of the mutation in flight leaves nothing in flight. -/
lemma idle_of_mutation (hs : Wired s) (hi : s.mutationOp = some i) (t : Terminal) :
    Idle { s with client := s.client.finish i t }.releaseMutation where
  list := hs.exclusive.resolve_right (by simp [hi])
  mutation := rfl
  none_pending j hj := by
    simp only [Controller.releaseMutation, Client.pending_finish] at hj
    rcases hs.tracked j hj.1 with h | h
    · exact hs.list_ne_mutation h hi
    · exact hj.2 (by simpa [hi, eq_comm] using h)

/-- A terminal reaches the list in flight, the mutation in flight, or nothing. -/
lemma finished_cases (hs : Wired s) (ha : allows s (.finished i t)) :
    (s.listOp = some i ∧
      s.finished h i t = { s with client := s.client.finish i t }.onListFinished t) ∨
    (s.mutationOp = some i ∧
      s.finished h i t = { s with client := s.client.finish i t }.onMutationDone h t) ∨
    ((s.client.ops i).connected = false ∧ s.listOp ≠ some i ∧ s.mutationOp ≠ some i ∧
      s.finished h i t = { s with client := s.client.finish i t }) := by
  cases hcon : (s.client.ops i).connected with
  | true =>
      have hp : s.client.Pending i := ⟨ha.1, hcon, ha.2.1, ha.2.2⟩
      rcases hs.tracked i hp with hl | hm
      · exact .inl ⟨hl, by simp [Controller.finished, hcon, (hs.list i hl).2.1]⟩
      · have hreq : (s.client.ops i).request ≠ .listCredentials := fun hr => by
          simpa [hr, Request.isMutation] using (hs.mutation i hm).2.1
        exact .inr (.inl ⟨hm, by simp [Controller.finished, hcon, hreq]⟩)
  | false =>
      refine .inr (.inr ⟨rfl, fun hl => ?_, fun hm => ?_, by simp [Controller.finished, hcon]⟩)
      · simpa [hcon] using (hs.list i hl).1.connected
      · simpa [hcon] using (hs.mutation i hm).1.connected

lemma onListFinished (hs : Wired s) (hi : s.listOp = some i) :
    Wired ({ s with client := s.client.finish i t }.onListFinished t) := by
  have hidle := hs.idle_of_list hi t
  have hseated : ∀ c, s.card = some c → (s.client.finish i t).registry.live c = true :=
    hs.seated
  unfold Controller.onListFinished
  split <;> exact of_idle ⟨rfl, hidle.mutation, hidle.none_pending⟩ hseated

lemma onMutationDone (hs : Wired s) (hi : s.mutationOp = some i) :
    Wired ({ s with client := s.client.finish i t }.onMutationDone h t) := by
  have hidle := hs.idle_of_mutation hi t
  have hdone : Wired { s with client := s.client.finish i t }.releaseMutation :=
    of_idle hidle hs.seated
  rcases Controller.onMutationDone_cases (h := h) { s with client := s.client.finish i t } t with
    ⟨-, e, m, heq⟩ | ⟨-, e, m, n, heq⟩
  · rw [heq]
    have hshow : Wired ({ s with client := s.client.finish i t }.releaseMutation.showResult e m) :=
      hdone.congr rfl rfl rfl rfl
    exact hshow.relistAfterMutation rfl
  · rw [heq]
    exact hdone.congr rfl rfl rfl rfl

/-- The registry destroys the bound card together with everything in flight on it, or leaves
all of it in place. -/
lemma setRegistry_cases (hs : Wired s) (r : Registry) :
    ((∀ c, s.card = some c → r.live c = true) ∧ (s.setRegistry r).card = s.card ∧
      (s.setRegistry r).listOp = s.listOp ∧ (s.setRegistry r).mutationOp = s.mutationOp) ∨
    ∃ c, s.card = some c ∧ r.live c = false ∧ (s.setRegistry r).card = none ∧
      (s.setRegistry r).listOp = none ∧ (s.setRegistry r).mutationOp = none := by
  -- Both slots hold operations on the bound card, so one question decides for all three pointers.
  have hguard : ∀ p : Option ℕ,
      (∀ i, p = some i → s.client.Pending i ∧ s.card = some (s.client.ops i).card) →
      (s.client.setRegistry r).guardOp p = if s.card.all r.live then p else none := by
    intro p hp
    cases p with
    | none => simp [Client.guardOp]
    | some i =>
        obtain ⟨hpend, hcard⟩ := hp i rfl
        simp [Client.guardOp, hcard, hpend.alive, Option.filter]
  have hlist := hguard s.listOp fun i hi => ⟨(hs.list i hi).1, (hs.list i hi).2.2⟩
  have hmut := hguard s.mutationOp fun i hi => ⟨(hs.mutation i hi).1, (hs.mutation i hi).2.2⟩
  cases hc : s.card with
  | none =>
      refine .inl ⟨by simp, ?_, ?_, ?_⟩
      · simp [Controller.setRegistry, Client.guardCard, hc]
      · simpa [Controller.setRegistry, hc] using hlist
      · simpa [Controller.setRegistry, hc] using hmut
  | some c =>
      cases hlive : r.live c with
      | true =>
          refine .inl ⟨by simpa using hlive, ?_, ?_, ?_⟩
          · simp [Controller.setRegistry, Client.guardCard, hc, hlive]
          · simpa [Controller.setRegistry, hc, hlive] using hlist
          · simpa [Controller.setRegistry, hc, hlive] using hmut
      | false =>
          refine .inr ⟨c, rfl, hlive, ?_, ?_, ?_⟩
          · simp [Controller.setRegistry, Client.guardCard, hc, hlive]
          · simpa [Controller.setRegistry, hc, hlive] using hlist
          · simpa [Controller.setRegistry, hc, hlive] using hmut

lemma setRegistry (hs : Wired s) (r : Registry) : Wired (s.setRegistry r) := by
  have hpend : ∀ j, (s.setRegistry r).client.Pending j ↔
      s.client.Pending j ∧ r.live (s.client.ops j).card = true :=
    fun j => Client.pending_setRegistry
  rcases hs.setRegistry_cases r with ⟨hlive, hc, hl, hm⟩ | ⟨c, hcard, hdead, hc, hl, hm⟩
  · constructor
    · rw [hl, hc]
      intro i hi
      obtain ⟨hp, hq, hic⟩ := hs.list i hi
      exact ⟨(hpend i).2 ⟨hp, hlive _ hic⟩, hq, hic⟩
    · rw [hm, hc]
      intro i hi
      obtain ⟨hp, hq, hic⟩ := hs.mutation i hi
      exact ⟨(hpend i).2 ⟨hp, hlive _ hic⟩, hq, hic⟩
    · rw [hl, hm]
      exact fun i hi => hs.tracked i ((hpend i).1 hi).1
    · rw [hl, hm]
      exact hs.exclusive
    · rw [hc]
      exact hlive
  · refine of_idle ⟨hl, hm, fun i hi => ?_⟩ (by simp [hc])
    obtain ⟨hp, hlive⟩ := (hpend i).1 hi
    have hic : s.card = some (s.client.ops i).card := by
      rcases hs.tracked i hp with h | h
      · exact (hs.list i h).2.2
      · exact (hs.mutation i h).2.2
    obtain rfl : c = (s.client.ops i).card := by simpa [hcard] using hic
    simp [hdead] at hlive

/-- An event that runs `refresh` runs it on a wired state. -/
lemma of_refreshes (hs : Wired s) {e : Event} (hu : s.refreshes e = some u) : Wired u := by
  rcases Controller.refreshes_cases hu with ⟨hk, -, hc, -, hl, hm, -⟩ | ⟨id, -, -, -, rfl⟩
  · exact hs.congr hk hc hl hm
  · exact hs.detachMutation.resetListState.congr rfl rfl rfl rfl

end Wired

/-! ## One step, as one move -/

/-- The events after which nothing the invariants speak of has changed. -/
structure Quiet (s u : Controller) : Prop where
  client : u.client = s.client
  card : u.card = s.card
  listOp : u.listOp = s.listOp
  mutationOp : u.mutationOp = s.mutationOp
  model : u.model = s.model
  state : u.state = s.state
  intents : Controller.SameIntents s u

/-- The kind the result of a verb is attributed to, by the rows it was invoked over. -/
def presented (s : Controller) : Event → CredentialKind
  | .changePin id | .activate id => s.kindOf id
  | .activateSigningKey _ => .sign
  | .confirmUnblock _ => .puk
  | .registry _ | .refresh | .cardChanged _ | .finished _ _ | .bindReader _ | .cancel
  | .startAgent | .agentStartFinished _ | .requestUnblock _ => .unknown

/-- What a step of the controller is, entry point by entry point. -/
inductive Move (h : Host) (s : Controller) : Event → Controller → Prop
  /-- The event ran `refresh`. -/
  | refreshed {e u} (hu : s.refreshes e = some u) : Move h s e (u.refresh h)
  | registry (r : Registry) : Move h s (.registry r) (s.setRegistry r)
  /-- The bound card announced a change. -/
  | classified {c} (hc : s.card = some c) : Move h s (.cardChanged c) s.classify
  /-- The list in flight ended. -/
  | listed {i t} (hi : s.listOp = some i) :
      Move h s (.finished i t) ({ s with client := s.client.finish i t }.onListFinished t)
  /-- The mutation in flight ended. -/
  | mutated {i t} (hi : s.mutationOp = some i) :
      Move h s (.finished i t) ({ s with client := s.client.finish i t }.onMutationDone h t)
  /-- An operation nobody listens to any more ended. -/
  | unheard {i t} (hcon : (s.client.ops i).connected = false) (hrun : (s.client.ops i).ended = none)
      (hl : s.listOp ≠ some i) (hm : s.mutationOp ≠ some i) :
      Move h s (.finished i t) { s with client := s.client.finish i t }
  | cancelled : Move h s .cancel s.cancel
  /-- A verb went through. -/
  | verb {e c q kind} (he : ∀ i t, e ≠ .finished i t) (hc : s.card = some c)
      (hm : s.mutationOp = none) (hq : q.isMutation = true) (hk : kind = presented s e) :
      Move h s e (s.beginMutation c q kind)
  /-- Nothing of interest happened. -/
  | quiet {e u} (he : ∀ i t, e ≠ .finished i t) (hq : Quiet s u) : Move h s e u

lemma Quiet.refl (s : Controller) : Quiet s s := ⟨rfl, rfl, rfl, rfl, rfl, rfl, .refl s⟩

lemma Move.of_verb {h : Host} {s : Controller} {e : Event} {q : Request}
    {kind : CredentialKind} (he : ∀ i t, e ≠ .finished i t) (hq : q.isMutation = true)
    (hk : kind = presented s e) : Move h s e (s.verb q kind) := by
  rcases @s.verb_cases q kind with ⟨-, heq⟩ | ⟨c, hc, hm, heq⟩
  · rw [heq]
    exact .quiet he (.refl s)
  · rw [heq]
    exact .verb he hc hm hq hk

/-- **Every allowed step from a wired state is a move.** -/
theorem Wired.move {h : Host} {s : Controller} {e : Event} (hs : Wired s)
    (ha : allows s e) : Move h s e (step h s e) := by
  cases hu : s.refreshes e with
  | some u =>
      rw [Controller.step_of_refreshes hu]
      exact .refreshed hu
  | none =>
      cases e with
      | registry r => exact .registry r
      | refresh => simp [Controller.refreshes] at hu
      | cardChanged c =>
          simp only [step]
          split
          · next hc => exact .classified hc
          · exact .quiet (by simp) (.refl s)
      | finished i t =>
          -- The operation is the list, the verb, or one nobody listens to any more.
          rcases hs.finished_cases (h := h) ha with ⟨hi, heq⟩ | ⟨hi, heq⟩ | ⟨hcon, hl, hm, heq⟩
          · simp only [step, heq]
            exact .listed hi
          · simp only [step, heq]
            exact .mutated hi
          · simp only [step, heq]
            exact .unheard hcon ha.2.2 hl hm
      | bindReader id => simp [Controller.refreshes] at hu
      | cancel => exact .cancelled
      | startAgent =>
          have hq : ¬ (s.agentStarting = false ∧ s.hasClient = false) := by
            simpa [Controller.refreshes] using hu
          simp only [step, Controller.startAgent]
          split
          · exact .quiet (by simp) (.refl s)
          · split
            · next ha hc => exact absurd ⟨by simpa using ha, by simpa using hc⟩ hq
            · exact .quiet (by simp) ⟨rfl, rfl, rfl, rfl, rfl, rfl, ⟨rfl, rfl, rfl, rfl⟩⟩
      | agentStartFinished res =>
          have hq : s.agentStarting = false := by simpa [Controller.refreshes] using hu
          simp only [step, Controller.onAgentStartFinished, hq]
          exact .quiet (by simp) (.refl s)
      | changePin id => exact .of_verb (by simp) rfl rfl
      | activate id => exact .of_verb (by simp) rfl rfl
      | activateSigningKey id => exact .of_verb (by simp) rfl rfl
      | requestUnblock id =>
          simp only [step, Controller.requestUnblock]
          split
          · exact .quiet (by simp) ⟨rfl, rfl, rfl, rfl, rfl, rfl, ⟨rfl, rfl, rfl, rfl⟩⟩
          · exact .quiet (by simp) (.refl s)
      | confirmUnblock id => exact .of_verb (by simp) rfl rfl

namespace Wired

variable {h : Host} {s u : Controller} {i : ℕ} {t : Terminal}

/-- A terminal nobody listens to changes nothing that is pending. -/
lemma pending_unheard (hs : Wired s) (hl : s.listOp ≠ some i) (hm : s.mutationOp ≠ some i)
    (j : ℕ) : (s.client.finish i t).Pending j ↔ s.client.Pending j := by
  rw [Client.pending_finish]
  refine ⟨fun hj => hj.1, fun hj => ⟨hj, ?_⟩⟩
  rintro rfl
  exact (hs.tracked j hj).elim hl hm

/-- Every move keeps the wiring. -/
lemma of_move {e : Event} (hs : Wired s) (hmove : Move h s e u) : Wired u := by
  cases hmove with
  | refreshed hu => exact (hs.of_refreshes hu).refresh
  | registry r => exact hs.setRegistry r
  | classified hc => exact hs.classify
  | listed hi => exact hs.onListFinished hi
  | mutated hi => exact hs.onMutationDone hi
  | @unheard i t hcon hrun hl hm =>
      have hpend := hs.pending_unheard (t := t) hl hm
      constructor
      · simpa [hpend] using hs.list
      · simpa [hpend] using hs.mutation
      · simpa [hpend] using hs.tracked
      · exact hs.exclusive
      · exact hs.seated
  | cancelled => exact hs.cancel
  | verb _ hc hm hq _ => exact hs.beginMutation hc hm hq
  | quiet _ hq => exact hs.congr hq.client hq.card hq.listOp hq.mutationOp

end Wired

/-! ## What a move leaves of the table of operations -/

section Table

variable {h : Host} {s u : Controller} {e : Event} {j : ℕ}

/-- An event that is no terminal leaves what was asked and how it ended. -/
lemma Move.extends (hmove : Move h s e u) (he : ∀ i t, e ≠ .finished i t) :
    Controller.Extends s u := by
  cases hmove with
  | refreshed hu => exact (Controller.Extends.of_refreshes hu).trans .refresh
  | registry r => exact .of_same rfl (fun _ => rfl) (fun _ => rfl) (fun _ => rfl)
  | classified hc => exact .classify
  | @listed i t hi => exact absurd rfl (he i t)
  | @mutated i t hi => exact absurd rfl (he i t)
  | @unheard i t => exact absurd rfl (he i t)
  | cancelled => exact .cancel
  | verb _ hc hm hq _ => exact .beginMutation
  | quiet _ hq => exact .of_eq hq.client

/-- A terminal leaves what was asked, and everything else as it had ended. -/
lemma Move.extends_finish {t : Terminal} (hmove : Move h s (.finished i t) u) :
    Controller.Extends { s with client := s.client.finish i t } u := by
  cases hmove with
  | refreshed hu => simp [Controller.refreshes] at hu
  | listed hi =>
      refine .of_eq ?_
      unfold Controller.onListFinished
      split <;> rfl
  | mutated hi => exact .onMutationDone
  | unheard hcon hrun hl hm => exact .of_eq rfl
  | verb he _ _ _ _ => exact absurd rfl (he i t)
  | quiet he _ => exact absurd rfl (he i t)

/-- No step forgets an operation or changes what was asked. -/
lemma Move.request (hmove : Move h s e u) (hlt : j < s.client.minted) :
    j < u.client.minted ∧ (u.client.ops j).request = (s.client.ops j).request := by
  by_cases he : ∀ i t, e ≠ .finished i t
  · have hext := hmove.extends he
    exact ⟨hlt.trans_le hext.minted, hext.request j hlt⟩
  · push Not at he
    obtain ⟨i, t, rfl⟩ := he
    have hext := hmove.extends_finish
    exact ⟨hlt.trans_le hext.minted, (hext.request j hlt).trans (by simp)⟩

lemma Move.minted_le (hmove : Move h s e u) : s.client.minted ≤ u.client.minted := by
  by_contra hlt
  have hlast := (hmove.request (j := u.client.minted) (by omega)).1
  exact lt_irrefl _ hlast

/-- A terminal does not move the binding. -/
lemma Move.card_finished {i : ℕ} {t : Terminal} (hmove : Move h s (.finished i t) u) :
    u.card = s.card := by
  cases hmove with
  | refreshed hu => simp [Controller.refreshes] at hu
  | listed hi =>
      unfold Controller.onListFinished
      split <;> rfl
  | mutated hi =>
      rcases Controller.onMutationDone_cases (h := h)
        { s with client := s.client.finish i t } t with
        ⟨-, isError, message, heq⟩ | ⟨-, isError, message, notice, heq⟩
      · rw [heq]
        exact Controller.relistAfterMutation_card
      · rw [heq]
        rfl
  | unheard hcon hrun hl hm => rfl
  | verb he _ _ _ _ => exact absurd rfl (he i t)
  | quiet he _ => exact absurd rfl (he i t)

end Table

/-! ## The invariant -/

/-- A new controller listens to nothing. -/
lemma Start.wired {s : Controller} (hs : Start s) : Wired s :=
  .of_idle
    ⟨hs.listOp, hs.mutationOp, fun i hi => by simpa [hs.minted] using hi.minted⟩
    fun c hc => by simp [hs.card] at hc

/-- **The wiring invariant** of the controller. -/
theorem wired_invariant (h : Host) : (machine h).Invariant Wired where
  start _ hs := hs.wired
  kept _ _ hs ha := hs.of_move (hs.move ha)

end LibreKDE.Credentials
