import LibreKDE.Credentials.Wiring

/-!
# The transient states and the operations they stand for

`Working` is a modal scrim whose only way out is its Cancel, and `Loading` a spinner.  Both
are honest exactly when the operation they stand for is live: a scrim without a mutation
could never be left, and a mutation without the scrim could never be cancelled.

`state` is a variable of its own, written at a dozen sites, while the operations are
pointers cleared at others.  The agreement survives every one of those sites but one:
`classify`, reached from `AgentCard::changed` and so past the guard in `refresh`, moves to
`NotManageable` although a verb is running on the card that lost its capability.
`transient_states_match` says that this is the only way to lose it.

The client is assumed to deliver an operation's terminal before it destroys the card the
operation runs on (`Swept`), as its removal sweep does.
-/

namespace LibreKDE.Credentials

open Reactive

/-- The client ends every operation still listened to before it destroys its card. -/
def Swept (s : Controller) : Event → Prop
  | .registry r =>
      ∀ i < s.client.minted, s.client.Pending i → r.live (s.client.ops i).card = true
  | _ => True

instance (s : Controller) : (e : Event) → Decidable (Swept s e)
  | .registry r => inferInstanceAs (Decidable
      (∀ i < s.client.minted, s.client.Pending i → r.live (s.client.ops i).card = true))
  | .finished .. | .refresh | .cardChanged _ | .bindReader _ | .cancel | .startAgent
  | .agentStartFinished _ | .changePin _ | .activate _ | .activateSigningKey _
  | .requestUnblock _ | .confirmUnblock _ => isTrue trivial

/-- The controller over a client that sweeps a card's operations before destroying it. -/
def sweptMachine (h : Host) : Machine Controller Event := (machine h).restrict Swept

instance (h : Host) (s : Controller) (e : Event) : Decidable ((sweptMachine h).allows s e) :=
  inferInstanceAs (Decidable (allows s e ∧ Swept s e))

/-- The window shows a transient state exactly while its operation is live. -/
structure TransientAgrees (s : Controller) : Prop where
  working : s.state = .working ↔
    ∃ i, s.client.Pending i ∧ (s.client.ops i).request.isMutation = true
  loading : s.state = .loading →
    ∃ i, s.client.Pending i ∧ (s.client.ops i).request = .listCredentials

/-- The bound card does not announce the loss of PIN management under a running verb. -/
def ManageableUnderVerb (s : Controller) : Event → Prop
  | .cardChanged c => s.card = some c → s.mutationOp ≠ none → s.manageable = true
  | _ => True

/-! ## The agreement, in terms of the pointers -/

/-- `TransientAgrees`, read off the controller's own pointers instead of the table of operations. -/
structure Agrees (s : Controller) : Prop where
  working : s.state = .working ↔ s.mutationOp ≠ none
  loading : s.state = .loading → s.listOp ≠ none

section Pointers

variable {h : Host} {s u : Controller}

lemma Wired.mutation_live_iff (hs : Wired s) :
    (∃ i, s.client.Pending i ∧ (s.client.ops i).request.isMutation = true) ↔
      s.mutationOp ≠ none := by
  constructor
  · rintro ⟨i, hp, hq⟩ hm
    rcases hs.tracked i hp with hl | h
    · simp [(hs.list i hl).2.1, Request.isMutation] at hq
    · simp [hm] at h
  · intro hm
    obtain ⟨i, hi⟩ := Option.ne_none_iff_exists'.1 hm
    exact ⟨i, (hs.mutation i hi).1, (hs.mutation i hi).2.1⟩

lemma Wired.list_live_iff (hs : Wired s) :
    (∃ i, s.client.Pending i ∧ (s.client.ops i).request = .listCredentials) ↔
      s.listOp ≠ none := by
  constructor
  · rintro ⟨i, hp, hq⟩ hl
    rcases hs.tracked i hp with h | hm
    · simp [hl] at h
    · simpa [hq, Request.isMutation] using (hs.mutation i hm).2.1
  · intro hl
    obtain ⟨i, hi⟩ := Option.ne_none_iff_exists'.1 hl
    exact ⟨i, (hs.list i hi).1, (hs.list i hi).2.1⟩

lemma Wired.transientAgrees_iff (hs : Wired s) : TransientAgrees s ↔ Agrees s :=
  ⟨fun h => ⟨h.working.trans hs.mutation_live_iff, fun hl => hs.list_live_iff.1 (h.loading hl)⟩,
    fun h => ⟨h.working.trans hs.mutation_live_iff.symm,
      fun hl => hs.list_live_iff.2 (h.loading hl)⟩⟩

end Pointers

/-! ## Classification settles the state -/

/-- Nothing is known of the bound card's listing: the state right after a re-bind. -/
structure Fresh (s : Controller) : Prop where
  listOp : s.listOp = none
  listSettled : s.listSettled = false
  showingResult : s.showingResult = false

/-- No verb runs, and a transient state left over from before is about to be replaced. -/
structure Settling (s : Controller) : Prop where
  mutation : s.mutationOp = none
  working : s.state = .working → Fresh s
  loading : s.state = .loading → s.listOp ≠ none ∨ Fresh s

namespace Settling

variable {h : Host} {s u : Controller}

lemma of_agrees (ha : Agrees s) (hm : s.mutationOp = none) : Settling s where
  mutation := hm
  working hw := absurd hm (ha.working.1 hw)
  loading hl := .inl (ha.loading hl)

lemma of_fresh (hf : Fresh s) (hm : s.mutationOp = none) : Settling s where
  mutation := hm
  working _ := hf
  loading _ := .inr hf

lemma clearRows (hs : Settling s) {st : State} (hw : st ≠ .working) (hl : st ≠ .loading) :
    Agrees (s.clearRows st) where
  working := ⟨fun h => absurd h hw, fun h => absurd hs.mutation h⟩
  loading h := absurd h hl

lemma classify (hs : Settling s) : Agrees s.classify := by
  rcases s.classify_cases with ⟨-, heq⟩ | ⟨-, -, heq⟩ | ⟨-, hbusy, heq⟩ |
    ⟨c, -, -, hm, hl, hset, heq⟩
  · rw [heq]
    exact hs.clearRows (by decide) (by decide)
  · rw [heq]
    exact hs.clearRows (by decide) (by decide)
  · -- Busy listing or settled, so the listing is not fresh and no state is left over.
    have hfresh : ¬ Fresh s := by
      rintro ⟨hl, hset, -⟩
      rcases hbusy with h | h | h
      · exact h hs.mutation
      · exact h hl
      · simp [hset] at h
    rw [heq]
    exact ⟨⟨fun hw => absurd (hs.working hw) hfresh, fun hn => absurd hs.mutation hn⟩,
      fun hl => (hs.loading hl).resolve_right hfresh⟩
  · rw [heq]
    refine ⟨⟨fun hw => ?_, fun hn => absurd hm hn⟩, fun _ => by simp [Controller.mintList]⟩
    by_cases hshow : s.showingResult = true
    · have hst : s.state = .working := by simpa [Controller.mintList, hshow] using hw
      simp [(hs.working hst).showingResult] at hshow
    · simp [Controller.mintList, hshow] at hw

lemma bindCard (hs : Settling s) (c : Option CardRef) : Settling (s.bindCard c) := by
  rcases s.bindCard_cases c with ⟨-, -, heq⟩ | ⟨-, heq⟩
  · rwa [heq]
  · rw [heq]
    exact of_fresh ⟨rfl, rfl, rfl⟩ rfl

lemma unbind (s : Controller) {st : State} (hw : st ≠ .working) (hl : st ≠ .loading) :
    Agrees (s.unbind st) := by
  simp only [Controller.unbind, Controller.bindCard_none]
  exact ⟨⟨fun h => absurd h hw, fun h => absurd rfl h⟩, fun h => absurd h hl⟩

lemma refresh (hpin : u.mutationOp ≠ none → Agrees u)
    (hs : u.mutationOp = none → Settling u) : Agrees (u.refresh h) := by
  rcases u.refresh_cases (h := h) with ⟨-, heq⟩ | ⟨-, hm, heq⟩ | ⟨-, -, -, heq⟩ |
    ⟨x, -, hm, -, heq⟩
  · rw [heq]
    exact unbind u (by decide) (by decide)
  · rw [heq]
    exact hpin hm
  · rw [heq]
    exact unbind u (by decide) (by decide)
  · rw [heq]
    have hu := hs hm
    have hshow : Settling (u.showReader h x) := by
      refine ⟨hm, fun hw => ?_, fun hl => (hu.loading hl).imp_right fun hf => ?_⟩
      · exact ⟨(hu.working hw).1, (hu.working hw).2, (hu.working hw).3⟩
      · exact ⟨hf.1, hf.2, hf.3⟩
    exact (hshow.bindCard x.card).classify

/-- Whatever runs `refresh` runs it on a state it settles. -/
lemma of_refreshes {e : Event} (ha : Agrees s) (hu : s.refreshes e = some u) :
    Agrees (u.refresh h) := by
  rcases Controller.refreshes_cases hu with ⟨-, -, -, -, hl, hm, hst, -⟩ | ⟨id, -, -, -, rfl⟩
  · have hagrees : Agrees u := by
      refine ⟨?_, ?_⟩
      · rw [hst, hm]
        exact ha.working
      · rw [hst, hl]
        exact ha.loading
    exact refresh (fun _ => hagrees) (of_agrees hagrees)
  · -- The verb is abandoned: the state is stale, and the listing fresh.
    exact refresh (fun hm => absurd rfl hm) fun hm => of_fresh ⟨rfl, rfl, rfl⟩ hm

end Settling

/-! ## Every step but one keeps the agreement -/

section Steps

variable {h : Host} {s u : Controller} {e : Event}

lemma Agrees.of_done {v : Controller} {c : CardRef} (hc : v.card = some c)
    (hm : v.mutationOp = none) (hst : v.state = .result) : Agrees v.relistAfterMutation := by
  rw [Controller.relistAfterMutation_of_card hc hm]
  have hres : ({ v.resetListState with showingResult := true }.mintList c).state = .result := by
    simpa [Controller.mintList, Controller.resetListState] using hst
  refine ⟨?_, fun hl => ?_⟩
  · rw [hres]
    exact ⟨fun h => (by cases h), fun hn => absurd hm hn⟩
  · rw [hres] at hl
    cases hl

/-- Over a client that sweeps, nothing is in flight on a card that goes: both pointers stay. -/
lemma setRegistry_ops_of_swept (hw : Wired s) {r : Registry} (hswept : Swept s (.registry r)) :
    (s.setRegistry r).listOp = s.listOp ∧ (s.setRegistry r).mutationOp = s.mutationOp := by
  rcases hw.setRegistry_cases r with ⟨-, -, hl, hm⟩ | ⟨c, hcard, hdead, -, hl, hm⟩
  · exact ⟨hl, hm⟩
  · have hno : ∀ i, s.card = some (s.client.ops i).card → ¬ s.client.Pending i := by
      intro i hic hp
      obtain rfl : c = (s.client.ops i).card := by simpa [hcard] using hic
      simpa [hdead] using hswept i hp.minted hp
    rw [hl, hm]
    constructor
    · cases hop : s.listOp with
      | none => rfl
      | some i => exact absurd (hw.list i hop).1 (hno i (hw.list i hop).2.2)
    · cases hop : s.mutationOp with
      | none => rfl
      | some i => exact absurd (hw.mutation i hop).1 (hno i (hw.mutation i hop).2.2)

lemma Agrees.of_move (ha : Agrees s) (hw : Wired s) (hswept : Swept s e)
    (hok : ManageableUnderVerb s e) (hmove : Move h s e u) : Agrees u := by
  cases hmove with
  | refreshed hu => exact Settling.of_refreshes ha hu
  -- The client ends a card's operations before it drops the card, so no slot is emptied here.
  | registry r =>
      obtain ⟨hl, hm⟩ := setRegistry_ops_of_swept hw hswept
      refine ⟨?_, ?_⟩
      · rw [hm]
        exact ha.working
      · rw [hl]
        exact ha.loading
  | @classified c hc =>
      by_cases hm : s.mutationOp = none
      · exact (Settling.of_agrees ha hm).classify
      -- Under a verb the card must still be manageable, or `classify` leaves the busy state.
      · have hman := hok hc hm
        rcases s.classify_cases with ⟨hn, -⟩ | ⟨-, hf, -⟩ | ⟨-, -, heq⟩ | ⟨c, -, -, hn, -⟩
        · simp [hc] at hn
        · simp [hman] at hf
        · rwa [heq]
        · exact absurd hn hm
  | @listed i t hi =>
      have hm : s.mutationOp = none := hw.exclusive.resolve_left (by simp [hi])
      unfold Controller.onListFinished
      split
      · refine ⟨⟨fun h => ?_, fun hn => absurd hm hn⟩, fun h => ?_⟩ <;>
          · dsimp only at h
            split at h <;> cases h
      · exact ⟨⟨fun h => (by cases h), fun hn => absurd hm hn⟩, fun h => (by cases h)⟩
  | @mutated i t hi =>
      obtain ⟨c, hc⟩ : ∃ c, s.card = some c := ⟨_, (hw.mutation i hi).2.2⟩
      rcases Controller.onMutationDone_cases (h := h)
        { s with client := s.client.finish i t } t with
        ⟨-, isError, message, heq⟩ | ⟨-, isError, message, notice, heq⟩
      · rw [heq]
        exact Agrees.of_done (c := c) hc rfl rfl
      · rw [heq]
        exact ⟨⟨fun h => (by cases h), fun hn => absurd rfl hn⟩, fun h => (by cases h)⟩
  | unheard hcon hrun hl hm => exact ⟨ha.working, ha.loading⟩
  | cancelled => exact ⟨by simpa using ha.working, by simpa using ha.loading⟩
  | verb _ hc hm hq _ => exact ⟨by simp, by simp⟩
  | quiet _ hq =>
      refine ⟨?_, ?_⟩
      · rw [hq.state, hq.mutationOp]
        exact ha.working
      · rw [hq.state, hq.listOp]
        exact ha.loading

/-- The one step that does not: `NotManageable` over a running verb. -/
lemma not_agrees_of_classify (hok : ¬ ManageableUnderVerb s e) :
    ¬ Agrees (step h s e) := by
  cases e with
  | cardChanged c =>
      simp only [ManageableUnderVerb, not_forall] at hok
      obtain ⟨hc, hm, hman⟩ := hok
      have heq : step h s (.cardChanged c) = s.clearRows .notManageable := by
        simp [step, hc, Controller.classify, hman]
      rw [heq]
      intro hagree
      have hwork := hagree.working.2 hm
      simp [Controller.clearRows] at hwork
  | _ => exact absurd trivial hok

end Steps

lemma Start.agrees {s : Controller} (hs : Start s) : Agrees s :=
  ⟨by simp [hs.state, hs.mutationOp], by simp [hs.state]⟩

/-- **The transient states match the live operations.**  Along every run of a controller over
a sweeping client, `Working` is shown exactly while a mutation is live and `Loading` only
while a list is, if and only if the bound card never announces the loss of PIN management
while a verb runs on it. -/
theorem transient_states_match (h : Host) {s : Controller} {es : List Event} (hs : Start s)
    (ha : (sweptMachine h).Admits s es) :
    (sweptMachine h).Always TransientAgrees s es ↔
      (sweptMachine h).EachStep ManageableUnderVerb s es := by
  refine Machine.always_iff_eachStep (J := fun s => Wired s ∧ Agrees s)
    (fun s e hJ hal hok => ?_) (fun s hJ => hJ.1.transientAgrees_iff.2 hJ.2)
    (fun s e hJ hal hok hsafe => ?_) ⟨hs.wired, hs.agrees⟩ ha
  · have hmove := hJ.1.move (h := h) hal.1
    exact ⟨hJ.1.of_move hmove, hJ.2.of_move hJ.1 hal.2 hok hmove⟩
  · have hwired := hJ.1.of_move (hJ.1.move (h := h) hal.1)
    exact not_agrees_of_classify hok (hwired.transientAgrees_iff.1 hsafe)

/-- A PIN change on a card that stays manageable: the scrim comes and goes. -/
def keptCapability : List Event :=
  [.registry (.desk (qs "r") 1 (.eid true)), .refresh,
    .finished 0 { credentialsResult := [{ id := qs "pin" }] }, .changePin (qs "pin"),
    .cardChanged 1, .finished 1 {}]

/-- A PIN change on a card that announces the loss of PIN management meanwhile. -/
def lostCapability : List Event :=
  [.registry (.desk (qs "r") 1 (.eid true)), .refresh,
    .finished 0 { credentialsResult := [{ id := qs "pin" }] }, .changePin (qs "pin"),
    .registry (.desk (qs "r") 1 (.eid false)), .cardChanged 1]

theorem transient_states_match_kept :
    (sweptMachine .plain).Always TransientAgrees .new keptCapability ↔
      (sweptMachine .plain).EachStep ManageableUnderVerb .new keptCapability :=
  transient_states_match .plain start_new (by decide)

theorem transient_states_differ :
    ∃ s es, Start s ∧ (sweptMachine .plain).Admits s es ∧
      ¬ (sweptMachine .plain).Always TransientAgrees s es := by
  refine ⟨.new, lostCapability, start_new, by decide, fun h => ?_⟩
  have hstate := h.last.working.2 ⟨1, by decide, by decide⟩
  revert hstate
  decide

end LibreKDE.Credentials
