import LibreKDE.Credentials.Scrim
import Mathlib.Data.List.Count

/-!
# The mutation in flight is unique and pinned

A PIN change in flight raises a secure prompt and writes to the card; a controller that
re-targeted under it would silently abort the holder's own operation.  Three guards share
the duty of preventing that: `refresh` does not re-resolve while a mutation runs,
`startListCredentials` lists nothing under one, and `canStartMutation` mints no second one.
Only two events get past them on purpose, and `Abandons` names them: an explicit re-bind to
a reader other than the one being managed, and a refresh that finds the agent gone.

`mutation_pinned` is the joint result, about every run from every reachable state with a
live mutation: nothing else detaches it, only `cancel` and the abandoning events cancel it,
a run without either and without its terminal leaves it live on its card with nothing minted
beside it, and `onMutationDone` processes its terminal exactly once unless it was detached.

"Processed" is what an observer of the run writes down (`logDone`); the controller itself
keeps no such log.
-/

namespace LibreKDE.Credentials

open Reactive

/-! ## Live mutations and the events that abandon them -/

/-- A mutation whose terminal the controller still waits for. -/
structure MutationLive (s : Controller) (i : ℕ) : Prop where
  pending : s.client.Pending i
  isMutation : (s.client.ops i).request.isMutation = true

/-- The user binds another reader than the one being managed, or a refresh finds the agent
unavailable. -/
def Abandons (s : Controller) (e : Event) : Prop :=
  (∃ id, e = .bindReader id ∧ id ≠ s.resolvedReaderId) ∨
    ((s.refreshes e).isSome ∧ s.available = false)

/-- The observer's log of the terminals `onMutationDone` has processed. -/
def logDone (done : List ℕ) (s : Controller) : Event → List ℕ
  | .finished i _ =>
      if (s.client.ops i).connected ∧ (s.client.ops i).request ≠ .listCredentials then
        done ++ [i]
      else done
  | _ => done

/-- The controller over a sweeping client, with the log of its processed terminals. -/
def loggedMachine (h : Host) : Machine (Controller × List ℕ) Event :=
  (sweptMachine h).watch [] logDone

instance (h : Host) (x : Controller × List ℕ) (e : Event) :
    Decidable ((loggedMachine h).allows x e) :=
  inferInstanceAs (Decidable (allows x.1 e ∧ Swept x.1 e))

section Live

variable {h : Host} {s u : Controller} {e : Event} {i j : ℕ}

lemma Wired.mutationOp_of_live (hs : Wired s) (hi : MutationLive s i) :
    s.mutationOp = some i := by
  apply (hs.tracked i hi.pending).resolve_left
  intro hl
  simpa [(hs.list i hl).2.1, Request.isMutation] using hi.isMutation

lemma Wired.listOp_of_live (hs : Wired s) (hi : MutationLive s i) : s.listOp = none :=
  hs.exclusive.resolve_right (by simp [hs.mutationOp_of_live hi])

/-- A mutation is never the list in flight. -/
lemma Wired.listOp_ne (hs : Wired s) (hq : (s.client.ops i).request.isMutation = true) :
    s.listOp ≠ some i := fun hl => by
  simp [(hs.list i hl).2.1, Request.isMutation] at hq

/-- With the agent available, the mutation in flight pins the binding. -/
lemma refresh_of_live (hi : s.mutationOp ≠ none) (hu : s.refreshes e = some u)
    (hab : ¬ Abandons s e) :
    (u.refresh h).client = s.client ∧ (u.refresh h).card = s.card ∧
      (u.refresh h).listOp = s.listOp ∧ (u.refresh h).mutationOp = s.mutationOp := by
  have hav : s.available = true := by
    by_contra hna
    exact hab (.inr ⟨by simp [hu], by simpa using hna⟩)
  obtain ⟨hk, hh, hc, -, hl, hm, -⟩ := (Controller.refreshes_cases hu).resolve_right
    fun ⟨id, he, _, hne, _⟩ => hab (.inl ⟨id, he, hne⟩)
  have hav' : u.available = true := by simpa [Controller.available, hk, hh] using hav
  have heq : u.refresh h = u := by
    simp [Controller.refresh, hav', hm, hi]
  rw [heq]
  exact ⟨hk, hc, hl, hm⟩

end Live

/-! ## One step under a live mutation -/

section Step

variable {h : Host} {s u : Controller} {e : Event} {i : ℕ}

/-- Nothing is minted beside a live mutation that is a mutation itself. -/
lemma MutationLive.mintsLists (hs : Wired s) (hi : MutationLive s i) (hmove : Move h s e u) :
    Controller.MintsLists s u := by
  have hm := hs.mutationOp_of_live hi
  cases hmove with
  | refreshed hu =>
      intro j hj hlt
      exact Controller.mintsLists_refresh j (by rwa [Controller.refreshes_minted hu]) hlt
  | registry r => exact .of_minted rfl
  | classified hc => exact Controller.mintsLists_classify
  | listed hj => simp [hs.listOp_of_live hi] at hj
  | @mutated j t hj =>
      exact fun k hk hlt => Controller.mintsLists_onMutationDone (h := h) (t := t)
        (s := { s with client := s.client.finish j t }) k hk hlt
  | unheard hcon hrun hl hm => exact .of_minted rfl
  | cancelled => exact .of_minted (by simp)
  | verb _ hc hn hq _ => simp [hm] at hn
  | quiet _ hq => exact .of_minted (by rw [hq.client])

/-- A live mutation that is neither abandoned nor over stays live, on its card, with nothing
minted beside it. -/
lemma MutationLive.stays (hs : Wired s) (hi : MutationLive s i) (hswept : Swept s e)
    (hab : ¬ Abandons s e) (hend : ∀ t, e ≠ .finished i t) (hmove : Move h s e u) :
    MutationLive u i ∧ u.card = s.card ∧ u.client.minted = s.client.minted := by
  have hm := hs.mutationOp_of_live hi
  have hl := hs.listOp_of_live hi
  cases hmove with
  | refreshed hu =>
      obtain ⟨hk, hc, -, -⟩ := refresh_of_live (h := h) (by simp [hm]) hu hab
      exact ⟨⟨by rw [hk]; exact hi.pending, by rw [hk]; exact hi.isMutation⟩, hc, by rw [hk]⟩
  | registry r =>
      have hlive := hswept i hi.pending.minted hi.pending
      refine ⟨⟨Client.pending_setRegistry.2 ⟨hi.pending, hlive⟩, hi.isMutation⟩, ?_, rfl⟩
      rcases hs.setRegistry_cases r with ⟨-, hc, -, -⟩ | ⟨c, hcard, hdead, -, -, -⟩
      · exact hc
      · obtain rfl : c = (s.client.ops i).card := by simpa [hcard] using (hs.mutation i hm).2.2
        simp [hdead] at hlive
  -- A card that lost PIN management loses its rows here; the verb on it runs on.
  | classified hc =>
      rcases s.classify_cases with ⟨hn, -⟩ | ⟨-, -, heq⟩ | ⟨-, -, heq⟩ | ⟨c, -, -, hn, -⟩
      · simp [hc] at hn
      · rw [heq]
        have hk : (s.clearRows .notManageable).client = s.client := by
          simp [Controller.clearRows, Controller.resetListState, hl]
        exact ⟨⟨by rw [hk]; exact hi.pending, by rw [hk]; exact hi.isMutation⟩, rfl, by rw [hk]⟩
      · rw [heq]
        exact ⟨hi, rfl, rfl⟩
      · simp [hm] at hn
  | listed hj => simp [hl] at hj
  | @mutated j t hj =>
      obtain rfl : j = i := by simpa [hm, eq_comm] using hj
      exact absurd rfl (hend t)
  -- The operation that ended is not the verb: the verb is in its slot, and this one in none.
  | @unheard j t hcon hrun hnl hnm =>
      have hne : i ≠ j := by
        rintro rfl
        exact hnm hm
      exact ⟨⟨Client.pending_finish.2 ⟨hi.pending, hne⟩, by simpa using hi.isMutation⟩, rfl, rfl⟩
  | cancelled =>
      exact ⟨⟨by simpa using hi.pending, by simpa using hi.isMutation⟩, by simp, by simp⟩
  | verb _ hc hn hq _ => simp [hm] at hn
  | quiet _ hq =>
      exact ⟨⟨by rw [hq.client]; exact hi.pending, by rw [hq.client]; exact hi.isMutation⟩,
        hq.card, by rw [hq.client]⟩

end Step

/-! ## Who may cancel or detach a mutation -/

section Cancel

variable {h : Host} {s u : Controller} {e : Event} {i : ℕ}

/-- What the controller may do to an operation it no longer or not yet works with. -/
structure SameWire (o o' : Operation) : Prop where
  connected : o'.connected = o.connected
  cancelled : o'.cancelled = o.cancelled

lemma SameWire.of_eq {o o' : Operation} (heq : o' = o) : SameWire o o' := by
  subst heq
  exact ⟨rfl, rfl⟩

/-- A mutation is detached or cancelled by nothing but `cancel` and the abandoning events. -/
lemma Move.sameWire (hs : Wired s) (hmove : Move h s e u) (hlt : i < s.client.minted)
    (hq : (s.client.ops i).request.isMutation = true)
    (hcancel : e ≠ .cancel) (hab : ¬ Abandons s e) :
    SameWire (s.client.ops i) (u.client.ops i) := by
  have hl := hs.listOp_ne hq
  cases hmove with
  | @refreshed _ v hu =>
      by_cases hm : s.mutationOp = none
      · -- Nothing is pinned, and nothing in flight is this mutation.
        obtain ⟨hk, -, -, -, hvl, hvm, -⟩ := (Controller.refreshes_cases hu).resolve_right
          fun ⟨_, _, hn, _⟩ => hn hm
        refine .of_eq ((Controller.refresh_ops (h := h) ?_ ?_ ?_).trans (by rw [hk]))
        · rwa [hk]
        · rwa [hvl]
        · simp [hvm, hm]
      · obtain ⟨hk, -, -, -⟩ := refresh_of_live (h := h) hm hu hab
        exact .of_eq (by rw [hk])
  | registry r => exact ⟨rfl, rfl⟩
  | classified hc => exact .of_eq (Controller.classify_ops hlt hl)
  -- The list ends; the mutation keeps its slots and its end.
  | @listed j t hj =>
      have hk : ({ s with client := s.client.finish j t }.onListFinished t).client =
          s.client.finish j t := by
        unfold Controller.onListFinished
        split <;> rfl
      rw [hk]
      exact ⟨by simp, by simp⟩
  | @mutated j t hj =>
      have heq := Controller.onMutationDone_ops (h := h) (t := t) (j := i)
        (s := { s with client := s.client.finish j t }) hlt hl
      rw [heq]
      exact ⟨by simp, by simp⟩
  | unheard hcon hrun hnl hnm => exact ⟨by simp, by simp⟩
  | cancelled => exact absurd rfl hcancel
  | verb _ hc hn hreq _ => exact .of_eq (Controller.beginMutation_ops hlt hl)
  | quiet _ hquiet => exact .of_eq (by rw [hquiet.client])

/-- A mutation stays connected through everything that does not abandon it. -/
lemma Move.connected (hs : Wired s) (hmove : Move h s e u) (hlt : i < s.client.minted)
    (hq : (s.client.ops i).request.isMutation = true) (hab : ¬ Abandons s e) :
    (u.client.ops i).connected = (s.client.ops i).connected := by
  by_cases hcancel : e = .cancel
  · subst hcancel
    cases hmove with
    | refreshed hu => simp [Controller.refreshes] at hu
    | cancelled => exact Controller.cancel_connected
    | verb _ hc hn hreq _ => rw [Controller.beginMutation_ops hlt (hs.listOp_ne hq)]
    | quiet _ hquiet => rw [hquiet.client]
  · exact (hmove.sameWire hs hlt hq hcancel hab).connected

end Cancel

/-! ## The log of processed terminals -/

section Log

variable {h : Host} {s u : Controller} {e : Event} {i j : ℕ} {done : List ℕ}

/-- The controller listened to the mutation until it ended. -/
def Processed (s : Controller) (j : ℕ) : Prop :=
  j < s.client.minted ∧ (s.client.ops j).request.isMutation = true ∧
    (s.client.ops j).connected = true ∧ (s.client.ops j).ended ≠ none

instance : Decidable (Processed s j) := inferInstanceAs (Decidable (_ ∧ _ ∧ _ ∧ _))

/-- The log holds exactly the mutations listened to until they ended, once each. -/
def Ledger (s : Controller) (done : List ℕ) : Prop :=
  ∀ j, done.count j = if Processed s j then 1 else 0

/-- On the way to a refresh, an operation that is not in flight is left alone. -/
lemma Controller.refreshes_ops (hu : s.refreshes e = some u) (hl : s.listOp ≠ some j)
    (hm : s.mutationOp ≠ some j) :
    u.client.ops j = s.client.ops j ∧ u.listOp ≠ some j ∧ u.mutationOp ≠ some j := by
  rcases Controller.refreshes_cases hu with ⟨hk, -, -, -, hvl, hvm, -⟩ | ⟨id, -, -, -, rfl⟩
  · exact ⟨by rw [hk], by rwa [hvl], by rwa [hvm]⟩
  · refine ⟨?_, nofun, nofun⟩
    exact (Controller.resetListState_ops (s := s.detachMutation) hl).trans
      (Controller.detachMutation_ops hm)

/-- An operation that is not in flight keeps its connection. -/
lemma Move.connected_of_not_tracked (hmove : Move h s e u) (he : ∀ i t, e ≠ .finished i t)
    (hlt : j < s.client.minted) (hl : s.listOp ≠ some j) (hm : s.mutationOp ≠ some j) :
    (u.client.ops j).connected = (s.client.ops j).connected := by
  cases hmove with
  | @refreshed _ v hu =>
      obtain ⟨hk, hvl, hvm⟩ := Controller.refreshes_ops hu hl hm
      rw [Controller.refresh_ops (by rwa [Controller.refreshes_minted hu]) hvl hvm, hk]
  | registry r => rfl
  | classified hc => rw [Controller.classify_ops hlt hl]
  | @listed i t hi => exact absurd rfl (he i t)
  | @mutated i t hi => exact absurd rfl (he i t)
  | @unheard i t => exact absurd rfl (he i t)
  | cancelled => rw [Controller.cancel_ops hl hm]
  | verb _ hc hn hq _ => rw [Controller.beginMutation_ops hlt hl]
  | quiet _ hq => rw [hq.client]

/-- An event that is no terminal processes none. -/
lemma Move.processed_iff (hs : Wired s) (hmove : Move h s e u)
    (he : ∀ i t, e ≠ .finished i t) : Processed u j ↔ Processed s j := by
  have hext := hmove.extends he
  by_cases hlt : j < s.client.minted
  · by_cases hend : (s.client.ops j).ended = none
    · simp [Processed, hext.ended j hlt, hend]
    · -- It has ended, so it is not in flight.
      have hconn := hmove.connected_of_not_tracked he hlt
        (fun hl => hend (hs.list j hl).1.running) (fun hm => hend (hs.mutation j hm).1.running)
      have hlt' : j < u.client.minted := hlt.trans_le hext.minted
      simp [Processed, hext.ended j hlt, hext.request j hlt, hconn, hlt, hlt']
  · refine ⟨fun hp => ?_, fun hp => absurd hp.1 hlt⟩
    exact absurd (hext.running j (by omega) hp.1) hp.2.2.2

lemma logDone_of_not_finished (he : ∀ i t, e ≠ .finished i t) : logDone done s e = done := by
  cases e with
  | finished i t => exact absurd rfl (he i t)
  | _ => rfl

/-- The terminal of one operation makes no other one processed. -/
lemma processed_finish (hji : j ≠ i) (t : Terminal) :
    Processed { s with client := s.client.finish i t } j ↔ Processed s j := by
  simp [Processed, Client.finish_ops_of_ne _ _ hji]

/-- A list's terminal is not logged. -/
lemma Ledger.listed (hd : Ledger s done) (hs : Wired s) (hi : s.listOp = some i) (t : Terminal) :
    Ledger ({ s with client := s.client.finish i t }.onListFinished t)
      (logDone done s (.finished i t)) := by
  have hclient : ({ s with client := s.client.finish i t }.onListFinished t).client =
      s.client.finish i t := by
    unfold Controller.onListFinished
    split <;> rfl
  have hlog : logDone done s (.finished i t) = done := by
    simp [logDone, (hs.list i hi).2.1]
  intro j
  have hiff : Processed s j ↔
      Processed ({ s with client := s.client.finish i t }.onListFinished t) j := by
    by_cases hji : j = i
    · subst hji
      simp [Processed, hclient, (hs.list j hi).2.1, Request.isMutation]
    · rw [← processed_finish hji t]
      simp [Processed, hclient]
  rw [hlog, hd j, if_congr hiff rfl rfl]

/-- A mutation's terminal is processed, and so becomes the last entry of the log. -/
lemma Ledger.mutated (hd : Ledger s done) (hs : Wired s) (hi : s.mutationOp = some i)
    (t : Terminal) :
    Ledger ({ s with client := s.client.finish i t }.onMutationDone h t)
      (logDone done s (.finished i t)) := by
  obtain ⟨hpend, hmut, -⟩ := hs.mutation i hi
  have hl : s.listOp = none := hs.exclusive.resolve_right (by simp [hi])
  have hlog : logDone done s (.finished i t) = done ++ [i] := by
    have hreq : (s.client.ops i).request ≠ .listCredentials := fun hr => by
      simp [hr, Request.isMutation] at hmut
    simp [logDone, hpend.connected, hreq]
  have hops : ∀ k < s.client.minted,
      ({ s with client := s.client.finish i t }.onMutationDone h t).client.ops k =
        (s.client.finish i t).ops k := fun k hk =>
    Controller.onMutationDone_ops (s := { s with client := s.client.finish i t }) hk
      (by simp [hl])
  have hext := Controller.Extends.onMutationDone (h := h) (t := t)
    (s := { s with client := s.client.finish i t })
  intro j
  rw [hlog, List.count_append, hd j]
  by_cases hlt : j < s.client.minted
  · have hlt' := hlt.trans_le hext.minted
    -- The verb that ended is processed once, now; every other operation as often as before.
    by_cases hji : j = i
    · subst hji
      simp [Processed, hops j hlt, hlt, hlt', hpend.running, hpend.connected, hmut,
        Client.finish_ended]
    · have hcount : List.count j [i] = 0 := by simp [Ne.symm hji]
      have hiff : Processed s j ↔
          Processed ({ s with client := s.client.finish i t }.onMutationDone h t) j := by
        rw [← processed_finish hji t]
        simp [Processed, hops j hlt, hlt, hlt']
      rw [hcount, if_congr hiff rfl rfl, Nat.add_zero]
  · -- Minted by the re-list, and so not over.
    have hji : j ≠ i := fun hji => hlt (hji ▸ hpend.minted)
    have hcount : List.count j [i] = 0 := by simp [Ne.symm hji]
    have hnp : ¬ Processed
        ({ s with client := s.client.finish i t }.onMutationDone h t) j := fun hp =>
      hp.2.2.2 (hext.running j (Nat.le_of_not_lt hlt) hp.1)
    have hns : ¬ Processed s j := fun hp => hlt hp.1
    simp [hnp, hns, hcount]

/-- A terminal nobody listens to is not logged. -/
lemma Ledger.unheard (hd : Ledger s done) (hcon : (s.client.ops i).connected = false)
    (t : Terminal) :
    Ledger { s with client := s.client.finish i t } (logDone done s (.finished i t)) := by
  have hlog : logDone done s (.finished i t) = done := by simp [logDone, hcon]
  intro j
  have hiff : Processed s j ↔ Processed { s with client := s.client.finish i t } j := by
    by_cases hji : j = i
    · subst hji
      simp [Processed, hcon]
    · exact (processed_finish hji t).symm
  rw [hlog, hd j, if_congr hiff rfl rfl]

/-- Every step keeps the log true. -/
lemma Ledger.of_move (hd : Ledger s done) (hs : Wired s) (hmove : Move h s e u) :
    Ledger u (logDone done s e) := by
  by_cases he : ∀ i t, e ≠ .finished i t
  · intro j
    rw [logDone_of_not_finished he, hd j, if_congr (hmove.processed_iff hs he) rfl rfl]
  · push Not at he
    obtain ⟨i, t, rfl⟩ := he
    cases hmove with
    | refreshed hu => simp [Controller.refreshes] at hu
    | verb he _ _ _ _ => exact absurd rfl (he i t)
    | quiet he _ => exact absurd rfl (he i t)
    | listed hi => exact hd.listed hs hi t
    | mutated hi => exact hd.mutated hs hi t
    | unheard hcon hrun hl hm => exact hd.unheard hcon t

end Log

lemma Start.ledger {s : Controller} (hs : Start s) : Ledger s [] := fun j => by
  simp [Processed, hs.minted]

/-- What every reachable state of the logged controller satisfies. -/
theorem logged_invariant (h : Host) :
    (loggedMachine h).Invariant fun x => Wired x.1 ∧ Ledger x.1 x.2 where
  start x hx := by
    obtain ⟨hs, hdone⟩ := hx
    have hs' : Start x.1 := hs
    exact ⟨hs'.wired, by rw [hdone]; exact hs'.ledger⟩
  kept x e hx ha := by
    have hal : allows x.1 e ∧ Swept x.1 e := ha
    have hmove := hx.1.move (h := h) hal.1
    exact ⟨hx.1.of_move hmove, hx.2.of_move hx.1 hmove⟩

/-! ## The mutation is pinned -/

/-- What one step may do to the mutation `i`. -/
structure PinnedStep (h : Host) (i : ℕ) (x : Controller × List ℕ) (e : Event) : Prop where
  /-- Only `cancel` and the abandoning events cancel it. -/
  cancels : (x.1.client.ops i).cancelled = false →
    ((step h x.1 e).client.ops i).cancelled = true → e = .cancel ∨ Abandons x.1 e
  /-- Only the abandoning events detach it. -/
  detaches : (x.1.client.ops i).connected = true →
    ((step h x.1 e).client.ops i).connected = false → Abandons x.1 e
  /-- Once detached, it stays detached. -/
  detached : (x.1.client.ops i).connected = false →
    ((step h x.1 e).client.ops i).connected = false
  /-- While it is live, no other mutation is minted. -/
  mints : MutationLive x.1 i → Controller.MintsLists x.1 (step h x.1 e)
  /-- Neither abandoned nor over, it stays live on its card, with nothing minted. -/
  stays : MutationLive x.1 i → ¬ Abandons x.1 e → (∀ t, e ≠ .finished i t) →
    MutationLive (step h x.1 e) i ∧ (step h x.1 e).card = x.1.card ∧
      (step h x.1 e).client.minted = x.1.client.minted

lemma pinnedStep {h : Host} {i : ℕ} {x : Controller × List ℕ} {e : Event} (hs : Wired x.1)
    (hal : allows x.1 e) (hswept : Swept x.1 e) (hlt : i < x.1.client.minted)
    (hq : (x.1.client.ops i).request.isMutation = true) : PinnedStep h i x e := by
  have hmove := hs.move (h := h) hal
  refine ⟨fun hc hc' => ?_, fun hc hc' => ?_, fun hc => ?_, fun hi => hi.mintsLists hs hmove,
    fun hi hab hend => hi.stays hs hswept hab hend hmove⟩
  · by_contra hno
    push Not at hno
    have hsame := (hmove.sameWire hs hlt hq hno.1 hno.2).cancelled
    rw [hsame, hc] at hc'
    cases hc'
  · by_contra hab
    rw [hmove.connected hs hlt hq hab, hc] at hc'
    cases hc'
  · by_cases he : ∀ i t, e ≠ .finished i t
    · rw [hmove.connected_of_not_tracked he hlt, hc]
      · exact fun hl => by simp [(hs.list i hl).1.connected] at hc
      · exact fun hm => by simp [(hs.mutation i hm).1.connected] at hc
    · push Not at he
      obtain ⟨j, t, rfl⟩ := he
      rw [hmove.connected hs hlt hq (by simp [Abandons, Controller.refreshes]), hc]

/-- Operation `i` is a mutation that was minted. -/
structure MutationMinted (i : ℕ) (x : Controller × List ℕ) : Prop where
  wired : Wired x.1
  minted : i < x.1.client.minted
  isMutation : (x.1.client.ops i).request.isMutation = true

section Runs

variable {h : Host} {i : ℕ} {x : Controller × List ℕ} {e : Event} {es : List Event}

lemma MutationMinted.pinnedStep (hx : MutationMinted i x) (hal : (loggedMachine h).allows x e) :
    PinnedStep h i x e := by
  have hal' : allows x.1 e ∧ Swept x.1 e := hal
  exact Credentials.pinnedStep hx.wired hal'.1 hal'.2 hx.minted hx.isMutation

lemma mutationMinted_kept (h : Host) (i : ℕ) : (loggedMachine h).Kept (MutationMinted i) := by
  intro x e hx hal
  have hal' : allows x.1 e ∧ Swept x.1 e := hal
  have hmove := hx.wired.move (h := h) hal'.1
  obtain ⟨hlt, hreq⟩ := hmove.request hx.minted
  refine ⟨hx.wired.of_move hmove, hlt, ?_⟩
  rw [← hx.isMutation, ← hreq]
  rfl

/-- A run that neither abandons the mutation nor brings its terminal leaves it live. -/
lemma MutationMinted.stays_exec (hx : MutationMinted i x)
    (ha : (loggedMachine h).Admits x es)
    (hrun : (loggedMachine h).EachStep
      (fun y e => ¬ Abandons y.1 e ∧ ∀ t, e ≠ .finished i t) x es) :
    MutationLive x.1 i →
      MutationLive ((loggedMachine h).exec x es).1 i ∧
        ((loggedMachine h).exec x es).1.card = x.1.card ∧
        ((loggedMachine h).exec x es).1.client.minted = x.1.client.minted := by
  refine (mutationMinted_kept h i).rel_exec
    (R := fun (y z : Controller × List ℕ) => MutationLive y.1 i →
      MutationLive z.1 i ∧ z.1.card = y.1.card ∧ z.1.client.minted = y.1.client.minted)
    hx ha hrun (fun y hy => ⟨hy, rfl, rfl⟩) ?_ ?_
  · intro y z w hyz hzw hy
    obtain ⟨hz, hc, hn⟩ := hyz hy
    obtain ⟨hw, hc', hn'⟩ := hzw hz
    exact ⟨hw, hc'.trans hc, hn'.trans hn⟩
  · intro y e hy hal hno hlive
    exact (hy.pinnedStep hal).stays hlive hno.1 hno.2

/-- A run that does not abandon the mutation leaves it connected. -/
lemma MutationMinted.connected_exec (hx : MutationMinted i x)
    (ha : (loggedMachine h).Admits x es)
    (hrun : (loggedMachine h).EachStep (fun y e => ¬ Abandons y.1 e) x es) :
    (x.1.client.ops i).connected = true →
      (((loggedMachine h).exec x es).1.client.ops i).connected = true := by
  refine (mutationMinted_kept h i).rel_exec
    (R := fun (y z : Controller × List ℕ) => (y.1.client.ops i).connected = true →
      (z.1.client.ops i).connected = true)
    hx ha hrun (fun y hy => hy) (fun y z w hyz hzw hy => hzw (hyz hy)) ?_
  intro y e hy hal hno hc
  by_contra hc'
  exact hno ((hy.pinnedStep hal).detaches hc (Bool.eq_false_iff.2 hc'))

end Runs

/-- **The mutation in flight is unique and pinned.**  From every reachable state with a live
mutation, and along every run: it is the only one; every step treats it as `PinnedStep`
says; a run that neither abandons it nor brings its terminal leaves it live on the same
card, having minted nothing; a run that does not abandon it leaves it connected; and its
terminal has been processed once if it ended connected, and never otherwise. -/
theorem mutation_pinned (h : Host) {x : Controller × List ℕ} {i : ℕ} {es : List Event}
    (hx : (loggedMachine h).Reachable x) (hi : MutationLive x.1 i)
    (ha : (loggedMachine h).Admits x es) :
    (∀ j, MutationLive x.1 j → j = i) ∧
    (loggedMachine h).EachStep (PinnedStep h i) x es ∧
    ((loggedMachine h).EachStep
        (fun y e => ¬ Abandons y.1 e ∧ ∀ t, e ≠ .finished i t) x es →
      MutationLive ((loggedMachine h).exec x es).1 i ∧
      ((loggedMachine h).exec x es).1.card = x.1.card ∧
      ((loggedMachine h).exec x es).1.client.minted = x.1.client.minted) ∧
    ((loggedMachine h).EachStep (fun y e => ¬ Abandons y.1 e) x es →
      (((loggedMachine h).exec x es).1.client.ops i).connected = true) ∧
    ((loggedMachine h).exec x es).2.count i =
      if (((loggedMachine h).exec x es).1.client.ops i).connected = true ∧
        (((loggedMachine h).exec x es).1.client.ops i).ended ≠ none then 1 else 0 := by
  have hinv := (logged_invariant h).reachable hx
  have hmut := hinv.1.mutationOp_of_live hi
  have hknown : MutationMinted i x := ⟨hinv.1, hi.pending.minted, hi.isMutation⟩
  have hkept := mutationMinted_kept h i
  -- One verb at a time; its steps; a run without its end; its connection; and how often it is done.
  refine ⟨fun j hj => ?_, ?_, fun hrun => ?_, fun hrun => ?_, ?_⟩
  · simpa [hmut, eq_comm] using hinv.1.mutationOp_of_live hj
  · exact hkept.eachStep hknown ha fun _ _ hy hal => hy.pinnedStep hal
  · exact hknown.stays_exec ha hrun hi
  · exact hknown.connected_exec ha hrun hi.pending.connected
  · have hend := (logged_invariant h).kept.exec hinv ha
    have hlast := hkept.exec hknown ha
    rw [hend.2 i]
    exact if_congr (by simp [Processed, hlast.minted, hlast.isMutation]) rfl rfl

/-- A change survives a registry event, a stale re-classification, a second verb and a list
terminal, and its terminal is processed once. -/
def pinnedRun : List Event :=
  [.registry (.desk (qs "r") 1 (.eid true)), .refresh, .bindReader (qs "r"), .cancel,
    .changePin (qs "q"), .cardChanged 1, .finished 1 {}]

/-- The controller with a PIN change in flight. -/
def midChange : Controller × List ℕ :=
  (loggedMachine .plain).exec (.new, [])
    [.registry (.desk (qs "r") 1 (.eid true)), .refresh,
      .finished 0 { credentialsResult := [{ id := qs "pin" }] }, .changePin (qs "pin")]

theorem mutation_pinned_midChange :
    ((loggedMachine .plain).exec midChange pinnedRun).2.count 1 = 1 := by
  have hreach : (loggedMachine .plain).Reachable midChange :=
    Machine.Reachable.exec (.start ⟨start_new, rfl⟩) (by decide)
  have hadmits : (loggedMachine .plain).Admits midChange pinnedRun := by decide
  have hpinned := mutation_pinned .plain (i := 1) hreach ⟨by decide, by decide⟩ hadmits
  rw [hpinned.2.2.2.2]
  decide

end LibreKDE.Credentials
