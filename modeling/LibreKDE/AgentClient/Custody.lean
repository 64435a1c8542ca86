import LibreKDE.AgentClient.Client

/-!
# What becomes of an operation

A host that mints an operation has it in its hands until one of two things happens: the
operation's terminal is delivered to the host, or the host stops listening to it and cancels it.
`Accounted` says that this is so of every operation minted; `Handles` lists the calls by which a
host handles its operations, and each of them keeps `Accounted`.  A host that goes loses it exactly
when it leaves operations behind (`accounted_false_iff`).
-/

namespace LibreKDE.Client

/-- Its terminal was delivered to the host. -/
def Processed (k : Client) (i : ℕ) : Prop :=
  (k.ops i).connected = true ∧ (k.ops i).ended.isSome = true

/-- The host stopped listening to it, and cancelled it. -/
def Abandoned (k : Client) (i : ℕ) : Prop :=
  (k.ops i).connected = false ∧ (k.ops i).cancelled = true

/-- Every operation is in the hands of a host that is alive, or it ended in exactly one of the two
ways. -/
def Accounted (k : Client) (alive : Bool) : Prop :=
  ∀ i < k.minted, alive = true ∧ k.Pending i ∨ Xor (k.Processed i) (k.Abandoned i)

/-- Nothing is in the host's hands. -/
def Quiet (k : Client) : Prop := ∀ i < k.minted, ¬ k.Pending i

instance (k : Client) : Decidable k.Quiet := inferInstanceAs (Decidable (∀ i < k.minted, _))
instance (k : Client) (i : ℕ) : Decidable (k.Processed i) := inferInstanceAs (Decidable (_ ∧ _))
instance (k : Client) (i : ℕ) : Decidable (k.Abandoned i) := inferInstanceAs (Decidable (_ ∧ _))

/-- The calls by which a host handles its operations. -/
inductive Handles : Client → Client → Prop
  | refl (k : Client) : Handles k k
  | mint (k : Client) (c : CardRef) (q : Request) : Handles k (k.mint c q)
  | cancel (k : Client) (i : ℕ) : Handles k (k.cancel i)
  | abandon (k : Client) (i : ℕ) : Handles k ((k.disconnect i).cancel i)
  | drop (k : Client) (i : ℕ) : Handles k (((k.disconnect i).cancel i).deleteLater i)
  /-- A terminal arrives. -/
  | finish (k : Client) (i : ℕ) (t : Terminal) : Handles k (k.finish i t)
  /-- A terminal arrives, and the host reaps the operation. -/
  | reap (k : Client) (i : ℕ) (t : Terminal) : Handles k ((k.finish i t).deleteLater i)
  /-- The registry moves, and no card goes that an operation is pending on. -/
  | registry (k : Client) (r : Registry)
      (hlive : ∀ i, k.Pending i → r.live (k.ops i).card = true) : Handles k (k.setRegistry r)
  | trans {k k' k'' : Client} : Handles k k' → Handles k' k'' → Handles k k''

section Accounted

variable {k k' : Client} {i : ℕ} {alive : Bool}

lemma not_abandoned_of_processed (hp : k.Processed i) : ¬ k.Abandoned i :=
  fun ha => Bool.noConfusion (hp.1.symm.trans ha.1)

lemma accounted_iff :
    k.Accounted alive ↔
      ∀ i < k.minted, alive = true ∧ k.Pending i ∨ k.Processed i ∨ k.Abandoned i := by
  refine forall₂_congr fun i _ => or_congr_right ⟨fun h => ?_, fun h => ?_⟩
  · exact h.imp And.left And.left
  · rcases h with hp | ha
    · exact .inl ⟨hp, not_abandoned_of_processed hp⟩
    · exact .inr ⟨ha, fun hp => not_abandoned_of_processed hp ha⟩

/-- An entry that the call leaves as it was, or gave up. -/
lemma Accounted.of_entries (hk : k.Accounted true) (hn : k'.minted = k.minted)
    (hentry : ∀ j < k.minted, k.Pending j ∨ k.Processed j ∨ k.Abandoned j →
      k'.Pending j ∨ k'.Processed j ∨ k'.Abandoned j) : k'.Accounted true := by
  rw [accounted_iff] at hk ⊢
  intro j hj
  rw [hn] at hj
  simpa using hentry j hj (by simpa using hk j hj)

/-- An operation that is let go of and cancelled is given up. -/
lemma abandoned_cancel_disconnect (k : Client) (i : ℕ) :
    ((k.disconnect i).cancel i).Abandoned i :=
  ⟨by simp [disconnect_connected], by simp [Client.cancel, modifyOp_ops]⟩

/-- With its terminal an operation is processed, unless it was given up. -/
lemma finish_accounted {i : ℕ} (hi : k.Pending i ∨ k.Processed i ∨ k.Abandoned i) (t : Terminal) :
    (k.finish i t).Processed i ∨ (k.finish i t).Abandoned i := by
  rcases hi with hp | hp | ha
  · exact .inl ⟨by simpa using hp.connected, by simp [finish_ended]⟩
  · exact .inl ⟨by simpa using hp.1, by simp [finish_ended]⟩
  · exact .inr ⟨by simpa using ha.1, by simpa using ha.2⟩

/-- **Handling keeps every operation accounted for.** -/
theorem Handles.accounted (hh : Handles k k') (hk : k.Accounted true) : k'.Accounted true := by
  induction hh with
  | refl k => exact hk
  | mint k c q =>
      rw [accounted_iff] at hk ⊢
      intro j hj
      have hle : j < k.minted + 1 := hj
      by_cases hlt : j < k.minted
      · simpa only [pending_mint, Processed, Abandoned, mint_ops_of_lt hlt, hlt.ne, or_false]
          using hk j hlt
      · exact .inl ⟨rfl, pending_mint.2 (.inr (by omega))⟩
  -- A cancelled operation is still heard: whatever accounted for it before does so now.
  | cancel k i =>
      refine hk.of_entries rfl fun j _ hj => ?_
      rw [pending_cancel, Processed, Abandoned, cancel_connected, cancel_ended]
      refine hj.imp_right (Or.imp_right fun ha => ⟨ha.1, ?_⟩)
      by_cases hij : j = i
      · simp [Client.cancel, modifyOp_ops, hij]
      · rw [cancel_ops_of_ne _ hij]
        exact ha.2
  -- Cancelled and disconnected is an account of its own, whoever waited before.
  | abandon k i =>
      refine hk.of_entries rfl fun j _ hj => ?_
      by_cases hij : j = i
      · exact .inr (.inr (hij ▸ abandoned_cancel_disconnect k j))
      · rw [pending_cancel, pending_disconnect, Processed, Abandoned, cancel_ops_of_ne _ hij,
          disconnect_ops_of_ne _ hij]
        exact hj.imp_left fun hp => ⟨hp, hij⟩
  | drop k i =>
      refine hk.of_entries rfl fun j _ hj => ?_
      by_cases hij : j = i
      · have hgone := abandoned_cancel_disconnect k j
        subst hij
        exact .inr (.inr (by simpa [Abandoned] using hgone))
      · rw [pending_deleteLater, pending_cancel, pending_disconnect, Processed, Abandoned,
          deleteLater_ops_of_ne _ hij, cancel_ops_of_ne _ hij, disconnect_ops_of_ne _ hij]
        exact hj.imp_left fun hp => ⟨⟨hp, hij⟩, hij⟩
  | finish k i t =>
      refine hk.of_entries rfl fun j _ hj => ?_
      by_cases hij : j = i
      · subst hij
        exact .inr (finish_accounted hj t)
      · rw [pending_finish, Processed, Abandoned, finish_ops_of_ne _ _ hij]
        exact hj.imp_left fun hp => ⟨hp, hij⟩
  | reap k i t =>
      refine hk.of_entries rfl fun j _ hj => ?_
      by_cases hij : j = i
      · subst hij
        have hkept := finish_accounted hj t
        exact .inr (by simpa [Processed, Abandoned] using hkept)
      · rw [pending_deleteLater, pending_finish, Processed, Abandoned, deleteLater_ops_of_ne _ hij,
          finish_ops_of_ne _ _ hij]
        exact hj.imp_left fun hp => ⟨⟨hp, hij⟩, hij⟩
  -- Only a registry that keeps the cards of the pending operations is a move of the owner.
  | registry k r hlive =>
      refine hk.of_entries rfl fun j _ hj => ?_
      rw [pending_setRegistry]
      exact hj.imp_left fun hp => ⟨hp, hlive j hp⟩
  | trans _ _ ih ih' => exact ih' (ih hk)

/-- A host may go when it has nothing in its hands. -/
lemma accounted_false_iff (hk : k.Accounted true) : k.Accounted false ↔ k.Quiet := by
  constructor
  · intro hgone i hi hp
    rcases accounted_iff.1 hgone i hi with ⟨halive, -⟩ | hdone | ha
    · cases halive
    · simp [Processed, hp.running] at hdone
    · exact Bool.noConfusion (hp.connected.symm.trans ha.1)
  · intro hquiet
    rw [accounted_iff] at hk ⊢
    intro i hi
    exact .inr ((hk i hi).resolve_left fun hp => hquiet i hi hp.2)

lemma accounted_of_minted (hn : k.minted = 0) : k.Accounted alive := by
  intro i hi
  omega

end Accounted

end LibreKDE.Client
