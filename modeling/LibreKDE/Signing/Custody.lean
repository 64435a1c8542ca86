import LibreKDE.AgentClient.Custody
import LibreKDE.Signing.Protocol

/-!
# The operations of a job

A job never stops listening to an operation: it awaits one terminal at a time, and each that
comes is delivered to its slot.  So all a job leaves unaccounted for is the operation it awaits
when it is destroyed; its destructor is the compiler's own, and cancels nothing.
-/

namespace LibreKDE.Signing

open SignJob (Steady)

variable {h : SignHost} {s s₀ : SignJob} {e : Event}

/-- The job listens to everything it minted, so that an operation it has left behind has ended or
gone with its card. -/
def SignJob.Listens (s : SignJob) : Prop :=
  ∀ i < s.client.minted, (s.client.ops i).connected = true

lemma steady_listens : Steady fun k => ∀ i < k.minted, (k.ops i).connected = true :=
  ⟨by simp, by simp, by simp⟩

/-- What is minted is listened to. -/
lemma SignJob.Listens.mint {c : CardRef} {q : Request} {u : SignJob} (hs : s.Listens)
    (hk : u.client = s.client.mint c q) : u.Listens := by
  intro i hi
  rw [hk, Client.mint_minted] at hi
  rw [hk]
  by_cases hlt : i < s.client.minted
  · rw [Client.mint_ops_of_lt hlt]
    exact hs i hlt
  · obtain rfl : i = s.client.minted := by omega
    rw [Client.mint_ops_self]

lemma SignJob.Listens.step (hs : s.Listens) (e : Event) : (Signing.step h s e).Listens := by
  cases e with
  | start =>
      rcases s.start_cases h with heq | ⟨c, -, heq⟩
      · rw [Listens, Signing.step, heq]
        exact hs
      · exact hs.mint heq
  | registry r => exact hs
  | finished i t chooser write =>
      exact (steady_listens.finished h s i t chooser write).mpr hs
  | turn opens =>
      rcases s.turn_cases h opens with heq | ⟨c, id, -, heq⟩
      · rw [Listens, Signing.step, heq]
        exact hs
      · exact hs.mint heq

/-- Between two events what has not ended is awaited, and the rest was delivered. -/
lemma Job.Rests.accounted {l : Option Listing} (hr : Job.Rests h s₀ s l) (hs : s.Listens) :
    s.client.Accounted true := by
  obtain ⟨p, -, hj⟩ := hr
  rw [Client.accounted_iff]
  intro i hi
  by_cases hrun : (s.client.ops i).ended = none
  · have hawaits := (hj.runs i hi).1 hrun
    exact .inl ⟨rfl, hi, hs i hi, (hj.listens i hawaits).2, hrun⟩
  · exact .inr (.inl ⟨hs i hi, Option.isSome_iff_ne_none.2 hrun⟩)

/-- What carries the accounting along a job's run. -/
def Custody (h : SignHost) (s₀ s : SignJob) : Prop :=
  (∃ l, Job.Rests h s₀ s l) ∧ s.Listens

lemma Custody.accounted (hs : Custody h s₀ s) : s.client.Accounted true := by
  obtain ⟨⟨l, hr⟩, hlisten⟩ := hs
  exact hr.accounted hlisten

lemma kept_custody (h : SignHost) (s₀ : SignJob) : (machine h).Kept (Custody h s₀) :=
  fun _ e hs hal => ⟨hs.1.imp' (noteListing · _ e) fun _ hr => hr.step hal, hs.2.step e⟩

lemma Start.custody (hs : Start s) : Custody h s s :=
  ⟨⟨none, hs.rests h⟩, fun i hi => absurd hi (by simp [hs.minted])⟩

end LibreKDE.Signing
