import LibreKDE.Plasmoid.SmartCardHandler

/-!
# How the reads move

`Owned` says what holds between two events of a handler's card, its two reads and what they
brought: the reads in flight are on the bound card, and whatever is shown came from an `Ok`
read of that card.  "Since it was bound" is a number, the number of operations minted when the
card was bound, which the observer `noteBound` keeps.

Every method moves the reads in one of a few ways, and each way has one lemma here.
`refresh_cases` and its companions say what the methods that can issue a free read do to them.
-/

namespace LibreKDE.Plasmoid

variable {h : PlasmoidHost}

namespace CardReads

/-- `bindCard`, as far as the reads are concerned. -/
def bindCard (s : CardReads) (c : Option CardRef) : CardReads :=
  if c ≠ none ∧ s.card = c then s else s.rebind c

@[simp] lemma drop_registry (k : Client) (op : Option ℕ) : (drop k op).registry = k.registry := by
  cases op <;> rfl

@[simp] lemma drop_minted (k : Client) (op : Option ℕ) : (drop k op).minted = k.minted := by
  cases op <;> rfl

@[simp] lemma drop_request (k : Client) (op : Option ℕ) (j : ℕ) :
    ((drop k op).ops j).request = (k.ops j).request := by
  cases op <;> simp [drop]

@[simp] lemma pending_drop (k : Client) (op : Option ℕ) (j : ℕ) :
    (drop k op).Pending j ↔ k.Pending j ∧ op ≠ some j := by
  cases op with
  | none => simp [drop]
  | some i =>
      simp only [drop, Client.pending_deleteLater, Client.pending_cancel,
        Client.pending_disconnect, Option.some.injEq, ne_eq, eq_comm]
      tauto

/-- What is dropped is gone. -/
lemma heard_drop {k : Client} {op : Option ℕ} {j : ℕ}
    (hj : (k.ops j).connected = true ∨ (k.ops j).destroyed = true) :
    ((drop k op).ops j).connected = true ∨ ((drop k op).ops j).destroyed = true := by
  cases op with
  | none => exact hj
  | some i =>
      by_cases hij : j = i
      · exact .inr (by simp [drop, Client.deleteLater_destroyed, hij])
      · simpa [drop, Client.deleteLater_destroyed, Client.disconnect_connected, hij] using hj

/-- A rebind drops both reads and scrubs what they brought. -/
lemma rebind_eq (s : CardReads) (c : Option CardRef) :
    s.rebind c = { s with
      client := drop (drop s.client s.identityOp) s.photoOp
      card := c
      identityOp := none
      photoOp := none
      identityRead := false
      identity := .empty
      photo := .empty
      photoStore := s.photoStore.clear s.photoSlot } := by
  simp [rebind, clearPhoto, clearIdentity]

lemma bindCard_minted (r : CardReads) (c : Option CardRef) :
    (r.bindCard c).client.minted = r.client.minted := by
  unfold CardReads.bindCard
  split_ifs
  · rfl
  · simp [rebind_eq]

lemma bindCard_registry (r : CardReads) (c : Option CardRef) :
    (r.bindCard c).client.registry = r.client.registry := by
  unfold CardReads.bindCard
  split_ifs
  · rfl
  · simp [rebind_eq]

lemma bindCard_card (r : CardReads) (c : Option CardRef) : (r.bindCard c).card = c := by
  unfold CardReads.bindCard
  split_ifs with hshort
  · exact hshort.2
  · rw [rebind_eq]

lemma bindCard_warmed (r : CardReads) (c : Option CardRef) :
    (r.bindCard c).warmed = r.warmed := by
  unfold CardReads.bindCard
  split_ifs
  · rfl
  · simp [rebind_eq]

/-! ## Wiring -/

/-- The handler listens to its reads, and to nothing else. -/
structure Wired (s : CardReads) : Prop where
  alive : s.destroyed = false
  identity : ∀ i, s.identityOp = some i →
    s.client.Pending i ∧ (s.client.ops i).request = .readIdentity
  photo : ∀ i, s.photoOp = some i → s.client.Pending i ∧ (s.client.ops i).request = .getPhoto
  pending : ∀ i, s.client.Pending i → s.identityOp = some i ∨ s.photoOp = some i
  /-- What it stopped listening to is gone. -/
  heard : ∀ i < s.client.minted,
    (s.client.ops i).connected = true ∨ (s.client.ops i).destroyed = true

/-- An operation the bound card answered `Ok`, minted as number `b` or later. -/
def Answered (s : CardReads) (b : ℕ) (q : Request) (t : Terminal) : Prop :=
  ∃ i, b ≤ i ∧ i < s.client.minted ∧ (s.client.ops i).request = q ∧
    s.card = some (s.client.ops i).card ∧ (s.client.ops i).ended = some t ∧ t.status = .ok

/-- What holds of a handler whose card was bound when `b` operations had been minted. -/
structure Owned (h : PlasmoidHost) (b : ℕ) (s : CardReads) : Prop extends Wired s where
  live : ∀ c, s.card = some c → s.client.registry.live c = true
  bound : b ≤ s.client.minted
  /-- Nothing is minted without a card. -/
  unbound : s.card = none → s.client.minted ≤ b
  identityOwn : ∀ i, s.identityOp = some i → b ≤ i ∧ s.card = some (s.client.ops i).card
  photoOwn : ∀ i, s.photoOp = some i → b ≤ i ∧ s.card = some (s.client.ops i).card
  /-- `identityRead` means what it says. -/
  unread : s.identityRead = false → ∀ t, ¬ s.Answered b .readIdentity t
  identityShown : s.identity.Shows → ∃ t, s.Answered b .readIdentity t ∧
    s.identity = .rebuild h.rules h.chars t.identityResult
  photoShown : s.photo.Shows ∨ s.photoStore.images s.photoSlot ≠ none →
    ∃ t bytes image, s.Answered b .getPhoto t ∧ photoOf h t = some (bytes, image) ∧
      s.photo.photoBytes = bytes ∧
      s.photo.photoSuggestedFileName = suggestedPhotoFileName h bytes ∧
      s.photoStore.images s.photoSlot = some image

/-- The entry of the table that makes an answer is in another table too. -/
def Keeps (k k' : Client) (i : ℕ) : Prop :=
  i < k'.minted ∧ (k'.ops i).request = (k.ops i).request ∧ (k'.ops i).card = (k.ops i).card ∧
    (k'.ops i).ended = (k.ops i).ended

/-- An answer stays where its entry does and the card. -/
lemma Answered.of_keeps {s s' : CardReads} {b : ℕ} {q : Request} {t : Terminal}
    (ha : s.Answered b q t) (hcard : s'.card = s.card)
    (hkeeps : ∀ i < s.client.minted, (s.client.ops i).request = q →
      (s.client.ops i).ended = some t → Keeps s.client s'.client i) :
    s'.Answered b q t := by
  obtain ⟨i, hb, hi, hq, hc, hended, hok⟩ := ha
  obtain ⟨hi', hreq, hcard', hended'⟩ := hkeeps i hi hq hended
  exact ⟨i, hb, hi', by rw [hreq, hq], by rw [hcard, hcard', hc], by rw [hended', hended], hok⟩

/-- An identity that stays shown stays the bound card's, if the answers stay. -/
lemma Owned.identity_carried {s s' : CardReads} {b : ℕ} (ho : Owned h b s)
    (hkeep : ∀ {q t}, s.Answered b q t → s'.Answered b q t) (hidentity : s'.identity = s.identity) :
    s'.identity.Shows → ∃ t, s'.Answered b .readIdentity t ∧
      s'.identity = .rebuild h.rules h.chars t.identityResult := by
  intro hshows
  rw [hidentity] at hshows ⊢
  obtain ⟨t, ha, heq⟩ := ho.identityShown hshows
  exact ⟨t, hkeep ha, heq⟩

/-- So does a photo. -/
lemma Owned.photo_carried {s s' : CardReads} {b : ℕ} (ho : Owned h b s)
    (hkeep : ∀ {q t}, s.Answered b q t → s'.Answered b q t) (hphoto : s'.photo = s.photo)
    (hstore : s'.photoStore.images s'.photoSlot = s.photoStore.images s.photoSlot) :
    s'.photo.Shows ∨ s'.photoStore.images s'.photoSlot ≠ none →
      ∃ t bytes image, s'.Answered b .getPhoto t ∧ photoOf h t = some (bytes, image) ∧
        s'.photo.photoBytes = bytes ∧
        s'.photo.photoSuggestedFileName = suggestedPhotoFileName h bytes ∧
        s'.photoStore.images s'.photoSlot = some image := by
  intro hshows
  rw [hphoto, hstore] at hshows
  rw [hphoto, hstore]
  obtain ⟨t, bytes, image, ha, hrest⟩ := ho.photoShown hshows
  exact ⟨t, bytes, image, hkeep ha, hrest⟩

/-! ## The registry moves -/

/-- A read whose guarded pointer is not null is still in flight. -/
lemma slot_guarded {k : Client} {q : Request} {op : Option ℕ} (r : Registry)
    (hop : ∀ i, op = some i → k.Pending i ∧ (k.ops i).request = q) (i : ℕ)
    (hi : (k.setRegistry r).guardOp op = some i) :
    (k.setRegistry r).Pending i ∧ ((k.setRegistry r).ops i).request = q := by
  obtain ⟨hsome, halive⟩ := Option.filter_eq_some_iff.1 hi
  obtain ⟨hp, hreq⟩ := hop i hsome
  refine ⟨Client.pending_setRegistry.2 ⟨hp, ?_⟩, hreq⟩
  simpa [hp.alive] using halive

lemma Wired.setRegistry {s : CardReads} (hw : Wired s) (r : Registry) :
    Wired (s.setRegistry r) where
  alive := hw.alive
  identity := slot_guarded r hw.identity
  photo := slot_guarded r hw.photo
  pending i hi := by
    obtain ⟨hp, hlive⟩ := Client.pending_setRegistry.1 hi
    have halive : (!((s.client.setRegistry r).ops i).destroyed) = true := by
      simp [hp.alive, hlive]
    rcases hw.pending i hp with hop | hop
    -- The QPointer is cleared only for an operation whose card went, and a pending one is not that.
    · exact .inl (Option.filter_eq_some_iff.2 ⟨hop, halive⟩)
    · exact .inr (Option.filter_eq_some_iff.2 ⟨hop, halive⟩)
  heard i hi := by
    show (s.client.ops i).connected = true ∨ ((s.client.setRegistry r).ops i).destroyed = true
    rcases hw.heard i hi with hconn | hgone
    · exact .inl hconn
    · exact .inr (by simp [hgone])

lemma setRegistry_card (s : CardReads) (r : Registry) :
    (s.setRegistry r).card = s.card.filter r.live := rfl

/-- The bound card stays bound if it stays. -/
lemma setRegistry_card_of_live {s : CardReads} {r : Registry}
    (hlive : ∀ c, s.card = some c → r.live c = true) : (s.setRegistry r).card = s.card := by
  rw [setRegistry_card]
  cases hc : s.card with
  | none => rfl
  | some c => simp [hlive c hc]

/-- The registry moves and the bound card stays. -/
lemma Owned.setRegistry {b : ℕ} {s : CardReads} (ho : Owned h b s) {r : Registry}
    (hlive : ∀ c, s.card = some c → r.live c = true) : Owned h b (s.setRegistry r) := by
  have hcard := setRegistry_card_of_live hlive
  -- The bound card stays and no operation is minted, so the answers it has had are the same.
  have hanswer : ∀ {q t}, (s.setRegistry r).Answered b q t ↔ s.Answered b q t := by
    intro q t
    constructor
    · intro ha
      exact ha.of_keeps hcard.symm fun i hi _ _ => ⟨hi, rfl, rfl, rfl⟩
    · intro ha
      exact ha.of_keeps hcard fun i hi _ _ => ⟨hi, rfl, rfl, rfl⟩
  exact {
    toWired := ho.toWired.setRegistry r
    live := by
      intro c hc
      rw [hcard] at hc
      exact hlive c hc
    bound := ho.bound
    unbound := by
      intro hnone
      rw [hcard] at hnone
      exact ho.unbound hnone
    identityOwn := by
      intro i hi
      rw [hcard]
      exact ho.identityOwn i (Option.filter_eq_some_iff.1 hi).1
    photoOwn := by
      intro i hi
      rw [hcard]
      exact ho.photoOwn i (Option.filter_eq_some_iff.1 hi).1
    unread := fun hread t ha => ho.unread hread t (hanswer.1 ha)
    identityShown := ho.identity_carried hanswer.2 rfl
    photoShown := ho.photo_carried hanswer.2 rfl rfl }

/-! ## The binding moves -/

/-- After a rebind nothing is in flight and nothing is shown. -/
lemma Wired.rebind {s : CardReads} (hw : Wired s) {c : Option CardRef}
    (hlive : ∀ d, c = some d → s.client.registry.live d = true) :
    Owned h s.client.minted (s.rebind c) := by
  rw [rebind_eq]
  -- Nothing has been minted since the card was bound just now, so nothing can have answered.
  have hanswer : ∀ {s' : CardReads} {q t}, s'.client.minted = s.client.minted →
      ¬ s'.Answered s.client.minted q t := by
    rintro s' q t heq ⟨i, hb, hi, -⟩
    omega
  exact {
    alive := hw.alive
    identity := by simp
    photo := by simp
    pending := by
      intro i hi
      simp only [pending_drop] at hi
      obtain ⟨⟨hp, hidentity⟩, hphoto⟩ := hi
      rcases hw.pending i hp with hop | hop
      · exact absurd hop hidentity
      · exact absurd hop hphoto
    heard := by
      intro i hi
      simp only [drop_minted] at hi
      exact heard_drop (heard_drop (hw.heard i hi))
    live := by
      intro d hd
      simpa using hlive d hd
    bound := by simp
    unbound := by simp
    identityOwn := by simp
    photoOwn := by simp
    unread := fun _ t => hanswer (by simp)
    identityShown := fun hshows => absurd hshows IdentityModel.not_shows_empty
    photoShown := by
      intro hshows
      rcases hshows with hshows | hstore
      · exact absurd hshows CardPhoto.not_shows_empty
      · simp at hstore }

/-- The number that goes with the card after a move: it stays with the card. -/
def boundAfter (b : ℕ) (s s' : CardReads) : ℕ := if s'.card = s.card then b else s.client.minted

/-- Nothing of a holder is held: no identity, no photo, and no image in the store. -/
structure Blank (s : CardReads) : Prop where
  identity : ¬ s.identity.Shows
  photo : ¬ s.photo.Shows
  photoStore : s.photoStore.images s.photoSlot = none

lemma blank_rebind (s : CardReads) (c : Option CardRef) : Blank (s.rebind c) := by
  rw [rebind_eq]
  exact ⟨IdentityModel.not_shows_empty, CardPhoto.not_shows_empty, by simp⟩

/-- What an event does to the reads: they are owned by the card that is bound after it, and a
card bound by it starts with nothing. -/
structure MovesTo (h : PlasmoidHost) (b : ℕ) (s s' : CardReads) : Prop where
  owned : Owned h (boundAfter b s s') s'
  blank : s'.card = s.card ∨ Blank s'

/-- The card stays, and with it the number. -/
lemma Owned.movesTo {b : ℕ} {s s' : CardReads} (ho : Owned h b s') (hcard : s'.card = s.card) :
    MovesTo h b s s' := by
  refine ⟨?_, .inl hcard⟩
  rwa [boundAfter, if_pos hcard]

/-- A rebind to another card, or of no card to none. -/
lemma Owned.rebind {b : ℕ} {s : CardReads} (ho : Owned h b s) {c : Option CardRef}
    (hlive : ∀ d, c = some d → s.client.registry.live d = true)
    (hne : c = none ∨ s.card ≠ c) : MovesTo h b s (s.rebind c) := by
  refine ⟨?_, .inr (blank_rebind s c)⟩
  have hrebound : Owned h s.client.minted (s.rebind c) := ho.toWired.rebind hlive
  have hcard : (s.rebind c).card = c := by rw [rebind_eq]
  unfold boundAfter
  split_ifs with hsame
  · -- The null card is bound again: nothing was minted since it was bound.
    rw [hcard] at hsame
    have hnone : s.card = none := by
      rcases hne with rfl | hne
      · exact hsame.symm
      · exact absurd hsame.symm hne
    have hb : b = s.client.minted := le_antisymm ho.bound (ho.unbound hnone)
    rw [hb]
    exact hrebound
  · exact hrebound

lemma Owned.bindCard {b : ℕ} {s : CardReads} (ho : Owned h b s) {c : Option CardRef}
    (hlive : ∀ d, c = some d → s.client.registry.live d = true) :
    MovesTo h b s (s.bindCard c) := by
  unfold CardReads.bindCard
  split_ifs with hshort
  · exact ho.movesTo rfl
  · apply ho.rebind hlive
    tauto

/-! ## Reads start -/

/-- Minting leaves the answers given as they are. -/
lemma answered_mint {s s' : CardReads} {b : ℕ} {c : CardRef} {q₀ q : Request} {t : Terminal}
    (hcard : s'.card = s.card) (hclient : s'.client = s.client.mint c q₀) :
    s'.Answered b q t ↔ s.Answered b q t := by
  constructor
  · intro ha
    apply ha.of_keeps hcard.symm
    intro i hi _ hended
    rw [hclient] at hi hended ⊢
    have hlt : i < s.client.minted := by
      have hle : i < s.client.minted + 1 := hi
      -- A fresh operation has no terminal yet, so it cannot be the one that answered.
      by_contra hge
      obtain rfl : i = s.client.minted := by omega
      simp at hended
    rw [Keeps, Client.mint_ops_of_lt hlt]
    exact ⟨hlt, rfl, rfl, rfl⟩
  · intro ha
    apply ha.of_keeps hcard
    intro i hi _ _
    rw [hclient, Keeps, Client.mint_ops_of_lt hi]
    exact ⟨Nat.lt_succ_of_lt hi, rfl, rfl, rfl⟩

/-- What minting leaves of a pending operation. -/
lemma pending_request_mint {k : Client} {c : CardRef} {q : Request} {i : ℕ} (hp : k.Pending i) :
    (k.mint c q).Pending i ∧ ((k.mint c q).ops i).request = (k.ops i).request ∧
      ((k.mint c q).ops i).card = (k.ops i).card := by
  rw [Client.mint_ops_of_lt hp.minted]
  exact ⟨Client.pending_mint.2 (.inl hp), rfl, rfl⟩

lemma heard_mint {k : Client} {c : CardRef} {q : Request}
    (hk : ∀ i < k.minted, (k.ops i).connected = true ∨ (k.ops i).destroyed = true) :
    ∀ i < (k.mint c q).minted,
      ((k.mint c q).ops i).connected = true ∨ ((k.mint c q).ops i).destroyed = true := by
  intro i hi
  have hle : i < k.minted + 1 := hi
  by_cases hlt : i < k.minted
  · rw [Client.mint_ops_of_lt hlt]
    exact hk i hlt
  · obtain rfl : i = k.minted := by omega
    simp

section Slots

variable {k : Client} {c : CardRef} {q : Request} {b : ℕ} {card : Option CardRef} {op : Option ℕ}

/-- A read in flight is none the worse for another one being minted. -/
lemma slot_kept {p : Request}
    (hop : ∀ i, op = some i → k.Pending i ∧ (k.ops i).request = q)
    (hown : ∀ i, op = some i → b ≤ i ∧ card = some (k.ops i).card) :
    (∀ i, op = some i → (k.mint c p).Pending i ∧ ((k.mint c p).ops i).request = q) ∧
      ∀ i, op = some i → b ≤ i ∧ card = some ((k.mint c p).ops i).card := by
  constructor
  · intro i hi
    obtain ⟨hp, hreq⟩ := hop i hi
    obtain ⟨hp', hreq', -⟩ := pending_request_mint (c := c) (q := p) hp
    exact ⟨hp', hreq'.trans hreq⟩
  · intro i hi
    obtain ⟨hb, hcard⟩ := hown i hi
    obtain ⟨-, -, hcard'⟩ := pending_request_mint (c := c) (q := p) (hop i hi).1
    rw [hcard']
    exact ⟨hb, hcard⟩

/-- The read that is minted. -/
lemma slot_minted (hb : b ≤ k.minted) (hc : card = some c) :
    (∀ i, some k.minted = some i →
        (k.mint c q).Pending i ∧ ((k.mint c q).ops i).request = q) ∧
      ∀ i, some k.minted = some i → b ≤ i ∧ card = some ((k.mint c q).ops i).card := by
  constructor
  · intro i hi
    obtain rfl : i = k.minted := (Option.some.inj hi).symm
    exact ⟨Client.pending_mint.2 (.inr rfl), by simp⟩
  · intro i hi
    obtain rfl : i = k.minted := (Option.some.inj hi).symm
    exact ⟨hb, by simp [hc]⟩

end Slots

lemma Owned.mintIdentity {b : ℕ} {s : CardReads} (ho : Owned h b s) {c : CardRef}
    (hc : s.card = some c) (hfree : s.identityOp = none) : Owned h b (s.mintIdentity c) := by
  have hanswer : ∀ {q t}, (s.mintIdentity c).Answered b q t ↔ s.Answered b q t :=
    answered_mint rfl rfl
  obtain ⟨hidentity, hidentityOwn⟩ := slot_minted (q := .readIdentity) ho.bound hc
  obtain ⟨hphoto, hphotoOwn⟩ :=
    slot_kept (c := c) (p := .readIdentity) ho.photo ho.photoOwn
  exact {
    alive := ho.alive
    identity := hidentity
    photo := hphoto
    pending := by
      intro i hi
      rcases Client.pending_mint.1 hi with hp | rfl
      · rcases ho.pending i hp with hop | hop
        · simp [hfree] at hop
        · exact .inr hop
      · exact .inl rfl
    heard := heard_mint ho.heard
    live := ho.live
    bound := Nat.le_succ_of_le ho.bound
    unbound := by
      intro hnone
      have hcard : s.card = none := hnone
      simp [hc] at hcard
    identityOwn := hidentityOwn
    photoOwn := hphotoOwn
    unread := fun hread t ha => ho.unread hread t (hanswer.1 ha)
    identityShown := ho.identity_carried hanswer.2 rfl
    photoShown := ho.photo_carried hanswer.2 rfl rfl }

/-- Mint a photo read on a card. -/
def mintPhoto (s : CardReads) (c : CardRef) : CardReads :=
  { s with photoOp := some s.client.minted, client := s.client.mint c .getPhoto }

lemma Owned.mintPhoto {b : ℕ} {s : CardReads} (ho : Owned h b s) {c : CardRef}
    (hc : s.card = some c) (hfree : s.photoOp = none) : Owned h b (s.mintPhoto c) := by
  have hanswer : ∀ {q t}, (s.mintPhoto c).Answered b q t ↔ s.Answered b q t :=
    answered_mint rfl rfl
  obtain ⟨hidentity, hidentityOwn⟩ :=
    slot_kept (c := c) (p := .getPhoto) ho.identity ho.identityOwn
  obtain ⟨hphoto, hphotoOwn⟩ := slot_minted (q := .getPhoto) ho.bound hc
  exact {
    alive := ho.alive
    identity := hidentity
    photo := hphoto
    pending := by
      intro i hi
      rcases Client.pending_mint.1 hi with hp | rfl
      · rcases ho.pending i hp with hop | hop
        · exact .inl hop
        · simp [hfree] at hop
      · exact .inr rfl
    heard := heard_mint ho.heard
    live := ho.live
    bound := Nat.le_succ_of_le ho.bound
    unbound := by
      intro hnone
      have hcard : s.card = none := hnone
      simp [hc] at hcard
    identityOwn := hidentityOwn
    photoOwn := hphotoOwn
    unread := fun hread t ha => ho.unread hread t (hanswer.1 ha)
    identityShown := ho.identity_carried hanswer.2 rfl
    photoShown := ho.photo_carried hanswer.2 rfl rfl }

/-- A photo read starts on the bound card, unless one is in flight. -/
lemma startPhotoRead_cases (s : CardReads) :
    s.startPhotoRead = s ∨
      ∃ c, s.card = some c ∧ s.photoOp = none ∧ s.startPhotoRead = s.mintPhoto c := by
  unfold startPhotoRead
  split
  · exact .inl rfl
  · next c hc =>
      split_ifs with hbusy
      · exact .inl rfl
      · exact .inr ⟨c, hc, by simpa using hbusy, rfl⟩

lemma Owned.startPhotoRead {b : ℕ} {s : CardReads} (ho : Owned h b s) :
    Owned h b s.startPhotoRead := by
  rcases s.startPhotoRead_cases with heq | ⟨c, hc, hfree, heq⟩
  · rw [heq]
    exact ho
  · rw [heq]
    exact ho.mintPhoto hc hfree

/-! ## Reads end -/

section Ends

variable {b i : ℕ} {s : CardReads} {t : Terminal}

/-- The table after an operation reached its terminal and was reaped. -/
def reaped (k : Client) (i : ℕ) (t : Terminal) : Client := (k.finish i t).deleteLater i

lemma reaped_ended (k : Client) (i j : ℕ) (t : Terminal) :
    ((reaped k i t).ops j).ended = if j = i then some t else (k.ops j).ended := by
  simp [reaped, Client.finish_ended]

lemma pending_reaped {k : Client} {j : ℕ} :
    (reaped k i t).Pending j ↔ k.Pending j ∧ j ≠ i := by
  simp only [reaped, Client.pending_deleteLater, Client.pending_finish]
  tauto

lemma keeps_reaped {k : Client} (hi : (k.ops i).ended = none) {j : ℕ} (hj : j < k.minted)
    {u : Terminal} (hu : (k.ops j).ended = some u) : Keeps k (reaped k i t) j := by
  have hne : j ≠ i := by
    rintro rfl
    simp [hi] at hu
  refine ⟨hj, by simp [reaped], by simp [reaped], ?_⟩
  rw [reaped_ended, if_neg hne]

/-- The answers given stay. -/
lemma Answered.reaped {s' : CardReads} {q : Request} {u : Terminal} (ha : s.Answered b q u)
    (hi : (s.client.ops i).ended = none) (hcard : s'.card = s.card)
    (hclient : s'.client = reaped s.client i t) : s'.Answered b q u := by
  apply ha.of_keeps hcard
  intro j hj _ hended
  rw [hclient]
  exact keeps_reaped hi hj hended

/-- Every answer was given before, or is the one that just ended. -/
lemma Answered.of_reaped {s' : CardReads} {q : Request} {u : Terminal} (ha : s'.Answered b q u)
    (hcard : s'.card = s.card) (hclient : s'.client = CardReads.reaped s.client i t)
    (hnew : (s.client.ops i).request ≠ q ∨ t.status ≠ .ok) : s.Answered b q u := by
  obtain ⟨j, hb, hj, hq, hc, hended, hok⟩ := ha
  rw [hclient] at hj hq hc hended
  rw [hcard] at hc
  rw [reaped_ended] at hended
  simp only [CardReads.reaped, Client.deleteLater_minted, Client.finish_minted,
    Client.deleteLater_request, Client.finish_request, Client.deleteLater_card,
    Client.finish_card] at hj hq hc
  -- An answer that was not there before is the terminal of `i` itself, which is excluded.
  split_ifs at hended with hij
  · cases hended
    subst hij
    exact absurd hnew (by simp [hq, hok])
  · exact ⟨j, hb, hj, hq, hc, hended, hok⟩

lemma heard_reaped {k : Client}
    (hk : ∀ j < k.minted, (k.ops j).connected = true ∨ (k.ops j).destroyed = true) :
    ∀ j < (reaped k i t).minted,
      ((reaped k i t).ops j).connected = true ∨ ((reaped k i t).ops j).destroyed = true := by
  intro j hj
  rcases hk j hj with hconn | hgone
  · exact .inl (by simp [reaped, hconn])
  · exact .inr (by simp [reaped, Client.deleteLater_destroyed, hgone])

/-- A read in flight is none the worse for another one ending. -/
lemma slot_reaped {k : Client} {q : Request} {op : Option ℕ}
    (hop : ∀ j, op = some j → k.Pending j ∧ (k.ops j).request = q)
    (hother : (k.ops i).request ≠ q) :
    ∀ j, op = some j → (reaped k i t).Pending j ∧ ((reaped k i t).ops j).request = q := by
  intro j hj
  obtain ⟨hp, hreq⟩ := hop j hj
  have hne : j ≠ i := by
    rintro rfl
    exact hother hreq
  exact ⟨pending_reaped.2 ⟨hp, hne⟩, by simpa [reaped] using hreq⟩

/-- An identity read ends, with or without an answer: it is no longer in flight. -/
def identityEnds (s : CardReads) (i : ℕ) (t : Terminal) : CardReads :=
  { s with identityOp := none, client := reaped s.client i t }

/-- A photo read ends, with or without a photo. -/
def photoEnds (s : CardReads) (i : ℕ) (t : Terminal) : CardReads :=
  { s with photoOp := none, client := reaped s.client i t }

lemma Wired.identityEnds (hw : Wired s) (hi : s.identityOp = some i) (t : Terminal) :
    Wired (s.identityEnds i t) where
  alive := hw.alive
  identity j hj := by cases hj
  photo := by
    have hreq : (s.client.ops i).request = .readIdentity := (hw.identity i hi).2
    exact slot_reaped hw.photo (by simp [hreq])
  pending j hj := by
    obtain ⟨hp, hne⟩ := pending_reaped.1 hj
    rcases hw.pending j hp with hop | hop
    · rw [hi] at hop
      exact absurd (Option.some.inj hop).symm hne
    · exact .inr hop
  heard := heard_reaped hw.heard

lemma Wired.photoEnds (hw : Wired s) (hi : s.photoOp = some i) (t : Terminal) :
    Wired (s.photoEnds i t) where
  alive := hw.alive
  identity := by
    have hreq : (s.client.ops i).request = .getPhoto := (hw.photo i hi).2
    exact slot_reaped hw.identity (by simp [hreq])
  photo j hj := by cases hj
  pending j hj := by
    obtain ⟨hp, hne⟩ := pending_reaped.1 hj
    rcases hw.pending j hp with hop | hop
    · exact .inl hop
    · rw [hi] at hop
      exact absurd (Option.some.inj hop).symm hne
  heard := heard_reaped hw.heard

/-- The answer of an operation the handler waited for. -/
lemma answered_self {s' : CardReads} (hb : b ≤ i) (hp : s.client.Pending i)
    (hown : s.card = some (s.client.ops i).card) (hok : t.status = .ok)
    (hcard : s'.card = s.card) (hclient : s'.client = reaped s.client i t) :
    s'.Answered b (s.client.ops i).request t := by
  refine ⟨i, hb, ?_, ?_, ?_, ?_, hok⟩
  · rw [hclient]
    exact hp.minted
  · rw [hclient]
    simp [reaped]
  · rw [hclient, hcard, hown]
    simp [reaped]
  · rw [hclient, reaped_ended, if_pos rfl]

/-- The photo read that is in flight stays the bound card's. -/
lemma Owned.photoOwn_identityEnds (ho : Owned h b s) (j : ℕ)
    (hj : (s.identityEnds i t).photoOp = some j) :
    b ≤ j ∧ (s.identityEnds i t).card = some ((s.identityEnds i t).client.ops j).card := by
  obtain ⟨hb, hown⟩ := ho.photoOwn j hj
  exact ⟨hb, by simpa [CardReads.identityEnds, reaped] using hown⟩

lemma Owned.identityFails (ho : Owned h b s) (hi : s.identityOp = some i)
    (hfail : t.status ≠ .ok) : Owned h b (s.identityEnds i t) := by
  have hrun : (s.client.ops i).ended = none := (ho.identity i hi).1.running
  exact {
    toWired := ho.toWired.identityEnds hi t
    live := ho.live
    bound := ho.bound
    unbound := ho.unbound
    identityOwn := by
      intro j hj
      cases hj
    photoOwn := ho.photoOwn_identityEnds
    unread := fun hread u ha => ho.unread hread u (ha.of_reaped rfl rfl (.inr hfail))
    identityShown := ho.identity_carried (fun ha => ha.reaped hrun rfl rfl) rfl
    photoShown := ho.photo_carried (fun ha => ha.reaped hrun rfl rfl) rfl rfl }

lemma Owned.identityAnswers (ho : Owned h b s) (hi : s.identityOp = some i)
    (hok : t.status = .ok) :
    Owned h b { s.identityEnds i t with
      identityRead := true
      identity := .rebuild h.rules h.chars t.identityResult } := by
  obtain ⟨hp, hreq⟩ := ho.identity i hi
  obtain ⟨hb, hown⟩ := ho.identityOwn i hi
  have hwired := ho.toWired.identityEnds hi t
  exact {
    alive := hwired.alive
    identity := hwired.identity
    photo := hwired.photo
    pending := hwired.pending
    heard := hwired.heard
    live := ho.live
    bound := ho.bound
    unbound := ho.unbound
    identityOwn := by
      intro j hj
      cases hj
    photoOwn := ho.photoOwn_identityEnds
    unread := fun hread => by cases hread
    -- What is shown now is this very terminal, brought by an operation of the bound card.
    identityShown := by
      intro _
      refine ⟨t, ?_, rfl⟩
      rw [← hreq]
      exact answered_self hb hp hown hok rfl rfl
    photoShown := ho.photo_carried (fun ha => ha.reaped hp.running rfl rfl) rfl rfl }

lemma Owned.photoFails (ho : Owned h b s) (hi : s.photoOp = some i) :
    Owned h b (s.photoEnds i t) := by
  obtain ⟨hp, hreq⟩ := ho.photo i hi
  have hother : (s.client.ops i).request ≠ .readIdentity := by simp [hreq]
  exact {
    toWired := ho.toWired.photoEnds hi t
    live := ho.live
    bound := ho.bound
    unbound := ho.unbound
    identityOwn := by
      intro j hj
      obtain ⟨hb, hown⟩ := ho.identityOwn j hj
      exact ⟨hb, by simpa [CardReads.photoEnds, reaped] using hown⟩
    photoOwn := by
      intro j hj
      cases hj
    unread := fun hread u ha => ho.unread hread u (ha.of_reaped rfl rfl (.inl hother))
    identityShown := ho.identity_carried (fun ha => ha.reaped hp.running rfl rfl) rfl
    photoShown := ho.photo_carried (fun ha => ha.reaped hp.running rfl rfl) rfl rfl }

lemma Owned.photoAnswers (ho : Owned h b s) (hi : s.photoOp = some i) (hok : t.status = .ok)
    {bytes : QByteArray} {image : QImage} (hphoto : photoOf h t = some (bytes, image)) :
    Owned h b ((s.photoEnds i t).setPhoto h bytes image) := by
  obtain ⟨hp, hreq⟩ := ho.photo i hi
  obtain ⟨hb, hown⟩ := ho.photoOwn i hi
  have hends : Owned h b (s.photoEnds i t) := ho.photoFails hi
  exact {
    alive := hends.alive
    identity := hends.identity
    photo := hends.photo
    pending := hends.pending
    heard := hends.heard
    live := hends.live
    bound := hends.bound
    unbound := hends.unbound
    identityOwn := hends.identityOwn
    photoOwn := hends.photoOwn
    unread := hends.unread
    identityShown := hends.identityShown
    photoShown := by
      intro _
      refine ⟨t, bytes, image, ?_, hphoto, rfl, rfl, by simp [setPhoto]⟩
      rw [← hreq]
      exact answered_self hb hp hown hok rfl rfl }

/-- The terminal of the photo read. -/
lemma Owned.onPhotoFinished (ho : Owned h b s) (hi : s.photoOp = some i) :
    Owned h b (CardReads.onPhotoFinished h { s with client := s.client.finish i t } t) := by
  unfold CardReads.onPhotoFinished
  simp only [hi]
  split_ifs with hok
  · exact ho.photoFails hi
  · cases hphoto : photoOf h t with
    | none => exact ho.photoFails hi
    | some p => exact ho.photoAnswers hi (not_not.1 hok) hphoto

/-- Whatever it brings, it reaps the read and leaves the rest of the wiring alone. -/
lemma onPhotoFinished_frame (hi : s.photoOp = some i) (t : Terminal) :
    (CardReads.onPhotoFinished h { s with client := s.client.finish i t } t).client =
        reaped s.client i t ∧
      (CardReads.onPhotoFinished h { s with client := s.client.finish i t } t).card = s.card ∧
      (CardReads.onPhotoFinished h { s with client := s.client.finish i t } t).identityOp =
        s.identityOp := by
  simp only [CardReads.onPhotoFinished, hi]
  split_ifs
  · exact ⟨rfl, rfl, rfl⟩
  · split <;> exact ⟨rfl, rfl, rfl⟩

end Ends

end CardReads

end LibreKDE.Plasmoid
