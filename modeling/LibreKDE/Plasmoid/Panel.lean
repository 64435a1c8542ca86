import LibreKDE.Plasmoid.Alone

/-!
# The widgets of one process

The widgets of one process share one client and one photo store.  `Panel` is that process: a
widget may be added at any time, each answers its own events, the client's announcements reach
every widget that lives, and other hosts of the same client (signing jobs, a share) work with
operations of their own.  Of each widget it is noted which operations it minted.

`widget_alone` says that sharing does not show: what a widget of the process goes through is a
run of the machine of one handler that has a client and a store to itself.  Whatever was proved of
the runs of one handler so holds of every widget of a process.
-/

namespace LibreKDE.Plasmoid

open Reactive SmartCardHandler
open Client (SamePointer)

variable {h : PlasmoidHost}

/-- A widget of the process, and the operations it minted, in order. -/
structure Seat where
  handler : SmartCardHandler
  own : List ℕ := []

/-- The process: the client and the store its widgets share, and the widgets. -/
structure Panel where
  client : Client
  photoStore : CardPhotoStore
  /-- What `nextPhotoSlot` counts. -/
  counter : ℕ
  seats : List Seat

/-- What can happen to the process. -/
inductive PanelEvent
  /-- A widget is added. -/
  | construct
  /-- The registry moves, unnoticed by any slot, and no card goes. -/
  | registry (r : Registry)
  /-- The registry moves, cards may go, and the client announces it. -/
  | registryChanged (r : Registry)
  /-- The client announces something that moved before, or did not move. -/
  | announced (e : Event)
  /-- One widget is reached: by its user, by an operation of its own, by one of its jobs. -/
  | widget (w : ℕ) (e : Event)
  /-- Another host of the client goes on with its own operations. -/
  | others (minted : ℕ) (ops : ℕ → Operation)

namespace Panel

variable (h) (d : Panel)

/-- A widget, as it sees what it shares. -/
def seen (x : Seat) : SmartCardHandler :=
  { x.handler with client := d.client, photoStore := d.photoStore }

/-- `nextPhotoSlot`: the slots count from one, on 64 bits. -/
def nextPhotoSlot : ℕ := (d.counter + 1) % 2 ^ 64

/-- The widget that is added next, with the operations its constructor mints. -/
def arrival : Seat :=
  let u := SmartCardHandler.construct h d.client d.photoStore d.nextPhotoSlot
  { handler := u, own := d.client.mintedSince u.client }

/-- A widget is added: it is constructed over what is shared, and its own operations are those its
constructor minted. -/
def construct : Panel where
  client := (d.arrival h).handler.client
  photoStore := (d.arrival h).handler.photoStore
  counter := d.nextPhotoSlot
  seats := d.seats ++ [d.arrival h]

/-- The widget is there, and was not destroyed. -/
def Lives (w : ℕ) (x : Seat) : Prop := d.seats[w]? = some x ∧ x.handler.destroyed = false

instance (w : ℕ) : Decidable (∃ x, d.Lives w x) :=
  decidable_of_iff (d.seats[w]?.any fun x => !x.handler.destroyed)
    (by simp [Lives, Option.any_eq_true_iff_get, Option.eq_some_iff_get_eq])

/-- A widget answers an event: it moves what is shared, and what it minted is its own. -/
def handle (w : ℕ) (e : Event) : Panel :=
  match d.seats[w]? with
  | none => d
  | some x =>
      let u := Plasmoid.step h (d.seen x) e
      { d with
        client := u.client
        photoStore := u.photoStore
        seats := d.seats.set w { handler := u, own := x.own ++ d.client.mintedSince u.client } }

/-- A widget is told, if it lives. -/
def tell (e : Event) (w : ℕ) : Panel := if ∃ x, d.Lives w x then d.handle h w e else d

/-- The widgets that live are told, in the order in which they were added. -/
def announce (e : Event) : Panel := (List.range d.seats.length).foldl (fun d w => d.tell h e w) d

/-- The registry moves under all widgets at once, before any is told. -/
def setRegistry (r : Registry) : Panel :=
  { d with
    client := d.client.setRegistry r
    seats := d.seats.map fun x => { x with handler := (d.seen x).setRegistry r } }

/-- What each event makes of the process. -/
def step : PanelEvent → Panel
  | .construct => d.construct h
  | .registry r => d.setRegistry (r.keeping d.client.registry)
  | .registryChanged r => (d.setRegistry r).announce h .refresh
  | .announced e => d.announce h e
  | .widget w e => d.handle h w e
  | .others minted ops => { d with client := { d.client with minted := minted, ops := ops } }

/-- The client's announcements, but for the registry. -/
def IsAnnouncement : Event → Prop
  | .refresh | .cardChanged _ | .agentStartFinished _ => True
  | _ => False

/-- A widget is added while the slots have not run out, is reached while it lives, and its
operations are nobody else's business. -/
def allows : PanelEvent → Prop
  | .construct => d.counter + 1 < 2 ^ 64
  | .registry _ | .registryChanged _ => True
  | .announced e => IsAnnouncement e
  | .widget w e => ∃ x, d.Lives w x ∧ Concerns x.own e ∧ e.guard (d.seen x)
  | .others minted ops =>
      d.client.minted ≤ minted ∧
        ∀ x ∈ d.seats, x.handler.destroyed = false → ∀ i ∈ x.own, ops i = d.client.ops i

end Panel

/-- No widget yet. -/
def Panel.Start (d : Panel) : Prop :=
  d.counter = 0 ∧ d.seats = [] ∧ ∀ slot, d.photoStore.images slot = none

/-- The process in its environment. -/
def panel (h : PlasmoidHost) : Machine Panel PanelEvent where
  start := Panel.Start
  allows := Panel.allows
  step := Panel.step h

namespace Panel

variable {d : Panel} {w : ℕ} {x : Seat} {s : SmartCardHandler} {e : Event}

/-- What a widget hears of an event, under the numbers it would know alone. -/
def hears (d : Panel) (w : ℕ) : PanelEvent → List Event
  | .construct | .others .. => []
  | .registry r => [.registry r]
  | .registryChanged r => [.registryChanged r]
  | .announced e => [e]
  | .widget w' e => if w' = w then (d.seats[w]?.map fun x => onOwn x.own e).toList else []

/-- What a widget hears along a run. -/
def heard (h : PlasmoidHost) (w : ℕ) : Panel → List PanelEvent → List Event
  | _, [] => []
  | d, e :: es => d.hears w e ++ heard h w (d.step h e) es

/-- Alone, the widget would be `s`: the two are the same but for the numbers of their operations. -/
def LooksLike (d : Panel) (w : ℕ) (s : SmartCardHandler) : Prop :=
  ∃ x, d.seats[w]? = some x ∧ Mirrors x.own (d.seen x) s

/-- What holds between two events of the process. -/
structure Orderly (d : Panel) : Prop where
  counter : d.counter = d.seats.length
  slots : ∀ (w : ℕ) (x : Seat), d.seats[w]? = some x → x.handler.photoSlot = w + 1
  unused : ∀ slot, d.counter < slot → d.photoStore.images slot = none
  lt : ∀ (w : ℕ) (x : Seat), d.seats[w]? = some x → ∀ i ∈ x.own, i < d.client.minted
  /-- No operation is of two widgets. -/
  disjoint : ∀ (w w' : ℕ) (x x' : Seat), d.seats[w]? = some x → d.seats[w']? = some x' → w ≠ w' →
    ∀ i ∈ x.own, i ∉ x'.own
  fits : ∀ w x, d.Lives w x → ∃ p, Fits x.own (d.seen x) p

/-- A widget is not concerned by what leaves its operations and its photo alone. -/
lemma mirrors_seen {d' : Panel} (hr : d'.client.registry = d.client.registry)
    (hn : d.client.minted ≤ d'.client.minted)
    (hops : ∀ i ∈ x.own, d'.client.ops i = d.client.ops i)
    (himage : d'.photoStore.images x.handler.photoSlot =
      d.photoStore.images x.handler.photoSlot)
    (hs : Mirrors x.own (d.seen x) s) : Mirrors x.own (d'.seen x) s := by
  obtain ⟨p, rfl, hp⟩ := hs
  have hover : (d'.seen x).onto p = (d.seen x).onto p := by
    simp only [seen, onto, hr]
  refine ⟨p, hover.symm, ?_, hp.identityOp, hp.photoOp, hp.image.trans himage.symm⟩
  rw [hover]
  exact hp.client.others hr hn hops

/-- Nothing is out of order when one widget changed, or was added. -/
lemma Orderly.of_seat {d' : Panel} {y : Seat} (hd : d.Orderly)
    (hcounter : d'.counter = d'.seats.length)
    (hseats : ∀ w', d'.seats[w']? = if w' = w then some y else d.seats[w']?)
    (hn : d.client.minted ≤ d'.client.minted) (hslot : y.handler.photoSlot = w + 1)
    (hunused : ∀ slot, d'.counter < slot → d'.photoStore.images slot = none)
    (hown : ∀ i ∈ y.own, (∃ x, d.seats[w]? = some x ∧ i ∈ x.own) ∨
      d.client.minted ≤ i ∧ i < d'.client.minted)
    (hothers : ∀ w' (x' : Seat), d.seats[w']? = some x' → w' ≠ w →
      ∀ s, Mirrors x'.own (d.seen x') s → Mirrors x'.own (d'.seen x') s)
    (hself : ∃ s, Mirrors y.own (d'.seen y) s) : d'.Orderly := by
  -- The operations of the widget that changed are its old ones, or new.
  have hfree : ∀ (w' : ℕ) (x' : Seat), d.seats[w']? = some x' → w' ≠ w →
      ∀ i ∈ y.own, i ∉ x'.own := by
    intro w' x' hx' hne i hi hi'
    rcases hown i hi with ⟨x, hx, hold⟩ | hnew
    · exact hd.disjoint w w' x x' hx hx' (Ne.symm hne) i hold hi'
    · exact absurd (hd.lt w' x' hx' i hi') (not_lt_of_ge hnew.1)
  refine ⟨hcounter, ?_, hunused, ?_, ?_, ?_⟩
  · intro w' x' hx'
    rw [hseats] at hx'
    split_ifs at hx' with hw
    · obtain rfl : y = x' := Option.some.inj hx'
      rw [hw, hslot]
    · exact hd.slots w' x' hx'
  · intro w' x' hx' i hi
    rw [hseats] at hx'
    split_ifs at hx' with hw
    · obtain rfl : y = x' := Option.some.inj hx'
      rcases hown i hi with ⟨x, hx, hold⟩ | hnew
      · exact (hd.lt w x hx i hold).trans_le hn
      · exact hnew.2
    · exact (hd.lt w' x' hx' i hi).trans_le hn
  · intro w' w'' x' x'' hx' hx'' hne i hi hi'
    rw [hseats] at hx' hx''
    split_ifs at hx' hx'' with hw hw' hw'
    · exact hne (hw.trans hw'.symm)
    · obtain rfl : y = x' := Option.some.inj hx'
      exact hfree w'' x'' hx'' hw' i hi hi'
    · obtain rfl : y = x'' := Option.some.inj hx''
      exact hfree w' x' hx' hw i hi' hi
    · exact hd.disjoint w' w'' x' x'' hx' hx'' hne i hi hi'
  · rintro w' x' ⟨hx', halive⟩
    rw [hseats] at hx'
    split_ifs at hx' with hw
    · obtain rfl : y = x' := Option.some.inj hx'
      obtain ⟨s, p, -, hp⟩ := hself
      exact ⟨p, hp⟩
    · obtain ⟨p, hp⟩ := hd.fits w' x' ⟨hx', halive⟩
      obtain ⟨p', -, hp'⟩ := hothers w' x' hx' hw _ ⟨p, rfl, hp⟩
      exact ⟨p', hp'⟩

/-! ## One widget answers -/

/-- The widget when it answered. -/
def answered (h : PlasmoidHost) (d : Panel) (x : Seat) (e : Event) : Seat where
  handler := Plasmoid.step h (d.seen x) e
  own := x.own ++ d.client.mintedSince (Plasmoid.step h (d.seen x) e).client

lemma handle_eq (hx : d.seats[w]? = some x) :
    d.handle h w e = { d with
      client := (Plasmoid.step h (d.seen x) e).client
      photoStore := (Plasmoid.step h (d.seen x) e).photoStore
      seats := d.seats.set w (d.answered h x e) } := by
  rw [handle, hx]
  rfl

/-- Every other widget stays as it was. -/
lemma seats_handle (hx : d.seats[w]? = some x) (w' : ℕ) :
    (d.handle h w e).seats[w']? = if w' = w then some (d.answered h x e) else d.seats[w']? := by
  have hlt : w < d.seats.length := (List.getElem?_eq_some_iff.1 hx).1
  rw [handle_eq hx, List.getElem?_set]
  by_cases hw : w' = w
  · rw [if_pos hw.symm, if_pos hw, if_pos hlt]
  · rw [if_neg (Ne.symm hw), if_neg hw]

lemma seen_answered (hx : d.seats[w]? = some x) :
    (d.handle h w e).seen (d.answered h x e) = Plasmoid.step h (d.seen x) e := by
  rw [handle_eq hx]
  rfl

/-- A widget that answers stays what it would be alone. -/
lemma mirrors_answered (hx : d.seats[w]? = some x) (he : Concerns x.own e)
    (hs : Mirrors x.own (d.seen x) s) :
    Mirrors (d.answered h x e).own ((d.handle h w e).seen (d.answered h x e))
      (Plasmoid.step h s (onOwn x.own e)) := by
  obtain ⟨p, rfl, hp⟩ := hs
  rw [seen_answered hx]
  exact (inStep_step hp he).mirrors

section Handle

variable (hd : d.Orderly) (hx : d.Lives w x) (he : Concerns x.own e)

include hd hx he

/-- A widget that lives works with what is its own. -/
lemma inStep_handle : ∃ p, Fits x.own (d.seen x) p ∧
    InStep x.own (d.seen x) (Plasmoid.step h (d.seen x) e)
      (Plasmoid.step h ((d.seen x).onto p) (onOwn x.own e)) := by
  obtain ⟨p, hp⟩ := hd.fits w x hx
  exact ⟨p, hp, inStep_step hp he⟩

/-- And so does every other one. -/
lemma mirrors_handle {w' : ℕ} {x' : Seat} (hx' : d.seats[w']? = some x') (hne : w' ≠ w)
    (hs : Mirrors x'.own (d.seen x') s) : Mirrors x'.own ((d.handle h w e).seen x') s := by
  obtain ⟨p, -, hstep⟩ := inStep_handle (h := h) hd hx he
  rw [handle_eq hx.1]
  refine mirrors_seen hstep.registry hstep.minted (fun i hi => ?_) ?_ hs
  · exact hstep.frame i (hd.lt w' x' hx' i hi) (hd.disjoint w' w x' x hx' hx.1 hne i hi)
  · refine hstep.images _ ?_
    show x'.handler.photoSlot ≠ x.handler.photoSlot
    rw [hd.slots w' x' hx', hd.slots w x hx.1]
    omega

lemma orderly_handle : (d.handle h w e).Orderly := by
  obtain ⟨p, hp, hstep⟩ := inStep_handle (h := h) hd hx he
  have hlt : w < d.seats.length := (List.getElem?_eq_some_iff.1 hx.1).1
  refine hd.of_seat ?_ (seats_handle hx.1) ?_ ?_ ?_ ?_ (fun w' x' hx' hne s hs =>
    mirrors_handle hd hx he hx' hne hs) ⟨_, mirrors_answered hx.1 he ⟨p, rfl, hp⟩⟩
  · rw [handle_eq hx.1]
    exact hd.counter.trans List.length_set.symm
  · rw [handle_eq hx.1]
    exact hstep.minted
  · exact hstep.slot.trans (hd.slots w x hx.1)
  · intro slot hslot
    rw [handle_eq hx.1] at hslot ⊢
    refine (hstep.images slot ?_).trans (hd.unused slot hslot)
    show slot ≠ x.handler.photoSlot
    rw [hd.slots w x hx.1]
    have hcounter := hd.counter
    have hslot' : d.counter < slot := hslot
    omega
  · intro i hi
    rw [handle_eq hx.1]
    exact (List.mem_append.1 hi).imp (fun hold => ⟨x, hx.1, hold⟩)
      (Client.mem_mintedSince hstep.minted).1

end Handle

/-! ## Announcements -/

/-- The widget is left alone: its seat is as it was, and what it would be alone it still would. -/
def Spares (w : ℕ) (d d' : Panel) : Prop :=
  ∀ x, d.seats[w]? = some x → d'.seats[w]? = some x ∧
    ∀ s, Mirrors x.own (d.seen x) s → Mirrors x.own (d'.seen x) s

lemma concerns_of_announcement (he : IsAnnouncement e) (own : List ℕ) :
    Concerns own e ∧ onOwn own e = e := by
  cases e <;> simp_all [IsAnnouncement, Concerns, onOwn]

lemma orderly_tell (hd : d.Orderly) (he : IsAnnouncement e) (w : ℕ) : (d.tell h e w).Orderly := by
  unfold tell
  split_ifs with hlives
  · obtain ⟨x, hx⟩ := hlives
    exact orderly_handle hd hx (concerns_of_announcement he _).1
  · exact hd

lemma spares_tell (hd : d.Orderly) (he : IsAnnouncement e) {w w' : ℕ}
    (hw : w' ≠ w ∨ ¬ ∃ x, d.Lives w' x) : Spares w' d (d.tell h e w) := by
  intro x' hx'
  unfold tell
  split_ifs with hlives
  · obtain ⟨x, hx⟩ := hlives
    have hne : w' ≠ w := by
      rcases hw with hne | hdead
      · exact hne
      · rintro rfl
        exact hdead ⟨x, hx⟩
    have hconcerns := (concerns_of_announcement he x.own).1
    rw [seats_handle hx.1, if_neg hne]
    exact ⟨hx', fun s hs => mirrors_handle hd hx hconcerns hx' hne hs⟩
  · exact ⟨hx', fun s hs => hs⟩

/-- A widget that lives answers when it is told. -/
lemma looksLike_tell (hx : d.Lives w x) (he : IsAnnouncement e)
    (hs : Mirrors x.own (d.seen x) s) : (d.tell h e w).LooksLike w (Plasmoid.step h s e) := by
  obtain ⟨hconcerns, honOwn⟩ := concerns_of_announcement he x.own
  have hanswered := mirrors_answered (h := h) hx.1 hconcerns hs
  rw [honOwn] at hanswered
  rw [tell, if_pos ⟨x, hx⟩]
  exact ⟨_, by rw [seats_handle hx.1, if_pos rfl], hanswered⟩

/-- Widgets are told one after the other. -/
lemma tells (he : IsAnnouncement e) {ws : List ℕ} (hws : ws.Nodup) (hd : d.Orderly) :
    (ws.foldl (fun d w => d.tell h e w) d).Orderly ∧
      (∀ w, (w ∉ ws ∨ ¬ ∃ x, d.Lives w x) →
        Spares w d (ws.foldl (fun d w => d.tell h e w) d)) ∧
      ∀ w ∈ ws, ∀ x, d.Lives w x → ∀ s, Mirrors x.own (d.seen x) s →
        (ws.foldl (fun d w => d.tell h e w) d).LooksLike w (Plasmoid.step h s e) := by
  induction ws generalizing d with
  | nil => exact ⟨hd, fun w _ x hx => ⟨hx, fun s hs => hs⟩, by simp⟩
  | cons w₀ ws ih =>
      obtain ⟨hw₀, hws⟩ := List.nodup_cons.1 hws
      obtain ⟨horderly, hspares, htold⟩ := ih hws (orderly_tell (h := h) hd he w₀)
      refine ⟨horderly, fun w hw x hx => ?_, fun w hw x hx s hs => ?_⟩
      · have hne : w ≠ w₀ ∨ ¬ ∃ x, d.Lives w x := hw.imp_left List.ne_of_not_mem_cons
        obtain ⟨hx₁, hs₁⟩ := spares_tell (h := h) hd he hne x hx
        have hrest : w ∉ ws ∨ ¬ ∃ x, (d.tell h e w₀).Lives w x := by
          refine hw.imp List.not_mem_of_not_mem_cons fun hdead => ?_
          rintro ⟨x₁, hx₁', halive⟩
          obtain rfl : x = x₁ := Option.some.inj (hx₁.symm.trans hx₁')
          exact hdead ⟨x, hx, halive⟩
        obtain ⟨hx₂, hs₂⟩ := hspares w hrest x hx₁
        exact ⟨hx₂, fun s hs => hs₂ s (hs₁ s hs)⟩
      · rcases List.mem_cons.1 hw with rfl | hmem
        · obtain ⟨x₁, hx₁, hs₁⟩ := looksLike_tell (h := h) hx he hs
          obtain ⟨hx₂, hs₂⟩ := hspares w (.inl hw₀) x₁ hx₁
          exact ⟨x₁, hx₂, hs₂ _ hs₁⟩
        · have hne : w ≠ w₀ := fun heq => hw₀ (heq ▸ hmem)
          obtain ⟨hx₁, hs₁⟩ := spares_tell (h := h) hd he (.inl hne) x hx.1
          exact htold w hmem x ⟨hx₁, hx.2⟩ s (hs₁ s hs)

/-- What an announcement comes to. -/
lemma announces (he : IsAnnouncement e) (hd : d.Orderly) :
    (d.announce h e).Orderly ∧
      (∀ w, (¬ ∃ x, d.Lives w x) → Spares w d (d.announce h e)) ∧
      ∀ w x, d.Lives w x → ∀ s, Mirrors x.own (d.seen x) s →
        (d.announce h e).LooksLike w (Plasmoid.step h s e) := by
  obtain ⟨horderly, hspares, htold⟩ := tells (h := h) he List.nodup_range hd
  refine ⟨horderly, fun w hw => hspares w (.inr hw), fun w x hx => htold w ?_ x hx⟩
  rw [List.mem_range]
  exact (List.getElem?_eq_some_iff.1 hx.1).1

/-! ## The registry moves, and widgets are added -/

lemma seats_setRegistry (r : Registry) (w : ℕ) :
    (d.setRegistry r).seats[w]? =
      d.seats[w]?.map fun x => { x with handler := (d.seen x).setRegistry r } := by
  simp [setRegistry]

lemma mirrors_setRegistry {r : Registry} (hs : Mirrors x.own (d.seen x) s) :
    Mirrors x.own ((d.setRegistry r).seen { x with handler := (d.seen x).setRegistry r })
      (s.setRegistry r) := by
  obtain ⟨p, rfl, hp⟩ := hs
  obtain ⟨p', heq, hp'⟩ := hp.setRegistry r
  exact ⟨p', heq, hp'⟩

lemma orderly_setRegistry (hd : d.Orderly) (r : Registry) : (d.setRegistry r).Orderly := by
  have hseats : ∀ (w : ℕ) (x' : Seat), (d.setRegistry r).seats[w]? = some x' →
      ∃ x : Seat, d.seats[w]? = some x ∧
        ({ x with handler := (d.seen x).setRegistry r } : Seat) = x' := by
    intro w x' hx'
    rw [seats_setRegistry] at hx'
    exact Option.map_eq_some_iff.1 hx'
  refine ⟨?_, ?_, hd.unused, ?_, ?_, ?_⟩
  · exact hd.counter.trans (List.length_map _).symm
  · intro w x' hx'
    obtain ⟨x, hx, rfl⟩ := hseats w x' hx'
    exact hd.slots w x hx
  · intro w x' hx'
    obtain ⟨x, hx, rfl⟩ := hseats w x' hx'
    exact hd.lt w x hx
  · intro w w' x' x'' hx' hx''
    obtain ⟨x, hx, rfl⟩ := hseats w x' hx'
    obtain ⟨y, hy, rfl⟩ := hseats w' x'' hx''
    exact hd.disjoint w w' x y hx hy
  · rintro w x' ⟨hx', halive⟩
    obtain ⟨x, hx, rfl⟩ := hseats w x' hx'
    obtain ⟨p, hp⟩ := hd.fits w x ⟨hx, halive⟩
    obtain ⟨p', -, hp'⟩ := mirrors_setRegistry (r := r) ⟨p, rfl, hp⟩
    exact ⟨p', hp'⟩

/-- The widget that is added, if it were alone. -/
def newcomer (h : PlasmoidHost) (d : Panel) : SmartCardHandler :=
  .construct h { d.client with minted := 0 } ⟨fun _ => none⟩ d.nextPhotoSlot

lemma start_newcomer : Plasmoid.Start h (d.newcomer h) :=
  ⟨_, _, _, rfl, rfl, rfl⟩

section Construct

variable (hd : d.Orderly) (hc : d.allows .construct)

include hd hc

lemma nextPhotoSlot_eq : d.nextPhotoSlot = d.seats.length + 1 := by
  have hlt : d.counter + 1 < 2 ^ 64 := hc
  rw [nextPhotoSlot, Nat.mod_eq_of_lt hlt, hd.counter]

/-- A widget starts with nothing of its own. -/
lemma inStep_construct :
    InStep [] { client := d.client, photoStore := d.photoStore, photoSlot := d.nextPhotoSlot }
      (SmartCardHandler.construct h d.client d.photoStore d.nextPhotoSlot) (d.newcomer h) := by
  refine Plays.refresh [] _ ⟨0, d.client.ops, none, none, ⟨fun _ => none⟩⟩ ⟨?_, .none, .none, ?_⟩
  · exact .of_registry _ _ rfl rfl
  · refine (hd.unused _ ?_).symm
    show d.counter < d.nextPhotoSlot
    rw [nextPhotoSlot_eq hd hc, hd.counter]
    exact Nat.lt_succ_self _

lemma mirrors_arrival :
    Mirrors (d.arrival h).own ((d.construct h).seen (d.arrival h)) (d.newcomer h) :=
  (inStep_construct (h := h) hd hc).mirrors

omit hd hc in
lemma seats_construct (w : ℕ) :
    (d.construct h).seats[w]? = if w = d.seats.length then some (d.arrival h) else d.seats[w]? := by
  rw [construct, List.getElem?_append]
  rcases lt_trichotomy w d.seats.length with hlt | rfl | hgt
  · rw [if_pos hlt, if_neg hlt.ne]
  · simp
  · rw [if_neg (not_lt_of_gt hgt), if_neg hgt.ne', List.getElem?_eq_none hgt.le,
      List.getElem?_eq_none]
    simp only [List.length_singleton]
    omega

/-- The widgets that are there already do not notice. -/
lemma spares_construct (w : ℕ) : Spares w d (d.construct h) := by
  intro x hx
  have hstep := inStep_construct (h := h) hd hc
  have hlt : w < d.seats.length := (List.getElem?_eq_some_iff.1 hx).1
  refine ⟨?_, fun s hs => mirrors_seen hstep.registry hstep.minted (fun i hi => ?_) ?_ hs⟩
  · rw [construct, List.getElem?_append_left hlt]
    exact hx
  · exact hstep.frame i (hd.lt w x hx i hi) (by simp)
  · refine hstep.images _ ?_
    show x.handler.photoSlot ≠ d.nextPhotoSlot
    rw [hd.slots w x hx, nextPhotoSlot_eq hd hc]
    omega

lemma orderly_construct : (d.construct h).Orderly := by
  have hstep := inStep_construct (h := h) hd hc
  have hslot := nextPhotoSlot_eq hd hc
  refine hd.of_seat ?_ seats_construct ?_ ?_ ?_ ?_
    (fun w x hx _ => (spares_construct hd hc w x hx).2) ⟨_, mirrors_arrival hd hc⟩
  · simp [construct, hslot]
  · exact hstep.minted
  · exact hstep.slot.trans hslot
  · intro slot hlt
    have hlt' : d.nextPhotoSlot < slot := hlt
    refine (hstep.images slot hlt'.ne').trans (hd.unused slot ?_)
    rw [hd.counter]
    omega
  · exact fun i hi => .inr ((Client.mem_mintedSince hstep.minted).1 hi)

end Construct

/-! ## Every event -/

lemma mirrors_others {minted : ℕ} {ops : ℕ → Operation} (hx : d.Lives w x)
    (hn : d.client.minted ≤ minted)
    (hops : ∀ x ∈ d.seats, x.handler.destroyed = false → ∀ i ∈ x.own, ops i = d.client.ops i)
    (hs : Mirrors x.own (d.seen x) s) :
    Mirrors x.own ((d.step h (.others minted ops)).seen x) s :=
  mirrors_seen (d := d) rfl hn (hops x (List.mem_of_getElem? hx.1) hx.2) rfl hs

/-- Whatever happens, the process stays in order. -/
lemma orderly_step (hd : d.Orderly) {e : PanelEvent} (hal : d.allows e) : (d.step h e).Orderly := by
  cases e with
  | construct => exact orderly_construct hd hal
  | registry r => exact orderly_setRegistry hd _
  | registryChanged r => exact (announces (e := .refresh) trivial (orderly_setRegistry hd r)).1
  | announced e => exact (announces hal hd).1
  | widget w e =>
      obtain ⟨x, hx, he, -⟩ := hal
      exact orderly_handle hd hx he
  | others minted ops =>
      obtain ⟨hn, hops⟩ := hal
      refine ⟨hd.counter, hd.slots, hd.unused, fun w x hx i hi => (hd.lt w x hx i hi).trans_le hn,
        hd.disjoint, fun w x hx => ?_⟩
      have hx' : d.Lives w x := hx
      obtain ⟨p, hp⟩ := hd.fits w x hx'
      obtain ⟨p', -, hp'⟩ := mirrors_others (h := h) hx' hn hops ⟨p, rfl, hp⟩
      exact ⟨p', hp'⟩

/-- A widget alone is alive, and ready for what the shared one is. -/
lemma allows_of_mirrors (hx : d.Lives w x) (hs : Mirrors x.own (d.seen x) s)
    (hg : e.guard s) : Plasmoid.allows s e := by
  obtain ⟨p, rfl, hp⟩ := hs
  exact ⟨.inl hx.2, hg⟩

/-- **What a widget makes of an event of the process, it would make of it alone.** -/
theorem looksLike_step (hd : d.Orderly) {e : PanelEvent} (hal : d.allows e) (hx : d.Lives w x)
    (hs : Mirrors x.own (d.seen x) s) :
    (machine h).Admits s (d.hears w e) ∧
      (d.step h e).LooksLike w ((machine h).exec s (d.hears w e)) := by
  have hsame : s.client.registry = d.client.registry := by
    obtain ⟨p, rfl, hp⟩ := hs
    rfl
  cases e with
  | construct =>
      obtain ⟨hx', hs'⟩ := spares_construct (h := h) hd hal w x hx.1
      exact ⟨trivial, x, hx', hs' s hs⟩
  | registry r =>
      refine ⟨⟨allows_of_mirrors hx hs trivial, trivial⟩,
        { x with handler := (d.seen x).setRegistry (r.keeping d.client.registry) }, ?_, ?_⟩
      · show (d.setRegistry _).seats[w]? = _
        rw [seats_setRegistry, hx.1]
        rfl
      · show Mirrors _ _ (s.setRegistry (r.keeping s.client.registry))
        rw [hsame]
        exact mirrors_setRegistry hs
  | registryChanged r =>
      refine ⟨⟨allows_of_mirrors hx hs trivial, trivial⟩, ?_⟩
      have hmoved : (d.setRegistry r).Lives w
          { x with handler := (d.seen x).setRegistry r } := by
        refine ⟨?_, hx.2⟩
        rw [seats_setRegistry, hx.1]
        rfl
      exact (announces (e := .refresh) trivial (orderly_setRegistry hd r)).2.2 w _ hmoved _
        (mirrors_setRegistry hs)
  | announced e =>
      have hg : e.guard s := by cases e <;> first | exact hal.elim | trivial
      exact ⟨⟨allows_of_mirrors hx hs hg, trivial⟩, (announces hal hd).2.2 w x hx s hs⟩
  | widget w₀ e =>
      obtain ⟨x₀, hx₀, he, hg⟩ := hal
      by_cases hw : w₀ = w
      · subst hw
        obtain rfl : x = x₀ := Option.some.inj (hx.1.symm.trans hx₀.1)
        have hhears : d.hears w₀ (.widget w₀ e) = [onOwn x.own e] := by simp [hears, hx.1]
        rw [hhears]
        obtain ⟨p, rfl, hp⟩ := hs
        refine ⟨⟨⟨.inl hx.2, hp.guard he hg⟩, trivial⟩, d.answered h x e, ?_,
          mirrors_answered hx.1 he ⟨p, rfl, hp⟩⟩
        show (d.handle h w₀ e).seats[w₀]? = _
        rw [seats_handle hx.1, if_pos rfl]
      · have hhears : d.hears w (.widget w₀ e) = [] := if_neg hw
        rw [hhears]
        refine ⟨trivial, x, ?_, mirrors_handle hd hx₀ he hx.1 (Ne.symm hw) hs⟩
        show (d.handle h w₀ e).seats[w]? = _
        rw [seats_handle hx₀.1, if_neg (Ne.symm hw)]
        exact hx.1
  | others minted ops =>
      obtain ⟨hn, hops⟩ := hal
      exact ⟨trivial, x, hx.1, mirrors_others hx hn hops hs⟩

/-- A widget that is gone does not come back. -/
lemma gone_step (hd : d.Orderly) {e : PanelEvent} (hal : d.allows e) (hx : d.seats[w]? = some x)
    (hgone : x.handler.destroyed = true) :
    ∃ x', (d.step h e).seats[w]? = some x' ∧ x'.handler.destroyed = true := by
  have hdead : ¬ ∃ x, d.Lives w x := by
    rintro ⟨y, hy, halive⟩
    obtain rfl : x = y := Option.some.inj (hx.symm.trans hy)
    exact nomatch hgone.symm.trans halive
  have hmoved : ∀ r, (d.setRegistry r).seats[w]? =
      some { x with handler := (d.seen x).setRegistry r } := by
    intro r
    rw [seats_setRegistry, hx]
    rfl
  cases e with
  | construct => exact ⟨x, (spares_construct hd hal w x hx).1, hgone⟩
  | registry r => exact ⟨_, hmoved _, hgone⟩
  | registryChanged r =>
      have hdead' : ¬ ∃ x, (d.setRegistry r).Lives w x := by
        rintro ⟨y, hy, halive⟩
        obtain rfl := Option.some.inj (hy.symm.trans (hmoved r))
        exact nomatch hgone.symm.trans halive
      have hspares := (announces (h := h) (e := .refresh) trivial (orderly_setRegistry hd r)).2.1
      exact ⟨_, (hspares w hdead' _ (hmoved r)).1, hgone⟩
  | announced e => exact ⟨x, ((announces hal hd).2.1 w hdead x hx).1, hgone⟩
  | widget w₀ e =>
      obtain ⟨x₀, hx₀, -⟩ := hal
      have hne : w ≠ w₀ := by
        rintro rfl
        exact hdead ⟨x₀, hx₀⟩
      refine ⟨x, ?_, hgone⟩
      show (d.handle h w₀ e).seats[w]? = _
      rw [seats_handle hx₀.1, if_neg hne]
      exact hx
  | others minted ops => exact ⟨x, hx, hgone⟩

/-! ## Runs -/

lemma gone_exec {es : List PanelEvent} (hd : d.Orderly) (ha : (panel h).Admits d es)
    (hx : d.seats[w]? = some x) (hgone : x.handler.destroyed = true) :
    ¬ ∃ x', ((panel h).exec d es).Lives w x' := by
  induction es generalizing d x with
  | nil =>
      rintro ⟨x', hx', halive⟩
      obtain rfl : x = x' := Option.some.inj (hx.symm.trans hx')
      exact nomatch hgone.symm.trans halive
  | cons e es ih =>
      obtain ⟨x', hx', hgone'⟩ := gone_step (h := h) hd ha.1 hx hgone
      exact ih (orderly_step hd ha.1) ha.2 hx' hgone'

/-- What a widget makes of a run of the process, it would make of it alone. -/
lemma looksLike_exec {es : List PanelEvent} (hd : d.Orderly) (ha : (panel h).Admits d es)
    (hs : d.LooksLike w s) (hlives : ∃ x, ((panel h).exec d es).Lives w x) :
    (machine h).Admits s (heard h w d es) ∧
      ((panel h).exec d es).LooksLike w ((machine h).exec s (heard h w d es)) := by
  induction es generalizing d s with
  | nil => exact ⟨trivial, hs⟩
  | cons e es ih =>
      obtain ⟨x, hx, hs⟩ := hs
      have halive : x.handler.destroyed = false := by
        by_contra hgone
        exact gone_exec hd ha hx (by simpa using hgone) hlives
      obtain ⟨hadmits, hnext⟩ := looksLike_step (h := h) hd ha.1 ⟨hx, halive⟩ hs
      obtain ⟨hadmits', hlast⟩ := ih (orderly_step hd ha.1) ha.2 hnext hlives
      rw [heard, Machine.exec_append]
      exact ⟨Machine.admits_append.2 ⟨hadmits, hadmits'⟩, hlast⟩

lemma Start.orderly (hd : d.Start) : d.Orderly := by
  obtain ⟨hcounter, hseats, hstore⟩ := hd
  refine ⟨by rw [hcounter, hseats]; rfl, ?_, fun slot _ => hstore slot, ?_, ?_, ?_⟩
  all_goals simp [hseats, Lives]

lemma invariant_orderly : (panel h).Invariant Orderly where
  start _ hd := hd.orderly
  kept _ _ hd hal := orderly_step hd hal

/-- **Sharing does not show.**  Take a widget that is added to a process and still lives at the end
of a run.  What became of it is what would have become of a handler with a client and a photo
store of its own, along the events the widget heard of: the two differ in nothing but the numbers
of their operations. -/
theorem widget_alone (h : PlasmoidHost) {d : Panel} {es : List PanelEvent}
    (hd : (panel h).Reachable d) (ha : (panel h).Admits d (.construct :: es))
    (hlives : ∃ x, ((panel h).exec d (.construct :: es)).Lives d.seats.length x) :
    Plasmoid.Start h (d.newcomer h) ∧
      (machine h).Admits (d.newcomer h) (heard h d.seats.length (d.construct h) es) ∧
      ((panel h).exec d (.construct :: es)).LooksLike d.seats.length
        ((machine h).exec (d.newcomer h) (heard h d.seats.length (d.construct h) es)) := by
  have horderly : d.Orderly := invariant_orderly.reachable hd
  have hnew : (d.construct h).LooksLike d.seats.length (d.newcomer h) :=
    ⟨_, by rw [seats_construct, if_pos rfl], mirrors_arrival horderly ha.1⟩
  obtain ⟨hadmits, hlast⟩ := looksLike_exec (orderly_construct horderly ha.1) ha.2 hnew hlives
  exact ⟨start_newcomer, hadmits, hlast⟩

/-! ## Whose the reads are -/

/-- What holds of the reads of a widget of the process. -/
structure KeepsToItself (h : PlasmoidHost) (d : Panel) (x : Seat) : Prop where
  identity : ∀ i, x.handler.identityOp = some i → i ∈ x.own ∧ d.client.Pending i ∧
    (d.client.ops i).request = .readIdentity ∧ x.handler.card = some (d.client.ops i).card
  photo : ∀ i, x.handler.photoOp = some i → i ∈ x.own ∧ d.client.Pending i ∧
    (d.client.ops i).request = .getPhoto ∧ x.handler.card = some (d.client.ops i).card
  pending : ∀ i ∈ x.own, d.client.Pending i →
    x.handler.identityOp = some i ∨ x.handler.photoOp = some i
  /-- The identity it shows came from a read of its own of the card it has bound. -/
  identityShown : x.handler.identity.Shows → ∃ i ∈ x.own, ∃ t,
    (d.client.ops i).request = .readIdentity ∧ x.handler.card = some (d.client.ops i).card ∧
      (d.client.ops i).ended = some t ∧ t.status = .ok ∧
      x.handler.identity = .rebuild h.rules h.chars t.identityResult
  photoShown : x.handler.photo.Shows ∨ d.photoStore.images x.handler.photoSlot ≠ none →
    ∃ i ∈ x.own, ∃ t, (d.client.ops i).request = .getPhoto ∧
      x.handler.card = some (d.client.ops i).card ∧ (d.client.ops i).ended = some t ∧
      t.status = .ok ∧ ∃ bytes image, CardReads.photoOf h t = some (bytes, image) ∧
        x.handler.photo.photoBytes = bytes ∧
        d.photoStore.images x.handler.photoSlot = some image

/-- The widgets keep to themselves, and no operation is of two of them. -/
structure Sorted (h : PlasmoidHost) (d : Panel) : Prop where
  keeps : ∀ w x, d.Lives w x → KeepsToItself h d x
  disjoint : ∀ (w w' : ℕ) (x x' : Seat), d.seats[w]? = some x → d.seats[w']? = some x' → w ≠ w' →
    ∀ i ∈ x.own, i ∉ x'.own

/-- Between the two, no operation and no photo was touched but the widget's own. -/
def TouchesOwn (x : Seat) (d d' : Panel) : Prop :=
  (∀ i < d.client.minted, i ∉ x.own → d'.client.ops i = d.client.ops i) ∧
    ∀ slot ≠ x.handler.photoSlot, d'.photoStore.images slot = d.photoStore.images slot

/-- The process when, in an announcement, the turn comes to the widget. -/
def told (h : PlasmoidHost) (d : Panel) (e : Event) (w : ℕ) : Panel :=
  (List.range w).foldl (fun d w => d.tell h e w) d

/-- In an announcement each widget, in its turn, touches its own. -/
def TakesTurns (h : PlasmoidHost) (d : Panel) (e : Event) : Prop :=
  ∀ w x, (d.told h e w).seats[w]? = some x → TouchesOwn x (d.told h e w) (d.told h e (w + 1))

/-- A widget that answers, is told or is added touches no operation and no photo but its own.  What
the registry takes along when it moves is the client's doing, and `allows` says what the other hosts
of the client may touch. -/
def Sparing (h : PlasmoidHost) (d : Panel) : PanelEvent → Prop
  | .widget w e => ∀ x, d.seats[w]? = some x → TouchesOwn x d (d.handle h w e)
  | .announced e => TakesTurns h d e
  | .registryChanged r => TakesTurns h (d.setRegistry r) .refresh
  | .construct => TouchesOwn (d.arrival h) d (d.construct h)
  | .registry _ | .others _ _ => True

lemma orderly_told {d : Panel} {e : Event} (hd : d.Orderly) (he : IsAnnouncement e) (w : ℕ) :
    (d.told h e w).Orderly :=
  (tells he List.nodup_range hd).1

/-- A widget that lives touches its own, and one that does not touches nothing. -/
lemma touchesOwn_handle {d : Panel} {w : ℕ} {x : Seat} {e : Event} (hd : d.Orderly)
    (hx : d.Lives w x) (he : Concerns x.own e) : TouchesOwn x d (d.handle h w e) := by
  obtain ⟨p, -, hstep⟩ := inStep_handle (h := h) hd hx he
  rw [handle_eq hx.1]
  exact ⟨hstep.frame, hstep.images⟩

lemma takesTurns {d : Panel} {e : Event} (hd : d.Orderly) (he : IsAnnouncement e) :
    TakesTurns h d e := by
  intro w x hx
  have hnext : d.told h e (w + 1) = (d.told h e w).tell h e w := by
    rw [told, List.range_succ, List.foldl_append]
    rfl
  rw [hnext, tell]
  split_ifs with hlives
  · obtain ⟨x', hx'⟩ := hlives
    obtain rfl : x = x' := Option.some.inj (hx.symm.trans hx'.1)
    exact touchesOwn_handle (orderly_told hd he w) hx' (concerns_of_announcement he _).1
  · exact ⟨fun _ _ _ => rfl, fun _ _ => rfl⟩

/-- The reads of a handler that lives are its card's. -/
lemma owned_of_reachable (hs : (machine h).Reachable s) (halive : s.destroyed = false) :
    ∃ b, CardReads.Owned h b s.toCardReads := by
  have hkept : ∃ b, Kept h b s := by
    clear halive
    induction hs with
    | start hs => exact ⟨0, .inl hs.owned.1⟩
    | step _ hal ih =>
        obtain ⟨b, hk⟩ := ih
        exact ⟨_, kept_step hk hal⟩
  obtain ⟨b, ho | ⟨hgone, -⟩⟩ := hkept
  · exact ⟨b, ho⟩
  · exact nomatch hgone.symm.trans halive

/-- An operation of a widget alone, in the shared client. -/
lemma shared_of_alone {p : Private} (hp : Fits x.own (d.seen x) p) {j : ℕ} (hj : j < p.minted) :
    ∃ i ∈ x.own, x.own[j]? = some i ∧ d.client.ops i = p.ops j := by
  have hlt : j < x.own.length := hp.client.minted ▸ hj
  have hget : x.own[j]? = some x.own[j] := List.getElem?_eq_getElem hlt
  exact ⟨_, List.getElem_mem hlt, hget, (hp.client.ops j _ hget).symm⟩

/-- A read in flight is the widget's own. -/
lemma slot_of_alone {p : Private} (hp : Fits x.own (d.seen x) p) {q : Request}
    {op op' : Option ℕ} (hop : SamePointer x.own op op')
    (hwired : ∀ j, op' = some j →
      ((d.seen x).onto p).client.Pending j ∧ (p.ops j).request = q)
    (hown : ∀ j, op' = some j → x.handler.card = some (p.ops j).card) (i : ℕ)
    (hi : op = some i) :
    i ∈ x.own ∧ d.client.Pending i ∧ (d.client.ops i).request = q ∧
      x.handler.card = some (d.client.ops i).card := by
  subst hi
  cases hop with
  | @some _ j hj =>
      obtain ⟨hpending, hreq⟩ := hwired j rfl
      have hops : p.ops j = d.client.ops i := hp.client.ops j i hj
      rw [← hops]
      exact ⟨List.mem_of_getElem? hj, (hp.client.pending_iff hj).1 hpending, hreq, hown j rfl⟩

/-- An answer is to a read of the widget's own. -/
lemma answered_of_alone {p : Private} (hp : Fits x.own (d.seen x) p) {b : ℕ} {q : Request}
    {t : Terminal} (ha : ((d.seen x).onto p).toCardReads.Answered b q t) :
    ∃ i ∈ x.own, (d.client.ops i).request = q ∧ x.handler.card = some (d.client.ops i).card ∧
      (d.client.ops i).ended = some t ∧ t.status = .ok := by
  obtain ⟨j, -, hj, hreq, hcard, hended, hok⟩ := ha
  obtain ⟨i, hi, -, hops⟩ := shared_of_alone hp hj
  have hsame : ((d.seen x).onto p).client.ops j = d.client.ops i := hops.symm
  rw [hsame] at hreq hcard hended
  exact ⟨i, hi, hreq, hcard, hended, hok⟩

lemma keepsToItself (hs : Mirrors x.own (d.seen x) s) {b : ℕ}
    (ho : CardReads.Owned h b s.toCardReads) : KeepsToItself h d x := by
  obtain ⟨p, rfl, hp⟩ := hs
  refine ⟨?_, ?_, ?_, ?_, ?_⟩
  · exact slot_of_alone hp hp.identityOp ho.identity fun j hj => (ho.identityOwn j hj).2
  · exact slot_of_alone hp hp.photoOp ho.photo fun j hj => (ho.photoOwn j hj).2
  · intro i hi hpending
    have hj : x.own[x.own.idxOf i]? = some i := List.getElem?_idxOf hi
    refine (ho.pending _ ((hp.client.pending_iff hj).2 hpending)).imp (fun hop => ?_) fun hop => ?_
    · exact (hp.identityOp.eq_some_iff hp.client.nodup hj).1 hop
    · exact (hp.photoOp.eq_some_iff hp.client.nodup hj).1 hop
  · intro hshows
    obtain ⟨t, ha, heq⟩ := ho.identityShown hshows
    obtain ⟨i, hi, hreq, hcard, hended, hok⟩ := answered_of_alone hp ha
    exact ⟨i, hi, t, hreq, hcard, hended, hok, heq⟩
  · intro hshows
    have himage : ((d.seen x).onto p).photoStore.images x.handler.photoSlot =
        d.photoStore.images x.handler.photoSlot := hp.image
    rw [← himage] at hshows ⊢
    obtain ⟨t, bytes, image, ha, hphoto, hbytes, -, hstore⟩ := ho.photoShown hshows
    obtain ⟨i, hi, hreq, hcard, hended, hok⟩ := answered_of_alone hp ha
    exact ⟨i, hi, t, hreq, hcard, hended, hok, bytes, image, hphoto, hbytes, hstore⟩

lemma length_handle (d : Panel) (w : ℕ) (e : Event) :
    (d.handle h w e).seats.length = d.seats.length := by
  unfold handle
  split
  · rfl
  · exact List.length_set

lemma length_announce (d : Panel) (e : Event) :
    (d.announce h e).seats.length = d.seats.length := by
  have htells : ∀ (ws : List ℕ) (d : Panel),
      (ws.foldl (fun d w => d.tell h e w) d).seats.length = d.seats.length := by
    intro ws
    induction ws with
    | nil => exact fun _ => rfl
    | cons w ws ih =>
        intro d
        refine (ih _).trans ?_
        show (d.tell h e w).seats.length = d.seats.length
        unfold tell
        split_ifs
        · exact length_handle d w e
        · rfl
  exact htells _ d

/-- Only a widget that is added is new. -/
lemma lt_length_of_step {e : PanelEvent} (hlives : (d.step h e).Lives w x) :
    w < d.seats.length ∨ e = .construct ∧ w = d.seats.length := by
  have hlt : w < (d.step h e).seats.length := (List.getElem?_eq_some_iff.1 hlives.1).1
  cases e with
  | construct =>
      simp only [step, construct, List.length_append, List.length_singleton] at hlt
      rcases Nat.lt_succ_iff_lt_or_eq.1 hlt with hlt | heq
      · exact .inl hlt
      · exact .inr ⟨rfl, heq⟩
  | registry r => exact .inl (hlt.trans_eq (List.length_map _))
  | registryChanged r =>
      exact .inl (hlt.trans_eq ((length_announce _ _).trans (List.length_map _)))
  | announced e => exact .inl (hlt.trans_eq (length_announce d e))
  | widget w' e => exact .inl (hlt.trans_eq (length_handle d w' e))
  | others minted ops => exact .inl hlt

/-- A widget that lives looks like a handler that a run of its own leads to. -/
lemma reachable_alone (hd : (panel h).Reachable d) (hx : d.Lives w x) :
    ∃ s, (machine h).Reachable s ∧ Mirrors x.own (d.seen x) s := by
  induction hd generalizing w x with
  | @start d hd =>
      have hseats : d.seats = [] := hd.2.1
      have hx' := hx.1
      simp [hseats] at hx'
  | @step d e hd hal ih =>
      have horderly : d.Orderly := invariant_orderly.reachable hd
      have hlooks : ∃ s, (machine h).Reachable s ∧ (d.step h e).LooksLike w s := by
        rcases lt_length_of_step (h := h) hx with hlt | ⟨rfl, rfl⟩
        · have hy : d.seats[w]? = some d.seats[w] := List.getElem?_eq_getElem hlt
          have halive : d.seats[w].handler.destroyed = false := by
            by_contra hgone
            obtain ⟨x', hx', hgone'⟩ := gone_step (h := h) horderly hal hy (by simpa using hgone)
            obtain rfl : x = x' := Option.some.inj (hx.1.symm.trans hx')
            exact nomatch hgone'.symm.trans hx.2
          obtain ⟨s, hs, hmirrors⟩ := ih ⟨hy, halive⟩
          obtain ⟨hadmits, hlooks⟩ := looksLike_step (h := h) horderly hal ⟨hy, halive⟩ hmirrors
          exact ⟨_, hs.exec hadmits, hlooks⟩
        · refine ⟨d.newcomer h, .start start_newcomer, _, ?_, mirrors_arrival horderly hal⟩
          show (d.construct h).seats[_]? = _
          rw [seats_construct, if_pos rfl]
      obtain ⟨s, hs, x', hx', hmirrors⟩ := hlooks
      obtain rfl : x = x' := Option.some.inj (hx.1.symm.trans hx')
      exact ⟨s, hs, hmirrors⟩

/-- **Whose the reads are.**  Throughout every run of a process with any number of widgets, each
widget that lives listens to its own two reads and to nothing else, these are of the card it has
bound, whatever it shows came from a read of its own of that card, and no operation is of two
widgets; and no widget ever touches an operation or a photo that is not its own, be it that it is
added, that it answers, or that it has its turn in an announcement. -/
theorem reads_sorted (h : PlasmoidHost) {d : Panel} {es : List PanelEvent} (hd : d.Start)
    (ha : (panel h).Admits d es) :
    (panel h).Always (Sorted h) d es ∧ (panel h).EachStep (Sparing h) d es := by
  have hkept : (panel h).Kept (panel h).Reachable := fun d e hd hal => hd.step hal
  refine ⟨(hkept.always (.start hd) ha).mono fun d hd => ?_,
    hkept.eachStep (.start hd) ha fun d e hd hal => ?_⟩
  · have horderly : d.Orderly := invariant_orderly.reachable hd
    refine ⟨fun w x hx => ?_, horderly.disjoint⟩
    obtain ⟨s, hs, hmirrors⟩ := reachable_alone hd hx
    have halive : s.destroyed = false := by
      obtain ⟨p, rfl, -⟩ := hmirrors
      exact hx.2
    obtain ⟨b, ho⟩ := owned_of_reachable hs halive
    exact keepsToItself hmirrors ho
  · have horderly : d.Orderly := invariant_orderly.reachable hd
    cases e with
    | widget w e =>
        obtain ⟨x₀, hx₀, he, -⟩ := hal
        intro x hx
        obtain rfl : x₀ = x := Option.some.inj (hx₀.1.symm.trans hx)
        exact touchesOwn_handle horderly hx₀ he
    | announced e => exact takesTurns horderly hal
    | registryChanged r => exact takesTurns (orderly_setRegistry horderly r) trivial
    | construct =>
        have hstep := inStep_construct (h := h) horderly hal
        refine ⟨fun i hi _ => hstep.frame i hi (by simp), fun slot hslot => hstep.images slot ?_⟩
        exact fun heq => hslot (heq.trans hstep.slot.symm)
    | registry r | others minted ops => trivial

/-! ## Two widgets -/

instance (own : List ℕ) : (e : Event) → Decidable (Concerns own e)
  | .finished i _ | .phaseChanged i _ => inferInstanceAs (Decidable (i ∈ own))
  | .registry _ | .registryChanged _ | .sibling .. => isFalse id
  | .refresh | .cardChanged _ | .setBoundReaderName _ | .selectReader _ | .setViewActive _
  | .readIdentity | .ensureFreeRead | .openInFiles | .startAgent | .agentStartFinished _
  | .signFile _ | .dismissSignResult | .jobChooses .. | .jobPhaseChanged .. | .jobSucceeded ..
  | .jobFailed .. | .destroy => isTrue trivial

instance : (e : Event) → Decidable (IsAnnouncement e)
  | .refresh | .cardChanged _ | .agentStartFinished _ => isTrue trivial
  | .registry _ | .registryChanged _ | .sibling .. | .setBoundReaderName _ | .selectReader _
  | .setViewActive _ | .readIdentity | .ensureFreeRead | .openInFiles | .startAgent
  | .finished .. | .phaseChanged .. | .signFile _ | .dismissSignResult | .jobChooses ..
  | .jobPhaseChanged .. | .jobSucceeded .. | .jobFailed .. | .destroy => isFalse id

instance (d : Panel) : (e : PanelEvent) → Decidable (d.allows e)
  | .construct => inferInstanceAs (Decidable (_ < _))
  | .registry _ | .registryChanged _ => isTrue trivial
  | .announced e => inferInstanceAs (Decidable (IsAnnouncement e))
  | .widget w e => decidable_of_iff (d.seats[w]?.any fun x =>
      !x.handler.destroyed && decide (Concerns x.own e ∧ e.guard (d.seen x)))
        (by
          cases hx : d.seats[w]? with
          | none => simp [allows, Lives, hx]
          | some x => simp [allows, Lives, hx])
  | .others minted ops => inferInstanceAs (Decidable (d.client.minted ≤ minted ∧
      ∀ x ∈ d.seats, x.handler.destroyed = false → ∀ i ∈ x.own, ops i = d.client.ops i))

instance (d : Panel) (e : PanelEvent) : Decidable ((panel h).allows d e) :=
  inferInstanceAs (Decidable (d.allows e))

/-- A process over a reader that holds a national identity card. -/
def idle : Panel where
  client := { registry := .desk (qs "r") 1 (.eid true) }
  photoStore := ⟨fun _ => none⟩
  counter := 0
  seats := []

lemma start_idle : idle.Start := ⟨rfl, rfl, fun _ => rfl⟩

/-- Two widgets read the card, and the second is answered first. -/
def twoReads : List PanelEvent :=
  [.construct, .construct, .widget 0 .readIdentity, .widget 1 .readIdentity,
    .widget 1 (.finished 1 {}), .announced .refresh, .widget 0 (.finished 0 {})]

theorem reads_sorted_two :
    (panel .plain).Always (Sorted .plain) idle twoReads ∧
      (panel .plain).EachStep (Sparing .plain) idle twoReads :=
  reads_sorted .plain start_idle (by decide)

theorem widget_alone_first :
    Plasmoid.Start .plain (idle.newcomer .plain) ∧
      (machine .plain).Admits (idle.newcomer .plain)
        (heard .plain 0 (idle.construct .plain) twoReads.tail) ∧
      ((panel .plain).exec idle twoReads).LooksLike 0
        ((machine .plain).exec (idle.newcomer .plain)
          (heard .plain 0 (idle.construct .plain) twoReads.tail)) :=
  have ha : (panel .plain).Admits idle (.construct :: twoReads.tail) := by decide
  widget_alone .plain (.start start_idle) ha (by decide)

end Panel

end LibreKDE.Plasmoid
