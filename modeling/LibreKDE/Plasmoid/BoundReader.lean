import LibreKDE.Plasmoid.Moves

/-!
# The card of a bound widget

A widget bound to a reader shows the card of that reader.  A reader that was enumerated anew
under another name still counts, but only as long as no reader carries the bound name itself: the
two interfaces of a dual reader share one serial, and a card on one of them is none of the
other's business.

`claimed` says which readers a bound name stands for, and everything a bound widget decides is
shown to be a function of them.  The roster spoken of is the one the widget last saw, since
the client's announcements are what it goes by; `noteSeen` keeps it.
-/

namespace LibreKDE.Plasmoid

open Reactive CardReads SmartCardHandler

variable {h : PlasmoidHost}

/-! ## The readers a name claims -/

/-- The readers that carry the bound name; where there are none, those of its unit. -/
def claimed (t : CharClasses) (bound : QString) (readers : List AgentReader) : List AgentReader :=
  if readers.any fun x => x.name = bound then readers.filter fun x => x.name = bound
  else readers.filter fun x => sameReaderUnit t bound x.name

/-- The card of the first of them that holds one. -/
def claimedCard (t : CharClasses) (bound : QString) (r : Registry) : Option CardRef :=
  if r.available then
    ((claimed t bound r.readers).find? fun x => x.card.isSome).bind AgentReader.card
  else none

section Claimed

variable {t : CharClasses} {bound selected : QString} {r : Registry} {readers : List AgentReader}
  {x : AgentReader}

lemma mem_claimed :
    x ∈ claimed t bound readers ↔
      x ∈ readers ∧ (x.name = bound ∨
        (∀ y ∈ readers, y.name ≠ bound) ∧ sameReaderUnit t bound x.name = true) := by
  unfold claimed
  split_ifs with hany
  · obtain ⟨y, hy, hname⟩ : ∃ y ∈ readers, y.name = bound := by simpa using hany
    simp only [List.mem_filter, decide_eq_true_eq]
    refine and_congr_right fun _ => ⟨.inl, fun hx => hx.resolve_right ?_⟩
    exact fun hnone => hnone.1 y hy hname
  · have hnone : ∀ y ∈ readers, y.name ≠ bound := by simpa using hany
    simp only [List.mem_filter]
    refine and_congr_right fun hx => ⟨fun hunit => .inr ⟨hnone, hunit⟩, fun hx' => ?_⟩
    exact (hx'.resolve_left (hnone x hx)).2

/-- The widget's pick is the first claimed reader with a card, whatever is selected. -/
lemma pickActiveReader_of_bound (hbound : bound ≠ []) :
    pickActiveReader t r bound selected =
      (claimed t bound r.readers).find? fun x => x.card.isSome := by
  unfold pickActiveReader claimed readerWithCardByName
  rw [if_pos hbound]
  split_ifs with hany
  · rw [List.find?_filter]
    simp only [Bool.decide_and, Bool.decide_eq_true, decide_eq_true_eq]
    split
    · next hexact => rw [← hexact]
    · next hexact => rw [← hexact]
  · have hnone : r.readers.find? (fun x => x.name = bound ∧ x.card.isSome) = none := by
      rw [List.find?_eq_none]
      intro y hy
      have hname : y.name ≠ bound := by
        have hall : ∀ y ∈ r.readers, y.name ≠ bound := by simpa using hany
        exact hall y hy
      simp [hname]
    rw [hnone, List.find?_filter]

lemma mem_of_claimedCard {c : CardRef} (hc : claimedCard t bound r = some c) :
    ∃ x ∈ claimed t bound r.readers, x.card = some c := by
  unfold claimedCard at hc
  split_ifs at hc
  obtain ⟨x, hx, hcard⟩ := Option.bind_eq_some_iff.1 hc
  exact ⟨x, List.mem_of_find?_eq_some hx, hcard⟩

/-- The bound reader is present when something is claimed. -/
lemma computeBoundReaderPresent_iff (hbound : bound ≠ []) :
    computeBoundReaderPresent t bound (readers.map AgentReader.name) = true ↔
      (∃ x ∈ readers, x.name = bound) ∨
        ∃ x ∈ readers, sameReaderUnit t bound x.name = true := by
  simp [computeBoundReaderPresent, hbound]

lemma present_of_claimed (hbound : bound ≠ []) (hx : x ∈ claimed t bound readers) :
    computeBoundReaderPresent t bound (readers.map AgentReader.name) = true := by
  rw [computeBoundReaderPresent_iff hbound]
  obtain ⟨hmem, hname | ⟨-, hunit⟩⟩ := mem_claimed.1 hx
  · exact .inl ⟨x, hmem, hname⟩
  · exact .inr ⟨x, hmem, hunit⟩

end Claimed

/-! ## What the widget last saw -/

/-- The registry in which the handler last ran `refresh`. -/
def noteSeen (seen : Registry) (s : SmartCardHandler) (e : Event) : Registry :=
  (s.refreshes e).elim seen fun u => u.client.registry

/-- The handler, and what it last saw of the client's registry. -/
def seenMachine (h : PlasmoidHost) : Machine (SmartCardHandler × Registry) Event :=
  (machine h).watch .blank noteSeen

instance (x : SmartCardHandler × Registry) (e : Event) : Decidable ((seenMachine h).allows x e) :=
  inferInstanceAs (Decidable (allows x.1 e))

/-- What is promised of a widget that is bound to a reader. -/
structure ReaderIsolated (h : PlasmoidHost) (x : SmartCardHandler × Registry) : Prop where
  /-- Its card is in a reader of the bound name, or of the same unit where no reader has it. -/
  held : ∀ c, x.1.card = some c → ∃ y ∈ x.2.readers, y.card = some c ∧
    (y.name = x.1.boundReaderName ∨ (∀ z ∈ x.2.readers, z.name ≠ x.1.boundReaderName) ∧
      sameReaderUnit h.chars x.1.boundReaderName y.name = true)
  /-- No other reader has a say in which card it is. -/
  claimed : x.1.card = claimedCard h.chars x.1.boundReaderName x.2
  /-- Nor has a selection. -/
  unselectable : ∀ name, step h x.1 (.selectReader name) = x.1
  present : x.1.boundReaderPresent = true ↔
    (∃ y ∈ x.2.readers, y.name = x.1.boundReaderName) ∨
      ∃ y ∈ x.2.readers, sameReaderUnit h.chars x.1.boundReaderName y.name = true
  /-- With a card shown the reader is there. -/
  seated : x.1.card ≠ none → x.1.boundReaderPresent = true

/-- With every announcement, and whenever else it refreshes, the widget sees the registry as it
is. -/
def SeesCurrent (h : PlasmoidHost) (x : SmartCardHandler × Registry) (e : Event) : Prop :=
  (x.1.refreshes e).isSome = true →
    noteSeen x.2 x.1 e = (step h x.1 e).client.registry

/-! ## The invariant -/

/-- The card and the presence flag are those of the last refresh. -/
structure Follows (h : PlasmoidHost) (s : SmartCardHandler) (seen : Registry) : Prop where
  kept : ∃ b, Kept h b s
  card : s.card =
    if seen.available then
      (pickActiveReader h.chars seen s.boundReaderName s.selectedReaderName).bind AgentReader.card
    else none
  present : s.boundReaderPresent =
    computeBoundReaderPresent h.chars s.boundReaderName (seen.readers.map AgentReader.name)

variable {s u : SmartCardHandler} {seen : Registry} {e : Event}

lemma refresh_registry (u : SmartCardHandler) :
    (u.refresh h).client.registry = u.client.registry := by
  cases u.refresh_freely (h := h) with
  | quiet heq => rw [heq, bindCard_registry]
  | reads c _ _ heq =>
      rw [heq]
      exact bindCard_registry _ _

lemma seesCurrent (x : SmartCardHandler × Registry) (e : Event) : SeesCurrent h x e := by
  intro hsome
  obtain ⟨u, hu⟩ := Option.isSome_iff_exists.1 hsome
  rw [step_of_refreshes hu, refresh_registry, noteSeen, hu]
  rfl

/-- A refresh goes by the registry as it is. -/
lemma follows_refresh {b : ℕ} (hk : Kept h b (u.refresh h)) :
    Follows h (u.refresh h) u.client.registry := by
  have hsame : SameRoster (u.updateReaderRosters h) (u.refresh h) := .refresh
  refine ⟨⟨b, hk⟩, ?_, ?_⟩
  · rw [u.refresh_card, hsame.bound, hsame.selected]
    rfl
  · rw [hsame.present, hsame.bound]
    rfl

/-- Once a widget is gone its card stays what it was. -/
lemma card_of_not_refreshes_of_kept {b : ℕ} (hk : Kept h b s) (hal : allows s e)
    (hn : s.refreshes e = none) : (step h s e).card = s.card := by
  rcases hk with ho | ⟨hgone, -⟩
  · exact card_of_not_refreshes ho hal hn
  · obtain ⟨slot, image, rfl⟩ := eq_sibling_of_destroyed hgone hal
    rfl

/-- **Every step keeps it.** -/
lemma Follows.step (hf : Follows h s seen) (hal : allows s e) :
    Follows h (step h s e) (noteSeen seen s e) := by
  obtain ⟨b, hk⟩ := hf.kept
  have hkept := kept_step (h := h) hk hal
  unfold noteSeen
  cases hu : s.refreshes e with
  | some u =>
      rw [step_of_refreshes hu] at hkept ⊢
      exact follows_refresh hkept
  | none =>
      have hsame := sameRoster_of_not_refreshes (h := h) hu
      refine ⟨⟨_, hkept⟩, ?_, ?_⟩
      · rw [card_of_not_refreshes_of_kept hk hal hu, hsame.bound, hsame.selected]
        exact hf.card
      · rw [hsame.present, hsame.bound]
        exact hf.present

/-- The refresh of the constructor is the first the widget sees. -/
lemma follows_start (hs : Start h s) : Follows h s s.client.registry := by
  have hk : Kept h 0 s := .inl hs.owned.1
  obtain ⟨client, photoStore, photoSlot, -, -, rfl⟩ := hs
  have hregistry : (construct h client photoStore photoSlot).client.registry = client.registry :=
    refresh_registry _
  rw [hregistry]
  exact follows_refresh (u := { client, photoStore, photoSlot }) hk

lemma Follows.isolated (hf : Follows h s seen) (hbound : s.boundReaderName ≠ []) :
    ReaderIsolated h (s, seen) := by
  have hcard : s.card = claimedCard h.chars s.boundReaderName seen := by
    rw [hf.card, pickActiveReader_of_bound hbound]
    rfl
  refine ⟨fun c hc => ?_, hcard, fun name => ?_, ?_, fun hsome => ?_⟩
  · obtain ⟨y, hy, hyc⟩ := mem_of_claimedCard (hcard.symm.trans hc)
    obtain ⟨hmem, hwhy⟩ := mem_claimed.1 hy
    exact ⟨y, hmem, hyc, hwhy⟩
  · show s.selectReader h name = s
    rw [selectReader, if_pos hbound]
  · show s.boundReaderPresent = true ↔ _
    rw [hf.present, computeBoundReaderPresent_iff hbound]
  · obtain ⟨c, hc⟩ := Option.ne_none_iff_exists'.1 hsome
    obtain ⟨y, hy, -⟩ := mem_of_claimedCard (hcard.symm.trans hc)
    show s.boundReaderPresent = true
    rw [hf.present]
    exact present_of_claimed hbound hy

/-- **Bound-mode reader isolation.**  In every run of a widget bound to a reader the card it shows
is in that reader, one of the bound name or, while that name is not listed, of its unit; neither
another reader nor a selection has a say in it; and each refresh goes by the registry as it is. -/
theorem bound_reader_isolated (h : PlasmoidHost) {s : SmartCardHandler} {es : List Event}
    (hs : Start h s) (ha : (machine h).Admits s es) :
    (seenMachine h).Always (fun x => x.1.boundReaderName ≠ [] → ReaderIsolated h x)
        (s, s.client.registry) es ∧
      (seenMachine h).EachStep (SeesCurrent h) (s, s.client.registry) es := by
  have hkept : (seenMachine h).Kept fun x => Follows h x.1 x.2 := fun _ _ hf hal => hf.step hal
  have hstart : Follows h s s.client.registry := follows_start hs
  have hadmits : (seenMachine h).Admits (s, s.client.registry) es := Machine.admits_watch.2 ha
  refine ⟨(hkept.always hstart hadmits).mono fun _ hf => hf.isolated, ?_⟩
  exact hkept.eachStep hstart hadmits fun x e _ _ => seesCurrent x e

/-- A widget is bound to its reader, and the reader is enumerated anew. -/
def renamed : List Event :=
  [.setBoundReaderName (qs "Twin (69988A87) 00 00"),
    .registryChanged (.desk (qs "Twin (69988A87) 01 00") 1 (.eid true))]

theorem bound_reader_isolated_renamed :
    (seenMachine .plain).Always (fun x => x.1.boundReaderName ≠ [] → ReaderIsolated .plain x)
        (widget, widget.client.registry) renamed ∧
      (seenMachine .plain).EachStep (SeesCurrent .plain) (widget, widget.client.registry) renamed :=
  bound_reader_isolated .plain start_widget (by decide)

end LibreKDE.Plasmoid
