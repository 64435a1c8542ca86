import LibreKDE.Plasmoid.CardPhotoProvider
import LibreKDE.Plasmoid.Moves

/-!
# The photos of several widgets

The widgets of one process keep their photos in one store, each under a slot of its own, which a
counter gave it when it was constructed.  `Shell` is that process: widgets come and go, and each
answers its own events over the store they share.  Of every widget it is noted which image the
widget stored last and has not cleared since, and under which URLs it published photos.

`PhotosIsolated` says of one state what the provider makes of those URLs: each of a widget's URLs
is answered with the widget's own image, or with nothing.  The slot and the token in a URL are
counted on 64 bits, which is where the limits in it come from.
-/

namespace LibreKDE.Plasmoid

open Reactive CardPhotoProvider

variable {h : PlasmoidHost}

/-! ## One widget's photo -/

/-- The photo and its place in the store are the same. -/
structure SamePhoto (r r' : CardReads) : Prop where
  photo : r'.photo = r.photo
  photoStore : r'.photoStore = r.photoStore
  photoSlot : r'.photoSlot = r.photoSlot
  photoToken : r'.photoToken = r.photoToken
  destroyed : r'.destroyed = r.destroyed

namespace SamePhoto

variable {r r' r'' : CardReads}

lemma refl (r : CardReads) : SamePhoto r r := ⟨rfl, rfl, rfl, rfl, rfl⟩

lemma trans (h₁ : SamePhoto r r') (h₂ : SamePhoto r' r'') : SamePhoto r r'' where
  photo := h₂.photo.trans h₁.photo
  photoStore := h₂.photoStore.trans h₁.photoStore
  photoSlot := h₂.photoSlot.trans h₁.photoSlot
  photoToken := h₂.photoToken.trans h₁.photoToken
  destroyed := h₂.destroyed.trans h₁.destroyed

lemma clearPhoto (hs : SamePhoto r r') : SamePhoto r.clearPhoto r'.clearPhoto where
  photo := by simp [CardReads.clearPhoto]
  photoStore := by simp [CardReads.clearPhoto, hs.photoStore, hs.photoSlot]
  photoSlot := hs.photoSlot
  photoToken := hs.photoToken
  destroyed := hs.destroyed

lemma startPhotoRead (r : CardReads) : SamePhoto r r.startPhotoRead := by
  rcases r.startPhotoRead_cases with heq | ⟨c, -, -, heq⟩
  · rw [heq]
    exact refl r
  · rw [heq]
    exact ⟨rfl, rfl, rfl, rfl, rfl⟩

/-- A free read leaves the photo alone. -/
lemma of_freely {s' : SmartCardHandler} (hf : SmartCardHandler.FreelyFrom r s') :
    SamePhoto r s'.toCardReads := by
  cases hf with
  | quiet heq =>
      rw [heq]
      exact refl r
  | reads c _ _ heq =>
      rw [heq]
      exact ⟨rfl, rfl, rfl, rfl, rfl⟩

/-- Binding a card keeps the photo or clears it. -/
lemma bindCard (r : CardReads) (c : Option CardRef) :
    SamePhoto r (r.bindCard c) ∨ SamePhoto r.clearPhoto (r.bindCard c) := by
  unfold CardReads.bindCard
  split_ifs
  · exact .inl (refl r)
  · refine .inr ?_
    rw [CardReads.rebind_eq]
    exact ⟨by simp [CardReads.clearPhoto], rfl, rfl, rfl, rfl⟩

end SamePhoto

/-- The image an event brings a widget: a read it listens to ends well, and it is not the
identity's, and the first photo can be read and decoded. -/
def brought (h : PlasmoidHost) (s : SmartCardHandler) : Event → Option QImage
  | .finished i t =>
      if (s.client.ops i).connected ∧ (s.client.ops i).request ≠ .readIdentity ∧
          s.photoOp.isSome ∧ t.status = .ok then
        (CardReads.photoOf h t).map Prod.snd
      else none
  | _ => none

/-- What an event does to a widget's photo. -/
inductive PhotoStep (h : PlasmoidHost) (s : SmartCardHandler) (e : Event) (s' : SmartCardHandler) :
    Prop
  | keeps : brought h s e = none → SamePhoto s.toCardReads s'.toCardReads → PhotoStep h s e s'
  | clears : brought h s e = none → SamePhoto s.clearPhoto s'.toCardReads → PhotoStep h s e s'
  | stores (bytes : QByteArray) (image : QImage) : brought h s e = some image →
      SamePhoto (s.setPhoto h bytes image) s'.toCardReads → PhotoStep h s e s'
  | goes : brought h s e = none → s' = s.destroy → PhotoStep h s e s'

variable {s : SmartCardHandler}

namespace SmartCardHandler

lemma samePhoto_refresh (s : SmartCardHandler) :
    SamePhoto s.toCardReads (s.refresh h).toCardReads ∨
      SamePhoto s.clearPhoto (s.refresh h).toCardReads := by
  have hfree := SamePhoto.of_freely (s.refresh_freely (h := h))
  rcases SamePhoto.bindCard s.toCardReads (s.target h) with hkeep | hclear
  · exact .inl (hkeep.trans hfree)
  · exact .inr (hclear.trans hfree)

/-- An identity read's terminal does not touch the photo. -/
lemma samePhoto_onOperationFinished (s : SmartCardHandler) (t : Terminal) :
    SamePhoto s.toCardReads (s.onOperationFinished h t).toCardReads := by
  unfold onOperationFinished
  dsimp only
  split
  · exact ⟨rfl, rfl, rfl, rfl, rfl⟩
  · next i _ =>
      split_ifs
      · refine .trans ?_ (.of_freely (classifyActiveCard_freely _))
        exact ⟨rfl, rfl, rfl, rfl, rfl⟩
      · exact ⟨rfl, rfl, rfl, rfl, rfl⟩
      · refine .trans ?_ (.startPhotoRead _)
        refine .trans ?_ (.of_freely (classifyActiveCard_freely _))
        exact ⟨rfl, rfl, rfl, rfl, rfl⟩

/-- The terminal of a read stores a photo where it brings one. -/
lemma photoStep_finished (s : SmartCardHandler) (i : ℕ) (t : Terminal) :
    PhotoStep h s (.finished i t) (s.finished h i t) := by
  unfold SmartCardHandler.finished
  dsimp only
  split_ifs with hconn hrequest
  · refine .keeps ?_ ?_
    · rw [brought, if_neg]
      exact fun hbring => hbring.2.1 hrequest
    · refine .trans ?_ (samePhoto_onOperationFinished _ t)
      exact ⟨rfl, rfl, rfl, rfl, rfl⟩
  -- The photo read: stored only under its own handle, with Ok and with an image that decodes.
  · cases hop : s.photoOp with
    | none =>
        refine .keeps ?_ ?_
        · rw [brought, if_neg]
          simp [hop]
        · simp only [CardReads.onPhotoFinished]
          exact ⟨rfl, rfl, rfl, rfl, rfl⟩
    | some j =>
        by_cases hok : t.status = .ok
        · have hbrought : brought h s (.finished i t) = (CardReads.photoOf h t).map Prod.snd := by
            rw [brought, if_pos ⟨hconn, hrequest, by simp [hop], hok⟩]
          cases hphoto : CardReads.photoOf h t with
          | none =>
              refine .keeps ?_ ?_
              · rw [hbrought, hphoto]
                rfl
              · simp only [CardReads.onPhotoFinished, hok, hphoto]
                exact ⟨rfl, rfl, rfl, rfl, rfl⟩
          | some found =>
              obtain ⟨bytes, image⟩ := found
              refine .stores bytes image ?_ ?_
              · rw [hbrought, hphoto]
                rfl
              · simp only [CardReads.onPhotoFinished, hok, hphoto]
                exact ⟨rfl, rfl, rfl, rfl, rfl⟩
        · refine .keeps ?_ ?_
          · rw [brought, if_neg]
            exact fun hbring => hok hbring.2.2.2
          · simp only [CardReads.onPhotoFinished, if_pos hok]
            exact ⟨rfl, rfl, rfl, rfl, rfl⟩
  · refine .keeps ?_ ⟨rfl, rfl, rfl, rfl, rfl⟩
    rw [brought, if_neg]
    exact fun hbring => hconn hbring.1

end SmartCardHandler

open SmartCardHandler

/-- **What one event does to a widget's photo.** -/
lemma photoStep (h : PlasmoidHost) (s : SmartCardHandler) {e : Event} (he : e.isSibling = false) :
    PhotoStep h s e (step h s e) := by
  by_cases hfinished : ∃ i t, e = .finished i t
  · obtain ⟨i, t, rfl⟩ := hfinished
    exact s.photoStep_finished i t
  · have hnone : brought h s e = none := by
      cases e with
      | finished i t => exact absurd ⟨i, t, rfl⟩ hfinished
      | _ => rfl
    -- refresh() clears the photo where the active card changed and leaves it otherwise.
    have hrefresh : ∀ s₁ : SmartCardHandler, SamePhoto s.toCardReads s₁.toCardReads →
        PhotoStep h s e (s₁.refresh h) := by
      intro s₁ hsame
      rcases s₁.samePhoto_refresh (h := h) with hkeep | hclear
      · exact .keeps hnone (hsame.trans hkeep)
      · exact .clears hnone (hsame.clearPhoto.trans hclear)
    cases touches h s e with
    | stays heq =>
        refine .keeps hnone ?_
        rw [heq]
        exact .refl _
    | refreshes s₁ _ hsame heq =>
        rw [heq]
        apply hrefresh
        rw [hsame]
        exact .refl _
    | moves r heq =>
        rw [heq]
        exact .keeps hnone ⟨rfl, rfl, rfl, rfl, rfl⟩
    | swaps r _ heq =>
        rw [heq]
        exact hrefresh _ ⟨rfl, rfl, rfl, rfl, rfl⟩
    | classifies heq =>
        rw [heq]
        exact .keeps hnone (.of_freely s.classifyActiveCard_freely)
    | frees s₁ hsame _ heq =>
        rw [heq]
        refine .keeps hnone ?_
        rw [← hsame]
        exact .of_freely s₁.ensureFreeRead_freely
    | reads c _ _ _ heq =>
        refine .keeps hnone ?_
        rw [heq]
        exact ⟨rfl, rfl, rfl, rfl, rfl⟩
    | warms c _ _ heq =>
        refine .keeps hnone ?_
        rw [heq]
        exact ⟨rfl, rfl, rfl, rfl, rfl⟩
    | ends i t hends _ => exact absurd ⟨i, t, hends⟩ hfinished
    | sibling slot image hsibling _ =>
        rw [hsibling] at he
        cases he
    | goes _ heq => exact .goes hnone heq

/-! ## One widget's record -/

/-- The image a widget stored last and has not cleared since. -/
def noteStored (h : PlasmoidHost) (stored : Option QImage) (s : SmartCardHandler) (e : Event) :
    Option QImage :=
  match brought h s e with
  | some image => some image
  | none =>
      if (step h s e).destroyed = true ∨ (step h s e).photo.hasCardPhoto = false then none
      else stored

/-- The URLs a widget published its photos under, the oldest first. -/
def notePublished (h : PlasmoidHost) (published : List QString) (s : SmartCardHandler) (e : Event) :
    List QString :=
  if (brought h s e).isSome then published ++ [(step h s e).photo.cardPhotoUrl] else published

/-- A handler, and what was noted of it. -/
structure Widget where
  handler : SmartCardHandler
  stored : Option QImage := none
  published : List QString := []

namespace Widget

/-- The handler as it sees the store, which its siblings write to as well. -/
def sharing (w : Widget) (p : CardPhotoStore) : SmartCardHandler :=
  { w.handler with photoStore := p }

/-- The widget cleared its photo, never had one, or is gone. -/
def Bare (w : Widget) : Prop :=
  w.handler.destroyed = true ∨ w.handler.photo.hasCardPhoto = false

/-- An event reaches a widget. -/
def handle (h : PlasmoidHost) (w : Widget) (p : CardPhotoStore) (e : Event) : Widget where
  handler := step h (w.sharing p) e
  stored := noteStored h w.stored (w.sharing p) e
  published := notePublished h w.published (w.sharing p) e

/-- What holds of the widget constructed after `i` others. -/
structure Kept (h : PlasmoidHost) (i : ℕ) (w : Widget) : Prop where
  slot : w.handler.photoSlot = (i + 1) % 2 ^ 64
  token : w.handler.photoToken = w.published.length % 2 ^ 64
  published : ∀ k url, w.published[k]? = some url →
    url = cardPhotoUrl h w.handler.photoSlot ((k + 1) % 2 ^ 64)
  /-- The URL the handler publishes now is one of them. -/
  listed : w.handler.photo.cardPhotoUrl = [] ∨ w.handler.photo.cardPhotoUrl ∈ w.published
  bare : w.stored = none ↔ w.Bare

variable {i : ℕ} {w : Widget} {p : CardPhotoStore} {e : Event}

/-- The record of a widget that stores nothing. -/
lemma handle_of_none (hnone : brought h (w.sharing p) e = none) :
    (w.handle h p e).published = w.published ∧
      ((w.handle h p e).Bare → (w.handle h p e).stored = none) ∧
      (¬ (w.handle h p e).Bare → (w.handle h p e).stored = w.stored) := by
  have hstored : (w.handle h p e).stored =
      if (step h (w.sharing p) e).destroyed = true ∨
          (step h (w.sharing p) e).photo.hasCardPhoto = false
        then none else w.stored := by
    simp only [handle, noteStored, hnone]
  refine ⟨?_, fun hbare => ?_, fun hbare => ?_⟩
  · simp only [handle, notePublished, hnone]
    rfl
  · exact hstored.trans (if_pos hbare)
  · exact hstored.trans (if_neg hbare)

/-- Where nothing is stored the record stays right if slot and token stay. -/
lemma Kept.of_none (hk : Kept h i w) (hnone : brought h (w.sharing p) e = none)
    (hslot : (w.handle h p e).handler.photoSlot = w.handler.photoSlot)
    (htoken : (w.handle h p e).handler.photoToken = w.handler.photoToken)
    (hurl : (w.handle h p e).handler.photo.cardPhotoUrl = [] ∨
      (w.handle h p e).handler.photo.cardPhotoUrl = w.handler.photo.cardPhotoUrl)
    (hbare : w.Bare → (w.handle h p e).Bare) : Kept h i (w.handle h p e) := by
  obtain ⟨hpublished, hcleared, hkept⟩ := handle_of_none hnone
  refine ⟨hslot.trans hk.slot, ?_, ?_, ?_, fun hstored => ?_, hcleared⟩
  · rw [htoken, hpublished, hk.token]
  · rw [hslot, hpublished]
    exact hk.published
  · rw [hpublished]
    rcases hurl with hempty | hsame
    · exact .inl hempty
    · rw [hsame]
      exact hk.listed
  · by_contra hshows
    rw [hkept hshows] at hstored
    exact hshows (hbare (hk.bare.1 hstored))

/-- Where a photo is stored a URL is published for it, under the next token. -/
lemma Kept.of_stores {bytes : QByteArray} {image : QImage} (hk : Kept h i w)
    (hbrought : brought h (w.sharing p) e = some image)
    (hsame : SamePhoto ((w.sharing p).setPhoto h bytes image)
      (step h (w.sharing p) e).toCardReads) (halive : w.handler.destroyed = false) :
    Kept h i (w.handle h p e) := by
  have hslot : (w.handle h p e).handler.photoSlot = w.handler.photoSlot := hsame.photoSlot
  have htoken : (w.handle h p e).handler.photoToken = (w.handler.photoToken + 1) % 2 ^ 64 :=
    hsame.photoToken
  -- The token is the number of images published, modulo its 64 bits.
  have hnext : (w.handler.photoToken + 1) % 2 ^ 64 = (w.published.length + 1) % 2 ^ 64 := by
    rw [hk.token]
    omega
  have hpublished : (w.handle h p e).published = w.published ++
      [cardPhotoUrl h w.handler.photoSlot ((w.published.length + 1) % 2 ^ 64)] := by
    simp only [Widget.handle, notePublished, hbrought, hsame.photo, ← hnext]
    rfl
  have hstored : (w.handle h p e).stored = some image := by
    simp only [Widget.handle, noteStored, hbrought]
  refine ⟨hslot.trans hk.slot, ?_, ?_, ?_, ?_⟩
  · rw [htoken, hpublished, hnext, List.length_append, List.length_singleton]
  -- Every URL published before stays where it was, and the new one is the last.
  · intro k url hurl
    rw [hslot]
    rw [hpublished, List.getElem?_append] at hurl
    split_ifs at hurl with hlt
    · exact hk.published k url hurl
    · rw [List.getElem?_singleton] at hurl
      split_ifs at hurl with hzero
      obtain rfl : k = w.published.length := by omega
      exact (Option.some.inj hurl).symm
  · refine .inr ?_
    simp only [Widget.handle, notePublished, hbrought]
    exact List.mem_append_right _ (List.mem_singleton_self _)
  · have hlives : (w.handle h p e).handler.destroyed = false := hsame.destroyed.trans halive
    have hshown : (w.handle h p e).handler.photo.hasCardPhoto = true := by
      show (step h (w.sharing p) e).photo.hasCardPhoto = true
      rw [hsame.photo]
      rfl
    simp only [hstored, Bare, hlives, hshown, reduceCtorEq, or_self]

/-- **A widget's record is right after each of its events.** -/
lemma Kept.handle (hk : Kept h i w) (he : e.isSibling = false) (hal : allows (w.sharing p) e) :
    Kept h i (w.handle h p e) := by
  cases photoStep h (w.sharing p) he with
  | keeps hnone hsame =>
      have hphoto : (w.handle h p e).handler.photo = w.handler.photo := hsame.photo
      refine hk.of_none hnone hsame.photoSlot hsame.photoToken (.inr (by rw [hphoto])) ?_
      rintro (hgone | hhas)
      · exact .inl (hsame.destroyed.trans hgone)
      · exact .inr (by rw [hphoto]; exact hhas)
  | clears hnone hsame =>
      have hphoto : (w.handle h p e).handler.photo = .empty :=
        hsame.photo.trans (CardPhoto.clear_eq _)
      exact hk.of_none hnone hsame.photoSlot hsame.photoToken (.inl (by rw [hphoto]; rfl))
        fun _ => .inr (by rw [hphoto]; rfl)
  | goes hnone heq =>
      have hgone : (w.handle h p e).handler = (w.sharing p).destroy := heq
      exact hk.of_none hnone (by rw [hgone]; rfl) (by rw [hgone]; rfl) (.inr (by rw [hgone]; rfl))
        fun _ => .inl (by rw [hgone]; rfl)
  | stores bytes image hbrought hsame =>
      exact hk.of_stores hbrought hsame (hal.1.resolve_right (by simp [he]))

/-- **An event changes the store in the widget's own place only**, and there as noted. -/
lemma images_handle (hk : Kept h i w) (hp : p.images w.handler.photoSlot = w.stored)
    (he : e.isSibling = false) :
    (w.handle h p e).handler.photoStore.images =
      Function.update p.images w.handler.photoSlot (w.handle h p e).stored := by
  cases photoStep h (w.sharing p) he with
  | keeps hnone hsame =>
      obtain ⟨-, hcleared, hkept⟩ := handle_of_none hnone
      have hstored : (w.handle h p e).stored = w.stored := by
        -- A bare widget had nothing on the shelf already, so clearing it again changes nothing.
        by_cases hbare : (w.handle h p e).Bare
        · have hphoto : (w.handle h p e).handler.photo = w.handler.photo := hsame.photo
          have hdestroyed : (w.handle h p e).handler.destroyed = w.handler.destroyed :=
            hsame.destroyed
          rw [hcleared hbare, hk.bare.2]
          rwa [Bare, hphoto, hdestroyed] at hbare
        · exact hkept hbare
      have hstore : (w.handle h p e).handler.photoStore = p := hsame.photoStore
      rw [hstore, hstored, ← hp, Function.update_eq_self]
  | clears hnone hsame =>
      have hphoto : (w.handle h p e).handler.photo = .empty :=
        hsame.photo.trans (CardPhoto.clear_eq _)
      have hstore : (w.handle h p e).handler.photoStore = p.clear w.handler.photoSlot :=
        hsame.photoStore
      rw [hstore, (handle_of_none hnone).2.1 (.inr (by rw [hphoto]; rfl))]
      rfl
  | goes hnone heq =>
      have hgone : (w.handle h p e).handler = (w.sharing p).destroy := heq
      rw [(handle_of_none hnone).2.1 (.inl (by rw [hgone]; rfl)), hgone]
      rfl
  | stores bytes image hbrought hsame =>
      have hstored : (w.handle h p e).stored = some image := by
        simp only [Widget.handle, noteStored, hbrought]
      have hstore : (w.handle h p e).handler.photoStore = p.setImage w.handler.photoSlot image :=
        hsame.photoStore
      rw [hstore, hstored]
      rfl

end Widget

/-! ## The process -/

/-- The widgets of a process, in the order they were constructed, and the store they share. -/
structure Shell where
  photoStore : CardPhotoStore
  /-- The counter of `nextPhotoSlot`. -/
  counter : ℕ
  widgets : List Widget

/-- What can happen in the process. -/
inductive ShellEvent
  /-- A widget is constructed, over what the client shows it. -/
  | construct (client : Client)
  /-- An event reaches the widget constructed after `i` others. -/
  | handle (i : ℕ) (e : Event)

namespace Shell

/-- `++counter`, on 64 bits. -/
def nextPhotoSlot (d : Shell) : ℕ := (d.counter + 1) % 2 ^ 64

/-- A widget is added, over the next slot. -/
def construct (h : PlasmoidHost) (d : Shell) (client : Client) : Shell :=
  let s := SmartCardHandler.construct h client d.photoStore d.nextPhotoSlot
  { photoStore := s.photoStore
    counter := d.nextPhotoSlot
    widgets := d.widgets ++ [{ handler := s }] }

/-- The `i`-th widget answers an event, over the shared store as it finds it. -/
def handle (h : PlasmoidHost) (d : Shell) (i : ℕ) (e : Event) : Shell :=
  match d.widgets[i]? with
  | none => d
  | some w =>
      { d with
        photoStore := (w.handle h d.photoStore e).handler.photoStore
        widgets := d.widgets.set i (w.handle h d.photoStore e) }

/-- What each event makes of the shell. -/
def step (h : PlasmoidHost) (d : Shell) : ShellEvent → Shell
  | .construct client => d.construct h client
  | .handle i e => d.handle h i e

/-- A widget's own events come as they come to a widget alone; what the others do to the store they
do themselves. -/
def allows (d : Shell) : ShellEvent → Prop
  | .construct client => client.minted = 0
  | .handle i e =>
      ∃ w ∈ d.widgets[i]?, e.isSibling = false ∧ Plasmoid.allows (w.sharing d.photoStore) e

end Shell

/-- The process without widgets. -/
def Shell.empty : Shell where
  photoStore := ⟨fun _ => none⟩
  counter := 0
  widgets := []

/-- The process, which starts without widgets. -/
def shell (h : PlasmoidHost) : Machine Shell ShellEvent where
  start d := d = .empty
  allows := Shell.allows
  step := Shell.step h

/-! ## What the store holds -/

namespace Shell

/-- The store as the widgets' records have it: the first widget has slot 1. -/
def shelf (d : Shell) : ℕ → Option QImage
  | 0 => none
  | i + 1 => d.widgets[i]?.bind Widget.stored

/-- What holds of the process: the counter is the number of widgets, each widget keeps its record,
and the store is what they stored. -/
structure Shelved (h : PlasmoidHost) (d : Shell) : Prop where
  counter : d.counter = d.widgets.length % 2 ^ 64
  widgets : ∀ i (w : Widget), d.widgets[i]? = some w → w.Kept h i
  /-- As long as the slots are told apart. -/
  photoStore : d.widgets.length < 2 ^ 64 → d.photoStore.images = d.shelf

variable {d : Shell} {i : ℕ} {w : Widget}

/-- A widget that stores nothing is added. -/
lemma shelf_of_append {d' : Shell} (hadd : d'.widgets = d.widgets ++ [w])
    (hnone : w.stored = none) : d'.shelf = d.shelf := by
  funext slot
  cases slot with
  | zero => rfl
  | succ i =>
      show d'.widgets[i]?.bind Widget.stored = d.widgets[i]?.bind Widget.stored
      rw [hadd, List.getElem?_append]
      split_ifs with hlt
      · rfl
      · rw [List.getElem?_singleton, List.getElem?_eq_none (by omega)]
        split_ifs
        · exact hnone
        · rfl

/-- One widget stores another photo, or none. -/
lemma shelf_of_set {d' : Shell} (hset : d'.widgets = d.widgets.set i w)
    (hi : i < d.widgets.length) : d'.shelf = Function.update d.shelf (i + 1) w.stored := by
  funext slot
  cases slot with
  | zero => rfl
  | succ j =>
      show d'.widgets[j]?.bind Widget.stored = Function.update d.shelf (i + 1) w.stored (j + 1)
      rw [hset, List.getElem?_set]
      split_ifs with hij
      · subst hij
        simp
      · rw [Function.update_of_ne (by omega)]
        rfl

/-- The slots of fewer than `2 ^ 64` widgets are counted up from 1. -/
lemma Shelved.photoSlot (hd : d.Shelved h) (hfew : d.widgets.length < 2 ^ 64)
    (hw : d.widgets[i]? = some w) : w.handler.photoSlot = i + 1 := by
  obtain ⟨hlt, -⟩ := List.getElem?_eq_some_iff.1 hw
  rw [(hd.widgets i w hw).slot]
  exact Nat.mod_eq_of_lt (by omega)

/-- A widget's slot holds what the widget stored. -/
lemma Shelved.images_photoSlot (hd : d.Shelved h) (hfew : d.widgets.length < 2 ^ 64)
    (hw : d.widgets[i]? = some w) : d.photoStore.images w.handler.photoSlot = w.stored := by
  rw [hd.photoStore hfew, hd.photoSlot hfew hw]
  show d.widgets[i]?.bind Widget.stored = w.stored
  rw [hw]
  rfl

lemma shelved_empty : Shell.empty.Shelved h := by
  refine ⟨rfl, fun i w hw => by simp [Shell.empty] at hw, fun _ => ?_⟩
  funext slot
  cases slot with
  | zero => rfl
  | succ i => rfl

/-- Construction takes a slot, and empties it. -/
lemma construct_reads (client : Client) (p : CardPhotoStore) (slot : ℕ) :
    (SmartCardHandler.construct h client p slot).photoSlot = slot ∧
      (SmartCardHandler.construct h client p slot).photoToken = 0 ∧
      (SmartCardHandler.construct h client p slot).photoStore = p.clear slot ∧
      (SmartCardHandler.construct h client p slot).destroyed = false ∧
      (SmartCardHandler.construct h client p slot).photo = .empty := by
  have hreads := refresh_quiet (h := h)
    (s := { client := client, photoStore := p, photoSlot := slot }) rfl
  rw [CardReads.bindCard, if_neg fun hshort => hshort.1 hshort.2.symm,
    CardReads.rebind_eq] at hreads
  unfold SmartCardHandler.construct
  rw [hreads]
  exact ⟨rfl, rfl, rfl, rfl, rfl⟩

lemma Shelved.construct (hd : d.Shelved h) (client : Client) :
    (d.construct h client).Shelved h := by
  obtain ⟨hslot, htoken, hstore, -, hphoto⟩ :=
    construct_reads (h := h) client d.photoStore d.nextPhotoSlot
  have hnext : d.nextPhotoSlot = (d.widgets.length + 1) % 2 ^ 64 := by
    rw [nextPhotoSlot, hd.counter]
    omega
  have hlength : (d.construct h client).widgets.length = d.widgets.length + 1 := by
    simp [Shell.construct]
  refine ⟨?_, ?_, ?_⟩
  · rw [hlength]
    exact hnext
  · intro i w hw
    simp only [Shell.construct, List.getElem?_append, List.getElem?_singleton] at hw
    split_ifs at hw with hlt hzero
    · exact hd.widgets i w hw
    · obtain rfl : i = d.widgets.length := by omega
      rw [← Option.some.inj hw]
      exact {
        slot := hslot.trans hnext
        token := htoken
        published := by simp
        listed := .inl (by rw [hphoto]; rfl)
        bare := iff_of_true rfl (.inr (by rw [hphoto]; rfl)) }
  -- While the counter has not wrapped, the new slot is one nobody has used, so clearing it changes
  -- no image.
  · intro hfew
    rw [hlength] at hfew
    have hold : d.photoStore.images = d.shelf := hd.photoStore (by omega)
    have hfresh : d.nextPhotoSlot = d.widgets.length + 1 := by
      rw [hnext]
      exact Nat.mod_eq_of_lt hfew
    have hempty : d.photoStore.images d.nextPhotoSlot = none := by
      rw [hold, hfresh]
      simp [shelf]
    have himages : (d.construct h client).photoStore.images = d.photoStore.images := by
      show (SmartCardHandler.construct h client d.photoStore d.nextPhotoSlot).photoStore.images = _
      rw [hstore]
      show Function.update d.photoStore.images d.nextPhotoSlot none = _
      rw [← hempty, Function.update_eq_self]
    rw [himages, hold]
    exact (shelf_of_append rfl rfl).symm

lemma Shelved.handle (hd : d.Shelved h) {e : Event} (hw : d.widgets[i]? = some w)
    (he : e.isSibling = false) (hal : Plasmoid.allows (w.sharing d.photoStore) e) :
    (d.handle h i e).Shelved h := by
  have heq : d.handle h i e = { d with
      photoStore := (w.handle h d.photoStore e).handler.photoStore
      widgets := d.widgets.set i (w.handle h d.photoStore e) } := by
    simp only [Shell.handle, hw]
  obtain ⟨hlt, -⟩ := List.getElem?_eq_some_iff.1 hw
  rw [heq]
  refine ⟨?_, ?_, ?_⟩
  · rw [List.length_set]
    exact hd.counter
  · intro j x hx
    rw [List.getElem?_set] at hx
    split_ifs at hx with hij
    · subst hij
      rw [← Option.some.inj hx]
      exact (hd.widgets i w hw).handle he hal
    · exact hd.widgets j x hx
  · intro hfew
    rw [List.length_set] at hfew
    have himages := Widget.images_handle (hd.widgets i w hw) (hd.images_photoSlot hfew hw) he
    show (w.handle h d.photoStore e).handler.photoStore.images = _
    rw [himages, hd.photoSlot hfew hw, hd.photoStore hfew]
    exact (shelf_of_set rfl hlt).symm

lemma kept_shelved : (shell h).Kept (Shelved h) := by
  intro d e hd hal
  cases e with
  | construct client => exact hd.construct client
  | handle i e =>
      obtain ⟨w, hw, he, hal⟩ := hal
      exact hd.handle hw he hal

end Shell

/-! ## What the provider answers -/

/-- What the provider answers where an image is stored, or none is. -/
def answer (o : ImageOps) (image : Option QImage) (requestedSize : QSize) : Option QImage × QSize :=
  (image.map (o.fitted requestedSize), (image.map o.size).getD ⟨0, 0⟩)

/-- Each of a widget's URLs shows the widget's own photo. -/
structure PhotosIsolated (h : PlasmoidHost) (d : Shell) : Prop where
  /-- The URL a widget publishes is one of those noted, and nothing is noted to be stored exactly
  where the widget cleared its photo, never had one, or is gone. -/
  noted : ∀ w ∈ d.widgets,
    (w.handler.photo.cardPhotoUrl = [] ∨ w.handler.photo.cardPhotoUrl ∈ w.published) ∧
      (w.stored = none ↔ w.Bare)
  /-- A URL a widget published is answered with the image the widget stored last, or with nothing
  where it cleared its photo or is gone. -/
  own : d.widgets.length < 2 ^ 64 → ∀ w ∈ d.widgets, ∀ url ∈ w.published,
    ∀ o requestedSize, requestImage h.chars o (some d.photoStore) (imageId url) requestedSize =
      answer o w.stored requestedSize
  /-- An id that names no slot is answered with nothing. -/
  malformed : d.widgets.length < 2 ^ 64 → ∀ id, NamesNoSlot h.chars id →
    ∀ o requestedSize, requestImage h.chars o (some d.photoStore) id requestedSize =
      answer o none requestedSize
  /-- Two photos of a widget have the same URL only if `2 ^ 64` photos lie between them, or a
  multiple of that. -/
  distinct : ∀ w ∈ d.widgets, ∀ (j k : ℕ) (url : QString), w.published[j]? = some url →
    (w.published[k]? = some url ↔ k < w.published.length ∧ j % 2 ^ 64 = k % 2 ^ 64)

lemma Shell.Shelved.photosIsolated {d : Shell} (ht : h.chars.DigitsShow) (hd : d.Shelved h) :
    PhotosIsolated h d where
  noted := by
    intro w hmem
    obtain ⟨i, hw⟩ := List.mem_iff_getElem?.1 hmem
    exact ⟨(hd.widgets i w hw).listed, (hd.widgets i w hw).bare⟩
  own := by
    intro hfew w hmem url hurl o requestedSize
    obtain ⟨i, hw⟩ := List.mem_iff_getElem?.1 hmem
    obtain ⟨k, hk⟩ := List.mem_iff_getElem?.1 hurl
    have hslot : w.handler.photoSlot < 2 ^ 64 := by
      rw [(hd.widgets i w hw).slot]
      exact Nat.mod_lt _ (by decide)
    have hread : slotFromImageId h.chars (imageId url) = w.handler.photoSlot := by
      rw [(hd.widgets i w hw).published k url hk]
      exact slotFromImageId_imageId h ht hslot _
    simp only [requestImage, hread, Option.bind_some, hd.images_photoSlot hfew hw]
    rfl
  malformed := by
    intro hfew id hid o requestedSize
    -- Slots count from one: the slot of a malformed id is never anybody's.
    have hzero : d.photoStore.images 0 = none := by
      rw [hd.photoStore hfew]
      rfl
    simp only [requestImage, slotFromImageId_of_namesNoSlot hid, Option.bind_some, hzero]
    rfl
  distinct := by
    intro w hmem j k url hj
    obtain ⟨i, hw⟩ := List.mem_iff_getElem?.1 hmem
    have hkept := hd.widgets i w hw
    constructor
    · intro hk
      obtain ⟨hlt, -⟩ := List.getElem?_eq_some_iff.1 hk
      -- Two URLs of one widget agree only where the token came round: 2 ^ 64 images apart.
      have heq := cardPhotoUrl_injective h _
        ((hkept.published j url hj).symm.trans (hkept.published k url hk))
      exact ⟨hlt, by omega⟩
    · rintro ⟨hlt, hmod⟩
      have hk : w.published[k]? = some w.published[k] := List.getElem?_eq_getElem hlt
      have hnext : (j + 1) % 2 ^ 64 = (k + 1) % 2 ^ 64 := by omega
      rw [hk, hkept.published k _ hk, hkept.published j url hj, hnext]

/-- **A widget's photo URLs show its own photo.**  The provider reads back the slot a handler wrote,
and in every state of every run the widgets' photos are isolated. -/
theorem photos_isolated (h : PlasmoidHost) (ht : h.chars.DigitsShow) :
    (∀ slot < 2 ^ 64, ∀ token < 2 ^ 64,
      slotFromImageId h.chars (imageId (cardPhotoUrl h slot token)) = slot) ∧
    ∀ d es, (shell h).start d → (shell h).Admits d es →
      (shell h).Always (PhotosIsolated h) d es := by
  refine ⟨fun slot hslot token _ => slotFromImageId_imageId h ht hslot token, ?_⟩
  rintro d es rfl ha
  exact (Shell.kept_shelved.always Shell.shelved_empty ha).mono fun d hd => hd.photosIsolated ht

instance (d : Shell) : (e : ShellEvent) → Decidable (d.allows e)
  | .construct client => inferInstanceAs (Decidable (client.minted = 0))
  | .handle i e => inferInstanceAs (Decidable
      (∃ w ∈ d.widgets[i]?, e.isSibling = false ∧ Plasmoid.allows (w.sharing d.photoStore) e))

instance (d : Shell) (e : ShellEvent) : Decidable ((shell h).allows d e) :=
  inferInstanceAs (Decidable (d.allows e))

/-- What the client shows a new widget: a reader with a card. -/
def seated : Client := { registry := .desk (qs "r") 1 (.eid true) }

/-- Widget `i`, which minted `k` operations, reads its card's identity and photo. -/
def readPhoto (i k : ℕ) (bytes : QByteArray) : List ShellEvent :=
  [.handle i .readIdentity,
    .handle i (.finished k {}),
    .handle i (.finished (k + 1) { photos := [⟨some bytes⟩] })]

/-- Two widgets read a photo each, and the card of the first is taken out. -/
def twoPhotos : List ShellEvent :=
  [.construct seated, .construct seated] ++ readPhoto 1 0 [2] ++ readPhoto 0 0 [1] ++
    [.handle 0 (.registryChanged .blank)]

theorem photos_isolated_twoPhotos :
    ((shell .plain).exec .empty twoPhotos).photoStore.images 1 = none ∧
      ((shell .plain).exec .empty twoPhotos).photoStore.images 2 = some ⟨[2]⟩ ∧
      (slotFromImageId .plain (imageId (cardPhotoUrl .plain 2 1)) = 2) ∧
      (shell .plain).Always (PhotosIsolated .plain) .empty twoPhotos := by
  have hdigits : PlasmoidHost.plain.chars.DigitsShow := CharClasses.digitsShow_plain
  exact ⟨by decide, by decide,
    (photos_isolated .plain hdigits).1 2 (by decide) 1 (by decide),
    (photos_isolated .plain hdigits).2 .empty twoPhotos rfl (by decide)⟩

/-! ## Where the counters come round -/

section Rounds

/-- The card is bound, the view closed, and nothing is in flight; `k` operations were minted. -/
structure Idle (k : ℕ) (s : SmartCardHandler) : Prop where
  card : s.card = some 1
  identityOp : s.identityOp = none
  photoOp : s.photoOp = none
  minted : s.client.minted = k
  closed : s.viewActive = false
  alive : s.destroyed = false

/-- The same, but for an identity read in flight. -/
structure ReadingIdentity (k : ℕ) (s : SmartCardHandler) : Prop where
  card : s.card = some 1
  identityOp : s.identityOp = some k
  photoOp : s.photoOp = none
  minted : s.client.minted = k + 1
  op : s.client.ops k = { request := .readIdentity, card := 1, connected := true }
  closed : s.viewActive = false
  alive : s.destroyed = false

/-- The same, but for the photo read that followed it. -/
structure ReadingPhoto (k : ℕ) (s : SmartCardHandler) : Prop where
  card : s.card = some 1
  identityOp : s.identityOp = none
  photoOp : s.photoOp = some (k + 1)
  minted : s.client.minted = k + 2
  op : s.client.ops (k + 1) = { request := .getPhoto, card := 1, connected := true }
  closed : s.viewActive = false
  alive : s.destroyed = false

variable {k : ℕ} {s : SmartCardHandler}

lemma Idle.readIdentity (hs : Idle k s) : ReadingIdentity k s.readIdentity := by
  have heq : s.readIdentity = { s with
      toCardReads := s.mintIdentity 1
      errorMessage := []
      busy := true
      operationPhase := .created } := by
    simp only [SmartCardHandler.readIdentity, hs.card, hs.identityOp]
    rfl
  rw [heq]
  exact {
    card := hs.card
    identityOp := congrArg some hs.minted
    photoOp := hs.photoOp
    minted := congrArg Nat.succ hs.minted
    op := by
      rw [← hs.minted]
      exact Client.mint_ops_self s.client 1 .readIdentity
    closed := hs.closed
    alive := hs.alive }

lemma startPhotoRead_of {r : CardReads} {c : CardRef} (hc : r.card = some c)
    (hfree : r.photoOp = none) : r.startPhotoRead = r.mintPhoto c := by
  unfold CardReads.startPhotoRead
  split
  · next hnone =>
      rw [hnone] at hc
      cases hc
  · next d hd =>
      obtain rfl : d = c := Option.some.inj (hd.symm.trans hc)
      rw [if_neg (by simp [hfree])]
      rfl

lemma ReadingIdentity.finished (hs : ReadingIdentity k s) :
    ReadingPhoto k (s.finished h k {}) := by
  have heq : s.finished h k {} =
      { (s.identityAnswered h k {}).classifyActiveCard h with
        toCardReads := ((s.identityAnswered h k {}).classifyActiveCard h).startPhotoRead } := by
    simp only [SmartCardHandler.finished, hs.op, SmartCardHandler.onOperationFinished,
      hs.identityOp]
    rfl
  have hquiet : ((s.identityAnswered h k {}).classifyActiveCard h).toCardReads =
      (s.identityAnswered h k {}).toCardReads := classifyActiveCard_quiet hs.closed
  have hstart : (s.identityAnswered h k {}).startPhotoRead =
      (s.identityAnswered h k {}).mintPhoto 1 := startPhotoRead_of hs.card hs.photoOp
  have hminted : (s.identityAnswered h k {}).client.minted = k + 1 := hs.minted
  rw [heq, hquiet, hstart]
  exact {
    card := hs.card
    identityOp := rfl
    photoOp := congrArg some hminted
    minted := congrArg Nat.succ hminted
    op := by
      rw [← hminted]
      exact Client.mint_ops_self _ 1 .getPhoto
    closed := ((s.identityAnswered h k {}).classifyActiveCard_viewActive).trans hs.closed
    alive := hs.alive }

lemma ReadingPhoto.finished (hs : ReadingPhoto k s) (bytes : QByteArray) (hbytes : bytes ≠ []) :
    Idle (k + 2) (s.finished .plain (k + 1) { photos := [⟨some bytes⟩] }) ∧
      brought .plain s (.finished (k + 1) { photos := [⟨some bytes⟩] }) = some ⟨bytes⟩ := by
  have hphoto : CardReads.photoOf .plain { photos := [⟨some bytes⟩] } = some (bytes, ⟨bytes⟩) := by
    simp only [CardReads.photoOf, if_neg hbytes]
    rfl
  constructor
  · simp only [SmartCardHandler.finished, hs.op, reduceCtorEq, if_true, if_false,
      CardReads.onPhotoFinished, hs.photoOp, hphoto, ne_eq, not_true]
    exact ⟨hs.card, hs.identityOp, rfl, hs.minted, hs.closed, hs.alive⟩
  · rw [brought, if_pos ⟨by rw [hs.op], by simp [hs.op], by simp [hs.photoOp], rfl⟩, hphoto]
    rfl

/-! ### A widget that goes on reading -/

/-- The process has one widget, which published `n` photos and satisfies `P`. -/
def One (P : SmartCardHandler → Prop) (n : ℕ) (d : Shell) : Prop :=
  ∃ w, d.widgets = [w] ∧ w.published.length = n ∧ P (w.sharing d.photoStore)

/-- What the widget does, the process does. -/
lemma One.handle {P Q : SmartCardHandler → Prop} {n : ℕ} {d : Shell} (hd : One P n d) {e : Event}
    (he : e.isSibling = false)
    (hstep : ∀ s, P s → allows s e ∧ Q (Plasmoid.step h s e)) :
    (shell h).allows d (.handle 0 e) ∧
      ((∀ s, P s → brought h s e = none) → One Q n ((shell h).step d (.handle 0 e))) ∧
      ((∀ s, P s → (brought h s e).isSome) → One Q (n + 1) ((shell h).step d (.handle 0 e))) := by
  obtain ⟨w, hw, hlength, hP⟩ := hd
  obtain ⟨hal, hQ⟩ := hstep _ hP
  have hget : d.widgets[0]? = some w := by
    rw [hw]
    rfl
  have heq : (shell h).step d (.handle 0 e) = { d with
      photoStore := (w.handle h d.photoStore e).handler.photoStore
      widgets := [w.handle h d.photoStore e] } := by
    show d.handle h 0 e = _
    simp [Shell.handle, hw]
  rw [heq]
  refine ⟨⟨w, hget, he, hal⟩, fun hnone => ⟨_, rfl, ?_, hQ⟩, fun hsome => ⟨_, rfl, ?_, hQ⟩⟩
  · rw [(Widget.handle_of_none (hnone _ hP)).1, hlength]
  · simp only [Widget.handle, notePublished, if_pos (hsome _ hP), List.length_append,
      List.length_singleton, hlength]

/-- One reading of the photo. -/
lemma one_readPhoto {n k : ℕ} {d : Shell} (hd : One (Idle k) n d) :
    (shell .plain).Admits d (readPhoto 0 k [1]) ∧
      One (Idle (k + 2)) (n + 1) ((shell .plain).exec d (readPhoto 0 k [1])) := by
  obtain ⟨hal₁, hd₁, -⟩ := hd.handle (h := .plain) (e := .readIdentity) rfl
    fun s hs => ⟨⟨.inl hs.alive, trivial⟩, hs.readIdentity⟩
  obtain ⟨hal₂, hd₂, -⟩ := (hd₁ fun s _ => rfl).handle (h := .plain) (e := .finished k {}) rfl
    fun s hs => ⟨⟨.inl hs.alive, by simp [Event.guard, hs.minted, hs.op]⟩, hs.finished⟩
  obtain ⟨hal₃, -, hd₃⟩ :=
    (hd₂ fun s hs => by simp [brought, hs.op]).handle (h := .plain)
      (e := .finished (k + 1) { photos := [⟨some [1]⟩] }) rfl
      fun s hs => ⟨⟨.inl hs.alive, by simp [Event.guard, hs.minted, hs.op]⟩,
        (hs.finished [1] (by simp)).1⟩
  refine ⟨⟨hal₁, hal₂, hal₃, trivial⟩, hd₃ fun s hs => ?_⟩
  rw [(hs.finished [1] (by simp)).2]
  rfl

/-- The widget reads the same photo again and again. -/
def rereads (n : ℕ) : List ShellEvent := (List.range n).flatMap fun k => readPhoto 0 (2 * k) [1]

lemma one_rereads {d : Shell} (hd : One (Idle 0) 0 d) (n : ℕ) :
    (shell .plain).Admits d (rereads n) ∧
      One (Idle (2 * n)) n ((shell .plain).exec d (rereads n)) := by
  induction n with
  | zero => exact ⟨trivial, hd⟩
  | succ n ih =>
      have hsucc : rereads (n + 1) = rereads n ++ readPhoto 0 (2 * n) [1] := by
        simp [rereads, List.range_succ]
      obtain ⟨hal, hone⟩ := one_readPhoto ih.2
      rw [hsucc, Machine.admits_append, Machine.exec_append]
      exact ⟨⟨ih.1, hal⟩, hone⟩

lemma one_construct : One (Idle 0) 0 ((shell .plain).step .empty (.construct seated)) :=
  ⟨_, rfl, rfl, by decide, by decide, by decide, by decide, by decide, by decide⟩

/-! ### Widgets that come and go -/

/-- Widgets are constructed and destroyed, one after the other, besides the first. -/
def newcomers (n : ℕ) : List ShellEvent :=
  (List.range n).flatMap fun k => [.construct seated, .handle (k + 1) .destroy]

/-- The first widget is none the worse for them, and the counter goes on. -/
lemma newcomers_run {d : Shell} {w : Widget} (hw : d.widgets = [w]) (hcounter : d.counter = 1)
    (n : ℕ) :
    (shell h).Admits d (newcomers n) ∧
      ((shell h).exec d (newcomers n)).widgets[0]? = some w ∧
      ((shell h).exec d (newcomers n)).widgets.length = n + 1 ∧
      ((shell h).exec d (newcomers n)).counter = (n + 1) % 2 ^ 64 := by
  induction n with
  | zero =>
      refine ⟨trivial, ?_, ?_, hcounter⟩
      · show d.widgets[0]? = some w
        rw [hw]
        rfl
      · show d.widgets.length = 1
        rw [hw]
        rfl
  | succ n ih =>
      obtain ⟨had, hfirst, hlength, hcount⟩ := ih
      have hsucc : newcomers (n + 1) =
          newcomers n ++ [.construct seated, .handle (n + 1) .destroy] := by
        simp [newcomers, List.range_succ]
      obtain ⟨d', hd'⟩ : ∃ d', d' = (shell h).exec d (newcomers n) := ⟨_, rfl⟩
      rw [hsucc, Machine.admits_append, Machine.exec_append, ← hd']
      rw [← hd'] at hfirst hlength hcount
      have hnew : (d'.construct h seated).widgets[n + 1]? = some
          { handler := SmartCardHandler.construct h seated d'.photoStore d'.nextPhotoSlot } := by
        simp [Shell.construct, ← hlength]
      have halive := (Shell.construct_reads (h := h) seated d'.photoStore d'.nextPhotoSlot).2.2.2.1
      refine ⟨⟨had, rfl, ⟨_, hnew, rfl, .inl halive, trivial⟩, trivial⟩, ?_⟩
      have hgone : (shell h).exec d' [.construct seated, .handle (n + 1) .destroy] =
          (d'.construct h seated).handle h (n + 1) .destroy := rfl
      rw [hgone]
      simp only [Shell.handle, hnew]
      refine ⟨?_, ?_, ?_⟩
      · rw [List.getElem?_set_ne (by omega)]
        simp only [Shell.construct]
        rw [List.getElem?_append_left (by omega)]
        exact hfirst
      · simp [Shell.construct, hlength]
      · show d'.nextPhotoSlot = _
        rw [Shell.nextPhotoSlot, hcount]
        omega

/-- The first widget shows a photo, and then others come and go. -/
def photoThen (n : ℕ) : List ShellEvent :=
  .construct seated :: readPhoto 0 0 [1] ++ newcomers n ++ [.construct seated]

/-- The widget that gets the first one's slot again empties it. -/
lemma photo_lost {n : ℕ} (hn : (n + 1) % 2 ^ 64 = 0) :
    (shell .plain).Admits .empty (photoThen n) ∧
      ∃ w ∈ ((shell .plain).exec .empty (photoThen n)).widgets,
        w.stored = some ⟨[1]⟩ ∧ ∃ url ∈ w.published, ∀ o requestedSize,
          (requestImage .plain o (some ((shell .plain).exec .empty (photoThen n)).photoStore)
            (imageId url) requestedSize).1 = none := by
  obtain ⟨d, hd⟩ : ∃ d, d = (shell .plain).exec .empty (.construct seated :: readPhoto 0 0 [1]) :=
    ⟨_, rfl⟩
  have hlength : d.widgets.length = 1 := by
    rw [hd]
    decide
  have hcounter : d.counter = 1 := by
    rw [hd]
    decide
  obtain ⟨w, hw⟩ := List.length_eq_one_iff.1 hlength
  have hrecord : d.widgets.map (fun w => (w.stored, w.published)) =
      [(some ⟨[1]⟩, [cardPhotoUrl .plain 1 1])] := by
    rw [hd]
    decide
  rw [hw] at hrecord
  obtain ⟨hstored, hpublished⟩ := Prod.mk.inj (List.cons.inj hrecord).1
  obtain ⟨had, hfirst, -, hcount⟩ := newcomers_run (h := .plain) hw hcounter n
  -- `n` others come and go, which brings the slot counter back to where the first widget found it.
  obtain ⟨d', hd'⟩ : ∃ d', d' = (shell .plain).exec d (newcomers n) := ⟨_, rfl⟩
  rw [← hd'] at hfirst hcount
  have hexec : (shell .plain).exec .empty (photoThen n) = d'.construct .plain seated := by
    rw [photoThen, Machine.exec_append, Machine.exec_append, ← hd, ← hd']
    rfl
  have hslot : d'.nextPhotoSlot = 1 := by
    rw [Shell.nextPhotoSlot, hcount]
    omega
  have hread : slotFromImageId .plain (imageId (cardPhotoUrl .plain 1 1)) = 1 :=
    slotFromImageId_imageId .plain CharClasses.digitsShow_plain (by decide) 1
  -- The newcomer empties the slot it is given, and that is the slot the first widget's URLs name.
  have hlost : (d'.construct .plain seated).photoStore.images 1 = none := by
    show (SmartCardHandler.construct .plain seated d'.photoStore d'.nextPhotoSlot).photoStore.images
      1 = none
    rw [(Shell.construct_reads (h := .plain) seated d'.photoStore d'.nextPhotoSlot).2.2.1, hslot]
    exact CardPhotoStore.clear_self _ _
  have hurl : cardPhotoUrl .plain 1 1 ∈ w.published := by
    rw [hpublished]
    exact List.mem_singleton_self _
  refine ⟨?_, w, ?_, hstored, cardPhotoUrl .plain 1 1, hurl, fun o requestedSize => ?_⟩
  · rw [photoThen, Machine.admits_append, Machine.admits_append, ← hd]
    exact ⟨⟨by decide, had⟩, rfl, trivial⟩
  · rw [hexec]
    exact List.mem_append_left _ (List.mem_of_getElem? hfirst)
  · simp only [hexec, requestImage, hread, Option.bind_some, hlost]
    rfl

/-- A widget's photo has the URL of an earlier one, if the counter came round in between. -/
lemma photo_repeated {n : ℕ} (hn : n % 2 ^ 64 = 0) (hpos : 0 < n) :
    (shell .plain).Admits .empty (.construct seated :: rereads (n + 1)) ∧
      ∃ w ∈ ((shell .plain).exec .empty (.construct seated :: rereads (n + 1))).widgets,
        ¬ w.published.Nodup := by
  obtain ⟨hadmits, w, hw, hlength, -⟩ := one_rereads one_construct (n + 1)
  have hall : (shell .plain).Admits .empty (.construct seated :: rereads (n + 1)) := ⟨rfl, hadmits⟩
  have hmem : w ∈ ((shell .plain).exec .empty (.construct seated :: rereads (n + 1))).widgets := by
    rw [Machine.exec_cons, hw]
    exact List.mem_singleton_self w
  refine ⟨hall, w, hmem, fun hnodup => ?_⟩
  -- Two URLs of one widget are equal exactly where their indices differ by a multiple of 2 ^ 64.
  have hdistinct := ((Shell.kept_shelved.exec Shell.shelved_empty hall).photosIsolated
    CharClasses.digitsShow_plain).distinct w hmem 0 n
  obtain ⟨url, hfirst⟩ : ∃ url, w.published[0]? = some url :=
    ⟨_, List.getElem?_eq_getElem (by omega)⟩
  have hlast := (hdistinct _ hfirst).2 ⟨by omega, by omega⟩
  have hsame : 0 = n := (List.getElem?_inj (by omega) hnodup).1 (hfirst.trans hlast.symm)
  omega

end Rounds

/-- **The counters come round.**  After `2 ^ 64` widgets the first one's slot is given out again,
and its photo is gone; and a widget's photo after `2 ^ 64` others has the URL of its first. -/
theorem photos_come_round :
    ((shell .plain).Admits .empty (photoThen (2 ^ 64 - 1)) ∧
      ∃ w ∈ ((shell .plain).exec .empty (photoThen (2 ^ 64 - 1))).widgets,
        w.stored = some ⟨[1]⟩ ∧ ∃ url ∈ w.published, ∀ o requestedSize,
          (requestImage .plain o
            (some ((shell .plain).exec .empty (photoThen (2 ^ 64 - 1))).photoStore) (imageId url)
            requestedSize).1 = none) ∧
    ((shell .plain).Admits .empty (.construct seated :: rereads (2 ^ 64 + 1)) ∧
      ∃ w ∈ ((shell .plain).exec .empty (.construct seated :: rereads (2 ^ 64 + 1))).widgets,
        ¬ w.published.Nodup) :=
  ⟨photo_lost (n := 2 ^ 64 - 1) (by decide), photo_repeated (n := 2 ^ 64) (by decide) (by decide)⟩

end LibreKDE.Plasmoid
