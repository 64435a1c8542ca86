import LibreKDE.AgentClient.Vocabulary
import Mathlib.Logic.Function.Basic

/-!
# The client library's objects

The hosts of this development hold raw and guarded pointers into an object tree they do not
own: the client, its readers, the `AgentCard` of each present card, and the operations
minted on a card.  This file is that tree as a value.

* `Registry` is what the client publishes: whether the agent is reachable, its readers in
  the deterministic order `readers()` lists them, and which `AgentCard` objects exist.  A
  registry carries the proof that a reader's card, when it has one, is an existing object.
* `Operation` is one minted operation: what was asked, on which card, whether the host is
  still connected to its `finished` signal, and how it ended.
* `Client` is the registry together with the table of all operations the host ever minted.  The
  table is what lets a property speak of the past: an ended operation keeps its terminal.

Objects are named by number — a card by its `CardRef`, an operation by the number it was
minted under — so that "the same `AgentCard`" is equality.  Destroying a card destroys the
operations parented to it, and a guarded pointer (`Client.guardCard`, `Client.guardOp`) reads
null from then on.

`Client.Pending` is the notion every protocol result rests on: an operation that was
minted, that the host still listens to, and that has neither ended nor been destroyed.
-/

namespace LibreKDE

/-- The identity of an `AgentCard` object.  A card taken out and put in again is another object, and
has another number. -/
abbrev CardRef := ℕ

/-! ## What the client publishes -/

/-- A reader, as the agent reports it.  Its id tells it from all others; its name need not, since
two readers of one make can carry the same. -/
structure AgentReader where
  /-- Opaque agent-side id. -/
  id : QString
  /-- The raw PC/SC name: the key hosts bind and select on. -/
  name : QString
  /-- The agent's label for it. -/
  model : QString := []
  interface : ReaderInterface := .unknown
  /-- Whether the reader reports a card, resolvable or not. -/
  hasCard : Bool := false
  /-- The resolvable card, once the agent has exported it. -/
  card : Option CardRef := none
  deriving DecidableEq, Repr

/-- A card, as the agent reports it: what it can do, and what an unlock would have to begin with.
None of it takes a read. -/
structure AgentCard where
  capabilities : Capabilities
  preReadAuth : PreReadAuth := .none
  /-- The id of the reader holding it. -/
  readerId : QString := []
  deriving DecidableEq, Repr

/-- `Cards::hasCapability(card, Cap::PinManagement)`. -/
def AgentCard.pinManagement (c : AgentCard) : Bool := c.capabilities.pinManagement

/-- A national identity card with a signing key, with or without PIN management. -/
def AgentCard.eid (pinManagement : Bool) : AgentCard where
  capabilities :=
    { identityData := true, pki := true, emrtdCrypto := false, pinManagement, other := 0 }

/-- The client's registry: what it publishes of the agent, the readers and the cards, all at one
moment. -/
structure Registry where
  available : Bool
  agentState : AgentState
  /-- In the client's own deterministic order. -/
  readers : List AgentReader
  /-- The `AgentCard` objects that exist. -/
  cards : CardRef → Option AgentCard
  /-- A reader's card is an existing object. -/
  seated : ∀ r ∈ readers, ∀ c ∈ r.card, (cards c).isSome

namespace Registry

variable (r : Registry)

/-- `client.reader(id)`: the reader of that id, if the agent reports one. -/
def reader (id : QString) : Option AgentReader := r.readers.find? fun x => x.id = id

/-- The card object exists, and a pointer to it still reads what it points to. -/
def live (c : CardRef) : Bool := (r.cards c).isSome

/-- The registry of a client that has not heard of the agent. -/
def blank : Registry where
  available := false
  agentState := .stopped
  readers := []
  cards _ := none
  seated := by simp

/-- A desk with one reader, holding one card. -/
def desk (id : QString) (c : CardRef) (card : AgentCard) : Registry where
  available := true
  agentState := .ready
  readers := [{ id := id, name := id, model := id, hasCard := true, card := some c }]
  cards d := if d = c then some card else none
  seated := by simp

/-- The registry with the cards of another one added, so that none of those goes. -/
def keeping (old : Registry) : Registry where
  available := r.available
  agentState := r.agentState
  readers := r.readers
  cards c := (r.cards c).or (old.cards c)
  seated x hx c hc := by simp [r.seated x hx c hc]

lemma live_keeping {r old : Registry} {c : CardRef} (h : old.live c = true) :
    (r.keeping old).live c = true := by
  simp only [live] at h ⊢
  simp [keeping, h]

lemma mem_readers_of_reader {r : Registry} {id : QString} {x : AgentReader}
    (h : r.reader id = some x) : x ∈ r.readers :=
  List.mem_of_find?_eq_some h

lemma live_of_mem {r : Registry} {x : AgentReader} {c : CardRef} (hx : x ∈ r.readers)
    (hc : x.card = some c) : r.live c :=
  r.seated x hx c hc

end Registry

/-! ## Operations -/

/-- What was asked of the agent, with its arguments. -/
inductive Request
  | listCredentials
  | managePin (id : QString) (verb : PinVerb) (options : ManagePinOptions)
  | activateSigningKey
  | readIdentity
  | getPhoto
  | readCertificates
  | sign (certId : QString) (options : SignOptions)
  deriving DecidableEq, Repr

/-- The requests that change the card.  A signature leaves it as it was. -/
def Request.isMutation : Request → Bool
  | .managePin .. | .activateSigningKey => true
  | .listCredentials | .readIdentity | .getPhoto | .readCertificates | .sign .. => false

/-- An operation minted on a card, from the request to its terminal; it is kept when it is over, so
that a statement can speak of it. -/
structure Operation where
  request : Request
  card : CardRef
  /-- The host's slot is connected to `finished`. -/
  connected : Bool := false
  /-- The host asked the agent to cancel it. -/
  cancelled : Bool := false
  /-- The object is gone, with its card or by `deleteLater`. -/
  destroyed : Bool := false
  /-- Its terminal, once it has one. -/
  ended : Option Terminal := none
  deriving DecidableEq, Repr

/-- The client library, as a host sees it. -/
structure Client where
  registry : Registry
  /-- How many operations the host has minted; the next one gets this number. -/
  minted : ℕ := 0
  /-- Every operation minted so far (the entries from `minted` on mean nothing). -/
  ops : ℕ → Operation := fun _ => { request := .listCredentials, card := 0 }

namespace Client

/-- The operation can still deliver its terminal to the host. -/
structure Pending (k : Client) (i : ℕ) : Prop where
  /-- It exists. -/
  minted : i < k.minted
  /-- The host listens to it. -/
  connected : (k.ops i).connected = true
  /-- It has not been destroyed. -/
  alive : (k.ops i).destroyed = false
  /-- It has not ended. -/
  running : (k.ops i).ended = none

instance (k : Client) (i : ℕ) : Decidable (k.Pending i) :=
  decidable_of_iff
    (i < k.minted ∧ (k.ops i).connected = true ∧ (k.ops i).destroyed = false ∧
      (k.ops i).ended = none)
    ⟨fun h => ⟨h.1, h.2.1, h.2.2.1, h.2.2.2⟩, fun h => ⟨h.1, h.2, h.3, h.4⟩⟩

/-- `card->request(…)` followed by `connect(op, finished, …)`: the new operation has number
`k.minted`. -/
def mint (k : Client) (c : CardRef) (q : Request) : Client where
  registry := k.registry
  minted := k.minted + 1
  ops := Function.update k.ops k.minted { request := q, card := c, connected := true }

/-- Change one entry of the table of operations. -/
def modifyOp (k : Client) (i : ℕ) (f : Operation → Operation) : Client where
  registry := k.registry
  minted := k.minted
  ops := Function.update k.ops i (f (k.ops i))

/-- `op->disconnect(this)`: the host does not hear of the operation any more, which itself goes
on. -/
def disconnect (k : Client) (i : ℕ) : Client :=
  k.modifyOp i fun o => { o with connected := false }

/-- `op->cancel()`: fire and forget; the terminal comes as before, and need not be a cancel. -/
def cancel (k : Client) (i : ℕ) : Client :=
  k.modifyOp i fun o => { o with cancelled := true }

/-- `op->deleteLater()`: the object goes, and no terminal is delivered from then on. -/
def deleteLater (k : Client) (i : ℕ) : Client :=
  k.modifyOp i fun o => { o with destroyed := true }

/-- The operation reaches its terminal, whether or not somebody listens. -/
def finish (k : Client) (i : ℕ) (t : Terminal) : Client :=
  k.modifyOp i fun o => { o with ended := some t }

/-- The registry moves: an `AgentCard` that is no longer there takes the operations parented
to it along. -/
def setRegistry (k : Client) (r : Registry) : Client where
  registry := r
  minted := k.minted
  ops i := { k.ops i with destroyed := (k.ops i).destroyed || !r.live (k.ops i).card }

/-- A `QPointer` to a card: null once the object is gone. -/
def guardCard (k : Client) (p : Option CardRef) : Option CardRef := p.filter k.registry.live

/-- A `QPointer` to an operation: null once the object is gone, with its card or by
`deleteLater`. -/
def guardOp (k : Client) (p : Option ℕ) : Option ℕ :=
  p.filter fun i => !(k.ops i).destroyed

/-! ## What each call leaves of an operation -/

section Simp

variable (k : Client) (c : CardRef) (q : Request) (i j : ℕ) (t : Terminal) (r : Registry)
  (f : Operation → Operation)

@[simp] lemma mint_registry : (k.mint c q).registry = k.registry := rfl
@[simp] lemma mint_minted : (k.mint c q).minted = k.minted + 1 := rfl
@[simp] lemma disconnect_registry : (k.disconnect i).registry = k.registry := rfl
@[simp] lemma disconnect_minted : (k.disconnect i).minted = k.minted := rfl
@[simp] lemma cancel_registry : (k.cancel i).registry = k.registry := rfl
@[simp] lemma cancel_minted : (k.cancel i).minted = k.minted := rfl
@[simp] lemma deleteLater_registry : (k.deleteLater i).registry = k.registry := rfl
@[simp] lemma deleteLater_minted : (k.deleteLater i).minted = k.minted := rfl
@[simp] lemma finish_registry : (k.finish i t).registry = k.registry := rfl
@[simp] lemma finish_minted : (k.finish i t).minted = k.minted := rfl
@[simp] lemma setRegistry_registry : (k.setRegistry r).registry = r := rfl
@[simp] lemma setRegistry_minted : (k.setRegistry r).minted = k.minted := rfl

@[simp] lemma mint_ops_self :
    (k.mint c q).ops k.minted = { request := q, card := c, connected := true } := by
  simp [mint]

lemma modifyOp_ops :
    (k.modifyOp i f).ops j = if j = i then f (k.ops i) else k.ops j := by
  simp [modifyOp, Function.update_apply]

variable {i j} in
lemma disconnect_ops_of_ne (h : j ≠ i) : (k.disconnect i).ops j = k.ops j := by
  simp [disconnect, modifyOp_ops, h]

variable {i j} in
lemma cancel_ops_of_ne (h : j ≠ i) : (k.cancel i).ops j = k.ops j := by
  simp [cancel, modifyOp_ops, h]

variable {i j} in
lemma deleteLater_ops_of_ne (h : j ≠ i) : (k.deleteLater i).ops j = k.ops j := by
  simp [deleteLater, modifyOp_ops, h]

variable {i j} in
lemma finish_ops_of_ne (h : j ≠ i) : (k.finish i t).ops j = k.ops j := by
  simp [finish, modifyOp_ops, h]

/-- A field that the change leaves alone keeps its value in every entry of the table. -/
lemma modifyOp_field {β : Type*} (g : Operation → β) (hg : ∀ o, g (f o) = g o) :
    g ((k.modifyOp i f).ops j) = g (k.ops j) := by
  rw [modifyOp_ops]
  split
  · next hj => rw [hg, hj]
  · rfl

@[simp] lemma disconnect_request : ((k.disconnect i).ops j).request = (k.ops j).request :=
  k.modifyOp_field i j _ Operation.request fun _ => rfl
@[simp] lemma disconnect_card : ((k.disconnect i).ops j).card = (k.ops j).card :=
  k.modifyOp_field i j _ Operation.card fun _ => rfl
@[simp] lemma disconnect_ended : ((k.disconnect i).ops j).ended = (k.ops j).ended :=
  k.modifyOp_field i j _ Operation.ended fun _ => rfl
@[simp] lemma disconnect_cancelled :
    ((k.disconnect i).ops j).cancelled = (k.ops j).cancelled :=
  k.modifyOp_field i j _ Operation.cancelled fun _ => rfl
@[simp] lemma disconnect_destroyed :
    ((k.disconnect i).ops j).destroyed = (k.ops j).destroyed :=
  k.modifyOp_field i j _ Operation.destroyed fun _ => rfl

@[simp] lemma cancel_request : ((k.cancel i).ops j).request = (k.ops j).request :=
  k.modifyOp_field i j _ Operation.request fun _ => rfl
@[simp] lemma cancel_card : ((k.cancel i).ops j).card = (k.ops j).card :=
  k.modifyOp_field i j _ Operation.card fun _ => rfl
@[simp] lemma cancel_ended : ((k.cancel i).ops j).ended = (k.ops j).ended :=
  k.modifyOp_field i j _ Operation.ended fun _ => rfl
@[simp] lemma cancel_connected : ((k.cancel i).ops j).connected = (k.ops j).connected :=
  k.modifyOp_field i j _ Operation.connected fun _ => rfl
@[simp] lemma cancel_destroyed : ((k.cancel i).ops j).destroyed = (k.ops j).destroyed :=
  k.modifyOp_field i j _ Operation.destroyed fun _ => rfl

@[simp] lemma deleteLater_request : ((k.deleteLater i).ops j).request = (k.ops j).request :=
  k.modifyOp_field i j _ Operation.request fun _ => rfl
@[simp] lemma deleteLater_card : ((k.deleteLater i).ops j).card = (k.ops j).card :=
  k.modifyOp_field i j _ Operation.card fun _ => rfl
@[simp] lemma deleteLater_ended : ((k.deleteLater i).ops j).ended = (k.ops j).ended :=
  k.modifyOp_field i j _ Operation.ended fun _ => rfl
@[simp] lemma deleteLater_cancelled :
    ((k.deleteLater i).ops j).cancelled = (k.ops j).cancelled :=
  k.modifyOp_field i j _ Operation.cancelled fun _ => rfl
@[simp] lemma deleteLater_connected :
    ((k.deleteLater i).ops j).connected = (k.ops j).connected :=
  k.modifyOp_field i j _ Operation.connected fun _ => rfl

@[simp] lemma finish_request : ((k.finish i t).ops j).request = (k.ops j).request :=
  k.modifyOp_field i j _ Operation.request fun _ => rfl
@[simp] lemma finish_card : ((k.finish i t).ops j).card = (k.ops j).card :=
  k.modifyOp_field i j _ Operation.card fun _ => rfl
@[simp] lemma finish_connected : ((k.finish i t).ops j).connected = (k.ops j).connected :=
  k.modifyOp_field i j _ Operation.connected fun _ => rfl
@[simp] lemma finish_cancelled : ((k.finish i t).ops j).cancelled = (k.ops j).cancelled :=
  k.modifyOp_field i j _ Operation.cancelled fun _ => rfl
@[simp] lemma finish_destroyed : ((k.finish i t).ops j).destroyed = (k.ops j).destroyed :=
  k.modifyOp_field i j _ Operation.destroyed fun _ => rfl

@[simp] lemma setRegistry_request : ((k.setRegistry r).ops j).request = (k.ops j).request := rfl
@[simp] lemma setRegistry_card : ((k.setRegistry r).ops j).card = (k.ops j).card := rfl
@[simp] lemma setRegistry_ended : ((k.setRegistry r).ops j).ended = (k.ops j).ended := rfl
@[simp] lemma setRegistry_connected :
    ((k.setRegistry r).ops j).connected = (k.ops j).connected := rfl
@[simp] lemma setRegistry_cancelled :
    ((k.setRegistry r).ops j).cancelled = (k.ops j).cancelled := rfl
@[simp] lemma setRegistry_destroyed :
    ((k.setRegistry r).ops j).destroyed =
      ((k.ops j).destroyed || !r.live (k.ops j).card) := rfl

lemma disconnect_connected :
    ((k.disconnect i).ops j).connected = (decide (j ≠ i) && (k.ops j).connected) := by
  by_cases h : j = i <;> simp [disconnect, modifyOp_ops, h]

lemma deleteLater_destroyed :
    ((k.deleteLater i).ops j).destroyed = (decide (j = i) || (k.ops j).destroyed) := by
  by_cases h : j = i <;> simp [deleteLater, modifyOp_ops, h]

lemma finish_ended :
    ((k.finish i t).ops j).ended = if j = i then some t else (k.ops j).ended := by
  by_cases h : j = i <;> simp [finish, modifyOp_ops, h]

end Simp

/-! ## What each call leaves pending -/

section Pending

variable {k : Client} {c : CardRef} {q : Request} {i j : ℕ} {t : Terminal} {r : Registry}

lemma pending_iff :
    k.Pending j ↔ j < k.minted ∧ (k.ops j).connected = true ∧ (k.ops j).destroyed = false ∧
      (k.ops j).ended = none :=
  ⟨fun h => ⟨h.1, h.2, h.3, h.4⟩, fun h => ⟨h.1, h.2.1, h.2.2.1, h.2.2.2⟩⟩

/-- Minting leaves every earlier entry of the table alone. -/
lemma mint_ops_of_lt (h : j < k.minted) : (k.mint c q).ops j = k.ops j := by
  simp [mint, Function.update_of_ne (Nat.ne_of_lt h)]

@[simp] lemma pending_mint : (k.mint c q).Pending j ↔ k.Pending j ∨ j = k.minted := by
  rcases lt_trichotomy j k.minted with hj | rfl | hj
  · simp [pending_iff, mint_ops_of_lt hj, hj, hj.ne, Nat.lt_succ_of_lt hj]
  · simp [pending_iff]
  · have hlt : ¬ j < k.minted := by omega
    have hsucc : ¬ j < k.minted + 1 := by omega
    simp [pending_iff, hlt, hsucc, hj.ne']

@[simp] lemma pending_disconnect : (k.disconnect i).Pending j ↔ k.Pending j ∧ j ≠ i := by
  simp only [pending_iff, disconnect_minted, disconnect_connected, disconnect_destroyed,
    disconnect_ended, Bool.and_eq_true, decide_eq_true_eq]
  tauto

@[simp] lemma pending_cancel : (k.cancel i).Pending j ↔ k.Pending j := by
  simp [pending_iff]

@[simp] lemma pending_deleteLater : (k.deleteLater i).Pending j ↔ k.Pending j ∧ j ≠ i := by
  simp only [pending_iff, deleteLater_minted, deleteLater_connected, deleteLater_destroyed,
    deleteLater_ended, Bool.or_eq_false_iff, decide_eq_false_iff_not]
  tauto

@[simp] lemma pending_finish : (k.finish i t).Pending j ↔ k.Pending j ∧ j ≠ i := by
  by_cases h : j = i <;> simp [pending_iff, finish_ended, h]

@[simp] lemma pending_setRegistry :
    (k.setRegistry r).Pending j ↔ k.Pending j ∧ r.live (k.ops j).card = true := by
  simp only [pending_iff, setRegistry_minted, setRegistry_connected, setRegistry_destroyed,
    setRegistry_ended, Bool.or_eq_false_iff, Bool.not_eq_false']
  tauto

end Pending

end Client

end LibreKDE
