import LibreKDE.AgentClient.Client
import Mathlib.Data.List.Nodup

/-!
# A client that several hosts share

The widgets of one process hold pointers into one client.  A host that shares it sees the same
registry as everybody and, of the operations, only those it minted itself.  `Shares own k k'` says
that the host which minted the operations `own` of the shared client `k` is in the position it
would be in with the client `k'` to itself: the registries are the same, and `k'` holds the host's
operations, numbered in the order they were minted.

Each call a host makes keeps the two in step (`Shares.mint`, `Shares.modifyOp`,
`Shares.setRegistry`), and what the others do with operations of their own is not seen
(`Shares.others`).
-/

namespace LibreKDE.Client

/-- The host that minted `own` of the operations of `k` sees what it would see of `k'` alone. -/
structure Shares (own : List ℕ) (k k' : Client) : Prop where
  registry : k'.registry = k.registry
  minted : k'.minted = own.length
  nodup : own.Nodup
  lt : ∀ i ∈ own, i < k.minted
  ops : ∀ j i, own[j]? = some i → k'.ops j = k.ops i

lemma eq_of_parts {k : Client} {r : Registry} {n : ℕ} (hr : k.registry = r) (hn : k.minted = n) :
    k = { registry := r, minted := n, ops := k.ops } := by
  subst hr hn
  rfl

/-- A pointer into the shared client, and the same pointer of a host that has a client alone. -/
abbrev SamePointer (own : List ℕ) : Option ℕ → Option ℕ → Prop :=
  Option.Rel fun i j => own[j]? = some i

/-- The operations minted on the way from one state of the client to another. -/
def mintedSince (k k' : Client) : List ℕ := List.range' k.minted (k'.minted - k.minted)

@[simp] lemma mintedSince_of_eq {k k' : Client} (hn : k'.minted = k.minted) :
    k.mintedSince k' = [] := by
  simp [mintedSince, hn]

@[simp] lemma mintedSince_mint (k : Client) (c : CardRef) (q : Request) :
    k.mintedSince (k.mint c q) = [k.minted] := by
  simp [mintedSince]

lemma mintedSince_trans {k k' k'' : Client} (h : k.minted ≤ k'.minted)
    (h' : k'.minted ≤ k''.minted) :
    k.mintedSince k' ++ k'.mintedSince k'' = k.mintedSince k'' := by
  obtain ⟨m, hm⟩ := Nat.exists_eq_add_of_le h
  obtain ⟨n, hn⟩ := Nat.exists_eq_add_of_le h'
  have hfirst : k'.minted - k.minted = m := by omega
  have hsecond : k''.minted - k'.minted = n := by omega
  have hboth : k''.minted - k.minted = m + n := by omega
  rw [mintedSince, mintedSince, mintedSince, hfirst, hsecond, hboth, hm, List.range'_append_1]

lemma mem_mintedSince {k k' : Client} {i : ℕ} (hle : k.minted ≤ k'.minted) :
    i ∈ k.mintedSince k' ↔ k.minted ≤ i ∧ i < k'.minted := by
  rw [mintedSince, List.mem_range'_1, Nat.add_sub_cancel' hle]

/-! ## Pointers -/

section Pointers

variable {own : List ℕ} {p p' : Option ℕ} {i j : ℕ}

lemma SamePointer.isSome (h : SamePointer own p p') : p'.isSome = p.isSome := by
  cases h <;> rfl

lemma SamePointer.isNone_iff (h : SamePointer own p p') : p' = none ↔ p = none := by
  cases h <;> simp

/-- A pointer stays the same one when the host mints more. -/
lemma SamePointer.append (h : SamePointer own p p') (more : List ℕ) :
    SamePointer (own ++ more) p p' := by
  cases h with
  | none => exact .none
  | some hj =>
      refine .some ?_
      rw [List.getElem?_append_left (List.getElem?_eq_some_iff.1 hj).1]
      exact hj

/-- The pointer to the operation that is minted. -/
lemma SamePointer.last (own : List ℕ) (i : ℕ) :
    SamePointer (own ++ [i]) (some i) (some own.length) :=
  .some (by simp)

/-- Where the pointer is not null it tells the operation's number apart from the others. -/
lemma SamePointer.eq_some_iff (hn : own.Nodup) (h : SamePointer own p p') (hj : own[j]? = some i) :
    p' = some j ↔ p = some i := by
  cases h with
  | none => simp
  | @some i' j' hj' =>
      have hlt := (List.getElem?_eq_some_iff.1 hj').1
      constructor
      · rintro ⟨⟩
        exact hj'.symm.trans hj
      · rintro ⟨⟩
        exact congrArg some ((List.getElem?_inj hlt hn).1 (hj'.trans hj.symm))

end Pointers

/-! ## Calls -/

namespace Shares

variable {own : List ℕ} {k k' : Client} {i j : ℕ}

/-- A host that has minted nothing. -/
lemma of_registry (k k' : Client) (hr : k'.registry = k.registry) (hn : k'.minted = 0) :
    Shares [] k k' where
  registry := hr
  minted := hn
  nodup := List.nodup_nil
  lt := by simp
  ops := by simp

lemma mint (hk : Shares own k k') (c : CardRef) (q : Request) :
    Shares (own ++ [k.minted]) (k.mint c q) (k'.mint c q) where
  registry := hk.registry
  minted := by simp [hk.minted]
  nodup := by
    rw [List.nodup_append]
    refine ⟨hk.nodup, List.nodup_singleton _, fun a ha b hb => ?_⟩
    have hlt : a < k.minted := hk.lt a ha
    obtain rfl : b = k.minted := by simpa using hb
    exact hlt.ne
  lt a ha := by
    rcases List.mem_append.1 ha with ha | ha
    · exact Nat.lt_succ_of_lt (hk.lt a ha)
    · obtain rfl : a = k.minted := by simpa using ha
      exact Nat.lt_succ_self _
  ops j i hj := by
    by_cases hlt : j < own.length
    · rw [List.getElem?_append_left hlt] at hj
      have hi : i < k.minted := hk.lt i (List.mem_of_getElem? hj)
      rw [mint_ops_of_lt hi, mint_ops_of_lt (hk.minted ▸ hlt)]
      exact hk.ops j i hj
    · obtain ⟨hj', heq⟩ := List.getElem?_eq_some_iff.1 hj
      rw [List.length_append, List.length_singleton] at hj'
      obtain rfl : j = own.length := by omega
      obtain rfl : k.minted = i := by simpa using heq
      rw [← hk.minted, mint_ops_self, mint_ops_self]

lemma modifyOp (hk : Shares own k k') (hj : own[j]? = some i) (f : Operation → Operation) :
    Shares own (k.modifyOp i f) (k'.modifyOp j f) where
  registry := hk.registry
  minted := hk.minted
  nodup := hk.nodup
  lt := hk.lt
  ops j' i' hj' := by
    have hlt : j < own.length := (List.getElem?_eq_some_iff.1 hj).1
    rw [modifyOp_ops, modifyOp_ops]
    by_cases hsame : j' = j
    · subst hsame
      obtain rfl : i' = i := Option.some.inj (hj'.symm.trans hj)
      rw [if_pos rfl, if_pos rfl, hk.ops j' i' hj']
    · have hother : i' ≠ i := by
        rintro rfl
        exact hsame ((List.getElem?_inj hlt hk.nodup).1 (hj.trans hj'.symm)).symm
      rw [if_neg hsame, if_neg hother, hk.ops j' i' hj']

lemma disconnect (hk : Shares own k k') (hj : own[j]? = some i) :
    Shares own (k.disconnect i) (k'.disconnect j) := hk.modifyOp hj _

lemma cancel (hk : Shares own k k') (hj : own[j]? = some i) :
    Shares own (k.cancel i) (k'.cancel j) := hk.modifyOp hj _

lemma deleteLater (hk : Shares own k k') (hj : own[j]? = some i) :
    Shares own (k.deleteLater i) (k'.deleteLater j) := hk.modifyOp hj _

lemma finish (hk : Shares own k k') (hj : own[j]? = some i) (t : Terminal) :
    Shares own (k.finish i t) (k'.finish j t) := hk.modifyOp hj _

lemma setRegistry (hk : Shares own k k') (r : Registry) :
    Shares own (k.setRegistry r) (k'.setRegistry r) where
  registry := rfl
  minted := hk.minted
  nodup := hk.nodup
  lt := hk.lt
  ops j i hj := by
    simp only [Client.setRegistry, hk.ops j i hj]

/-- Nothing is seen of what the others do with their operations. -/
lemma others (hk : Shares own k k') {k₂ : Client} (hr : k₂.registry = k.registry)
    (hn : k.minted ≤ k₂.minted) (hops : ∀ i ∈ own, k₂.ops i = k.ops i) : Shares own k₂ k' where
  registry := hk.registry.trans hr.symm
  minted := hk.minted
  nodup := hk.nodup
  lt i hi := (hk.lt i hi).trans_le hn
  ops j i hj := (hk.ops j i hj).trans (hops i (List.mem_of_getElem? hj)).symm

/-- A pointer that is cleared in the one client is cleared in the other. -/
lemma guardOp (hk : Shares own k k') {p p' : Option ℕ} (hp : SamePointer own p p') :
    SamePointer own (k.guardOp p) (k'.guardOp p') := by
  cases hp with
  | none => exact .none
  | @some i j hj =>
      simp only [Client.guardOp, Option.filter_some, hk.ops j i hj]
      split_ifs
      · exact .some hj
      · exact .none

/-- An operation of the host is pending in both. -/
lemma pending_iff (hk : Shares own k k') (hj : own[j]? = some i) : k'.Pending j ↔ k.Pending i := by
  have hlt : j < k'.minted := hk.minted ▸ (List.getElem?_eq_some_iff.1 hj).1
  have hi : i < k.minted := hk.lt i (List.mem_of_getElem? hj)
  simp only [Client.pending_iff, hk.ops j i hj, hlt, hi, true_and]

end Shares

end LibreKDE.Client
