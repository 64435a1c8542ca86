import Mathlib.Data.List.Basic
import Mathlib.Data.List.Nodup
import Mathlib.Tactic.Common

/-!
# Trees of files

What a file system says it holds: a file has content, a folder has named entries, and a folder may
be there without being readable, for a reason.  A path is followed name by name, each name leading
to the first entry that has it (`FileTree.descend`).

A folder whose entries have distinct names is opened at each of its entries by the entry's name
(`child_of_mem`).
-/

namespace Files

universe u v w

/-- A tree whose names are of type `ν`, whose files hold a `κ`, and whose folders may be unreadable
for an `ε`. -/
inductive FileTree (ν : Type u) (κ : Type v) (ε : Type w)
  | file (content : κ)
  | folder (entries : Except ε (List (ν × FileTree ν κ ε)))

namespace FileTree

variable {ν : Type u} {κ : Type v} {ε : Type w}

/-- The entries a folder shows; a file and an unreadable folder show none. -/
def entries : FileTree ν κ ε → List (ν × FileTree ν κ ε)
  | .folder (.ok entries) => entries
  | .folder (.error _) | .file _ => []

/-- The names of a directory's entries, in order. -/
def names (t : FileTree ν κ ε) : List ν := t.entries.map Prod.fst

variable [DecidableEq ν]

/-- The first entry of a name. -/
def child (t : FileTree ν κ ε) (n : ν) : Option (FileTree ν κ ε) :=
  (t.entries.find? fun e => e.1 = n).map Prod.snd

/-- The node a path leads to, if each of its names is an entry. -/
def descend (t : FileTree ν κ ε) (path : List ν) : Option (FileTree ν κ ε) := path.foldlM child t

/-- No folder has two entries of one name. -/
def Distinct (t : FileTree ν κ ε) : Prop :=
  ∀ path t', t.descend path = some t' → t'.names.Nodup

variable {t t' : FileTree ν κ ε} {n : ν} {path : List ν}

lemma mem_of_child (h : t.child n = some t') : (n, t') ∈ t.entries := by
  obtain ⟨⟨m, x⟩, hfind, rfl⟩ := Option.map_eq_some_iff.1 h
  have hm : m = n := by simpa using List.find?_some hfind
  rw [← hm]
  exact List.mem_of_find?_eq_some hfind

lemma child_isSome : (t.child n).isSome = true ↔ n ∈ t.names := by
  rw [child, Option.isSome_map, List.find?_isSome, names, List.mem_map]
  simp

/-- With distinct names, an entry is what its name leads to. -/
lemma child_of_mem (hnodup : t.names.Nodup) (h : (n, t') ∈ t.entries) : t.child n = some t' := by
  have hmem : n ∈ t.names := List.mem_map.2 ⟨_, h, rfl⟩
  obtain ⟨x, hx⟩ := Option.isSome_iff_exists.1 (child_isSome.2 hmem)
  have heq := List.inj_on_of_nodup_map hnodup (mem_of_child hx) h rfl
  rw [hx, (Prod.mk.inj heq).2]

@[simp] lemma descend_nil : t.descend [] = some t := rfl

@[simp] lemma descend_cons : t.descend (n :: path) = (t.child n).bind fun x => x.descend path := rfl

/-- One name more. -/
lemma descend_concat : t.descend (path ++ [n]) = (t.descend path).bind fun x => x.child n := by
  induction path generalizing t with
  | nil => cases h : t.child n <;> simp [h]
  | cons m path ih => simp [ih, Option.bind_assoc]

lemma descend_concat_eq_some :
    t.descend (path ++ [n]) = some t' ↔ ∃ x, t.descend path = some x ∧ x.child n = some t' := by
  rw [descend_concat, Option.bind_eq_some_iff]

end FileTree

end Files
