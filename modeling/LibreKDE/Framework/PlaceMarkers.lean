import Mathlib.Data.List.Basic
import Mathlib.Data.List.Dedup
import Mathlib.Order.Monotone.Defs
import Mathlib.Order.Nat
import Mathlib.Tactic.Common

/-!
# Numbered place markers

A format string holds *place markers*: an escape character, optionally a character that asks
for the localized form, and one or two digits.  This file is the theory of such strings over
an arbitrary alphabet.

* `Syntax.pieces` cuts a string into markers and the characters between them, and
  `text_pieces` says that nothing is lost in doing so.
* `Syntax.arg` is the *chained* substitution: it replaces every occurrence of the lowest
  numbered marker, wherever in the string it stands, so that what an earlier substitution put
  in is scanned again.
* `Syntax.args` substitutes several arguments at once, and scans none of them.

`pieces_append` is the lemma that makes the scan compositional: a character that can be part
of no marker cuts a string in two halves that are scanned independently.
`fill_injective` recovers a number from what it was substituted into.
-/

namespace PlaceMarkers

variable {α : Type*}

/-- What a place marker is made of: the sign that begins it, the digits of its number, and the flag
that may stand between. -/
structure Syntax (α : Type*) where
  escape : α
  /-- Between the escape and the digits: asks for the localized form. -/
  localized : α
  digit : α → Option ℕ

/-- A piece of a format string. -/
inductive Piece (α : Type*)
  | char (c : α)
  | marker (number : ℕ) (localized : Bool) (text : List α)
  deriving DecidableEq

/-- What a piece looks like in the string. -/
def Piece.text : Piece α → List α
  | .char c => [c]
  | .marker _ _ text => text

/-- A marker's number. -/
def Piece.number? : Piece α → Option ℕ
  | .char _ => none
  | .marker n _ _ => some n

/-- The lowest marker number. -/
def lowest : List (Piece α) → Option ℕ
  | [] => none
  | p :: ps => match p.number?, lowest ps with
    | some n, some m => some (min n m)
    | some n, none => some n
    | none, r => r

/-- Replace the markers numbered `m`: the localized ones by `larg`, the others by `arg`. -/
def fill (m : ℕ) (arg larg : List α) (ps : List (Piece α)) : List α :=
  ps.flatMap fun
    | .char c => [c]
    | .marker n localized text => if n = m then (if localized then larg else arg) else text

namespace Syntax

variable [DecidableEq α] (x : Syntax α)

/-- The marker after an escape, if there is one: its number, whether it is localized, and
how many characters it takes. -/
def markerAt (s : List α) : Option (ℕ × Bool × ℕ) :=
  let localized := s.head? = some x.localized
  let digits := if localized then s.tail else s
  let skipped := if localized then 1 else 0
  match digits.head?.bind x.digit with
  | none => none
  | some d =>
      match digits.tail.head?.bind x.digit with
      | some e => some (10 * d + e, localized, skipped + 2)
      | none => some (d, localized, skipped + 1)

/-- Scan a string, the first `skip` characters of which belong to a marker already seen. -/
def scan : ℕ → List α → List (Piece α)
  | _, [] => []
  | skip + 1, _ :: s => scan skip s
  | 0, c :: s =>
      if c = x.escape then
        match x.markerAt s with
        | some (n, l, len) => .marker n l (c :: s.take len) :: scan len s
        | none => .char c :: scan 0 s
      else .char c :: scan 0 s

/-- A string, cut into its markers and the characters between them. -/
def pieces (s : List α) : List (Piece α) := x.scan 0 s

/-- Chained substitution: replace the lowest numbered marker, or nothing when there is no
marker left. -/
def arg (plain larg s : List α) : List α :=
  match lowest (x.pieces s) with
  | none => s
  | some m => fill m plain larg (x.pieces s)

/-- The argument a marker stands for: the lowest number takes the first argument. -/
def argOf (args : List (List α)) (ps : List (Piece α)) (n : ℕ) : Option (List α) :=
  args[((ps.filterMap Piece.number?).dedup.filter (· < n)).length]?

/-- Substitution of several arguments in one pass: what is put in is not looked at again, unlike in
a chain of single ones. -/
def args (as : List (List α)) (s : List α) : List α :=
  let ps := x.pieces s
  ps.flatMap fun
    | .char c => [c]
    | .marker n _ text => (argOf as ps n).getD text

/-- A character that can stand in no marker. -/
structure Plain (c : α) : Prop where
  not_escape : c ≠ x.escape
  not_localized : c ≠ x.localized
  not_digit : x.digit c = none

/-! ## Scanning -/

variable {x} {c : α} {y z : List α} {n len : ℕ} {l : Bool}

lemma markerAt_le (h : x.markerAt z = some (n, l, len)) : len ≤ z.length := by
  have hdigits : ∀ (w : List α) (d : ℕ), w.head?.bind x.digit = some d → 1 ≤ w.length := by
    intro w d hd
    cases w <;> simp_all
  unfold markerAt at h
  -- The mark of a localized marker is one item more; one digit or two follow it.
  by_cases hl : z.head? = some x.localized
  · obtain ⟨w, rfl⟩ : ∃ w, z = x.localized :: w := by
      cases z with
      | nil => simp at hl
      | cons a w => exact ⟨w, by simpa using hl⟩
    simp only [List.head?_cons, decide_true, if_true, List.tail_cons] at h
    split at h
    · cases h
    · next d hd =>
        have hw := hdigits w d hd
        split at h
        · next e he =>
            have hw' := hdigits w.tail e he
            simp only [Option.some.injEq, Prod.mk.injEq, List.length_tail] at h hw'
            simp only [List.length_cons]
            omega
        · simp only [Option.some.injEq, Prod.mk.injEq] at h
          simp only [List.length_cons]
          omega
  · simp only [hl, decide_false, if_false] at h
    split at h
    · cases h
    · next d hd =>
        have hw := hdigits z d hd
        split at h
        · next e he =>
            have hw' := hdigits z.tail e he
            simp only [Option.some.injEq, Prod.mk.injEq, List.length_tail] at h hw'
            omega
        · simp only [Option.some.injEq, Prod.mk.injEq] at h
          omega

/-- A marker does not reach past a character that can stand in none. -/
lemma markerAt_append (hc : x.Plain c) : x.markerAt (y ++ c :: z) = x.markerAt y := by
  obtain ⟨-, hl, hd⟩ := hc
  match y with
  | [] => simp [markerAt, hl, hd]
  | [a] =>
      by_cases ha : a = x.localized
      · simp [markerAt, ha, hd]
      · simp [markerAt, ha, hd]
  | [a, b] =>
      by_cases ha : a = x.localized
      · simp [markerAt, ha, hd]
      · simp [markerAt, ha]
  | a :: b :: e :: y =>
      by_cases ha : a = x.localized
      · simp [markerAt, ha]
      · simp [markerAt, ha]

lemma scan_append (hc : x.Plain c) (skip : ℕ) (hskip : skip ≤ y.length) :
    x.scan skip (y ++ c :: z) = x.scan skip y ++ .char c :: x.pieces z := by
  induction y generalizing skip with
  | nil =>
      obtain rfl : skip = 0 := by simpa using hskip
      simp [scan, hc.not_escape, pieces]
  | cons a y ih =>
      cases skip with
      | succ skip => exact ih skip (by simpa using hskip)
      | zero =>
          simp only [List.cons_append, scan, markerAt_append hc]
          split
          · split
            · next n l len hm =>
                have hlen := markerAt_le hm
                simp only [List.cons_append, List.take_append_of_le_length hlen,
                  ih len hlen]
            · simp only [List.cons_append, ih 0 (Nat.zero_le _)]
          · simp only [List.cons_append, ih 0 (Nat.zero_le _)]

/-- A character that can stand in no marker cuts the scan in two. -/
lemma pieces_append (hc : x.Plain c) :
    x.pieces (y ++ c :: z) = x.pieces y ++ .char c :: x.pieces z :=
  scan_append hc 0 (Nat.zero_le _)

/-- Up to the first escape, a string is made of characters. -/
lemma pieces_of_not_escape (hy : x.escape ∉ y) :
    x.pieces (y ++ z) = y.map .char ++ x.pieces z := by
  induction y with
  | nil => rfl
  | cons a y ih =>
      have ha : a ≠ x.escape := fun h => hy (by simp [h])
      have hy' : x.escape ∉ y := fun h => hy (List.mem_cons_of_mem _ h)
      have hscan : x.scan 0 (y ++ z) = y.map .char ++ x.pieces z := ih hy'
      simp only [pieces, List.cons_append, scan, if_neg ha, List.map_cons]
      rw [hscan]
      rfl

/-- The pieces make up the string. -/
lemma text_scan (skip : ℕ) (s : List α) :
    (x.scan skip s).flatMap Piece.text = s.drop skip := by
  induction s generalizing skip with
  | nil => simp [scan]
  | cons c s ih =>
      cases skip with
      | succ skip => simpa [scan] using ih skip
      | zero =>
          simp only [scan]
          split
          · split
            · next n l len hm => simp [Piece.text, ih len]
            · simp [Piece.text, ih 0]
          · simp [Piece.text, ih 0]

lemma text_pieces (s : List α) : (x.pieces s).flatMap Piece.text = s := by
  simpa [pieces] using text_scan (x := x) 0 s

/-- Digits elsewhere do not matter to a scan. -/
lemma markerAt_congr {d : α → Option ℕ} (hd : ∀ c ∈ z, d c = x.digit c) :
    markerAt { x with digit := d } z = x.markerAt z := by
  match z with
  | [] => simp [markerAt]
  | [a] =>
      by_cases ha : a = x.localized
      · simp [markerAt, ha]
      · simp [markerAt, ha, hd a (by simp)]
  | [a, b] =>
      by_cases ha : a = x.localized
      · simp [markerAt, ha, hd b (by simp)]
      · simp [markerAt, ha, hd a (by simp), hd b (by simp)]
  | a :: b :: e :: z =>
      by_cases ha : a = x.localized
      · simp [markerAt, ha, hd b (by simp), hd e (by simp)]
      · simp [markerAt, ha, hd a (by simp), hd b (by simp)]

lemma pieces_congr {d : α → Option ℕ} (hd : ∀ c ∈ z, d c = x.digit c) :
    pieces { x with digit := d } z = x.pieces z := by
  suffices h : ∀ skip, scan { x with digit := d } skip z = x.scan skip z from h 0
  induction z with
  | nil => intro skip; simp [scan]
  | cons c z ih =>
      have hd' : ∀ a ∈ z, d a = x.digit a := fun a ha => hd a (List.mem_cons_of_mem _ ha)
      intro skip
      cases skip with
      | succ skip => exact ih hd' skip
      | zero => simp only [scan, markerAt_congr hd', ih hd']

end Syntax

/-! ## The lowest marker -/

section Lowest

variable {ps qs : List (Piece α)} {c : α} {m n : ℕ} {a b : List α} {l : Bool}

@[simp] lemma lowest_char : lowest (.char c :: ps) = lowest ps := by
  simp only [lowest, Piece.number?]

lemma lowest_append : lowest (ps ++ qs) =
    match lowest ps, lowest qs with
    | some n, some m => some (min n m)
    | some n, none => some n
    | none, r => r := by
  induction ps with
  | nil => simp [lowest]
  | cons p ps ih =>
      simp only [List.cons_append, lowest, ih]
      cases p.number? <;> cases lowest ps <;> cases lowest qs <;> simp [Nat.min_assoc]

lemma lowest_map_char (s : List α) : lowest (s.map .char) = none := by
  induction s with
  | nil => rfl
  | cons c s ih => simp [ih]

/-- The lowest number is the number of a marker. -/
lemma exists_marker (h : lowest ps = some m) : ∃ l t, Piece.marker m l t ∈ ps := by
  induction ps generalizing m with
  | nil => cases h
  | cons p ps ih =>
      have hrest : lowest ps = some m → ∃ l t, Piece.marker m l t ∈ p :: ps := by
        intro hm
        obtain ⟨l, t, ht⟩ := ih hm
        exact ⟨l, t, List.mem_cons_of_mem _ ht⟩
      cases p with
      | char c => exact hrest (by simpa using h)
      | marker n l t =>
          by_cases hmn : m = n
          · subst hmn
            exact ⟨l, t, by simp⟩
          · apply hrest
            cases hps : lowest ps with
            | none => simp_all [lowest, Piece.number?]
            | some k =>
                simp only [lowest, Piece.number?, hps, Option.some.injEq] at h ⊢
                omega

end Lowest

/-! ## Filling markers -/

/-- A way to write numbers that tells them apart, and no number longer than a greater one. -/
structure Numbering (α : Type*) where
  text : ℕ → List α
  injective : Function.Injective text
  length_mono : Monotone fun n => (text n).length

section Fill

variable {ps qs : List (Piece α)} {c : α} {m n k k' : ℕ} {a b : List α} {l : Bool}

@[simp] lemma fill_nil : fill m a b ([] : List (Piece α)) = [] := rfl

@[simp] lemma fill_char : fill m a b (.char c :: ps) = c :: fill m a b ps := rfl

lemma fill_marker {t : List α} : fill m a b (.marker n l t :: ps) =
    (if n = m then (if l then b else a) else t) ++ fill m a b ps := rfl

lemma fill_append : fill m a b (ps ++ qs) = fill m a b ps ++ fill m a b qs := by
  simp [fill]

lemma fill_map_char (s : List α) : fill m a b (s.map .char) = s := by
  induction s with
  | nil => rfl
  | cons c s ih => simp [ih]

/-- Filling puts in nothing but the arguments. -/
lemma mem_fill (h : c ∈ fill m a b ps) : c ∈ a ∨ c ∈ b ∨ c ∈ ps.flatMap Piece.text := by
  obtain ⟨p, hp, hc⟩ := List.mem_flatMap.1 h
  have htext : c ∈ p.text → c ∈ ps.flatMap Piece.text := fun ht => List.mem_flatMap.2 ⟨p, hp, ht⟩
  cases p with
  | char d => exact .inr (.inr (htext hc))
  | marker n l t =>
      dsimp only at hc
      split_ifs at hc
      · exact .inr (.inl hc)
      · exact .inl hc
      · exact .inr (.inr (htext hc))

/-- Substitution does not look at what is in front of the first escape. -/
lemma Syntax.arg_append [DecidableEq α] {x : Syntax α} {s t : List α} (hs : x.escape ∉ s) :
    x.arg a b (s ++ t) = s ++ x.arg a b t := by
  simp only [Syntax.arg, Syntax.pieces_of_not_escape hs, lowest_append, lowest_map_char]
  cases lowest (x.pieces t) with
  | none => rfl
  | some n => simp only [fill_append, fill_map_char]

/-- A character that can stand in no marker, and in no argument, stays where it is. -/
lemma mem_fill_pieces_iff [DecidableEq α] {x : Syntax α} {s : List α} (hc : x.Plain c)
    (ha : c ∉ a) (hb : c ∉ b) : c ∈ fill m a b (x.pieces s) ↔ c ∈ s := by
  constructor
  · intro h
    have htext := ((mem_fill h).resolve_left ha).resolve_left hb
    rwa [Syntax.text_pieces] at htext
  · intro h
    obtain ⟨y, z, rfl⟩ := List.append_of_mem h
    rw [Syntax.pieces_append hc, fill_append, fill_char]
    simp

variable (f g : Numbering α)

lemma fill_length_mono (hk : k ≤ k') :
    (fill m (f.text k) (g.text k) ps).length ≤ (fill m (f.text k') (g.text k') ps).length := by
  induction ps with
  | nil => rfl
  | cons p ps ih =>
      cases p with
      | char c => simpa using ih
      | marker n l t =>
          have hf := f.length_mono hk
          have hg := g.length_mono hk
          simp only [fill_marker, List.length_append]
          split
          · split
            · exact Nat.add_le_add hg ih
            · exact Nat.add_le_add hf ih
          · exact Nat.add_le_add le_rfl ih

/-- The first marker filled tells two numbers apart. -/
lemma fill_injective_of_le (hk : k ≤ k') (hm : ∃ l t, Piece.marker m l t ∈ ps)
    (h : fill m (f.text k) (g.text k) ps = fill m (f.text k') (g.text k') ps) : k = k' := by
  induction ps with
  | nil => simp at hm
  | cons p ps ih =>
      cases p with
      | char c => exact ih (by simpa using hm) (by simpa using h)
      | marker n l t =>
          simp only [fill_marker] at h
          by_cases hn : n = m
          · -- The two fillings are as long as each other, piece by piece.
            have hlen := congrArg List.length h
            have hrest : (fill m (f.text k) (g.text k) ps).length ≤
                (fill m (f.text k') (g.text k') ps).length := fill_length_mono f g hk
            have hf := f.length_mono hk
            have hg := g.length_mono hk
            simp only [if_pos hn] at h hlen
            cases l with
            | true =>
                simp only [if_true, List.length_append] at h hlen hg
                exact g.injective (List.append_inj_left h (by omega))
            | false =>
                simp only [Bool.false_eq_true, if_false, List.length_append] at h hlen hf
                exact f.injective (List.append_inj_left h (by omega))
          -- The first marker is of another number and is kept, as it stands, on both sides.
          · simp only [if_neg hn] at h
            refine ih ?_ (List.append_cancel_left h)
            obtain ⟨l', t', hmem⟩ := hm
            rcases List.mem_cons.1 hmem with heq | hmem
            · simp only [Piece.marker.injEq] at heq
              exact absurd heq.1.symm hn
            · exact ⟨l', t', hmem⟩

/-- What a number is substituted into gives the number back. -/
theorem fill_injective (hm : lowest ps = some m)
    (h : fill m (f.text k) (g.text k) ps = fill m (f.text k') (g.text k') ps) : k = k' := by
  rcases Nat.le_total k k' with hk | hk
  · exact fill_injective_of_le f g hk (exists_marker hm) h
  · exact (fill_injective_of_le f g hk (exists_marker hm) h.symm).symm

end Fill

end PlaceMarkers
