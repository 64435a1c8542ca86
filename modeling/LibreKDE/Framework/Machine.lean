import Mathlib.Data.List.Basic
import Mathlib.Tactic.Common

/-!
# Reactive machines and their runs

A single-threaded component that answers events is a *machine*: a set of start states, a
total step function, and a relation saying which events its environment may send in which
state.  Everything the components of this development are proved to do is a statement about
the finite runs of such a machine, in one of three shapes:

* `Machine.Always` — a property of *every state* a run passes through;
* `Machine.EachStep` — a property of *every step* a run takes;
* a relation between the state a run starts from and the one it ends in.

`Machine.Kept` and `Machine.Invariant` are the induction that carries all three: a property
is proved once about one step and used as `Invariant.reachable`, `Kept.always`,
`Kept.eachStep` and `Kept.rel_exec`.
`Machine.always_iff_eachStep` is the rule for *exact conditions*: when a component keeps a
property at every step but the ones of a given kind, and loses it at each of those, a run
keeps the property throughout exactly when it takes no step of that kind.

`Machine.watch` adds a passive observer, for properties that speak of the past ("since it
was bound", "exactly once").  The observer never influences the machine it watches.
`Machine.mortal` lets the component be destroyed at any point of its run.
-/

namespace Reactive

universe u v w

/-- An event-driven component: where it starts, what it may be sent, and how it answers. -/
structure Machine (σ : Type u) (ε : Type v) where
  /-- The states a run may start from. -/
  start : σ → Prop
  /-- The events the environment may send in a state. -/
  allows : σ → ε → Prop
  /-- The component's answer to an event. -/
  step : σ → ε → σ

namespace Machine

variable {σ : Type u} {ε : Type v} (m : Machine σ ε)

/-! ## Runs -/

/-- The state after a list of events. -/
def exec (s : σ) (es : List ε) : σ := es.foldl m.step s

@[simp] lemma exec_nil (s : σ) : m.exec s [] = s := rfl

@[simp] lemma exec_cons (s : σ) (e : ε) (es : List ε) :
    m.exec s (e :: es) = m.exec (m.step s e) es := rfl

/-- Every step of the run satisfies `p` in the state it is taken from. -/
def EachStep (p : σ → ε → Prop) : σ → List ε → Prop
  | _, [] => True
  | s, e :: es => p s e ∧ EachStep p (m.step s e) es

/-- Every state of the run satisfies `P`, its first and its last included. -/
def Always (P : σ → Prop) : σ → List ε → Prop
  | s, [] => P s
  | s, e :: es => P s ∧ Always P (m.step s e) es

/-- The environment keeps to its side of the run. -/
def Admits (s : σ) (es : List ε) : Prop := m.EachStep m.allows s es

section Decidable

variable (p : σ → ε → Prop) [∀ s e, Decidable (p s e)] (P : σ → Prop) [DecidablePred P]

instance decidableEachStep : (s : σ) → (es : List ε) → Decidable (m.EachStep p s es)
  | _, [] => isTrue trivial
  | s, e :: es =>
      have := decidableEachStep (m.step s e) es
      inferInstanceAs (Decidable (p s e ∧ m.EachStep p (m.step s e) es))

instance decidableAlways : (s : σ) → (es : List ε) → Decidable (m.Always P s es)
  | s, [] => inferInstanceAs (Decidable (P s))
  | s, e :: es =>
      have := decidableAlways (m.step s e) es
      inferInstanceAs (Decidable (P s ∧ m.Always P (m.step s e) es))

instance [∀ s e, Decidable (m.allows s e)] (s : σ) (es : List ε) :
    Decidable (m.Admits s es) :=
  inferInstanceAs (Decidable (m.EachStep m.allows s es))

end Decidable

section Runs

variable {m} {p q : σ → ε → Prop} {P Q : σ → Prop} {s : σ} {e : ε} {es fs : List ε}

@[simp] lemma eachStep_nil : m.EachStep p s [] := trivial

@[simp] lemma eachStep_cons :
    m.EachStep p s (e :: es) ↔ p s e ∧ m.EachStep p (m.step s e) es := Iff.rfl

@[simp] lemma always_nil : m.Always P s [] ↔ P s := Iff.rfl

@[simp] lemma always_cons :
    m.Always P s (e :: es) ↔ P s ∧ m.Always P (m.step s e) es := Iff.rfl

@[simp] lemma admits_nil : m.Admits s [] := trivial

@[simp] lemma admits_cons :
    m.Admits s (e :: es) ↔ m.allows s e ∧ m.Admits (m.step s e) es := Iff.rfl

lemma exec_append : m.exec s (es ++ fs) = m.exec (m.exec s es) fs :=
  List.foldl_append

/-- An event answered once for all may as well come in a burst. -/
lemma exec_replicate (he : m.step (m.step s e) e = m.step s e) (n : ℕ) :
    m.exec s (List.replicate (n + 1) e) = m.step s e := by
  induction n with
  | zero => rfl
  | succ n ih => rw [List.replicate_succ', exec_append, ih, exec_cons, exec_nil, he]

lemma admits_append : m.Admits s (es ++ fs) ↔ m.Admits s es ∧ m.Admits (m.exec s es) fs := by
  induction es generalizing s with
  | nil => simp
  | cons e es ih => exact (and_congr Iff.rfl ih).trans and_assoc.symm

lemma EachStep.mono (h : m.EachStep p s es) (hpq : ∀ s e, p s e → q s e) :
    m.EachStep q s es := by
  induction es generalizing s with
  | nil => trivial
  | cons e es ih => exact ⟨hpq _ _ h.1, ih h.2⟩

lemma Always.mono (h : m.Always P s es) (hPQ : ∀ s, P s → Q s) : m.Always Q s es := by
  induction es generalizing s with
  | nil => exact hPQ _ h
  | cons e es ih => exact ⟨hPQ _ h.1, ih h.2⟩

lemma Always.head (h : m.Always P s es) : P s := by
  cases es with
  | nil => exact h
  | cons e es => exact h.1

lemma Always.last (h : m.Always P s es) : P (m.exec s es) := by
  induction es generalizing s with
  | nil => exact h
  | cons e es ih => exact ih h.2

end Runs

/-! ## Reachability and invariants -/

/-- The states some admitted run from a start state ends in. -/
inductive Reachable : σ → Prop
  /-- A start state is reachable. -/
  | start {s : σ} : m.start s → Reachable s
  /-- An event the environment may send leads on. -/
  | step {s : σ} {e : ε} : Reachable s → m.allows s e → Reachable (m.step s e)

/-- A property that every allowed step keeps.  Proved of one step, it carries along every run by
`Kept.exec` and `Kept.always`. -/
def Kept (I : σ → Prop) : Prop := ∀ s e, I s → m.allows s e → I (m.step s e)

/-- A property that holds at the start and that every allowed step keeps. -/
structure Invariant (I : σ → Prop) : Prop where
  /-- It holds at the start. -/
  start : ∀ s, m.start s → I s
  /-- A step the environment may cause keeps it. -/
  kept : m.Kept I

section Invariants

variable {m} {I P : σ → Prop} {p : σ → ε → Prop} {s t : σ} {es : List ε}

lemma Reachable.exec (hs : m.Reachable s) (ha : m.Admits s es) :
    m.Reachable (m.exec s es) := by
  induction es generalizing s with
  | nil => exact hs
  | cons e es ih => exact ih (hs.step ha.1) ha.2

/-- **The invariant rule.** -/
theorem Invariant.reachable (h : m.Invariant I) (hs : m.Reachable s) : I s := by
  induction hs with
  | start hs => exact h.start _ hs
  | step _ ha ih => exact h.kept _ _ ih ha

lemma Kept.always (h : m.Kept I) (hs : I s) (ha : m.Admits s es) : m.Always I s es := by
  induction es generalizing s with
  | nil => exact hs
  | cons e es ih => exact ⟨hs, ih (h _ _ hs ha.1) ha.2⟩

lemma Kept.exec (h : m.Kept I) (hs : I s) (ha : m.Admits s es) : I (m.exec s es) :=
  (h.always hs ha).last

/-- What every allowed step satisfies where the kept property holds, every step of a run
does. -/
lemma Kept.eachStep (h : m.Kept I) (hs : I s) (ha : m.Admits s es)
    (hp : ∀ s e, I s → m.allows s e → p s e) : m.EachStep p s es := by
  induction es generalizing s with
  | nil => trivial
  | cons e es ih => exact ⟨hp _ _ hs ha.1, ih (h _ _ hs ha.1) ha.2⟩

/-- Where two properties of a step come to the same, a run's steps have both or neither. -/
lemma Kept.eachStep_iff {q : σ → ε → Prop} (h : m.Kept I) (hs : I s) (ha : m.Admits s es)
    (hpq : ∀ s e, I s → m.allows s e → (p s e ↔ q s e)) :
    m.EachStep p s es ↔ m.EachStep q s es := by
  induction es generalizing s with
  | nil => exact Iff.rfl
  | cons e es ih => exact and_congr (hpq _ _ hs ha.1) (ih (h _ _ hs ha.1) ha.2)

/-- A reflexive and transitive relation that holds across the steps satisfying `p` holds
from the first state to the last of a run whose every step satisfies `p`. -/
lemma Kept.rel_exec {R : σ → σ → Prop} (h : m.Kept I) (hs : I s)
    (ha : m.Admits s es) (hp : m.EachStep p s es) (hrefl : ∀ s, R s s)
    (htrans : ∀ a b c, R a b → R b c → R a c)
    (hstep : ∀ s e, I s → m.allows s e → p s e → R s (m.step s e)) :
    R s (m.exec s es) := by
  induction es generalizing s with
  | nil => exact hrefl s
  | cons e es ih =>
      exact htrans _ _ _ (hstep s e hs ha.1 hp.1) (ih (h _ _ hs ha.1) ha.2 hp.2)

end Invariants

/-! ## Exact conditions -/

/-- The machine whose environment is further held to `ok`. -/
def restrict (ok : σ → ε → Prop) : Machine σ ε where
  start := m.start
  allows s e := m.allows s e ∧ ok s e
  step := m.step

instance (ok : σ → ε → Prop) (s : σ) (e : ε) [Decidable (m.allows s e)]
    [Decidable (ok s e)] : Decidable ((m.restrict ok).allows s e) :=
  inferInstanceAs (Decidable (m.allows s e ∧ ok s e))

section Restrict

variable {m} {ok p : σ → ε → Prop} {I P : σ → Prop} {s : σ} {es : List ε}

@[simp] lemma restrict_step : (m.restrict ok).step = m.step := rfl

@[simp] lemma exec_restrict : (m.restrict ok).exec s es = m.exec s es := rfl

@[simp] lemma always_restrict : (m.restrict ok).Always P s es ↔ m.Always P s es := by
  induction es generalizing s with
  | nil => rfl
  | cons e es ih => simp [ih]

@[simp] lemma eachStep_restrict :
    (m.restrict ok).EachStep p s es ↔ m.EachStep p s es := by
  induction es generalizing s with
  | nil => rfl
  | cons e es ih => simp [ih]

@[simp] lemma admits_restrict :
    (m.restrict ok).Admits s es ↔ m.Admits s es ∧ m.EachStep ok s es := by
  induction es generalizing s with
  | nil => simp
  | cons e es ih =>
      simp only [admits_cons, eachStep_cons, restrict_step, ih]
      simp only [restrict]
      tauto

end Restrict

/-- **The exact condition for a safety property.**  Suppose `J` is kept by every allowed
step that is `ok` and implies `Safe`, while a step that is not `ok` leaves `Safe` from every
`J`-state.  Then a run is safe throughout exactly when each of its steps is `ok`. -/
theorem always_iff_eachStep {m : Machine σ ε} {J Safe : σ → Prop} {ok : σ → ε → Prop} {s : σ}
    {es : List ε}
    (hkeep : ∀ s e, J s → m.allows s e → ok s e → J (m.step s e))
    (hsafe : ∀ s, J s → Safe s)
    (hlose : ∀ s e, J s → m.allows s e → ¬ ok s e → ¬ Safe (m.step s e))
    (hs : J s) (ha : m.Admits s es) :
    m.Always Safe s es ↔ m.EachStep ok s es := by
  induction es generalizing s with
  | nil => simpa using hsafe s hs
  | cons e es ih =>
      rw [always_cons, eachStep_cons]
      by_cases hok : ok s e
      · rw [ih (hkeep s e hs ha.1 hok) ha.2]
        exact ⟨fun h => ⟨hok, h.2⟩, fun h => ⟨hsafe s hs, h.2⟩⟩
      · exact ⟨fun h => absurd h.2.head (hlose s e hs ha.1 hok), fun h => absurd h.1 hok⟩

/-! ## Watching a machine -/

/-- The machine together with an observer: `look` says what the observer's record becomes
when the machine, in a state, is sent an event. -/
def watch {ω : Type w} (blank : ω) (look : ω → σ → ε → ω) : Machine (σ × ω) ε where
  start s := m.start s.1 ∧ s.2 = blank
  allows s e := m.allows s.1 e
  step s e := (m.step s.1 e, look s.2 s.1 e)

instance {ω : Type w} (blank : ω) (look : ω → σ → ε → ω) (x : σ × ω) (e : ε)
    [Decidable (m.allows x.1 e)] : Decidable ((m.watch blank look).allows x e) :=
  inferInstanceAs (Decidable (m.allows x.1 e))

section Watch

variable {m} {ω : Type w} {blank : ω} {look : ω → σ → ε → ω} {s : σ} {o : ω}
  {es : List ε}

lemma admits_watch : (m.watch blank look).Admits (s, o) es ↔ m.Admits s es := by
  induction es generalizing s o with
  | nil => exact Iff.rfl
  | cons e es ih => exact and_congr Iff.rfl ih

/-- The steps of a watched run are the steps of the run. -/
lemma eachStep_watch {p : σ → ε → Prop} :
    (m.watch blank look).EachStep (fun x e => p x.1 e) (s, o) es ↔ m.EachStep p s es := by
  induction es generalizing s o with
  | nil => exact Iff.rfl
  | cons e es ih => exact and_congr Iff.rfl ih

/-- The states of a watched run are the states of the run. -/
lemma always_watch {P : σ → Prop} :
    (m.watch blank look).Always (fun x => P x.1) (s, o) es ↔ m.Always P s es := by
  induction es generalizing s o with
  | nil => exact Iff.rfl
  | cons e es ih => exact and_congr Iff.rfl ih

end Watch

/-! ## Destroying a machine -/

/-- The machine as an object that may be destroyed (`none`) between two events.  Nothing reaches it
from then on, and the state it leaves behind stays as it was. -/
def mortal : Machine (σ × Bool) (Option ε) where
  start s := m.start s.1 ∧ s.2 = true
  allows s e := s.2 = true ∧ ∀ e' ∈ e, m.allows s.1 e'
  step s e := e.elim (s.1, false) fun e' => (m.step s.1 e', true)

/-- The object is destroyed in no state but those satisfying `ok`. -/
def DiesOnlyIf (ok : σ → Prop) (s : σ × Bool) (e : Option ε) : Prop := e = none → ok s.1

instance (ok : σ → Prop) (s : σ × Bool) (e : Option ε) [Decidable (ok s.1)] :
    Decidable (DiesOnlyIf ok s e) :=
  inferInstanceAs (Decidable (_ → _))

instance (s : σ × Bool) (e : Option ε) [∀ s e, Decidable (m.allows s e)] :
    Decidable (m.mortal.allows s e) :=
  inferInstanceAs (Decidable (_ ∧ _))

/-- **When an object may be destroyed.**  Suppose `J` is kept by every step, and that a `J`-state
satisfies `P` with the object alive, and with the object gone exactly when it is `ok`.  Then `P`
holds throughout a run exactly when the object is destroyed in no state that is not `ok`. -/
theorem Kept.always_mortal_iff {m : Machine σ ε} {J ok : σ → Prop} {P : σ → Bool → Prop} {s : σ}
    {es : List (Option ε)} (hkept : m.Kept J) (hlive : ∀ s, J s → P s true)
    (hgone : ∀ s, J s → (P s false ↔ ok s)) (hs : J s) (ha : m.mortal.Admits (s, true) es) :
    m.mortal.Always (fun x => P x.1 x.2) (s, true) es ↔
      m.mortal.EachStep (DiesOnlyIf ok) (s, true) es := by
  refine always_iff_eachStep (J := fun x => J x.1 ∧ P x.1 x.2) ?_ (fun x hx => hx.2) ?_
    ⟨hs, hlive s hs⟩ ha
  · rintro x (_ | e) hx hal hok
    · exact ⟨hx.1, (hgone x.1 hx.1).2 (hok rfl)⟩
    · have hnext : J (m.step x.1 e) := hkept x.1 e hx.1 (hal.2 e rfl)
      exact ⟨hnext, hlive _ hnext⟩
  · rintro x (_ | e) hx - hlose hP
    · exact hlose fun _ => (hgone x.1 hx.1).1 hP
    · exact hlose fun he => nomatch he

end Machine

end Reactive
