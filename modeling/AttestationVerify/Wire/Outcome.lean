import Mathlib.Data.List.Forall2
import Mathlib.Tactic.Basic

namespace Wire

/-!
# Fallible steps

The two shapes in which a `Result`-returning function fails (`ensure`, `okOr`), and the lemmas
that take a chain of `?`-steps apart: `bind_eq_ok` peels one step, `mapM_eq_ok` turns a
collected traversal into a pointwise relation.  A spec lemma of the form
`f x = .ok y ↔ …` is assembled from these without unfolding the monad.
-/

variable {ε α β : Type}

/-- `if !c { return Err(e) }`. -/
def ensure (c : Prop) [Decidable c] (e : ε) : Except ε Unit :=
  if c then .ok () else .error e

/-- `Option::ok_or`. -/
def okOr (o : Option α) (e : ε) : Except ε α :=
  match o with
  | some a => .ok a
  | none => .error e

/-- A check passes when its condition holds. -/
@[simp] theorem ensure_eq_ok {c : Prop} [Decidable c] {e : ε} {u : Unit} :
    ensure c e = .ok u ↔ c := by
  unfold ensure; split <;> simp_all

/-- A check fails with its own error, when its condition does not hold. -/
@[simp] theorem ensure_eq_error {c : Prop} [Decidable c] {e e' : ε} :
    ensure c e = .error e' ↔ ¬ c ∧ e = e' := by
  unfold ensure; split <;> simp_all

/-- A condition that holds is passed. -/
theorem ensure_of {c : Prop} [Decidable c] (h : c) (e : ε) : ensure c e = .ok () := if_pos h

/-- A check fails with its error where its condition does not hold. -/
theorem ensure_not {c : Prop} [Decidable c] (h : ¬ c) (e : ε) : ensure c e = .error e := if_neg h

/-- `ok_or` succeeds with the value there is. -/
@[simp] theorem okOr_eq_ok {o : Option α} {e : ε} {a : α} : okOr o e = .ok a ↔ o = some a := by
  cases o <;> simp [okOr]

/-- `ok_or` fails where there is no value. -/
@[simp] theorem okOr_eq_error {o : Option α} {e e' : ε} :
    okOr o e = .error e' ↔ o = none ∧ e = e' := by
  cases o <;> simp [okOr]

@[simp] theorem okOr_some (a : α) (e : ε) : okOr (some a) e = .ok a := rfl

@[simp] theorem okOr_none (e : ε) : okOr (none : Option α) e = .error e := rfl

/-- A `?`-step succeeds when the step does and the rest does on its value. -/
theorem bind_eq_ok {x : Except ε α} {f : α → Except ε β} {b : β} :
    (x >>= f) = .ok b ↔ ∃ a, x = .ok a ∧ f a = .ok b := by
  cases x <;> simp [bind, Except.bind]

/-- A `?`-step fails when the step does, or the rest does on its value. -/
theorem bind_eq_error {x : Except ε α} {f : α → Except ε β} {e : ε} :
    (x >>= f) = .error e ↔ x = .error e ∨ ∃ a, x = .ok a ∧ f a = .error e := by
  cases x <;> simp [bind, Except.bind]

@[simp] theorem ok_bind (a : α) (f : α → Except ε β) : (Except.ok a >>= f) = f a := rfl

@[simp] theorem error_bind (e : ε) (f : α → Except ε β) :
    ((Except.error e : Except ε α) >>= f) = .error e := rfl

@[simp] theorem pure_eq_ok (a : α) : (pure a : Except ε α) = .ok a := rfl

@[simp] theorem throw_eq_error (e : ε) : (throw e : Except ε α) = .error e := rfl

/-- Mapping a result is a last step that cannot fail. -/
theorem map_eq_bind {x : Except ε α} (g : α → β) : x.map g = x >>= fun a => .ok (g a) := by
  cases x <;> rfl

/-- Two steps that agree in all the rest reads of them have the same rest. -/
theorem bind_congr_map {γ : Type} {x y : Except ε α} {g : α → β} {k : α → Except ε γ}
    (h : x.map g = y.map g) (hk : ∀ a b, g a = g b → k a = k b) : x >>= k = y >>= k := by
  cases x with
  | error e =>
    cases y with
    | error e' => rw [Except.error.inj h]
    | ok b => cases h
  | ok a =>
    cases y with
    | error e' => cases h
    | ok b => exact hk a b (Except.ok.inj h)

/-- In a pointwise relation every element on the left has a partner on the right. -/
theorem exists_partner {R : α → β → Prop} {xs : List α} {ys : List β}
    (h : List.Forall₂ R xs ys) {x : α} (hx : x ∈ xs) : ∃ y ∈ ys, R x y := by
  induction h with
  | nil => simp at hx
  | cons hr _ ih =>
    rcases List.mem_cons.mp hx with rfl | hx
    · exact ⟨_, by simp, hr⟩
    · obtain ⟨y, hy, hxy⟩ := ih hx
      exact ⟨y, by simp [hy], hxy⟩

/-- A list whose elements all have partners has a list of partners. -/
theorem exists_forall₂ {R : α → β → Prop} {xs : List α} (h : ∀ x ∈ xs, ∃ y, R x y) :
    ∃ ys, List.Forall₂ R xs ys := by
  induction xs with
  | nil => exact ⟨[], .nil⟩
  | cons x xs ih =>
    obtain ⟨y, hy⟩ := h x (by simp)
    obtain ⟨ys, hys⟩ := ih fun z hz => h z (by simp [hz])
    exact ⟨y :: ys, .cons hy hys⟩

/-- A list with an element of a property has a first one. -/
theorem exists_first {p : α → Prop} {xs : List α} (h : ∃ x ∈ xs, p x) :
    ∃ before x after, xs = before ++ x :: after ∧ p x ∧ ∀ y ∈ before, ¬ p y := by
  induction xs with
  | nil => simp at h
  | cons x xs ih =>
    by_cases hx : p x
    · exact ⟨[], x, xs, rfl, hx, by simp⟩
    · have hxs : ∃ y ∈ xs, p y := by simpa [hx] using h
      obtain ⟨before, y, after, rfl, hy, hbefore⟩ := ih hxs
      exact ⟨x :: before, y, after, rfl, hy, List.forall_mem_cons.mpr ⟨hx, hbefore⟩⟩

/-- The first `p` after a run of `q` is the head, or the head is a `q` and it is further on. -/
theorem first_cons_iff {p q : α → Prop} {x : α} {xs : List α} :
    (∃ before y after, x :: xs = before ++ y :: after ∧ p y ∧ ∀ z ∈ before, q z) ↔
      p x ∨ q x ∧ ∃ before y after, xs = before ++ y :: after ∧ p y ∧ ∀ z ∈ before, q z := by
  constructor
  · intro h
    obtain ⟨before, y, after, heq, hy, hbefore⟩ := h
    cases before with
    | nil =>
      obtain ⟨rfl, rfl⟩ := List.cons.inj heq
      exact .inl hy
    | cons z before =>
      obtain ⟨rfl, rfl⟩ := List.cons.inj heq
      obtain ⟨hz, hbefore⟩ := List.forall_mem_cons.mp hbefore
      exact .inr ⟨hz, before, y, after, rfl, hy, hbefore⟩
  · intro h
    rcases h with hx | ⟨hx, before, y, after, rfl, hy, hbefore⟩
    · exact ⟨[], x, xs, rfl, hx, by simp⟩
    · exact ⟨x :: before, y, after, rfl, hy, List.forall_mem_cons.mpr ⟨hx, hbefore⟩⟩

/-- The first `p` of a list is in one place. -/
theorem first_unique {p : α → Prop} {before after before' after' : List α} {x x' : α}
    (heq : before ++ x :: after = before' ++ x' :: after') (hx : p x) (hx' : p x')
    (hbefore : ∀ z ∈ before, ¬ p z) (hbefore' : ∀ z ∈ before', ¬ p z) :
    before = before' ∧ x = x' := by
  induction before generalizing before' with
  | nil =>
    cases before' with
    | nil => exact ⟨rfl, (List.cons.inj heq).1⟩
    | cons z rest =>
      obtain ⟨rfl, -⟩ := List.cons.inj heq
      exact absurd hx (hbefore' x List.mem_cons_self)
  | cons z before ih =>
    cases before' with
    | nil =>
      obtain ⟨rfl, -⟩ := List.cons.inj heq
      exact absurd hx' (hbefore z List.mem_cons_self)
    | cons z' rest =>
      obtain ⟨rfl, htail⟩ := List.cons.inj heq
      obtain ⟨rfl, rfl⟩ := ih htail (List.forall_mem_cons.mp hbefore).2
        (List.forall_mem_cons.mp hbefore').2
      exact ⟨rfl, rfl⟩

/-- `.map(f).collect::<Result<Vec<_>, _>>()` succeeds exactly with the pointwise images. -/
theorem mapM_eq_ok {f : α → Except ε β} {xs : List α} {ys : List β} :
    xs.mapM f = .ok ys ↔ List.Forall₂ (fun x y => f x = .ok y) xs ys := by
  induction xs generalizing ys with
  | nil => cases ys <;> simp [eq_comm]
  | cons x xs ih =>
    rw [List.mapM_cons]
    simp only [bind_eq_ok, pure_eq_ok, Except.ok.injEq, ih, List.forall₂_cons_left_iff]
    constructor
    · intro h
      obtain ⟨y, hy, zs, hzs, rfl⟩ := h
      exact ⟨y, zs, hy, hzs, rfl⟩
    · intro h
      obtain ⟨y, zs, hy, hzs, rfl⟩ := h
      exact ⟨y, hy, zs, hzs, rfl⟩

/-- A traversal fails as the first element does that fails. -/
theorem mapM_eq_error {f : α → Except ε β} {xs : List α} {e : ε} :
    xs.mapM f = .error e ↔ ∃ before x after, xs = before ++ x :: after ∧ f x = .error e ∧
      ∀ y ∈ before, ∃ b, f y = .ok b := by
  induction xs with
  | nil => simp
  | cons x xs ih =>
    rw [List.mapM_cons, first_cons_iff, bind_eq_error]
    refine or_congr_right ?_
    simp only [bind_eq_error, ih, pure_eq_ok, reduceCtorEq, and_false, exists_const, or_false,
      exists_and_right]

/-- A traversal in `Option` succeeds when every element does. -/
theorem mapM_eq_some {f : α → Option β} {xs : List α} {ys : List β} :
    xs.mapM f = some ys ↔ List.Forall₂ (fun x y => f x = some y) xs ys := by
  induction xs generalizing ys with
  | nil => cases ys <;> simp [eq_comm]
  | cons x xs ih =>
    rw [List.mapM_cons]
    simp only [Option.bind_eq_bind, Option.bind_eq_some_iff, Option.pure_def, Option.some.injEq,
      ih, List.forall₂_cons_left_iff]
    constructor
    · intro h
      obtain ⟨y, hy, zs, hzs, rfl⟩ := h
      exact ⟨y, zs, hy, hzs, rfl⟩
    · intro h
      obtain ⟨y, zs, hy, hzs, rfl⟩ := h
      exact ⟨y, hy, zs, hzs, rfl⟩

/-- A traversal by a decoder that undoes an encoder undoes the encoded list. -/
theorem mapM_map_ok {γ : Type} {f : γ → Except ε β} {g : β → γ} {xs : List β}
    (h : ∀ x ∈ xs, f (g x) = .ok x) : (xs.map g).mapM f = .ok xs := by
  rw [mapM_eq_ok, List.forall₂_map_left_iff, List.forall₂_same]
  exact h

/-- A traversal in `Option` that undoes a map gives the list back. -/
theorem mapM_map_some {γ : Type} {f : γ → Option β} {g : β → γ} {xs : List β}
    (h : ∀ x ∈ xs, f (g x) = some x) : (xs.map g).mapM f = some xs := by
  rw [mapM_eq_some, List.forall₂_map_left_iff, List.forall₂_same]
  exact h

/-- `.map(f).transpose()` succeeds exactly with the image of what is there. -/
theorem optionMapM_eq_ok {f : α → Except ε β} {o : Option α} {r : Option β} :
    o.mapM f = .ok r ↔ Option.Rel (fun x y => f x = .ok y) o r := by
  cases o with
  | none =>
    rw [Option.mapM_none, pure_eq_ok]
    constructor
    · rintro ⟨⟩; exact .none
    · rintro ⟨⟩; rfl
  | some x =>
    rw [Option.mapM_some]
    constructor
    · intro h
      cases hx : f x with
      | error e => simp [hx, Functor.map, Except.map] at h
      | ok y =>
        simp only [hx, Functor.map, Except.map, Except.ok.injEq] at h
        exact h ▸ .some hx
    · intro h
      cases h with
      | some hx => simp [hx, Functor.map, Except.map]

/-- An optional value is traversed back by a decoder that undoes its encoder. -/
theorem optionMapM_map_ok {γ : Type} {f : γ → Except ε β} {g : β → γ} {o : Option β}
    (h : ∀ x, o = some x → f (g x) = .ok x) : (o.map g).mapM f = .ok o := by
  cases o with
  | none => rfl
  | some x => simp [h x rfl, Functor.map, Except.map]

/-- A traversal in `Option` succeeds exactly when every element does. -/
theorem mapM_isSome {f : α → Option β} {xs : List α} :
    (xs.mapM f).isSome ↔ ∀ x ∈ xs, (f x).isSome := by
  induction xs with
  | nil => simp
  | cons x xs ih =>
    rw [List.mapM_cons]
    cases hx : f x with
    | none => simp [hx]
    | some y => cases hxs : xs.mapM f <;> simp_all

/-! ### Ways of failing -/

/-- Every failure of `x` is one of `P`. -/
def FailsWith (P : ε → Prop) (x : Except ε α) : Prop := ∀ e, x = .error e → P e

section FailsWith

variable {P : ε → Prop} {x : Except ε α} {f : α → Except ε β}

/-- A `?`-step adds the failures of the rest to its own. -/
theorem FailsWith.bind (hx : FailsWith P x) (hf : ∀ a, x = .ok a → FailsWith P (f a)) :
    FailsWith P (x >>= f) := by
  intro e h
  rcases bind_eq_error.mp h with h | ⟨a, ha, h⟩
  · exact hx e h
  · exact hf a ha e h

/-- A success fails with nothing. -/
@[simp] theorem failsWith_ok (a : α) : FailsWith P (.ok a) := by
  intro e h
  cases h

/-- An error has to be among the allowed ones. -/
@[simp] theorem failsWith_error {e : ε} : FailsWith P (.error e : Except ε α) ↔ P e := by
  constructor
  · exact fun h => h e rfl
  · rintro h _ ⟨⟩
    exact h

/-- A check fails with its one error. -/
theorem failsWith_ensure {c : Prop} [Decidable c] {e : ε} (h : P e) : FailsWith P (ensure c e) := by
  intro e' he
  exact (ensure_eq_error.mp he).2 ▸ h

/-- `ok_or` fails with its one error. -/
theorem failsWith_okOr {o : Option α} {e : ε} (h : P e) : FailsWith P (okOr o e) := by
  intro e' he
  exact (okOr_eq_error.mp he).2 ▸ h

/-- A pass over a list fails as one of its steps does. -/
theorem FailsWith.mapM {f : α → Except ε β} {xs : List α} (h : ∀ x ∈ xs, FailsWith P (f x)) :
    FailsWith P (xs.mapM f) := by
  induction xs with
  | nil => exact failsWith_ok []
  | cons x xs ih =>
    rw [List.mapM_cons]
    refine .bind (h x (by simp)) fun y _ => ?_
    exact .bind (ih fun z hz => h z (by simp [hz])) fun ys _ => failsWith_ok _

/-- A failure that is none of a step's own is one of the rest. -/
theorem bind_eq_error_of (hx : FailsWith P x) {e : ε} (he : ¬ P e) :
    (x >>= f) = .error e ↔ ∃ a, x = .ok a ∧ f a = .error e := by
  rw [bind_eq_error]
  exact or_iff_right fun h => he (hx e h)

end FailsWith

end Wire
