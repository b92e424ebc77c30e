import AttestationVerify.Wire.Outcome
import Mathlib.Algebra.Group.Int.Defs
import Mathlib.Algebra.Group.Nat.Defs

namespace Wire.Machine

/-!
# Computations on machine values

Arithmetic whose value must fit its type and indices that must be in bounds, both of which panic
otherwise.  `none` is the panic; a failure the program reports is an `Except.error` as elsewhere.

* `u32`, `i64`, `usize`, `subNat`, `index` — the operations that can panic;
* `Computes` — a computation does not panic, and this is its outcome;
* `Computes.bind`, `Computes.step` — taken step by step: a step of its own in the outcome, and a
  machine operation, which has none there.
-/

variable {ε α β : Type}

/-! ### Operations -/

/-- A value of a `u32`, or an overflow. -/
def u32 (n : ℕ) : Option ℕ := if n < 2 ^ 32 then some n else none

/-- A value of an `i64`, or an overflow. -/
def i64 (x : ℤ) : Option ℤ := if -2 ^ 63 ≤ x ∧ x < 2 ^ 63 then some x else none

/-- The greatest `usize` depends on the platform. -/
def usize (max n : ℕ) : Option ℕ := if n ≤ max then some n else none

/-- Subtraction of an unsigned type. -/
def subNat (m n : ℕ) : Option ℕ := if n ≤ m then some (m - n) else none

/-- A slice index, or a panic. -/
def index (xs : List α) (i : ℕ) : Option α := xs[i]?

/-- A number in range is a `u32`. -/
theorem u32_of_lt {n : ℕ} (h : n < 2 ^ 32) : u32 n = some n := if_pos h

/-- A number in range is an `i64`. -/
theorem i64_of_bounds {x : ℤ} (hlow : -2 ^ 63 ≤ x) (hhigh : x < 2 ^ 63) : i64 x = some x :=
  if_pos ⟨hlow, hhigh⟩

/-- A step that does not panic goes on with its value. -/
theorem some_bind (a : α) (k : α → Option β) : (some a >>= k) = k a := rfl

/-- A step goes on with an `i64` in range. -/
theorem i64_bind {x : ℤ} {k : ℤ → Option β} (hlow : -2 ^ 63 ≤ x) (hhigh : x < 2 ^ 63) :
    (i64 x >>= k) = k x := by
  rw [i64_of_bounds hlow hhigh, some_bind]

/-- A size up to the largest is a `usize`. -/
theorem usize_of_le {max n : ℕ} (h : n ≤ max) : usize max n = some n := if_pos h

/-- A `usize` keeps its value. -/
theorem eq_of_usize {max n m : ℕ} (h : usize max n = some m) : m = n := by
  unfold usize at h
  split at h
  · exact (Option.some.inj h).symm
  · cases h

/-- A difference that is not negative is one. -/
theorem subNat_of_le {m n : ℕ} (h : n ≤ m) : subNat m n = some (m - n) := if_pos h

/-- An index below the length is in the slice. -/
theorem index_of_lt {xs : List α} {i : ℕ} (h : i < xs.length) : index xs i = some xs[i] :=
  List.getElem?_eq_getElem h

/-! ### Outcomes -/

/-- Fallible computations that may panic. -/
abbrev Checked (ε : Type) := ExceptT ε Option

/-- A machine operation in a fallible computation. -/
def orPanic (o : Option α) : Checked ε α := ExceptT.lift o

/-- The checked run does not panic, and has this outcome. -/
def Computes (x : Checked ε α) (v : Except ε α) : Prop := x.run = some v

namespace Computes

variable {x : Checked ε α} {v : Except ε α} {k : α → Checked ε β} {f : α → Except ε β}

/-- A value already there is computed. -/
theorem pure (a : α) : Computes (Pure.pure a : Checked ε α) (.ok a) := rfl

/-- A step that cannot panic. -/
theorem liftExcept (v : Except ε α) : Computes (liftM v : Checked ε α) v := rfl

/-- Steps that do not panic may follow one another. -/
theorem bind (hx : Computes x v) (hk : ∀ a, v = .ok a → Computes (k a) (f a)) :
    Computes (x >>= k) (v >>= f) := by
  show (Option.bind x.run (ExceptT.bindCont k)) = _
  rw [show x.run = some v from hx, Option.bind_some]
  cases v with
  | error e => rfl
  | ok a => exact hk a rfl

/-- A machine operation that does not panic. -/
theorem step {γ : Type} {o : Option γ} {c : γ} {k : γ → Checked ε β} {w : Except ε β}
    (ho : o = some c) (hk : Computes (k c) w) : Computes (orPanic o >>= k) w := by
  subst ho
  exact hk

/-- A value that is there, as the last step. -/
theorem ofSome {o : Option α} {a : α} (ho : o = some a) :
    Computes (orPanic o : Checked ε α) (.ok a) := by
  subst ho
  rfl

/-- A test, which the rest of the computation may rely on. -/
theorem check {c : Prop} [Decidable c] {e : ε} {k : Checked ε β} {w : Except ε β}
    (hk : c → Computes k w) :
    Computes (liftM (ensure c e) >>= fun _ => k) (ensure c e >>= fun _ => w) :=
  bind (liftExcept _) fun _ hc => hk (ensure_eq_ok.mp hc)

/-- A step that only the machine takes, because the outcome has already been checked for. -/
theorem stepOk {w : Except ε β} {a : α} (hx : Computes x (.ok a)) (hk : Computes (k a) w) :
    Computes (x >>= k) w := by
  have hbind := bind (f := fun _ => w) hx fun b hb => (Except.ok.inj hb) ▸ hk
  exact hbind

end Computes

end Wire.Machine
