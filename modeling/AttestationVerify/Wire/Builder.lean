import AttestationVerify.Wire.Outcome
import Mathlib.Data.List.Induction

namespace Wire.Builder

/-!
# Builders

A builder takes calls one after the other.  What it ends up with is said by the calls alone.

* `Accumulates` — a call adds to what is there; `Accumulates.run`: a run of calls adds what any of
  them does, in whatever order they come;
* `foldlM_succeeds_iff` — when a run fails;
* `Sets` — a call replaces a field or leaves it; `Sets.run`: the last one that sets it wins.
-/

variable {ε σ γ ι α : Type}

/-- A call that does not fail adds exactly what `adds` says of it to what `view` shows. -/
def Accumulates (step : σ → γ → Except ε σ) (view : σ → ι → Prop) (adds : γ → ι → Prop) : Prop :=
  ∀ s c s', step s c = .ok s' → ∀ x, view s' x ↔ view s x ∨ adds c x

/-- A sequence of calls adds what each of them adds, and fails as one of them does. -/
theorem Accumulates.run {step : σ → γ → Except ε σ} {view : σ → ι → Prop} {adds : γ → ι → Prop}
    (h : Accumulates step view adds) :
    Accumulates (fun s (calls : List γ) => calls.foldlM step s) view
      fun calls x => ∃ c ∈ calls, adds c x := by
  intro s calls s' hrun x
  change calls.foldlM step s = .ok s' at hrun
  show view s' x ↔ view s x ∨ ∃ c ∈ calls, adds c x
  induction calls generalizing s with
  | nil =>
    obtain rfl : s = s' := Except.ok.inj hrun
    simp
  | cons c calls ih =>
    rw [List.foldlM_cons, bind_eq_ok] at hrun
    obtain ⟨between, hstep, hrest⟩ := hrun
    rw [ih between hrest, h s c between hstep x, List.exists_mem_cons_iff, or_assoc]

/-- When what a call asks for does not depend on what is there, a run asks for it of every call. -/
theorem foldlM_succeeds_iff {step : σ → γ → Except ε σ} {valid : γ → Prop}
    (h : ∀ s c, (∃ s', step s c = .ok s') ↔ valid c) (s : σ) (calls : List γ) :
    (∃ s', calls.foldlM step s = .ok s') ↔ ∀ c ∈ calls, valid c := by
  induction calls generalizing s with
  | nil =>
    simp only [List.not_mem_nil, false_implies, implies_true, iff_true]
    exact ⟨s, rfl⟩
  | cons c calls ih =>
    simp only [List.foldlM_cons, bind_eq_ok, List.forall_mem_cons]
    constructor
    · rintro ⟨s', between, hstep, hrest⟩
      exact ⟨(h s c).mp ⟨between, hstep⟩, (ih between).mp ⟨s', hrest⟩⟩
    · rintro ⟨hc, hcalls⟩
      obtain ⟨between, hstep⟩ := (h s c).mpr hc
      obtain ⟨s', hrest⟩ := (ih between).mpr hcalls
      exact ⟨s', between, hstep, hrest⟩

/-- A call sets the field to a value, or leaves it. -/
def Sets (step : σ → γ → σ) (field : σ → Option α) (sets : γ → Option α) : Prop :=
  ∀ s c, field (step s c) = (sets c).or (field s)

/-- After a sequence of calls the last one that sets the field has set it. -/
theorem Sets.run {step : σ → γ → σ} {field : σ → Option α} {sets : γ → Option α}
    (h : Sets step field sets) (s : σ) (calls : List γ) :
    field (calls.foldl step s) = (calls.reverse.findSome? sets).or (field s) := by
  induction calls using List.reverseRecOn with
  | nil => rfl
  | append_singleton calls c ih =>
    rw [List.foldl_append, List.foldl_cons, List.foldl_nil, h, ih, List.reverse_append,
      List.reverse_singleton, List.singleton_append, List.findSome?_cons]
    cases sets c <;> rfl

end Wire.Builder
