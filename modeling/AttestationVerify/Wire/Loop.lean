import Mathlib.Order.Basic

namespace Wire

/-!
# While loops

A loop over a state, with a body that may also leave it by `return`, and how often its body runs.

* `Loop.run` — the loop with a bound on the runs of its body, which it counts;
* `Loop.run_total` — total correctness: an invariant gives the result, and a rank that every run of
  the body lowers bounds their number.
-/

/-- `while cond { body }; after`, over the loop's variables `σ`. -/
structure Loop (σ β : Type) where
  cond : σ → Bool
  /-- The variables after one run of the body, or what it returns. -/
  body : σ → σ ⊕ β
  after : σ → β

namespace Loop

variable {σ β : Type} (loop : Loop σ β)

/-- The result and how often the body ran; `none` when it would have to run more than `fuel`
    times. -/
def run : ℕ → σ → Option (β × ℕ)
  | 0, s => if loop.cond s then none else some (loop.after s, 0)
  | fuel + 1, s =>
    if loop.cond s then
      match loop.body s with
      | .inl s' => (run fuel s').map fun r => (r.1, r.2 + 1)
      | .inr b => some (b, 1)
    else some (loop.after s, 0)

/-- With an invariant and a rank that goes down, the loop ends as the invariant says after no more
    runs of its body than the rank does. -/
theorem run_total {loop : Loop σ β} {invariant : σ → Prop} {rank : σ → ℕ} {post : β → Prop}
    (hbody : ∀ s s', invariant s → loop.cond s = true → loop.body s = .inl s' →
      invariant s' ∧ rank s' < rank s)
    (hreturn : ∀ s b, invariant s → loop.cond s = true → loop.body s = .inr b →
      0 < rank s ∧ post b)
    (hafter : ∀ s, invariant s → loop.cond s = false → post (loop.after s))
    {s : σ} (hs : invariant s) :
    ∃ n ≤ rank s, ∃ b, post b ∧ ∀ fuel, n ≤ fuel → loop.run fuel s = some (b, n) := by
  induction hrank : rank s using Nat.strongRecOn generalizing s with
  | ind r ih =>
    subst hrank
    cases hcond : loop.cond s with
    | false =>
      refine ⟨0, Nat.zero_le _, loop.after s, hafter s hs hcond, fun fuel _ => ?_⟩
      cases fuel <;> simp [run, hcond]
    | true =>
      cases hstep : loop.body s with
      | inr b =>
        -- the last run of the body
        obtain ⟨hpos, hb⟩ := hreturn s b hs hcond hstep
        refine ⟨1, hpos, b, hb, fun fuel hfuel => ?_⟩
        obtain ⟨fuel, rfl⟩ := Nat.exists_eq_add_of_le' hfuel
        simp [run, hcond, hstep]
      | inl s' =>
        -- one run more than from the next state, whose rank is lower
        obtain ⟨hs', hlt⟩ := hbody s s' hs hcond hstep
        obtain ⟨n, hn, b, hb, hrun⟩ := ih (rank s') hlt hs' rfl
        refine ⟨n + 1, Nat.lt_of_le_of_lt hn hlt, b, hb, fun fuel hfuel => ?_⟩
        obtain ⟨fuel, rfl⟩ := Nat.exists_eq_add_of_le' hfuel
        have hrest := hrun (fuel + n) (Nat.le_add_left _ _)
        rw [← Nat.add_assoc, run, if_pos hcond, hstep]
        simp only [hrest, Option.map_some]

end Loop

end Wire
