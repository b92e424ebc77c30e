import AttestationVerify.Wire.Outcome

namespace Wire.Hole

/-!
# Parses with one place left open

A parse of a whole that has one part left open reads that part with one parser and does nothing else
with it.  Once some filling goes through, every filling does what that parser does.

* `Passes` — the whole succeeds with the part's value where `get` shows it, or fails with the part's
  error;
* `Carries` — what is done after the part is read does not depend on it;
* `passes_self`, `Passes.after`, `Passes.bind`, `Passes.mapM_modify` — the rules along a chain of
  steps.
-/

variable {ε σ ν α β γ : Type}

/-- The whole `f` reads its part with `p`, as long as the rest of it is in order. -/
def Passes (p : σ → Except ε ν) (get : β → Option ν) (f : σ → Except ε β) : Prop :=
  ∀ s₀ b₀, f s₀ = .ok b₀ → ∀ s,
    (∀ n, p s = .ok n → ∃ b, f s = .ok b ∧ get b = some n) ∧
    ∀ e, p s = .error e → f s = .error e

/-- A step that keeps what is shown and whose success does not depend on it. -/
def Carries (get : β → Option ν) (get' : γ → Option ν) (k : β → Except ε γ) : Prop :=
  ∀ b c, k b = .ok c → ∀ b', ∃ c', k b' = .ok c' ∧ get' c' = get b'

/-- A step that only builds carries what it copies. -/
theorem carries_pure {get : β → Option ν} {get' : γ → Option ν} {f : β → γ}
    (h : ∀ b, get' (f b) = get b) : Carries (ε := ε) get get' fun b => pure (f b) :=
  fun _ _ _ b' => ⟨f b', rfl, h b'⟩

/-- A check in front changes nothing of that. -/
theorem Carries.after {get : β → Option ν} {get' : γ → Option ν} {k : α → β → Except ε γ}
    (x : Except ε α) (h : ∀ a, Carries get get' (k a)) :
    Carries get get' fun b => x >>= fun a => k a b := by
  intro b c hbc b'
  obtain ⟨a, ha, hk⟩ := bind_eq_ok.mp hbc
  simp only [ha, ok_bind]
  exact h a b c hk b'

variable {p : σ → Except ε ν} {get : β → Option ν} {get' : γ → Option ν}

/-- The value itself is passed on. -/
theorem passes_self : Passes p some p := by
  intro s₀ b₀ _ s
  exact ⟨fun n hn => ⟨n, hn, rfl⟩, fun e he => he⟩

/-- A step before the part. -/
theorem Passes.after {f : α → σ → Except ε β} (x : Except ε α) (h : ∀ a, Passes p get (f a)) :
    Passes p get fun s => x >>= fun a => f a s := by
  intro s₀ b₀ h₀ s
  obtain ⟨a, ha, hf⟩ := bind_eq_ok.mp h₀
  simp only [ha, ok_bind]
  exact h a s₀ b₀ hf s

/-- The steps after it. -/
theorem Passes.bind {f : σ → Except ε β} {k : β → Except ε γ} (hf : Passes p get f)
    (hk : Carries get get' k) : Passes p get' fun s => f s >>= k := by
  intro s₀ c₀ h₀ s
  obtain ⟨b₀, hb₀, hc₀⟩ := bind_eq_ok.mp h₀
  obtain ⟨hok, herror⟩ := hf s₀ b₀ hb₀ s
  constructor
  · intro n hn
    obtain ⟨b, hb, hget⟩ := hok n hn
    obtain ⟨c, hc, hget'⟩ := hk b₀ c₀ hc₀ b
    exact ⟨c, bind_eq_ok.mpr ⟨b, hb, hc⟩, hget'.trans hget⟩
  · intro e he
    exact bind_eq_error.mpr (.inl (herror e he))

/-- A part that is present passes what it passes. -/
theorem Passes.optionMapM {g : α → Except ε β} {part : σ → α}
    (h : Passes p get fun s => g (part s)) :
    Passes p (fun o => o.bind get) fun s => (some (part s)).mapM g := by
  have hbind : Passes p (fun o : Option β => o.bind get)
      fun s => g (part s) >>= fun b => pure (some b) := h.bind (carries_pure fun _ => rfl)
  have hmap (s : σ) : (some (part s)).mapM g = g (part s) >>= fun b => pure (some b) := by
    simp only [Option.mapM_some, map_eq_pure_bind]
  simpa only [hmap] using hbind

/-- One item of a list that is parsed item by item. -/
theorem Passes.mapM_modify {g : α → Except ε β} {part : σ → α → α} {a : α}
    (h : Passes p get fun s => g (part s a)) {xs : List α} {i : ℕ} (hi : xs[i]? = some a) :
    Passes p (fun bs => bs[i]?.bind get) fun s => (xs.modify i (part s)).mapM g := by
  induction xs generalizing i with
  | nil => cases hi
  | cons x xs ih =>
    cases i with
    | zero =>
      obtain rfl : x = a := Option.some.inj hi
      simp only [List.modify_zero_cons, List.mapM_cons]
      exact h.bind (Carries.after _ fun bs => carries_pure fun b => rfl)
    | succ i =>
      simp only [List.modify_succ_cons, List.mapM_cons]
      exact Passes.after _ fun b => (ih hi).bind (carries_pure fun bs => rfl)

end Wire.Hole
