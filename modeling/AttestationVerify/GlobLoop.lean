import AttestationVerify.PolicyMatch
import AttestationVerify.Wire.Loop

namespace AttestationVerify

open Wire

/-!
# The loops of `glob_match`

`glob_match` with its indices, as `policy_match.rs` has it, and how long it runs.  Both cursors can
move backwards; what never does is the place the last `*` is tried at, and until that moves on the
pattern's cursor only goes forward.

* `globLoop`, `trailingLoop` — the two loops, over the cursors `pi`, `ti` and `star`;
* `Cursors.rank` — what every run of the main loop's body lowers;
* `globMatchLoops_terminates` — the search ends with the answer of `globMatch`, after no more runs
  of the main loop's body than the pattern and the text allow.
-/

/-- The variables of the main loop. -/
structure Cursors where
  pi : ℕ
  ti : ℕ
  /-- The last `*` seen, and how much of the text it had consumed when it was last tried. -/
  star : Option (ℕ × ℕ)

/-- The body of the main loop, which a mismatch without a `*` to fall back to leaves. -/
def globBody (p t : Bytes) (c : Cursors) : Cursors ⊕ Option ℕ :=
  if c.pi < p.length ∧ p[c.pi]? = some 42 then .inl ⟨c.pi + 1, c.ti, some (c.pi, c.ti)⟩
  else if c.pi < p.length ∧ p[c.pi]? = t[c.ti]? then .inl ⟨c.pi + 1, c.ti + 1, c.star⟩
  else
    match c.star with
    -- the last `*` consumes one more byte of the text
    | some (starPi, starTi) => .inl ⟨starPi + 1, starTi + 1, some (starPi, starTi + 1)⟩
    | none => .inr none

/-- The main loop ends at the end of the text, in some place of the pattern; `none` is its
    `return false`. -/
def globLoop (p t : Bytes) : Loop Cursors (Option ℕ) where
  cond := fun c => c.ti < t.length
  body := globBody p t
  after := fun c => some c.pi

/-- The `*`s left over at the end of the pattern are skipped. -/
def trailingLoop (p : Bytes) : Loop ℕ Bool where
  cond := fun pi => p[pi]? = some 42
  body := fun pi => .inl (pi + 1)
  after := fun pi => pi = p.length

/-- The answer, and how often the body of the main loop ran. -/
def globMatchLoops (fuel : ℕ) (pattern text : Str) : Option (Bool × ℕ) := do
  let (pi, n) ← (globLoop (utf8 pattern) (utf8 text)).run fuel ⟨0, 0, none⟩
  match pi with
  | none => some (false, n)
  | some pi => do
    let (answer, _) ← (trailingLoop (utf8 pattern)).run fuel pi
    some (answer, n)

/-! ### What the loops maintain -/

namespace Cursors

/-- The place the last `*` is tried at. -/
def base (c : Cursors) : ℕ := c.star.elim 0 Prod.snd

/-- The cursors are in their texts, and the text's is not before that place. -/
structure InBounds (p t : Bytes) (c : Cursors) : Prop where
  pi_le : c.pi ≤ p.length
  base_le : c.base ≤ c.ti
  star_lt : ∀ star ∈ c.star, star.1 < p.length

/-- A pass over the pattern for every place the last `*` can still be tried at, and the rest of the
    present one. -/
def rank (p t : Bytes) (c : Cursors) : ℕ :=
  (p.length + 1) * (t.length - c.base) + (p.length - c.pi) + 1

/-- What the matcher makes of the rest of the pattern and the text. -/
def answer (p t : Bytes) (c : Cursors) : Bool :=
  Glob.run 42 (p.drop c.pi) (t.drop c.ti)
    (c.star.map fun star => (p.drop (star.1 + 1), t.drop star.2))

end Cursors

section Body

variable {p t : Bytes} {c c' : Cursors}

/-- A `*` is remembered, and the pattern goes on behind it. -/
theorem globBody_star (h : p[c.pi]? = some 42) :
    globBody p t c = .inl ⟨c.pi + 1, c.ti, some (c.pi, c.ti)⟩ := by
  obtain ⟨hlt, -⟩ := List.getElem?_eq_some_iff.mp h
  rw [globBody, if_pos ⟨hlt, h⟩]

/-- At a matching literal both cursors move on. -/
theorem globBody_literal {b : UInt8} (hp : p[c.pi]? = some b) (hb : b ≠ 42)
    (ht : t[c.ti]? = some b) : globBody p t c = .inl ⟨c.pi + 1, c.ti + 1, c.star⟩ := by
  obtain ⟨hlt, -⟩ := List.getElem?_eq_some_iff.mp hp
  have hstar : ¬ (c.pi < p.length ∧ p[c.pi]? = some 42) := by simp [hp, hb]
  rw [globBody, if_neg hstar, if_pos ⟨hlt, by rw [hp, ht]⟩]

/-- With nothing in the pattern for the next byte, the last `*` has to take one more. -/
theorem globBody_mismatch {a : UInt8} (ht : t[c.ti]? = some a)
    (h : ∀ b, p[c.pi]? = some b → b ≠ 42 ∧ b ≠ a) :
    globBody p t c = c.star.elim (.inr none) fun star =>
      .inl ⟨star.1 + 1, star.2 + 1, some (star.1, star.2 + 1)⟩ := by
  have hstar : ¬ (c.pi < p.length ∧ p[c.pi]? = some 42) := fun hp => (h 42 hp.2).1 rfl
  have hliteral : ¬ (c.pi < p.length ∧ p[c.pi]? = t[c.ti]?) := by
    rintro ⟨-, hp⟩
    exact (h a (hp.trans ht)).2 rfl
  rw [globBody, if_neg hstar, if_neg hliteral]
  cases c.star <;> rfl

/-! What the matcher makes of the three cases. -/

/-- A star noted does not change the answer. -/
theorem Cursors.answer_star (hp : p[c.pi]? = some 42) (ht : c.ti < t.length) :
    (⟨c.pi + 1, c.ti, some (c.pi, c.ti)⟩ : Cursors).answer p t = c.answer p t := by
  obtain ⟨hlt, hp⟩ := List.getElem?_eq_some_iff.mp hp
  have hdrop : p.drop c.pi = 42 :: p.drop (c.pi + 1) := hp ▸ List.drop_eq_getElem_cons hlt
  unfold Cursors.answer
  rw [hdrop, List.drop_eq_getElem_cons ht, Glob.run_wildcard, Option.map_some,
    List.drop_eq_getElem_cons ht]

/-- A literal passed does not change the answer either. -/
theorem Cursors.answer_literal {b : UInt8} (hp : p[c.pi]? = some b) (hb : b ≠ 42)
    (ht : t[c.ti]? = some b) :
    (⟨c.pi + 1, c.ti + 1, c.star⟩ : Cursors).answer p t = c.answer p t := by
  obtain ⟨hlt, hp⟩ := List.getElem?_eq_some_iff.mp hp
  obtain ⟨hti, ht⟩ := List.getElem?_eq_some_iff.mp ht
  have hpattern : p.drop c.pi = b :: p.drop (c.pi + 1) := hp ▸ List.drop_eq_getElem_cons hlt
  have htext : t.drop c.ti = b :: t.drop (c.ti + 1) := ht ▸ List.drop_eq_getElem_cons hti
  unfold Cursors.answer
  rw [hpattern, htext, Glob.run_literal hb]

/-- At a mismatch the answer is the last star's, one byte further on. -/
theorem Cursors.answer_mismatch {a : UInt8} (ht : t[c.ti]? = some a)
    (h : ∀ b, p[c.pi]? = some b → b ≠ 42 ∧ b ≠ a) (hbase : c.base ≤ c.ti) :
    c.answer p t = c.star.elim false fun star =>
      Cursors.answer p t ⟨star.1 + 1, star.2 + 1, some (star.1, star.2 + 1)⟩ := by
  obtain ⟨hti, ht⟩ := List.getElem?_eq_some_iff.mp ht
  have htext : t.drop c.ti = a :: t.drop (c.ti + 1) := ht ▸ List.drop_eq_getElem_cons hti
  have hhead : ∀ b ∈ (p.drop c.pi).head?, b ≠ 42 ∧ b ≠ a := by
    intro b hb
    rw [List.head?_drop] at hb
    exact h b hb
  cases hstar : c.star with
  | none =>
    unfold Cursors.answer
    rw [htext, hstar]
    exact (Glob.run_mismatch hhead [] [] a).1
  | some star =>
    -- the star was last tried inside the text
    have hlt : star.2 < t.length := by
      rw [Cursors.base, hstar] at hbase
      exact Nat.lt_of_le_of_lt hbase hti
    unfold Cursors.answer
    rw [htext, hstar, Option.map_some, List.drop_eq_getElem_cons hlt]
    exact (Glob.run_mismatch hhead _ _ _).2

/-- What one run of the body can do: it lowers the rank and keeps the answer, or the answer is
    no. -/
theorem globBody_spec (hc : c.InBounds p t) (hti : c.ti < t.length) :
    (∃ c', globBody p t c = .inl c' ∧ c'.InBounds p t ∧ c'.answer p t = c.answer p t ∧
      c'.rank p t < c.rank p t) ∨
    globBody p t c = .inr none ∧ c.answer p t = false := by
  obtain ⟨hpi, hbase, hstar⟩ := hc
  have htext : t[c.ti]? = some t[c.ti] := List.getElem?_eq_getElem hti
  by_cases hwild : p[c.pi]? = some 42
  · -- the place moves on to where the text is, never back
    obtain ⟨hlt, -⟩ := List.getElem?_eq_some_iff.mp hwild
    refine .inl ⟨_, globBody_star hwild, ⟨hlt, le_rfl, ?_⟩, Cursors.answer_star hwild hti, ?_⟩
    · simpa using hlt
    · have hpass : (p.length + 1) * (t.length - c.ti) ≤ (p.length + 1) * (t.length - c.base) :=
        Nat.mul_le_mul_left _ (Nat.sub_le_sub_left hbase _)
      simp only [Cursors.rank, Cursors.base, Option.elim] at hpass ⊢
      omega
  by_cases hliteral : p[c.pi]? = some t[c.ti]
  · obtain ⟨hlt, -⟩ := List.getElem?_eq_some_iff.mp hliteral
    have hb : t[c.ti] ≠ 42 := fun hb => hwild (hb ▸ hliteral)
    refine .inl ⟨_, globBody_literal hliteral hb htext, ⟨hlt, Nat.le_succ_of_le hbase, hstar⟩,
      Cursors.answer_literal hliteral hb htext, ?_⟩
    simp only [Cursors.rank, Cursors.base]
    omega
  · have hmismatch : ∀ b, p[c.pi]? = some b → b ≠ 42 ∧ b ≠ t[c.ti] := by
      intro b hb
      exact ⟨fun h => hwild (h ▸ hb), fun h => hliteral (h ▸ hb)⟩
    rw [globBody_mismatch htext hmismatch, Cursors.answer_mismatch htext hmismatch hbase]
    cases hlast : c.star with
    | none => exact .inr ⟨rfl, rfl⟩
    | some star =>
      -- back in the pattern, but the place is one further
      have hlt : star.1 < p.length := hstar star hlast
      have hplace : star.2 < t.length := by
        rw [Cursors.base, hlast] at hbase
        exact Nat.lt_of_le_of_lt hbase hti
      refine .inl ⟨_, rfl, ⟨hlt, le_rfl, ?_⟩, rfl, ?_⟩
      · simpa using hlt
      · have hpass : (p.length + 1) * (t.length - star.2) =
            (p.length + 1) * (t.length - (star.2 + 1)) + (p.length + 1) := by
          rw [← Nat.mul_succ, Nat.succ_eq_add_one, Nat.sub_add_eq,
            Nat.sub_add_cancel (Nat.sub_pos_of_lt hplace)]
        simp only [Cursors.rank, Cursors.base, hlast, Option.elim, hpass]
        omega

end Body

/-! ### How they end -/

section Run

variable (p t : Bytes)

/-- What holds at the head of the main loop: what is left decides what the whole does. -/
def AtHead (c : Cursors) : Prop := c.InBounds p t ∧ c.answer p t = Glob.run 42 p t none

/-- What holds behind it: there are only the trailing `*`s to look for. -/
def AtEnd (r : Option ℕ) : Prop :=
  (∀ pi ∈ r, pi ≤ p.length) ∧
    r.elim false (fun pi => (p.drop pi).all (· = 42)) = Glob.run 42 p t none

/-- The main loop comes to its end within the bound, whatever the fuel beyond it. -/
theorem globLoop_run :
    ∃ n ≤ (p.length + 1) * (t.length + 1), ∃ r, AtEnd p t r ∧
      ∀ fuel, n ≤ fuel → (globLoop p t).run fuel ⟨0, 0, none⟩ = some (r, n) := by
  have hbody (c c' : Cursors) (hc : AtHead p t c) (hcond : (globLoop p t).cond c = true)
      (h : globBody p t c = .inl c') : AtHead p t c' ∧ c'.rank p t < c.rank p t := by
    rcases globBody_spec hc.1 (of_decide_eq_true hcond) with
      ⟨_, hstep, hbounds, hanswer, hrank⟩ | ⟨hstep, -⟩
    · obtain rfl := Sum.inl.inj (hstep.symm.trans h)
      exact ⟨⟨hbounds, hanswer.trans hc.2⟩, hrank⟩
    · cases hstep.symm.trans h
  have hreturn (c : Cursors) (r : Option ℕ) (hc : AtHead p t c)
      (hcond : (globLoop p t).cond c = true) (h : globBody p t c = .inr r) :
      0 < c.rank p t ∧ AtEnd p t r := by
    rcases globBody_spec hc.1 (of_decide_eq_true hcond) with ⟨_, hstep, -⟩ | ⟨hstep, hanswer⟩
    · cases hstep.symm.trans h
    · obtain rfl := Sum.inr.inj (hstep.symm.trans h)
      exact ⟨Nat.succ_pos _, by simp, hanswer.symm.trans hc.2⟩
  have hafter (c : Cursors) (hc : AtHead p t c) (hcond : (globLoop p t).cond c = false) :
      AtEnd p t (some c.pi) := by
    -- the text is over: the matcher only looks for wildcards
    have hover : t.drop c.ti = [] := List.drop_eq_nil_of_le (Nat.le_of_not_lt
      (of_decide_eq_false hcond))
    refine ⟨by simpa using hc.1.pi_le, hc.2 ▸ ?_⟩
    rw [Cursors.answer, hover, Glob.run_nil]
    rfl
  have hstart : AtHead p t ⟨0, 0, none⟩ := ⟨⟨Nat.zero_le _, le_rfl, by simp⟩, rfl⟩
  have hrank : (⟨0, 0, none⟩ : Cursors).rank p t = (p.length + 1) * (t.length + 1) := by
    simp only [Cursors.rank, Cursors.base, Option.elim, Nat.sub_zero, Nat.mul_succ, Nat.add_assoc]
  rw [← hrank]
  exact Loop.run_total hbody hreturn hafter hstart

/-- What holds at the head of the trailing loop. -/
def AtTrailing (answer : Bool) (pi : ℕ) : Prop :=
  pi ≤ p.length ∧ (p.drop pi).all (· = 42) = answer

variable {p}

/-- The second loop skips the trailing stars. -/
theorem trailingLoop_run {answer : Bool} {pi : ℕ} (hpi : AtTrailing p answer pi) {fuel : ℕ}
    (hfuel : p.length ≤ fuel) : ∃ n, (trailingLoop p).run fuel pi = some (answer, n) := by
  have hbody (i j : ℕ) (hi : AtTrailing p answer i) (hcond : (trailingLoop p).cond i = true)
      (h : (trailingLoop p).body i = .inl j) :
      AtTrailing p answer j ∧ p.length - j < p.length - i := by
    obtain rfl := Sum.inl.inj h
    obtain ⟨hlt, hstar⟩ := List.getElem?_eq_some_iff.mp (of_decide_eq_true hcond)
    refine ⟨⟨hlt, hi.2 ▸ ?_⟩, Nat.sub_lt_sub_left hlt (Nat.lt_succ_self i)⟩
    rw [List.drop_eq_getElem_cons hlt, hstar]
    simp
  have hreturn (i : ℕ) (b : Bool) (_ : AtTrailing p answer i)
      (_ : (trailingLoop p).cond i = true) (h : (trailingLoop p).body i = .inr b) :
      0 < p.length - i ∧ b = answer := by
    cases h
  have hafter (i : ℕ) (hi : AtTrailing p answer i) (hcond : (trailingLoop p).cond i = false) :
      (trailingLoop p).after i = answer := by
    have hstop : p[i]? ≠ some 42 := of_decide_eq_false hcond
    rw [trailingLoop, ← hi.2]
    rcases Nat.lt_or_ge i p.length with hlt | hge
    · rw [List.getElem?_eq_getElem hlt] at hstop
      have hne : p[i] ≠ 42 := fun h => hstop (congrArg some h)
      rw [List.drop_eq_getElem_cons hlt, List.all_cons, decide_eq_false hne, Bool.false_and]
      exact decide_eq_false (Nat.ne_of_lt hlt)
    · simp [Nat.le_antisymm hi.1 hge]
  obtain ⟨n, hn, b, rfl, hrun⟩ := Loop.run_total hbody hreturn hafter hpi
  exact ⟨n, hrun fuel (hn.trans ((Nat.sub_le _ _).trans hfuel))⟩

end Run

/-- **The search ends.**  Whatever the pattern and the text, the loops give the answer of
    `globMatch`, the main one after at most a pass over the pattern for every place in the text. -/
theorem globMatchLoops_terminates (pattern text : Str) :
    ∃ n ≤ ((utf8 pattern).length + 1) * ((utf8 text).length + 1),
      ∀ fuel, ((utf8 pattern).length + 1) * ((utf8 text).length + 1) ≤ fuel →
        globMatchLoops fuel pattern text = some (globMatch pattern text, n) := by
  obtain ⟨n, hn, r, ⟨hle, hr⟩, hrun⟩ := globLoop_run (utf8 pattern) (utf8 text)
  refine ⟨n, hn, fun fuel hfuel => ?_⟩
  rw [globMatch, ← hr, globMatchLoops, hrun fuel (hn.trans hfuel)]
  cases r with
  | none => rfl
  | some pi =>
    have hpattern : (utf8 pattern).length ≤ fuel :=
      (Nat.le_succ _).trans ((Nat.le_mul_of_pos_right _ (Nat.succ_pos _)).trans hfuel)
    obtain ⟨m, htrailing⟩ := trailingLoop_run ⟨hle pi rfl, rfl⟩ hpattern
    simp only [Option.bind_eq_bind, Option.bind_some, htrailing, Option.elim]

end AttestationVerify
