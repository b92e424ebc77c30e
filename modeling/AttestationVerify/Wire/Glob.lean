import AttestationVerify.Wire.Text
import Mathlib.Tactic.Basic

namespace Wire.Glob

/-!
# Single-wildcard patterns

Patterns over any alphabet in which one symbol, the wildcard, stands for any sequence and every
other symbol for itself.

* `Matches` — what a pattern stands for;
* `run` — the greedy two-pointer matcher, which keeps only the last wildcard to fall back to;
* `run_iff` — the matcher decides `Matches`;
* `matches_iff_fill` — a match is a way to fill the wildcards in;
* `matches_utf8_iff` — matching encodings byte by byte is matching the texts.

Forgetting the earlier wildcards is sound because whatever an earlier one could still absorb, the
later one can too (`Matches.of_later`).
-/

variable {α : Type} {wild : α} {p q t : List α}

/-- `p` matches `t` when `t` is `p` with any strings in place of its wildcards. -/
def Matches (wild : α) : List α → List α → Prop
  | [], t => t = []
  | c :: p, t =>
    (c = wild ∧ ∃ u v, t = u ++ v ∧ Matches wild p v) ∨
      (c ≠ wild ∧ ∃ v, t = c :: v ∧ Matches wild p v)

/-- A wildcard takes any part of the text. -/
@[simp] theorem matches_wildcard_iff :
    Matches wild (wild :: p) t ↔ ∃ u v, t = u ++ v ∧ Matches wild p v := by
  simp [Matches]

/-- A literal takes itself. -/
theorem matches_literal_iff {c : α} (hc : c ≠ wild) :
    Matches wild (c :: p) t ↔ ∃ v, t = c :: v ∧ Matches wild p v := by
  simp [Matches, hc]

/-- The empty text is matched by wildcards only. -/
theorem matches_nil_iff : Matches wild p [] ↔ ∀ c ∈ p, c = wild := by
  induction p with
  | nil => simp [Matches]
  | cons c p ih =>
    by_cases hc : c = wild
    · subst hc
      simp [ih]
    · simp [matches_literal_iff hc, hc]

/-- Literals in front of a pattern are a prefix of every text it matches. -/
theorem matches_literals_iff (hq : ∀ c ∈ q, c ≠ wild) :
    Matches wild (q ++ p) t ↔ ∃ v, t = q ++ v ∧ Matches wild p v := by
  induction q generalizing t with
  | nil => simp
  | cons c q ih =>
    simp only [List.forall_mem_cons] at hq
    rw [List.cons_append, matches_literal_iff hq.1]
    constructor
    · rintro ⟨v, rfl, h⟩
      obtain ⟨w, rfl, hw⟩ := (ih hq.2).mp h
      exact ⟨w, rfl, hw⟩
    · intro h
      obtain ⟨w, rfl, hw⟩ := h
      exact ⟨q ++ w, rfl, (ih hq.2).mpr ⟨w, rfl, hw⟩⟩

/-- Without a wildcard a pattern stands for itself. -/
theorem matches_of_not_mem (h : wild ∉ p) : Matches wild p t ↔ t = p := by
  have hp : ∀ c ∈ p, c ≠ wild := fun c hc hwild => h (hwild ▸ hc)
  have hmatch := matches_literals_iff (p := []) (t := t) hp
  rw [List.append_nil] at hmatch
  rw [hmatch]
  constructor
  · intro h
    obtain ⟨v, rfl, rfl⟩ := h
    exact List.append_nil p
  · intro ht
    exact ⟨[], by rw [ht, List.append_nil], rfl⟩

/-- A match that starts later in the text, after the same literals up to the next wildcard, is one
    that this wildcard finds. -/
theorem Matches.of_later {v : List α} (hq : ∀ c ∈ q, c ≠ wild) (hv : v <:+ q ++ t)
    (h : Matches wild (q ++ wild :: p) v) : Matches wild (wild :: p) t := by
  obtain ⟨w, rfl, hw⟩ := (matches_literals_iff hq).mp h
  obtain ⟨a, b, rfl, hb⟩ := matches_wildcard_iff.mp hw
  have hlength : b.length ≤ t.length := by
    have hle := hv.length_le
    simp only [List.length_append] at hle
    omega
  -- what the wildcard leaves of the later match is a rest of this text
  have hsuffix : b <:+ q ++ t :=
    ((List.suffix_append a b).trans (List.suffix_append q _)).trans hv
  obtain ⟨u, rfl⟩ := List.suffix_of_suffix_length_le hsuffix (List.suffix_append q t) hlength
  exact matches_wildcard_iff.mpr ⟨u, b, rfl, hb⟩

/-! ### Falling back -/

/-- What the text still to come was reached by: since the last wildcard, only literals. -/
def Reached (wild : α) (p t : List α) : Option (List α × List α) → Prop
  | none => True
  | some (sp, st) => ∃ q, (∀ c ∈ q, c ≠ wild) ∧ sp = q ++ p ∧ st = q ++ t

/-- The last wildcard can still absorb at least one more symbol. -/
def CanRetry (wild : α) : Option (List α × List α) → Prop
  | none => False
  | some (sp, st) => ∃ c v w, st = c :: v ∧ w <:+ v ∧ Matches wild sp w

/-- There is nothing left for the last wildcard, or there is none. -/
theorem not_canRetry_of_exhausted {star : Option (List α × List α)}
    (h : ∀ sp x st, star ≠ some (sp, x :: st)) : ¬ CanRetry wild star := by
  rcases star with _ | ⟨sp, _ | ⟨x, st⟩⟩
  · exact id
  · simp [CanRetry]
  · exact absurd rfl (h sp x st)

/-- A star may take one character more, or stay as it is. -/
theorem canRetry_cons {sp st : List α} {c : α} :
    CanRetry wild (some (sp, c :: st)) ↔
      Matches wild sp st ∨ CanRetry wild (some (sp, st)) := by
  simp only [CanRetry, List.cons.injEq]
  constructor
  · rintro ⟨_, v, w, ⟨rfl, rfl⟩, hw, h⟩
    cases st with
    | nil => exact .inl (by rwa [List.suffix_nil.mp hw] at h)
    | cons d st =>
      rcases List.suffix_cons_iff.mp hw with rfl | hw
      · exact .inl h
      · exact .inr ⟨d, st, w, rfl, hw, h⟩
  · rintro (h | ⟨d, v, w, rfl, hw, h⟩)
    · exact ⟨c, st, st, ⟨rfl, rfl⟩, List.suffix_refl st, h⟩
    · exact ⟨c, d :: v, w, ⟨rfl, rfl⟩, hw.trans (List.suffix_cons d v), h⟩

/-- At the end of the text an earlier match of the same literals would be too short. -/
theorem not_canRetry_of_reached_nil {star : Option (List α × List α)}
    (h : Reached wild p [] star) : ¬ CanRetry wild star := by
  rcases star with _ | ⟨sp, st⟩
  · exact id
  · obtain ⟨q, hq, rfl, rfl⟩ := h
    rintro ⟨c, v, w, hcv, hw, hmatch⟩
    obtain ⟨x, rfl, -⟩ := (matches_literals_iff hq).mp hmatch
    have hle := hw.length_le
    have hlength := congrArg List.length hcv
    simp only [List.length_append, List.length_cons, List.length_nil] at hle hlength
    omega

/-- A wildcard does all that the one before it could. -/
theorem canRetry_of_reached_wildcard {star : Option (List α × List α)}
    (h : Reached wild (wild :: p) t star) (hretry : CanRetry wild star) :
    Matches wild (wild :: p) t := by
  rcases star with _ | ⟨sp, st⟩
  · exact hretry.elim
  · obtain ⟨q, hq, rfl, rfl⟩ := h
    obtain ⟨c, v, w, hcv, hw, hmatch⟩ := hretry
    exact hmatch.of_later hq (hcv ▸ hw.trans (List.suffix_cons c v))

/-- A literal that matches takes the star's progress along. -/
theorem reached_literal {star : Option (List α × List α)} {c : α} (hc : c ≠ wild)
    (h : Reached wild (c :: p) (c :: t) star) : Reached wild p t star := by
  rcases star with _ | ⟨sp, st⟩
  · trivial
  · obtain ⟨q, hq, rfl, rfl⟩ := h
    refine ⟨q ++ [c], ?_, by simp, by simp⟩
    simp only [List.forall_mem_append, List.forall_mem_singleton]
    exact ⟨hq, hc⟩

/-- At a star nothing has been taken yet. -/
theorem reached_refl (p t : List α) : Reached wild p t (some (p, t)) := ⟨[], by simp, rfl, rfl⟩

/-- A fresh wildcard matches now, or after absorbing some of the text. -/
theorem matches_wildcard_iff_canRetry :
    Matches wild (wild :: p) t ↔ Matches wild p t ∨ CanRetry wild (some (p, t)) := by
  rw [matches_wildcard_iff]
  constructor
  · rintro ⟨u, v, rfl, h⟩
    cases u with
    | nil => exact .inl h
    | cons c u => exact .inr ⟨c, u ++ v, v, rfl, List.suffix_append u v, h⟩
  · rintro (h | ⟨c, v, w, rfl, ⟨u, rfl⟩, h⟩)
    · exact ⟨[], t, rfl, h⟩
    · exact ⟨c :: u, w, rfl, h⟩

/-! ### The matcher -/

variable [DecidableEq α]

/-- One pass over the rest `p` of the pattern and the rest `t` of the text.  `star` is the last
    wildcard seen: the pattern after it, and the text it was last tried at. -/
def run (wild : α) (p t : List α) (star : Option (List α × List α)) : Bool :=
  match t with
  | [] => p.all (· = wild)
  | c :: t' =>
    match p with
    | d :: p' =>
      if d = wild then run wild p' (c :: t') (some (p', c :: t'))
      else if d = c then run wild p' t' star
      else
        match star with
        | some (sp, _ :: st) => run wild sp st (some (sp, st))
        | _ => false
    | [] =>
      match star with
      | some (sp, _ :: st) => run wild sp st (some (sp, st))
      | _ => false
  termination_by (max t.length (star.elim 0 fun s => s.2.length), p.length)
  decreasing_by
    all_goals simp only [Prod.lex_def, Option.elim, List.length_cons]
    all_goals omega

section Cases

variable {c : α} {star : Option (List α × List α)}

/-- At the end of the text only wildcards may be left. -/
theorem run_nil : run wild p [] star = p.all (· = wild) := by
  rw [run.eq_def]

/-- At a wildcard the loop notes where it is. -/
theorem run_wildcard :
    run wild (wild :: p) (c :: t) star = run wild p (c :: t) (some (p, c :: t)) := by
  rw [run.eq_def]
  simp only [if_pos]

/-- At a matching literal the loop goes on in both strings. -/
theorem run_literal (hc : c ≠ wild) :
    run wild (c :: p) (c :: t) star = run wild p t star := by
  rw [run.eq_def]
  simp only [if_neg hc, if_pos]

/-- The last wildcard absorbs one symbol more where the pattern has nothing for the next one. -/
theorem run_mismatch (h : ∀ d ∈ p.head?, d ≠ wild ∧ d ≠ c) (sp st : List α) (x : α) :
    run wild p (c :: t) none = false ∧
      run wild p (c :: t) (some (sp, x :: st)) = run wild sp st (some (sp, st)) := by
  cases p with
  | nil => exact ⟨by rw [run.eq_def], by rw [run.eq_def]⟩
  | cons d p =>
    obtain ⟨hwild, hc⟩ := h d rfl
    constructor
    · rw [run.eq_def]
      simp only [if_neg hwild, if_neg hc]
    · rw [run.eq_def]
      simp only [if_neg hwild, if_neg hc]

end Cases

/-- From a state it can be in, the loop succeeds when what is left matches or a retry does. -/
theorem run_iff_of_reached {star : Option (List α × List α)} (h : Reached wild p t star) :
    run wild p t star = true ↔ Matches wild p t ∨ CanRetry wild star := by
  fun_induction run wild p t star with
  | case1 p star =>
    -- the text is over
    rw [matches_nil_iff, or_iff_left (not_canRetry_of_reached_nil h)]
    simp
  | case2 star c t' p' ih =>
    -- a wildcard replaces the one before it
    rw [ih (reached_refl _ _), ← matches_wildcard_iff_canRetry]
    exact (or_iff_left_of_imp (canRetry_of_reached_wildcard h)).symm
  | case3 star t' d p' hd ih =>
    -- a literal that fits
    rw [ih (reached_literal hd h), matches_literal_iff hd]
    simp
  | case4 c t' d p' hd hdc sp x st ih =>
    -- one that does not: the last wildcard absorbs one symbol more
    rw [ih (reached_refl _ _), matches_literal_iff hd, canRetry_cons]
    simp [Ne.symm hdc]
  | case5 star c t' d p' hd hdc hstar =>
    -- and there is no wildcard, or nothing left for it
    simp [matches_literal_iff hd, Ne.symm hdc, not_canRetry_of_exhausted hstar]
  | case6 c t' sp x st ih =>
    -- the pattern is over, the text is not
    rw [ih (reached_refl _ _), canRetry_cons]
    simp [Matches]
  | case7 star c t' hstar =>
    simp [Matches, not_canRetry_of_exhausted hstar]

/-- **The greedy matcher is exact.** -/
theorem run_iff : run wild p t none = true ↔ Matches wild p t := by
  have h : Reached wild p t none := trivial
  rw [run_iff_of_reached h]
  exact or_iff_left id

/-! ### Filling in -/

/-- The pattern with its wildcards replaced, in order, by the given sequences. -/
def fill (wild : α) : List α → List (List α) → List α
  | [], _ => []
  | c :: p, us => if c = wild then us.headD [] ++ fill wild p us.tail else c :: fill wild p us

/-- A match is a filling of the wildcards. -/
theorem matches_iff_fill :
    Matches wild p t ↔ ∃ us : List (List α), us.length = p.count wild ∧ t = fill wild p us := by
  induction p generalizing t with
  | nil =>
    constructor
    · intro h
      exact ⟨[], rfl, h⟩
    · intro h
      obtain ⟨us, -, ht⟩ := h
      exact ht
  | cons c p ih =>
    by_cases hc : c = wild
    · subst hc
      rw [matches_wildcard_iff, List.count_cons_self]
      simp only [fill, if_pos]
      constructor
      · intro h
        -- what the first wildcard stands for, and the others in the rest
        obtain ⟨u, v, rfl, hv⟩ := h
        obtain ⟨us, hlength, rfl⟩ := ih.mp hv
        exact ⟨u :: us, by rw [List.length_cons, hlength], rfl⟩
      · intro h
        obtain ⟨us, hlength, rfl⟩ := h
        refine ⟨us.headD [], _, rfl, ih.mpr ⟨us.tail, ?_, rfl⟩⟩
        rw [List.length_tail, hlength]
        rfl
    · rw [matches_literal_iff hc, List.count_cons_of_ne hc]
      simp only [fill, if_neg hc]
      constructor
      · intro h
        obtain ⟨v, rfl, hv⟩ := h
        obtain ⟨us, hlength, rfl⟩ := ih.mp hv
        exact ⟨us, hlength, rfl⟩
      · intro h
        obtain ⟨us, hlength, rfl⟩ := h
        exact ⟨_, rfl, ih.mpr ⟨us, hlength, rfl⟩⟩

/-! ### Text and its bytes -/

section Utf8

variable {star : Char} {b : UInt8}

/-- Characters that match do so as bytes. -/
theorem matches_utf8_of_matches (hstar : String.utf8EncodeChar star = [b]) {p t : Str}
    (h : Matches star p t) : Matches b (utf8 p) (utf8 t) := by
  induction p generalizing t with
  | nil =>
    obtain rfl : t = [] := h
    rfl
  | cons c p ih =>
    rw [utf8_cons]
    by_cases hc : c = star
    · subst hc
      obtain ⟨u, v, rfl, hv⟩ := matches_wildcard_iff.mp h
      rw [hstar, List.singleton_append, utf8_append]
      exact matches_wildcard_iff.mpr ⟨utf8 u, utf8 v, rfl, ih hv⟩
    · -- a literal's bytes are none of them the wildcard's
      obtain ⟨v, rfl, hv⟩ := (matches_literal_iff hc).mp h
      have hliteral : ∀ a ∈ String.utf8EncodeChar c, a ≠ b := by
        intro a ha hab
        exact hc (mem_utf8EncodeChar hstar (hab ▸ ha))
      exact (matches_literals_iff hliteral).mpr ⟨utf8 v, utf8_cons c v, ih hv⟩

/-- A match of the bytes is one of the text; a match that starts inside the text's bytes can be
    had from a character on: either it starts with a character, or with a wildcard. -/
theorem matches_of_matches_utf8 (hstar : String.utf8EncodeChar star = [b]) {p : Str} :
    (∀ t, Matches b (utf8 p) (utf8 t) → Matches star p t) ∧
      ∀ t u v, utf8 t = u ++ v → Matches b (utf8 p) v → Matches star (star :: p) t := by
  induction p with
  | nil =>
    constructor
    · intro t h
      have ht : utf8 t = utf8 [] := h
      exact utf8_injective ht
    · intro t u v ht h
      exact matches_wildcard_iff.mpr ⟨t, [], (List.append_nil t).symm, rfl⟩
  | cons c p ih =>
    obtain ⟨ihwhole, ihlater⟩ := ih
    by_cases hc : c = star
    · subst hc
      have hcons : utf8 (c :: p) = b :: utf8 p := by rw [utf8_cons, hstar]; rfl
      rw [hcons]
      constructor
      · intro t h
        obtain ⟨u, v, ht, hv⟩ := matches_wildcard_iff.mp h
        exact ihlater t u v ht hv
      · intro t u v ht h
        -- two wildcards in a row: the first takes nothing
        obtain ⟨u', v', rfl, hv⟩ := matches_wildcard_iff.mp h
        have hmatch := ihlater t (u ++ u') v' (by rw [ht, List.append_assoc]) hv
        exact matches_wildcard_iff.mpr ⟨[], t, rfl, hmatch⟩
    · have hliteral : ∀ a ∈ String.utf8EncodeChar c, a ≠ b := by
        intro a ha hab
        exact hc (mem_utf8EncodeChar hstar (hab ▸ ha))
      have hwhole (t : Str) (h : Matches b (utf8 (c :: p)) (utf8 t)) : Matches star (c :: p) t := by
        obtain ⟨v, ht, hv⟩ := (matches_literals_iff hliteral).mp h
        cases t with
        | nil => simp [String.utf8EncodeChar_ne_nil] at ht
        | cons d t =>
          obtain ⟨rfl, rfl⟩ := utf8EncodeChar_append_inj ht
          exact (matches_literal_iff hc).mpr ⟨t, rfl, ihwhole t hv⟩
      refine ⟨hwhole, ?_⟩
      intro t u v ht h
      obtain ⟨w, rfl, hw⟩ := (matches_literals_iff hliteral).mp h
      -- the literal starts where a character of the text does
      obtain ⟨a, rest, ha, hfirst⟩ := exists_utf8EncodeChar c
      rw [ha, List.cons_append] at ht
      obtain ⟨t₁, t₂, rfl, -, ht₂⟩ := utf8_eq_append hfirst ht
      refine matches_wildcard_iff.mpr ⟨t₁, t₂, rfl, hwhole t₂ ?_⟩
      rw [← ht₂, ← List.cons_append, ← ha]
      exact h

/-- **Bytes and characters agree.** -/
theorem matches_utf8_iff (hstar : String.utf8EncodeChar star = [b]) {p t : Str} :
    Matches b (utf8 p) (utf8 t) ↔ Matches star p t :=
  ⟨(matches_of_matches_utf8 hstar).1 t, matches_utf8_of_matches hstar⟩

end Utf8

end Wire.Glob
