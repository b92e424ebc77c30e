import AttestationVerify.Wire.Glob

namespace Wire.Glob

/-!
# Patterns in order

A pattern can be read as a text, its wildcards as one more letter.  What it is matched by then are
the patterns that stand for at least as much.

* `matches_append_iff` — patterns one after the other;
* `Matches.trans`, `matches_refl` — matching is a preorder on patterns;
* `covers_iff` — it is inclusion, as long as one letter is left out of the larger pattern.
-/

variable {α : Type} {wild c : α} {p q t : List α}

/-- `q` stands for every text that `p` stands for. -/
def Covers (wild : α) (p q : List α) : Prop := ∀ t, Matches wild p t → Matches wild q t

/-- Two patterns in a row match two texts in a row. -/
theorem matches_append_iff :
    Matches wild (p ++ q) t ↔ ∃ u v, t = u ++ v ∧ Matches wild p u ∧ Matches wild q v := by
  induction p generalizing t with
  | nil =>
    constructor
    · intro h
      exact ⟨[], t, rfl, rfl, h⟩
    · rintro ⟨u, v, rfl, rfl, h⟩
      exact h
  | cons c p ih =>
    rw [List.cons_append]
    by_cases hc : c = wild
    · subst hc
      simp only [matches_wildcard_iff, ih]
      constructor
      · rintro ⟨u, _, rfl, v, w, rfl, hv, hw⟩
        exact ⟨u ++ v, w, (List.append_assoc _ _ _).symm, ⟨u, v, rfl, hv⟩, hw⟩
      · rintro ⟨_, w, rfl, ⟨u, v, rfl, hv⟩, hw⟩
        exact ⟨u, v ++ w, List.append_assoc _ _ _, v, w, rfl, hv, hw⟩
    · simp only [matches_literal_iff hc, ih]
      constructor
      · rintro ⟨_, rfl, v, w, rfl, hv, hw⟩
        exact ⟨c :: v, w, rfl, ⟨v, rfl, hv⟩, hw⟩
      · rintro ⟨_, w, rfl, ⟨v, rfl, hv⟩, hw⟩
        exact ⟨v ++ w, rfl, v, w, rfl, hv, hw⟩

/-- A pattern, read as a text, matches itself. -/
theorem matches_refl (p : List α) : Matches wild p p := by
  induction p with
  | nil => rfl
  | cons c p ih =>
    by_cases hc : c = wild
    · subst hc
      exact matches_wildcard_iff.mpr ⟨[c], p, rfl, ih⟩
    · exact (matches_literal_iff hc).mpr ⟨p, rfl, ih⟩

/-- What a wildcard of `q` takes of `p` it takes of every text of `p`. -/
theorem Matches.trans (hq : Matches wild q p) (hp : Matches wild p t) : Matches wild q t := by
  induction q generalizing p t with
  | nil =>
    obtain rfl : p = [] := hq
    exact hp
  | cons d q ih =>
    by_cases hd : d = wild
    · subst hd
      obtain ⟨u, v, rfl, hv⟩ := matches_wildcard_iff.mp hq
      obtain ⟨u', v', rfl, -, hv'⟩ := matches_append_iff.mp hp
      exact matches_wildcard_iff.mpr ⟨u', v', rfl, ih hv hv'⟩
    · obtain ⟨v, rfl, hv⟩ := (matches_literal_iff hd).mp hq
      obtain ⟨v', rfl, hv'⟩ := (matches_literal_iff hd).mp hp
      exact (matches_literal_iff hd).mpr ⟨v', rfl, ih hv hv'⟩

/-! ### A letter in place of the wildcard -/

variable [DecidableEq α]

/-- Every wildcard replaced by `c`. -/
def ground (wild c : α) (p : List α) : List α := p.map fun x => if x = wild then c else x

/-- A pattern with a character for its wildcards, read as a text, is matched by it. -/
theorem matches_ground (p : List α) : Matches wild p (ground wild c p) := by
  induction p with
  | nil => rfl
  | cons x p ih =>
    by_cases hx : x = wild
    · subst hx
      exact matches_wildcard_iff.mpr ⟨[c], ground x c p, by simp [ground], ih⟩
    · exact (matches_literal_iff hx).mpr ⟨ground wild c p, by simp [ground, hx], ih⟩

/-- A letter that is not in `q` stands in a text of `q` only where a wildcard of `q` takes it. -/
theorem matches_of_ground (hc : c ∉ q) (h : Matches wild q (ground wild c p)) :
    Matches wild q p := by
  induction q generalizing p with
  | nil => exact List.map_eq_nil_iff.mp h
  | cons d q ih =>
    have hcd := List.ne_of_not_mem_cons hc
    have hcq := List.not_mem_of_not_mem_cons hc
    by_cases hd : d = wild
    · subst hd
      obtain ⟨u, v, heq, hv⟩ := matches_wildcard_iff.mp h
      obtain ⟨u', v', rfl, -, rfl⟩ := List.map_eq_append_iff.mp heq
      exact matches_wildcard_iff.mpr ⟨u', v', rfl, ih hcq hv⟩
    · obtain ⟨v, heq, hv⟩ := (matches_literal_iff hd).mp h
      obtain ⟨x, p', rfl, hx, rfl⟩ := List.map_eq_cons_iff.mp heq
      -- the literal is not the letter, so it was in `p` before
      obtain rfl : x = d := by
        by_cases hwild : x = wild
        · rw [if_pos hwild] at hx
          exact absurd hx hcd
        · rwa [if_neg hwild] at hx
      exact (matches_literal_iff hd).mpr ⟨p', rfl, ih hcq hv⟩

/-- **Inclusion is matching.**  A pattern stands for all the texts of another precisely when it
    matches the other as a text. -/
theorem covers_iff (hc : c ∉ q) : Covers wild p q ↔ Matches wild q p :=
  ⟨fun h => matches_of_ground hc (h _ (matches_ground p)), fun hq _ hp => hq.trans hp⟩

/-- A pattern with a wildcard stands for more than one text. -/
theorem not_mem_of_matches_unique {d : α} (hne : c ≠ d)
    (h : ∀ t, Matches wild p t → t = q) : wild ∉ p := by
  intro hmem
  have heq : ground wild c p = ground wild d p :=
    (h _ (matches_ground p)).trans (h _ (matches_ground p)).symm
  have hat := List.map_inj_left.mp heq wild hmem
  rw [if_pos rfl, if_pos rfl] at hat
  exact hne hat

end Wire.Glob
