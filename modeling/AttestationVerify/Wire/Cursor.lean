import AttestationVerify.Wire.Text

namespace Wire.Cursor

/-!
# Readers over a cursor

A reader takes some of the bytes still to come and fails otherwise, with one of its own errors.

* `Decodes` — a reader takes exactly the encodings of the values it can return;
* `Decodes.flatMap_inj` — so that a row of encodings has one reading;
* `readAll` — the reader of bytes that are one encoding, with nothing after it;
* `takeExactly` — the bytes of a length known before;
* `FailsOnly` — a reader has one error.
-/

variable {ε α β : Type}

/-- A reader of bytes, which leaves the ones it did not take. -/
abbrev Reader (ε α : Type) := StateT Bytes (Except ε) α

/-- `r` returns `a` after exactly `enc a`, for the values that `fits` allows and no others. -/
def Decodes (r : Reader ε α) (enc : α → Bytes) (fits : α → Prop) : Prop :=
  ∀ cursor a rest, r cursor = .ok (a, rest) ↔ fits a ∧ cursor = enc a ++ rest

/-- The one error a reader has. -/
def FailsOnly (r : Reader ε α) (e : ε) : Prop := ∀ cursor e', r cursor = .error e' → e' = e

/-- A value already there takes no bytes. -/
theorem pure_apply_eq_ok {a b : α} {cursor rest : Bytes} :
    (pure a : Reader ε α) cursor = .ok (b, rest) ↔ a = b ∧ cursor = rest := by
  show Except.ok (a, cursor) = .ok (b, rest) ↔ _
  rw [Except.ok.injEq, Prod.mk.injEq]

/-- A check takes no bytes. -/
theorem lift_apply_eq_ok {x : Except ε α} {a : α} {cursor rest : Bytes} :
    (liftM x : Reader ε α) cursor = .ok (a, rest) ↔ x = .ok a ∧ cursor = rest := by
  cases x with
  | error e =>
    show Except.error e = Except.ok (a, rest) ↔ _
    simp
  | ok b =>
    show Except.ok (b, cursor) = Except.ok (a, rest) ↔ _
    simp

/-- Two readers in turn succeed with a cursor between them. -/
theorem bind_apply_eq_ok {r : Reader ε α} {k : α → Reader ε β} {cursor rest : Bytes} {b : β} :
    (r >>= k) cursor = .ok (b, rest) ↔
      ∃ a cursor', r cursor = .ok (a, cursor') ∧ k a cursor' = .ok (b, rest) := by
  show (r cursor >>= fun p => k p.1 p.2) = _ ↔ _
  cases hr : r cursor with
  | error e =>
    show Except.error e = Except.ok (b, rest) ↔ _
    simp
  | ok p =>
    show k p.1 p.2 = _ ↔ _
    constructor
    · intro h
      exact ⟨p.1, p.2, rfl, h⟩
    · rintro ⟨a, cursor', hp, h⟩
      obtain rfl : p = (a, cursor') := Except.ok.inj hp
      exact h

/-- A decoder in front takes the encoding of what it returns. -/
theorem Decodes.bind_eq_ok {r : Reader ε α} {enc : α → Bytes} {fits : α → Prop}
    (h : Decodes r enc fits) {k : α → Reader ε β} {cursor rest : Bytes} {b : β} :
    (r >>= k) cursor = .ok (b, rest) ↔
      ∃ a, fits a ∧ ∃ cursor', cursor = enc a ++ cursor' ∧ k a cursor' = .ok (b, rest) := by
  rw [bind_apply_eq_ok]
  constructor
  · rintro ⟨a, cursor', hr, hk⟩
    obtain ⟨hfits, rfl⟩ := (h cursor a cursor').mp hr
    exact ⟨a, hfits, cursor', rfl, hk⟩
  · rintro ⟨a, hfits, cursor', rfl, hk⟩
    exact ⟨a, cursor', (h _ a cursor').mpr ⟨hfits, rfl⟩, hk⟩

/-- An encoding ends where the reader stops: what follows it is determined. -/
theorem Decodes.append_inj {r : Reader ε α} {enc : α → Bytes} {fits : α → Prop}
    (h : Decodes r enc fits) {a b : α} {rest rest' : Bytes} (ha : fits a) (hb : fits b)
    (heq : enc a ++ rest = enc b ++ rest') : a = b ∧ rest = rest' := by
  have hleft : r (enc a ++ rest) = .ok (a, rest) := (h _ a rest).mpr ⟨ha, rfl⟩
  have hright : r (enc a ++ rest) = .ok (b, rest') := (h _ b rest').mpr ⟨hb, heq⟩
  rw [hleft] at hright
  exact Prod.mk.inj (Except.ok.inj hright)

/-- Encodings in a row are told apart, when none of them is empty. -/
theorem Decodes.flatMap_inj {r : Reader ε α} {enc : α → Bytes} {fits : α → Prop}
    (h : Decodes r enc fits) (hne : ∀ a, enc a ≠ []) {as bs : List α}
    (has : ∀ a ∈ as, fits a) (hbs : ∀ b ∈ bs, fits b) (heq : as.flatMap enc = bs.flatMap enc) :
    as = bs := by
  induction as generalizing bs with
  | nil =>
    cases bs with
    | nil => rfl
    | cons b bs =>
      rw [List.flatMap_nil, List.flatMap_cons] at heq
      exact absurd (List.append_eq_nil_iff.mp heq.symm).1 (hne b)
  | cons a as ih =>
    cases bs with
    | nil =>
      rw [List.flatMap_nil, List.flatMap_cons] at heq
      exact absurd (List.append_eq_nil_iff.mp heq).1 (hne a)
    | cons b bs =>
      obtain ⟨ha, has'⟩ := List.forall_mem_cons.mp has
      obtain ⟨hb, hbs'⟩ := List.forall_mem_cons.mp hbs
      rw [List.flatMap_cons, List.flatMap_cons] at heq
      obtain ⟨hab, hrest⟩ := h.append_inj ha hb heq
      rw [hab, ih has' hbs' hrest]

/-- A reader run over all of the bytes. -/
def readAll (r : Reader ε α) (bytes : Bytes) : Option α :=
  match r bytes with
  | .ok (a, []) => some a
  | _ => none

/-- A decoder takes all of the bytes when they are one encoding. -/
theorem Decodes.readAll_eq_some {r : Reader ε α} {enc : α → Bytes} {fits : α → Prop}
    (h : Decodes r enc fits) {bytes : Bytes} {a : α} :
    readAll r bytes = some a ↔ fits a ∧ enc a = bytes := by
  have hreads := h bytes a []
  rw [List.append_nil] at hreads
  rw [eq_comm (a := enc a), ← hreads, readAll]
  -- the reader succeeds with nothing left, or the whole is not one encoding
  split
  · rename_i hread
    rw [hread]
    simp
  · rename_i hread
    simp only [reduceCtorEq, false_iff]
    exact hread a

/-- The next `n` bytes. -/
def takeExactly (e : ε) (n : ℕ) : Reader ε Bytes := fun cursor =>
  if cursor.length < n then .error e else .ok (cursor.splitAt n)

/-- As many bytes as asked for stand for themselves. -/
theorem decodes_takeExactly (e : ε) (n : ℕ) :
    Decodes (takeExactly e n) id fun b => b.length = n := by
  intro cursor b rest
  unfold takeExactly
  constructor
  · intro h
    split at h
    · cases h
    · rw [List.splitAt_eq, Except.ok.injEq, Prod.mk.injEq] at h
      obtain ⟨rfl, rfl⟩ := h
      exact ⟨List.length_take_of_le (by omega), (List.take_append_drop n cursor).symm⟩
  · intro h
    obtain ⟨rfl, rfl⟩ := h
    simp [List.splitAt_eq]

/-- A value already there has no error. -/
theorem FailsOnly.pure (a : α) (e : ε) : FailsOnly (Pure.pure a : Reader ε α) e :=
  fun _ _ h => nomatch h

/-- A check has its own error only. -/
theorem FailsOnly.lift {x : Except ε α} {e : ε} (h : ∀ e', x = .error e' → e' = e) :
    FailsOnly (liftM x : Reader ε α) e := by
  intro cursor e' hx
  cases x with
  | error e₁ => exact h e' (congrArg Except.error (Except.error.inj hx))
  | ok a => exact nomatch hx

/-- Two readers with one error have that one in turn. -/
theorem FailsOnly.bind {r : Reader ε α} {k : α → Reader ε β} {e : ε} (hr : FailsOnly r e)
    (hk : ∀ a, FailsOnly (k a) e) : FailsOnly (r >>= k) e := by
  intro cursor e' h
  change (r cursor >>= fun p => k p.1 p.2) = _ at h
  cases hcursor : r cursor with
  | error e₁ =>
    rw [hcursor] at h
    obtain rfl : e₁ = e' := Except.error.inj h
    exact hr cursor _ hcursor
  | ok p =>
    rw [hcursor] at h
    exact hk p.1 p.2 e' h

end Wire.Cursor
