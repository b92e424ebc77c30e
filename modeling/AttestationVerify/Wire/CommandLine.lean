import AttestationVerify.Wire.Outcome

namespace Wire.CommandLine

/-!
# Command lines

A loop over the arguments that takes them one after the other: an option takes the argument after
it for its value, whatever that looks like, and any other argument is a word of its own.

* `Reader.run` — the loop, with the state it fills;
* `Reader.lex` — how the arguments divide into items, whatever the state;
* `Reader.lex_eq_iff` — the division is the one of which the arguments are a spelling;
* `Reader.run_eq` — the loop is a fold over the items, and then looks at an option left without
  a value;
* `Reader.run_eq_ok`, `Reader.run_eq_error` — what it accepts and what it reports.
-/

variable {α φ σ ε : Type}

/-- What a program makes of its arguments. -/
structure Reader (α φ σ ε : Type) where
  /-- The option with a value that an argument is. -/
  option : α → Option φ
  text : φ → α
  option_eq_some : ∀ a f, option a = some f ↔ a = text f
  value : φ → α → σ → Except ε σ
  missing : φ → ε
  word : α → σ → Except ε σ

/-- The options of a table, each under a text of its own. -/
def optionOf [DecidableEq α] (all : List φ) (text : φ → α) (a : α) : Option φ :=
  all.find? fun f => a = text f

/-- A text is looked up to the one option it is the text of. -/
theorem optionOf_eq_some [DecidableEq α] {all : List φ} {text : φ → α} (hall : ∀ f, f ∈ all)
    (htext : Function.Injective text) (a : α) (f : φ) :
    optionOf all text a = some f ↔ a = text f := by
  constructor
  · intro h
    exact of_decide_eq_true (List.find?_some (p := fun f => decide (a = text f)) h)
  · rintro rfl
    cases hfind : optionOf all text (text f) with
    | none =>
      have hnot := List.find?_eq_none.mp hfind f (hall f)
      exact absurd (decide_eq_true rfl) hnot
    | some g =>
      have hg : text f = text g :=
        of_decide_eq_true (List.find?_some (p := fun g => decide (text f = text g)) hfind)
      rw [htext hg]

/-- One item of a command line. -/
inductive Item (α φ : Type)
  | value (option : φ) (v : α)
  | word (a : α)

namespace Reader

variable (r : Reader α φ σ ε)

/-- `while let Some(argument) = args.next()`. -/
def run : List α → σ → Except ε σ
  | [], s => .ok s
  | a :: args, s =>
    match r.option a with
    | none => do
      let s ← r.word a s
      run args s
    | some f =>
      match args with
      | [] => .error (r.missing f)
      | v :: args => do
        let s ← r.value f v s
        run args s

/-! ### Items -/

/-- The items of a command line, and the option at its end that has no value. -/
def lex : List α → List (Item α φ) × Option φ
  | [] => ([], none)
  | a :: args =>
    match r.option a with
    | none => ((lex args).map (.word a :: ·) id)
    | some f =>
      match args with
      | [] => ([], some f)
      | v :: args => ((lex args).map (.value f v :: ·) id)

/-- The arguments an item is written as. -/
def spell : Item α φ → List α
  | .value f v => [r.text f, v]
  | .word a => [a]

/-- A word that could be read as an option is none. -/
def IsItem : Item α φ → Prop
  | .value _ _ => True
  | .word a => r.option a = none

/-- What an item does to the state. -/
def step (s : σ) : Item α φ → Except ε σ
  | .value f v => r.value f v s
  | .word a => r.word a s

/-- An option left without a value fails the run. -/
def finish (s : σ) : Option φ → Except ε σ
  | none => .ok s
  | some f => .error (r.missing f)

variable {r}

/-- An option's own text is that option. -/
theorem option_text (f : φ) : r.option (r.text f) = some f := (r.option_eq_some _ f).mpr rfl

/-- An item in front is the first one found. -/
theorem lex_spell {item : Item α φ} (h : r.IsItem item) (args : List α) :
    r.lex (r.spell item ++ args) = (r.lex args).map (item :: ·) id := by
  cases item with
  | value f v =>
    show r.lex (r.text f :: v :: args) = _
    rw [lex, option_text]
  | word a =>
    have hnone : r.option a = none := h
    show r.lex (a :: args) = _
    rw [lex, hnone]

/-- A command line divides in one way. -/
theorem lex_eq_iff {args : List α} {items : List (Item α φ)} {rest : Option φ} :
    r.lex args = (items, rest) ↔
      args = items.flatMap r.spell ++ (rest.map r.text).toList ∧ ∀ i ∈ items, r.IsItem i := by
  constructor
  · intro h
    -- the loop's own recursion: an option takes two arguments at once
    induction args using lex.induct r generalizing items rest with
    | case1 =>
      obtain ⟨rfl, rfl⟩ := Prod.mk.inj h
      exact ⟨rfl, by simp⟩
    | case2 a args hword ih =>
      rw [lex, hword] at h
      obtain ⟨rfl, rfl⟩ := Prod.mk.inj h
      obtain ⟨hargs, hitems⟩ := ih rfl
      exact ⟨congrArg (a :: ·) hargs, List.forall_mem_cons.mpr ⟨hword, hitems⟩⟩
    | case3 a f hoption =>
      rw [lex, hoption] at h
      obtain ⟨rfl, rfl⟩ := Prod.mk.inj h
      rw [(r.option_eq_some a f).mp hoption]
      exact ⟨rfl, by simp⟩
    | case4 a f hoption v args ih =>
      rw [lex, hoption] at h
      obtain ⟨rfl, rfl⟩ := Prod.mk.inj h
      obtain ⟨hargs, hitems⟩ := ih rfl
      rw [(r.option_eq_some a f).mp hoption]
      exact ⟨congrArg (r.text f :: v :: ·) hargs, List.forall_mem_cons.mpr ⟨trivial, hitems⟩⟩
  · rintro ⟨rfl, hitems⟩
    induction items with
    | nil =>
      cases rest with
      | none => rfl
      | some f =>
        show r.lex [r.text f] = _
        rw [lex, option_text]
    | cons item items ih =>
      obtain ⟨hitem, hitems⟩ := List.forall_mem_cons.mp hitems
      rw [List.flatMap_cons, List.append_assoc, lex_spell hitem, ih hitems]
      rfl

/-! ### The loop -/

/-- A run over an item in front does that item and goes on. -/
theorem run_spell {item : Item α φ} (h : r.IsItem item) (args : List α) (s : σ) :
    r.run (r.spell item ++ args) s = r.step s item >>= r.run args := by
  cases item with
  | value f v =>
    show r.run (r.text f :: v :: args) s = _
    rw [run, option_text]
    rfl
  | word a =>
    have hnone : r.option a = none := h
    show r.run (a :: args) s = _
    rw [run, hnone]
    rfl

/-- What comes after items is met in the state they leave. -/
theorem run_items {items : List (Item α φ)} (hitems : ∀ i ∈ items, r.IsItem i) {s t : σ}
    (hfold : items.foldlM r.step s = .ok t) (after : List α) :
    r.run (items.flatMap r.spell ++ after) s = r.run after t := by
  induction items generalizing s with
  | nil =>
    rw [Except.ok.inj hfold]
    rfl
  | cons item items ih =>
    obtain ⟨hitem, hitems⟩ := List.forall_mem_cons.mp hitems
    rw [List.foldlM_cons] at hfold
    obtain ⟨s', hstep, hfold⟩ := bind_eq_ok.mp hfold
    rw [List.flatMap_cons, List.append_assoc, run_spell hitem, hstep, ok_bind]
    exact ih hitems hfold

/-- A run does the items it finds in turn, and then what the end asks for. -/
theorem run_eq (args : List α) (s : σ) :
    r.run args s = (r.lex args).1.foldlM r.step s >>= fun s => r.finish s (r.lex args).2 := by
  induction args using lex.induct r generalizing s with
  | case1 => rfl
  | case2 a args hword ih =>
    rw [run, lex, hword, Prod.map_fst, Prod.map_snd, List.foldlM_cons, bind_assoc]
    exact congrArg (r.word a s >>= ·) (funext fun s => ih s)
  | case3 a f hoption =>
    rw [run, lex, hoption]
    rfl
  | case4 a f hoption v args ih =>
    rw [run, lex, hoption, Prod.map_fst, Prod.map_snd, List.foldlM_cons, bind_assoc]
    exact congrArg (r.value f v s >>= ·) (funext fun s => ih s)

/-- A run succeeds on the spellings of items that all succeed, one after the other. -/
theorem run_eq_ok {args : List α} {s t : σ} :
    r.run args s = .ok t ↔ ∃ items : List (Item α φ), args = items.flatMap r.spell ∧
      (∀ i ∈ items, r.IsItem i) ∧ items.foldlM r.step s = .ok t := by
  rw [run_eq, bind_eq_ok]
  constructor
  · rintro ⟨t', hfold, hfinish⟩
    cases hrest : (r.lex args).2 with
    | some f =>
      rw [hrest] at hfinish
      cases hfinish
    | none =>
      rw [hrest] at hfinish
      obtain rfl := Except.ok.inj hfinish
      obtain ⟨hargs, hitems⟩ := lex_eq_iff.mp (show r.lex args = ((r.lex args).1, none) from
        Prod.ext rfl hrest)
      exact ⟨(r.lex args).1, by simpa using hargs, hitems, hfold⟩
  · rintro ⟨items, rfl, hitems, hfold⟩
    have hlex : r.lex (items.flatMap r.spell) = (items, none) :=
      lex_eq_iff.mpr ⟨by simp, hitems⟩
    rw [hlex]
    exact ⟨t, hfold, rfl⟩

/-- A run stops at the first item that fails, or at an option at the end that has no value. -/
theorem run_eq_error {args : List α} {s : σ} {e : ε} :
    r.run args s = .error e ↔ ∃ (items : List (Item α φ)) (t : σ) (after : List α),
      args = items.flatMap r.spell ++ after ∧ (∀ i ∈ items, r.IsItem i) ∧
      items.foldlM r.step s = .ok t ∧
      ((∃ f, after = [r.text f] ∧ e = r.missing f) ∨
        ∃ item rest, after = r.spell item ++ rest ∧ r.IsItem item ∧ r.step t item = .error e) := by
  constructor
  · intro h
    induction args using lex.induct r generalizing s with
    | case1 => cases h
    | case2 a args hword ih =>
      rw [run, hword] at h
      rcases bind_eq_error.mp h with hfails | ⟨s', hstep, hrun⟩
      · exact ⟨[], s, a :: args, rfl, by simp, rfl, .inr ⟨.word a, args, rfl, hword, hfails⟩⟩
      · obtain ⟨items, t, after, rfl, hitems, hfold, hafter⟩ := ih hrun
        refine ⟨.word a :: items, t, after, rfl, List.forall_mem_cons.mpr ⟨hword, hitems⟩, ?_,
          hafter⟩
        rw [List.foldlM_cons]
        exact bind_eq_ok.mpr ⟨s', hstep, hfold⟩
    | case3 a f hoption =>
      rw [run, hoption] at h
      rw [(r.option_eq_some a f).mp hoption]
      exact ⟨[], s, _, rfl, by simp, rfl, .inl ⟨f, rfl, (Except.error.inj h).symm⟩⟩
    | case4 a f hoption v args ih =>
      rw [run, hoption] at h
      rw [(r.option_eq_some a f).mp hoption]
      rcases bind_eq_error.mp h with hfails | ⟨s', hstep, hrun⟩
      · exact ⟨[], s, _, rfl, by simp, rfl, .inr ⟨.value f v, args, rfl, trivial, hfails⟩⟩
      · obtain ⟨items, t, after, rfl, hitems, hfold, hafter⟩ := ih hrun
        refine ⟨.value f v :: items, t, after, rfl, List.forall_mem_cons.mpr ⟨trivial, hitems⟩, ?_,
          hafter⟩
        rw [List.foldlM_cons]
        exact bind_eq_ok.mpr ⟨s', hstep, hfold⟩
  · intro h
    obtain ⟨items, t, after, rfl, hitems, hfold, hafter⟩ := h
    rw [run_items hitems hfold]
    rcases hafter with ⟨f, rfl, rfl⟩ | ⟨item, rest, rfl, hitem, hfails⟩
    · rw [run, option_text]
    · rw [run_spell hitem, hfails]
      rfl

end Reader

end Wire.CommandLine
