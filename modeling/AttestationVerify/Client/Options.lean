import AttestationVerify.Client.Conformance

namespace AttestationVerify.Conformance

open Wire Wire.CommandLine Wire.Builder

/-!
# The arguments of the conformance client

The loop of `run_verify` reads a language of its own: `--staging`, options with a value, and one
operand, in any order.

* `Known`, `operand` — the items of that language, and which of them is the artifact's;
* `Options.Given` — what the items say, the last one of a kind counting;
* `options_spec` — the loop accepts exactly the spellings of such items and fills the options with
  what they say; any other command line is refused where it first goes wrong.
-/

/-- A word of the command line, or an option with its value. -/
abbrev Argument := Item Str Flag

/-- The artifact or digest, where an item is that. -/
def operand : Argument → Option Str
  | .value _ _ => none
  | .word a => if a = stagingText then none else some a

/-- No operand starts like an option. -/
def Known (item : Argument) : Prop := ∀ a ∈ operand item, ¬ ['-'] <+: a

/-- What an item that is taken does. -/
def Options.apply (options : Options) : Argument → Options
  | .value flag value => options.set value flag
  | .word a =>
    if a = stagingText then { options with staging := true }
    else { options with artifactOrDigest := some a }

/-- The value of an option. -/
def Options.value (options : Options) : Flag → Option Str
  | .bundle => options.bundlePath
  | .certificateIdentity => options.certificateIdentity
  | .certificateOidcIssuer => options.certificateIssuer
  | .key => options.keyPath
  | .trustedRoot => options.trustedRootPath

/-- The value an item gives an option. -/
def givenValue (flag : Flag) : Argument → Option Str
  | .value f value => if f = flag then some value else none
  | .word _ => none

/-- The options are what the items say, the last value of each option. -/
structure Options.Given (options : Options) (items : List Argument) : Prop where
  staging : options.staging = true ↔ .word stagingText ∈ items
  value : ∀ flag, options.value flag = items.reverse.findSome? (givenValue flag)
  operand : options.artifactOrDigest = items.reverse.findSome? operand

/-- Where a command line goes wrong after items that are taken. -/
inductive Offends (host : Host) (items : List Argument) : List Str → ClientError → Prop
  | missing (flag : Flag) : Offends host items [flag.text] (missingValue flag.text)
  | unknown {a : Str} (rest : List Str) (hdash : ['-'] <+: a) (hstaging : a ≠ stagingText)
      (hflag : ∀ flag : Flag, a ≠ flag.text) :
      Offends host items (a :: rest) (unknownOption host a)
  | extra {a : Str} (rest : List Str) (hdash : ¬ ['-'] <+: a)
      (hoperand : items.filterMap operand ≠ []) :
      Offends host items (a :: rest) (extraOperand host a)

variable {host : Host}

/-! ### One item -/

/-- Every option starts with a dash. -/
theorem flag_dash (flag : Flag) : ['-'] <+: flag.text := by cases flag <;> decide +kernel

/-- The switch starts with a dash too. -/
theorem staging_dash : ['-'] <+: stagingText := by decide +kernel

/-- What is written like no option is none. -/
theorem option_eq_none {a : Str} :
    (reader host).option a = none ↔ ∀ flag : Flag, a ≠ flag.text := by
  constructor
  · rintro h flag rfl
    have hsome : (reader host).option flag.text = some flag :=
      ((reader host).option_eq_some _ flag).mpr rfl
    rw [h] at hsome
    cases hsome
  · intro h
    cases hoption : (reader host).option a with
    | none => rfl
    | some flag => exact absurd (((reader host).option_eq_some a flag).mp hoption) (h flag)

/-- A known item is written so that it is found again. -/
theorem isItem_of_known {item : Argument} (h : Known item) : (reader host).IsItem item := by
  cases item with
  | value flag v => trivial
  | word a =>
    refine option_eq_none.mpr fun flag heq => ?_
    have hstaging : ∀ flag : Flag, flag.text ≠ stagingText := by
      intro flag
      cases flag <;> decide +kernel
    refine h a ?_ (heq ▸ flag_dash flag)
    rw [operand, if_neg (heq ▸ hstaging flag)]
    rfl

/-- An item is taken when it is known and no second operand. -/
theorem step_eq_ok {options options' : Options} {item : Argument} :
    (reader host).step options item = .ok options' ↔
      Known item ∧ (operand item = none ∨ options.artifactOrDigest = none) ∧
        options' = options.apply item := by
  cases item with
  | value flag v =>
    show Except.ok (options.set v flag) = Except.ok options' ↔ _
    rw [Except.ok.injEq, eq_comm]
    simp [Known, operand, Options.apply]
  | word a =>
    show takeWord host a options = .ok options' ↔ _
    unfold takeWord
    split
    · rename_i hstaging
      rw [Except.ok.injEq, eq_comm]
      simp [Known, operand, Options.apply, hstaging]
    · rename_i hstaging
      split
      · rename_i hdash
        simp [Known, operand, hstaging, hdash]
      · rename_i hdash
        split
        · rename_i hnone
          rw [Except.ok.injEq, eq_comm]
          simp [Known, operand, Options.apply, hstaging, hdash, hnone]
        · rename_i hsome
          simp [operand, hstaging, hsome]

/-! ### All items -/

/-- The operand is the last word that is one. -/
theorem sets_operand : Sets Options.apply Options.artifactOrDigest operand := by
  intro options item
  cases item with
  | value flag v => cases flag <;> rfl
  | word a =>
    simp only [Options.apply, operand]
    split <;> rfl

/-- The value of an option is the last one given for it. -/
theorem sets_value (flag : Flag) :
    Sets Options.apply (fun options => options.value flag) (givenValue flag) := by
  intro options item
  cases item with
  | value f v =>
    simp only [Options.apply, givenValue]
    cases f <;> cases flag <;> rfl
  | word a =>
    simp only [Options.apply, givenValue]
    split <;> cases flag <;> rfl

/-- The switch is on when it was, or is among the items. -/
theorem staging_foldl (items : List Argument) (options : Options) :
    (items.foldl Options.apply options).staging = true ↔
      options.staging = true ∨ .word stagingText ∈ items := by
  induction items generalizing options with
  | nil => simp
  | cons item items ih =>
    have hitem : (options.apply item).staging = true ↔
        options.staging = true ∨ item = .word stagingText := by
      cases item with
      | value flag v => cases flag <;> simp [Options.apply, Options.set]
      | word a =>
        simp only [Options.apply]
        split <;> simp_all
    rw [List.foldl_cons, ih, hitem, List.mem_cons, or_assoc, eq_comm (a := item)]

/-- After all items, the options are the ones given. -/
theorem given_foldl (items : List Argument) :
    (items.foldl Options.apply .empty).Given items where
  staging := by
    rw [staging_foldl]
    simp [Options.empty]
  value flag := by
    rw [(sets_value flag).run .empty items]
    cases flag <;> simp [Options.value, Options.empty]
  operand := by
    rw [sets_operand.run .empty items]
    simp [Options.empty]

/-- The items give one set of options. -/
theorem Options.Given.unique {items : List Argument} {options options' : Options}
    (h : options.Given items) (h' : options'.Given items) : options = options' := by
  have hstaging : options.staging = options'.staging :=
    Bool.eq_iff_iff.mpr (h.staging.trans h'.staging.symm)
  have hvalue (flag : Flag) : options.value flag = options'.value flag :=
    (h.value flag).trans (h'.value flag).symm
  have hbundle := hvalue .bundle
  have hidentity := hvalue .certificateIdentity
  have hissuer := hvalue .certificateOidcIssuer
  have hkey := hvalue .key
  have hroot := hvalue .trustedRoot
  have hoperand := h.operand.trans h'.operand.symm
  cases options
  cases options'
  simp only [Options.value] at hbundle hidentity hissuer hkey hroot hstaging hoperand
  subst hstaging hbundle hidentity hissuer hkey hroot hoperand
  rfl

/-- Items that leave one operand at most are taken one after the other. -/
theorem foldlM_eq_ok {items : List Argument} {options options' : Options} :
    items.foldlM (reader host).step options = .ok options' ↔
      (∀ i ∈ items, Known i) ∧
        (options.artifactOrDigest.toList ++ items.filterMap operand).length ≤ 1 ∧
        options' = items.foldl Options.apply options := by
  induction items generalizing options with
  | nil =>
    rw [List.foldlM_nil, pure_eq_ok, Except.ok.injEq, eq_comm]
    cases options.artifactOrDigest <;> simp
  | cons item items ih =>
    simp only [List.foldlM_cons, bind_eq_ok, step_eq_ok, List.forall_mem_cons, List.foldl_cons]
    have hcount : (operand item = none ∨ options.artifactOrDigest = none) ∧
        ((options.apply item).artifactOrDigest.toList ++ items.filterMap operand).length ≤ 1 ↔
          (options.artifactOrDigest.toList ++ (item :: items).filterMap operand).length ≤ 1 := by
      rw [sets_operand options item]
      cases hitem : operand item <;> cases options.artifactOrDigest <;> simp [hitem]
    constructor
    · rintro ⟨_, ⟨hknown, hfree, rfl⟩, hrest⟩
      obtain ⟨hitems, hone, rfl⟩ := ih.mp hrest
      exact ⟨⟨hknown, hitems⟩, hcount.mp ⟨hfree, hone⟩, rfl⟩
    · rintro ⟨⟨hknown, hitems⟩, hone, rfl⟩
      obtain ⟨hfree, hone⟩ := hcount.mpr hone
      exact ⟨_, ⟨hknown, hfree, rfl⟩, ih.mpr ⟨hitems, hone, rfl⟩⟩

/-- The items are all taken when they are known and name at most one operand. -/
theorem foldlM_empty_eq_ok {items : List Argument} {options : Options} :
    items.foldlM (reader host).step .empty = .ok options ↔
      (∀ i ∈ items, Known i) ∧ (items.filterMap operand).length ≤ 1 ∧ options.Given items := by
  rw [foldlM_eq_ok]
  refine and_congr_right fun _ => and_congr Iff.rfl ?_
  constructor
  · rintro rfl
    exact given_foldl items
  · exact fun h => h.unique (given_foldl items)

/-- A command line is read exactly when it spells such items. -/
theorem reader_run_eq_ok {args : List Str} {options : Options} :
    (reader host).run args .empty = .ok options ↔
      ∃ items : List Argument, args = items.flatMap (reader host).spell ∧ (∀ i ∈ items, Known i) ∧
        (items.filterMap operand).length ≤ 1 ∧ options.Given items := by
  rw [Reader.run_eq_ok]
  constructor
  · rintro ⟨items, hargs, -, hfold⟩
    exact ⟨items, hargs, foldlM_empty_eq_ok.mp hfold⟩
  · rintro ⟨items, hargs, hknown, hone, hgiven⟩
    exact ⟨items, hargs, fun i hi => isItem_of_known (hknown i hi),
      foldlM_empty_eq_ok.mpr ⟨hknown, hone, hgiven⟩⟩

/-- The operand that is there came from the items. -/
theorem artifactOrDigest_ne_none {items : List Argument} {options : Options}
    (h : options.Given items) :
    options.artifactOrDigest ≠ none ↔ items.filterMap operand ≠ [] := by
  rw [h.operand, ne_eq, ne_eq, not_iff_not, List.findSome?_eq_none_iff, List.filterMap_eq_nil_iff]
  simp only [List.mem_reverse]

/-- A word is refused as an unknown option or as a second operand. -/
theorem step_eq_error {options : Options} {item : Argument} {e : ClientError} :
    (reader host).step options item = .error e ↔
      ∃ a, item = .word a ∧ a ≠ stagingText ∧
        ((['-'] <+: a ∧ e = unknownOption host a) ∨
          (¬ ['-'] <+: a ∧ options.artifactOrDigest ≠ none ∧ e = extraOperand host a)) := by
  cases item with
  | value flag v =>
    show Except.ok (options.set v flag) = Except.error e ↔ _
    simp
  | word a =>
    show takeWord host a options = .error e ↔ _
    unfold takeWord
    split
    · rename_i hstaging
      simp [hstaging]
    · rename_i hstaging
      split
      · rename_i hdash
        simp [hstaging, hdash, eq_comm]
      · rename_i hdash
        split <;> simp_all [eq_comm]

/-- **The loop reads a language.**  A command line is accepted exactly when it spells items of
    which one at most is an operand and none looks like an unknown option, with the last value of
    each option and the operand for its options; it spells them in one way; and otherwise it is
    refused for the first item that cannot be taken, or the option at its end without a value. -/
theorem options_spec (host : Host) :
    (∀ args options, (reader host).run args .empty = .ok options ↔
      ∃ items : List Argument, args = items.flatMap (reader host).spell ∧ (∀ i ∈ items, Known i) ∧
        (items.filterMap operand).length ≤ 1 ∧ options.Given items) ∧
    (∀ items items' : List Argument, (∀ i ∈ items, Known i) → (∀ i ∈ items', Known i) →
      items.flatMap (reader host).spell = items'.flatMap (reader host).spell → items = items') ∧
    ∀ args e, (reader host).run args .empty = .error e ↔
      ∃ (items : List Argument) (after : List Str),
        args = items.flatMap (reader host).spell ++ after ∧ (∀ i ∈ items, Known i) ∧
        (items.filterMap operand).length ≤ 1 ∧ Offends host items after e := by
  refine ⟨fun args options => ?_, fun items items' hitems hitems' heq => ?_, fun args e => ?_⟩
  · exact reader_run_eq_ok
  · have hlex (items : List Argument) (h : ∀ i ∈ items, Known i) :
        (reader host).lex (items.flatMap (reader host).spell) = (items, none) :=
      Reader.lex_eq_iff.mpr ⟨(List.append_nil _).symm, fun i hi => isItem_of_known (h i hi)⟩
    have hpair := hlex items' hitems'
    rw [← heq, hlex items hitems] at hpair
    exact (Prod.mk.inj hpair).1
  · rw [Reader.run_eq_error]
    constructor
    · intro h
      obtain ⟨items, options, after, hargs, -, hfold, hafter⟩ := h
      obtain ⟨hknown, hone, hgiven⟩ := foldlM_empty_eq_ok.mp hfold
      refine ⟨items, after, hargs, hknown, hone, ?_⟩
      rcases hafter with ⟨flag, rfl, rfl⟩ | ⟨item, rest, rfl, hitem, hfails⟩
      · exact .missing flag
      · obtain ⟨a, rfl, hstaging, ⟨hdash, rfl⟩ | ⟨hdash, hoperand, rfl⟩⟩ := step_eq_error.mp hfails
        · exact .unknown rest hdash hstaging (option_eq_none.mp hitem)
        · exact .extra rest hdash ((artifactOrDigest_ne_none hgiven).mp hoperand)
    · intro h
      obtain ⟨items, after, hargs, hknown, hone, hoffends⟩ := h
      have hgiven := given_foldl items
      refine ⟨items, _, after, hargs, fun i hi => isItem_of_known (hknown i hi),
        foldlM_empty_eq_ok.mpr ⟨hknown, hone, hgiven⟩, ?_⟩
      cases hoffends with
      | missing flag => exact .inl ⟨flag, rfl, rfl⟩
      | @unknown a rest hdash hstaging hflag =>
        exact .inr ⟨.word a, rest, rfl, option_eq_none.mpr hflag,
          step_eq_error.mpr ⟨a, rfl, hstaging, .inl ⟨hdash, rfl⟩⟩⟩
      | @extra a rest hdash hoperand =>
        refine .inr ⟨.word a, rest, rfl, option_eq_none.mpr ?_, step_eq_error.mpr ⟨a, rfl, ?_,
          .inr ⟨hdash, (artifactOrDigest_ne_none hgiven).mpr hoperand, rfl⟩⟩⟩
        · rintro flag rfl
          exact hdash (flag_dash flag)
        · rintro rfl
          exact hdash staging_dash

end AttestationVerify.Conformance
