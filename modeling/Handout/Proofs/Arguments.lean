import Handout.Proofs.Command

/-!
# What arguments ask for

Arguments that are whole flags and words are read from left to right. Two kinds of them end the reading:
one that asks to be shown something, and a variant that contradicts an earlier one. Which of the two
comes first decides (`ShowsFirst`, `ContradictsFirst`). Where neither comes, what counts is which flags
there are, and the words.

The invariant of the reading is `Reads`: after some arguments, the reading holds the variant, the other
flags and the words that are among them. One more argument keeps it or ends the reading (`reads_word`,
`reads_flag`), and so do all of them (`reads_all`).

**What it does not establish.** Flags of one letter that stand together, flags with a value, unknown
flags and two hyphens on their own are read too, but nothing is said of them here.
-/

namespace Handout

open Act

namespace CommandLine

variable {args before mid after : List String} {a : String} {f : Flag} {v : Variant} {r r' : Reading}

/-- A word has no hyphen in front. -/
abbrev IsWord (a : String) : Prop :=
  a.toList.head? ≠ some '-'

/-- An argument is a spelling of a flag. -/
def Spells (a : String) (f : Flag) : Prop :=
  (a, f) ∈ Flag.spellings

instance (a : String) (f : Flag) : Decidable (Spells a f) :=
  inferInstanceAs (Decidable (_ ∈ _))

/-- **Plain arguments** are words and spellings of flags. -/
def Plain (args : List String) : Prop :=
  ∀ a ∈ args, IsWord a ∨ ∃ f, Spells a f

/-- A flag is among arguments. -/
def Has (args : List String) (f : Flag) : Prop :=
  ∃ a ∈ args, Spells a f

instance (args : List String) (f : Flag) : Decidable (Has args f) :=
  inferInstanceAs (Decidable (∃ a ∈ args, Spells a f))

/-- The words among arguments. -/
def words (args : List String) : List String :=
  args.filter fun a => IsWord a

/-- An argument asks for the help or the version. -/
def AsksToShow (a : String) : Prop :=
  Spells a .help ∨ Spells a .version

instance (a : String) : Decidable (AsksToShow a) :=
  inferInstanceAs (Decidable (_ ∨ _))

/-- An argument asks for a variant after the other one. -/
def Contradicts (before : List String) (a : String) : Prop :=
  ∃ v : Variant, Spells a (.variant v) ∧ Has before (.variant v.other)

/-- One of the arguments contradicts an earlier one. -/
def Contradictory (args : List String) : Prop :=
  ∃ before a after, args = before ++ a :: after ∧ Contradicts before a

/-- **Something is to be shown** before any variant contradicts an earlier one. -/
def ShowsFirst (args : List String) : Prop :=
  ∃ before a after, args = before ++ a :: after ∧ AsksToShow a ∧ ¬ Contradictory before

/-- **A variant contradicts** an earlier one before anything is to be shown. -/
def ContradictsFirst (args : List String) : Prop :=
  ∃ before a after, args = before ++ a :: after ∧ Contradicts before a ∧ ∀ b ∈ before, ¬ AsksToShow b

/-! ## One argument -/

/-- A spelling is that of one flag. -/
theorem ofText?_of_spells (h : Spells a f) : Flag.ofText? a.toList = some f := by
  rw [Spells, Flag.spellings] at h
  simp only [List.mem_cons, Prod.mk.injEq, List.not_mem_nil, or_false] at h
  rcases h with ⟨rfl, rfl⟩ | ⟨rfl, rfl⟩ | ⟨rfl, rfl⟩ | ⟨rfl, rfl⟩ | ⟨rfl, rfl⟩ | ⟨rfl, rfl⟩ |
    ⟨rfl, rfl⟩ | ⟨rfl, rfl⟩ | ⟨rfl, rfl⟩ | ⟨rfl, rfl⟩ <;> decide

theorem Spells.unique {g : Flag} (h : Spells a f) (k : Spells a g) : f = g :=
  Option.some.inj ((ofText?_of_spells h).symm.trans (ofText?_of_spells k))

theorem not_isWord_of_spells (h : Spells a f) : ¬ IsWord a := by
  have hall : ∀ x ∈ Flag.spellings, x.1.toList.head? = some '-' := by decide
  exact not_not_intro (hall (a, f) h)

theorem ofText_word (h : IsWord a) : Argument.ofText a.toList = .ok .word := by
  rw [Argument.ofText, if_pos h]

theorem ofText_flag (h : Spells a f) : Argument.ofText a.toList = .ok (.flags [f]) := by
  rw [Argument.ofText, if_neg (not_isWord_of_spells h), ofText?_of_spells h]

/-- Two hyphens on their own are no plain argument. -/
theorem ne_separator (h : IsWord a ∨ ∃ f, Spells a f) : a ≠ "--" := by
  rintro rfl
  rcases h with h | ⟨f, h⟩
  · exact h (by decide)
  · cases (ofText?_of_spells h).symm.trans (by decide : Flag.ofText? "--".toList = none)

theorem all_word (h : IsWord a) (as : List String) (r : Reading) :
    Reading.all (a :: as) r = Reading.all as (r.word a) := by
  rw [Reading.all, if_neg (ne_separator (.inl h)), ofText_word h]
  rfl

theorem all_flag (h : Spells a f) (as : List String) (r : Reading) :
    Reading.all (a :: as) r = Reading.flag { r with atPath := false } f >>= Reading.all as := by
  have hone : r.argument a (.flags [f]) = Reading.flag { r with atPath := false } f := by
    rw [Reading.argument, List.foldlM_cons]
    exact bind_pure _
  rw [Reading.all, if_neg (ne_separator (.inr ⟨f, h⟩)), ofText_flag h, ← hone]
  rfl

/-! ## The arguments read so far -/

theorem has_snoc : Has (before ++ [a]) f ↔ Has before f ∨ Spells a f := by
  simp [Has, or_and_right, exists_or]

theorem words_snoc_word (h : IsWord a) : words (before ++ [a]) = words before ++ [a] := by
  simp [words, List.filter_append, h]

theorem words_snoc_flag (h : Spells a f) : words (before ++ [a]) = words before := by
  have hword := not_isWord_of_spells h
  simp only [Decidable.not_not] at hword
  simp [words, List.filter_append, hword]

/-- **A reading holds what is among the arguments** that it has read; none of them ends it. -/
structure Reads (before : List String) (r : Reading) : Prop where
  variant : ∀ v, r.variant = some v ↔ Has before (.variant v)
  path : r.path = (words before).head?
  leftOver : r.leftOver = (words before).tail
  dryRun : r.dryRun = true ↔ Has before .dryRun
  verbose : r.verbose = true ↔ Has before .verbose
  unasked : ∀ b ∈ before, ¬ AsksToShow b

theorem reads_start : Reads [] .start := by
  refine ⟨fun v => ?_, rfl, rfl, ?_, ?_, nofun⟩ <;> simp [Reading.start, Has]

/-- Arguments that contradict each other ask for both variants. -/
theorem Contradictory.has_variant (h : Contradictory args) (u : Variant) : Has args (.variant u) := by
  obtain ⟨earlier, a, later, rfl, v, ha, b, hb, hother⟩ := h
  rcases Variant.eq_or_eq_other u v with rfl | rfl
  · exact ⟨a, by simp, ha⟩
  · exact ⟨b, List.mem_append_left _ hb, hother⟩

/-- Arguments that are read through do not contradict each other. -/
theorem Reads.not_contradictory (h : Reads before r) : ¬ Contradictory before := by
  intro hc
  have hp := (h.variant .problem).mpr (hc.has_variant .problem)
  have hs := (h.variant .solution).mpr (hc.has_variant .solution)
  cases hp.symm.trans hs

/-- A word changes nothing but the path, or what is left over. -/
theorem word_flags (r : Reading) (a : String) :
    (r.word a).variant = r.variant ∧ (r.word a).dryRun = r.dryRun ∧ (r.word a).verbose = r.verbose := by
  rw [Reading.word]
  split <;> exact ⟨rfl, rfl, rfl⟩

theorem reads_word (h : Reads before r) (ha : IsWord a) : Reads (before ++ [a]) (r.word a) := by
  have hnone : ∀ f, ¬ Spells a f := fun f hf => not_isWord_of_spells hf ha
  have hhas : ∀ f, Has (before ++ [a]) f ↔ Has before f := fun f => by simp [has_snoc, hnone f]
  obtain ⟨hvariant, hdry, hverbose⟩ := word_flags r a
  have hwords : (r.word a).path = (words before ++ [a]).head? ∧
      (r.word a).leftOver = (words before ++ [a]).tail := by
    rw [Reading.word, h.path]
    -- the first word is the path, and every other one is left over
    cases hbefore : words before with
    | nil => exact ⟨rfl, by simpa [hbefore] using h.leftOver⟩
    | cons p ps =>
      exact ⟨by simp [Reading.leave, h.path, hbefore], by simp [Reading.leave, h.leftOver, hbefore]⟩
  rw [← words_snoc_word ha] at hwords
  refine ⟨fun v => ?_, hwords.1, hwords.2, ?_, ?_, fun b hb => ?_⟩
  · rw [hvariant, hhas]; exact h.variant v
  · rw [hdry, hhas]; exact h.dryRun
  · rw [hverbose, hhas]; exact h.verbose
  · rcases List.mem_append.mp hb with hb | hb
    · exact h.unasked b hb
    · obtain rfl := List.mem_singleton.mp hb
      exact not_or.mpr ⟨hnone _, hnone _⟩

/-- **Why an argument** after others **ends the reading.** -/
inductive Stops (before : List String) (a : String) : EarlyEnd → Prop
  | help (h : Spells a .help) : Stops before a .help
  | version (h : Spells a .version) : Stops before a .version
  | contradiction {v : Variant} (h : Spells a (.variant v)) (hb : Has before (.variant v.other)) :
    Stops before a (.fault (.contradiction v))

/-- A flag is read, or ends the reading. -/
theorem reads_flag (h : Reads before r) (ha : Spells a f) :
    (∃ r', Reading.flag { r with atPath := false } f = .ok r' ∧ Reads (before ++ [a]) r') ∨
      ∃ e, Reading.flag { r with atPath := false } f = .error e ∧ Stops before a e := by
  have hpath : r.path = (words (before ++ [a])).head? := by rw [words_snoc_flag ha]; exact h.path
  have hleft : r.leftOver = (words (before ++ [a])).tail := by rw [words_snoc_flag ha]; exact h.leftOver
  have hhas : Has (before ++ [a]) f := has_snoc.mpr (.inr ha)
  have hother : ∀ g, g ≠ f → (Has before g ↔ Has (before ++ [a]) g) := by
    intro g hg
    rw [has_snoc]
    exact (or_iff_left fun hag => hg (hag.unique ha)).symm
  have hasked : f ≠ .help → f ≠ .version → ∀ b ∈ before ++ [a], ¬ AsksToShow b := by
    intro hhelp hversion b hb
    rcases List.mem_append.mp hb with hb | hb
    · exact h.unasked b hb
    · obtain rfl := List.mem_singleton.mp hb
      exact not_or.mpr ⟨fun k => hhelp (ha.unique k), fun k => hversion (ha.unique k)⟩
  cases f with
  | help => exact .inr ⟨_, rfl, .help ha⟩
  | version => exact .inr ⟨_, rfl, .version ha⟩
  | dryRun =>
    exact .inl ⟨_, rfl, fun v => (h.variant v).trans (hother (.variant v) nofun), hpath, hleft,
      iff_of_true rfl hhas, h.verbose.trans (hother .verbose nofun), hasked nofun nofun⟩
  | verbose =>
    exact .inl ⟨_, rfl, fun v => (h.variant v).trans (hother (.variant v) nofun), hpath, hleft,
      h.dryRun.trans (hother .dryRun nofun), iff_of_true rfl hhas, hasked nofun nofun⟩
  | variant v =>
    rw [Reading.flag]
    by_cases hv : r.variant = some v.other
    · exact .inr ⟨_, if_pos hv, .contradiction ha ((h.variant _).mp hv)⟩
    · refine .inl ⟨_, if_neg hv, fun u => ?_, hpath, hleft, h.dryRun.trans (hother .dryRun nofun),
        h.verbose.trans (hother .verbose nofun), hasked nofun nofun⟩
      rcases Variant.eq_or_eq_other u v with rfl | rfl
      · exact iff_of_true rfl hhas
      · have hne : v ≠ v.other := (Variant.other_ne v).symm
        refine iff_of_false (fun k => hne (Option.some.inj k)) fun k => hv ?_
        exact (h.variant _).mpr ((hother _ fun k => hne (Flag.variant.inj k).symm).mpr k)

/-! ## All arguments -/

/-- Arguments are read after others where the reading of those ended, unless it ended early. -/
theorem all_append (h : Plain before) (as : List String) (r : Reading) :
    Reading.all (before ++ as) r = Reading.all before r >>= Reading.all as := by
  induction before generalizing r with
  | nil => rfl
  | cons b bs ih =>
    obtain ⟨hb, hbs⟩ := List.forall_mem_cons.mp h
    rw [List.cons_append]
    rcases hb with hb | ⟨f, hb⟩
    · rw [all_word hb, all_word hb]
      exact ih hbs _
    · rw [all_flag hb, all_flag hb, bind_assoc]
      exact bind_congr fun r => ih hbs r

/-- **Plain arguments are read through**, or up to the first one that ends the reading. -/
theorem reads_all (h : Reads before r) {as : List String} (hp : Plain as) :
    (∃ r', Reading.all as r = .ok r' ∧ Reads (before ++ as) r') ∨
      ∃ e mid a after r', Reading.all as r = .error e ∧ as = mid ++ a :: after ∧
        Reads (before ++ mid) r' ∧ Stops (before ++ mid) a e := by
  induction as generalizing before r with
  | nil => exact .inl ⟨r, rfl, by rwa [List.append_nil]⟩
  | cons a as ih =>
    obtain ⟨ha, has⟩ := List.forall_mem_cons.mp hp
    -- an argument that is read puts the rest one place further
    have hnext : ∀ {r₁}, Reading.all (a :: as) r = Reading.all as r₁ → Reads (before ++ [a]) r₁ →
        (∃ r', Reading.all (a :: as) r = .ok r' ∧ Reads (before ++ a :: as) r') ∨
          ∃ e mid b after r', Reading.all (a :: as) r = .error e ∧ a :: as = mid ++ b :: after ∧
            Reads (before ++ mid) r' ∧ Stops (before ++ mid) b e := by
      intro r₁ hall h₁
      rw [hall]
      rcases ih h₁ has with ⟨r', hok, hreads⟩ | ⟨e, mid, b, after, r', herror, rfl, hreads, hstops⟩
      · exact .inl ⟨r', hok, by rwa [List.append_assoc] at hreads⟩
      · rw [List.append_assoc] at hreads hstops
        exact .inr ⟨e, a :: mid, b, after, r', herror, rfl, hreads, hstops⟩
    rcases ha with ha | ⟨f, ha⟩
    · exact hnext (all_word ha as r) (reads_word h ha)
    · rcases reads_flag h ha with ⟨r₁, hflag, h₁⟩ | ⟨e, hflag, hstops⟩
      · exact hnext (by rw [all_flag ha, hflag]; rfl) h₁
      · refine .inr ⟨e, [], a, as, r, ?_, rfl, by rwa [List.append_nil], by rwa [List.append_nil]⟩
        rw [all_flag ha, hflag]
        rfl

/-- What ends the reading. -/
theorem Stops.cases {e : EarlyEnd} (h : Stops before a e) :
    AsksToShow a ∧ (e = .help ∨ e = .version) ∨
      Contradicts before a ∧ ∃ v, e = .fault (.contradiction v) := by
  cases h with
  | help h => exact .inl ⟨.inl h, .inl rfl⟩
  | version h => exact .inl ⟨.inr h, .inr rfl⟩
  | contradiction h hb => exact .inr ⟨⟨_, h, hb⟩, _, rfl⟩

theorem all_of_showsFirst (hp : Plain args) (h : ShowsFirst args) :
    ∃ e, Reading.all args .start = .error e ∧ (e = .help ∨ e = .version) := by
  obtain ⟨before, a, after, rfl, ha, hfree⟩ := h
  have hbefore : Plain before := fun b hb => hp b (List.mem_append_left _ hb)
  rw [all_append hbefore]
  rcases reads_all reads_start hbefore with ⟨r, hok, -⟩ | ⟨e, mid, b, rest, -, herror, rfl, -, hstops⟩
  · rw [hok]
    rcases ha with ha | ha
    · exact ⟨.help, all_flag ha after r, .inl rfl⟩
    · exact ⟨.version, all_flag ha after r, .inr rfl⟩
  · rcases hstops.cases with ⟨-, he⟩ | ⟨hc, -⟩
    · exact ⟨e, by rw [herror]; rfl, he⟩
    · exact absurd ⟨mid, b, rest, rfl, hc⟩ hfree

theorem all_of_contradictsFirst (hp : Plain args) (h : ContradictsFirst args) :
    ∃ v, Reading.all args .start = .error (.fault (.contradiction v)) := by
  obtain ⟨before, a, after, rfl, ⟨v, ha, hv⟩, hunasked⟩ := h
  have hbefore : Plain before := fun b hb => hp b (List.mem_append_left _ hb)
  rw [all_append hbefore]
  rcases reads_all reads_start hbefore with
    ⟨r, hok, hreads⟩ | ⟨e, mid, b, rest, -, herror, rfl, -, hstops⟩
  · have hother : r.variant = some v.other := (hreads.variant v.other).mpr hv
    have hflag : Reading.flag { r with atPath := false } (.variant v) =
        .error (.fault (.contradiction v)) := if_pos hother
    refine ⟨v, ?_⟩
    rw [hok]
    change Reading.all (a :: after) r = _
    rw [all_flag ha, hflag]
    rfl
  · rcases hstops.cases with ⟨hb, -⟩ | ⟨-, u, rfl⟩
    · exact absurd hb (hunasked b (List.mem_append_right _ List.mem_cons_self))
    · exact ⟨u, by rw [herror]; rfl⟩

/-- Arguments of which none ends the reading are read through. -/
theorem all_of_neither (hp : Plain args) (hs : ¬ ShowsFirst args) (hc : ¬ ContradictsFirst args) :
    ∃ r, Reading.all args .start = .ok r ∧ Reads args r := by
  rcases reads_all reads_start hp with h | ⟨e, mid, a, after, r, -, rfl, hreads, hstops⟩
  · exact h
  · rcases hstops.cases with ⟨ha, -⟩ | ⟨ha, -⟩
    · exact absurd ⟨mid, a, after, rfl, ha, hreads.not_contradictory⟩ hs
    · exact absurd ⟨mid, a, after, rfl, ha, hreads.unasked⟩ hc

/-! ## The invocation -/

/-- **Arguments ask for an invocation**: they have its variant and its path as the only word, and the
other flags just when it has them. -/
structure AsksFor (args : List String) (i : Invocation) : Prop where
  variant : Has args (.variant i.variant)
  word : words args = [i.path]
  path : i.path ≠ ""
  dryRun : i.dryRun = true ↔ Has args .dryRun
  verbose : i.verbose = true ↔ Has args .verbose

variable {i i' : Invocation}

/-- A reading is complete when the arguments ask for an invocation. -/
theorem finish_eq_ok (h : Reads args r) : r.finish = .ok i ↔ AsksFor args i := by
  constructor
  · intro hfinish
    rw [Reading.finish] at hfinish
    split at hfinish
    · cases hfinish
    · cases hfinish
    · next path v hpath hv =>
      split at hfinish
      · cases hfinish
      · next hleft =>
        split at hfinish
        · cases hfinish
        · next hne =>
          cases hfinish
          have hwords : words args = [path] := by
            rw [h.path] at hpath
            rw [h.leftOver, Decidable.not_not] at hleft
            rw [← List.cons_head?_tail hpath, hleft]
          exact ⟨(h.variant v).mp hv, hwords, hne, h.dryRun, h.verbose⟩
  · intro hi
    obtain ⟨v, path, dryRun, verbose⟩ := i
    have hv : r.variant = some v := (h.variant v).mpr hi.variant
    have hpath : r.path = some path := by rw [h.path, hi.word]; rfl
    have hleft : r.leftOver = [] := by rw [h.leftOver, hi.word]; rfl
    have hdry : r.dryRun = dryRun := Bool.eq_iff_iff.mpr (h.dryRun.trans hi.dryRun.symm)
    have hverbose : r.verbose = verbose := Bool.eq_iff_iff.mpr (h.verbose.trans hi.verbose.symm)
    rw [Reading.finish]
    simp only [hpath, hv, hleft, hdry, hverbose, ne_eq, not_true_eq_false, if_false, if_neg hi.path]

theorem exists_asksFor_iff (h : Reads args r) :
    (∃ i, AsksFor args i) ↔
      (∃ v, Has args (.variant v)) ∧ ∃ path, words args = [path] ∧ path ≠ "" := by
  constructor
  · rintro ⟨i, hi⟩
    exact ⟨⟨_, hi.variant⟩, _, hi.word, hi.path⟩
  · rintro ⟨⟨v, hv⟩, path, hwords, hne⟩
    exact ⟨⟨v, path, r.dryRun, r.verbose⟩, hv, hwords, hne, h.dryRun, h.verbose⟩

/-- **The order and the repetition of arguments do not matter** to the invocation. -/
theorem AsksFor.eq_of_same (h : Reads args r) (hi : AsksFor args i) {args' : List String}
    (hsame : ∀ a, a ∈ args' ↔ a ∈ args) (hi' : AsksFor args' i') : i' = i := by
  have hhas : ∀ f, Has args' f ↔ Has args f := fun f => by simp only [Has, hsame]
  have hvariant : i'.variant = i.variant := by
    have hv := (h.variant _).mpr hi.variant
    have hv' := (h.variant _).mpr ((hhas _).mp hi'.variant)
    exact Option.some.inj (hv'.symm.trans hv)
  have hpath : i'.path = i.path := by
    have hmem : i'.path ∈ words args' := by rw [hi'.word]; exact List.mem_singleton_self _
    have hword : i'.path ∈ words args :=
      List.mem_filter.mpr ⟨(hsame _).mp (List.mem_filter.mp hmem).1, (List.mem_filter.mp hmem).2⟩
    rw [hi.word] at hword
    exact List.mem_singleton.mp hword
  have hdry : i'.dryRun = i.dryRun :=
    Bool.eq_iff_iff.mpr (hi'.dryRun.trans ((hhas _).trans hi.dryRun.symm))
  have hverbose : i'.verbose = i.verbose :=
    Bool.eq_iff_iff.mpr (hi'.verbose.trans ((hhas _).trans hi.verbose.symm))
  cases i'
  cases i
  simp_all only

/-! ## The command -/

variable {s t : Session} {w u : World}

/-- **The command refuses its arguments**: its status is that of a wrong invocation, the help and the
fault go to the error output, and nothing else is done. -/
def Refuses [Codecs] (args : List String) (s : Session) (w : World) : Prop :=
  ∃ f : UsageFault, (respond args).exec s w = (.ok (.finished .usage), s,
    { w with notices := .text ("\nError: " ++ f.toReport.message ++ "\n") ::
        .text (Help.text ++ "\n") :: w.notices })

theorem refuses_of_fault [Codecs] {f : UsageFault} (h : Invocation.ofArguments args = .error (.fault f))
    (s : Session) (w : World) : Refuses args s w := by
  refine ⟨f, ?_⟩
  rw [respond, h]
  rfl

/-- An invocation that is carried out does not end with the status of a wrong one. -/
theorem status_of_perform [Codecs] {e : Ending} (h : (perform i).exec s w = (.ok e, t, u)) :
    e.status = .success ∨ e.status = .filesystem := by
  rw [perform_eq] at h
  obtain ⟨_, s₁, w₁, -, h⟩ := exec_bind_eq_ok.mp h
  obtain ⟨cwd, s₂, w₂, -, h⟩ := exec_bind_eq_ok.mp h
  obtain ⟨_, s₃, w₃, -, h⟩ := exec_bind_eq_ok.mp h
  rcases hrun : (run (Path.resolve cwd (Path.ofText i.path)) i.variant none i.dryRun).exec s₃ w₃ with
    ⟨stop | report, t', z⟩
  · cases stop with
    | failure f =>
      obtain ⟨⟨_, _, hconclude, -⟩, -⟩ := conclude_of_failure hrun
      rw [hconclude] at h
      cases h
      exact .inr rfl
    | _ =>
      rw [conclude, exec_bind, exec_outcome, hrun] at h
      cases h
  · obtain ⟨⟨_, _, hconclude⟩, -⟩ := conclude_of_report hrun
    rw [hconclude] at h
    cases h
    exact .inl rfl

/-! ### From a reading to the invocation -/

theorem ofArguments_of_error {e : EarlyEnd} (h : Reading.all args .start = .error e) :
    Invocation.ofArguments args = .error e := by
  rw [Invocation.ofArguments, h]
  rfl

theorem ofArguments_of_ok (h : Reading.all args .start = .ok r) :
    Invocation.ofArguments args = r.finish.mapError .fault := by
  rw [Invocation.ofArguments, h]
  rfl

/-- **Arguments that are read through** are accepted when they ask for an invocation, and else there is
something wrong with them. -/
theorem ofArguments_of_reads (h : Reading.all args .start = .ok r) (hreads : Reads args r) :
    (∀ i, Invocation.ofArguments args = .ok i ↔ AsksFor args i) ∧
      ((∃ i, AsksFor args i) ∨ ∃ f, Invocation.ofArguments args = .error (.fault f)) := by
  have hiff : ∀ i, Invocation.ofArguments args = .ok i ↔ AsksFor args i := fun i => by
    rw [ofArguments_of_ok h, Except.mapError_eq_ok, finish_eq_ok hreads]
  refine ⟨hiff, ?_⟩
  cases hfinish : r.finish with
  | ok i => exact .inl ⟨i, (finish_eq_ok hreads).mp hfinish⟩
  | error f => exact .inr ⟨f, by rw [ofArguments_of_ok h, hfinish]; rfl⟩

/-- Arguments that are accepted were read through. -/
theorem reads_of_ofArguments (hp : Plain args) (h : Invocation.ofArguments args = .ok i) :
    ∃ r, Reading.all args .start = .ok r ∧ Reads args r := by
  rcases reads_all reads_start hp with hall | ⟨e, -, -, -, -, herror, -⟩
  · exact hall
  · rw [ofArguments_of_error herror] at h
    cases h

theorem refuses_of_status [Codecs] {e : Ending} (h : (respond args).exec s w = (.ok e, t, u))
    (he : e.status.number = 1) :
    (¬ ∃ i, Invocation.ofArguments args = .ok i) ∧ Refuses args s w := by
  cases hargs : Invocation.ofArguments args with
  | ok i =>
    rw [respond, hargs] at h
    rcases status_of_perform h with hstatus | hstatus <;> rw [hstatus] at he <;> cases he
  | error early =>
    have hrefused : ¬ ∃ i, (Except.error early : Except EarlyEnd Invocation) = .ok i := by
      rintro ⟨i, hi⟩
      cases hi
    refine ⟨hrefused, ?_⟩
    cases early with
    | fault f => exact refuses_of_fault hargs s w
    | help | version =>
      rw [respond, hargs] at h
      cases h
      cases he

/-- **What the command does with plain arguments.** If something is to be shown before a variant
contradicts an earlier one, it is shown and nothing else is done; if a variant does so first, the
arguments are refused. Otherwise they are accepted when there is a variant among them and exactly one
word, which is not empty, and else refused. An invocation that is accepted is the one that the
arguments ask for, whatever their order and however often they stand there. The status is that of a
wrong invocation only where arguments are refused, and then nothing is printed and no file touched. -/
theorem respond_to_plain [Codecs] (hp : Plain args) (s : Session) (w : World) :
    (ShowsFirst args → ∃ text, (respond args).exec s w =
      (.ok .shown, s, { w with output := text :: w.output })) ∧
    (ContradictsFirst args → Refuses args s w) ∧
    (¬ ShowsFirst args → ¬ ContradictsFirst args →
      ((∃ i, Invocation.ofArguments args = .ok i) ↔
        (∃ v, Has args (.variant v)) ∧ ∃ path, words args = [path] ∧ path ≠ "") ∧
      ((¬ ∃ i, Invocation.ofArguments args = .ok i) → Refuses args s w)) ∧
    (∀ i, Invocation.ofArguments args = .ok i → respond args = perform i ∧ AsksFor args i ∧
      ∀ args' i', (∀ a, a ∈ args' ↔ a ∈ args) → Invocation.ofArguments args' = .ok i' → i' = i) ∧
    ∀ e t u, (respond args).exec s w = (.ok e, t, u) → e.status.number = 1 →
      (¬ ∃ i, Invocation.ofArguments args = .ok i) ∧ Refuses args s w := by
  refine ⟨fun hshows => ?_, fun hcontradicts => ?_, fun hshows hcontradicts => ?_, fun i hi => ?_,
    fun e t u => refuses_of_status⟩
  · obtain ⟨e, hall, he⟩ := all_of_showsFirst hp hshows
    have hargs := ofArguments_of_error hall
    rcases he with rfl | rfl
    · exact ⟨Help.text ++ "\n", by rw [respond, hargs]; rfl⟩
    · exact ⟨Help.version ++ "\n", by rw [respond, hargs]; rfl⟩
  · obtain ⟨v, hall⟩ := all_of_contradictsFirst hp hcontradicts
    exact refuses_of_fault (ofArguments_of_error hall) s w
  · obtain ⟨r, hall, hreads⟩ := all_of_neither hp hshows hcontradicts
    obtain ⟨hiff, hcomplete⟩ := ofArguments_of_reads hall hreads
    have haccepted := exists_congr hiff
    refine ⟨haccepted.trans (exists_asksFor_iff hreads), fun hnone => ?_⟩
    rcases hcomplete with hasks | ⟨f, hfault⟩
    · exact absurd (haccepted.mpr hasks) hnone
    · exact refuses_of_fault hfault s w
  · obtain ⟨r, hall, hreads⟩ := reads_of_ofArguments hp hi
    have hasks := ((ofArguments_of_reads hall hreads).1 i).mp hi
    refine ⟨by rw [respond, hi], hasks, fun args' i' hsame hi' => ?_⟩
    have hp' : Plain args' := fun a ha => hp a ((hsame a).mp ha)
    obtain ⟨r', hall', hreads'⟩ := reads_of_ofArguments hp' hi'
    exact hasks.eq_of_same hreads hsame (((ofArguments_of_reads hall' hreads').1 i').mp hi')

/-- **A contradiction before the help is refused**, and the help before a contradiction is shown. -/
theorem respond_to_contradiction :
    Refuses ["-p", "tree", "--solution", "--help"] .start (Run.plain .empty) ∧
    ∃ text, (respond ["tree", "-p", "-h", "--solution"]).exec .start (Run.plain .empty) =
      (.ok .shown, .start, { Run.plain .empty with output := [text] }) := by
  have hword : IsWord "tree" := by decide
  have hp : Spells "-p" (.variant .problem) := by decide
  have hs : Spells "--solution" (.variant .solution) := by decide
  have hrefused : Plain ["-p", "tree", "--solution", "--help"] := by
    simp only [Plain, List.forall_mem_cons]
    exact ⟨.inr ⟨_, hp⟩, .inl hword, .inr ⟨_, hs⟩, .inr ⟨.help, by decide⟩, nofun⟩
  have hshown : Plain ["tree", "-p", "-h", "--solution"] := by
    simp only [Plain, List.forall_mem_cons]
    exact ⟨.inl hword, .inr ⟨_, hp⟩, .inr ⟨.help, by decide⟩, .inr ⟨_, hs⟩, nofun⟩
  have hfree : ¬ Contradictory ["tree", "-p"] := fun hc =>
    absurd (hc.has_variant .solution) (by decide)
  obtain ⟨-, hcontradicts, -⟩ := respond_to_plain hrefused .start (Run.plain .empty)
  obtain ⟨hshows, -⟩ := respond_to_plain hshown .start (Run.plain .empty)
  refine ⟨hcontradicts ⟨["-p", "tree"], "--solution", ["--help"], rfl, ?_, by decide⟩,
    hshows ⟨["tree", "-p"], "-h", ["--solution"], rfl, by decide, hfree⟩⟩
  exact ⟨.solution, hs, "-p", List.mem_cons_self, hp⟩

end CommandLine

end Handout
