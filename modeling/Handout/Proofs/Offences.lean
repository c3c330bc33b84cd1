import Handout.Proofs.NormalForm

/-!
# What is wrong with a configuration

`Settings.problem?` says what is wrong with a value at a place of a configuration. It looks at the place
and at the value there, and at nothing else. A check reads a value and fails with issues; it tells of
the problems of the values under its place when it fails with one issue for each of them and with no
other (`Checked.Tells`). Each check of a field is shown to do so for values of JSON, whatever they are.

Two checks tell of both their issues when their places are apart (`Checked.Tells.both`). So what is
wrong at one place neither hides nor moves nor doubles what is wrong at another.
-/

namespace Handout

/-! ## Documents -/

/-- The keys of a mapping that are texts. -/
def Mapping.names (m : Mapping) : List String :=
  m.filterMap (·.1.text?)

/-- **A value of JSON**: every key in it is a text, and no mapping has a key twice. -/
inductive Data.IsJson : Data → Prop
  | null : IsJson .null
  | bool (b : Bool) : IsJson (.bool b)
  | int (n : Int) : IsJson (.int n)
  | float (x : Binary64) : IsJson (.float x)
  | text (s : String) : IsJson (.text s)
  | list {xs : List Data} (items : ∀ x ∈ xs, IsJson x) : IsJson (.list xs)
  | map {m : Mapping} (keys : m.ByText) (apart : m.names.Nodup) (values : ∀ e ∈ m, IsJson e.2) :
    IsJson (.map m)

/-- The value one step inside a value. -/
def Data.inside? : Data → Step → Option Data
  | .map m, .field n => Mapping.field? m n
  | .list xs, .index (.ofNat j) => xs[j]?
  | _, _ => none

/-- **The value at a place.** -/
def Data.at? (d : Data) : List Step → Option Data
  | [] => some d
  | a :: r => (d.inside? a).bind (·.at? r)

theorem Mapping.isSome_field? {m : Mapping} {n : String} : (m.field? n).isSome ↔ n ∈ m.names := by
  rw [field?, get?, Option.isSome_map, List.find?_isSome, names, List.mem_filterMap]
  simp only [Data.sameKey_text_iff, Data.text?_eq_some]

theorem Data.IsJson.byText {m : Mapping} (h : (Data.map m).IsJson) : m.ByText := by
  cases h with
  | map keys apart values => exact keys

theorem Mapping.field?_json {m : Mapping} {n : String} {v : Data} (hjson : (Data.map m).IsJson)
    (hv : m.field? n = some v) : v.IsJson := by
  cases hjson with
  | map keys apart values =>
    obtain ⟨e, he, rfl⟩ := Option.map_eq_some_iff.mp hv
    exact values e (List.mem_of_find?_eq_some he)

/-! ## What is asked of a value -/

/-- What a field is asked to be. -/
inductive FieldKind
  | text
  | optionalText
  | switch
  | texts
  deriving DecidableEq

/-- The fields of a section. -/
def Section.fields : Section → List (String × FieldKind)
  | .general => [("log_level", .text), ("log_file", .optionalText), ("json_logs", .switch)]
  | .discovery => [("extensions", .texts), ("ignore_names", .texts)]
  | .processing => [("encoding", .text)]

/-- What a section asks of a field, if it knows it. -/
def Section.kind? (s : Section) (name : String) : Option FieldKind :=
  s.fields.lookup name

/-- A section that refuses the fields it does not know. -/
def Section.Strict (s : Section) : Prop :=
  s ≠ .general

instance (s : Section) : Decidable s.Strict :=
  inferInstanceAs (Decidable (_ ≠ _))

/-- The section of a key. -/
def Section.named? (key : String) : Option Section :=
  [Section.general, .discovery, .processing].find? (·.key = key)

namespace Settings

/-- A word that a switch may be given as. -/
def IsSwitchWord (word : String) : Prop :=
  String.ofList (word.toList.map Char.toLower) ∈ onWords ++ offWords

instance (word : String) : Decidable (IsSwitchWord word) :=
  inferInstanceAs (Decidable (_ ∈ _))

/-- The whole number that a switch is given as. -/
def wholeNumber? : Data → Option Int
  | .int n => if -switchBound ≤ n ∧ n < switchBound then some n else none
  | .float x => x.toInt?.filter fun n => -switchBound < n ∧ n < switchBound
  | _ => none

/-- What is wrong with a number as a switch. -/
def numberProblem? : Option Int → Option Problem
  | some n => if n = 0 ∨ n = 1 then none else some .unreadableSwitch
  | none => some .notSwitch

/-- What is wrong with a value as a switch. -/
def switchProblem? : Data → Option Problem
  | .bool _ => none
  | .text t => if IsSwitchWord t then none else some .unreadableSwitch
  | d => numberProblem? (wholeNumber? d)

end Settings

/-- What is wrong with a value at a place in a field. -/
def FieldKind.problem? : FieldKind → List Step → Data → Option Problem
  | .text, [], d => if d.text?.isSome then none else some .notText
  | .optionalText, [], .null => none
  | .optionalText, [], d => if d.text?.isSome then none else some .notText
  | .switch, [], d => Settings.switchProblem? d
  | .texts, [], .text _ => none
  | .texts, [], .list _ => none
  | .texts, [], _ => some .notList
  | .texts, [.index _], d => if d.text?.isSome then none else some .notText
  | _, _, _ => none

/-- What is wrong with a value at a place in a section. -/
def Section.problem? (s : Section) : List Step → Data → Option Problem
  | [], d => if d.isMap then none else some (.notSection s)
  | .field n :: r, d =>
    match s.kind? n with
    | some kind => kind.problem? r d
    | none => if s.Strict ∧ r = [] then some .unknownField else none
  | _, _ => none

/-- **What is wrong with a value at a place** in a configuration, as far as the place and the value
say. -/
def Settings.problem? : List Step → Data → Option Problem
  | .field k :: r, d => (Section.named? k).bind (·.problem? r d)
  | _, _ => none

/-- **An offence**: an issue at a place of a configuration whose value has the problem. -/
def Mapping.Offends (m : Mapping) (i : Issue) : Prop :=
  ∃ v, (Data.map m).at? i.place = some v ∧ Settings.problem? i.place v = some i.problem

/-! ## Checks that tell of issues -/

namespace Checked

variable {α β γ : Type} {f : α → β → γ} {x : Checked α} {y : Checked β} {P Q : Issue → Prop}

/-- The issues of a check. -/
def issues : Checked α → List Issue
  | .ok _ => []
  | .error is => is

theorem issues_both : issues (both f x y) = x.issues ++ y.issues := by
  cases x <;> cases y <;> simp [both, issues]

theorem issues_map (g : α → β) : issues (x.map g) = x.issues := by
  cases x <;> rfl

/-- A check tells of the issues that `P` holds of: it fails with these and no other, at places that
differ from each other, and does not fail without one. -/
structure Tells (x : Checked α) (P : Issue → Prop) : Prop where
  reason : x ≠ .error []
  apart : (x.issues.map Issue.place).Nodup
  mem : ∀ i, i ∈ x.issues ↔ P i

theorem Tells.congr (h : Tells x P) (hpq : ∀ i, P i ↔ Q i) : Tells x Q :=
  ⟨h.reason, h.apart, fun i => (h.mem i).trans (hpq i)⟩

theorem tells_ok {a : α} (h : ∀ i, ¬ P i) : Tells (.ok a) P :=
  ⟨nofun, .nil, fun i => iff_of_false List.not_mem_nil (h i)⟩

theorem tells_error {i : Issue} (h : ∀ j, P j ↔ j = i) : Tells (.error [i] : Checked α) P :=
  ⟨nofun, List.nodup_singleton _, fun j => List.mem_singleton.trans (h j).symm⟩

theorem tells_clear {is : List Issue} {a : α} (hapart : (is.map Issue.place).Nodup)
    (hmem : ∀ i, i ∈ is ↔ P i) : Tells (clear is a) P := by
  rw [clear]
  split
  next hnil =>
    subst hnil
    exact tells_ok fun i hi => List.not_mem_nil ((hmem i).mpr hi)
  next hsome => exact ⟨fun h => hsome (Except.error.inj h), hapart, hmem⟩

theorem Tells.map (h : Tells x P) (g : α → β) : Tells (x.map g) P := by
  refine ⟨?_, ?_, ?_⟩
  · cases x with
    | ok a => exact nofun
    | error is => exact fun he => h.reason (congrArg _ (Except.error.inj he))
  · rw [issues_map]
    exact h.apart
  · rw [issues_map]
    exact h.mem

/-- **Two checks at places apart** tell of the issues of both. -/
theorem Tells.both (hx : Tells x P) (hy : Tells y Q)
    (hapart : ∀ i j, P i → Q j → i.place ≠ j.place) : Tells (both f x y) fun i => P i ∨ Q i := by
  refine ⟨?_, ?_, ?_⟩
  · intro h
    -- without an issue on either side there are two values, and so a value of both
    have hnone : x.issues ++ y.issues = [] := by rw [← issues_both (f := f), h]; rfl
    obtain ⟨hxnone, hynone⟩ := List.append_eq_nil_iff.mp hnone
    cases x with
    | error is => exact hx.reason (congrArg _ hxnone)
    | ok a =>
      cases y with
      | error js => exact hy.reason (congrArg _ hynone)
      | ok b => cases h
  · rw [issues_both, List.map_append, List.nodup_append]
    refine ⟨hx.apart, hy.apart, ?_⟩
    rintro p hp q hq
    obtain ⟨i, hi, rfl⟩ := List.mem_map.mp hp
    obtain ⟨j, hj, rfl⟩ := List.mem_map.mp hq
    exact hapart i j ((hx.mem i).mp hi) ((hy.mem j).mp hj)
  · intro i
    rw [issues_both, List.mem_append, hx.mem, hy.mem]

/-- A check of what may be given, which succeeds where nothing is. -/
theorem tells_given {o : Option Data} {P : Data → Issue → Prop} (hnone : o = none → ∃ a, x = .ok a)
    (hsome : ∀ d, o = some d → Tells x (P d)) : Tells x fun i => ∃ d, o = some d ∧ P d i := by
  cases o with
  | none =>
    obtain ⟨a, rfl⟩ := hnone rfl
    refine tells_ok ?_
    rintro i ⟨d, hd, -⟩
    cases hd
  | some d =>
    refine (hsome d rfl).congr fun i => ⟨fun hi => ⟨d, rfl, hi⟩, ?_⟩
    rintro ⟨d', hd, hi⟩
    cases hd
    exact hi

/-- A check succeeds when it has nothing to tell of. -/
theorem Tells.exists_ok_iff (h : Tells x P) : (∃ a, x = .ok a) ↔ ∀ i, ¬ P i := by
  constructor
  · rintro ⟨a, rfl⟩ i hi
    exact List.not_mem_nil ((h.mem i).mpr hi)
  · intro hnone
    cases x with
    | ok a => exact ⟨a, rfl⟩
    | error is =>
      have hnil : is = [] := List.eq_nil_iff_forall_not_mem.mpr fun i hi => hnone i ((h.mem i).mp hi)
      exact absurd (congrArg _ hnil) h.reason

end Checked

namespace Settings

open Checked (Tells tells_ok tells_error tells_given)

variable {α : Type} {place : List Step} {d v : Data} {i : Issue} {m fs : Mapping} {s : Section}
  {problem? : List Step → Data → Option Problem}

/-! ## Fields -/

/-- An issue of a value under a place. -/
def Under (place : List Step) (problem? : List Step → Data → Option Problem) (d : Data)
    (i : Issue) : Prop :=
  ∃ r v, i.place = place ++ r ∧ d.at? r = some v ∧ problem? r v = some i.problem

/-- Where nothing inside a value has a problem, the value as a whole has. -/
theorem under_iff_of_whole (h : ∀ a r v, d.at? (a :: r) = some v → problem? (a :: r) v = none) :
    Under place problem? d i ↔ i.place = place ∧ problem? [] d = some i.problem := by
  constructor
  · rintro ⟨r, v, hplace, hv, hp⟩
    match r with
    | [] =>
      cases hv
      exact ⟨hplace.trans (List.append_nil _), hp⟩
    | a :: r =>
      rw [h a r v hv] at hp
      cases hp
  · rintro ⟨hplace, hp⟩
    exact ⟨[], d, hplace.trans (List.append_nil _).symm, rfl, hp⟩

/-- A check of a value as a whole tells of its problem. -/
theorem tells_whole {x : Checked α}
    (hinside : ∀ a r v, d.at? (a :: r) = some v → problem? (a :: r) v = none)
    (hx : match problem? [] d with
      | none => ∃ a, x = .ok a
      | some p => x = .error [⟨place, p⟩]) : Tells x (Under place problem? d) := by
  cases hp : problem? [] d with
  | none =>
    rw [hp] at hx
    obtain ⟨a, rfl⟩ := hx
    refine tells_ok fun i hi => ?_
    rw [under_iff_of_whole hinside, hp] at hi
    cases hi.2
  | some p =>
    rw [hp] at hx
    subst hx
    refine tells_error fun j => ?_
    rw [under_iff_of_whole hinside, hp, Option.some.injEq]
    constructor
    · rintro ⟨rfl, rfl⟩
      rfl
    · rintro rfl
      exact ⟨rfl, rfl⟩

theorem tells_text (hd : d.IsJson) : Tells (text place d) (Under place FieldKind.text.problem? d) := by
  refine tells_whole (fun _ _ _ _ => rfl) ?_
  cases hd with
  | text s => exact ⟨s, rfl⟩
  | _ => rfl

theorem tells_optionalText (hd : d.IsJson) :
    Tells (optionalText place d) (Under place FieldKind.optionalText.problem? d) := by
  refine tells_whole (fun _ _ _ _ => rfl) ?_
  cases hd with
  | null => exact ⟨none, rfl⟩
  | text s => exact ⟨some s, rfl⟩
  | _ => rfl

theorem switchWord_of_isSwitchWord {t : String} (h : IsSwitchWord t) :
    ∃ b, switchWord place t = .ok b := by
  rcases List.mem_append.mp h with hon | hoff
  · exact ⟨true, if_pos hon⟩
  · rw [switchWord, if_pos hoff]
    split
    · exact ⟨true, rfl⟩
    · exact ⟨false, rfl⟩

theorem switchWord_of_other {t : String} (h : ¬ IsSwitchWord t) :
    switchWord place t = .error [⟨place, .unreadableSwitch⟩] := by
  rw [IsSwitchWord, List.mem_append, not_or] at h
  rw [switchWord, if_neg h.1, if_neg h.2]

/-- A number that is given for a switch counts as the whole number it is. -/
theorem switch_of_number (hd : (∃ n, d = .int n) ∨ ∃ x, d = .float x) :
    switch place d = match wholeNumber? d with
      | some n => switchNumber place n
      | none => .error [⟨place, .notSwitch⟩] := by
  rcases hd with ⟨n, rfl⟩ | ⟨x, rfl⟩
  · rw [switch, wholeNumber?]
    by_cases h : -switchBound ≤ n ∧ n < switchBound
    · simp only [if_pos h]
    · simp only [if_neg h]
  · rw [switch, wholeNumber?]
    cases x.toInt? with
    | none => rfl
    | some n =>
      rw [Option.filter_some]
      by_cases h : -switchBound < n ∧ n < switchBound
      · simp only [h, and_self, decide_true, if_true]
      · simp only [h, decide_false, if_false, Bool.false_eq_true]

theorem tells_switch (hd : d.IsJson) :
    Tells (switch place d) (Under place FieldKind.switch.problem? d) := by
  refine tells_whole (fun _ _ _ _ => rfl) ?_
  have hnumber (hd : (∃ n, d = .int n) ∨ ∃ x, d = .float x) :
      match FieldKind.switch.problem? [] d with
      | none => ∃ b, switch place d = .ok b
      | some p => switch place d = .error [⟨place, p⟩] := by
    have hproblem : FieldKind.switch.problem? [] d = numberProblem? (wholeNumber? d) := by
      rcases hd with ⟨n, rfl⟩ | ⟨x, rfl⟩ <;> rfl
    rw [hproblem, switch_of_number hd]
    cases wholeNumber? d with
    | none => rfl
    | some n =>
      by_cases hone : n = 1
      · exact hone ▸ ⟨true, rfl⟩
      · by_cases hzero : n = 0
        · exact hzero ▸ ⟨false, rfl⟩
        · simp only [numberProblem?, switchNumber, hone, hzero, or_self, if_false]
  cases hd with
  | bool b => exact ⟨b, rfl⟩
  | int n => exact hnumber (.inl ⟨n, rfl⟩)
  | float x => exact hnumber (.inr ⟨x, rfl⟩)
  | text t =>
    by_cases ht : IsSwitchWord t
    · simp only [FieldKind.problem?, switchProblem?, ht, if_true]
      exact switchWord_of_isSwitchWord ht
    · simp only [FieldKind.problem?, switchProblem?, ht, if_false]
      exact switchWord_of_other ht
  | _ => rfl

/-- An issue of an item of a list under a place, the first of them at the index `k`. -/
def OfItem (place : List Step) (k : Nat) (xs : List Data) (i : Issue) : Prop :=
  ∃ j v, xs[j]? = some v ∧ i.place = place ++ [.index (k + j : Nat)] ∧
    FieldKind.text.problem? [] v = some i.problem

theorem ofItem_cons {k : Nat} {x : Data} {xs : List Data} :
    OfItem place k (x :: xs) i ↔
      (i.place = place ++ [.index k] ∧ FieldKind.text.problem? [] x = some i.problem) ∨
        OfItem place (k + 1) xs i := by
  constructor
  · rintro ⟨j, v, hv, hplace, hp⟩
    match j with
    | 0 =>
      cases hv
      exact .inl ⟨hplace, hp⟩
    | j + 1 => exact .inr ⟨j, v, hv, by rw [hplace, Nat.add_assoc, Nat.add_comm 1], hp⟩
  · rintro (⟨hplace, hp⟩ | ⟨j, v, hv, hplace, hp⟩)
    · exact ⟨0, x, rfl, hplace, hp⟩
    · exact ⟨j + 1, v, hv, by rw [hplace, Nat.add_assoc, Nat.add_comm 1], hp⟩

/-- The texts of a list tell of the items that are none. -/
theorem tells_textsFrom {xs : List Data} (hxs : ∀ x ∈ xs, x.IsJson) (k : Nat) :
    Tells (Checked.all (textsFrom place k xs)) (OfItem place k xs) := by
  induction xs generalizing k with
  | nil =>
    refine tells_ok ?_
    rintro i ⟨j, v, hv, -⟩
    cases hv
  | cons x xs ih =>
    obtain ⟨hx, hxs⟩ := List.forall_mem_cons.mp hxs
    have hfirst : Tells (text (place ++ [.index k]) x) fun i =>
        i.place = place ++ [.index k] ∧ FieldKind.text.problem? [] x = some i.problem :=
      (tells_text hx).congr fun i => under_iff_of_whole fun _ _ _ _ => rfl
    rw [textsFrom, Checked.all]
    refine (hfirst.both (ih hxs (k + 1)) ?_).congr fun i => ofItem_cons.symm
    -- the other items come after the index of the first
    rintro i i' ⟨hi, -⟩ ⟨j, v, -, hi', -⟩ hsame
    rw [hi, hi', List.append_cancel_left_eq, List.singleton_inj, Step.index.injEq] at hsame
    omega

theorem under_list {xs : List Data} :
    Under place FieldKind.texts.problem? (.list xs) i ↔ OfItem place 0 xs i := by
  constructor
  · rintro ⟨r, v, hplace, hv, hp⟩
    match r with
    | [] => cases hv; cases hp
    | [.index (.ofNat j)] =>
      obtain ⟨x, hx, hv⟩ := Option.bind_eq_some_iff.mp hv
      cases hv
      exact ⟨j, v, hx, by rw [hplace, Nat.zero_add]; rfl, hp⟩
    | .index (.ofNat j) :: a :: r => cases hp
    | .index (.negSucc j) :: r => cases hv
    | .field n :: r => cases hv
  · rintro ⟨j, v, hv, hplace, hp⟩
    refine ⟨[.index (.ofNat j)], v, by rw [hplace, Nat.zero_add]; rfl, ?_, hp⟩
    exact Option.bind_eq_some_iff.mpr ⟨v, hv, rfl⟩

theorem tells_texts (hd : d.IsJson) :
    Tells (texts place (Comma.expand d)) (Under place FieldKind.texts.problem? d) := by
  cases hd with
  | text t =>
    have hread : texts place (Comma.expand (.text t)) = .ok (Comma.split t) := texts_listData _ _
    rw [hread]
    refine tells_ok ?_
    rintro i ⟨r, v, -, hv, hp⟩
    cases r <;> cases hv
    cases hp
  | list hxs => exact (tells_textsFrom hxs 0).congr fun i => under_list.symm
  | map keys apart values =>
    refine tells_whole ?_ rfl
    rintro (n | n) r v hv
    · rfl
    · cases hv
  | _ => exact tells_whole (fun a r v hv => by cases hv) rfl

/-- The extensions tell of what other texts do. -/
theorem tells_extensions (hd : d.IsJson)
    (htexts : ∀ xs, d = .list xs → ∀ x ∈ xs, x.text?.isSome = true) :
    Tells (texts place (dottedData (Comma.expand d))) (Under place FieldKind.texts.problem? d) := by
  -- a list of texts passes with the points and without them
  have hlisted (h : ∃ ts, Comma.expand d = listData ts) :
      Tells (texts place (dottedData (Comma.expand d))) (Under place FieldKind.texts.problem? d) := by
    obtain ⟨ts, hts⟩ := h
    have hplain : Tells (texts place (listData ts)) (Under place FieldKind.texts.problem? d) :=
      hts ▸ tells_texts hd
    rw [texts_listData] at hplain
    rw [hts, dottedData_listData, texts_listData]
    exact tells_ok (hplain.exists_ok_iff.mp ⟨ts, rfl⟩)
  cases hd with
  | text t => exact hlisted ⟨Comma.split t, rfl⟩
  | @list xs hxs => exact hlisted (exists_listData (htexts xs rfl))
  | map keys apart values => exact tells_texts (.map keys apart values)
  | null => exact tells_texts .null
  | bool b => exact tells_texts (.bool b)
  | int n => exact tells_texts (.int n)
  | float x => exact tells_texts (.float x)

/-- An issue of a field that a section knows. -/
def OfField (s : Section) (fs : Mapping) (f : String × FieldKind) (i : Issue) : Prop :=
  ∃ v, Mapping.field? fs f.1 = some v ∧ Under [.field s.key, .field f.1] f.2.problem? v i

/-- The fields that two places go through are the same when the places are. -/
theorem field_eq_of_place {k k' n n' : String} {r r' : List Step}
    (h : (.field k :: .field n :: r : List Step) = .field k' :: .field n' :: r') : n = n' :=
  Step.field.inj (List.cons.inj (List.cons.inj h).2).1

theorem OfField.exists_place {f : String × FieldKind} (h : OfField s fs f i) :
    ∃ r, i.place = .field s.key :: .field f.1 :: r := by
  obtain ⟨v, -, r, w, hplace, -⟩ := h
  exact ⟨r, hplace⟩

theorem OfField.place_ne {f g : String × FieldKind} {j : Issue} (hi : OfField s fs f i)
    (hj : OfField s fs g j) (hne : f.1 ≠ g.1) : i.place ≠ j.place := by
  obtain ⟨r, hr⟩ := hi.exists_place
  obtain ⟨q, hq⟩ := hj.exists_place
  rw [hr, hq]
  exact fun h => hne (field_eq_of_place h)

theorem tells_field {name : String} {kind : FieldKind} {default : α}
    {check : List Step → Data → Checked α}
    (h : ∀ v, Mapping.field? fs name = some v → Tells (check [.field s.key, .field name] v)
      (Under [.field s.key, .field name] kind.problem? v)) :
    Tells (field s fs name default check) (OfField s fs (name, kind)) := by
  refine tells_given (fun hnone => ⟨default, ?_⟩) fun v hv => ?_
  · rw [field, hnone]
  · rw [field, hv]
    exact h v hv

end Settings

end Handout
