import Handout.Proofs.Records

/-!
# Blocks of bound fields

A nesting is what can be done with the fields of every event in blocks that are closed in the order in
which they were opened (`Nesting`). A block binds its fields when it is entered and takes their names
away when it is left, whatever they were bound to before. So a nesting leaves under each name what was
done last with it, and nothing that it does depends on what was bound before (`exec_act`).

Of a nesting of blocks only, what was done last with a name is that it was taken away
(`touches_of_onlyBlocks`). What was bound before is restored where no name of a block was bound, and
only there (`blocks_take_names_away`, `inner_block_takes_outer_away`).

The proofs go by what is done with one name after the other: what is done later counts, and what was
done before a block belongs to what was bound when it was entered (`Touches.above_andThen`).

**What it does not establish.** The order in which fields stand in what is bound is not told.
-/

namespace Handout

open Act

/-! ## What is done with names -/

/-- **What was done last with a name**: a value was bound under it, or what was bound was taken away;
`none` where nothing was done with it. -/
abbrev Touches := String → Option (Option Data)

namespace Touches

/-- What was done first, and then more. -/
def andThen (m later : Touches) : Touches :=
  fun name => (later name).or (m name)

/-- What is bound once it is done. -/
def above (m : Touches) (bound : String → Option Data) : String → Option Data :=
  fun name => (m name).getD (bound name)

theorem above_andThen (m later : Touches) (bound : String → Option Data) :
    (m.andThen later).above bound = later.above (m.above bound) := by
  funext name
  simp only [andThen, above]
  cases later name <;> rfl

/-- Nothing is done. -/
def untouched : Touches :=
  fun _ => none

/-- Values are bound. -/
def binding (k : Keywords) : Touches :=
  fun name => (Fields.get? k.fields name).map some

/-- What is bound is taken away. -/
def unbinding (names : List String) : Touches :=
  fun name => if name ∈ names then some none else none

/-- Fields that are put over others are bound. -/
theorem above_binding (k : Keywords) (f : Fields) :
    Fields.get? (Fields.merge f k.fields) = (binding k).above (Fields.get? f) := by
  funext name
  rw [k.get?_merge, above, binding]
  cases Fields.get? k.fields name <;> rfl

/-- Fields that are erased are not bound. -/
theorem above_unbinding (names : List String) (f : Fields) :
    Fields.get? (Fields.erase f names) = (unbinding names).above (Fields.get? f) := by
  funext name
  rw [Fields.get?_erase, above, unbinding]
  split <;> rfl

theorem unbinding_andThen (names later : List String) :
    (unbinding names).andThen (unbinding later) = unbinding (names ++ later) := by
  funext name
  simp only [andThen, unbinding, List.mem_append]
  by_cases h : name ∈ later <;> simp [h]

/-- What is bound is of no account once its names are taken away. -/
theorem binding_andThen_unbinding (k : Keywords) (names : List String) :
    ((binding k).andThen (unbinding names)).andThen (unbinding k.names) =
      unbinding (k.names ++ names) := by
  funext name
  simp only [andThen, unbinding, List.mem_append]
  by_cases h : name ∈ k.names
  · simp [h]
  · have hnone : Fields.get? k.fields name = none := Fields.get?_eq_none h
    by_cases hn : name ∈ names <;> simp [h, hn, binding, hnone]

end Touches

/-! ## Nestings -/

/-- **A nesting of blocks.** Blocks are closed in the order in which they were opened, at their end or
by a stop, which goes on until it is met. -/
inductive Nesting
  | nothing
  | stop (e : Stop)
  | event (e : Event)
  | bind (k : Keywords)
  | unbind (names : List String)
  | both (x y : Nesting)
  | block (k : Keywords) (x : Nesting)
  | meet (x : Nesting)

namespace Nesting

open Touches

/-- The act of a nesting. -/
def act : Nesting → Act Unit
  | nothing => pure ()
  | stop e => throw e
  | event e => e.log
  | bind k => Log.bindFields k.fields
  | unbind names => Log.unbindFields names
  | both x y => do
    x.act
    y.act
  | block k x => Log.within k.fields x.act
  | meet x => do
    let _ ← x.act.outcome
    return ()

/-- How a nesting ends. -/
def result : Nesting → Except Stop Unit
  | stop e => .error e
  | both x y =>
    match x.result with
    | .ok _ => y.result
    | .error e => .error e
  | block _ x => x.result
  | _ => .ok ()

/-- What a nesting does last with each name. -/
def touches : Nesting → Touches
  | bind k => .binding k
  | unbind names => .unbinding names
  | both x y =>
    match x.result with
    | .ok _ => x.touches.andThen y.touches
    | .error _ => x.touches
  | block k x => ((Touches.binding k).andThen x.touches).andThen (.unbinding k.names)
  | meet x => x.touches
  | _ => .untouched

/-- The events of a nesting, each with what was done with the names before it. -/
def events : Nesting → List (Event × Touches)
  | event e => [(e, .untouched)]
  | both x y =>
    match x.result with
    | .ok _ => x.events ++ y.events.map fun (e, m) => (e, x.touches.andThen m)
    | .error _ => x.events
  | block k x => x.events.map fun (e, m) => (e, (Touches.binding k).andThen m)
  | meet x => x.events
  | _ => []

variable {s : Session} {w : World}

/-- A record tells of an event of a nesting, where values were bound before the nesting. -/
def Tells (bound : String → Option Data) (x : Event × Touches) (r : Record) : Prop :=
  x.1.ToldBy (x.2.above bound) r

/-- What is done before a nesting belongs to what was bound before it. -/
theorem tells_after {bound : String → Option Data} {m : Touches} {xs : List (Event × Touches)}
    {rs : List Record} (h : List.Forall₂ (Tells (m.above bound)) xs rs) :
    List.Forall₂ (Tells bound) (xs.map fun (e, later) => (e, m.andThen later)) rs := by
  refine List.forall₂_map_left_iff.mpr (h.imp fun x r hr => ?_)
  rw [Tells, m.above_andThen]
  exact hr

/-- **What was done last with a name counts**, after a nesting and for each of its events. -/
theorem exec_act (x : Nesting) (s : Session) (w : World) :
    ∃ t u, x.act.exec s w = (x.result, t, u) ∧
      Fields.get? t.context = x.touches.above (Fields.get? s.context) ∧
      (s.TellsAll s.context → t.TellsAll t.context ∧
        List.Forall₂ (Tells (Fields.get? s.context)) x.events (x.act.records s w)) := by
  induction x generalizing s w with
  | nothing => exact ⟨s, w, rfl, rfl, fun h => ⟨h, .nil⟩⟩
  | stop e => exact ⟨s, w, rfl, rfl, fun h => ⟨h, .nil⟩⟩
  | event e =>
    obtain ⟨t, u, hexec, hcontext⟩ := Log.context_of_event e s w
    refine ⟨t, u, hexec, congrArg Fields.get? hcontext, fun h => ?_⟩
    obtain ⟨t', u', r, hexec', ht, hrecords, hr⟩ := Log.tells_event h e w
    cases hexec.symm.trans hexec'
    exact ⟨hcontext ▸ ht, hrecords ▸ .cons hr .nil⟩
  | bind k =>
    refine ⟨_, w, rfl, ?_, fun h => ⟨⟨rfl, h.style, h.threshold⟩, .nil⟩⟩
    exact above_binding k s.context
  | unbind names =>
    refine ⟨_, w, rfl, ?_, fun h => ⟨⟨rfl, h.style, h.threshold⟩, .nil⟩⟩
    exact above_unbinding names s.context
  | both x y ihx ihy =>
    obtain ⟨t₁, u₁, hx, hcontext₁, htold₁⟩ := ihx s w
    cases hresult : x.result with
    | error e =>
      rw [hresult] at hx
      simp only [result, touches, events, hresult]
      refine ⟨t₁, u₁, exec_bind_eq_error.mpr (.inl hx), hcontext₁, fun h => ?_⟩
      rw [act, records_bind_of_error hx]
      exact htold₁ h
    | ok _ =>
      rw [hresult] at hx
      obtain ⟨t, u, hy, hcontext, htold⟩ := ihy t₁ u₁
      simp only [result, touches, events, hresult]
      refine ⟨t, u, ?_, by rw [hcontext, hcontext₁, above_andThen], fun h => ?_⟩
      · rw [act, exec_bind, hx]
        exact hy
      · obtain ⟨h₁, hfirst⟩ := htold₁ h
        obtain ⟨h₂, hlater⟩ := htold h₁
        rw [act, records_bind_of_ok hx]
        rw [hcontext₁] at hlater
        exact ⟨h₂, List.rel_append hfirst (tells_after hlater)⟩
  | block k x ih =>
    obtain ⟨t, u, hx, hcontext, htold⟩ :=
      ih { s with context := Fields.merge s.context k.fields } w
    have hin := above_binding k s.context
    refine ⟨{ t with context := Fields.erase t.context k.names }, u, ?_, ?_, fun h => ?_⟩
    · rw [act, Log.exec_within, hx]
      rfl
    · refine (above_unbinding _ _).trans ?_
      rw [touches, above_andThen, above_andThen, hcontext, hin]
    · obtain ⟨ht, hevents⟩ := htold ⟨rfl, h.style, h.threshold⟩
      rw [act, Log.records_within]
      rw [hin] at hevents
      exact ⟨⟨rfl, ht.style, ht.threshold⟩, tells_after hevents⟩
  | meet x ih =>
    obtain ⟨t, u, hx, hcontext, htold⟩ := ih s w
    have houtcome := exec_outcome x.act s w
    rw [hx] at houtcome
    refine ⟨t, u, exec_bind_eq_ok.mpr ⟨_, _, _, houtcome, rfl⟩, hcontext, fun h => ?_⟩
    obtain ⟨ht, hevents⟩ := htold h
    rw [act, records_bind_of_ok houtcome, records_pure, List.append_nil, records, calls_outcome]
    exact ⟨ht, hevents⟩

/-! ## Nestings of blocks only -/

/-- Nothing is bound or taken away but by blocks. -/
def OnlyBlocks : Nesting → Prop
  | bind _ | unbind _ => False
  | both x y => x.OnlyBlocks ∧ y.OnlyBlocks
  | block _ x => x.OnlyBlocks
  | meet x => x.OnlyBlocks
  | _ => True

/-- The names of the blocks that are entered. -/
def entered : Nesting → List String
  | both x y =>
    match x.result with
    | .ok _ => x.entered ++ y.entered
    | .error _ => x.entered
  | block k x => k.names ++ x.entered
  | meet x => x.entered
  | _ => []

variable {x : Nesting}

/-- **Blocks take away all their names**, those of blocks within them too. -/
theorem touches_of_onlyBlocks (h : x.OnlyBlocks) : x.touches = unbinding x.entered := by
  induction x with
  | nothing | stop | event => rfl
  | bind | unbind => exact h.elim
  | both x y ihx ihy =>
    rw [touches, entered, ihx h.1, ihy h.2]
    cases x.result with
    | error e => rfl
    | ok _ => exact unbinding_andThen _ _
  | block k x ih =>
    rw [touches, entered, ih h]
    exact binding_andThen_unbinding _ _
  | meet x ih => exact ih h

/-- What is bound after blocks. -/
theorem above_touches_of_onlyBlocks (h : x.OnlyBlocks) (bound : String → Option Data) (name : String) :
    x.touches.above bound name = if name ∈ x.entered then none else bound name := by
  rw [touches_of_onlyBlocks h, above, unbinding]
  split <;> rfl

/-- **An event after blocks, within another block**, carries the values of that block but for the names
of the blocks before it. -/
theorem records_after_blocks (h : x.OnlyBlocks) (hx : x.result = .ok ()) (hs : s.TellsAll s.context)
    (k : Keywords) (e : Event) (w : World) :
    ∃ before r, (block k (both x (event e))).act.records s w = before ++ [r] ∧ ∀ name,
      Fields.get? r.fields name = (Fields.get? e.fields name).or
        (if name ∈ x.entered then none
          else (Fields.get? k.fields name).or (Fields.get? s.context name)) := by
  obtain ⟨t, u, hexec, hcontext, htold⟩ :=
    exec_act x { s with context := Fields.merge s.context k.fields } w
  obtain ⟨ht, -⟩ := htold ⟨rfl, hs.style, hs.threshold⟩
  obtain ⟨_, _, r, -, -, hrecords, hr⟩ := Log.tells_event ht e u
  rw [hx] at hexec
  refine ⟨x.act.records { s with context := Fields.merge s.context k.fields } w, r, ?_, fun name => ?_⟩
  · rw [act, Log.records_within, act, records_bind_of_ok hexec]
    exact congrArg _ hrecords
  · rw [hr.fields, hcontext, above_touches_of_onlyBlocks h]
    simp only [k.get?_merge]

/-! ## What a nesting leaves -/

/-- **What a nesting of blocks leaves.** It leaves under each name what was done last with it, or what
was bound before if nothing was; its events carry what was done last before them. Of blocks only, that
is: the names of the blocks that were entered are taken away, and no value is brought back that they had
before. So what was bound is restored just when none of those names was, and an event after blocks
within another one carries the values of that one except under those names. -/
theorem blocks_take_names_away (x : Nesting) (s : Session) (w : World) :
    ∃ t u, x.act.exec s w = (x.result, t, u) ∧
      Fields.get? t.context = x.touches.above (Fields.get? s.context) ∧
      (s.TellsAll s.context →
        List.Forall₂ (Tells (Fields.get? s.context)) x.events (x.act.records s w)) ∧
      (x.OnlyBlocks →
        (Fields.get? t.context = Fields.get? s.context ↔
          ∀ name ∈ x.entered, Fields.get? s.context name = none) ∧
        (∀ name, Fields.get? t.context name =
          if name ∈ x.entered then none else Fields.get? s.context name) ∧
        (x.result = .ok () → s.TellsAll s.context → ∀ k e, ∃ before r,
          (block k (both x (event e))).act.records s w = before ++ [r] ∧ ∀ name,
            Fields.get? r.fields name = (Fields.get? e.fields name).or
              (if name ∈ x.entered then none
                else (Fields.get? k.fields name).or (Fields.get? s.context name)))) := by
  obtain ⟨t, u, hexec, hcontext, htold⟩ := exec_act x s w
  refine ⟨t, u, hexec, hcontext, fun hs => (htold hs).2, fun h => ?_⟩
  have hleft : ∀ name, Fields.get? t.context name =
      if name ∈ x.entered then none else Fields.get? s.context name := fun name => by
    rw [hcontext, above_touches_of_onlyBlocks h]
  refine ⟨⟨fun hsame name hname => ?_, fun hnone => funext fun name => ?_⟩, hleft, ?_⟩
  · rw [← hsame, hleft, if_pos hname]
  · rw [hleft]
    split
    · next hname => exact (hnone name hname).symm
    · rfl
  · exact fun hx hs k e => records_after_blocks h hx hs k e w

/-- A value under the name of the variant. -/
def mode (word : String) : Keywords :=
  ⟨[("mode", .text word)], by simp⟩

/-- A value under another name. -/
def job : Keywords :=
  ⟨[("job", .int 1)], by simp⟩

/-- An event without fields. -/
def after : Event :=
  ⟨⟨[], by simp⟩, "app", .info, "after"⟩

/-- **A block within a block of another name** restores what was bound, and an event after it carries
the value of the outer one. -/
theorem block_of_other_name_restores :
    let s := { Session.telling none with context := (mode "solution").fields }
    let inner := block job nothing
    ∃ t u, inner.act.exec s (Run.plain .empty) = (.ok (), t, u) ∧
      Fields.get? t.context = Fields.get? s.context ∧
      ∃ before r, (block (mode "problem") (both inner (event after))).act.records s (Run.plain .empty) =
          before ++ [r] ∧
        Fields.get? r.fields "mode" = some (.text "problem") := by
  intro s inner
  have hs : s.TellsAll s.context := ⟨rfl, rfl, Nat.le_refl 10⟩
  obtain ⟨t, u, hexec, -, -, hblocks⟩ := blocks_take_names_away inner s (Run.plain .empty)
  obtain ⟨hrestores, -, hafter⟩ := hblocks trivial
  obtain ⟨before, r, hrecords, hr⟩ := hafter rfl hs (mode "problem") after
  have hfree : ∀ name ∈ inner.entered, Fields.get? s.context name = none := by
    intro name hname
    obtain rfl := List.mem_singleton.mp hname
    rfl
  exact ⟨t, u, hexec, hrestores.mpr hfree, before, r, hrecords, hr "mode"⟩

/-- **A block within a block of the same name** does not restore what was bound, and an event after it
carries no value under that name. -/
theorem inner_block_takes_outer_away :
    (¬ ∀ (k : Keywords) (x : Nesting) (s : Session) (w : World), x.OnlyBlocks →
      Fields.get? ((block k x).act.exec s w).2.1.context = Fields.get? s.context) ∧
    ∃ r, (block (mode "problem") (both (block (mode "solution") nothing) (event after))).act.records
        (.telling none) (Run.plain .empty) = [r] ∧
      Fields.get? r.fields "mode" = none := by
  refine ⟨fun hrestores => ?_, _, rfl, rfl⟩
  have hmode := congrFun (hrestores (mode "solution") nothing
    { Session.telling none with context := (mode "problem").fields } (Run.plain .empty) trivial) "mode"
  cases hmode

end Nesting

end Handout
