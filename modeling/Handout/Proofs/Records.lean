import Handout.Proofs.Calls

/-!
# Records of events

The records of an act are among its calls (`Act.records`), and a record tells of an event when it has
the fields of the event, and under all other names what is bound (`Event.ToldBy`). A session tells all
events when logging is set up in it and its threshold drops none (`Session.TellsAll`); then one event is
one record, and so it stays (`Log.tells_event`).

Loading the settings and setting logging up write no record, and they leave what is bound as it is
(`Config.steady_settings`, `Log.context_of_ensure`).

**What it does not establish.** Where records are written and how their lines look is not told here.
-/

namespace Handout

open Act

namespace Call

/-- The record that a call writes, if it writes one. -/
def recorded? : Call → Option Record
  | .record r => some r
  | _ => none

/-- A call that writes no record. -/
def Silent (c : Call) : Prop :=
  c.recorded? = none

/-- What prepares is told nowhere. -/
theorem Prepares.silent {c : Call} (h : c.Prepares) : c.Silent := by
  cases c with
  | record r => exact nomatch h.keeps
  | _ => rfl

end Call

namespace Act

variable {α β : Type}

/-- **The records of an act** in a session and a world, from the first to the last. -/
def records (x : Act α) (s : Session) (w : World) : List Record :=
  (x.calls s w).filterMap Call.recorded?

variable {x : Act α} {f : α → Act β} {s t : Session} {w u : World}

theorem records_bind_of_ok {a : α} (h : x.exec s w = (.ok a, t, u)) :
    (x >>= f).records s w = x.records s w ++ (f a).records t u := by
  rw [records, calls_bind, h, List.filterMap_append]
  rfl

theorem records_bind_of_error {e : Stop} (h : x.exec s w = (.error e, t, u)) :
    (x >>= f).records s w = x.records s w := by
  rw [records, calls_bind, h, List.append_nil]
  rfl

theorem records_pure (a : α) (s : Session) (w : World) : (pure a : Act α).records s w = [] :=
  rfl

/-- An act that only looks has no records. -/
theorem Calling.silent {E : Stop → Prop} (h : Calling Call.Looks E x) :
    Asks Call.Silent x :=
  h.prepares.mono fun _ hc => hc.silent

/-- An act that writes no record has none. -/
theorem Asks.records_eq_nil (hx : Asks Call.Silent x) (s : Session) (w : World) :
    x.records s w = [] :=
  List.filterMap_eq_nil_iff.mpr (hx s w)

theorem records_bind_of_silent {a : α} (hx : Asks Call.Silent x) (h : x.exec s w = (.ok a, t, u)) :
    (x >>= f).records s w = (f a).records t u := by
  rw [records_bind_of_ok h, hx.records_eq_nil, List.nil_append]

theorem records_bind_of_silent_error {e : Stop} (hx : Asks Call.Silent x)
    (h : x.exec s w = (.error e, t, u)) : (x >>= f).records s w = [] := by
  rw [records_bind_of_error h, hx.records_eq_nil]

end Act

/-! ## Events and their records -/

theorem Fields.get?_eq_none {f : Fields} {name : String} (h : name ∉ f.map Prod.fst) :
    get? f name = none :=
  List.lookup_eq_none_iff.mpr fun x hx =>
    bne_iff_ne.mpr fun heq => h (List.mem_map.mpr ⟨x, hx, heq.symm⟩)

/-- Values under distinct names. -/
structure Keywords where
  fields : Fields
  distinct : (fields.map Prod.fst).Nodup

/-- The names that there are values under. -/
def Keywords.names (k : Keywords) : List String :=
  k.fields.map Prod.fst

/-- What is put over fields wins, and what is under other names stays. -/
theorem Keywords.get?_merge (k : Keywords) (f : Fields) (name : String) :
    Fields.get? (Fields.merge f k.fields) name =
      (Fields.get? k.fields name).or (Fields.get? f name) := by
  obtain ⟨fields, hdistinct⟩ := k
  simp only
  induction fields generalizing f with
  | nil => rfl
  | cons x fields ih =>
    obtain ⟨m, d⟩ := x
    obtain ⟨hm, hfields⟩ := List.nodup_cons.mp hdistinct
    refine (ih (Fields.put f m d) hfields).trans ?_
    rw [Fields.get?_put]
    by_cases hname : name = m
    · subst hname
      have hnone : fields.lookup name = none := Fields.get?_eq_none hm
      simp [Fields.get?, hnone]
    · simp [Fields.get?, List.lookup_cons, beq_false_of_ne hname, hname]

/-- An event, as a part of the program gives it. -/
structure Event extends Keywords where
  logger : String
  severity : Severity
  name : String

namespace Event

/-- The act of an event. -/
def log (e : Event) : Act Unit :=
  Log.event e.logger e.severity e.name e.fields

/-- **A record tells of an event** where values are bound: it has the fields of the event, and what is
bound under all other names. -/
structure ToldBy (bound : String → Option Data) (e : Event) (r : Record) : Prop where
  severity : r.severity = e.severity
  logger : r.logger = e.logger
  name : r.name = e.name
  fields : ∀ name, Fields.get? r.fields name = (Fields.get? e.fields name).or (bound name)

variable {bound : String → Option Data} {e : Event} {es : List Event} {r : Record} {rs : List Record}

/-- Every record tells of one of the events. -/
theorem exists_of_toldBy (h : List.Forall₂ (ToldBy bound) es rs) :
    ∀ r ∈ rs, ∃ e ∈ es, e.ToldBy bound r := by
  induction h with
  | nil => exact nofun
  | @cons e r es rs hr _ ih =>
    refine List.forall_mem_cons.mpr ⟨⟨e, List.mem_cons_self, hr⟩, fun r hr => ?_⟩
    obtain ⟨e, he, htold⟩ := ih r hr
    exact ⟨e, List.mem_cons_of_mem _ he, htold⟩

/-- The last record tells of the last event. -/
theorem exists_last_of_toldBy (h : List.Forall₂ (ToldBy bound) (es ++ [e]) rs) :
    ∃ before last, rs = before ++ [last] ∧ e.ToldBy bound last := by
  induction es generalizing rs with
  | nil =>
    obtain _ | ⟨hr, ⟨⟩⟩ := h
    exact ⟨[], _, rfl, hr⟩
  | cons e' es ih =>
    obtain _ | ⟨-, hrest⟩ := h
    obtain ⟨before, last, rfl, hr⟩ := ih hrest
    exact ⟨_ :: before, last, rfl, hr⟩

/-- What is under some names in the records of events. -/
theorem map_of_toldBy (h : List.Forall₂ (ToldBy bound) es rs) {α : Type}
    (f : String → (String → Option Data) → α) :
    rs.map (fun r => f r.name (Fields.get? r.fields)) =
      es.map fun e => f e.name fun name => (Fields.get? e.fields name).or (bound name) := by
  induction h with
  | nil => rfl
  | cons hr _ ih => rw [List.map_cons, List.map_cons, hr.name, funext hr.fields, ih]

/-- A value that is bound is carried by an event that has no other one of its own. -/
theorem ToldBy.get? (h : e.ToldBy bound r) {name : String} {d : Data} (hd : bound name = some d)
    (he : (Fields.get? e.fields name).getD d = d) : Fields.get? r.fields name = some d := by
  rw [h.fields, hd]
  cases hown : Fields.get? e.fields name with
  | none => rfl
  | some d' =>
    rw [hown] at he
    exact congrArg some he

end Event

/-- **A session tells all events** under a context: logging is set up, and no event is dropped. -/
structure Session.TellsAll (c : Fields) (s : Session) : Prop where
  context : s.context = c
  style : s.logging.style.isSome
  threshold : s.logging.threshold ≤ Severity.debug.number

/-- A session in which nothing is bound and all events are told. -/
def Session.telling (settings : Option Settings) : Session :=
  ⟨settings, ⟨some .console, Severity.number .debug, []⟩, []⟩

namespace Log

variable {s : Session} {w : World} {c : Fields}

theorem records_event (logger : String) (severity : Severity) (name : String) (fields : Fields)
    (s : Session) (w : World) :
    (event logger severity name fields).records s w =
      match styleOf? s.logging logger with
      | none => []
      | some style =>
        if s.logging.threshold ≤ severity.number then
          [⟨style, severity, logger, name, Fields.merge s.context fields⟩]
        else [] := by
  rw [event, records_bind_of_silent asks_get (exec_get s w)]
  cases styleOf? s.logging logger with
  | none => rfl
  | some style =>
    rw [records_bind_of_silent (asks_set _) (exec_set _ s w)]
    split <;> rfl

/-- An act whose events carry some fields has the records of the act. -/
theorem records_within {α : Type} (fields : Fields) (x : Act α) (s : Session) (w : World) :
    (within fields x).records s w =
      x.records { s with context := Fields.merge s.context fields } w := by
  have hbind : Asks Call.Silent (bindFields fields) := asks_modify _
  rw [within, records_bind_of_silent hbind (exec_bindFields fields s w)]
  rw [records_bind_of_ok (exec_outcome x _ w), records, calls_outcome]
  refine (congrArg (_ ++ ·) (Asks.records_eq_nil ?_ _ _)).trans (List.append_nil _)
  exact .bind (asks_modify _) fun _ => asks_ofExcept _

theorem debug_le (severity : Severity) : Severity.debug.number ≤ severity.number := by
  cases severity <;> decide

/-- An event leaves what is bound as it is, whether it is told or not. -/
theorem context_of_event (e : Event) (s : Session) (w : World) :
    ∃ t u, e.log.exec s w = (.ok (), t, u) ∧ t.context = s.context := by
  rw [Event.log, exec_event_eq]
  split
  · exact ⟨s, w, rfl, rfl⟩
  · exact ⟨_, _, rfl, rfl⟩

/-- **An event is told** where all events are, and so are those after it. -/
theorem tells_event (h : s.TellsAll c) (e : Event) (w : World) :
    ∃ t u r, e.log.exec s w = (.ok (), t, u) ∧ t.TellsAll c ∧
      e.log.records s w = [r] ∧ e.ToldBy (Fields.get? c) r := by
  obtain ⟨style, hstyle⟩ : ∃ style, styleOf? s.logging e.logger = some style := by
    obtain ⟨style, hs⟩ := Option.isSome_iff_exists.mp h.style
    rw [styleOf?, hs]
    cases s.logging.fixed.lookup e.logger <;> exact ⟨_, rfl⟩
  have hgrave := Nat.le_trans h.threshold (debug_le e.severity)
  have hexec := exec_event_eq e.logger e.severity e.name e.fields s w
  have hrecords := records_event e.logger e.severity e.name e.fields s w
  simp only [hstyle, hgrave, if_true] at hexec hrecords
  refine ⟨_, _, _, hexec, ?_, hrecords, rfl, rfl, rfl, fun name => ?_⟩
  · refine ⟨h.context, ?_, ?_⟩ <;> simp only [fix] <;> split
    · exact h.style
    · exact h.style
    · exact h.threshold
    · exact h.threshold
  · rw [← h.context]
    exact e.toKeywords.get?_merge _ _

end Log

/-! ## The settings and the set-up -/

theorem Config.silent_settings : Asks Call.Silent Config.settings :=
  asks_settings.mono fun _ hc => hc.silent

/-- **Loading the settings** changes nothing in the session but what settings are known. -/
theorem Config.steady_settings {r : Except Stop Settings} {s t : Session} {w u : World}
    (h : Config.settings.exec s w = (r, t, u)) : t.context = s.context ∧ t.logging = s.logging := by
  rw [settings, exec_bind, exec_get] at h
  simp only at h
  split at h
  · cases h
    exact ⟨rfl, rfl⟩
  · rw [exec_bind] at h
    have hsteady := calling_configuration.steady s w
    rcases hconfig : configuration.exec s w with ⟨e | config, s₁, w₁⟩ <;> rw [hconfig] at h hsteady
    · cases h
      exact hsteady ▸ ⟨rfl, rfl⟩
    · simp only [exec_bind, exec_ofExcept] at h
      cases hload : (Settings.ofData config).mapError Stop.settings <;> rw [hload] at h <;> cases h
      · exact hsteady ▸ ⟨rfl, rfl⟩
      · exact hsteady ▸ ⟨rfl, rfl⟩

theorem Session.TellsAll.of_eq {c : Fields} {s t : Session} (h : s.TellsAll c)
    (heq : t.context = s.context ∧ t.logging = s.logging) : t.TellsAll c :=
  ⟨heq.1.trans h.context, heq.2 ▸ h.style, heq.2 ▸ h.threshold⟩

/-- **Setting logging up** keeps the fields of every event, and once it came to its end there is a
style. -/
theorem Log.context_of_ensure {level : Option String} {r : Except Stop Unit} {s t : Session}
    {w u : World} (h : (Log.ensure level).exec s w = (r, t, u)) :
    t.context = s.context ∧ (r = .ok () → t.logging.style.isSome) := by
  rw [ensure, exec_bind, exec_get] at h
  simp only at h
  split at h
  · rw [configure, exec_bind] at h
    rcases hload : Config.settings.exec s w with ⟨e | st, s₁, w₁⟩ <;> rw [hload] at h <;>
      obtain ⟨hcontext, -⟩ := Config.steady_settings hload
    · cases h
      exact ⟨hcontext, fun h => by cases h⟩
    · simp only [exec_bind] at h
      have hsteady := (calling_attachNamed (none.or st.general.logFile)).steady s₁ w₁
      rcases hattach : (attachNamed (none.or st.general.logFile)).exec s₁ w₁ with ⟨e | _, s₂, w₂⟩ <;>
        rw [hattach] at h hsteady <;> obtain rfl : s₂ = s₁ := hsteady
      · cases h
        exact ⟨hcontext, fun h => by cases h⟩
      · simp only at h
        split at h <;> cases h
        · exact ⟨hcontext, fun h => by cases h⟩
        · exact ⟨hcontext, fun _ => rfl⟩
  · next hstyle =>
    have hsome : s.logging.style.isSome := by simpa [Option.isSome_iff_ne_none] using hstyle
    cases h
    exact ⟨rfl, fun _ => hsome⟩

theorem Log.silent_ensure (level : Option String) : Asks Call.Silent (Log.ensure level) :=
  (asks_ensure level).mono fun _ hc => hc.silent

end Handout
