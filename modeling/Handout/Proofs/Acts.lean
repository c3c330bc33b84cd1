import Handout.Config.Sources

/-!
# What acts can do

An act is **confined** when every way that it can go moves the world along a relation and stops only
for causes of some kind. Acts in a row are confined when each of them is (`Confined.bind`), so that
what a long act can do is told by its parts.

An act **only calls** when it is made of calls and stops of some kind and has nothing to do with the
session (`Calling`). That is seen once for an act, and what it can do is then told by the calls: it is
confined as they are (`Calling.confined`). The acts that load the settings only look, so they change
nothing, and they stop for no failure of the kind that the program reports (`confined_settings`).
-/

namespace Handout

namespace Except

variable {ε α β : Type} {x : Except ε α}

theorem bind_eq_ok {f : α → Except ε β} {b : β} :
    x.bind f = .ok b ↔ ∃ a, x = .ok a ∧ f a = .ok b := by
  cases x <;> simp [Except.bind]

theorem map_eq_ok {f : α → β} {b : β} : x.map f = .ok b ↔ ∃ a, x = .ok a ∧ f a = b := by
  cases x <;> simp [Except.map]

theorem map_eq_error {f : α → β} {e : ε} : x.map f = .error e ↔ x = .error e := by
  cases x <;> simp [Except.map]

theorem mapError_eq_ok {ε' : Type} {f : ε → ε'} {a : α} : x.mapError f = .ok a ↔ x = .ok a := by
  cases x with
  | error e => exact ⟨nofun, nofun⟩
  | ok b => exact ⟨fun h => congrArg _ (Except.ok.inj h), fun h => congrArg _ (Except.ok.inj h)⟩

theorem mapError_eq_error {ε' : Type} {f : ε → ε'} {e : ε'} :
    x.mapError f = .error e ↔ ∃ d, x = .error d ∧ f d = e := by
  cases x with
  | error d =>
    constructor
    · exact fun h => ⟨d, rfl, Except.error.inj h⟩
    · rintro ⟨_, hd, rfl⟩
      cases hd
      rfl
  | ok a => exact ⟨nofun, fun ⟨_, h, _⟩ => nomatch h⟩

end Except

/-- A call that only asks how things are. -/
def Call.Looks : Call → Prop
  | .write _ _ | .delete _ | .makeDirectory _ | .attach _ | .record _ | .print _ | .complain _ => False
  | _ => True

/-- A call that loading the settings makes. -/
def Call.Loads : Call → Prop
  | .environment | .present _ | .read _ => True
  | _ => False

theorem Call.Loads.looks {c : Call} (h : c.Loads) : c.Looks := by
  cases c with
  | environment | present | read => trivial
  | _ => exact h.elim

theorem World.answer_of_looks {c : Call} (h : c.Looks) (w : World) : (w.answer c).2 = w := by
  cases c with
  | write | delete | makeDirectory | attach | record | print | complain => exact h.elim
  | _ => rfl

namespace Act

variable {α β : Type} {R : World → World → Prop} {E : Stop → Prop} {x : Act α} {f : α → Act β}

/-! ## Confined acts -/

/-- A relation between the world before an act and the one after it, which acts in a row keep. -/
structure Lasting (R : World → World → Prop) : Prop where
  refl : ∀ w, R w w
  trans : ∀ {u v w}, R u v → R v w → R u w

theorem lasting_eq : Lasting Eq :=
  ⟨fun _ => rfl, Eq.trans⟩

theorem lasting_true : Lasting fun _ _ => True :=
  ⟨fun _ => trivial, fun _ _ => trivial⟩

/-- **An act is confined** to moves along a relation and to stops of some kind. -/
def Confined (R : World → World → Prop) (E : Stop → Prop) (x : Act α) : Prop :=
  ∀ s w, R w (x.exec s w).2.2 ∧ ∀ e, (x.exec s w).1 = .error e → E e

theorem confined_pure (hR : Lasting R) (a : α) : Confined R E (pure a) :=
  fun _ w => ⟨hR.refl w, fun _ h => nomatch h⟩

theorem confined_throw (hR : Lasting R) {e : Stop} (he : E e) : Confined R E (throw e : Act α) :=
  fun _ w => ⟨hR.refl w, fun _ h => Except.error.inj h ▸ he⟩

theorem confined_call {c : Call} (h : ∀ w, R w (w.answer c).2) : Confined R E (call c) :=
  fun _ w => ⟨h w, fun _ h => nomatch h⟩

theorem confined_get (hR : Lasting R) : Confined R E get :=
  fun _ w => ⟨hR.refl w, fun _ h => nomatch h⟩

theorem confined_modify (hR : Lasting R) (g : Session → Session) : Confined R E (modify g) :=
  fun _ w => ⟨hR.refl w, fun _ h => nomatch h⟩

theorem Confined.bind (hR : Lasting R) (hx : Confined R E x) (hf : ∀ a, Confined R E (f a)) :
    Confined R E (x >>= f) := by
  intro s w
  obtain ⟨hmove, hstop⟩ := hx s w
  rw [exec_bind]
  rcases hr : x.exec s w with ⟨e | a, t, v⟩
  · rw [hr] at hmove hstop
    exact ⟨hmove, fun e' he => hstop e' (congrArg Except.error (Except.error.inj he))⟩
  · rw [hr] at hmove
    obtain ⟨hnext, hstop⟩ := hf a t v
    exact ⟨hR.trans hmove hnext, hstop⟩

theorem Confined.mono {R' : World → World → Prop} {E' : Stop → Prop} (h : Confined R E x)
    (hR : ∀ w v, R w v → R' w v) (hE : ∀ e, E e → E' e) : Confined R' E' x :=
  fun s w => ⟨hR _ _ (h s w).1, fun e he => hE e ((h s w).2 e he)⟩

theorem exec_call_bind (c : Call) (g : c.Answer → Act β) (s : Session) (w : World) :
    (call c >>= g).exec s w = (g (w.answer c).1).exec s (w.answer c).2 :=
  exec_bind (call c) g s w

/-- An act that came to a result went through the results of its parts. -/
theorem exec_bind_eq_ok {b : β} {s t : Session} {w v : World} :
    (x >>= f).exec s w = (.ok b, t, v) ↔
      ∃ a s' w', x.exec s w = (.ok a, s', w') ∧ (f a).exec s' w' = (.ok b, t, v) := by
  rw [exec_bind]
  rcases x.exec s w with ⟨e | a, s', w'⟩ <;> simp [and_assoc]

/-- An act that stopped did so in its first part, or after the result of that. -/
theorem exec_bind_eq_error {e : Stop} {s t : Session} {w v : World} :
    (x >>= f).exec s w = (.error e, t, v) ↔
      x.exec s w = (.error e, t, v) ∨
        ∃ a s' w', x.exec s w = (.ok a, s', w') ∧ (f a).exec s' w' = (.error e, t, v) := by
  rw [exec_bind]
  rcases x.exec s w with ⟨e | a, s', w'⟩ <;> simp [and_assoc]

theorem Confined.moved {r : Except Stop α} {s t : Session} {w v : World} (h : Confined R E x)
    (hx : x.exec s w = (r, t, v)) : R w v := by
  have hw := (h s w).1
  rwa [hx] at hw

/-- An act that leaves the world as it is ends in it. -/
theorem Confined.exists_exec {r : Except Stop α} {s : Session} {w : World} (h : Confined Eq E x)
    (hr : (x.exec s w).1 = r) : ∃ t, x.exec s w = (r, t, w) := by
  rcases hx : x.exec s w with ⟨r', t, v⟩
  rw [hx] at hr
  obtain rfl : w = v := h.moved hx
  exact ⟨t, Prod.ext hr rfl⟩

theorem Confined.stopped {e : Stop} {s t : Session} {w v : World} (h : Confined R E x)
    (hx : x.exec s w = (.error e, t, v)) : E e :=
  (h s w).2 e (by rw [hx])

/-! ## Acts that only call -/

/-- **An act that only calls**, and stops if it does for causes of some kind. -/
inductive Calling (C : Call → Prop) (E : Stop → Prop) : {α : Type} → Act α → Prop
  | pure {α : Type} (a : α) : Calling C E (Pure.pure a : Act α)
  | throw {α : Type} {e : Stop} (he : E e) : Calling C E (MonadExcept.throw e : Act α)
  | call {c : Call} (hc : C c) : Calling C E (Act.call c)
  | bind {α β : Type} {x : Act α} {f : α → Act β} (hx : Calling C E x)
      (hf : ∀ a, Calling C E (f a)) : Calling C E (x >>= f)

variable {C C' : Call → Prop} {E' : Stop → Prop}

theorem Calling.mono (h : Calling C E x) (hC : ∀ c, C c → C' c) (hE : ∀ e, E e → E' e) :
    Calling C' E' x := by
  induction h with
  | pure a => exact .pure a
  | throw he => exact .throw (hE _ he)
  | call hc => exact .call (hC _ hc)
  | bind _ _ ihx ihf => exact .bind ihx ihf

/-- **An act that only calls is confined** as its calls are. -/
theorem Calling.confined (h : Calling C E x) (hR : Lasting R)
    (hC : ∀ c, C c → ∀ w, R w (w.answer c).2) : Confined R E x := by
  induction h with
  | pure a => exact confined_pure hR a
  | throw he => exact confined_throw hR he
  | call hc => exact confined_call (hC _ hc)
  | bind _ _ ihx ihf => exact .bind hR ihx ihf

theorem calling_ofExcept {r : Except Stop α} (h : ∀ e, r = .error e → E e) :
    Calling C E (ofExcept r) := by
  cases r with
  | error e => exact .throw (h e rfl)
  | ok a => exact .pure a

/-- An act that only looks leaves the world as it is. -/
theorem Calling.unmoved (h : Calling Call.Looks E x) : Confined Eq E x :=
  h.confined lasting_eq fun _ hc w => (World.answer_of_looks hc w).symm

/-- **An act that only calls leaves the session as it is.** -/
theorem Calling.steady (h : Calling C E x) (s : Session) (w : World) : (x.exec s w).2.1 = s := by
  induction h generalizing s w with
  | pure a => rfl
  | throw he => rfl
  | call hc => rfl
  | @bind _ _ x f _ _ ihx ihf =>
    have hs := ihx s w
    rw [exec_bind]
    rcases hr : x.exec s w with ⟨e | a, t, v⟩
    · rwa [hr] at hs
    · rw [hr] at hs
      exact (ihf a t v).trans hs

theorem exec_ofExcept (r : Except Stop α) (s : Session) (w : World) :
    (ofExcept r).exec s w = (r, s, w) := by
  cases r <;> rfl

theorem confined_ofExcept (hR : Lasting R) {r : Except Stop α} (h : ∀ e, r = .error e → E e) :
    Confined R E (ofExcept r) := by
  cases r with
  | error e => exact confined_throw hR (h e rfl)
  | ok a => exact confined_pure hR a

end Act

/-- A stop that is no failure of a call on a path that the program would report. -/
def Stop.Foreign (e : Stop) : Prop :=
  ∀ f, e ≠ .failure f

namespace Config

open Act

/-! ## Loading the settings -/

theorem foreign_of_ofBytes {file : String} {bytes : List UInt8} {e : Stop}
    (h : ofBytes file bytes = .error e) : e.Foreign := by
  rw [ofBytes] at h
  split at h
  · cases h; exact fun _ h => nomatch h
  · split at h
    · cases h; exact fun _ h => nomatch h
    · cases h

theorem foreign_of_mapError {ε α : Type} {x : Except ε α} {f : ε → Stop} {e : Stop}
    (h : x.mapError f = .error e) (hf : ∀ a, (f a).Foreign) : e.Foreign := by
  obtain ⟨a, -, rfl⟩ := Except.mapError_eq_error.mp h
  exact hf a

theorem calling_readFile (dir : Path) (name : String) :
    Calling Call.Loads Stop.Foreign (readFile dir name) := by
  refine .bind (.call trivial) fun r => ?_
  match r with
  | .error e => exact .throw fun _ h => nomatch h
  | .ok false => exact .pure _
  | .ok true =>
    refine .bind (.call trivial) fun r => ?_
    match r with
    | .error e => exact .throw fun _ h => nomatch h
    | .ok bytes => exact calling_ofExcept fun e h => foreign_of_ofBytes h

theorem calling_files (dir : Path) : Calling Call.Loads Stop.Foreign (files dir) := by
  refine .bind (calling_readFile _ _) fun config => .bind (calling_readFile _ _) fun machine => ?_
  exact calling_ofExcept fun e h => foreign_of_mapError h fun _ _ h => nomatch h

theorem calling_configuration : Calling Call.Loads Stop.Foreign configuration := by
  refine .bind (.bind (.call trivial) fun env => .pure _) fun dir => ?_
  refine .bind (calling_files dir) fun config => .bind (.call trivial) fun env => ?_
  exact calling_ofExcept fun e h => foreign_of_mapError h fun _ _ h => nomatch h

/-- Settings are known once they are loaded. -/
theorem settings_of_exec_settings {st : Settings} {s t : Session} {w v : World}
    (h : settings.exec s w = (.ok st, t, v)) : t.settings = some st := by
  rw [settings, exec_bind, exec_get] at h
  simp only at h
  split at h
  · next hs =>
    cases h
    exact hs
  · obtain ⟨config, s₁, w₁, -, h⟩ := exec_bind_eq_ok.mp h
    obtain ⟨st', s₂, w₂, -, h⟩ := exec_bind_eq_ok.mp h
    cases h
    rfl

/-- Settings that are known are the ones that loading gives. -/
theorem exec_settings_of_known {st : Settings} {s : Session} (h : s.settings = some st)
    (w : World) : settings.exec s w = (.ok st, s, w) := by
  rw [settings, exec_bind, exec_get]
  simp only [h]
  rfl

/-- **Loading the settings** changes nothing in the world and reports no failure. -/
theorem confined_settings : Confined Eq Stop.Foreign settings := by
  refine .bind lasting_eq (confined_get lasting_eq) fun s => ?_
  split
  · exact confined_pure lasting_eq _
  · have hlooks := calling_configuration.mono (fun _ hc => hc.looks) fun _ he => he
    refine .bind lasting_eq hlooks.unmoved fun config => ?_
    refine .bind lasting_eq (confined_ofExcept lasting_eq fun e h =>
      foreign_of_mapError h fun _ _ h => nomatch h) fun s => ?_
    exact .bind lasting_eq (confined_modify lasting_eq _) fun _ => confined_pure lasting_eq _

end Config

end Handout
