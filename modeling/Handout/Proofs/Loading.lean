import Handout.Proofs.Documents

/-!
# Loading the settings

What the acts that load the settings come to where the files can be read: each file gives the value
of its bytes (`exec_readFile`) or nothing (`exec_readFile_of_absent`), both give one configuration
(`exec_configuration`), and the settings are read from it (`exec_settings_eq`). What a file gives is
tidy, since it is the value of a document.
-/

namespace Handout.Config

open Act Shared

variable {s t : Session} {w u : World} {dir : Path} {name : String}

/-! ## One file -/

theorem tidy_of_ofBytes {file : String} {bytes : List UInt8} {x : Shared}
    (h : ofBytes file bytes = .ok x) : Tidy x := by
  rw [ofBytes] at h
  split at h
  · cases h
  · split at h
    next => cases h
    next y hy =>
      cases h
      split
      · exact .map List.nodup_nil fun _ he => absurd he List.not_mem_nil
      · exact Yaml.tidy_document hy

theorem tidy_of_readFile {x : Shared}
    (h : (readFile dir name).exec s w = (.ok x, t, u)) : Tidy x := by
  rw [readFile, exec_call_bind] at h
  split at h
  · cases h
  · cases h
    exact .map List.nodup_nil fun _ he => absurd he List.not_mem_nil
  · rw [exec_call_bind] at h
    split at h
    · cases h
    next bytes _ =>
      cases hb : ofBytes name bytes with
      | error e => rw [hb] at h; cases h
      | ok y =>
        rw [hb] at h
        cases h
        exact tidy_of_ofBytes hb

/-- The value of a file that is there and can be read is that of its bytes. -/
theorem exec_readFile {bytes : List UInt8}
    (hthere : w.holds (dir.child name) (fun _ => true) = .ok true)
    (hread : w.unless? .read (dir.child name) (w.read (dir.child name)) = .ok bytes) :
    (readFile dir name).exec s w = (ofBytes name bytes, s, w) := by
  rw [readFile, exec_call_bind]
  simp only [World.answer, hthere]
  rw [exec_call_bind]
  simp only [World.answer, hread]
  cases ofBytes name bytes <;> rfl

/-- A file that is not there says nothing. -/
theorem exec_readFile_of_absent
    (hthere : w.holds (dir.child name) (fun _ => true) = .ok false) :
    (readFile dir name).exec s w = (.ok nothing, s, w) := by
  rw [readFile, exec_call_bind]
  simp only [World.answer, hthere]
  rfl

/-! ## Both files and the variables -/

/-- Two files that can be read give the configuration of both. -/
theorem exec_files {y m : Shared}
    (hy : (readFile dir sharedName).exec s w = (.ok y, s, w))
    (hm : (readFile dir localName).exec s w = (.ok m, s, w)) :
    (files dir).exec s w = ((override y m).mapError .misuse, s, w) := by
  rw [files, exec_bind, hy]
  dsimp only
  rw [exec_bind, hm]
  exact exec_ofExcept _ s w

/-- The configuration is that of the files under the variables. -/
theorem exec_configuration {y m : Shared}
    (hdir : directory.exec s w = (.ok dir, s, w))
    (hy : (readFile dir sharedName).exec s w = (.ok y, s, w))
    (hm : (readFile dir localName).exec s w = (.ok m, s, w)) :
    configuration.exec s w =
      (((override y m).bind fun c => (c.overrideAll w.environment).map data).mapError .misuse,
        s, w) := by
  rw [configuration, exec_bind, hdir]
  dsimp only
  rw [exec_bind, exec_files hy hm]
  cases override y m with
  | error e => rfl
  | ok c =>
    change ((call .environment >>= fun env =>
      Act.ofExcept (((c.overrideAll env).map data).mapError .misuse)).exec s w) = _
    rw [exec_call_bind, exec_ofExcept]
    rfl

/-- Without files, the configuration is what the variables say. -/
theorem exec_configuration_of_absent (hdir : directory.exec s w = (.ok dir, s, w))
    (hy : w.holds (dir.child sharedName) (fun _ => true) = .ok false)
    (hm : w.holds (dir.child localName) (fun _ => true) = .ok false) :
    configuration.exec s w =
      (((nothing.overrideAll w.environment).map data).mapError .misuse, s, w) :=
  exec_configuration hdir (exec_readFile_of_absent hy) (exec_readFile_of_absent hm)

/-- Settings that are loaded are those of the configuration. -/
theorem exec_settings_eq (hs : s.settings = none) {r : Except Stop Data}
    (h : configuration.exec s w = (r, s, w)) :
    (settings.exec s w).1 = r.bind fun c => (Settings.ofData c).mapError .settings := by
  rw [settings, exec_bind, exec_get]
  dsimp only
  rw [hs]
  dsimp only
  rw [exec_bind, h]
  cases r with
  | error e => rfl
  | ok c =>
    dsimp only
    cases hc : Settings.ofData c <;> simp only [Except.bind, hc] <;> rfl

end Handout.Config
