import Mathlib
import Handout.Proofs.Bytes
import Handout.Proofs.Runs

/-!
# What processing leaves of a file's bytes

In UTF-8, a file is left as it is when its bytes are not valid, is deleted when they begin with the
mark, and otherwise holds some of its lines, byte for byte, the ones that the grammar does not remove
when it sees every byte as a character (`processFile_keeps_lines`).

Only a log file holds more than that, when it is the file that is processed: the record of its
processing comes after its lines (`log_file_gets_record`), and nothing but records does.
-/

namespace Handout

namespace Processing

open Act World Bytes

theorem ascii_deletionMark (v : Variant) : ∀ c ∈ v.deletionMark.toList, Ascii c := by
  cases v <;> exact ascii_of_all rfl

section

variable [Codecs] {w : World} {p : Path} {l : Location} {b : List UInt8}

/-- The text of a file in UTF-8, where reading is not made to fail. -/
theorem textOf_utf8 (hp : w.Holds p l b) (hread : w.fault? .read p = none) :
    textOf w p "utf-8" =
      match Utf8.decode b with
      | .ok text => .ok (Encoding.utf8.codec, text)
      | .error f => .error (.failure ⟨p, .decode, f.message⟩) := by
  have hname : Codec.ofName? "utf-8" = some Encoding.utf8.codec :=
    Codec.ofName?_of_described Encoding.ofName?_utf8
  rw [textOf, Codec.not_isBroken_of_ofName? hname, unless?, hread, read_eq_ok.mpr ⟨l, hp⟩, hname]
  simp only [Bool.false_eq_true, if_false, Encoding.codec, Encoding.decode]
  cases Utf8.decode b <;> rfl

/-- **Processing keeps lines byte for byte.** A file that holds bytes which are no UTF-8 stays as it
is; one whose bytes begin with the mark is deleted; any other one holds afterwards some of its lines,
the ones that the variant keeps of the bytes read one by one, and after them only records, if it is the
log file. -/
theorem processFile_keeps_lines (hp : w.Holds p l b) (hfault : ∀ c, w.fault? c p = none)
    (v : Variant) (s : Session) :
    (¬ b.toByteArray.IsValidUTF8 →
      ∃ reason, (processFile p v (some "utf-8") false).exec s w =
        (.error (.failure ⟨p, .decode, reason⟩), s, w)) ∧
    (b.toByteArray.IsValidUTF8 → ofAscii v.deletionMark.toList <+: b →
      ∃ t u d, (processFile p v (some "utf-8") false).exec s w = (.ok ⟨p, .deleted, true⟩, t, u) ∧
        w.find false p = .ok d ∧ w.store.GoesTo d l ∧ u.store.get? d = none) ∧
    (b.toByteArray.IsValidUTF8 → ¬ ofAscii v.deletionMark.toList <+: b →
      ∃ t u changed ls, ∃ records : List Record,
        (processFile p v (some "utf-8") false).exec s w = (.ok ⟨p, .rewritten, changed⟩, t, u) ∧
        KeptLines v b ls ∧
        u.store.get? l = some (.file (ls.flatten ++ records.flatMap w.recordBytes)) ∧
        (w.log ≠ some l → records = [])) := by
  have htext := textOf_utf8 hp (hfault .read)
  have hcomes := comesTo_processFile w p v "utf-8" false s
  rw [attempt] at hcomes
  refine ⟨fun hinvalid => ?_, fun hvalid hmark => ?_, fun hvalid hmark => ?_⟩
  -- the bytes are no text
  · cases hb : Utf8.decode b with
    | ok text => exact absurd (Utf8.exists_decode_iff.mp ⟨text, hb⟩) hinvalid
    | error f =>
      rw [htext, hb] at hcomes
      exact ⟨f.message, hcomes⟩
  -- the text is deleted, and no log is left that could stand where it was
  · obtain ⟨text, hb⟩ := Utf8.exists_decode_iff.mpr hvalid
    obtain rfl := Utf8.encode_of_decode hb
    rw [ofAscii_prefix_iff (ascii_deletionMark v), ← List.isPrefixOf_iff_prefix] at hmark
    obtain ⟨d, e, hfind, hd, hdir, hdoomed, hgoes⟩ := hp.exists_doomed
    rw [htext, hb] at hcomes
    simp only [enactUnless, Bool.false_eq_true, if_false, Plan.of, hmark, if_true,
      enact, unless?, hfault, hdoomed, Except.map] at hcomes
    obtain ⟨t, u, hexec, hnoted⟩ := hcomes
    refine ⟨t, u, d, hexec, hfind, hgoes, ?_⟩
    have hgone : (w.erase d).store.get? d = none :=
      (Store.get?_erase _ _ _ (ne_nil_of_entry hd hdir)).trans (if_pos rfl)
    have hlog : (w.erase d).log ≠ some d := by
      rw [erase]
      simp [Option.filter_eq_some_iff]
    rw [hnoted.get? hlog, hgone]
  -- the text is rewritten, and records come after what is kept of it
  · obtain ⟨text, hb⟩ := Utf8.exists_decode_iff.mpr hvalid
    obtain rfl := Utf8.encode_of_decode hb
    rw [ofAscii_prefix_iff (ascii_deletionMark v), ← List.isPrefixOf_iff_prefix] at hmark
    obtain ⟨ls, hkept, hflat⟩ := exists_keptLines v text
    rw [htext, hb] at hcomes
    simp only [enactUnless, Bool.false_eq_true, if_false, Plan.of, hmark, enact, unless?, hfault,
      hp.target_eq, Encoding.codec, Encoding.encode, writing, written, Except.map] at hcomes
    obtain ⟨t, u, hexec, hnoted⟩ := hcomes
    have hheld := (hp.put (Utf8.encode (v.transform text))).file
    obtain ⟨records, hrecords, hnone⟩ := hnoted.exists_file hheld
    exact ⟨t, u, _, ls, records, hexec, hkept, hflat ▸ hrecords, hnone⟩

end

open Run (plain attached loaded top)

/-- A part of the solution between two lines outside of ASCII. -/
def mixedText : List Char :=
  "é\u2028€\r\n// START SOLUTION ü\n漢字\n// END SOLUTION\n😀\x00\n".toList

/-- A store with that text in a file. -/
def mixedFile : Store :=
  ⟨[(["a.js"], .file (Utf8.encode mixedText))], List.pairwise_singleton _ _⟩

theorem processFile_keeps_mixed_lines :
    ∃ t u changed, (processFile (top "a.js") .problem (some "utf-8") false).exec (loaded .standard)
        (plain mixedFile) = (.ok ⟨top "a.js", .rewritten, changed⟩, t, u) ∧
      u.store.get? ["a.js"] =
        some (.file (Utf8.encode "é\u2028€\r\n😀\x00\n".toList)) := by
  have hheld : (plain mixedFile).Holds (top "a.js") ["a.js"] (Utf8.encode mixedText) :=
    ⟨by decide, rfl⟩
  have hvalid := Utf8.exists_decode_iff.mp ⟨mixedText, Utf8.decode_encode mixedText⟩
  have hmark : ¬ ofAscii Variant.problem.deletionMark.toList <+: Utf8.encode mixedText := by
    rw [ofAscii_prefix_iff (ascii_deletionMark .problem)]
    decide
  obtain ⟨t, u, changed, ls, records, hexec, hkept, hfile, hnone⟩ :=
    (processFile_keeps_lines hheld (fun _ => rfl) .problem (loaded .standard)).2.2 hvalid hmark
  -- the lines are those that the scan of the bytes keeps
  have hls : ls.flatten = Utf8.encode "é\u2028€\r\n😀\x00\n".toList := by
    refine asText_injective ?_
    rw [asText_flatten, hkept.scan]
    decide
  rw [hls, hnone nofun, List.flatMap_nil, List.append_nil] at hfile
  exact ⟨t, u, changed, hexec, hfile⟩

/-! ## The log file itself -/

/-- A world whose only file is the one that records are sent to. -/
def ownLog : World :=
  { attached ⟨[(["run.log"], .file [])], by decide⟩ with log := some ["run.log"] }

/-- A session in which every event is recorded. -/
def recording : Session :=
  { loaded .standard with logging := ⟨some .console, Severity.number .debug, []⟩ }

/-- **A log file that is processed gets a record**, which is no line of it. -/
theorem log_file_gets_record :
    ownLog.Holds (top "run.log") ["run.log"] [] ∧ (∀ c, ownLog.fault? c (top "run.log") = none) ∧
    ([] : List UInt8).toByteArray.IsValidUTF8 ∧
    ¬ ofAscii Variant.problem.deletionMark.toList <+: [] ∧
    ¬ ∃ t u changed ls,
      (processFile (top "run.log") .problem (some "utf-8") false).exec recording ownLog =
        (.ok ⟨top "run.log", .rewritten, changed⟩, t, u) ∧
      KeptLines .problem [] ls ∧ u.store.get? ["run.log"] = some (.file ls.flatten) := by
  have hheld : ownLog.Holds (top "run.log") ["run.log"] [] := ⟨by cbv, by cbv⟩
  refine ⟨hheld, fun _ => rfl, Utf8.exists_decode_iff.mp ⟨[], rfl⟩, by decide, ?_⟩
  rintro ⟨t, u, changed, ls, hexec, hkept, hfile⟩
  have hplan : Plan.of .problem [] = .rewrite [] := by
    rw [Plan.of, Variant.transform_eq_kept]
    rfl
  have hattempt : attempt ownLog (top "run.log") .problem "utf-8" false =
      (.ok ⟨top "run.log", .rewritten, false⟩, ownLog.put ["run.log"] (.file [])) := by
    refine attempt_eq_ok.mpr ⟨_, _, textOf_utf8 hheld rfl, ?_, by rw [hplan]; rfl⟩
    rw [enactUnless, if_neg Bool.false_ne_true, hplan]
    exact enact_rewrite_eq_ok.mpr ⟨_, _, unless?_eq_ok.mpr ⟨rfl, hheld.target_eq⟩, rfl, rfl⟩
  have hcontent := (hheld.put []).file
  have hstyle : Log.styleOf? recording.logging logger = some .console := rfl
  have hgrave : recording.logging.threshold ≤ Severity.debug.number := Nat.le_refl 10
  rw [exec_processFile, hattempt] at hexec
  simp only [recorded, exec_bind, Log.exec_event_eq, hstyle, if_pos hgrave] at hexec
  rw [exec_pure] at hexec
  cases hexec
  obtain rfl : ls = [] := List.sublist_nil.mp hkept.sublist
  rw [record_log rfl hcontent] at hfile
  exact recordBytes_ne_nil _ _ (Entry.file.inj (Option.some.inj hfile))

end Processing

end Handout
