import Mathlib
import Handout.Proofs.Refusals
import Handout.Proofs.Settled

/-!
# Files that come out unchanged

A file that is rewritten is said to be unchanged just when its lines are settled for the variant
(`unchanged_iff_settled`), so also where tags of the other family stand in it that form no block.

A file whose text is its own variant is written all the same, from its text. So it holds its old
bytes afterwards just when those are the bytes of the text. In the described encodings, but for the one
that switches, they are when they begin with the mark that the encoding writes
(`rewritten_unchanged_iff`). An encoding that takes bytes without its mark changes them:
`rewritten_unchanged_gets_mark`.

**What it does not establish.** Of another codec only this is said: the bytes that are written are the
ones that it has for the text.
-/

namespace Handout.Processing

open Act World
open LineScan (Settled goesAlone opens closes)

variable {s s₁ t : Session} {w w₁ u : World} {p : Path} {v : Variant} {l : Location} {b : List UInt8}
  {encoding : Option String} {name : String}

/-! ## What is said of a settled file -/

/-- **A file that is not deleted** is rewritten, and said to be unchanged just when its lines are
settled. Else it could not be opened to be written, or its codec refused the text and left it empty. -/
theorem exec_processFile_rewrite [Codecs]
    (hname : (encodingName encoding).exec s w = (.ok name, s₁, w₁))
    {codec : Codec} {text : List Char} (htext : textOf w p name = .ok (codec, text))
    (hmark : ¬ v.deletionMark.toList <+: text) (dryRun : Bool) :
    (∃ changed t u, (processFile p v encoding dryRun).exec s w =
        (.ok ⟨p, .rewritten, changed⟩, t, u) ∧
      (changed = false ↔ Settled v (Line.ofText text))) ∨
    (∃ e, dryRun = false ∧ w.unless? .write p (w.target p) = .error e ∧
      (processFile p v encoding dryRun).exec s w =
        (.error (.failure ⟨p, .write, e.reason⟩), s₁, w)) ∨
    ∃ r l, dryRun = false ∧ codec.encode (v.transform text) = .error r ∧
      w.unless? .write p (w.target p) = .ok l ∧
      (processFile p v encoding dryRun).exec s w =
        (.error (unwritten r), s₁, w.put l (.file [])) := by
  obtain rfl : w = w₁ := (confined_encodingName encoding).moved hname
  have hplan : Plan.of v text = .rewrite (v.transform text) :=
    Plan.of_eq_rewrite.mpr ⟨hmark, rfl⟩
  have hcomes := comesTo_processFile w p v name dryRun s₁
  rw [exec_processFile_of_name hname]
  have hdone : ∀ u, enactUnless dryRun w p codec (Plan.of v text) = (.ok (), u) →
      ∃ changed t u, (processFile p v (some name) dryRun).exec s₁ w =
          (.ok ⟨p, .rewritten, changed⟩, t, u) ∧
        (changed = false ↔ Settled v (Line.ofText text)) := by
    intro u hu
    rw [attempt_eq_ok.mpr ⟨codec, text, htext, hu, rfl⟩, hplan] at hcomes
    obtain ⟨t, u', hexec, -⟩ := hcomes
    exact ⟨_, t, u', hexec, bne_eq_false_iff_eq.trans Variant.transform_eq_self_iff⟩
  cases dryRun with
  | true => exact .inl (hdone w rfl)
  | false =>
    cases hwrite : w.unless? .write p (w.target p) with
    | error e =>
      rw [attempt_of_refused (.write htext hplan rfl hwrite)] at hcomes
      exact .inr (.inl ⟨e, rfl, rfl, hcomes⟩)
    | ok l =>
      cases hcode : codec.encode (v.transform text) with
      | ok bytes =>
        refine .inl (hdone (w.put l (.file bytes)) ?_)
        rw [enactUnless, if_neg Bool.false_ne_true, hplan, enact, hwrite, hcode]
        rfl
      | error r =>
        rw [attempt_of_refused (.unwritten htext hplan rfl hwrite hcode)] at hcomes
        exact .inr (.inr ⟨r, l, rfl, rfl, rfl, hcomes⟩)

/-- **What comes out unchanged.** A variant leaves a text as it is just when its lines are settled for
it, as they are where no tag is, and where the ends of the other family stand above its starts. And a
file that is not deleted is said to be unchanged just then, if it can be written: if it can be opened,
and its codec has bytes for the text of the variant. -/
theorem unchanged_iff_settled [Codecs] (v : Variant) :
    (∀ text, v.transform text = text ↔ Settled v (Line.ofText text)) ∧
    (∀ above below : List (List Char), (∀ l ∈ above ++ below, goesAlone v l = false) →
      (∀ l ∈ above, opens v.other l = false) → (∀ l ∈ below, closes v.other l = false) →
      Settled v (above ++ below)) ∧
    ∀ {s s₁ : Session} {w w₁ : World} {encoding : Option String} {name : String} {p : Path}
      {codec : Codec} {text : List Char} (dryRun : Bool),
      (encodingName encoding).exec s w = (.ok name, s₁, w₁) →
      textOf w p name = .ok (codec, text) → ¬ v.deletionMark.toList <+: text →
      (∃ changed t u, (processFile p v encoding dryRun).exec s w =
          (.ok ⟨p, .rewritten, changed⟩, t, u) ∧
        (changed = false ↔ Settled v (Line.ofText text))) ∨
      (∃ e, dryRun = false ∧ w.unless? .write p (w.target p) = .error e ∧
        (processFile p v encoding dryRun).exec s w =
          (.error (.failure ⟨p, .write, e.reason⟩), s₁, w)) ∨
      ∃ r l, dryRun = false ∧ codec.encode (v.transform text) = .error r ∧
        w.unless? .write p (w.target p) = .ok l ∧
        (processFile p v encoding dryRun).exec s w =
          (.error (unwritten r), s₁, w.put l (.file [])) :=
  ⟨fun _ => Variant.transform_eq_self_iff, fun _ _ => LineScan.settled_append,
    fun dryRun hname htext hmark => exec_processFile_rewrite hname htext hmark dryRun⟩

open Run (plain loaded top)

/-- A world with one file of some bytes. -/
def holding (bytes : List UInt8) : World :=
  plain ⟨[(["a.js"], .file bytes)], List.pairwise_singleton _ _⟩

theorem holds_holding (bytes : List UInt8) : (holding bytes).Holds (top "a.js") ["a.js"] bytes :=
  ⟨by cbv, by cbv⟩

/-- An end without a start above, a start without an end below, and a line between them. -/
def strays : List Char :=
  "// END SOLUTION\nx\n// START SOLUTION\n".toList

theorem unchanged_strays :
    ∃ t u, (processFile (top "a.js") .problem none false).exec (loaded .standard)
      (holding (Utf8.encode strays)) = (.ok ⟨top "a.js", .rewritten, false⟩, t, u) := by
  obtain ⟨-, happend, hfile⟩ := unchanged_iff_settled .problem
  have hsettled : Settled .problem (Line.ofText strays) :=
    happend ["// END SOLUTION\n".toList] ["x\n".toList, "// START SOLUTION\n".toList]
      (by decide +kernel) (by decide +kernel) (by decide +kernel)
  have hname : (encodingName none).exec (loaded .standard) (holding (Utf8.encode strays)) =
      (.ok "utf-8", loaded .standard, holding (Utf8.encode strays)) := rfl
  have hheld := holds_holding (Utf8.encode strays)
  have htext : textOf (holding (Utf8.encode strays)) (top "a.js") "utf-8" =
      .ok (Encoding.utf8.codec, strays) :=
    textOf_of_described hheld rfl Encoding.ofName?_utf8 (Encoding.decode_utf8_encode _)
  rcases hfile false hname htext (by decide +kernel) with
    ⟨changed, t, u, hexec, hchanged⟩ | ⟨e, -, hwrite, -⟩ | ⟨r, l, -, hcode, -⟩
  · rw [hchanged.mpr hsettled] at hexec
    exact ⟨t, u, hexec⟩
  · rw [unless?_eq_ok.mpr ⟨rfl, hheld.target_eq⟩] at hwrite
    cases hwrite
  · cases hcode

/-! ## What a file said to be unchanged holds -/

/-- **A file said to be unchanged.** It has a text by the codec asked for, and holds the bytes that the
codec has for that text afterwards, with what is recorded after them if it is the log file. In a
described encoding, but for the one that switches, these are its old bytes just when the old ones begin
with the mark of the encoding. -/
theorem rewritten_unchanged_iff [Codecs]
    (hname : (encodingName encoding).exec s w = (.ok name, s₁, w)) (hfile : w.Holds p l b)
    (hexec : (processFile p v encoding false).exec s w = (.ok ⟨p, .rewritten, false⟩, t, u)) :
    ∃ codec text bytes, ∃ records : List Record, Codec.ofName? name = some codec ∧
      codec.decode b = .ok text ∧ codec.encode text = .ok bytes ∧
      u.store.get? l = some (.file (bytes ++ records.flatMap w.recordBytes)) ∧
      (w.log ≠ some l → records = []) ∧
      ∀ enc, Encoding.ofName? name = some enc → enc ≠ .switched → (bytes = b ↔ enc.mark <+: b) := by
  rw [exec_processFile_of_name hname] at hexec
  obtain ⟨u₀, hattempt, hnoted⟩ := (comesTo_processFile w p v name false s₁).eq_ok hexec
  obtain ⟨codec, text, htext, henact, hresult⟩ := attempt_eq_ok.mp hattempt
  obtain ⟨b', hread, hcodec, hdecode⟩ := textOf_eq_ok.mp htext
  -- what was read is what the file holds
  obtain ⟨l', hfile'⟩ := read_eq_ok.mp (unless?_eq_ok.mp hread).2
  obtain rfl : l = l' := Except.ok.inj (hfile.found.symm.trans hfile'.found)
  obtain rfl : b = b' := by
    have hsame := hfile.file.symm.trans hfile'.file
    cases hsame
    rfl
  -- the plan is to write the text itself
  obtain hplan : Plan.of v text = .rewrite text := by
    cases hplan : Plan.of v text with
    | delete =>
      rw [hplan] at hresult
      cases hresult
    | rewrite new =>
      rw [hplan] at hresult
      have hsame : (new != text) = false := (congrArg FileResult.changed hresult).symm
      rw [bne_eq_false_iff_eq.mp hsame]
  rw [enactUnless, if_neg Bool.false_ne_true, hplan] at henact
  obtain ⟨m, bytes, hm, hbytes, hwritten⟩ := enact_rewrite_eq_ok.mp henact
  obtain rfl : l = m := Except.ok.inj (hfile.target_eq.symm.trans (unless?_eq_ok.mp hm).2)
  obtain ⟨records, hrecords, hnone⟩ := hnoted.exists_file (hwritten ▸ (hfile.put bytes).file)
  subst hwritten
  refine ⟨codec, text, bytes, records, hcodec, hdecode, hbytes, hrecords, hnone, fun enc henc hne => ?_⟩
  obtain rfl := Codec.eq_of_described henc hcodec
  rw [← Encoding.encode_eq_self_iff hne hdecode]
  exact ⟨fun h => h ▸ hbytes, fun h => Except.ok.inj (hbytes.symm.trans h)⟩

/-- The bytes of a mark and a line after it. -/
def markedLine : List UInt8 := [0xEF, 0xBB, 0xBF, 0x61, 0x0A]

theorem attempt_holding {bytes : List UInt8} (h : Encoding.utf8Marked.decode bytes = .ok ['a', '\n']) :
    attempt (holding bytes) (top "a.js") .problem "utf-8-sig" false =
      (.ok ⟨top "a.js", .rewritten, false⟩, (holding bytes).put ["a.js"] (.file markedLine)) := by
  have hplan : Plan.of .problem ['a', '\n'] = .rewrite ['a', '\n'] := by
    rw [Plan.of, Variant.transform_eq_kept]
    rfl
  have hmarked : Encoding.utf8Marked.codec.encode ['a', '\n'] = .ok markedLine := by decide
  have htext : textOf (holding bytes) (top "a.js") "utf-8-sig" =
      .ok (Encoding.utf8Marked.codec, ['a', '\n']) :=
    textOf_of_described (holds_holding bytes) rfl rfl h
  refine attempt_eq_ok.mpr ⟨_, _, htext, ?_, by rw [hplan]; rfl⟩
  rw [enactUnless, if_neg Bool.false_ne_true, hplan]
  exact enact_rewrite_eq_ok.mpr
    ⟨_, _, unless?_eq_ok.mpr ⟨rfl, (holds_holding bytes).target_eq⟩, hmarked, rfl⟩

theorem rewritten_unchanged_marked :
    ∃ t u, (processFile (top "a.js") .problem (some "utf-8-sig") false).exec (loaded .standard)
        (holding markedLine) = (.ok ⟨top "a.js", .rewritten, false⟩, t, u) ∧
      u.store.get? ["a.js"] = some (.file markedLine) := by
  have hcomes := comesTo_processFile (holding markedLine) (top "a.js") .problem "utf-8-sig" false
    (loaded .standard)
  rw [attempt_holding (by decide)] at hcomes
  obtain ⟨t, u, hexec, -⟩ := hcomes
  have hname : (encodingName (some "utf-8-sig")).exec (loaded .standard) (holding markedLine) =
      (.ok "utf-8-sig", loaded .standard, holding markedLine) := rfl
  obtain ⟨codec, text, bytes, records, -, -, -, hfile, hnone, hsame⟩ :=
    rewritten_unchanged_iff hname (holds_holding markedLine) hexec
  obtain rfl := (hsame .utf8Marked rfl (by decide)).mpr (by decide)
  rw [hnone (by decide), List.flatMap_nil, List.append_nil] at hfile
  exact ⟨t, u, hexec, hfile⟩

/-- **A file without its mark gets one** and is said to be unchanged. -/
theorem rewritten_unchanged_gets_mark :
    Encoding.utf8Marked.decode [0x61, 0x0A] = .ok ['a', '\n'] ∧
    ∃ t u, (processFile (top "a.js") .problem (some "utf-8-sig") false).exec (loaded .standard)
        (holding [0x61, 0x0A]) = (.ok ⟨top "a.js", .rewritten, false⟩, t, u) ∧
      u.store.get? ["a.js"] = some (.file markedLine) ∧ markedLine ≠ [0x61, 0x0A] := by
  have hdecode : Encoding.utf8Marked.decode [0x61, 0x0A] = .ok ['a', '\n'] := by decide
  have hcomes := comesTo_processFile (holding [0x61, 0x0A]) (top "a.js") .problem "utf-8-sig" false
    (loaded .standard)
  rw [attempt_holding hdecode] at hcomes
  obtain ⟨t, u, hexec, hnoted⟩ := hcomes
  refine ⟨hdecode, t, u, hexec, ?_, by decide⟩
  have hlog : ((holding [0x61, 0x0A]).put ["a.js"] (.file markedLine)).log ≠ some ["a.js"] := nofun
  rw [hnoted.get? hlog, ((holds_holding _).put markedLine).file]

end Handout.Processing
