import Handout.Proofs.Scan

/-!
# Blocks and what stands around them

A scan over two lists of lines is a scan over the first and then one over the second
(`keptFrom_append`). Of the second list, the scan over the first needs to know one thing only:
whether some line of it closes a block. So `keptBefore` and `inBlockAfter` are told that answer and
never see the lines themselves.

A block goes whole from either state of the scan (`keptFrom_block`): between removals its first line
starts one, and within an earlier block that was never closed its first line is passed over like any
other. Either way the removal ends with the line that closes the block, and nothing that the scan
does elsewhere depends on the body. That is the law `plan_independent_of_body`: no annotated file
lets the reference code of a block through to the other variant, whatever stands around the block.
-/

namespace Handout

namespace LineScan

variable (v : Variant)

/-! ## Scans over lines that others follow -/

/-- The lines that stay of some lines, where it is known whether one below them closes a block. -/
def keptBefore (closed : Bool) : Bool → List (List Char) → List (List Char)
  | _, [] => []
  | true, l :: ls => keptBefore closed (!closes v.other l) ls
  | false, l :: ls =>
    if opens v.other l && (ls.any (closes v.other) || closed) then keptBefore closed true ls
    else if goesAlone v l then keptBefore closed false ls
    else l :: keptBefore closed false ls

/-- Whether a block is being removed after some lines. -/
def inBlockAfter (closed : Bool) : Bool → List (List Char) → Bool
  | b, [] => b
  | true, l :: ls => inBlockAfter closed (!closes v.other l) ls
  | false, l :: ls =>
    inBlockAfter closed (opens v.other l && (ls.any (closes v.other) || closed)) ls

/-- **A scan over lines one after the other.** -/
theorem keptFrom_append (b : Bool) (ls ms : List (List Char)) :
    keptFrom v b (ls ++ ms) =
      keptBefore v (ms.any (closes v.other)) b ls ++
        keptFrom v (inBlockAfter v (ms.any (closes v.other)) b ls) ms := by
  induction ls generalizing b with
  | nil => cases b <;> rfl
  | cons l ls ih =>
    cases b with
    | true => exact ih _
    | false =>
      rw [List.cons_append, keptFrom, startsBlock, List.any_append, keptBefore, inBlockAfter]
      cases opens v.other l && (ls.any (closes v.other) || ms.any (closes v.other)) with
      | true => exact ih true
      | false =>
        cases goesAlone v l with
        | true => exact ih false
        | false => exact congrArg (l :: ·) (ih false)

/-! ## A block -/

/-- A start tag that no end tag of the line follows opens a block. -/
theorem opens_of_isOn {v : Variant} {l : List Char} (hs : (Tag.start v).isOn l = true)
    (hc : closes v l = false) : opens v l = true := by
  obtain ⟨r, hr⟩ := (Tag.isOn_iff (Tag.proper_start v)).mp hs
  refine opens_iff.mpr ⟨r, hr, ?_⟩
  rintro ⟨r', hr'⟩
  have hstop : (Tag.stop v).isOn l = true :=
    (Tag.isOn_iff (Tag.proper_stop v)).mpr ⟨r', hr'.of_after hr⟩
  rw [closes, hstop] at hc
  cases hc

/-- A block that is being removed goes through the line that closes it. -/
theorem keptFrom_body {body : List (List Char)} (hb : ∀ l ∈ body, closes v.other l = false)
    {e : List Char} (he : closes v.other e = true) (ls : List (List Char)) :
    keptFrom v true (body ++ e :: ls) = keptFrom v false ls := by
  induction body with
  | nil => rw [List.nil_append, keptFrom, he]; rfl
  | cons l body ih =>
    rw [List.cons_append, keptFrom, hb l List.mem_cons_self]
    exact ih fun m hm => hb m (List.mem_cons_of_mem l hm)

/-- **A block goes whole**, between removals and within an earlier block alike. -/
theorem keptFrom_block {s e : List Char} {body : List (List Char)}
    (hs : (Tag.start v.other).isOn s = true) (hc : closes v.other s = false)
    (hb : ∀ l ∈ body, closes v.other l = false) (he : closes v.other e = true) (b : Bool)
    (ls : List (List Char)) : keptFrom v b (s :: (body ++ e :: ls)) = keptFrom v false ls := by
  have hrest := keptFrom_body v hb he ls
  cases b with
  | true => rw [keptFrom, hc]; exact hrest
  | false =>
    have hany : (body ++ e :: ls).any (closes v.other) = true :=
      List.any_eq_true.mpr ⟨e, List.mem_append_right body List.mem_cons_self, he⟩
    rw [keptFrom, startsBlock, opens_of_isOn hs hc, hany]
    exact hrest

/-- **What a variant keeps around a block**, in which the body does not occur. -/
theorem kept_around_block {s e : List Char} {body : List (List Char)}
    (hs : (Tag.start v.other).isOn s = true) (hc : closes v.other s = false)
    (hb : ∀ l ∈ body, closes v.other l = false) (he : closes v.other e = true)
    (ls ms : List (List Char)) :
    kept v (ls ++ s :: (body ++ e :: ms)) = keptBefore v true false ls ++ keptFrom v false ms := by
  have hany : (s :: (body ++ e :: ms)).any (closes v.other) = true :=
    List.any_eq_true.mpr
      ⟨e, List.mem_cons_of_mem s (List.mem_append_right body List.mem_cons_self), he⟩
  rw [kept, keptFrom_append, hany, keptFrom_block v hs hc hb he]

/-- The body of a block as a text: no line of it closes the block, and the line after it starts
anew. -/
structure IsBody (v : Variant) (text : List Char) : Prop where
  ended : Line.Ended text
  unclosed : ∀ l ∈ Line.ofText text, closes v l = false

end LineScan

/-! ## The plan of a file with a block -/

namespace Line

theorem Ended.append {a b : List Char} (ha : Ended a) (hb : Ended b) : Ended (a ++ b) := by
  rcases hb with rfl | hb
  · rwa [List.append_nil]
  · exact .inr (by rw [List.getLast?_append, hb]; rfl)

theorem Single.ne_nil {s : List Char} (h : Single s) : s ≠ [] := by
  rintro rfl
  exact absurd h (List.cons_ne_nil [] []).symm

theorem Single.exists_feed {s : List Char} (h : Single s) (he : Ended s) : ∃ w, s = w ++ ['\n'] :=
  List.getLast?_eq_some_iff.mp (he.resolve_left h.ne_nil)

end Line

namespace Plan

open LineScan (closes IsBody)

/-- A deletion mark is looked for in the first line only. -/
theorem isPrefixOf_append_feed (v : Variant) (a b : List Char) :
    v.deletionMark.toList.isPrefixOf (a ++ '\n' :: b) = v.deletionMark.toList.isPrefixOf a := by
  have hm := Marker.not_mem_fileMark v.other
  rw [Variant.deletionMark, Tag.isPrefixOf_eq_isSome_drop?, Tag.isPrefixOf_eq_isSome_drop?,
    Tag.drop?_append hm (Line.break_feed b), Option.isSome_map]

/-- **A plan never depends on the body of a block of the other variant.** The block may stand
anywhere: what comes before it and after it may hold any markers, paired or not, and the bodies may
hold start tags, tags of the other family and file marks. -/
theorem plan_independent_of_body (v : Variant) {p s b₁ b₂ e q : List Char}
    (hp : Line.Ended p)
    (hs : Line.Single s) (hfeed : Line.Ended s)
    (hstart : (Tag.start v.other).isOn s = true) (hopen : closes v.other s = false)
    (hb₁ : IsBody v.other b₁) (hb₂ : IsBody v.other b₂)
    (he : Line.Single e) (hstop : closes v.other e = true) (hq : Line.Ended e ∨ q = []) :
    Plan.of v (p ++ s ++ b₁ ++ e ++ q) = Plan.of v (p ++ s ++ b₂ ++ e ++ q) := by
  have hlast : Line.ofText (e ++ q) = e :: Line.ofText q := by
    rcases hq with hq | rfl
    · rw [Line.ofText_append hq, he]
      rfl
    · rw [List.append_nil, he]
      rfl
  have hlines : ∀ {b : List Char}, IsBody v.other b → Line.ofText (p ++ s ++ b ++ e ++ q) =
      Line.ofText p ++ s :: (Line.ofText b ++ e :: Line.ofText q) := by
    intro b hb
    rw [List.append_assoc, Line.ofText_append ((hp.append hfeed).append hb.ended), hlast,
      Line.ofText_append (hp.append hfeed), Line.ofText_append hp, hs, List.append_assoc,
      List.append_assoc]
    rfl
  have hkept : ∀ {b : List Char}, IsBody v.other b → v.transform (p ++ s ++ b ++ e ++ q) =
      (LineScan.keptBefore v true false (Line.ofText p) ++
        LineScan.keptFrom v false (Line.ofText q)).flatten := by
    intro b hb
    rw [Variant.transform_eq_kept, hlines hb,
      LineScan.kept_around_block v hstart hopen hb.unclosed hstop]
  obtain ⟨w, rfl⟩ := hs.exists_feed hfeed
  have hmark : ∀ b : List Char,
      v.deletionMark.toList.isPrefixOf (p ++ (w ++ ['\n']) ++ b ++ e ++ q) =
        v.deletionMark.toList.isPrefixOf (p ++ w) := by
    intro b
    have ha : p ++ (w ++ ['\n']) ++ b ++ e ++ q = p ++ w ++ '\n' :: (b ++ e ++ q) := by
      simp only [List.append_assoc, List.cons_append, List.nil_append]
    rw [ha, isPrefixOf_append_feed]
  rw [Plan.of, Plan.of, hmark, hmark, hkept hb₁, hkept hb₂]

/-- A solution block below a solution start that was never closed, with a start tag, a tag of the
other family and a file mark in its body: the problem variant is the same as with an empty body. -/
theorem plan_independent_of_nested_body :
    (Tag.start Variant.problem.other).isOn "// START SOLUTION (b)\n".toList = true ∧
    closes Variant.problem.other "// START SOLUTION (b)\n".toList = false ∧
    IsBody Variant.problem.other
      "// START SOLUTION\nEND PROBLEM */ 42\n/* PROBLEM FILE */\n".toList ∧
    IsBody Variant.problem.other [] ∧
    closes Variant.problem.other "// END SOLUTION".toList = true ∧
    Plan.of .problem ("/* START PROBLEM\n// START SOLUTION (a)\nx\n".toList ++
        "// START SOLUTION (b)\n".toList ++
        "// START SOLUTION\nEND PROBLEM */ 42\n/* PROBLEM FILE */\n".toList ++
        "// END SOLUTION".toList ++ []) =
      Plan.of .problem ("/* START PROBLEM\n// START SOLUTION (a)\nx\n".toList ++
        "// START SOLUTION (b)\n".toList ++ [] ++ "// END SOLUTION".toList ++ []) := by
  have hs : (Tag.start Variant.problem.other).isOn "// START SOLUTION (b)\n".toList = true := by
    decide
  have hc : closes Variant.problem.other "// START SOLUTION (b)\n".toList = false := by decide
  have hb : IsBody Variant.problem.other
      "// START SOLUTION\nEND PROBLEM */ 42\n/* PROBLEM FILE */\n".toList :=
    ⟨by decide, by decide⟩
  have hn : IsBody Variant.problem.other [] := ⟨.inl rfl, by decide⟩
  have he : closes Variant.problem.other "// END SOLUTION".toList = true := by decide
  exact ⟨hs, hc, hb, hn, he, plan_independent_of_body .problem (by decide) (by decide) (by decide)
    hs hc hb hn (by decide) he (.inr rfl)⟩

end Plan

end Handout
