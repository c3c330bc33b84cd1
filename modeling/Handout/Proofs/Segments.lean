import Handout.Proofs.Blocks

/-!
# Files made of segments

A well-formed annotated file is a sequence of segments: lines that both variants share, and regions
of either family, each with a line that opens it, a body, and a line that closes it. The two
variants are dual on such files (`transform_render`): each is the shared lines and the bodies of its
own regions, in their order, and the other variant changes nothing about either.

The two families are removed in different ways, a region of the other family whole and the tag lines
of the own family one by one. Both come to the same law of one segment, `keptFrom_segment`: whatever
lines follow, a scan keeps the lines of the segment that the variant owns and goes on between
removals. The sequence is then an induction in which no region ever meets the tags of another.
-/

namespace Handout

open LineScan (opens closes goesAlone isFileMark keptFrom kept)

/-! ## Segments -/

/-- A line without a tag of a family. -/
structure Untagged (f : Variant) (l : List Char) : Prop where
  start : (Tag.start f).isOn l = false
  stop : (Tag.stop f).isOn l = false

/-- A line without a tag of either family that marks no file. -/
structure Plain (l : List Char) : Prop where
  untagged : ∀ f, Untagged f l
  unmarked : ∀ f, isFileMark f l = false

/-- A line that opens a region of a family. -/
structure Opening (f : Variant) (l : List Char) : Prop where
  start : (Tag.start f).isOn l = true
  unclosed : closes f l = false
  foreign : Untagged f.other l

/-- A line that closes a region of a family. -/
structure Closing (f : Variant) (l : List Char) : Prop where
  stop : closes f l = true
  foreign : Untagged f.other l

instance (f : Variant) (l : List Char) : Decidable (Untagged f l) :=
  decidable_of_iff (_ ∧ _) ⟨fun h => ⟨h.1, h.2⟩, fun h => ⟨h.start, h.stop⟩⟩

instance (l : List Char) : Decidable (Plain l) :=
  decidable_of_iff ((∀ f, Untagged f l) ∧ ∀ f, isFileMark f l = false)
    ⟨fun h => ⟨h.1, h.2⟩, fun h => ⟨h.untagged, h.unmarked⟩⟩

instance (f : Variant) (l : List Char) : Decidable (Opening f l) :=
  decidable_of_iff (_ ∧ _ ∧ _)
    ⟨fun h => ⟨h.1, h.2.1, h.2.2⟩, fun h => ⟨h.start, h.unclosed, h.foreign⟩⟩

instance (f : Variant) (l : List Char) : Decidable (Closing f l) :=
  decidable_of_iff (_ ∧ _) ⟨fun h => ⟨h.1, h.2⟩, fun h => ⟨h.stop, h.foreign⟩⟩

/-- A piece of an annotated file. -/
inductive Segment
  /-- A line that both variants share. -/
  | shared (l : List Char)
  /-- A region of a family, from the line that opens it through the line that closes it. -/
  | region (f : Variant) (first : List Char) (body : List (List Char)) (last : List Char)

namespace Segment

/-- The lines of a segment. -/
def lines : Segment → List (List Char)
  | shared l => [l]
  | region _ first body last => first :: (body ++ [last])

/-- The lines of a segment that belong to a variant. -/
def linesOf (v : Variant) : Segment → List (List Char)
  | shared l => [l]
  | region f _ body _ => if f = v then body else []

/-- A segment whose tags are where they belong, and nowhere else. -/
def WellFormed : Segment → Prop
  | shared l => Plain l
  | region f first body last => Opening f first ∧ (∀ l ∈ body, Plain l) ∧ Closing f last

instance : DecidablePred WellFormed
  | shared l => inferInstanceAs (Decidable (Plain l))
  | region f first body last =>
    inferInstanceAs (Decidable (Opening f first ∧ (∀ l ∈ body, Plain l) ∧ Closing f last))

/-- **The text of segments.** -/
def render (segs : List Segment) : List Char :=
  (segs.flatMap lines).flatten

end Segment

/-! ## Lines of a segment under a scan -/

namespace LineScan

/-- A line without a start tag opens nothing. -/
theorem opens_eq_false {f : Variant} {l : List Char} (h : (Tag.start f).isOn l = false) :
    opens f l = false := by
  rw [Bool.eq_false_iff] at h ⊢
  intro ho
  obtain ⟨r, hr, -⟩ := opens_iff.mp ho
  exact h ((Tag.isOn_iff (Tag.proper_start f)).mpr ⟨r, hr⟩)

/-- A line without a start tag of the other family starts no removal of a block. -/
theorem startsBlock_eq_false (v : Variant) {l : List Char} (h : Untagged v.other l)
    (ls : List (List Char)) : startsBlock v l ls = false := by
  rw [startsBlock, opens_eq_false h.start, Bool.false_and]

/-- Plain lines stay. -/
theorem keptFrom_plain (v : Variant) {body : List (List Char)} (hb : ∀ l ∈ body, Plain l)
    (ls : List (List Char)) : keptFrom v false (body ++ ls) = body ++ keptFrom v false ls := by
  induction body with
  | nil => rfl
  | cons l body ih =>
    have hl := hb l List.mem_cons_self
    have ha : goesAlone v l = false := by
      rw [goesAlone, (hl.untagged v).start, (hl.untagged v).stop, hl.unmarked v]
      rfl
    rw [List.cons_append, keptFrom, startsBlock_eq_false v (hl.untagged v.other), ha]
    exact congrArg (l :: ·) (ih fun m hm => hb m (List.mem_cons_of_mem l hm))

/-- A tag line of the variant's own family goes alone. -/
theorem keptFrom_tagLine (v : Variant) {l : List Char} (hf : Untagged v.other l)
    (ht : (Tag.start v).isOn l = true ∨ (Tag.stop v).isOn l = true) (ls : List (List Char)) :
    keptFrom v false (l :: ls) = keptFrom v false ls := by
  have ha : goesAlone v l = true := by
    rw [goesAlone, Bool.or_eq_true, Bool.or_eq_true]
    exact .inl ht
  rw [keptFrom, startsBlock_eq_false v hf, ha]
  rfl

/-- **A scan over one segment** keeps the lines of the variant and is between removals after it. -/
theorem keptFrom_segment (v : Variant) {s : Segment} (h : s.WellFormed) (ls : List (List Char)) :
    keptFrom v false (s.lines ++ ls) = s.linesOf v ++ keptFrom v false ls := by
  cases s with
  | shared l => exact keptFrom_plain v (fun m hm => List.mem_singleton.mp hm ▸ h) ls
  | region f first body last =>
    obtain ⟨hfirst, hbody, hlast⟩ := h
    rw [Segment.lines, Segment.linesOf, List.cons_append, List.append_assoc, List.singleton_append]
    rcases Variant.eq_or_eq_other f v with rfl | rfl
    · -- the own family: its two tag lines go one by one
      rw [if_pos rfl, keptFrom_tagLine f hfirst.foreign (.inl hfirst.start), keptFrom_plain f hbody,
        keptFrom_tagLine f hlast.foreign (.inr hlast.stop)]
    · -- the other family: the region is a block
      have hopen : ∀ l ∈ body, closes v.other l = false :=
        fun l hl => ((hbody l hl).untagged v.other).stop
      rw [if_neg v.other_ne, keptFrom_block v hfirst.start hfirst.unclosed hopen hlast.stop]
      rfl

/-- **A scan over segments.** -/
theorem kept_segments (v : Variant) {segs : List Segment} (h : ∀ s ∈ segs, s.WellFormed) :
    kept v (segs.flatMap Segment.lines) = segs.flatMap (Segment.linesOf v) := by
  induction segs with
  | nil => rfl
  | cons s segs ih =>
    rw [List.flatMap_cons, List.flatMap_cons, kept, keptFrom_segment v (h s List.mem_cons_self)]
    exact congrArg _ (ih fun t ht => h t (List.mem_cons_of_mem s ht))

end LineScan

/-! ## Duality -/

namespace Segment

/-- What a variant keeps of a well-formed segment is plain. -/
theorem WellFormed.plain {s : Segment} (h : s.WellFormed) (v : Variant) :
    ∀ l ∈ s.linesOf v, Plain l := by
  cases s with
  | shared m => exact fun l hl => List.mem_singleton.mp hl ▸ h
  | region f first body last =>
    intro l hl
    rw [linesOf] at hl
    split at hl
    · exact h.2.1 l hl
    · exact absurd hl List.not_mem_nil

end Segment

/-- **The two variants are dual on well-formed files.** The text of each is the shared lines and the
bodies of its own regions in their order, and the other variant leaves that text as it is. The lines
are a page, so that every line has its line break but perhaps the last one of all. -/
theorem transform_render {segs : List Segment} (h : ∀ s ∈ segs, s.WellFormed)
    (hp : Line.Page (segs.flatMap Segment.lines)) (v : Variant) :
    v.transform (Segment.render segs) = (segs.flatMap (Segment.linesOf v)).flatten ∧
      v.other.transform (v.transform (Segment.render segs)) = v.transform (Segment.render segs) := by
  have hkept : kept v (Line.ofText (Segment.render segs)) = segs.flatMap (Segment.linesOf v) := by
    rw [Segment.render, Line.ofText_flatten hp, LineScan.kept_segments v h]
  have htext := v.transform_eq_kept (Segment.render segs)
  rw [hkept] at htext
  refine ⟨htext, ?_⟩
  have hplain : ∀ l ∈ segs.flatMap (Segment.linesOf v), Plain l := by
    intro l hl
    obtain ⟨s, hs, hl⟩ := List.mem_flatMap.mp hl
    exact (h s hs).plain v l hl
  have hsame := LineScan.keptFrom_plain v.other hplain []
  rw [List.append_nil] at hsame
  rw [v.other.transform_eq_kept, v.ofText_transform, hkept, kept, hsame, htext, keptFrom,
    List.append_nil]

/-- A shared line, a region of each family, and a closing line without a line break. -/
def Segment.sample : List Segment := [
  .shared "a\r\n".toList,
  .region .problem "/* START PROBLEM\n".toList ["todo\n".toList] "END PROBLEM */\n".toList,
  .region .solution "// START SOLUTION\n".toList ["42\n".toList] "// END SOLUTION".toList]

theorem transform_render_sample :
    (∀ s ∈ Segment.sample, s.WellFormed) ∧ Line.Page (Segment.sample.flatMap Segment.lines) ∧
      Variant.problem.transform (Segment.render Segment.sample) = "a\r\ntodo\n".toList ∧
      Variant.solution.transform (Variant.problem.transform (Segment.render Segment.sample)) =
        Variant.problem.transform (Segment.render Segment.sample) := by
  have h : ∀ s ∈ Segment.sample, s.WellFormed := by decide
  have hp : Line.Page (Segment.sample.flatMap Segment.lines) := by decide
  obtain ⟨htext, hfixed⟩ := transform_render h hp .problem
  exact ⟨h, hp, htext.trans (by decide), hfixed⟩

end Handout
