import Mathlib.Data.List.MinMax
import Handout.Proofs.Walks

/-!
# Walks end

A walk remembers no directory that it has been in, and a link to a directory above lets it go around.
It ends all the same, because the system follows no more than `Store.mostLinks` links on one path.

The measure has two parts. From one link to the next, and after the last one, each name goes one
directory down, so there are no more names there than a location of the store has (`Store.height`);
and each link takes one from what is left of the allowance. So a path that leads to a directory has no
more than `Store.mostDepth` names below any of the paths on the way to it (`Leads.length_le`), links
to themselves, links one after the other and links to directories above included.

That bound does not use that paths can only be so long. A walk that may go as deep as
`Store.mostDepth`, or as deep as paths can be long, comes to what a walk without any limit comes to
(`walk_ends`).

**What it does not establish.** The number of calls is bounded, but by a number that no walk of a
common store comes near to.
-/

namespace Handout

namespace Store

variable {s : Store} {k : Nat} {l r : Location} {n : String} {ns : List String}

/-- The most names of a location that has an entry. -/
def height (s : Store) : Nat :=
  (s.entries.map fun x => x.1.length).foldr max 0

theorem length_le_height (h : (s.get? l).isSome) : l.length ≤ s.height := by
  rw [get?] at h
  split at h
  · next hl =>
    rw [hl]
    exact Nat.zero_le _
  · obtain ⟨x, hx, hl⟩ := List.lookup_isSome_iff.mp h
    obtain rfl := eq_of_beq hl
    exact List.le_max_of_le' 0 (List.mem_map_of_mem hx) (Nat.le_refl _)

/-- **Names that lead to a location** are no more than it has, and as many as the store is high for
each link on the way. -/
theorem Leads.length_le (h : s.Leads true k l ns r) (hns : ∀ n ∈ ns, IsName n) :
    l.length + ns.length ≤ r.length + k * (s.height + 1) := by
  induction ns generalizing k l with
  | nil =>
    cases h with
    | here => exact Nat.le_add_right _ _
  | cons n ns ih =>
    obtain ⟨hn, hns⟩ := List.forall_mem_cons.mp hns
    rw [List.length_cons]
    cases h with
    | move hs hr =>
      obtain rfl := eq_of_step_moved hs hn
      have hrest := ih hr hns
      rw [List.length_append, List.length_singleton] at hrest
      omega
    | @pass k _ _ _ target _ hs _ hr =>
      -- what follows the link is counted from where its target leads
      obtain ⟨m, i, j, rfl, -, hj⟩ := hr.exists_append
      have hrest := ih hj hns
      have hlink : (l ++ [n]).length ≤ s.height :=
        length_le_height (by rw [get?_of_step_link hs]; rfl)
      have hlinks : j * (s.height + 1) + (s.height + 1) ≤ (i + j + 1) * (s.height + 1) := by
        rw [← Nat.succ_mul]
        exact Nat.mul_le_mul_right _ (by omega)
      rw [List.length_append, List.length_singleton] at hlink
      omega
    | stay _ hf => cases hf
    | vacant => simp [Nat.add_comm]

/-- The most names between two directories, one of them on the way to the other. -/
def mostDepth (s : Store) : Nat :=
  s.height + mostLinks * (s.height + 1)

end Store

namespace World

variable {w : World} {root : Path} {ns : List String}

/-- **How deep a directory can be** below a path on the way to it. -/
theorem IsDirectory.length_le (h : w.IsDirectory (root.below ns))
    (hns : ∀ n ∈ ns, Store.IsName n) : ns.length ≤ w.store.mostDepth := by
  obtain ⟨l, hl, hdir⟩ := h
  obtain ⟨-, k, hk, hleads⟩ := find_eq_ok.mp hl
  obtain ⟨m, i, j, hij, -, hj⟩ := hleads.exists_append
  have hlen := hj.length_le hns
  have hheight : l.length ≤ w.store.height := Store.length_le_height (by rw [hdir]; rfl)
  have hlinks : j * (w.store.height + 1) ≤ Store.mostLinks * (w.store.height + 1) :=
    Nat.mul_le_mul_right _ (by omega)
  rw [Store.mostDepth]
  omega

end World

namespace Discovery

variable {w : World} {sel : Selection} {root : Path}

/-- A walk may go as deep as links let directories be. -/
theorem shallow_of_links (hnamed : w.store.Named) {depth : Nat}
    (hdepth : w.store.mostDepth < depth) : Shallow w sel depth root := by
  rw [← root.below_nil]
  refine shallow_of_bound hnamed (fun ns hns hdir => hdir.length_le hns) (fun n hn => nomatch hn)
    (.inl rfl) ?_
  rwa [List.length_nil, Nat.zero_add]

/-- **A walk ends** in every store, also where links go around: without a limit it makes so many calls
and then finds what it finds or is stopped, and one that may go as deep as links or as paths allow
does the same. What it lists are directories, found through no more links than are followed, unless it
is stopped at its root at once. -/
theorem walk_ends (hnamed : w.store.Named) (sel : Selection) (root : Path) :
    ∃ cs r, Goes w sel (.directory root) cs r ∧
      cs.length ≤ mostCalls w.store.entries.length (w.store.mostDepth + 1) ∧
      (∀ p, .list p ∈ cs →
        (∃ k ≤ Store.mostLinks, ∃ l, w.store.Leads true k (w.origin p) p.parts l ∧
          w.store.get? l = some .dir) ∨
        cs = [.list root] ∧ ∃ f, w.failure? (.list root) = some f ∧ r = .error f) ∧
      ∀ depth, w.store.mostDepth < depth ∨ World.mostPathBytes ≤ depth →
        Act.Takes w (walk sel depth root) cs r := by
  have hshallow : Shallow w sel (w.store.mostDepth + 1) root :=
    shallow_of_links hnamed (Nat.lt_succ_self _)
  obtain ⟨cs, r, hgoes, -, hlen⟩ := ends_walk hshallow
  refine ⟨cs, r, hgoes, hlen, fun p hp => ?_, fun depth hdepth => ?_⟩
  · have hfound : w.IsDirectory p → ∃ k ≤ Store.mostLinks, ∃ l,
        w.store.Leads true k (w.origin p) p.parts l ∧ w.store.get? l = some .dir := by
      rintro ⟨l, hl, hdir⟩
      obtain ⟨-, k, hk, hleads⟩ := World.find_eq_ok.mp hl
      exact ⟨k, hk, l, hleads, hdir⟩
    rcases (hgoes.due hp).isDirectory with hroot | hdir
    · cases hroot
      cases hgoes with
      | unlisted hf => exact .inr ⟨rfl, _, hf, rfl⟩
      | listed hl _ =>
        obtain ⟨l, hl, hdir, -⟩ := World.list_eq_ok.mp (World.unless?_eq_ok.mp hl).2
        exact .inl (hfound ⟨l, hl, hdir⟩)
    · exact .inl (hfound hdir)
  · exact hgoes.takes (hdepth.elim (shallow_of_links hnamed) (shallow_of_path hnamed))

open Run (plain)

/-- A directory with a link to the one above it and a link to itself. -/
def spiral : Store :=
  ⟨[(["a"], .dir), (["a", "up"], .link ".."), (["a", "self"], .link "self"),
    (["a", "x.js"], .file [])], by decide⟩

/-- So many times down into the directory and up again, and then down once more. -/
def around (times : Nat) : Path :=
  ⟨.root, (List.replicate times ["a", "up"]).flatten ++ ["a"]⟩

/-- Where a link leads up, the walk goes around as long as links are followed. -/
theorem walk_ends_around :
    (plain spiral).IsDirectory (around 40) ∧ ¬ (plain spiral).IsDirectory (around 41) ∧
      ∃ cs r, Goes (plain spiral) ⟨[".js"], []⟩ (.directory ⟨.root, []⟩) cs r ∧
        ∀ s, (walk ⟨[".js"], []⟩ World.mostPathBytes ⟨.root, []⟩).exec s (plain spiral) =
          (r.mapError .failure, s, plain spiral) := by
  have hat : ∀ times, ((plain spiral).holds (around times) (· == .dir)) = .ok true ↔
      (plain spiral).IsDirectory (around times) := fun _ => World.holds_dir_eq_true
  have hnamed : (plain spiral).store.Named := by decide
  obtain ⟨cs, r, hgoes, -, -, htakes⟩ := walk_ends hnamed ⟨[".js"], []⟩ ⟨.root, []⟩
  refine ⟨(hat 40).mp (by decide +kernel), mt (hat 41).mpr (by decide +kernel), cs, r, hgoes, ?_⟩
  exact fun s => (htakes World.mostPathBytes (.inr (Nat.le_refl _)) s).2

end Discovery

end Handout
