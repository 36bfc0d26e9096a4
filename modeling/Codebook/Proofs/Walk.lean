import Mathlib
import Codebook.Proofs.FileTree

/-!
# What a walk meets

A walk from the top down goes through a tree directory by directory and leaves out every directory
whose name is skipped, with all that is below it. This file says what it meets, in which order.

* `Tree.HasFile t ns`: following the names `ns` from the top of `t` leads to a file.
* `Tree.reached skip t`: the files that a walk meets, each by the names that lead to it.
  `mem_reached` says that these are the files of the tree that no skipped name leads to; it is here
  that skipping a name during the walk and leaving out files afterwards come to the same.
* `Before`: one file is met before another. In the directory where the ways to them part, files
  come first and directories after them, both in the order of their names (`pairwise_reached`).
* `flatMap_paths_walk`: the paths that a walk gives as texts are those files below the top.

A list that is ordered by `Before` is fixed by its members (`eq_of_pairwise_before`), so that the two
facts together leave no freedom.
-/

namespace Codebook

open Text Codebook.Path

namespace Tree

/-! ## Files of a tree -/

/-- Following the names leads from the top of the tree to a file. -/
inductive HasFile : Tree → List String → Prop
  | entry {es : List (String × Tree)} {n : String} {bytes : List UInt8}
      (h : (n, .file bytes) ∈ es) : HasFile (.dir es) [n]
  | inside {es : List (String × Tree)} {n : String} {t : Tree} {ns : List String}
      (h : (n, t) ∈ es) (hf : HasFile t ns) : HasFile (.dir es) (n :: ns)

/-- A file has a name. -/
theorem HasFile.ne_nil {t : Tree} {ns : List String} (h : t.HasFile ns) : ns ≠ [] := by
  cases h <;> simp

/-- In a tree as a file system has it, names lead to every file. -/
theorem HasFile.isName {t : Tree} {ns : List String} (h : t.HasFile ns) (hw : t.WellFormed) :
    ∀ n ∈ ns, IsName n := by
  induction h with
  | entry he =>
    intro n hn
    cases hw with
    | dir _ hnames _ => exact List.mem_singleton.mp hn ▸ hnames _ he
  | inside he _ ih =>
    intro n hn
    cases hw with
    | dir _ hnames hbelow =>
      rcases List.mem_cons.mp hn with rfl | hn
      · exact hnames _ he
      · exact ih (hbelow _ he) n hn

/-! ## The files of a walk -/

mutual

/-- The files that a walk meets, by the names that lead to them: those of the directory itself, then
those of its directories. -/
def reached (skip : String → Bool) : Tree → List (List String)
  | .file _ => []
  | .dir es => ((es.filter (!·.2.isDir)).map fun e => [e.1]) ++ reachedIn skip es

/-- The files that a walk meets below the entries of a directory. -/
def reachedIn (skip : String → Bool) : List (String × Tree) → List (List String)
  | [] => []
  | (n, t) :: es => (if skip n then [] else (reached skip t).map (n :: ·)) ++ reachedIn skip es

end

/-- Files are reached entry by entry. -/
theorem reachedIn_eq_flatMap (skip : String → Bool) (es : List (String × Tree)) :
    reachedIn skip es =
      es.flatMap fun e => if skip e.1 then [] else (e.2.reached skip).map (e.1 :: ·) := by
  induction es with
  | nil => simp [reachedIn]
  | cons e es ih =>
    obtain ⟨n, t⟩ := e
    rw [reachedIn, ih, List.flatMap_cons]

/-- Entries are walked one by one. -/
theorem walkEntries_eq_flatMap (skip : String → Bool) (top : String) (es : List (String × Tree)) :
    walkEntries skip top es =
      es.flatMap fun e => if skip e.1 then [] else e.2.walk skip (joinText top e.1) := by
  induction es with
  | nil => simp [walkEntries]
  | cons e es ih =>
    obtain ⟨n, t⟩ := e
    rw [walkEntries, ih, List.flatMap_cons]

/-- What a walk meets one level down. -/
theorem mem_reachedIn {skip : String → Bool} {es : List (String × Tree)} {ns : List String} :
    ns ∈ reachedIn skip es ↔
      ∃ e ∈ es, skip e.1 = false ∧ ∃ ms ∈ e.2.reached skip, ns = e.1 :: ms := by
  rw [reachedIn_eq_flatMap, List.mem_flatMap]
  refine exists_congr fun e => and_congr_right fun _ => ?_
  cases hs : skip e.1 <;> simp [eq_comm]

/-- A walk meets the files of the tree to which no skipped name leads. -/
theorem mem_reached {skip : String → Bool} (t : Tree) (ns : List String) :
    ns ∈ t.reached skip ↔ t.HasFile ns ∧ ∀ c ∈ ns.dropLast, skip c = false := by
  induction t using entryInduction generalizing ns with
  | file bytes =>
    constructor
    · intro h
      simp [reached] at h
    · rintro ⟨h, -⟩
      cases h
  | dir es ih =>
    rw [reached, List.mem_append, mem_reachedIn]
    constructor
    · rintro (h | ⟨⟨n, t⟩, he, hs, ms, hms, rfl⟩)
      · obtain ⟨⟨n, t⟩, he, rfl⟩ := List.mem_map.mp h
        obtain ⟨he, hfile⟩ := List.mem_filter.mp he
        rcases t with bytes | es'
        · exact ⟨.entry he, by simp⟩
        · simp [isDir] at hfile
      · obtain ⟨hf, hc⟩ := (ih _ he ms).mp hms
        refine ⟨.inside he hf, fun c hcm => ?_⟩
        rw [List.dropLast_cons_of_ne_nil hf.ne_nil] at hcm
        rcases List.mem_cons.mp hcm with rfl | hcm
        · exact hs
        · exact hc c hcm
    · rintro ⟨h, hc⟩
      cases h with
      | entry he =>
        left
        exact List.mem_map.mpr ⟨_, List.mem_filter.mpr ⟨he, by simp [isDir]⟩, rfl⟩
      | inside he hf =>
        right
        rw [List.dropLast_cons_of_ne_nil hf.ne_nil] at hc
        refine ⟨_, he, hc _ List.mem_cons_self, _, (ih _ he _).mpr ⟨hf, ?_⟩, rfl⟩
        exact fun c hcm => hc c (List.mem_cons_of_mem _ hcm)

end Tree

/-! ## The order of a walk -/

/-- Of two files, each given by the names that lead to it, the first is met before the second on a
walk. In one directory the files come in the order of their names, then what is below its
directories, again in the order of names. -/
inductive Before : List String → List String → Prop
  | files {f g : String} (h : f < g) : Before [f] [g]
  | deeper {f c : String} {ns : List String} (h : ns ≠ []) : Before [f] (c :: ns)
  | dirs {c e : String} {ns ms : List String} (h : c < e) (hn : ns ≠ []) (hm : ms ≠ []) :
      Before (c :: ns) (e :: ms)
  | inside {c : String} {ns ms : List String} (h : Before ns ms) : Before (c :: ns) (c :: ms)

namespace Before

theorem ne_nil {ns ms : List String} (h : Before ns ms) : ns ≠ [] ∧ ms ≠ [] := by
  cases h <;> simp

theorem irrefl {ns : List String} : ¬ Before ns ns := by
  induction ns with
  | nil => exact fun h => h.ne_nil.1 rfl
  | cons c ns ih =>
    intro h
    cases h with
    | files h => exact lt_irrefl _ h
    | deeper h => exact h rfl
    | dirs h => exact lt_irrefl _ h
    | inside h => exact ih h

theorem asymm {ns ms : List String} (h : Before ns ms) : ¬ Before ms ns := by
  induction h with
  | files h =>
    intro h'
    cases h' with
    | files h' => exact lt_asymm h h'
    | deeper h' => exact h' rfl
    | dirs _ h' => exact h' rfl
    | inside h' => exact h'.ne_nil.1 rfl
  | deeper h =>
    intro h'
    cases h' with
    | files h' => exact h rfl
    | deeper h' => exact h' rfl
    | dirs _ _ h' => exact h' rfl
    | inside h' => exact h'.ne_nil.2 rfl
  | dirs h hn hm =>
    intro h'
    cases h' with
    | files h' => exact hn rfl
    | deeper h' => exact hm rfl
    | dirs h' => exact lt_asymm h h'
    | inside h' => exact lt_irrefl _ h
  | inside h ih =>
    intro h'
    cases h' with
    | files h' => exact h.ne_nil.1 rfl
    | deeper h' => exact h.ne_nil.2 rfl
    | dirs h' => exact lt_irrefl _ h'
    | inside h' => exact ih h'

/-- What leads to both files does not count. -/
theorem append_left (top : List String) {ns ms : List String} (h : Before ns ms) :
    Before (top ++ ns) (top ++ ms) := by
  induction top with
  | nil => exact h
  | cons c top ih => exact .inside ih

end Before

/-- Paths in the order of a walk are fixed by which they are. -/
theorem eq_of_pairwise_before {ps qs : List Path}
    (hp : ps.Pairwise fun p q => Before p.parts q.parts)
    (hq : qs.Pairwise fun p q => Before p.parts q.parts) (h : ∀ p, p ∈ ps ↔ p ∈ qs) : ps = qs := by
  have hnodup : ∀ rs : List Path, (rs.Pairwise fun p q => Before p.parts q.parts) → rs.Nodup :=
    fun rs hr => hr.imp fun {p q} hb (he : p = q) => Before.irrefl (he ▸ hb)
  refine List.Perm.eq_of_pairwise (fun p q _ _ h₁ h₂ => absurd h₂ h₁.asymm) hp hq ?_
  exact (List.perm_ext_iff_of_nodup (hnodup ps hp) (hnodup qs hq)).mpr h

namespace Tree

/-- A file that is reached has a name. -/
theorem ne_nil_of_mem_reached {skip : String → Bool} {t : Tree} {ns : List String}
    (h : ns ∈ t.reached skip) : ns ≠ [] :=
  ((mem_reached t ns).mp h).1.ne_nil

/-- A walk meets the files in order. -/
theorem pairwise_reached {skip : String → Bool} {t : Tree} (hw : t.WellFormed) :
    (t.reached skip).Pairwise Before := by
  induction hw with
  | file bytes => simp [reached]
  | @dir es sorted _ _ ih =>
    rw [reached, reachedIn_eq_flatMap, List.pairwise_append]
    refine ⟨?_, ?_, ?_⟩
    · rw [List.pairwise_map]
      exact (sorted.filter _).imp fun h => .files h
    · rw [List.pairwise_flatMap]
      constructor
      · intro e he
        split_ifs
        · exact List.Pairwise.nil
        · exact List.pairwise_map.mpr ((ih e he).imp fun h => .inside h)
      · -- two directories: all below the first comes before all below the second
        refine sorted.imp fun {e e'} hlt x hx y hy => ?_
        split_ifs at hx hy <;> try exact absurd (by assumption) List.not_mem_nil
        obtain ⟨ns, hns, rfl⟩ := List.mem_map.mp hx
        obtain ⟨ms, hms, rfl⟩ := List.mem_map.mp hy
        exact .dirs hlt (ne_nil_of_mem_reached hns) (ne_nil_of_mem_reached hms)
    · intro x hx y hy
      obtain ⟨e, -, rfl⟩ := List.mem_map.mp hx
      rw [← reachedIn_eq_flatMap] at hy
      obtain ⟨e', -, -, ms, hms, rfl⟩ := mem_reachedIn.mp hy
      exact .deeper (ne_nil_of_mem_reached hms)

/-! ## Texts of the walk -/

/-- The paths that a walk gives as texts, of the files whose names pass a test, are the files that
it meets below its top. -/
theorem flatMap_paths_walk {skip : String → Bool} (keep : String → Bool) {t : Tree}
    (hw : t.WellFormed) {top : Path} (ha : top.anchor = .root) (hn : ∀ n ∈ top.parts, IsName n) :
    ((t.walk skip top.toString).flatMap fun v =>
        (v.files.filter keep).map fun f => ofString (joinText v.root f)) =
      ((t.reached skip).filter fun ns => keep (ns.getLastD "")).map top.below := by
  induction hw generalizing top with
  | file bytes => simp [walk, reached]
  | @dir es _ names _ ih =>
    have hdown : ∀ e ∈ es, joinText top.toString e.1 = (top.below [e.1]).toString :=
      fun e he => joinText_toString ha hn (names e he)
    have hnames : ∀ e ∈ es, ∀ n ∈ (top.below [e.1]).parts, IsName n := by
      intro e he n hmem
      rcases List.mem_append.mp hmem with h | h
      · exact hn n h
      · rw [List.mem_singleton.mp h]
        exact names e he
    rw [walk, reached, List.flatMap_cons, List.filter_append, List.map_append]
    congr 1
    · -- the files of the directory itself
      simp only [List.filter_map, List.map_map, Function.comp_def]
      refine List.map_congr_left fun e he => ?_
      have hmem : e ∈ es := List.mem_of_mem_filter (List.mem_of_mem_filter he)
      rw [hdown e hmem, ofString_toString (p := top.below [e.1]) ha (hnames e hmem)]
    · rw [walkEntries_eq_flatMap, reachedIn_eq_flatMap, List.flatMap_assoc, List.filter_flatMap,
        List.map_flatMap]
      refine List.flatMap_congr fun e he => ?_
      cases hs : skip e.1 with
      | true => simp
      | false =>
        have hlast : ∀ ms ∈ e.2.reached skip,
            keep ((e.1 :: ms).getLastD "") = keep (ms.getLastD "") := by
          intro ms hms
          obtain ⟨m, ms', rfl⟩ := List.exists_cons_of_ne_nil (ne_nil_of_mem_reached hms)
          simp
        simp only [Bool.false_eq_true, if_false]
        rw [hdown e he, @ih e he (top.below [e.1]) ha (hnames e he), List.filter_map,
          List.map_map]
        simp only [Function.comp_def]
        rw [List.filter_congr hlast]
        refine List.map_congr_left fun ms _ => ?_
        rw [below_below, List.singleton_append]

end Tree

end Codebook
