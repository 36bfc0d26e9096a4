import Mathlib
import Codebook.Document.Markdown

/-!
# Documents and the order of discovery

Modules, functions, classes and methods come in the order in which they were found, and a Markdown
document sorts them by name. Things of one name, such as modules of two directories, keep their order.

* `IsSorted`: what it is to be sorted in this way. There is one such list (`isSorted_iff`), and it does
  not change when things of different names change places (`Rearranged.sortedBy_eq`).
* `Reordered name same`: things of different names change places, and each thing is replaced by one that
  is the same in the sense of `same`. `SameClass` and `SameModule` are the same up to such a change in
  what they hold, so that the four levels nest.
* `Reordered.map_sortedBy`: where the same things have the same text, so have two lists of them. This is
  the one step, taken at the level of methods, of classes, of modules and of documents.
* `markdown_reordered`: the document does not depend on the order of discovery at any level, and its
  modules are those that were found, each once, sorted by name.
-/

namespace Codebook.Document

/-! ## Sorting by name -/

section Sorting

variable {α : Type} {name : α → String}

/-- The second list has what is in the first, sorted by name, and what has one name in the order of the
first. -/
structure IsSorted (name : α → String) (xs ys : List α) : Prop where
  perm : ys.Perm xs
  sorted : ys.Pairwise fun a b => name a ≤ name b
  stable : ∀ n, ys.filter (name · == n) = xs.filter (name · == n)

/-- Sorting keeps the items. -/
theorem sortedBy_perm (name : α → String) (xs : List α) : (sortedBy name xs).Perm xs :=
  List.mergeSort_perm xs _

/-- Being at most another in name is transitive and total, as sorting needs it. -/
theorem decide_le_trans (name : α → String) (a b c : α) (hab : decide (name a ≤ name b) = true)
    (hbc : decide (name b ≤ name c) = true) : decide (name a ≤ name c) = true := by
  rw [decide_eq_true_eq] at hab hbc ⊢
  exact le_trans hab hbc

/-- Two names are in order one way or the other. -/
theorem decide_le_total (name : α → String) (a b : α) :
    (decide (name a ≤ name b) || decide (name b ≤ name a)) = true := by
  rw [Bool.or_eq_true, decide_eq_true_eq, decide_eq_true_eq]
  exact le_total _ _

/-- Sorted items are in the order of their names. -/
theorem sortedBy_pairwise (name : α → String) (xs : List α) :
    (sortedBy name xs).Pairwise fun a b => name a ≤ name b := by
  refine (List.pairwise_mergeSort (decide_le_trans name) (decide_le_total name) xs).imp ?_
  intro a b hab
  exact of_decide_eq_true hab

/-- What has one name keeps its order. -/
theorem filter_sortedBy (name : α → String) (xs : List α) (n : String) :
    (sortedBy name xs).filter (name · == n) = xs.filter (name · == n) := by
  have heq : ∀ a ∈ xs.filter (name · == n), name a = n := by
    intro a ha
    simpa using List.of_mem_filter ha
  -- things of one name are in order, so that they stay a part of the sorted list
  have hpairwise : (xs.filter (name · == n)).Pairwise
      fun a b => decide (name a ≤ name b) = true := by
    refine List.pairwise_of_forall_mem_list ?_
    intro a ha b hb
    rw [heq a ha, heq b hb]
    exact decide_eq_true le_rfl
  have hsub : (xs.filter (name · == n)).Sublist (sortedBy name xs) :=
    List.sublist_mergeSort (decide_le_trans name) (decide_le_total name) hpairwise
      List.filter_sublist
  have hfilter := hsub.filter (name · == n)
  rw [List.filter_filter] at hfilter
  simp only [Bool.and_self] at hfilter
  refine (hfilter.eq_of_length ?_).symm
  exact ((sortedBy_perm name xs).filter _).length_eq.symm

theorem sortedBy_isSorted (name : α → String) (xs : List α) :
    IsSorted name xs (sortedBy name xs) :=
  ⟨sortedBy_perm name xs, sortedBy_pairwise name xs, filter_sortedBy name xs⟩

/-- A sorted list is known by what it has under each name. -/
theorem eq_of_filter_eq {xs ys : List α} (hx : xs.Pairwise fun a b => name a ≤ name b)
    (hy : ys.Pairwise fun a b => name a ≤ name b)
    (h : ∀ n, xs.filter (name · == n) = ys.filter (name · == n)) : xs = ys := by
  -- what is under the name of a thing tells whether the thing is there
  have hmem : ∀ {zs ws : List α}, (∀ n, zs.filter (name · == n) = ws.filter (name · == n)) →
      ∀ z ∈ zs, z ∈ ws := by
    intro zs ws hfilter z hz
    have hz' : z ∈ zs.filter (name · == name z) := List.mem_filter.mpr ⟨hz, by simp⟩
    rw [hfilter] at hz'
    exact List.mem_of_mem_filter hz'
  induction xs generalizing ys with
  | nil =>
    cases ys with
    | nil => rfl
    | cons y ys => exact absurd (hmem (fun n => (h n).symm) y List.mem_cons_self) List.not_mem_nil
  | cons x xs ih =>
    cases ys with
    | nil => exact absurd (hmem h x List.mem_cons_self) List.not_mem_nil
    | cons y ys =>
      obtain ⟨hxle, hxs⟩ := List.pairwise_cons.mp hx
      obtain ⟨hyle, hys⟩ := List.pairwise_cons.mp hy
      -- the first things have the least name of both lists
      have hle : name y ≤ name x := by
        rcases List.mem_cons.mp (hmem h x List.mem_cons_self) with rfl | hmem
        · exact le_rfl
        · exact hyle x hmem
      have hle' : name x ≤ name y := by
        rcases List.mem_cons.mp (hmem (fun n => (h n).symm) y List.mem_cons_self) with rfl | hmem
        · exact le_rfl
        · exact hxle y hmem
      have hname : name x = name y := le_antisymm hle' hle
      have hhead := h (name x)
      rw [List.filter_cons_of_pos (by simp), List.filter_cons_of_pos (by simp [hname])] at hhead
      obtain rfl : x = y := (List.cons.inj hhead).1
      have hrest : ∀ n, xs.filter (name · == n) = ys.filter (name · == n) := by
        intro n
        have hn := h n
        rw [List.filter_cons, List.filter_cons] at hn
        split at hn
        · exact (List.cons.inj hn).2
        · exact hn
      rw [ih hxs hys hrest]

/-- There is one way to be sorted. -/
theorem isSorted_iff {xs ys : List α} : IsSorted name xs ys ↔ ys = sortedBy name xs := by
  constructor
  · intro h
    refine eq_of_filter_eq h.sorted (sortedBy_pairwise name xs) ?_
    intro n
    rw [h.stable, filter_sortedBy]
  · rintro rfl
    exact sortedBy_isSorted name xs

/-! ## Changing places -/

/-- Two lists are permutations of each other and have what is of one name in the same order. -/
structure Rearranged (name : α → String) (xs ys : List α) : Prop where
  perm : xs.Perm ys
  kept : ∀ n, xs.filter (name · == n) = ys.filter (name · == n)

theorem Rearranged.refl (name : α → String) (xs : List α) : Rearranged name xs xs :=
  ⟨.refl xs, fun _ => rfl⟩

/-- Two neighbours of different names may change places. -/
theorem Rearranged.swap {a b : α} (h : name a ≠ name b) (xs : List α) :
    Rearranged name (a :: b :: xs) (b :: a :: xs) := by
  refine ⟨.swap b a xs, ?_⟩
  intro n
  by_cases ha : name a = n
  · have hb : ¬ name b = n := fun hb => h (ha.trans hb.symm)
    simp [ha, hb]
  · by_cases hb : name b = n
    · simp [ha, hb]
    · simp [ha, hb]

/-- Items that are rearranged are sorted alike. -/
theorem Rearranged.sortedBy_eq {xs ys : List α} (h : Rearranged name xs ys) :
    sortedBy name xs = sortedBy name ys := by
  refine eq_of_filter_eq (sortedBy_pairwise name xs) (sortedBy_pairwise name ys) ?_
  intro n
  rw [filter_sortedBy, filter_sortedBy, h.kept]

/-- Each thing is replaced by one that is the same in the sense of `same`, and then things of different
names change places. -/
def Reordered (name : α → String) (same : α → α → Prop) (xs ys : List α) : Prop :=
  ∃ zs, List.Forall₂ same xs zs ∧ Rearranged name zs ys

/-- Sorting does not tell things of one name apart. -/
theorem forall₂_sortedBy {same : α → α → Prop} (hname : ∀ a b, same a b → name a = name b)
    {xs ys : List α} (h : List.Forall₂ same xs ys) :
    List.Forall₂ same (sortedBy name xs) (sortedBy name ys) := by
  obtain ⟨hlength, hpairs⟩ := List.forall₂_iff_zip.mp h
  -- both lists are sorted like the list of pairs
  have hfst : (sortedBy (fun p : α × α => name p.1) (xs.zip ys)).map Prod.fst = sortedBy name xs := by
    have hmap : (xs.zip ys).map Prod.fst = xs := List.map_fst_zip (le_of_eq hlength)
    unfold sortedBy
    rw [List.map_mergeSort (s := fun a b => decide (name a ≤ name b)) (fun _ _ _ _ => rfl), hmap]
  have hsnd : (sortedBy (fun p : α × α => name p.1) (xs.zip ys)).map Prod.snd = sortedBy name ys := by
    have hmap : (xs.zip ys).map Prod.snd = ys := List.map_snd_zip (ge_of_eq hlength)
    unfold sortedBy
    rw [List.map_mergeSort (s := fun a b => decide (name a ≤ name b)), hmap]
    intro p hp q hq
    change decide (name p.1 ≤ name q.1) = _
    rw [hname _ _ (hpairs hp), hname _ _ (hpairs hq)]
  rw [← hfst, ← hsnd, List.forall₂_map_left_iff, List.forall₂_map_right_iff, List.forall₂_same]
  intro p hp
  exact hpairs ((sortedBy_perm _ _).mem_iff.mp hp)

/-- Two lists of the same things have the same texts once they are sorted. -/
theorem Reordered.map_sortedBy {same : α → α → Prop} {β : Type} {text : α → β}
    (hname : ∀ a b, same a b → name a = name b) (htext : ∀ a b, same a b → text a = text b)
    {xs ys : List α} (h : Reordered name same xs ys) :
    (sortedBy name xs).map text = (sortedBy name ys).map text := by
  obtain ⟨zs, hsame, hrearranged⟩ := h
  rw [← hrearranged.sortedBy_eq, ← List.forall₂_eq_eq_eq, List.forall₂_map_left_iff,
    List.forall₂_map_right_iff]
  exact (forall₂_sortedBy hname hsame).imp htext

end Sorting

/-! ## What modules and classes hold -/

/-- Two records of a class differ at most in the order of their methods, those of one name apart. -/
structure SameClass (c c' : ClassRecord) : Prop where
  methods : Rearranged FunctionRecord.name c.methods c'.methods
  others : { c with methods := [] } = { c' with methods := [] }

/-- Two records of a module differ at most in the order of their functions, of their classes and of the
methods of these, those of one name apart. -/
structure SameModule (m m' : ModuleRecord) : Prop where
  functions : Rearranged FunctionRecord.name m.functions m'.functions
  classes : Reordered ClassRecord.name SameClass m.classes m'.classes
  others : { m with functions := [], classes := [] } = { m' with functions := [], classes := [] }

/-- The same class has the same name. -/
theorem SameClass.name_eq {c c' : ClassRecord} (h : SameClass c c') : c.name = c'.name :=
  congrArg (·.name) h.others

/-- The same module has the same name. -/
theorem SameModule.name_eq {m m' : ModuleRecord} (h : SameModule m m') : m.name = m'.name :=
  congrArg (·.name) h.others

/-- The same class is written alike. -/
theorem SameClass.classPart_eq {c c' : ClassRecord} (h : SameClass c c') :
    classPart c = classPart c' := by
  have hdocstring : c.docstring = c'.docstring := congrArg (·.docstring) h.others
  unfold classPart
  rw [h.name_eq, hdocstring, h.methods.sortedBy_eq]

/-- The same module is written alike. -/
theorem SameModule.modulePart_eq {m m' : ModuleRecord} (h : SameModule m m') :
    modulePart m = modulePart m' := by
  have horigin : m.origin = m'.origin := congrArg (·.origin) h.others
  have hdocstring : m.docstring = m'.docstring := congrArg (·.docstring) h.others
  have hclasses : (sortedBy ClassRecord.name m.classes).map classPart =
      (sortedBy ClassRecord.name m'.classes).map classPart :=
    h.classes.map_sortedBy (fun _ _ hc => hc.name_eq) fun _ _ hc => hc.classPart_eq
  unfold modulePart
  rw [h.name_eq, horigin, hdocstring, h.functions.sortedBy_eq, hclasses]

/-- The same module has one line in the contents. -/
theorem SameModule.contentsLine_eq {m m' : ModuleRecord} (h : SameModule m m') :
    contentsLine m = contentsLine m' := by
  unfold contentsLine
  rw [h.name_eq]

/-! ## Documents -/

/-- Sections do not depend on the order of discovery. -/
theorem Section.render_reordered {ms ms' : List ModuleRecord}
    (h : Reordered ModuleRecord.name SameModule ms ms') (s : Section) :
    s.render ms = s.render ms' := by
  cases s with
  | title => rfl
  | contents =>
    have hlines : (sortedBy ModuleRecord.name ms).map contentsLine =
        (sortedBy ModuleRecord.name ms').map contentsLine :=
      h.map_sortedBy (fun _ _ hm => hm.name_eq) fun _ _ hm => hm.contentsLine_eq
    unfold Section.render
    rw [hlines]
  | modules =>
    have hparts : (sortedBy ModuleRecord.name ms).map modulePart =
        (sortedBy ModuleRecord.name ms').map modulePart :=
      h.map_sortedBy (fun _ _ hm => hm.name_eq) fun _ _ hm => hm.modulePart_eq
    unfold Section.render
    rw [hparts]

/-- A single module is documented by its own part. -/
theorem Section.render_singleton (m : ModuleRecord) :
    Section.render [m] .modules = modulePart m := by
  have hsorted : sortedBy ModuleRecord.name [m] = [m] := List.mergeSort_singleton m
  have hjoin : ∀ t : String, String.join [t] = t := fun t => by simp
  unfold Section.render
  simp only [hsorted, List.map_cons, List.map_nil, hjoin]

/-- **Documents do not depend on the order of discovery.** If modules of different names change places,
and so do, in each module, functions and classes of different names and, in each class, methods of
different names, a document with any sections has the same text. The section of the modules is that of
each module alone, one after the other, for the one list that has the modules sorted by name, those of
one name in the order in which they were found. -/
theorem markdown_reordered :
    (∀ (sections : List Section) (ms ms' : List ModuleRecord),
      Reordered ModuleRecord.name SameModule ms ms' → markdown sections ms = markdown sections ms') ∧
    ∀ ms : List ModuleRecord, ∃ sorted,
      (∀ zs, IsSorted ModuleRecord.name ms zs ↔ zs = sorted) ∧
        Section.render ms .modules =
          String.join (sorted.map fun m => Section.render [m] .modules) := by
  refine ⟨?_, ?_⟩
  · intro sections ms ms' h
    have hsections : sections.map (Section.render ms) = sections.map (Section.render ms') :=
      List.map_congr_left fun s _ => Section.render_reordered h s
    simp only [markdown, hsections]
  · intro ms
    refine ⟨sortedBy ModuleRecord.name ms, fun zs => isSorted_iff, ?_⟩
    simp only [Section.render_singleton]
    rfl

/-- The record of a function that has nothing but a name and a docstring. -/
def bareFunction (name docstring : String) : FunctionRecord :=
  ⟨⟨"m.py", "python", .codeStructure⟩, name, some docstring, "()", [], none, none, "m.py"⟩

/-- The record of a class with some methods. -/
def bareClass (name : String) (methods : List FunctionRecord) : ClassRecord :=
  ⟨⟨"m.py", "python", .codeStructure⟩, name, none, methods, "m.py"⟩

/-- The record of a module of a file. -/
def bareModule (file name : String) (functions : List FunctionRecord) (classes : List ClassRecord) :
    ModuleRecord :=
  ⟨⟨file, "python", .codeStructure⟩, name, none, functions, classes⟩

/-- Two modules of one name and one of another, which changes places with the first of them, while
functions, classes and methods change places inside it. -/
theorem markdown_reordered_modules :
    let f := bareFunction "f" "first"
    let g := bareFunction "g" "second"
    let before := [bareModule "a/m.py" "m" [] [],
      bareModule "n.py" "n" [g, f] [bareClass "D" [], bareClass "C" [g, f]],
      bareModule "b/m.py" "m" [f] []]
    let after := [bareModule "n.py" "n" [f, g] [bareClass "C" [f, g], bareClass "D" []],
      bareModule "a/m.py" "m" [] [], bareModule "b/m.py" "m" [f] []]
    Reordered ModuleRecord.name SameModule before after ∧
      markdown defaultSections before = markdown defaultSections after := by
  intro f g before after
  have hfg : Rearranged FunctionRecord.name [g, f] [f, g] := .swap (by decide) []
  have hclasses : Reordered ClassRecord.name SameClass [bareClass "D" [], bareClass "C" [g, f]]
      [bareClass "C" [f, g], bareClass "D" []] :=
    ⟨[bareClass "D" [], bareClass "C" [f, g]],
      .cons ⟨.refl _ [], rfl⟩ (.cons ⟨hfg, rfl⟩ .nil), .swap (by decide) []⟩
  have hrefl : ∀ file functions, SameModule (bareModule file "m" functions [])
      (bareModule file "m" functions []) := fun file functions =>
    ⟨.refl _ functions, ⟨[], .nil, .refl _ []⟩, rfl⟩
  have hinner : SameModule
      (bareModule "n.py" "n" [g, f] [bareClass "D" [], bareClass "C" [g, f]])
      (bareModule "n.py" "n" [f, g] [bareClass "C" [f, g], bareClass "D" []]) :=
    ⟨hfg, hclasses, rfl⟩
  have h : Reordered ModuleRecord.name SameModule before after := by
    refine ⟨[bareModule "a/m.py" "m" [] [],
      bareModule "n.py" "n" [f, g] [bareClass "C" [f, g], bareClass "D" []],
      bareModule "b/m.py" "m" [f] []], ?_, .swap (by decide) _⟩
    exact .cons (hrefl "a/m.py" []) (.cons hinner (.cons (hrefl "b/m.py" [f]) .nil))
  exact ⟨h, markdown_reordered.1 defaultSections before after h⟩

end Codebook.Document
