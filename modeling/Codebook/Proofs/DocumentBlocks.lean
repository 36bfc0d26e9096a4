import Mathlib
import Codebook.Proofs.ContentsLinks

/-!
# Blocks of a document

What the sections of a document write for one module, one function or one method is a block of
lines. Two pairs of blocks tell the same: the entry of the table of contents and the block of the
same module, and the blocks of one function at the top of a module and in a class.

* `entryLines` reads the entries of a table of contents back from its lines. No name and no anchor
  breaks a line, since lower case makes no line feed (`newline_not_mem_anchor`).
* `contents_entries_modules`: the entries and the blocks of modules go together one by one.
* `methods_like_functions_iff`: the block of a method is that of the function without `self`, one
  level deeper, exactly if `self` is not its only parameter. Where it is, the heading of the
  parameters has nothing below it (`parameterList_eq_bare_iff`).
-/

namespace Codebook.Document

open Text

/-! ## Entries and modules -/

/-- The entries of a table of contents: its lines that begin like the link to a module. -/
def entryLines (text : String) : List String :=
  ((text.toList.splitOn '\n').filter (startsWith "- [Module: ".toList)).map String.ofList

/-- The link and the heading of a module. -/
def moduleMark (m : ModuleRecord) : Mark :=
  ⟨m.name, anchor m.name⟩

/-- An entry has the name and the anchor that the block of a module begins with. -/
structure Announces (entry : String) (m : ModuleRecord) : Prop where
  link : entry ++ "\n" = (moduleMark m).link
  heading : (moduleMark m).heading.toList <+: (Section.render [m] .modules).toList

/-- The line of a link, without its end. -/
def Mark.line (k : Mark) : String :=
  "- [Module: " ++ k.name ++ "](#" ++ k.anchor ++ ")"

/-- A link is a line. -/
theorem Mark.link_eq (k : Mark) : k.link = k.line ++ "\n" := by
  have hassoc : ∀ {s e f g : String}, g = e ++ f → s ++ g = s ++ e ++ f := by
    rintro s e f _ rfl
    rw [String.append_assoc]
  exact hassoc (by decide)

/-- An anchor is on one line if its name is. -/
theorem newline_not_mem_anchor {name : String} (h : '\n' ∉ name.toList) :
    '\n' ∉ (anchor name).toList := by
  rw [anchor, replaceChar_nil, lower, String.toList_ofList, String.toList_ofList]
  intro hmem
  exact h (mem_of_mem_lowerFrom (by decide) (List.mem_of_mem_filter hmem))

/-- So is the line in the contents. -/
theorem newline_not_mem_line {m : ModuleRecord} (h : '\n' ∉ m.name.toList) :
    '\n' ∉ (moduleMark m).line.toList := by
  have hparts : ∀ {a b c d e : String}, '\n' ∉ a.toList → '\n' ∉ b.toList → '\n' ∉ c.toList →
      '\n' ∉ d.toList → '\n' ∉ e.toList → '\n' ∉ (a ++ b ++ c ++ d ++ e).toList := by
    intro a b c d e ha hb hc hd he
    simp only [String.toList_append, List.mem_append, not_or]
    exact ⟨⟨⟨⟨ha, hb⟩, hc⟩, hd⟩, he⟩
  exact hparts (by simp) h (by simp) (newline_not_mem_anchor h) (by simp)

/-- Lines that all end, and the end of one more, are joined by the ends of lines. -/
theorem flatMap_lines (ls : List (List Char)) :
    ls.flatMap (· ++ ['\n']) ++ ['\n'] = ['\n'].intercalate (ls ++ [[], []]) := by
  induction ls with
  | nil => rfl
  | cons l ls ih =>
    have hne : ls ++ [[], []] ≠ ([] : List (List Char)) := by simp
    rw [List.flatMap_cons, List.append_assoc, ih, List.cons_append,
      List.intercalate_cons_of_ne_nil hne, List.append_assoc]

/-- The lines of the entries of a table of contents. -/
def linkLines (ms : List ModuleRecord) : List (List Char) :=
  (sortedBy ModuleRecord.name ms).map fun m => (moduleMark m).line.toList

/-- The lines of a table of contents. -/
theorem splitOn_contents {ms : List ModuleRecord} (hnames : ∀ m ∈ ms, '\n' ∉ m.name.toList) :
    (Section.render ms .contents).toList.splitOn '\n' =
      ("## Table of Contents".toList :: [] :: linkLines ms) ++ [[], []] := by
  have hlinks : (String.join ((sortedBy ModuleRecord.name ms).map contentsLine)).toList =
      (linkLines ms).flatMap (· ++ ['\n']) := by
    rw [String.toList_join, linkLines, List.flatMap_map, List.flatMap_map]
    refine List.flatMap_congr fun m _ => ?_
    rw [show contentsLine m = (moduleMark m).link from rfl, Mark.link_eq, String.toList_append]
    simp
  have hparts : ∀ {a b c : String} {as : List Char}, a.toList = (as ++ ['\n']) ++ ([] ++ ['\n']) →
      b.toList = (linkLines ms).flatMap (· ++ ['\n']) → c.toList = ['\n'] →
      (a ++ b ++ c).toList = (as :: [] :: linkLines ms).flatMap (· ++ ['\n']) ++ ['\n'] := by
    intro a b c as ha hb hc
    simp [String.toList_append, ha, hb, hc]
  have htext : (Section.render ms .contents).toList =
      ("## Table of Contents".toList :: [] :: linkLines ms).flatMap (· ++ ['\n']) ++ ['\n'] :=
    hparts (by simp) hlinks (by simp)
  rw [htext, flatMap_lines]
  refine List.splitOn_intercalate '\n' ?_ (by simp)
  simp only [List.forall_mem_append, List.forall_mem_cons]
  refine ⟨⟨by simp, List.not_mem_nil, ?_⟩, List.not_mem_nil, List.not_mem_nil, by simp⟩
  intro l hl
  obtain ⟨m, hm, rfl⟩ := List.mem_map.mp hl
  exact newline_not_mem_line (hnames m ((sortedBy_perm _ _).mem_iff.mp hm))

/-- The contents have one line for each module. -/
theorem entryLines_contents {ms : List ModuleRecord} (hnames : ∀ m ∈ ms, '\n' ∉ m.name.toList) :
    entryLines (Section.render ms .contents) =
      (sortedBy ModuleRecord.name ms).map fun m => (moduleMark m).line := by
  have hlines : (linkLines ms).filter (startsWith "- [Module: ".toList) = linkLines ms := by
    refine List.filter_eq_self.mpr fun l hl => ?_
    obtain ⟨m, -, rfl⟩ := List.mem_map.mp hl
    have hstart : ∀ a b c d e : String, a.toList <+: (a ++ b ++ c ++ d ++ e).toList := by
      simp [String.toList_append]
    exact startsWith_iff.mpr (hstart _ _ _ _ _)
  have hempty : ¬ startsWith "- [Module: ".toList [] = true := by
    rw [startsWith_iff]
    simp
  have hhead : ¬ startsWith "- [Module: ".toList "## Table of Contents".toList = true := by
    rw [startsWith_iff]
    simp
  rw [entryLines, splitOn_contents hnames, List.filter_append, List.filter_cons_of_neg hhead,
    List.filter_cons_of_neg hempty, List.filter_cons_of_neg hempty, List.filter_cons_of_neg hempty,
    hlines, List.filter_nil, List.append_nil, linkLines, List.map_map]
  exact List.map_congr_left fun m _ => String.ofList_toList

/-- **Entries of the table of contents and blocks of modules go together.** The section of the
modules is made of the block of each module, in an order in which the entries announce them one by
one: each has the name and the anchor that the block at its place begins with. Names do not break a
line, but they may be repeated. -/
theorem contents_entries_modules {ms : List ModuleRecord}
    (hnames : ∀ m ∈ ms, '\n' ∉ m.name.toList) :
    ∃ sorted : List ModuleRecord, sorted.Perm ms ∧
      Section.render ms .modules = String.join (sorted.map fun m => Section.render [m] .modules) ∧
      (entryLines (Section.render ms .contents)).length = sorted.length ∧
      List.Forall₂ Announces (entryLines (Section.render ms .contents)) sorted := by
  refine ⟨sortedBy ModuleRecord.name ms, sortedBy_perm _ _, ?_, ?_, ?_⟩
  · simp only [Section.render_singleton]
    rfl
  · rw [entryLines_contents hnames, List.length_map]
  · rw [entryLines_contents hnames, List.forall₂_map_left_iff, List.forall₂_same]
    intro m _
    refine ⟨(Mark.link_eq _).symm, ?_⟩
    rw [Section.render_singleton, modulePart_eq, String.toList_append]
    exact List.prefix_append _ _

/-- Three modules, two of them of one name, the other with a dot and a capital in its name. -/
theorem contents_entries_three :
    let ms := [bareModule "b/m.py" "m" [] [], bareModule "A.b.py" "A.b" [] [],
      bareModule "a/m.py" "m" [] []]
    (∀ m ∈ ms, '\n' ∉ m.name.toList) ∧
      ∃ sorted : List ModuleRecord, sorted.Perm ms ∧
        List.Forall₂ Announces (entryLines (Section.render ms .contents)) sorted := by
  intro ms
  have hnames : ∀ m ∈ ms, '\n' ∉ m.name.toList := by simp [ms, bareModule]
  obtain ⟨sorted, hperm, -, -, hannounces⟩ := contents_entries_modules hnames
  exact ⟨hnames, sorted, hperm, hannounces⟩

/-! ## Functions and methods -/

/-- What stands between two texts is known from the whole. -/
theorem eq_of_append_eq {a b b' c : String} (h : a ++ b ++ c = a ++ b' ++ c) : b = b' :=
  (String.append_right_inj a).mp ((String.append_left_inj c).mp h)

/-- The parameters that are not called `self`. -/
def otherThanSelf (ps : List (String × Info)) : List (String × Info) :=
  ps.filter (·.1 != "self")

/-- There are parameters, and all of them are called `self`. -/
def OnlySelf (ps : List (String × Info)) : Prop :=
  ps ≠ [] ∧ otherThanSelf ps = []

/-- The block of a function at the top of a module. -/
def functionBlock (f : FunctionRecord) : String :=
  functionPart "####" [] f

/-- The block of a function in a class. -/
def methodBlock (f : FunctionRecord) : String :=
  functionPart "#####" ["self"] f

/-- The block of a function without its parameter `self`, one level deeper. -/
def deeperBlock (f : FunctionRecord) : String :=
  "#" ++ functionBlock { f with parameters := otherThanSelf f.parameters }

/-- The heading of parameters with lines below it, and an empty line. -/
def parameterBlock (lines : List String) : String :=
  "**Parameters:**\n\n" ++ String.join lines ++ "\n"

/-- A block of parameters is not empty. -/
theorem parameterBlock_ne_empty (ls : List String) : parameterBlock ls ≠ "" := by
  have hne : ∀ s : String, s ++ "\n" ≠ "" := by simp
  exact hne _

/-- A heading with lines below it is not the bare heading. -/
theorem parameterBlock_ne_nil {ps : List (String × Info)} (hne : ps ≠ []) :
    parameterBlock (ps.map parameterLine) ≠ parameterBlock [] := by
  have hline : ∀ s : String, s ++ "\n" ≠ "" := by simp
  intro heq
  obtain ⟨p, ps, rfl⟩ := List.exists_cons_of_ne_nil hne
  have hjoin := congrArg String.toList (eq_of_append_eq heq)
  rw [String.toList_join, String.toList_join, List.map_cons, List.flatMap_cons, List.flatMap_nil,
    List.append_eq_nil_iff, String.toList_eq_nil_iff] at hjoin
  exact hline _ hjoin.1

/-- Parameters are listed in one block, without the omitted ones. -/
theorem parameterList_eq (omitted : List String) (ps : List (String × Info)) :
    parameterList omitted ps = if ps = [] then ""
      else parameterBlock ((ps.filter fun p => !omitted.contains p.1).map parameterLine) := by
  cases ps <;> rfl

/-- The parameters of a method are those besides `self`, but the heading is there for `self` too. -/
theorem parameterList_self (ps : List (String × Info)) : parameterList ["self"] ps =
    if ps = [] then "" else parameterBlock ((otherThanSelf ps).map parameterLine) := by
  have hfilter : ps.filter (fun p => !List.contains ["self"] p.1) = otherThanSelf ps :=
    List.filter_congr fun p _ => by cases h : p.1 == "self" <;> simp_all [bne]
  rw [parameterList_eq, hfilter]

/-- All parameters are listed in one block. -/
theorem parameterList_all (ps : List (String × Info)) : parameterList [] ps =
    if ps = [] then "" else parameterBlock (ps.map parameterLine) := by
  have hfilter : ps.filter (fun p => !List.contains [] p.1) = ps :=
    List.filter_eq_self.mpr fun p _ => rfl
  rw [parameterList_eq, hfilter]

/-- The heading stands alone exactly if `self` is the only parameter. -/
theorem parameterList_eq_bare_iff {ps : List (String × Info)} :
    parameterList ["self"] ps = parameterBlock [] ↔ OnlySelf ps := by
  rw [parameterList_self, OnlySelf]
  by_cases hps : ps = []
  · rw [if_pos hps]
    exact iff_of_false (parameterBlock_ne_empty []).symm fun h => h.1 hps
  · rw [if_neg hps]
    refine ⟨fun h => ⟨hps, ?_⟩, fun h => by rw [h.2]; rfl⟩
    by_contra hothers
    exact parameterBlock_ne_nil hothers h

/-- Nothing is listed of `self` alone. -/
theorem parameterList_of_onlySelf {ps : List (String × Info)} (h : OnlySelf ps) :
    parameterList [] (otherThanSelf ps) = "" := by
  rw [parameterList_all, if_pos h.2]

/-- Unless `self` is alone, leaving it out makes no other difference. -/
theorem parameterList_of_not_onlySelf {ps : List (String × Info)} (h : ¬ OnlySelf ps) :
    parameterList ["self"] ps = parameterList [] (otherThanSelf ps) := by
  rw [parameterList_self, parameterList_all]
  by_cases hps : ps = []
  · subst hps
    rfl
  · rw [if_neg hps, if_neg fun hothers => h ⟨hps, hothers⟩]

/-- The two blocks differ at most in the part for the parameters. -/
theorem exists_blocks_eq (f : FunctionRecord) : ∃ before after : String,
    methodBlock f = before ++ parameterList ["self"] f.parameters ++ after ∧
      deeperBlock f = before ++ parameterList [] (otherThanSelf f.parameters) ++ after := by
  have hassoc : ∀ {i h i' a b c d e r : String}, i = h ++ i' →
      h ++ (i' ++ a ++ b ++ c ++ d ++ e ++ r) = i ++ a ++ b ++ c ++ d ++ e ++ r := by
    rintro _ h i' a b c d e r rfl
    simp only [String.append_assoc]
  exact ⟨_, _, rfl, hassoc (by decide)⟩

/-- A method differs from a function if `self` is its only parameter. -/
theorem methodBlock_eq_iff (f : FunctionRecord) :
    methodBlock f = deeperBlock f ↔ ¬ OnlySelf f.parameters := by
  obtain ⟨before, after, hmethod, hdeeper⟩ := exists_blocks_eq f
  rw [hmethod, hdeeper]
  constructor
  · intro h honly
    rw [parameterList_eq_bare_iff.mpr honly, parameterList_of_onlySelf honly] at h
    exact parameterBlock_ne_empty [] (eq_of_append_eq h)
  · intro h
    rw [parameterList_of_not_onlySelf h]

/-- The block of a method is no shorter. -/
theorem length_deeperBlock_le (f : FunctionRecord) :
    (deeperBlock f).length ≤ (methodBlock f).length := by
  by_cases honly : OnlySelf f.parameters
  · obtain ⟨before, after, hmethod, hdeeper⟩ := exists_blocks_eq f
    rw [hmethod, hdeeper, parameterList_of_onlySelf honly]
    simp only [String.length_append, String.length_empty]
    omega
  · exact le_of_eq (congrArg String.length ((methodBlock_eq_iff f).mpr honly).symm)

/-- Where no text is shorter than its counterpart, texts that are equal in all are so one by one. -/
theorem eq_of_join_eq {α : Type} {f g : α → String} (hle : ∀ a, (g a).length ≤ (f a).length)
    {as : List α} (h : String.join (as.map f) = String.join (as.map g)) : ∀ a ∈ as, f a = g a := by
  have hjoin : ∀ as : List α,
      (String.join (as.map g)).length ≤ (String.join (as.map f)).length := by
    intro as
    induction as with
    | nil => exact le_rfl
    | cons a as ih =>
      have ha := hle a
      simp only [List.map_cons, String.join_cons, String.length_append]
      omega
  induction as with
  | nil => simp
  | cons a as ih =>
    simp only [List.map_cons, String.join_cons, ← String.toList_inj, String.toList_append] at h
    have hlengths := congrArg List.length h
    have ha := hle a
    have has := hjoin as
    simp only [List.length_append, String.length_toList] at hlengths
    obtain ⟨hhead, hrest⟩ := List.append_inj h (by simp only [String.length_toList]; omega)
    rw [List.forall_mem_cons]
    exact ⟨String.toList_inj.mp hhead, ih (String.toList_inj.mp hrest)⟩

/-- Under one heading the blocks of methods are those of functions only if each is. -/
theorem headed_methodBlock_eq_iff {heading : String} {fs : List FunctionRecord} :
    headed heading (fs.map methodBlock) = headed heading (fs.map deeperBlock) ↔
      ∀ f ∈ fs, methodBlock f = deeperBlock f := by
  constructor
  · intro h
    rcases fs with _ | ⟨f, fs⟩
    · simp
    · exact eq_of_join_eq length_deeperBlock_le ((String.append_right_inj _).mp h)
  · intro h
    rw [List.map_congr_left h]

/-- **Methods are written like functions, unless `self` is their only parameter.** The block of a
method is that of the function without `self`, one level deeper, exactly if `self` is not its only
parameter. Exactly where it is, the heading of the parameters has no line below it. A class is
written with the blocks of functions exactly if it has no such method. -/
theorem methods_like_functions_iff (f : FunctionRecord) (c : ClassRecord) :
    (methodBlock f = deeperBlock f ↔ ¬ OnlySelf f.parameters) ∧
    (parameterList ["self"] f.parameters = parameterBlock [] ↔ OnlySelf f.parameters) ∧
    (classPart c = "#### \x60" ++ c.name ++ "\x60\n\n" ++ paragraph c.docstring ++
        headed "**Methods:**" ((sortedBy FunctionRecord.name c.methods).map deeperBlock) ↔
      ∀ m ∈ c.methods, ¬ OnlySelf m.parameters) := by
  refine ⟨methodBlock_eq_iff f, parameterList_eq_bare_iff, ?_⟩
  refine (String.append_right_inj _).trans (headed_methodBlock_eq_iff.trans ?_)
  simp only [(sortedBy_perm FunctionRecord.name c.methods).mem_iff, methodBlock_eq_iff]

/-- A method without other parameters has a heading for them. -/
theorem not_forall_methods_like_functions : ¬ ∀ f : FunctionRecord,
    methodBlock f = deeperBlock f := by
  intro h
  have hself :=
    (methodBlock_eq_iff _).mp (h { bareFunction "f" "" with parameters := [("self", [])] })
  exact hself ⟨by simp, by decide⟩

end Codebook.Document
