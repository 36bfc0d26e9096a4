import Mathlib
import Codebook.Proofs.SourceDirectory
import Codebook.Proofs.TestGlobs

/-!
# Settings that name no test files

A project without test settings has default patterns of test files. A settings file with a section
for tests replaces them by what it says, and one that says nothing about names of files replaces them
by nothing. So the two ways to say nothing differ.

Two disks are compared of which one has the settings file and the other has not. `Tree.Gains` says
that a tree has one more file, wherever that is, and `Disk.follow_gains` follows names on both disks
side by side: what they lead to may have gained the file, and nothing else is different.

* `find_eq_find_iff`: the search without the settings leaves out the tests by default, and the search
  with them does not. They agree exactly if tests are asked for or there are none.
* `not_forall_find_eq_find`: a project with one test is enough for them to differ.
-/

namespace Codebook

open Text Codebook.Path

/-! ## One more file in a tree -/

namespace Tree

/-- The second tree is the first one, perhaps with one more file of the given name in one of its
directories. -/
inductive Gains (name : String) : Tree → Tree → Prop
  | same (t : Tree) : Gains name t t
  | entry {es fs : List (String × Tree)} (hnew : ∀ e ∈ es ++ fs, e.1 ≠ name)
      (bytes : List UInt8) : Gains name (.dir (es ++ fs)) (.dir (es ++ (name, .file bytes) :: fs))
  | inside {es fs : List (String × Tree)} {n : String} {t t' : Tree} (h : Gains name t t') :
      Gains name (.dir (es ++ (n, t) :: fs)) (.dir (es ++ (n, t') :: fs))

/-- An entry is found under its own name. -/
theorem find?_eq_none_or (es : List (String × Tree)) (m : String) :
    es.find? (·.1 == m) = none ∨ ∃ u, es.find? (·.1 == m) = some (m, u) := by
  cases hes : es.find? (·.1 == m) with
  | none => exact .inl rfl
  | some e =>
    obtain ⟨n, u⟩ := e
    obtain rfl : n = m := by simpa using List.find?_some hes
    exact .inr ⟨u, rfl⟩

/-- The names lead to a file by way of the entry. -/
def Leads (e : String × Tree) (ns : List String) : Prop :=
  (∃ bytes, e.2 = .file bytes ∧ ns = [e.1]) ∨ ∃ ms, ns = e.1 :: ms ∧ e.2.HasFile ms

/-- A directory has the files that its entries lead to. -/
theorem hasFile_dir_iff {es : List (String × Tree)} {ns : List String} :
    (Tree.dir es).HasFile ns ↔ ∃ e ∈ es, Leads e ns := by
  constructor
  · intro h
    cases h with
    | entry he => exact ⟨_, he, .inl ⟨_, rfl, rfl⟩⟩
    | inside he hf => exact ⟨_, he, .inr ⟨_, rfl, hf⟩⟩
  · rintro ⟨⟨n, t⟩, he, ⟨bytes, rfl, rfl⟩ | ⟨ms, rfl, hf⟩⟩
    · exact .entry he
    · exact .inside he hf

/-- A file has no files below it. -/
theorem not_hasFile_file {bytes : List UInt8} {ns : List String} :
    ¬ (Tree.file bytes).HasFile ns := by
  intro h
  cases h

namespace Gains

variable {name : String} {t t' : Tree}

/-- Files stay as they are. -/
theorem eq_file_iff (h : Gains name t t') {bytes : List UInt8} :
    t' = .file bytes ↔ t = .file bytes := by
  cases h <;> simp

/-- A directory that gains a file stays a directory. -/
theorem exists_dir {es : List (String × Tree)} (h : Gains name (.dir es) t') :
    ∃ es', t' = .dir es' := by
  cases h <;> exact ⟨_, rfl⟩

/-- What a name leads to afterwards: the new file, or what it led to before, which may have gained
it. -/
theorem find?_cases {es es' : List (String × Tree)} (h : Gains name (.dir es) (.dir es'))
    (m : String) :
    es.find? (·.1 == m) = none ∧
        (es'.find? (·.1 == m) = none ∨
          m = name ∧ ∃ bytes, es'.find? (·.1 == m) = some (m, .file bytes)) ∨
      ∃ u u', es.find? (·.1 == m) = some (m, u) ∧ es'.find? (·.1 == m) = some (m, u') ∧
        Gains name u u' := by
  cases h with
  | same =>
    rcases find?_eq_none_or es m with h | ⟨u, h⟩
    · exact .inl ⟨h, .inl h⟩
    · exact .inr ⟨u, u, h, h, .same u⟩
  | @entry es fs hnew bytes =>
    by_cases hm : name = m
    · subst hm
      have hnone : ∀ gs ⊆ es ++ fs, gs.find? (·.1 == name) = none := by
        intro gs hgs
        simpa using fun e t he => hnew _ (hgs he)
      refine .inl ⟨hnone _ (List.Subset.refl _), .inr ⟨rfl, bytes, ?_⟩⟩
      rw [List.find?_append, hnone es (List.subset_append_left _ _)]
      simp
    · have hskip : (es ++ (name, .file bytes) :: fs).find? (·.1 == m) =
          (es ++ fs).find? (·.1 == m) := by
        simp [List.find?_append, hm]
      rw [hskip]
      rcases find?_eq_none_or (es ++ fs) m with h | ⟨u, h⟩
      · exact .inl ⟨h, .inl h⟩
      · exact .inr ⟨u, u, h, h, .same u⟩
  | @inside es fs n t t' h =>
    rcases find?_eq_none_or es m with hes | ⟨u, hes⟩
    · by_cases hm : n = m
      · subst hm
        exact .inr ⟨t, t', by simp [List.find?_append, hes], by simp [List.find?_append, hes], h⟩
      · rcases find?_eq_none_or fs m with hfs | ⟨u, hfs⟩
        · left
          simp [List.find?_append, hes, hfs, hm]
        · exact .inr ⟨u, u, by simp [List.find?_append, hes, hfs, hm],
            by simp [List.find?_append, hes, hfs, hm], .same u⟩
    · exact .inr ⟨u, u, by simp [List.find?_append, hes], by simp [List.find?_append, hes],
        .same u⟩

/-- The files with other names are the same. -/
theorem hasFile_iff {ns : List String} (h : Gains name t t') (hns : ns.getLast? ≠ some name) :
    t'.HasFile ns ↔ t.HasFile ns := by
  -- all entries but one are the same
  have hmem : ∀ (es fs : List (String × Tree)) e (p : String × Tree → Prop),
      (∃ x ∈ es ++ e :: fs, p x) ↔ p e ∨ ∃ x ∈ es ++ fs, p x := by
    intro es fs e p
    simp only [List.mem_append, List.mem_cons]
    grind
  induction h generalizing ns with
  | same => exact Iff.rfl
  | @entry es fs hnew bytes =>
    have hnot : ¬ Leads (name, .file bytes) ns := by
      rintro (⟨_, -, rfl⟩ | ⟨_, -, hf⟩)
      · exact hns rfl
      · exact not_hasFile_file hf
    rw [hasFile_dir_iff, hasFile_dir_iff, hmem]
    exact or_iff_right hnot
  | @inside es fs n t t' h ih =>
    have hleads : Leads (n, t') ns ↔ Leads (n, t) ns := by
      refine or_congr ?_ (exists_congr fun ms => and_congr_right ?_)
      · simp only [h.eq_file_iff]
      · rintro rfl
        by_cases hms : ms = []
        · subst hms
          exact iff_of_false (fun hf => hf.ne_nil rfl) fun hf => hf.ne_nil rfl
        · rw [List.getLast?_cons_of_ne_nil hms] at hns
          exact ih hns
    rw [hasFile_dir_iff, hasFile_dir_iff, hmem, hmem, hleads]

end Gains

end Tree

namespace Disk

/-! ## One more file on a disk -/

/-- Names that lead somewhere still do, and what they lead to may have gained the file. Other names
lead at most to the new file. -/
theorem follow_gains {name : String} (ns : List String) {above above' : List Tree} {t t' : Tree}
    (habove : List.Forall₂ (Tree.Gains name) above above') (h : t.Gains name t') :
    (∃ u u', follow above t ns = .ok u ∧ follow above' t' ns = .ok u' ∧ u.Gains name u') ∨
      (∃ e, follow above t ns = .error e) ∧
        ∀ u', follow above' t' ns = .ok u' → ∃ bytes, u' = .file bytes := by
  induction ns generalizing above above' t t' with
  | nil => exact .inl ⟨t, t', rfl, rfl, h⟩
  | cons n ns ih =>
    cases t with
    | file bytes =>
      rw [h.eq_file_iff.mpr rfl]
      exact .inr ⟨⟨_, rfl⟩, fun u' hu => by simp [follow] at hu⟩
    | dir es =>
      obtain ⟨es', rfl⟩ := h.exists_dir
      simp only [follow]
      by_cases hn : (n == "..") = true
      · simp only [if_pos hn]
        cases habove with
        | nil => exact ih .nil h
        | cons ha habove => exact ih habove ha
      · simp only [if_neg hn]
        rcases h.find?_cases n with ⟨hes, hes' | ⟨rfl, bytes, hes'⟩⟩ | ⟨u, u', hes, hes', hu⟩
        · simp only [hes, hes']
          exact .inr ⟨⟨_, rfl⟩, fun u' hu => by simp at hu⟩
        · simp only [hes, hes']
          refine .inr ⟨⟨_, rfl⟩, fun u' hu => ?_⟩
          cases ns with
          | nil => exact ⟨bytes, (Except.ok.inj hu).symm⟩
          | cons m ns => simp [follow] at hu
        · simp only [hes, hes']
          exact ih (.cons h habove) hu

/-- One name more leads to an entry, if there is one. -/
theorem follow_concat_of_ok {n : String} (hn : n ≠ "..") {es : List (String × Tree)}
    (ns : List String) {above : List Tree} {t : Tree} (h : follow above t ns = .ok (.dir es)) :
    follow above t (ns ++ [n]) = match es.find? (·.1 == n) with
      | some (_, u) => .ok u
      | none => .error (if nameLimit < n.utf8ByteSize then .tooLong else .missing) := by
  induction ns generalizing above t with
  | nil =>
    obtain rfl := Except.ok.inj h
    cases he : es.find? (·.1 == n) <;> simp [follow, hn, he]
  | cons m ns ih =>
    cases t with
    | file bytes => simp [follow] at h
    | dir fs =>
      simp only [List.cons_append, follow] at h ⊢
      by_cases hm : (m == "..") = true
      · rw [if_pos hm] at h ⊢
        cases above with
        | nil => exact ih h
        | cons a above => exact ih h
      · rw [if_neg hm] at h ⊢
        cases hfind : fs.find? (·.1 == m) with
        | none => simp [hfind] at h
        | some e =>
          rw [hfind] at h
          exact ih h

/-- The second disk is the first one, perhaps with one more file of the given name. -/
structure Gains (name : String) (d d' : Disk) : Prop where
  root : d.root.Gains name d'.root
  current : d'.current = d.current

namespace Gains

variable {name : String} {d d' : Disk}

/-- Paths lead along the same route. -/
theorem route_eq (h : d.Gains name d') (p : Path) : d'.route p = d.route p := by
  rw [route, route, h.current]

/-- Paths are resolved alike. -/
theorem resolve_eq (h : d.Gains name d') (p : Path) : d'.resolve p = d.resolve p := by
  rw [resolve, resolve, h.route_eq]

/-- The files below a path, those with the name of the new one apart. -/
theorem hasFile_iff (h : d.Gains name d') (p : Path) {ns : List String}
    (hns : ns.getLast? ≠ some name) :
    (∃ t, d'.get p = .ok t ∧ t.HasFile ns) ↔ ∃ t, d.get p = .ok t ∧ t.HasFile ns := by
  unfold Disk.get
  rw [h.route_eq]
  by_cases hnull : p.hasNull = true
  · simp [hnull]
  by_cases hlong : pathLimit ≤ p.toString.utf8ByteSize
  · simp [hnull, hlong]
  simp only [hnull, hlong, if_false, Bool.false_eq_true]
  rcases follow_gains (d.route p) .nil h.root with ⟨u, u', hu, hu', hgains⟩ | ⟨⟨e, he⟩, hfile⟩
  · simp [hu, hu', hgains.hasFile_iff hns]
  · constructor
    · rintro ⟨u', hu', hf⟩
      obtain ⟨bytes, rfl⟩ := hfile u' hu'
      exact absurd hf Tree.not_hasFile_file
    · rintro ⟨u, hu, -⟩
      rw [he] at hu
      cases hu

/-- The route to an entry goes through its directory. -/
theorem route_below (d : Disk) (p : Path) (n : String) :
    d.route (p.below [n]) = d.route p ++ [n] := by
  cases ha : p.anchor <;> simp [route, below, ha]

/-- Beside an entry, another name than that of the new file leads to the same as before, or to what
has gained the file. -/
theorem get_beside (h : d.Gains name d') {p : Path} {m n : String} (hm : m ≠ "..") (hn : n ≠ "..")
    (hne : n ≠ name) {t : Tree} (hget : d'.get (p.below [m]) = .ok t) :
    d'.get (p.below [n]) = d.get (p.below [n]) ∨
      ∃ u u', d.get (p.below [n]) = .ok u ∧ d'.get (p.below [n]) = .ok u' ∧ u.Gains name u' := by
  have hfollow : follow [] d'.root (d.route p ++ [m]) = .ok t := by
    unfold Disk.get at hget
    split_ifs at hget
    rwa [h.route_eq, route_below] at hget
  obtain ⟨es', hes', -⟩ := follow_concat_eq_ok hm _ hfollow
  -- the new file is no directory, so there was one before
  obtain ⟨es, hes, hgains⟩ : ∃ es, follow [] d.root (d.route p) = .ok (.dir es) ∧
      (Tree.dir es).Gains name (.dir es') := by
    rcases follow_gains (d.route p) .nil h.root with ⟨u, u', hu, hu', hgains⟩ | ⟨-, hfile⟩
    · obtain rfl := Except.ok.inj (hu'.symm.trans hes')
      cases u with
      | file bytes => exact absurd (hgains.eq_file_iff.mpr rfl) (by simp)
      | dir es => exact ⟨es, hu, hgains⟩
    · obtain ⟨bytes, hb⟩ := hfile _ hes'
      cases hb
  unfold Disk.get
  rw [h.route_eq, route_below, follow_concat_of_ok hn _ hes, follow_concat_of_ok hn _ hes']
  by_cases hnull : (p.below [n]).hasNull = true
  · simp [hnull]
  by_cases hlong : pathLimit ≤ (p.below [n]).toString.utf8ByteSize
  · simp [hnull, hlong]
  simp only [hnull, hlong, if_false, Bool.false_eq_true]
  rcases hgains.find?_cases n with ⟨hnone, hnone' | ⟨hname, -⟩⟩ | ⟨u, u', hu, hu', hgains⟩
  · rw [hnone, hnone']
    exact .inl rfl
  · exact absurd hname hne
  · rw [hu, hu']
    exact .inr ⟨u, u', rfl, rfl, hgains⟩

/-- Beside an entry, a file of another name than the new one is there and is read as before. -/
theorem reads_beside (h : d.Gains name d') {p : Path} {m n : String} (hm : m ≠ "..")
    (hn : n ≠ "..") (hne : n ≠ name) {t : Tree} (hget : d'.get (p.below [m]) = .ok t) :
    d'.exists? (p.below [n]) = d.exists? (p.below [n]) ∧
      d'.read (p.below [n]) = d.read (p.below [n]) := by
  unfold exists? holds read bytes
  rcases h.get_beside hm hn hne hget with heq | ⟨u, u', hu, hu', hgains⟩
  · rw [heq]
    exact ⟨rfl, rfl⟩
  · cases u with
    | file bytes =>
      rw [hu, hu', hgains.eq_file_iff.mpr rfl]
      exact ⟨rfl, rfl⟩
    | dir es =>
      obtain ⟨es', rfl⟩ := hgains.exists_dir
      rw [hu, hu']
      exact ⟨rfl, rfl⟩

end Gains

end Disk

/-- Another file does not change what is to be ignored. -/
theorem Ignore.ofDirectory_gains {name : String} {d d' : Disk} (h : d.Gains name d')
    (hname : name ≠ ".gitignore") {dir : Path} {m : String} (hm : m ≠ "..") {t : Tree}
    (hget : d'.get (dir.below [m]) = .ok t) : ofDirectory d' dir = ofDirectory d dir := by
  have hfile : dir.child ".gitignore" = dir.below [".gitignore"] := child_eq_below (by decide)
  obtain ⟨hexists, hread⟩ := h.reads_beside hm (by decide) (Ne.symm hname) hget
  unfold ofDirectory
  simp only [hfile, hexists, hread]

namespace TestNaming

/-! ## Settings without names of test files -/

/-- The default patterns always give an answer. -/
theorem isTest_default (file : Path) : ∃ test, isTest none file = .ok test := by
  have hall : ∀ p ∈ defaultPatterns, ∃ g, Regex.IsWritable g ∧
      p = String.ofList (Regex.expressionText .anything g) := by
    intro p hp
    simp only [defaultPatterns, List.mem_cons, List.not_mem_nil, or_false] at hp
    rcases hp with rfl | rfl | rfl
    · exact ⟨"test_*.py".toList, by decide, by decide⟩
    · exact ⟨"*_test.py".toList, by decide, by decide⟩
    · exact ⟨"*_spec.py".toList, by decide, by decide⟩
  obtain ⟨test, htest, -⟩ := @anyMatches_eq_ok file.name defaultPatterns fun p hp => by
    obtain ⟨g, hg, rfl⟩ := hall p hp
    exact (Regex.test_expressionText .anything hg file.name).imp fun _ hb => hb.1
  exact ⟨test, htest⟩

/-- Settings with a section for tests that says nothing about them leave no patterns at all. -/
theorem ofIni_silent {ini : Ini} {options : List (String × String)}
    (hsection : ini.section? "pytest" = some options)
    (hfiles : ini.raw? "pytest" "python_files" = none)
    (hpaths : ini.raw? "pytest" "testpaths" = none) :
    Settings.ofIni ini = .ok ⟨some [], none⟩ := by
  have hget : ∀ option, ini.raw? "pytest" option = none → ini.get? "pytest" option = .ok none := by
    intro option h
    rw [Ini.get?, h]
  rw [Settings.ofIni, hsection, hget _ hfiles, hget _ hpaths]
  rfl

/-- Settings with a section come from a file. -/
theorem exists_get_of_section {d : Disk} {file : Path} {ini : Ini}
    (h : Ini.ofFile d file = .ok ini) {name : String} {options : List (String × String)}
    (hsection : ini.section? name = some options) : ∃ bytes, d.get file = .ok (.file bytes) := by
  unfold Ini.ofFile at h
  split at h
  · rename_i bytes hbytes
    exact ⟨bytes, Disk.bytes_eq_ok_iff.mp hbytes⟩
  · cases h
  · obtain rfl := Except.ok.inj h
    cases hsection

end TestNaming

namespace Search

/-! ## Searches with and without the settings -/

/-- If every file gets an answer, then those are selected that are kept. -/
theorem select_eq_filter {s : Survey} {o : Options} {keep : Path → Bool} {files : List Path}
    (h : ∀ f ∈ files, s.keeps o f = .ok (keep f)) : s.select o files = .ok (files.filter keep) := by
  induction files with
  | nil => rfl
  | cons f files ih =>
    rw [List.forall_mem_cons] at h
    rw [Survey.select, h.1, ih h.2, List.filter_cons]
    rfl

/-- A directory other than the current one is surveyed as it is. -/
theorem find_of_ne_dot {d : Disk} {o : Options} {directory : String} (h : directory ≠ ".") :
    find d o directory = (survey d o (ofString directory)).bind fun s => s.list o d := by
  rw [find]
  simp only [beq_iff_eq, h, if_false]
  cases survey d o (ofString directory) with
  | error e => rfl
  | ok s =>
    change (s.list o d).bind _ = s.list o d
    cases s.list o d <;> rfl

/-- A new file that is not looked for is no candidate. -/
theorem candidates_gains {name : String} {d d' : Disk} (h : d.Gains name d') (hd : d.WellFormed)
    (hd' : d'.WellFormed) {s : Survey} {o : Options} (hname : o.wants name = false)
    (ha : s.root.anchor = .root) (hn : ∀ n ∈ s.root.parts, IsName n) :
    s.candidates o d' = s.candidates o d := by
  refine eq_of_pairwise_before (pairwise_candidates hd' ha hn) (pairwise_candidates hd ha hn) ?_
  intro p
  rw [mem_candidates hd' ha hn, mem_candidates hd ha hn]
  refine exists_congr fun cs => exists_congr fun f => and_congr_right fun _ => ?_
  rw [and_congr_left_iff]
  rintro ⟨-, hf⟩
  refine h.hasFile_iff s.root ?_
  rw [List.getLast?_concat]
  rintro ⟨rfl⟩
  rw [hname] at hf
  cases hf

/-- The survey with the settings: the same, but no file is a test. -/
theorem survey_silent {d d' : Disk} (h : d.Gains "pytest.ini" d') {o : Options} {dir : Path}
    {t : Tree} (hget : d'.get (dir.below ["pytest.ini"]) = .ok t)
    (hst : TestNaming.settings d dir = .ok .none)
    (hst' : TestNaming.settings d' dir = .ok ⟨some [], none⟩) :
    survey d' o dir = (survey d o dir).map fun s => { s with patterns := some [] } := by
  have hlocate : d'.locate dir = d.locate dir := by
    rw [Disk.locate, Disk.locate, h.resolve_eq]
  rw [survey, survey, hst, hst', hlocate, Ignore.ofDirectory_gains h (by decide) (by decide) hget]
  cases o.useIgnoreFile with
  | true =>
    cases Ignore.ofDirectory d dir with
    | error e => rfl
    | ok ps => cases d.locate dir <;> rfl
  | false => cases d.locate dir <;> rfl

section Survey

variable (s : Survey) (o : Options) (f : Path)

/-- Without patterns only the ignore file leaves out files. -/
theorem keeps_silent :
    ({ s with patterns := some [] } : Survey).keeps o f =
      .ok (!Ignore.judge false (Ignore.pathText f s.root) s.rules) := by
  unfold Survey.keeps
  cases Ignore.judge false (Ignore.pathText f s.root) s.rules with
  | true => rfl
  | false => cases o.includeTests <;> rfl

/-- Without patterns, files are kept by the rules and the usual test names. -/
theorem keeps_default (hs : s.patterns = none) :
    s.keeps o f = .ok (!Ignore.judge false (Ignore.pathText f s.root) s.rules &&
      (o.includeTests || TestNaming.isTest none f = .ok false)) := by
  obtain ⟨test, htest⟩ := TestNaming.isTest_default f
  unfold Survey.keeps
  rw [hs, htest]
  cases Ignore.judge false (Ignore.pathText f s.root) s.rules with
  | true => rfl
  | false => cases o.includeTests <;> cases test <;> rfl

end Survey

/-- The list without the settings is that with them, apart from the files that are tests by
default. -/
theorem list_silent {d d' : Disk} (h : d.Gains "pytest.ini" d') (hd : d.WellFormed)
    (hd' : d'.WellFormed) {s : Survey} {o : Options} (hs : s.patterns = none)
    (ha : s.root.anchor = .root) (hn : ∀ n ∈ s.root.parts, IsName n) :
    s.list o d = (({ s with patterns := some [] } : Survey).list o d').map fun fs =>
      fs.filter fun f => o.includeTests || TestNaming.isTest none f = .ok false := by
  have hsame : ({ s with patterns := some [] } : Survey).candidates o d' = s.candidates o d :=
    candidates_gains h hd hd' rfl ha hn
  rw [Survey.list, Survey.list, hsame, select_eq_filter fun f _ => keeps_default s o f hs,
    select_eq_filter fun f _ => keeps_silent s o f]
  simp only [Except.map, List.filter_filter]
  congr 2
  funext f
  exact Bool.and_comm _ _

section Find

variable {d d' : Disk} (hd : d.WellFormed) (hd' : d'.WellFormed) (h : d.Gains "pytest.ini" d')
  {directory : String} (hdot : directory ≠ ".")
  (hwithout : d.exists? (TestNaming.settingsFile (ofString directory)) = .ok false) {ini : Ini}
  (hwith : Ini.ofFile d' (TestNaming.settingsFile (ofString directory)) = .ok ini)
  {options : List (String × String)} (hsection : ini.section? "pytest" = some options)
  (hfiles : ini.raw? "pytest" "python_files" = none)
  (hpaths : ini.raw? "pytest" "testpaths" = none) (o : Options)

include hd hd' h hdot hwithout hwith hsection hfiles hpaths

/-- The search without the settings gives what the search with them gives, apart from the files that
are tests by default. -/
theorem find_silent :
    find d o directory = (find d' o directory).map fun fs =>
      fs.filter fun f => o.includeTests || TestNaming.isTest none f = .ok false := by
  obtain ⟨bytes, hget⟩ := TestNaming.exists_get_of_section hwith hsection
  have hst : TestNaming.settings d (ofString directory) = .ok .none := by
    rw [TestNaming.settings, hwithout]
  have hst' : TestNaming.settings d' (ofString directory) = .ok ⟨some [], none⟩ := by
    rw [TestNaming.settings, Disk.exists?, Disk.holds, hget]
    simp only [hwith]
    exact TestNaming.ofIni_silent hsection hfiles hpaths
  have hfile : TestNaming.settingsFile (ofString directory) =
      (ofString directory).below ["pytest.ini"] := child_eq_below (by decide)
  rw [hfile] at hget
  rw [find_of_ne_dot hdot, find_of_ne_dot hdot, survey_silent h hget hst hst']
  cases hs : survey d o (ofString directory) with
  | error e => rfl
  | ok s =>
    obtain ⟨st, ps, hst₂, -, -, rfl⟩ := survey_eq_ok hs
    obtain rfl := Except.ok.inj (hst.symm.trans hst₂)
    exact list_silent h hd hd' rfl rfl (hd.resolve_ofString directory)

/-- **When settings that name no test files change a search.** Such settings leave no pattern at all,
not even the default ones, so that the search without them gives what the search with them gives,
apart from the files that are tests by default. Both give the same exactly if tests are asked for or
the search with the settings finds no such file. -/
theorem find_eq_find_iff :
    (find d o directory = (find d' o directory).map fun fs =>
        fs.filter fun f => o.includeTests || TestNaming.isTest none f = .ok false) ∧
      (find d' o directory = find d o directory ↔
        o.includeTests = true ∨ ∀ fs, find d' o directory = .ok fs →
          ∀ f ∈ fs, TestNaming.isTest none f = .ok false) := by
  have hsilent := find_silent hd hd' h hdot hwithout hwith hsection hfiles hpaths o
  refine ⟨hsilent, ?_⟩
  rw [hsilent]
  cases find d' o directory with
  | error e => simp [Except.map]
  | ok fs =>
    simp only [Except.map, Except.ok.injEq, forall_eq']
    rw [eq_comm, List.filter_eq_self]
    simp only [Bool.or_eq_true, decide_eq_true_eq]
    cases o.includeTests <;> simp

end Find

/-- A project with a second file of the given name. -/
def pairDisk (name : String) : Disk := .ofTexts ["home"]
  [(["home", "p", "a.py"], ""), (["home", "p", name], "")]

/-- The same project with settings that say nothing about tests. -/
def quietDisk (name : String) : Disk := .ofTexts ["home"]
  [(["home", "p", "a.py"], ""),
   (["home", "p", "pytest.ini"], "[pytest]\naddopts = -q\n"),
   (["home", "p", name], "")]

/-- What these settings say. -/
def quietIni : Ini := .single "pytest" "addopts" "-q"

section Quiet

variable {name : String} (hname : name ∈ ["test_a.py", "z.py"])
include hname

/-- The second disk gains the settings file. -/
theorem gains_quietDisk : (pairDisk name).Gains "pytest.ini" (quietDisk name) := by
  simp only [List.mem_cons, List.not_mem_nil, or_false] at hname
  rcases hname with rfl | rfl
  · exact ⟨@Tree.Gains.inside _ [] [] "home" _ _ <| @Tree.Gains.inside _ [] [] "p" _ _ <|
      @Tree.Gains.entry _ [("a.py", .file (encode ""))] [("test_a.py", .file (encode ""))] (by simp) _,
      rfl⟩
  · exact ⟨@Tree.Gains.inside _ [] [] "home" _ _ <| @Tree.Gains.inside _ [] [] "p" _ _ <|
      @Tree.Gains.entry _ [("a.py", .file (encode ""))] [("z.py", .file (encode ""))] (by simp) _,
      rfl⟩

theorem wellFormed_pairDisk : (pairDisk name).WellFormed := by
  have hnames : ∀ name ∈ ["test_a.py", "z.py"],
      ∀ f ∈ [(["home", "p", "a.py"], ""), (["home", "p", name], "")], ∀ n ∈ f.1, IsName n := by
    decide
  exact Disk.wellFormed_ofTexts (by decide) (hnames name hname)

theorem wellFormed_quietDisk : (quietDisk name).WellFormed := by
  have hnames : ∀ name ∈ ["test_a.py", "z.py"], ∀ f ∈ [(["home", "p", "a.py"], ""),
      (["home", "p", "pytest.ini"], "[pytest]\naddopts = -q\n"), (["home", "p", name], "")],
      ∀ n ∈ f.1, IsName n := by
    decide
  exact Disk.wellFormed_ofTexts (by decide) (hnames name hname)

/-- The first disk has no settings file. -/
theorem exists?_pairDisk :
    (pairDisk name).exists? (TestNaming.settingsFile (ofString "p")) = .ok false := by
  revert name
  decide +kernel

/-- The settings of the second disk can be read. -/
theorem ofFile_quietDisk :
    Ini.ofFile (quietDisk name) (TestNaming.settingsFile (ofString "p")) = .ok quietIni := by
  revert name
  decide +kernel

end Quiet

/-- In a project without tests these settings change nothing. -/
theorem find_quietDisk :
    (pairDisk "z.py").Gains "pytest.ini" (quietDisk "z.py") ∧
      (pairDisk "z.py").exists? (TestNaming.settingsFile (ofString "p")) = .ok false ∧
      Ini.ofFile (quietDisk "z.py") (TestNaming.settingsFile (ofString "p")) = .ok quietIni ∧
      find (quietDisk "z.py") .default "p" = find (pairDisk "z.py") .default "p" := by
  have hname : "z.py" ∈ ["test_a.py", "z.py"] := by decide
  have hfind : find (quietDisk "z.py") .default "p" =
      .ok [ofString "/home/p/a.py", ofString "/home/p/z.py"] := by
    decide +kernel
  have htests : ∀ f ∈ [ofString "/home/p/a.py", ofString "/home/p/z.py"],
      TestNaming.isTest none f = .ok false := by
    decide +kernel
  refine ⟨gains_quietDisk hname, exists?_pairDisk hname, ofFile_quietDisk hname,
    (find_eq_find_iff (wellFormed_pairDisk hname) (wellFormed_quietDisk hname)
      (gains_quietDisk hname) (by decide) (exists?_pairDisk hname) (ofFile_quietDisk hname) rfl rfl
      rfl _).2.mpr (.inr fun fs hfs => ?_)⟩
  cases hfind.symm.trans hfs
  exact htests

/-- **Settings that name no test files can change a search.** -/
theorem not_forall_find_eq_find :
    ¬ ∀ (d d' : Disk) (directory : String) (ini : Ini) (options : List (String × String))
      (o : Options), d.WellFormed → d'.WellFormed → d.Gains "pytest.ini" d' → directory ≠ "." →
      d.exists? (TestNaming.settingsFile (ofString directory)) = .ok false →
      Ini.ofFile d' (TestNaming.settingsFile (ofString directory)) = .ok ini →
      ini.section? "pytest" = some options → ini.raw? "pytest" "python_files" = none →
      ini.raw? "pytest" "testpaths" = none → find d' o directory = find d o directory := by
  intro h
  have hname : "test_a.py" ∈ ["test_a.py", "z.py"] := by decide
  have heq := h (pairDisk "test_a.py") (quietDisk "test_a.py") "p" quietIni _ .default
    (wellFormed_pairDisk hname) (wellFormed_quietDisk hname) (gains_quietDisk hname) (by decide)
    (exists?_pairDisk hname) (ofFile_quietDisk hname) rfl rfl rfl
  exact absurd heq (by decide +kernel)

end Search

end Codebook
