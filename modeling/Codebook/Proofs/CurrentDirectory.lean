import Mathlib
import Codebook.Proofs.SourceDirectory

/-!
# The current directory by a dot and by its absolute path

The settings and the ignore file of the current directory are the same however it is written, so
that a survey of it is too (`survey_current`). What is not the same is the search: only the one by a
dot lists the directory `src` by itself, and what is said in the current directory does not count
there.

* `same_files_iff_admitted`: both searches find the same files exactly if there is no directory
  `src`, or if it can be listed and the current directory admits all that is listed there.
* `not_forall_same_files`: an ignore file that names a file in `src` is enough for them to differ.
-/

namespace Codebook

open Text Codebook.Path

/-! ## Settings do not depend on how their file is called -/

namespace Ini

variable {source : String} (source' : String) {number : Nat} {line : List Char}

/-- A section is opened whatever the file is called. -/
theorem Reader.openSection_source {r r' : Reader} {name : String}
    (h : r.openSection source number name = .ok r') :
    r.openSection source' number name = .ok r' := by
  unfold openSection at h ⊢
  split_ifs at h ⊢
  · exact h
  · exact h

/-- An option is set whatever the file is called. -/
theorem Reader.setOption_source {r r' : Reader} {sectionName name : String} {value : List Char}
    (h : r.setOption source number sectionName line name value = .ok r') :
    r.setOption source' number sectionName line name value = .ok r' := by
  unfold setOption at h ⊢
  simp only at h ⊢
  split_ifs at h ⊢ <;> exact h

/-- The name of the file only counts for errors. -/
theorem Reader.step_source {r r' : Reader} (h : r.step source number line = .ok r') :
    r.step source' number line = .ok r' := by
  unfold step at h ⊢
  simp only at h ⊢
  split at h
  · exact h
  · exact h
  · exact h
  · split_ifs at h ⊢
    · exact h
    · split at h
      · exact openSection_source source' h
      · split at h
        · cases h
        · split at h
          · exact setOption_source source' h
          · exact h

/-- Lines are read whatever the file is called. -/
theorem Reader.steps_source :
    ∀ {lines : List (List Char)} {r r' : Reader} {number : Nat},
      Reader.steps source r number lines = .ok r' → Reader.steps source' r number lines = .ok r'
  | [], _, _, _, h => h
  | line :: lines, r, r', number, h => by
    rw [steps] at h ⊢
    cases hs : r.step source number line with
    | error e => simp [hs] at h
    | ok r₁ =>
      rw [hs] at h
      rw [step_source source' hs]
      exact steps_source h

/-- Settings that can be read are read alike, whatever their file is called. -/
theorem ofBytes_source {bytes : List UInt8} {ini : Ini} (h : ofBytes source bytes = .ok ini) :
    ofBytes source' bytes = .ok ini := by
  unfold ofBytes parse at h ⊢
  simp only at h ⊢
  cases hs : Reader.steps source .start 1 (linesOf bytes).1 with
  | error e => simp [hs] at h
  | ok r =>
    rw [hs] at h
    rw [Reader.steps_source source' hs]
    cases hf : (linesOf bytes).2 with
    | some f => simp [hf] at h
    | none =>
      simp only [hf] at h ⊢
      split_ifs at h ⊢
      exact h

end Ini

/-! ## Two paths to one place -/

section Same

variable {d : Disk} {p q : Path} (hget : d.get p = d.get q)

include hget

/-- What is found under both paths exists under both. -/
theorem Disk.exists?_of_get_eq {found : Bool} (h : d.exists? q = .ok found) :
    d.exists? p = .ok found := by
  unfold exists? holds at h ⊢
  rw [hget]
  split at h
  · exact h
  · cases h
  · exact h

/-- Bytes that are found under both paths are the same. -/
theorem Disk.bytes_of_get_eq {bytes : List UInt8} (h : d.bytes q = .ok bytes) :
    d.bytes p = .ok bytes := by
  unfold Disk.bytes at h ⊢
  rw [hget]
  split at h
  · exact h
  · cases h
  · cases h

/-- So is the text. -/
theorem Disk.read_of_get_eq {text : String} (h : d.read q = .ok text) : d.read p = .ok text := by
  obtain ⟨bytes, hbytes, h⟩ := Result.bind_eq_ok.mp h
  exact Result.bind_eq_ok.mpr ⟨bytes, d.bytes_of_get_eq hget hbytes, h⟩

/-- So are the settings. -/
theorem Ini.ofFile_of_get_eq {ini : Ini} (h : ofFile d q = .ok ini) : ofFile d p = .ok ini := by
  unfold ofFile Disk.bytes at h ⊢
  rw [hget]
  cases hq : d.get q with
  | ok t =>
    rw [hq] at h
    cases t with
    | file bytes => exact ofBytes_source _ h
    | dir es => exact h
  | error e =>
    rw [hq] at h
    cases e <;> exact h

end Same

/-! ## Files of the current directory -/

namespace Disk

/-- The current directory by its absolute path. -/
theorem resolve_current {d : Disk} (hd : d.WellFormed) :
    d.resolve .current = ⟨.root, d.current⟩ := by
  have hroute : d.route .current = d.current := by simp [route, Path.current]
  rw [resolve, hroute, straighten_of_names [] _ hd.current]
  rfl

variable {d : Disk} {n : String}

/-- The text of the absolute path of an entry is that of the current directory, perhaps a slash, and
the name. -/
theorem toString_below_current (d : Disk) (n : String) :
    ∃ slash, slash.toList ⊆ ['/'] ∧ ((⟨.root, d.current⟩ : Path).below [n]).toString =
      (⟨.root, d.current⟩ : Path).toString ++ slash ++ n := by
  by_cases hp : d.current = []
  · refine ⟨"", by simp, ?_⟩
    rw [toString_below_of_nil rfl hp, String.append_empty]
  · exact ⟨"/", by simp, toString_below_of_ne_nil rfl hp n⟩

/-- If it can be found out by its absolute path whether there is an entry in the current directory,
its name leads to the same. -/
theorem get_here_of_exists {found : Bool}
    (hnull : ¬ (⟨.root, d.current⟩ : Path).hasNull = true) (hn : '\x00' ∉ n.toList)
    (h : d.exists? ((⟨.root, d.current⟩ : Path).below [n]) = .ok found) :
    d.get ⟨.here, [n]⟩ = d.get ((⟨.root, d.current⟩ : Path).below [n]) := by
  have hhere : (⟨.here, [n]⟩ : Path).toString = n := by
    simp [Path.toString, Anchor.text]
  obtain ⟨slash, hslash, htext⟩ := toString_below_current d n
  have hnull₁ : ¬ (⟨.here, [n]⟩ : Path).hasNull = true := by
    simpa [hasNull, hhere] using hn
  have hnull₂ : ¬ ((⟨.root, d.current⟩ : Path).below [n]).hasNull = true := by
    have hs : '\x00' ∉ slash.toList := fun hc => absurd (hslash hc) (by decide)
    simp only [hasNull, htext, String.toList_append, List.contains_eq_mem, List.mem_append,
      decide_eq_true_eq] at hnull ⊢
    tauto
  have hlong₂ : ¬ pathLimit ≤ ((⟨.root, d.current⟩ : Path).below [n]).toString.utf8ByteSize := by
    intro hl
    simp [exists?, holds, Disk.get, hnull₂, hl] at h
  have hlong₁ : ¬ pathLimit ≤ (⟨.here, [n]⟩ : Path).toString.utf8ByteSize := by
    rw [htext, String.utf8ByteSize_append] at hlong₂
    rw [hhere]
    omega
  rw [Disk.get, if_neg hnull₁, if_neg hlong₁, Disk.get, if_neg hnull₂, if_neg hlong₂]
  rfl

end Disk

section Readings

variable {d : Disk} (hnull : ¬ (⟨.root, d.current⟩ : Path).hasNull = true)

include hnull

/-- The current directory has the settings of its full path. -/
theorem TestNaming.settings_current {st : Settings}
    (h : settings d ⟨.root, d.current⟩ = .ok st) : settings d .current = .ok st := by
  have hfile : settingsFile (⟨.root, d.current⟩ : Path) =
      (⟨.root, d.current⟩ : Path).below ["pytest.ini"] := child_eq_below (by decide)
  have hhere : settingsFile .current = ⟨.here, ["pytest.ini"]⟩ := by decide
  unfold settings at h ⊢
  rw [hfile] at h
  rw [hhere]
  split at h
  · rename_i hex
    have hget := Disk.get_here_of_exists hnull (by decide) hex
    obtain ⟨ini, hini, h⟩ := Result.bind_eq_ok.mp h
    rw [Disk.exists?_of_get_eq hget hex]
    exact Result.bind_eq_ok.mpr ⟨ini, Ini.ofFile_of_get_eq hget hini, h⟩
  · rename_i hex
    rw [Disk.exists?_of_get_eq (Disk.get_here_of_exists hnull (by decide) hex) hex]
    exact h
  · cases h

/-- The current directory has the patterns of its full path. -/
theorem Ignore.ofDirectory_current {ps : List String}
    (h : ofDirectory d ⟨.root, d.current⟩ = .ok ps) : ofDirectory d .current = .ok ps := by
  have hfile : (⟨.root, d.current⟩ : Path).child ".gitignore" =
      (⟨.root, d.current⟩ : Path).below [".gitignore"] := child_eq_below (by decide)
  have hhere : Path.current.child ".gitignore" = ⟨.here, [".gitignore"]⟩ := by decide
  unfold ofDirectory at h ⊢
  simp only [hfile] at h
  simp only [hhere]
  split at h
  · rename_i hex
    have hget := Disk.get_here_of_exists hnull (by decide) hex
    obtain ⟨text, htext, h⟩ := Result.map_eq_ok.mp h
    rw [Disk.exists?_of_get_eq hget hex]
    exact Result.map_eq_ok.mpr ⟨text, Disk.read_of_get_eq hget htext, h⟩
  · rename_i hex
    rw [Disk.exists?_of_get_eq (Disk.get_here_of_exists hnull (by decide) hex) hex]
    exact h
  · cases h

end Readings

namespace Search

/-! ## Both searches -/

/-- The survey of the current directory is the same by a dot as by its absolute path. -/
theorem survey_current {d : Disk} (hd : d.WellFormed) {o : Options} {s : Survey}
    (h : survey d o ⟨.root, d.current⟩ = .ok s) : survey d o .current = .ok s := by
  have hlocate : ∀ {root : Path}, d.locate ⟨.root, d.current⟩ = .ok root →
      ¬ (⟨.root, d.current⟩ : Path).hasNull = true ∧ d.locate .current = .ok root := by
    intro root hroot
    have hself := d.resolve_eq_self (p := ⟨.root, d.current⟩) rfl hd.current
    have hhere : ¬ Path.current.hasNull = true := by decide
    unfold Disk.locate at hroot ⊢
    split_ifs at hroot with hnull
    rw [if_neg hhere, d.resolve_current hd, ← hroot, hself]
    exact ⟨hnull, rfl⟩
  unfold survey at h ⊢
  obtain ⟨st, hst, h⟩ := Result.bind_eq_ok.mp h
  have hst := Result.mapError_eq_ok.mp hst
  simp only at h
  split at h
  · rename_i hu
    obtain ⟨ps, hps, h⟩ := Result.bind_eq_ok.mp h
    obtain ⟨root, hroot, h⟩ := Result.bind_eq_ok.mp h
    obtain ⟨hnull, hroot⟩ := hlocate (Result.mapError_eq_ok.mp hroot)
    have hps := Ignore.ofDirectory_current hnull (Result.mapError_eq_ok.mp hps)
    rw [TestNaming.settings_current hnull hst, hu, hps, hroot]
    exact h
  · rename_i hu
    obtain ⟨ps, hps, h⟩ := Result.bind_eq_ok.mp h
    obtain ⟨root, hroot, h⟩ := Result.bind_eq_ok.mp h
    obtain ⟨hnull, hroot⟩ := hlocate (Result.mapError_eq_ok.mp hroot)
    obtain rfl : [] = ps := Except.ok.inj hps
    rw [TestNaming.settings_current hnull hst, Bool.eq_false_iff.mpr hu, hroot]
    exact h

/-- A search by a dot, if the directory can be listed: the files in `src` come before. -/
theorem find_dot {d : Disk} {o : Options} {s : Survey} {ys : List Path}
    (hs : survey d o .current = .ok s) (hys : s.list o d = .ok ys) :
    find d o "." =
      match d.isDir (s.root.below ["src"]) with
      | .error e => .error (.file e)
      | .ok false => .ok ys
      | .ok true =>
        (list d { o with excluded := s.excluded } (s.root.below ["src"])).map (· ++ ys) := by
  have hdot : ofString "." = .current := by decide
  have hsrc : sourceDirectory s.root = s.root.below ["src"] := child_eq_below (by decide)
  unfold find
  rw [hdot, hs]
  show (do
    let inside ← (d.isDir (sourceDirectory s.root)).mapError Error.file
    let first ← if inside then list d { o with excluded := s.excluded } (sourceDirectory s.root)
      else pure []
    return first ++ (← s.list o d)) = _
  rw [hsrc, hys]
  cases d.isDir (s.root.below ["src"]) with
  | error e => rfl
  | ok inside =>
    cases inside with
    | false => rfl
    | true =>
      cases list d { o with excluded := s.excluded } (s.root.below ["src"]) with
      | error e => rfl
      | ok first => rfl

/-- The files in `src` add nothing to the listing of the directory above exactly if all of them are
admitted there. -/
theorem append_same_iff {d : Disk} {o : Options} {dir : Path} {st : TestNaming.Settings}
    {ps : List String} (hn : ∀ n ∈ (d.resolve dir).parts, IsName n) {first rest : List Path}
    (hfirst : IsListing d { o with excluded := o.excluded ++ st.paths.getD [] }
      ((d.resolve dir).below ["src"]) first)
    (hrest : ∀ p, p ∈ rest ↔
      ∃ cs f, p = (d.resolve dir).below (cs ++ [f]) ∧ Belongs d o dir st ps cs f) :
    (∀ p, p ∈ first ++ rest ↔ p ∈ rest) ↔
      ∀ file ∈ first, Admitted o st ps (d.resolve dir) file := by
  constructor
  · intro h file hfile
    exact (mem_iff_admitted hn hfirst hrest hfile).mp ((h file).mp (List.mem_append_left _ hfile))
  · intro h p
    refine ⟨fun hp => ?_, List.mem_append_right _⟩
    rcases List.mem_append.mp hp with hp | hp
    · exact (mem_iff_admitted hn hfirst hrest hp).mpr (h p hp)
    · exact hp

/-- **When the spelling of the current directory does not matter.** Where the search by its absolute
path has a result, the search by a dot has one with the same files exactly if there is no directory
`src`, or if there is one, it can be listed, and what is said in the current directory admits every
file that is listed there. -/
theorem same_files_iff_admitted {d : Disk} (hd : d.WellFormed) {o : Options} {ys : List Path}
    (h : find d o (d.resolve .current).toString = .ok ys) :
    let root := d.resolve .current
    let src := root.below ["src"]
    ∃ st ps, TestNaming.settings d root = .ok st ∧
      (o.useIgnoreFile = true → Ignore.ofDirectory d root = .ok ps) ∧
      ((∃ xs, find d o "." = .ok xs ∧ ∀ p, p ∈ xs ↔ p ∈ ys) ↔
        d.isDir src = .ok false ∨ d.isDir src = .ok true ∧
          ∃ first, list d { o with excluded := o.excluded ++ st.paths.getD [] } src = .ok first ∧
            ∀ file ∈ first, Admitted o st ps root file) := by
  intro root src
  have hroot : root = ⟨.root, d.current⟩ := d.resolve_current hd
  have hn : ∀ n ∈ root.parts, IsName n := hroot ▸ hd.current
  have hself : d.resolve root = root := d.resolve_eq_self rfl hn
  have hread : ofString root.toString = root := ofString_toString rfl hn
  obtain ⟨s, hs, hfind⟩ := find_eq_ok h
  rw [hread] at hs
  have hdot : ¬ (root.toString = "." ∧ d.isDir (sourceDirectory s.root) = .ok true) := by
    rintro ⟨hc, -⟩
    have hlist := congrArg String.toList hc
    rw [toList_toString rfl] at hlist
    simp at hlist
  rw [if_neg hdot] at hfind
  have hlisted := isListing_of_survey hd (hself.symm ▸ hn) hs hfind
  obtain ⟨st', _, hst', -, -, rfl⟩ := survey_eq_ok hs
  obtain ⟨st, ps, hst, hps, hmem, -⟩ := hlisted
  obtain rfl : st = st' := Except.ok.inj (hst.symm.trans hst')
  refine ⟨st, ps, hst, hps, ?_⟩
  -- by a dot, the listing of `src` comes in front of the same list
  rw [find_dot (survey_current hd (hroot ▸ hs)) hfind]
  simp only [hself]
  cases hin : d.isDir src with
  | error e => simp
  | ok inside =>
    cases inside with
    | false => simp
    | true =>
      cases hlist : list d { o with excluded := o.excluded ++ st.paths.getD [] } src with
      | error e => simp [Except.map]
      | ok first =>
        have hnames : ∀ n ∈ (d.resolve src).parts, IsName n := by
          rw [d.resolve_eq_self rfl (names_source hn)]
          exact names_source hn
        have hsrc : IsListing d { o with excluded := o.excluded ++ st.paths.getD [] }
            ((d.resolve root).below ["src"]) first := by
          rw [hself]
          exact list_isListing hd hnames hlist
        have hsame := append_same_iff (hself.symm ▸ hn) hsrc hmem
        rw [hself] at hsame
        simpa [Except.map] using hsame

/-- In the project without an ignore file both searches find the same files: the one in `src` is
admitted. -/
theorem same_files_layoutDisk :
    layoutDisk.WellFormed ∧
      find layoutDisk .default (layoutDisk.resolve .current).toString =
        .ok [ofString "/home/b.py", ofString "/home/src/a.py"] ∧
      ∃ xs, find layoutDisk .default "." = .ok xs ∧
        ∀ p, p ∈ xs ↔ p ∈ [ofString "/home/b.py", ofString "/home/src/a.py"] := by
  have habs : find layoutDisk .default (layoutDisk.resolve .current).toString =
      .ok [ofString "/home/b.py", ofString "/home/src/a.py"] := by decide +kernel
  have hsettings : TestNaming.settings layoutDisk (layoutDisk.resolve .current) = .ok .none := by
    decide +kernel
  have hignore : Ignore.ofDirectory layoutDisk (layoutDisk.resolve .current) = .ok [] := by
    decide +kernel
  obtain ⟨st, ps, hst, hps, hiff⟩ := same_files_iff_admitted wellFormed_layoutDisk habs
  obtain rfl : .none = st := Except.ok.inj (hsettings.symm.trans hst)
  obtain rfl : [] = ps := Except.ok.inj (hignore.symm.trans (hps rfl))
  refine ⟨wellFormed_layoutDisk, habs, hiff.mpr (.inr ⟨by decide +kernel,
    [ofString "/home/src/a.py"], by decide +kernel, fun file hfile => ?_⟩)⟩
  obtain rfl : file = ofString "/home/src/a.py" := List.mem_singleton.mp hfile
  exact ⟨by decide, fun _ => rfl, fun _ => by decide +kernel⟩

/-- **The spelling of the current directory can matter.** -/
theorem not_forall_same_files :
    ¬ ∀ (d : Disk) (o : Options) (xs ys : List Path), d.WellFormed →
      find d o "." = .ok xs → find d o (d.resolve .current).toString = .ok ys →
      ∀ p, p ∈ xs ↔ p ∈ ys := by
  intro h
  have habs : find guardedDisk .default (guardedDisk.resolve .current).toString =
      .ok [ofString "/home/b.py"] := by decide +kernel
  have hmem := (h guardedDisk .default _ _ wellFormed_guardedDisk find_guardedDisk habs
    (ofString "/home/src/a.py")).mp (by decide +kernel)
  exact absurd hmem (by decide +kernel)

end Search

end Codebook
