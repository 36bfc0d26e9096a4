import Mathlib
import Codebook.Proofs.AlikeRecords

/-!
# Which sessions a record depends on

What a session says of a simple file depends on the session through its imports alone. If all of them
are found, the record is the same as in a session that holds nothing but the names of the imports
(`bare`); if one is missing, the file is described by its text.

* `over_opened`: the two sessions are alike when the file has been opened.
* `ends_live`: so they are when the file has been run and described.
* `inspect_of_found`, `inspect_of_missing`: the record of the file.
-/

namespace Codebook.Inspection

open Live Source

variable {d : Disk} {path : Path} {code : String} {s : Store}

/-! ## Simple files -/

/-- What is run of the file is simple. -/
def isSimpleFile (d : Disk) (path : Path) : Bool :=
  (statementsOf d path).all isSimpleBody

/-- The imports of a file. -/
def aliases (d : Disk) (path : Path) : List Alias :=
  (statementsOf d path).elim [] importsIn

/-- The modules that a file imports. -/
def importedBy (d : Disk) (path : Path) : List String :=
  (aliases d path).map (·.name)

/-- The statements of a simple file are simple, and its imports are known. -/
theorem isSimple_of_isSimpleFile (h : isSimpleFile d path = true) {body : List Stmt}
    (hbody : statementsOf d path = some body) {st : Stmt} (hst : st ∈ body) :
    st.isSimple ((aliases d path).map (·.bound)) = true ∧
      ∀ a ∈ st.imports, a.name ∈ importedBy d path ∧ a.bound ∈ (aliases d path).map (·.bound) := by
  have hall : aliases d path = importsIn body := by
    rw [aliases, hbody]
    rfl
  rw [isSimpleFile, hbody, Option.all_some, isSimpleBody, List.all_eq_true] at h
  rw [importedBy, hall]
  refine ⟨h st hst, fun a ha => ?_⟩
  have hmem : a ∈ importsIn body := List.mem_flatMap.mpr ⟨st, hst, ha⟩
  exact ⟨List.mem_map_of_mem hmem, List.mem_map_of_mem hmem⟩

/-- A simple file binds its imports to public names. -/
theorem isPublic_of_isSimpleFile (h : isSimpleFile d path = true) :
    ∀ n ∈ (aliases d path).map (·.bound), Outline.isPublic n = true := by
  intro n hn
  obtain ⟨a, ha, rfl⟩ := List.mem_map.mp hn
  cases hbody : statementsOf d path with
  | none =>
    rw [aliases, hbody] at ha
    cases ha
  | some body =>
    have hall : a ∈ importsIn body := by
      rw [aliases, hbody] at ha
      exact ha
    obtain ⟨st, hst, ha⟩ := List.mem_flatMap.mp hall
    have hsimple := (isSimple_of_isSimpleFile h hbody hst).1
    cases st with
    | importNames names =>
      have ha : a.isSimple = true := List.all_eq_true.mp hsimple a ha
      exact (Bool.and_eq_true _ _ ▸ ha).2
    | _ => cases ha

/-! ## Sessions -/

/-- A session in which nothing is known but modules of the given names, and those that come with the
language. -/
def bare (names : List String) : Store :=
  { Store.empty with modules := (names.filter fun n => !Store.empty.canImport n).map (·, 0) }

/-- What a session holds when a file is about to be run. -/
def baseOf (h : isSimpleFile d path = true) (s : Store) : Base where
  name := path.stem
  table := (opened d path s).modules
  modules := importedBy d path
  imports := (aliases d path).map (·.bound)
  frames := s.frames.size
  functions := s.functions.size
  classes := s.classes.size
  isPublic_of_mem := isPublic_of_isSimpleFile h

/-- The module of the file is added to the others. -/
theorem module?_opened (name : String) :
    (opened d path s).module? name = if name = path.stem then some s.frames.size else s.module? name := by
  unfold Store.module? opened
  dsimp only
  rw [List.lookup_cons]
  split
  · rename_i hname
    rw [if_pos (eq_of_beq hname)]
  · rename_i hname
    have hne : name ≠ path.stem := by simpa using hname
    rw [if_neg hne, lookup_filter_of_ne _ hne]

/-- A file can import itself and what the session knows. -/
theorem canImport_opened (name : String) :
    (opened d path s).canImport name = true ↔ name = path.stem ∨ s.canImport name = true := by
  rw [Store.canImport, Store.canImport, module?_opened]
  split
  · simp_all
  · simp_all

/-- A bare session has modules of the given names, but for those that come with the language. -/
theorem isSome_module?_bare (names : List String) (name : String) :
    ((bare names).module? name).isSome = true ↔
      name ∈ names ∧ Store.empty.canImport name = false := by
  rw [Store.module?, bare]
  simp

/-- They can be imported, and what comes with the language. -/
theorem canImport_bare (names : List String) (name : String) :
    (bare names).canImport name = true ↔ name ∈ names ∨ Store.empty.canImport name = true := by
  have hempty : Store.empty.module? name = none := rfl
  rw [Store.canImport, Bool.or_assoc, Bool.or_eq_true, isSome_module?_bare, Store.canImport, hempty,
    Option.isSome_none, Bool.false_or]
  cases (moduleTable.lookup name).isSome || standardModules.contains name <;> simp

/-- In a bare session no file has the place of a module that loading goes by. -/
theorem unshadowed_bare (names : List String) : Unshadowed (bare names) := by
  have hnone {name : String} (h : Store.empty.canImport name = true) :
      (bare names).module? name = none := by
    rw [← Option.not_isSome_iff_eq_none, isSome_module?_bare, h]
    simp
  exact ⟨hnone (by decide +kernel), hnone (by decide +kernel)⟩

/-- What comes with the language can be imported in every session. -/
theorem canImport_of_empty {name : String} (h : Store.empty.canImport name = true) :
    s.canImport name = true := by
  simp only [Store.canImport, Bool.or_eq_true] at h ⊢
  rcases h with (h | h) | h
  · cases h
  · exact .inl (.inr h)
  · exact .inr h

/-- The body of the file is added to the others. -/
theorem frame_opened (i : Nat) : (opened d path s).frame i =
    if i = s.frames.size then moduleFrame path.stem (d.resolve path).toString else s.frame i :=
  Store.frame_push _

/-- The variables that a module starts with are constants, and only its name is special. -/
theorem moduleFrame_alike (b : Base) (i : Nat) (file : String) :
    FrameAlike b i (moduleFrame b.name file) (moduleFrame b.name file) := by
  have hleaf : ∀ e ∈ (moduleFrame b.name file).vars, e.2.isLeaf = true := by
    simp [moduleFrame, Value.isLeaf]
  exact {
    kind := rfl
    kind_ne := by simp [moduleFrame]
    vars := .of_isLeaf hleaf
    own := rfl
    declared := ⟨rfl, rfl⟩
    outer := ⟨rfl, rfl⟩
    globals := fun hkind => absurd hkind (by simp [moduleFrame])
    path := rfl
    className := rfl
    keepsHints := rfl
    name := fun v hv => (Option.some.inj hv).symm
    home := fun _ hv => absurd hv (by simp [moduleFrame, Table.get?, List.lookup])
    dots := Nat.zero_le _
    dir := rfl
    slots := rfl }

/-- Bodies that are not there are alike. -/
theorem default_frame_alike (b : Base) (i : Nat) : FrameAlike b i default default where
  kind := rfl
  kind_ne := nofun
  vars := .nil
  own := rfl
  declared := ⟨rfl, rfl⟩
  outer := ⟨rfl, rfl⟩
  globals := nofun
  path := rfl
  className := rfl
  keepsHints := rfl
  name := nofun
  home := nofun
  dots := Nat.zero_le _
  dir := rfl
  slots := rfl

/-- Functions that are not there are alike. -/
theorem default_function_alike (b : Base) : FunctionAlike b default default where
  name := rfl
  path := rfl
  home := rfl
  home_eq := .inl rfl
  doc := rfl
  isLeaf_doc := rfl
  params := .nil
  hints := .nil
  vars := ⟨rfl, rfl⟩
  dots := Nat.zero_le _

/-- Classes that are not there are alike. -/
theorem default_class_alike (b : Base) : ClassAlike b default default where
  name := rfl
  path := rfl
  bases := rfl
  order := rfl
  order_tail := nofun
  layout := rfl
  vars := .nil
  home := nofun

/-- A file that is about to be run finds the same in two sessions, but for the places. -/
theorem over_opened (h : isSimpleFile d path = true) {names : List String}
    (hfound : ∀ m ∈ importedBy d path,
      (opened d path s).canImport m = (opened d path (bare names)).canImport m) :
    Over (baseOf h s) (opened d path (bare names)) (opened d path s) where
  frames i := by
    have hzero : (bare names).frames.size = 0 := rfl
    change FrameAlike (baseOf h s) i _ ((opened d path s).frame (i + s.frames.size))
    rw [frame_opened, frame_opened, hzero]
    by_cases hi : i = 0
    · rw [if_pos hi, if_pos (by omega)]
      exact moduleFrame_alike (baseOf h s) i _
    · have hu : s.frame (i + s.frames.size) = default := by
        simp [Store.frame, Array.getD_eq_getD_getElem?]
      have hne : i + s.frames.size ≠ s.frames.size := by omega
      have hs : (bare names).frame i = default := rfl
      rw [if_neg hi, if_neg hne, hs, hu]
      exact default_frame_alike _ i
  frames_size := by
    simp only [opened, Array.size_push]
    exact Nat.add_comm _ _
  functions i := by
    have hu : s.function (i + s.functions.size) = default := by
      simp [Store.function, Array.getD_eq_getD_getElem?]
    exact hu ▸ default_function_alike _
  functions_size := (Nat.zero_add _).symm
  classes i := by
    have hu : s.classObject (i + s.classes.size) = default := by
      simp [Store.classObject, Array.getD_eq_getD_getElem?]
    exact hu ▸ default_class_alike _
  classes_size := (Nat.zero_add _).symm
  module := by
    have hname : (baseOf h s).name = path.stem := rfl
    rw [hname, module?_opened, module?_opened, if_pos rfl, if_pos rfl]
    exact ⟨rfl, congrArg some (Nat.zero_add _).symm⟩
  root := ⟨Nat.zero_lt_one, rfl, rfl, rfl, rfl⟩
  table := rfl
  canImport := hfound

/-! ## What is found in a session -/

/-- What is left of inspecting a file when its module is known to the session. -/
def liveFrom (d : Disk) (path : Path) (code : String) (frame : Nat) : Run ModuleRecord := do
  let m ← fill d path frame
  describeModule path m (Outline.leadingText? code.toList)

/-- In an unshadowed session a file is described once it is opened. -/
theorem run_live (hpy : path.toString.endsWith ".py" = true) (hs : Unshadowed s) :
    (live d path code).run.run s = (liveFrom d path code s.frames.size).run.run (opened d path s) := by
  unfold live liveFrom
  rw [Run.run_bind, Run.run_bind, run_load hpy hs]

/-- A session in which a file was run and described is one that loading finds its modules in. -/
theorem unshadowed_of_live (hpy : path.toString.endsWith ".py" = true) {t : Store} {r : ModuleRecord}
    (h : (live d path code).run.run s = (.ok r, t)) : Unshadowed s := by
  obtain ⟨_, _, hload, -⟩ := Run.of_bind_ok h
  exact unshadowed_of_load hpy hload

/-- Running a simple file and describing what is there ends in the same way in sessions where the same
of its imports are found, and with an exception if one of them is not. -/
theorem ends_live (h : isSimpleFile d path = true) (hpy : path.toString.endsWith ".py" = true)
    (hs : Unshadowed s) {names : List String} (hfound : ∀ m ∈ importedBy d path,
      (opened d path s).canImport m = (opened d path (bare names)).canImport m) :
    Ends (baseOf h s) (fun r r' => r = r' ∧ ∀ m ∈ importedBy d path, (opened d path s).canImport m = true)
      ((live d path code).run.run (bare names)) ((live d path code).run.run s) := by
  have halong : Along Anything (baseOf h s)
      (fun r r' => r = r' ∧ ∀ m ∈ importedBy d path, (opened d path s).canImport m = true)
      (liveFrom d path code 0) (liveFrom d path code (0 + s.frames.size)) := by
    refine Along.bind (along_fill (b := baseOf h s) rfl fun body hbody st hst =>
      isSimple_of_isSimpleFile h hbody hst) ?_
    rintro _ _ ⟨rfl, rfl, hall⟩
    refine (along_describeModule path _).anything.mono fun r r' hr => ⟨hr, fun m hm => ?_⟩
    obtain ⟨a, ha, rfl⟩ := List.mem_map.mp hm
    cases hbody : statementsOf d path with
    | none =>
      rw [aliases, hbody] at ha
      cases ha
    | some body =>
      rw [aliases, hbody] at ha
      exact hall body hbody a ha
  have hends := (halong (over_opened h hfound)).1
  rw [Nat.zero_add] at hends
  rw [run_live hpy (unshadowed_bare names), run_live hpy hs]
  exact hends

/-- The names among the imports of a file that are found in a session. -/
def found (d : Disk) (path : Path) (s : Store) : List String :=
  (importedBy d path).filter fun m => (opened d path s).canImport m

/-- A file can import the same in a bare session. -/
theorem canImport_found {m : String} (hm : m ∈ importedBy d path) :
    (opened d path s).canImport m = (opened d path (bare (found d path s))).canImport m := by
  rw [Bool.eq_iff_iff, canImport_opened (s := bare _), canImport_bare, found, List.mem_filter,
    and_iff_right hm]
  constructor
  · exact fun h => .inr (.inl h)
  · rw [canImport_opened]
    rintro (h | h | h)
    · exact .inl h
    · exact h
    · exact .inr (canImport_of_empty h)

/-- An inspection gives what the run gives, or else the outline. -/
theorem inspect_of_ends {b : Base} {t : Store} {R : ModuleRecord → ModuleRecord → Prop}
    (hr : d.read path = .ok code) (hR : ∀ r r', R r r' → r = r')
    (he : Ends b R ((live d path code).run.run t) ((live d path code).run.run s)) :
    (inspect true d path s).1 =
        .ok (((live d path code).run.run t).1.toOption.getD (Outline.ofText path code)) ∧
      (inspect true d path s).2.modules = b.table := by
  generalize (live d path code).run.run t = x at he
  generalize hy : (live d path code).run.run s = y at he
  cases he with
  | done ho hrr' =>
    rw [inspect_of_live hr hy, hR _ _ hrr']
    exact ⟨rfl, ho.table⟩
  | @ended e f t' u' ho hef =>
    have hordinary : ∀ v, f = .raised v → isOrdinary u' v = true := by
      rintro v rfl
      cases hef with
      | @raised i j name hname hi hj =>
        rw [isOrdinary, Store.isInstance, Store.classOf, hj]
        exact Bool.or_eq_true_iff.mpr (.inr hname)
    rw [inspect_of_signal hr hy hordinary]
    exact ⟨rfl, ho.table⟩

/-- How running a file with all its imports and describing it ends. -/
def completeRun (d : Disk) (path : Path) : Except Signal ModuleRecord :=
  match d.read path with
  | .error _ => .error .beyond
  | .ok code => ((live d path code).run.run (bare (importedBy d path))).1

/-- The record of a file that is run with all its imports, if it has one. -/
def complete? (d : Disk) (path : Path) : Option ModuleRecord :=
  (completeRun d path).toOption

/-- The run of a file with all its imports is followed to its end. -/
def isFollowed (d : Disk) (path : Path) : Bool :=
  match completeRun d path with
  | .error .beyond => false
  | _ => true

/-- The run of a file with all its imports raises an exception. -/
def isRaising (d : Disk) (path : Path) : Bool :=
  match completeRun d path with
  | .error (.raised _) => true
  | _ => false

/-- A run that is followed to its end gives a record or raises an exception. -/
theorem complete?_eq_none_iff (h : isFollowed d path = true) :
    complete? d path = none ↔ isRaising d path = true := by
  rw [isFollowed] at h
  rw [complete?, isRaising]
  cases hrun : completeRun d path with
  | ok r => simp [Except.toOption]
  | error x =>
    cases x with
    | raised v => simp [Except.toOption]
    | beyond =>
      rw [hrun] at h
      cases h

section Inspect

variable (hr : d.read path = .ok code) (hpy : path.toString.endsWith ".py" = true)
  (h : isSimpleFile d path = true)
include hr hpy h

/-- After a file was inspected, the session knows its module and those that it knew before, whether
the file came to its end or not. -/
theorem modules_inspect (hs : Unshadowed s) :
    (inspect true d path s).2.modules = (opened d path s).modules :=
  (inspect_of_ends hr (fun _ _ hr => hr.1) (ends_live h hpy hs fun _ => canImport_found)).2

/-- A file whose imports are all found is described in the same way in every session. -/
theorem inspect_of_found (hs : Unshadowed s)
    (hall : ∀ m ∈ importedBy d path, (opened d path s).canImport m = true) :
    (inspect true d path s).1 = .ok ((complete? d path).getD (Outline.ofText path code)) := by
  have hbare : ∀ m ∈ importedBy d path,
      (opened d path s).canImport m = (opened d path (bare (importedBy d path))).canImport m := by
    intro m hm
    rw [hall m hm, eq_comm, canImport_opened, canImport_bare]
    exact .inr (.inl hm)
  rw [(inspect_of_ends hr (fun _ _ hr => hr.1) (ends_live h hpy hs hbare)).1, complete?, completeRun,
    hr]

/-- A file one of whose imports is not found is described by its text. -/
theorem inspect_of_missing (hs : Unshadowed s) {m : String} (hm : m ∈ importedBy d path)
    (hmissing : (opened d path s).canImport m = false) :
    (inspect true d path s).1 = .ok (Outline.ofText path code) := by
  have hends := @ends_live d path code s h hpy hs _ fun _ => canImport_found
  rw [(inspect_of_ends hr (fun _ _ hr => hr.1) hends).1]
  generalize (live d path code).run.run (bare (found d path s)) = x at hends
  generalize (live d path code).run.run s = y at hends
  cases hends with
  | done ho hrr' =>
    rw [hrr'.2 m hm] at hmissing
    cases hmissing
  | ended ho hef => rfl

end Inspect

end Codebook.Inspection
