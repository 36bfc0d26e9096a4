import Mathlib
import Codebook.Proofs.DefinedNames
import Codebook.Proofs.FirstSeen
import Codebook.Proofs.JsonValues
import Codebook.Proofs.OutlineFailures

/-!
# The parameters in an outline

A function can have parameters of five kinds. Its outline has only those that can be given by position
or by name, without repetition; the signature of the function that its definition makes has them all.

* `functionRecord_parameters`: what the record of a function lists, and its signature text.
* `keys_eq_iff`: the record lists all parameters if none is of another kind and no name occurs twice.
* `signature_functionDef`: the function that a definition has made has all parameters, in order.
* `noneDropped_iff`: when no parameter is dropped, and when the outline agrees with the signature.
* `not_forall_noneDropped`: a parameter that takes any number of arguments is dropped.
-/

namespace Codebook

/-! ## Named things in order of first mention -/

/-- A new name comes last, and no other moves. -/
theorem map_fst_putNamed {α : Type} (name : String) (a : α) (xs : List (String × α)) :
    (putNamed name a xs).map Prod.fst =
      if name ∈ xs.map Prod.fst then xs.map Prod.fst else xs.map Prod.fst ++ [name] := by
  by_cases hmem : name ∈ xs.map Prod.fst
  · rw [if_pos hmem]
    induction xs with
    | nil => simp at hmem
    | cons x xs ih =>
      rw [putNamed]
      by_cases hx : (x.1 == name) = true
      · rw [if_pos hx]
        rfl
      · rw [if_neg hx, List.map_cons, List.map_cons, ih]
        rw [List.map_cons, List.mem_cons] at hmem
        exact hmem.resolve_left fun h => hx (beq_iff_eq.mpr h.symm)
  · rw [if_neg hmem, Document.putNamed_of_not_mem hmem, List.map_append]
    rfl

/-- Names are kept in the order in which they are first seen. -/
theorem firstSeen_ofNamed {α : Type} (xs : List (String × α)) :
    FirstSeen (xs.map Prod.fst) ((ofNamed xs).map Prod.fst) := by
  -- along the list, for what has been seen before
  have hfold : ∀ (log : List String) (done : List (String × α)), FirstSeen log (done.map Prod.fst) →
      FirstSeen (log ++ xs.map Prod.fst)
        ((xs.foldl (fun acc x => putNamed x.1 x.2 acc) done).map Prod.fst) := by
    induction xs with
    | nil =>
      intro log done h
      simpa using h
    | cons x xs ih =>
      intro log done h
      rw [List.map_cons, List.append_cons, List.foldl_cons]
      apply ih
      rw [map_fst_putNamed]
      exact h.concat x.1
  exact hfold [] [] .nil

/-- Where nothing is left out, nothing was there twice. -/
theorem FirstSeen.nodup_of_length_le {α : Type} [DecidableEq α] {log seen : List α}
    (h : FirstSeen log seen) (hlength : log.length ≤ seen.length) : log.Nodup := by
  have hsub : seen.Subperm log := h.nodup.subperm fun a ha => (h.mem_iff a).mp ha
  exact (hsub.perm_of_length_le hlength).nodup_iff.mp h.nodup

namespace Outline

open Live Source

/-! ## What the record lists -/

/-- Every parameter is one that can be given by position or by name, and they have different names. -/
structure AllPlain (f : Function) : Prop where
  kinds : ∀ p ∈ f.params, p.kind = .positional
  distinct : (f.params.map (·.name)).Nodup

/-- The plain parameters are recorded by name. -/
theorem map_fst_of_parametersOf {ps : List (Parameter Expr)} {qs : List (String × Option String)}
    (h : parametersOf ps = .ok qs) : qs.map Prod.fst = (plainParams ps).map (·.name) := by
  rw [parametersOf_eq_mapM, Result.mapM_eq_ok] at h
  generalize plainParams ps = ps at h
  induction h with
  | nil => rfl
  | cons hpq _ ih =>
    obtain ⟨a, -, rfl⟩ := Result.map_eq_ok.mp hpq
    rw [List.map_cons, List.map_cons, ih]

/-- All parameters count where all are plain. -/
theorem AllPlain.plainParams_eq {f : Function} (h : AllPlain f) : plainParams f.params = f.params :=
  List.filter_eq_self.mpr fun p hp => beq_iff_eq.mpr (h.kinds p hp)

/-- So they are recorded in order, each of them once. -/
theorem AllPlain.ofNamed_eq {f : Function} {qs : List (String × Option String)} (h : AllPlain f)
    (hqs : parametersOf f.params = .ok qs) :
    qs.map Prod.fst = f.params.map (·.name) ∧ ofNamed qs = qs := by
  have hnames := map_fst_of_parametersOf hqs
  rw [h.plainParams_eq] at hnames
  exact ⟨hnames, Document.ofNamed_eq_self (hnames ▸ h.distinct)⟩

/-- The parameters of a record are those of its signature. -/
theorem functionRecord_parameters {path : String} {f : Function} {r : FunctionRecord}
    (h : functionRecord path f = .ok r) : ∃ qs, parametersOf f.params = .ok qs ∧
      r.parameters.map Prod.fst = (ofNamed qs).map Prod.fst ∧
      r.signature = signature (ofNamed qs) r.returnType ∧
      (r.parameters.map fun p => (p.1, p.2.get? "annotation")) =
        (ofNamed qs).map fun q => (q.1, some (.text? q.2)) := by
  obtain ⟨qs, _, _, hqs, -, -, rfl⟩ := functionRecord_eq_ok_iff.mp h
  exact ⟨qs, hqs, by simp [parameterInfo, Info.get?]⟩

section Keys

variable {path : String} {f : Function} {r : FunctionRecord} (h : functionRecord path f = .ok r)
include h

/-- A record names all parameters where all are plain. -/
theorem keys_of_allPlain (hall : AllPlain f) : r.parameters.map Prod.fst = f.params.map (·.name) := by
  obtain ⟨qs, hqs, hkeys, -⟩ := functionRecord_parameters h
  obtain ⟨hnames, hofNamed⟩ := hall.ofNamed_eq hqs
  rw [hkeys, hofNamed, hnames]

/-- So does its signature. -/
theorem shown_of_allPlain (hall : AllPlain f) :
    ∃ hints rest, r.signature = "(" ++ ", ".intercalate hints ++ ")" ++ rest ∧
      List.Forall₂ (fun p h => p.name.toList <+: h.toList) f.params hints := by
  obtain ⟨qs, hqs, -, hsig, -⟩ := functionRecord_parameters h
  rw [(hall.ofNamed_eq hqs).2] at hsig
  refine ⟨_, _, hsig, ?_⟩
  rw [parametersOf_eq_mapM, Result.mapM_eq_ok, hall.plainParams_eq] at hqs
  rw [List.forall₂_map_right_iff]
  refine hqs.imp fun p q hpq => ?_
  obtain ⟨a, -, rfl⟩ := Result.map_eq_ok.mp hpq
  cases a with
  | none => exact List.prefix_rfl
  | some a => simp

/-- The record lists one name for each parameter only if all of them are plain. -/
theorem keys_eq_iff (g : Parameter Expr → String) :
    r.parameters.map Prod.fst = f.params.map g ↔ AllPlain f ∧ ∀ p ∈ f.params, g p = p.name := by
  constructor
  · intro heq
    obtain ⟨qs, hqs, hkeys, -⟩ := functionRecord_parameters h
    have hseen := firstSeen_ofNamed qs
    rw [← hkeys, map_fst_of_parametersOf hqs, heq] at hseen
    have hle : (plainParams f.params).length ≤ f.params.length := List.length_filter_le _ _
    have hnodup := hseen.nodup_of_length_le (by simpa using hle)
    have hge : f.params.length ≤ (plainParams f.params).length := by
      have hsub := (hseen.nodup.subperm fun a ha => (hseen.mem_iff a).mp ha).length_le
      simpa using hsub
    have hplain : plainParams f.params = f.params := List.filter_sublist.eq_of_length (le_antisymm hle hge)
    rw [hplain] at hnodup
    have hall : AllPlain f :=
      ⟨fun p hp => beq_iff_eq.mp (List.filter_eq_self.mp hplain p hp), hnodup⟩
    rw [keys_of_allPlain h hall] at heq
    exact ⟨hall, fun p hp => (List.map_inj_left.mp heq p hp).symm⟩
  · rintro ⟨hall, hg⟩
    rw [keys_of_allPlain h hall]
    exact List.map_congr_left fun p hp => (hg p hp).symm

end Keys

/-! ## The function that a definition makes -/

/-- Parameters keep their names when their defaults are evaluated. -/
theorem names_of_evaluateDefaults {m : Machine} {frame : Nat} {ps : List (Parameter Expr)}
    {qs : List (Parameter Value)} {t t' : Store}
    (h : (evaluateDefaults m frame ps).run.run t = (.ok qs, t')) :
    qs.map (·.name) = ps.map (·.name) := by
  induction ps generalizing qs t with
  | nil =>
    rw [evaluateDefaults] at h
    cases h
    rfl
  | cons p ps ih =>
    obtain ⟨name, kind, hint, default⟩ := p
    cases default with
    | none =>
      rw [evaluateDefaults] at h
      obtain ⟨rest, _, hrest, h⟩ := Run.of_bind_ok h
      cases h
      rw [List.map_cons, ih hrest]
      rfl
    | some d =>
      rw [evaluateDefaults] at h
      obtain ⟨_, _, -, h⟩ := Run.of_bind_ok h
      obtain ⟨rest, _, hrest, h⟩ := Run.of_bind_ok h
      cases h
      rw [List.map_cons, ih hrest]
      rfl

/-- Binding a name changes variables only. -/
theorem of_bindName {frame : Nat} {name : String} {v : Value} {u : Unit} {t t' : Store}
    (h : (bindName frame name v).run.run t = (.ok u, t')) :
    t'.functions = t.functions ∧ ∀ i, (t'.frame i).className = (t.frame i).className := by
  cases h
  refine ⟨rfl, fun i => ?_⟩
  dsimp only
  rw [Store.frame_modify, apply_ite Frame.className, ite_self]

/-- A definition without decorators adds one function, with all parameters under the names by which the
body knows them. -/
theorem functions_of_functionDef {m : Machine} {frame : Nat} {f : Function} {flow : Flow} {t t' : Store}
    (hd : f.decorators = [])
    (hrun : (execute m frame (.functionDef f)).run.run t = (.ok flow, t')) :
    ∃ (fs : Array FunctionObject) (g : FunctionObject), t'.functions = fs.push g ∧ g.name = f.name ∧
      g.vars = [] ∧
      g.params.map (·.name) = f.params.map fun p => mangle (t'.frame frame).className p.name := by
  obtain ⟨isAsync, name, params, returns, decorators, body⟩ := f
  cases hd
  simp only [execute, evaluateItems, pure_bind] at hrun
  obtain ⟨ps, t₁, hps, hrun⟩ := Run.of_bind_ok hrun
  obtain ⟨hints, t₂, -, hrun⟩ := Run.of_bind_ok hrun
  obtain ⟨_, _, hdefine, hrun⟩ := Run.of_bind_ok hrun
  cases hdefine
  obtain ⟨_, _, hdecorate, hrun⟩ := Run.of_bind_ok hrun
  cases hdecorate
  obtain ⟨_, _, hbind, hrun⟩ := Run.of_bind_ok hrun
  cases hrun
  have hclass : (t'.frame frame).className = (t₂.frame frame).className := (of_bindName hbind).2 frame
  refine ⟨_, _, (of_bindName hbind).1, rfl, rfl, ?_⟩
  have hnames := congrArg (List.map (mangle (t₂.frame frame).className)) (names_of_evaluateDefaults hps)
  rw [hclass]
  simpa [Function.comp_def] using hnames

/-- The last function there is after a definition without decorators is the one that it has made. If it
has a signature, this has all parameters. -/
theorem signature_functionDef {m : Machine} {frame : Nat} {f : Function} {flow : Flow} {t t' : Store}
    (hd : f.decorators = [])
    (hrun : (execute m frame (.functionDef f)).run.run t = (.ok flow, t')) :
    ∃ i, t'.functions.size = i + 1 ∧ (t'.function i).name = f.name ∧
      ∀ sig, t'.signature (.function i) = .ok sig → ∃ ps returns, sig = .of ps returns ∧
        ps.map (·.name) = f.params.map fun p => mangle (t'.frame frame).className p.name := by
  obtain ⟨fs, g, hfunctions, hname, hvars, hparams⟩ := functions_of_functionDef hd hrun
  have hlast : t'.function fs.size = g := by
    rw [Store.function, hfunctions]
    simp
  refine ⟨fs.size, by rw [hfunctions, Array.size_push], hlast ▸ hname, ?_⟩
  intro sig hsig
  rw [signature_function (hlast ▸ hvars), hlast, ownSignature] at hsig
  split at hsig
  · cases hsig
  · cases hsig
    refine ⟨_, _, rfl, ?_⟩
    rw [← hparams, List.map_map]
    rfl

/-! ## When no parameter is dropped -/

/-- The record lists every parameter of the function, in order, and so does its signature text, each with
what is written beside its name. -/
structure NoneDropped (f : Function) (r : FunctionRecord) : Prop where
  keys : r.parameters.map Prod.fst = f.params.map (·.name)
  shown : ∃ hints rest, r.signature = "(" ++ ", ".intercalate hints ++ ")" ++ rest ∧
    List.Forall₂ (fun p h => p.name.toList <+: h.toList) f.params hints

/-- **When no parameter is dropped.** The record of a function lists all of its parameters exactly if each
of them can be given by position or by name and no name occurs twice. After the definition of the function
has been run, without decorators, the signature of the function that it has made has all parameters, of
every kind, under the names by which the body knows them; so the record agrees with it exactly if, besides,
these are the names that are written. -/
theorem noneDropped_iff {path : String} {f : Function} {r : FunctionRecord}
    (h : functionRecord path f = .ok r) :
    (NoneDropped f r ↔ AllPlain f) ∧
      ∀ (m : Machine) (frame : Nat) (t t' : Store) (flow : Flow), f.decorators = [] →
        (execute m frame (.functionDef f)).run.run t = (.ok flow, t') →
        ∃ i, t'.functions.size = i + 1 ∧ (t'.function i).name = f.name ∧
          ∀ sig, t'.signature (.function i) = .ok sig → ∃ ps returns, sig = .of ps returns ∧
            ps.map (·.name) = f.params.map (fun p => mangle (t'.frame frame).className p.name) ∧
            (r.parameters.map Prod.fst = ps.map (·.name) ↔
              AllPlain f ∧ ∀ p ∈ f.params, mangle (t'.frame frame).className p.name = p.name) := by
  refine ⟨⟨fun hnone => ((keys_eq_iff h _).mp hnone.keys).1, fun hall => ?_⟩, ?_⟩
  · exact ⟨keys_of_allPlain h hall, shown_of_allPlain h hall⟩
  · intro m frame t t' flow hd hrun
    obtain ⟨i, hsize, hname, hsig⟩ := signature_functionDef hd hrun
    refine ⟨i, hsize, hname, fun sig hs => ?_⟩
    obtain ⟨ps, returns, rfl, hnames⟩ := hsig sig hs
    exact ⟨ps, returns, rfl, hnames, by rw [hnames, keys_eq_iff h]⟩

/-- A function with three parameters, the second with a type and a default value and the last one of the
given kind. -/
def severalParameters (kind : ParameterKind) : Function :=
  ⟨false, "f", [⟨"c", .positional, none, none⟩,
      ⟨"a", .positional, some (.name "int"), some (.constant (.number (.int 1)))⟩, ⟨"b", kind, none, none⟩],
    none, [], [.expr (.constant (.text "Returns:\nint: x"))]⟩

/-- The sample is recorded. -/
theorem exists_severalParameters (kind : ParameterKind) :
    ∃ r, functionRecord "m.py" (severalParameters kind) = .ok r := by
  have hsome : (functionRecord "m.py" (severalParameters kind)).toOption.isSome = true := by
    cases kind <;> decide +kernel
  obtain ⟨r, hr⟩ := Option.isSome_iff_exists.mp hsome
  exact ⟨r, Result.toOption_eq_some.mp hr⟩

/-- The variables of a module in which nothing has been run. -/
def startStore : Store := { Store.empty with frames := #[moduleFrame "m" "m.py"] }

/-- Parameters that can all be given by position or by name are in the record of a function as in its
signature. -/
theorem noneDropped_severalParameters :
    ∃ r t ps returns, functionRecord "m.py" (severalParameters .positional) = .ok r ∧
      (execute (machine callLimit) 0 (.functionDef (severalParameters .positional))).run.run startStore =
        (.ok .next, t) ∧
      t.signature (.function 0) = .ok (.of ps returns) ∧ NoneDropped (severalParameters .positional) r ∧
      r.parameters.map Prod.fst = ps.map (·.name) := by
  obtain ⟨r, hr⟩ := exists_severalParameters .positional
  obtain ⟨hiff, hruns⟩ := noneDropped_iff hr
  have hall : AllPlain (severalParameters .positional) :=
    ⟨by simp [severalParameters], by simp [severalParameters]⟩
  obtain ⟨i, hsize, -, hsig⟩ := hruns (machine callLimit) 0 startStore _ .next rfl rfl
  obtain rfl : i = 0 := (Nat.succ.inj hsize).symm
  obtain ⟨ps, returns, hof, -, hagree⟩ := hsig _ rfl
  refine ⟨r, _, ps, returns, hr, rfl, ?_, hiff.mpr hall, ?_⟩
  · rw [← hof]
    rfl
  · exact hagree.mpr ⟨hall, fun p _ => rfl⟩

/-- **A parameter can be dropped**, such as one that takes any number of arguments. -/
theorem not_forall_noneDropped :
    ¬ ∀ (path : String) (f : Function) (r : FunctionRecord), functionRecord path f = .ok r →
      NoneDropped f r := by
  intro h
  obtain ⟨r, hr⟩ := exists_severalParameters .variadic
  have hkeys := (h _ _ r hr).keys
  have hall := ((keys_eq_iff hr _).mp hkeys).1
  cases hall.kinds ⟨"b", .variadic, none, none⟩ (by simp [severalParameters])

end Outline

end Codebook
