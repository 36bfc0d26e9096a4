import Mathlib
import Codebook.Proofs.ExactOutline
import Codebook.Proofs.TextParts

/-!
# Why a definition has no outline

A function has no outline for one of three causes: a parameter that can be given by position or by name
is annotated with something other than a name; a dotted result annotation has something other than a
name before the dot; the docstring does not describe the result. They are looked for in this order, and
the error tells of the first one that is there (`Fault`).

* `resultFrom_isSome_iff`: a section describes a result if a character of a type stands before a colon
  that a blank follows, anywhere in it.
* `parse?_returns_eq_none_iff`: what a docstring lacks that does not describe a result.
* `functionRecord_eq_error_iff`, `classRecord_eq_error_iff`: the errors of functions and classes.
* `failures_exact`: when there is an error, and which one it is.
-/

namespace Codebook

namespace Docstring

open Text

/-! ## Docstrings without a result -/

/-- A character of a type stands somewhere before a colon that a blank follows. -/
def HasTyped (cs : List Char) : Prop :=
  ∃ before c b after, cs = before ++ c :: ':' :: b :: after ∧ isTypeChar c = true ∧ isBlank b = true

theorem not_isTypeChar_colon : isTypeChar ':' = false := by decide

/-- Characters of types only are followed by no colon. -/
theorem not_hasTyped_of_all {cs : List Char} (h : ∀ c ∈ cs, isTypeChar c = true) : ¬ HasTyped cs := by
  rintro ⟨before, c, b, after, rfl, -⟩
  have hcolon := h ':' (by simp)
  rw [not_isTypeChar_colon] at hcolon
  cases hcolon

/-- After a run of characters of a type that ends with another one, either this one is the colon, or
all that counts comes later. -/
theorem hasTyped_run_iff {type rest : List Char} {x : Char} (htype : ∀ c ∈ type, isTypeChar c = true)
    (hx : isTypeChar x = false) :
    HasTyped (type ++ x :: rest) ↔
      (x = ':' ∧ type ≠ [] ∧ ∃ b after, rest = b :: after ∧ isBlank b = true) ∨ HasTyped rest := by
  constructor
  · rintro ⟨before, c, b, after, h, hc, hb⟩
    have hne : x ≠ c := by
      rintro rfl
      rw [hx] at hc
      cases hc
    rcases List.append_eq_append_iff.mp h with ⟨as, -, hrest⟩ | ⟨as, rfl, hrest⟩
    · -- the character of the type comes after the run
      rcases as with _ | ⟨a, as⟩
      · exact absurd (List.cons.inj hrest).1 hne
      · exact .inr ⟨as, c, b, after, (List.cons.inj hrest).2, hc, hb⟩
    · -- it is in the run, and so the last of it
      rcases as with _ | ⟨a, _ | ⟨a', as⟩⟩
      · exact absurd (List.cons.inj hrest).1.symm hne
      · simp only [List.cons_append, List.nil_append, List.cons.injEq] at hrest
        exact .inl ⟨hrest.2.1.symm, by simp, b, after, hrest.2.2.symm, hb⟩
      · simp only [List.cons_append, List.cons.injEq] at hrest
        have hcolon := htype a' (by simp)
        rw [← hrest.2.1, not_isTypeChar_colon] at hcolon
        cases hcolon
  · rintro (⟨rfl, hne, b, after, rfl, hb⟩ | ⟨before, c, b, after, rfl, hc, hb⟩)
    · refine ⟨type.dropLast, type.getLast hne, b, after, ?_, htype _ (List.getLast_mem hne), hb⟩
      rw [List.append_cons type.dropLast, List.dropLast_append_getLast]
    · exact ⟨type ++ x :: before, c, b, after, by simp, hc, hb⟩

/-- A result is found where a type is. -/
theorem resultFrom_isSome_iff {n : Nat} {cs : List Char} (hn : cs.length ≤ n) :
    (∃ r, resultFrom n cs = some r) ↔ HasTyped cs := by
  induction n generalizing cs with
  | zero =>
    obtain rfl : cs = [] := List.length_eq_zero_iff.mp (Nat.le_zero.mp hn)
    simp [resultFrom, HasTyped]
  | succ n ih =>
    rcases cs with _ | ⟨c, cs⟩
    · simp [resultFrom, HasTyped]
    -- behind the first run of such characters the search starts anew
    have hsplit := List.takeWhile_append_dropWhile (p := isTypeChar) (l := c :: cs)
    have htype := List.all_eq_true.mp (List.all_takeWhile (p := isTypeChar) (l := c :: cs))
    have hlength := (List.dropWhile_suffix (l := c :: cs) isTypeChar).length_le
    rw [resultFrom]
    generalize (c :: cs).takeWhile isTypeChar = type at *
    cases hrest : (c :: cs).dropWhile isTypeChar with
    | nil =>
      rw [hrest, List.append_nil] at hsplit
      rw [← hsplit]
      exact iff_of_false (by simp) (not_hasTyped_of_all htype)
    | cons x rest =>
      have hx : isTypeChar x = false := by
        have hhead := List.head?_dropWhile_not isTypeChar (c :: cs)
        rw [hrest] at hhead
        simpa using hhead
      rw [hrest, List.length_cons] at hlength
      have hle : rest.length ≤ n := by
        rw [List.length_cons] at hn hlength
        omega
      rw [← hsplit, hrest, hasTyped_run_iff htype hx, ← ih hle]
      split
      · rename_i b after heq
        obtain ⟨rfl, rfl⟩ := List.cons.inj heq
        by_cases hcond : (!type.isEmpty && isBlank b) = true
        · rw [if_pos hcond]
          rw [Bool.and_eq_true, Bool.not_eq_true', List.isEmpty_eq_false_iff] at hcond
          exact iff_of_true ⟨_, rfl⟩ (.inl ⟨rfl, hcond.1, b, after, rfl, hcond.2⟩)
        · rw [if_neg hcond]
          rw [Bool.and_eq_true, Bool.not_eq_true', List.isEmpty_eq_false_iff] at hcond
          refine ⟨.inr, ?_⟩
          rintro (⟨-, hne, _, _, h, hb⟩ | h)
          · rw [← (List.cons.inj h).1] at hb
            exact absurd ⟨hne, hb⟩ hcond
          · exact h
      · rename_i y after hno heq
        obtain ⟨rfl, rfl⟩ := List.cons.inj heq
        refine ⟨.inr, ?_⟩
        rintro (⟨rfl, -, b, after, rfl, -⟩ | h)
        · exact (hno b after rfl rfl).elim
        · exact h
      · rename_i heq
        cases heq

/-- What a docstring lacks that does not describe the result: it is not there, or it has no section about
the result, or nothing in that section is a type before a colon. -/
inductive LacksResult : Option String → Prop
  | noDocstring : LacksResult none
  | noSection {s : String} (absent : ¬ "Returns:".toList <:+: s.toList) : LacksResult (some s)
  | noType {s : String} {about : List Char} (found : returnSection? s.toList = some about)
      (untyped : ¬ HasTyped about) : LacksResult (some s)

/-- A docstring has no result exactly if it lacks one. -/
theorem parse?_returns_eq_none_iff (doc : Option String) :
    (parse? doc).returns = none ↔ LacksResult doc := by
  cases doc with
  | none => exact iff_of_true rfl .noDocstring
  | some s =>
    have hsection : returnSection? s.toList = none ↔ ¬ "Returns:".toList <:+: s.toList := by
      rw [returnSection?, Option.map_eq_none_iff, cutAt?_eq_none_iff]
    have hresult (about : List Char) : result? about = none ↔ ¬ HasTyped about := by
      rw [← resultFrom_isSome_iff le_rfl, ← result?, ← Option.isSome_iff_exists,
        Option.not_isSome_iff_eq_none]
    change (returnSection? s.toList).bind result? = none ↔ _
    constructor
    · intro h
      cases hs : returnSection? s.toList with
      | none => exact .noSection (hsection.mp hs)
      | some about =>
        rw [hs] at h
        exact .noType hs ((hresult about).mp h)
    · intro h
      cases h with
      | noSection absent => rw [hsection.mpr absent, Option.bind_none]
      | noType found untyped => rw [found, Option.bind_some, (hresult _).mpr untyped]

end Docstring

namespace Outline

open Source Docstring

/-! ## Functions -/

/-- The expression is a name. -/
def IsName (e : Expr) : Prop :=
  ∃ n, e = .name n

/-- The parameters that can be given by position or by name. -/
def plainParams (ps : List (Parameter Expr)) : List (Parameter Expr) :=
  ps.filter (·.kind == .positional)

/-- The parameter is annotated with a name, if at all. -/
def HasNameHint (p : Parameter Expr) : Prop :=
  ∀ e, p.hint = some e → IsName e

/-- The cause by which a function has no outline, with its error. Each counts only if those before it
are absent, and of the parameters the first one that is not annotated with a name. -/
inductive Fault (f : Function) : Error → Prop
  | hint {before after : List (Parameter Expr)} {p : Parameter Expr} {e : Expr}
      (params : plainParams f.params = before ++ p :: after) (names : ∀ q ∈ before, HasNameHint q)
      (hint : p.hint = some e) (other : ¬ IsName e) : Fault f (.noName (kindName e))
  | result {v : Expr} {attr : String} (names : ∀ p ∈ plainParams f.params, HasNameHint p)
      (dotted : f.returns = some (.attribute v attr)) (other : ¬ IsName v) :
      Fault f (.noName (kindName v))
  | undescribed (names : ∀ p ∈ plainParams f.params, HasNameHint p)
      (named : ∀ v attr, f.returns = some (.attribute v attr) → IsName v)
      (lacks : LacksResult (docstring? f.body)) : Fault f .noResult

/-- What is not a name is reported by its kind. -/
theorem nameOf_eq_error_iff {e : Expr} {err : Error} :
    nameOf e = .error err ↔ ¬ IsName e ∧ err = .noName (kindName e) := by
  cases e <;> simp [nameOf, IsName, kindName, eq_comm]

/-- The name of a parameter with the name that it is annotated with. -/
def namedHint (p : Parameter Expr) : Except Error (String × Option String) :=
  (hintOf p.hint).map (p.name, ·)

/-- Plain parameters are recorded one by one. -/
theorem parametersOf_eq_mapM (ps : List (Parameter Expr)) :
    parametersOf ps = (plainParams ps).mapM namedHint := by
  induction ps with
  | nil => rfl
  | cons p ps ih =>
    rw [parametersOf, ih]
    unfold plainParams
    rw [List.filter_cons]
    by_cases hk : (p.kind == .positional) = true
    · rw [if_pos hk, if_pos hk, List.mapM_cons, namedHint]
      cases hintOf p.hint with
      | error e => rfl
      | ok a => rfl
    · rw [if_neg hk, if_neg hk]

/-- A parameter is recorded if its annotation is a name. -/
theorem namedHint_isOk_iff {p : Parameter Expr} : (∃ q, namedHint p = .ok q) ↔ HasNameHint p := by
  rw [namedHint, HasNameHint]
  cases p.hint with
  | none => simp [hintOf, Except.map]
  | some e => simp [hintOf, Result.map_eq_ok, nameOf_isOk_iff, IsName]

/-- Another annotation is reported by its kind. -/
theorem namedHint_eq_error_iff {p : Parameter Expr} {err : Error} :
    namedHint p = .error err ↔ ∃ e, p.hint = some e ∧ ¬ IsName e ∧ err = .noName (kindName e) := by
  rw [namedHint]
  cases p.hint with
  | none => simp [hintOf, Except.map]
  | some e => simp [hintOf, ← nameOf_eq_error_iff, Result.map_eq_error]

/-- Of results only attributes of other things than names are reported. -/
theorem returnTypeOf_eq_error_iff {e : Option Expr} {err : Error} :
    returnTypeOf e = .error err ↔
      ∃ v attr, e = some (.attribute v attr) ∧ ¬ IsName v ∧ err = .noName (kindName v) := by
  rcases e with _ | e
  · simp [returnTypeOf]
  · cases e <;> simp [returnTypeOf, ← nameOf_eq_error_iff, Result.map_eq_error]

/-- A function is not recorded exactly if it has a fault, which is reported. -/
theorem functionRecord_eq_error_iff {path : String} {f : Function} {err : Error} :
    functionRecord path f = .error err ↔ Fault f err := by
  have hparams : (∃ qs, parametersOf f.params = .ok qs) ↔
      ∀ p ∈ plainParams f.params, HasNameHint p := by
    rw [parametersOf_eq_mapM, Result.exists_mapM_eq_ok]
    exact forall₂_congr fun p _ => namedHint_isOk_iff
  unfold functionRecord
  constructor
  · intro h
    rcases Result.bind_eq_error.mp h with h | ⟨ps, hps, h⟩
    · rw [parametersOf_eq_mapM] at h
      obtain ⟨before, p, after, hp, hbefore, h⟩ := Result.mapM_eq_error.mp h
      obtain ⟨e, he, hother, rfl⟩ := namedHint_eq_error_iff.mp h
      exact .hint hp (fun q hq => namedHint_isOk_iff.mp (hbefore q hq)) he hother
    have hnames := hparams.mp ⟨ps, hps⟩
    rcases Result.bind_eq_error.mp h with h | ⟨t, ht, h⟩
    · obtain ⟨v, attr, hv, hother, rfl⟩ := returnTypeOf_eq_error_iff.mp h
      exact .result hnames hv hother
    have hnamed := returnTypeOf_isOk_iff.mp ⟨t, ht⟩
    cases hd : (parse? (docstring? f.body)).returns with
    | none =>
      simp only [hd] at h
      cases h
      exact .undescribed hnames hnamed ((parse?_returns_eq_none_iff _).mp hd)
    | some r =>
      simp only [hd] at h
      cases h
  · intro h
    cases h with
    | hint params names hint other =>
      refine Result.bind_eq_error.mpr (.inl ?_)
      rw [parametersOf_eq_mapM, Result.mapM_eq_error]
      exact ⟨_, _, _, params, fun q hq => namedHint_isOk_iff.mpr (names q hq),
        namedHint_eq_error_iff.mpr ⟨_, hint, other, rfl⟩⟩
    | result names dotted other =>
      obtain ⟨ps, hps⟩ := hparams.mpr names
      refine Result.bind_eq_error.mpr (.inr ⟨ps, hps, Result.bind_eq_error.mpr (.inl ?_)⟩)
      exact returnTypeOf_eq_error_iff.mpr ⟨_, _, dotted, other, rfl⟩
    | undescribed names named lacks =>
      obtain ⟨ps, hps⟩ := hparams.mpr names
      obtain ⟨t, ht⟩ := returnTypeOf_isOk_iff.mpr named
      refine Result.bind_eq_error.mpr (.inr ⟨ps, hps, Result.bind_eq_error.mpr (.inr ⟨t, ht, ?_⟩)⟩)
      rw [(parse?_returns_eq_none_iff _).mpr lacks]

/-! ## Classes -/

/-- The functions that count are described and not asynchronous. -/
theorem function?_eq_some_iff {s : Stmt} {g : Function} : function? isDescribed s = some g ↔
    s = .functionDef g ∧ g.isAsync = false ∧ isDescribed g.name = true := by
  cases s with
  | functionDef f =>
    simp only [function?, Bool.and_eq_true, Bool.not_eq_true', Option.ite_none_right_eq_some,
      Option.some.injEq, Stmt.functionDef.injEq]
    constructor
    · rintro ⟨h, rfl⟩
      exact ⟨rfl, h⟩
    · rintro ⟨rfl, h⟩
      exact ⟨h, rfl⟩
  | _ => simp [function?]

/-- The error of a class is that of its first method without an outline, of those that are described. -/
theorem classRecord_eq_error_iff {path : String} {c : Source.Class} {err : Error} :
    classRecord path c = .error err ↔
      ∃ before m after, c.body = before ++ .functionDef m :: after ∧ m.isAsync = false ∧
        isDescribed m.name = true ∧ functionRecord path m = .error err ∧
        ∀ g, .functionDef g ∈ before → g.isAsync = false → isDescribed g.name = true →
          ∃ r, functionRecord path g = .ok r := by
  have hmethods : classRecord path c = .error err ↔
      (c.body.filterMap (function? isDescribed)).mapM (functionRecord path) = .error err := by
    rw [classRecord, filterMap_function?, Result.bind_eq_error]
    exact or_iff_left (by rintro ⟨ms, -, h⟩; cases h)
  rw [hmethods, Result.mapM_eq_error]
  constructor
  · rintro ⟨ms, m, ms', h, hbefore, hm⟩
    obtain ⟨l, l', hl, rfl, hlater⟩ := List.filterMap_eq_append_iff.mp h
    obtain ⟨k, s, k', rfl, hnone, hs, -⟩ := List.filterMap_eq_cons_iff.mp hlater
    obtain ⟨rfl, hasync, hd⟩ := function?_eq_some_iff.mp hs
    refine ⟨l ++ k, m, k', by rw [hl, List.append_assoc], hasync, hd, hm, ?_⟩
    intro g hg hasync hd
    rcases List.mem_append.mp hg with hg | hg
    · exact hbefore g (List.mem_filterMap.mpr ⟨_, hg, function?_eq_some_iff.mpr ⟨rfl, hasync, hd⟩⟩)
    · have hsome := function?_eq_some_iff.mpr ⟨rfl, hasync, hd⟩
      rw [hnone _ hg] at hsome
      cases hsome
  · rintro ⟨before, m, after, hbody, hasync, hd, hm, hbefore⟩
    refine ⟨before.filterMap (function? isDescribed), m, after.filterMap (function? isDescribed), ?_, ?_,
      hm⟩
    · rw [hbody, List.filterMap_append,
        List.filterMap_cons_some (function?_eq_some_iff.mpr ⟨rfl, hasync, hd⟩)]
    · intro g hg
      obtain ⟨s, hs, hg⟩ := List.mem_filterMap.mp hg
      obtain ⟨rfl, hasync, hd⟩ := function?_eq_some_iff.mp hg
      exact hbefore g hs hasync hd

/-! ## When there is an error -/

/-- A parameter that can be given by position or by name is annotated with something other than a name,
or a dotted result annotation has something other than a name before the dot, or the docstring does not
describe the result. -/
def Faulty (f : Function) : Prop :=
  (∃ p ∈ f.params, p.kind = .positional ∧ ∃ e, p.hint = some e ∧ ¬ IsName e) ∨
    (∃ v attr, f.returns = some (.attribute v attr) ∧ ¬ IsName v) ∨ LacksResult (docstring? f.body)

/-- A function can be described if it has no fault. -/
theorem describable_iff_not_faulty {f : Function} : Describable f ↔ ¬ Faulty f := by
  have hdescribed : (∃ r, (parse? (docstring? f.body)).returns = some r) ↔
      ¬ LacksResult (docstring? f.body) := by
    rw [← parse?_returns_eq_none_iff, ← ne_eq, Option.ne_none_iff_exists']
  unfold Faulty
  push Not
  rw [← hdescribed]
  exact ⟨fun h => ⟨h.hints, h.result, h.described⟩, fun h => ⟨h.1, h.2.1, h.2.2⟩⟩

/-- **When a definition has no outline, and why.** A function has no record exactly if it is faulty, and
has one in every other case. The error tells of the first of the three causes that is there: the first
parameter that is not annotated with a name, else the result annotation, else the docstring. A class has
no record exactly if one of the methods that are described has none, and its error is that of the first
one. -/
theorem failures_exact (path : String) :
    (∀ f, (∃ e, functionRecord path f = .error e) ↔ Faulty f) ∧
    (∀ f, (∃ r, functionRecord path f = .ok r) ↔ ¬ Faulty f) ∧
    (∀ f e, functionRecord path f = .error e ↔ Fault f e) ∧
    ∀ c e, classRecord path c = .error e ↔
      ∃ before m after, c.body = before ++ .functionDef m :: after ∧ m.isAsync = false ∧
        isDescribed m.name = true ∧ functionRecord path m = .error e ∧
        ∀ g, .functionDef g ∈ before → g.isAsync = false → isDescribed g.name = true →
          ∃ r, functionRecord path g = .ok r := by
  have hok (f : Function) : (∃ r, functionRecord path f = .ok r) ↔ ¬ Faulty f :=
    (functionRecord_isOk_iff path f).trans describable_iff_not_faulty
  refine ⟨?_, hok, ?_, ?_⟩
  · intro f
    rw [← not_iff_not, ← hok]
    cases functionRecord path f with
    | error e => simp
    | ok r => simp
  · intro f e
    exact functionRecord_eq_error_iff
  · intro c e
    exact classRecord_eq_error_iff

end Outline

end Codebook
