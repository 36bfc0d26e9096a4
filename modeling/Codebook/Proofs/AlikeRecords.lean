import Mathlib
import Codebook.Proofs.AlikeFiles
import Codebook.Proofs.AlikeTexts

/-!
# Records in two sessions

The record of a module is the same in two sessions that hold the same file.

* `along_signatureText`: signatures are texts, so they are equal and not only alike.
* `Over.doc?_moved`: the documentation that a function or class has or inherits.
* `along_describeFunction`, `along_describeClass`: the records of what the module defines.
* `run_ownMembers`, `along_ownMembers`: the members that are described.
* `along_describeModule`: the record of the module.
-/

namespace Codebook.Live

open Source

variable {b : Base} {t u : Store} {v : Value}

/-! ## Signatures -/

/-- A class is written alike in annotations. -/
theorem along_classHint (c : ClassRef) :
    Along Kept b Eq (classHint c) (classHint (c.moved b)) := by
  refine Along.get.bind fun s s' ho => ?_
  obtain ⟨hhome, htext⟩ := ho.classHome_moved c
  rw [hhome, ho.classPath_moved]
  rcases htext with hnone | ⟨m, hm⟩
  · rw [hnone]
    exact .pure rfl
  · rw [hm]
    by_cases hbuiltins : m = "builtins"
    · rw [hbuiltins]
      exact .pure rfl
    · simp only
      exact .pure rfl

/-- A plain annotation is written alike. -/
theorem along_hintText (hv : Plain v) : Along Kept b Eq (hintText v) (hintText (v.moved b)) := by
  have hshort : Along Kept b Eq (hintText.short v) (hintText.short (v.moved b)) :=
    (along_written hv).bind fun _ _ h => .pure (by rw [h])
  have hwritten := along_written (b := b) hv
  refine Along.get.bind fun s s' ho => ?_
  have htyping (c : ClassRef) : hintText.isTyping s' (c.moved b) = hintText.isTyping s c := by
    unfold hintText.isTyping
    rw [(ho.classHome_moved c).1]
  cases hv with
  | @leaf v hv =>
    rw [Value.moved_of_isLeaf hv] at hwritten ⊢
    cases v <;> first | (cases hv; done) | exact hwritten
  | cls c =>
    rw [Value.moved]
    dsimp only
    rw [htyping]
    exact .ite (fun _ => hshort) fun _ => along_classHint c
  | generic hargs =>
    rw [Value.moved] at hwritten hshort ⊢
    dsimp only
    rw [htyping]
    exact .ite (fun _ => hshort) fun _ => hwritten
  | _ => exact hwritten

/-- Parameters that are alike are written alike. -/
theorem along_parameterText {p q : Parameter Value} (h : ParameterAlike b p q) :
    Along Kept b Eq (parameterText p) (parameterText q) := by
  obtain ⟨name, kind, hint, default⟩ := p
  obtain ⟨_, _, hint', default'⟩ := q
  obtain ⟨rfl, rfl, hhint, hdefault⟩ := h
  cases hhint with
  | none =>
    cases hdefault with
    | none => exact .pure rfl
    | some hd =>
      obtain ⟨hd, rfl⟩ := hd
      exact (along_written hd).bind fun _ _ ht => .pure (by rw [ht])
  | some hh =>
    obtain ⟨hh, rfl⟩ := hh
    refine (along_hintText hh).bind ?_
    rintro text _ rfl
    cases hdefault with
    | none => exact .pure rfl
    | some hd =>
      obtain ⟨hd, rfl⟩ := hd
      exact (along_written hd).bind fun _ _ ht => .pure (by rw [ht])

/-- The same parameters, and the same type of the result. -/
inductive SignatureAlike (b : Base) : Signature → Signature → Prop
  | of {ps qs : List (Parameter Value)} {r r' : Option Value}
      (hparams : List.Forall₂ (ParameterAlike b) ps qs) (hreturns : Option.Rel (Moved b) r r') :
      SignatureAlike b (.of ps r) (.of qs r')

/-- Parameters that are alike are of the same kinds. -/
theorem kinds_eq {ps qs : List (Parameter Value)} (h : List.Forall₂ (ParameterAlike b) ps qs) :
    qs.map (·.kind) = ps.map (·.kind) := by
  induction h with
  | nil => rfl
  | cons hpq _ ih => rw [List.map_cons, List.map_cons, hpq.kind, ih]

/-- Signatures that are alike are written alike. -/
theorem SignatureAlike.text {s s' : Signature} (h : SignatureAlike b s s') :
    Along Kept b Eq s.text s'.text := by
  obtain ⟨hparams, hreturns⟩ := h
  refine (Along.mapM (S := Eq) (fun _ _ hpq => along_parameterText hpq) hparams).bind fun ts ts' hts => ?_
  rw [List.forall₂_eq_eq_eq] at hts
  rw [kinds_eq hparams, hts]
  cases hreturns with
  | none => exact .pure rfl
  | some hv =>
    obtain ⟨hv, rfl⟩ := hv
    exact (along_hintText hv).bind fun _ _ ht => .pure (by rw [ht])

/-- A function without attributes of its own stands for itself. -/
theorem signature_function {s : Store} {i : Nat} (h : (s.function i).vars = []) :
    s.signature (.function i) = ownSignature (s.function i) := by
  have hvars : ownVars s (.function i) = [] := h
  have hself : unwrapped? s (s.functions.size + s.objects.size + 2) (.function i) =
      some (.function i) := by
    rw [unwrapped?]
    · rw [hvars]
      rfl
    all_goals nofun
  have hcallable : s.isCallable (.function i) = true := rfl
  rw [Store.signature, signatureTo]
  · rw [hcallable, hself]
    simp only [directSignature, hvars]
    rfl
  · nofun

/-- The first parameter without a proper name is the same. -/
theorem find?_alike {ps qs : List (Parameter Value)} (h : List.Forall₂ (ParameterAlike b) ps qs) :
    Option.Rel (ParameterAlike b) (ps.find? (!hasProperName ·)) (qs.find? (!hasProperName ·)) := by
  induction h with
  | nil => exact .none
  | @cons p q ps qs hpq _ ih =>
    have hname : hasProperName q = hasProperName p := by
      rw [hasProperName, hasProperName, hpq.kind, hpq.name]
    rw [List.find?_cons, List.find?_cons, hname]
    cases hasProperName p with
    | false => exact .some hpq
    | true => exact ih

/-- A function has signatures that are alike. -/
theorem along_signatureOf (i : Nat) :
    Along Kept b (SignatureAlike b) (signatureOf (.function i))
      (signatureOf (.function (i + b.functions))) := by
  refine Along.get.bind fun s s' ho => ?_
  have hf := ho.functions i
  rw [signature_function hf.vars.1, signature_function hf.vars.2]
  rcases rel_cases (find?_alike hf.params) with ⟨ht, hu⟩ | ⟨p, q, ht, hu, hpq⟩
  · rw [ownSignature, ownSignature, ht, hu]
    refine .pure (.of ?_ (hf.hints.get?_of_not_mem "return" List.not_mem_nil))
    rw [List.forall₂_map_left_iff, List.forall₂_map_right_iff]
    refine hf.params.imp fun p q hpq => { hpq with hint := ?_ }
    rw [hpq.name]
    exact hf.hints.get?_of_not_mem p.name List.not_mem_nil
  · rw [ownSignature, ownSignature, ht, hu]
    exact .fail rfl

/-- Exceptions of one ordinary class are handled in the same way. -/
theorem SignalAlike.isInstance {i j : Nat} (h : SignalAlike t u (.raised (.object i)) (.raised (.object j)))
    (c : String) : u.isInstance (.object j) (.known c) = t.isInstance (.object i) (.known c) := by
  cases h with
  | raised hname ht hu =>
    simp only [Store.isInstance, Store.isDerived, Store.classOf, ht, hu]
    rfl

/-- The signature of a function is written alike. -/
theorem along_signatureText (i : Nat) :
    Along Kept b Eq (signatureText (.function i)) (signatureText (.function (i + b.functions))) := by
  refine .tryCatch ((along_signatureOf i).bind fun _ _ h => h.text) ?_
  intro e e' t u ho he
  cases he with
  | beyond => exact ⟨.ended ho .beyond, refl_of Kept t⟩
  | @raised j k name hname ht hu =>
    have hinstance := SignalAlike.isInstance (.raised hname ht hu)
    have hrun (s : Store) (id : Nat) : ((do
        let s ← get
        if s.isInstance (.object id) (.known "ValueError") ||
            s.isInstance (.object id) (.known "TypeError") then return "(unknown signature)"
        else throw (.raised (.object id)) : Run String)).run.run s =
        if s.isInstance (.object id) (.known "ValueError") ||
            s.isInstance (.object id) (.known "TypeError") then (.ok "(unknown signature)", s)
        else (.error (.raised (.object id)), s) := by
      rw [Run.run_bind]
      change (if _ then _ else _ : Run String).run.run s = _
      split <;> rfl
    rw [hrun, hrun, hinstance, hinstance]
    split
    · exact ⟨.done ho rfl, refl_of Kept t⟩
    · exact ⟨.ended ho (.raised hname ht hu), refl_of Kept t⟩

/-! ## Docstrings -/

/-- A text has one part more than separators. -/
theorem length_split (sep : Char) (cs : List Char) :
    (Text.split sep cs).length = cs.count sep + 1 := by
  induction cs with
  | nil => rfl
  | cons c cs ih =>
    rw [Text.split, List.count_cons]
    split
    · rw [List.length_cons, ih]
    · split
      · rename_i hnil
        rw [hnil] at ih
        cases ih
      · rename_i p ps hcons
        rw [hcons] at ih
        exact ih

/-- A docstring that is there. -/
def docIfAny (v : Value) : Option Value :=
  match v with
  | .none => none
  | doc => some doc

/-- A value that is not `None` is a docstring. -/
theorem docIfAny_of_ne {v : Value} (h : v ≠ .none) : docIfAny v = some v := by
  cases v <;> first | rfl | exact absurd rfl h

/-- What counts as no docstring is left out in both sessions. -/
theorem rel_skip {v w : Value} (h : Moved b v w) :
    Option.Rel (Moved b) (docIfAny v) (docIfAny w) := by
  by_cases hv : v = .none
  · rw [h.2, hv, Value.moved_of_isLeaf rfl]
    exact .none
  · have hw : w ≠ .none := fun hw => hv ((Value.moved_eq_iff rfl).mp (h.2.symm.trans hw))
    rw [docIfAny_of_ne hv, docIfAny_of_ne hw]
    exact .some h

/-- The first docstring along an order of classes. -/
theorem firstDoc_moved {f g : ClassRef → Option Value} (ds : List ClassRef)
    (hfg : ∀ d, Option.Rel (Moved b) (f d) (g (d.moved b))) :
    Moved b ((ds.findSome? f).getD .none) (((ds.map (ClassRef.moved b)).findSome? g).getD .none) := by
  induction ds with
  | nil => exact .of_isLeaf rfl
  | cons d ds ih =>
    rw [List.map_cons, List.findSome?_cons, List.findSome?_cons]
    rcases rel_cases (hfg d) with ⟨ht, hu⟩ | ⟨v, w, ht, hu, hvw⟩
    · rw [ht, hu]
      exact ih
    · rw [ht, hu]
      exact hvw

/-- A docstring without the indentation of the code around it. -/
def dedented? : Value → Option String
  | .text t => some (Text.dedent t)
  | _ => none

/-- A docstring is dedented alike. -/
theorem dedented?_moved {v w : Value} (h : Moved b v w) : dedented? w = dedented? v := by
  obtain ⟨hv, rfl⟩ := h
  cases hv with
  | leaf hv => rw [Value.moved_of_isLeaf hv]
  | _ => rfl

/-- A docstring, or another one where there is none. -/
def docOr (v other : Value) : Value :=
  match v with
  | .none => other
  | doc => doc

/-- A value that is not `None` needs no other docstring. -/
theorem docOr_of_ne {v : Value} (h : v ≠ .none) (other : Value) : docOr v other = v := by
  cases v <;> first | rfl | exact absurd rfl h

section Docs

variable (h : Over b t u)
include h

/-- The member of a class is a plain value, or a function that is bound to the class. -/
theorem Over.member?_moved (c : ClassRef) (name : String) :
    Option.Rel (fun v w => w = v.moved b ∧ (Plain v ∨ ∃ i, v = .bound (.cls c) i))
      (t.member? (.cls c) name) (u.member? (.cls (c.moved b)) name) := by
  unfold Store.member?
  dsimp only
  rcases rel_cases (h.findAttribute?_moved c name) with ⟨ht, hu⟩ | ⟨⟨d, v⟩, ⟨_, w⟩, ht, hu, -, hv, hw⟩
  · rw [ht, hu]
    exact .none
  · rw [ht, hu]
    dsimp only at hv hw ⊢
    rw [hw]
    cases hv with
    | @leaf v hv =>
      rw [Value.moved_of_isLeaf hv]
      cases v <;>
        first | (cases hv; done) | exact .some ⟨(Value.moved_of_isLeaf hv).symm, .inl (.leaf hv)⟩
    | cls c => exact .some ⟨rfl, .inl (.cls c)⟩
    | function i => exact .some ⟨rfl, .inl (.function i)⟩
    | staticMethod i => exact .some ⟨rfl, .inl (.function i)⟩
    | classMethod i => exact .some ⟨rfl, .inr ⟨i, rfl⟩⟩
    | tuple h => exact .some ⟨rfl, .inl (.tuple h)⟩
    | list h => exact .some ⟨rfl, .inl (.list h)⟩
    | generic h => exact .some ⟨rfl, .inl (.generic h)⟩
    | union h => exact .some ⟨rfl, .inl (.union h)⟩

/-- The own docstring of a value is the same. -/
theorem Over.ownDoc_moved {v : Value} (hv : Plain v ∨ ∃ c i, v = .bound c i) :
    Moved b (t.ownDoc v) (u.ownDoc (v.moved b)) := by
  have hfunction (i : Nat) : Moved b (t.function i).doc (u.function (i + b.functions)).doc := by
    rw [(h.functions i).doc]
    exact .of_isLeaf (h.functions i).isLeaf_doc
  rcases hv with hv | ⟨c, i, rfl⟩
  · cases hv with
    | @leaf v hv =>
      rw [Value.moved_of_isLeaf hv]
      cases v <;> first | (cases hv; done) | exact .of_isLeaf rfl
    | cls c => exact h.classDoc_moved c
    | function i => exact hfunction i
    | _ => exact .of_isLeaf rfl
  · exact hfunction i

/-- The docstring of a member of a class is the same. -/
theorem Over.memberDoc_moved (c : ClassRef) (name : String) :
    Moved b (t.memberDoc c name) (u.memberDoc (c.moved b) name) := by
  unfold Store.memberDoc
  rw [h.order_moved]
  refine firstDoc_moved _ fun d => ?_
  rcases rel_cases (h.member?_moved d name) with ⟨ht, hu⟩ | ⟨v, _, ht, hu, rfl, hv⟩
  · rw [ht, hu]
    exact .none
  · have hdoc := h.ownDoc_moved (hv.imp_right fun ⟨i, hi⟩ => ⟨_, i, hi⟩)
    rw [ht, hu, Option.map_some, Option.map_some]
    generalize t.ownDoc v = x, u.ownDoc (v.moved b) = y at hdoc ⊢
    convert rel_skip hdoc
    · cases x <;> rfl
    · cases y <;> rfl

/-- The full name of a function leads to the same class. -/
theorem Over.definingClass?_moved (i : Nat) :
    Option.Rel (fun c d => d = c.moved b) (t.definingClass? (t.function i))
      (u.definingClass? (u.function (i + b.functions))) := by
  have hf := h.functions i
  have hsteps : ((Text.dottedParts (t.function i).path).dropLast).length ≤ 1 := by
    rw [List.length_dropLast, Text.dottedParts, List.length_map, length_split]
    exact hf.dots
  unfold Store.definingClass?
  rw [hf.home, hf.path]
  rcases hf.home_eq with hnone | hname
  · rw [hnone]
    exact .none
  · rw [hname]
    dsimp only
    rw [h.module.1, h.module.2]
    rcases hpath : (Text.dottedParts (t.function i).path).dropLast with _ | ⟨n, _ | ⟨n', ns⟩⟩
    · exact .none
    · have hentry := rel_cases ((h.frames 0).vars.get? n)
      simp only [List.foldlM_cons, List.foldlM_nil, Store.member?, Option.bind_eq_bind,
        Option.bind_some]
      rcases hentry with ⟨ht, hu⟩ | ⟨v, w, ht, hu, -, ⟨hv, hw⟩ | ⟨-, hv, hw⟩⟩
      · rw [ht, hu]
        exact .none
      · dsimp only at hv hw
        rw [ht, hu, hw]
        cases hv with
        | @leaf v hv =>
          rw [Value.moved_of_isLeaf hv]
          cases v <;> first | (cases hv; done) | exact .none
        | cls c => exact .some rfl
        | _ => exact .none
      · dsimp only at hv hw
        rw [ht, hu]
        cases v with
        | module m =>
          cases w with
          | module m' => exact .none
          | _ => cases hw
        | _ => cases hv
    · rw [hpath] at hsteps
      simp at hsteps

/-- A class inherits the same docstring. -/
theorem Over.inheritedDoc_cls (c : ClassRef) :
    Moved b (t.inheritedDoc (.cls c)) (u.inheritedDoc (.cls (c.moved b))) := by
  have hfilter : ((t.order c).map (ClassRef.moved b)).filter (· != .known "object") =
      ((t.order c).filter (· != .known "object")).map (ClassRef.moved b) := by
    rw [List.filter_map]
    refine congrArg _ (List.filter_congr fun d _ => ?_)
    simp [Function.comp_apply, bne]
  unfold Store.inheritedDoc
  dsimp only
  rw [h.order_moved, hfilter]
  refine firstDoc_moved _ fun d => ?_
  exact rel_skip (h.classDoc_moved d)

/-- A function inherits the same docstring. -/
theorem Over.inheritedDoc_function (i : Nat) :
    Moved b (t.inheritedDoc (.function i)) (u.inheritedDoc (.function (i + b.functions))) := by
  unfold Store.inheritedDoc
  dsimp only
  rw [(h.functions i).name]
  rcases rel_cases (h.definingClass?_moved i) with ⟨ht, hu⟩ | ⟨c, _, ht, hu, rfl⟩
  · rw [ht, hu]
    exact .of_isLeaf rfl
  · rw [ht, hu]
    dsimp only
    rcases rel_cases (h.member?_moved c (t.function i).name) with
      ⟨ht, hu⟩ | ⟨v, _, ht, hu, rfl, hv | ⟨j, rfl⟩⟩
    · rw [ht, hu]
      exact .of_isLeaf rfl
    · rw [ht, hu]
      cases hv with
      | @leaf v hv =>
        rw [Value.moved_of_isLeaf hv]
        cases v <;> first | (cases hv; done) | exact .of_isLeaf rfl
      | function j =>
        have hsame : (j + b.functions == i + b.functions) = (j == i) := by
          rw [Bool.eq_iff_iff]
          simp
        rw [Value.moved]
        dsimp only
        rw [hsame]
        split
        · exact h.memberDoc_moved c _
        · exact .of_isLeaf rfl
      | _ => exact .of_isLeaf rfl
    · rw [ht, hu]
      exact .of_isLeaf rfl

/-- Functions and classes have the same docstrings. -/
theorem Over.doc?_moved {v : Value} (hv : (∃ i, v = .function i) ∨ ∃ c, v = .cls c) :
    u.doc? (v.moved b) = t.doc? v := by
  have hplain : Plain v := by
    rcases hv with ⟨i, rfl⟩ | ⟨c, rfl⟩
    · exact .function i
    · exact .cls c
  have hinherited : Moved b (t.inheritedDoc v) (u.inheritedDoc (v.moved b)) := by
    rcases hv with ⟨i, rfl⟩ | ⟨c, rfl⟩
    · exact h.inheritedDoc_function i
    · exact h.inheritedDoc_cls c
  have hown := h.ownDoc_moved (.inl hplain)
  change dedented? (docOr (u.ownDoc (v.moved b)) (u.inheritedDoc (v.moved b))) =
    dedented? (docOr (t.ownDoc v) (t.inheritedDoc v))
  by_cases hnone : t.ownDoc v = .none
  · have hnone' : u.ownDoc (v.moved b) = .none := by
      rw [hown.2, hnone, Value.moved_of_isLeaf rfl]
    rw [hnone, hnone']
    exact dedented?_moved hinherited
  · have hnone' : u.ownDoc (v.moved b) ≠ .none := fun he =>
      hnone ((Value.moved_eq_iff rfl).mp (hown.2.symm.trans he))
    rw [docOr_of_ne hnone, docOr_of_ne hnone']
    exact dedented?_moved hown

end Docs

/-! ## Functions and classes -/

/-- A value that may be missing is written alike. -/
theorem along_textOf? {v w : Option Value} (h : Option.Rel (Moved b) v w) :
    Along Kept b Eq (textOf? v) (textOf? w) := by
  cases h with
  | none => exact .pure rfl
  | some h =>
    obtain ⟨hv, rfl⟩ := h
    exact (along_told hv).bind fun _ _ ht => .pure (by rw [ht])

/-- Parameters that are alike have the same record. -/
theorem along_parameterOf (doc : Docstring) {p q : Parameter Value} (h : ParameterAlike b p q) :
    Along Kept b Eq (parameterOf doc p) (parameterOf doc q) := by
  refine (along_textOf? h.default).bind ?_
  rintro default _ rfl
  refine (along_textOf? h.hint).bind ?_
  rintro hint _ rfl
  exact .pure (by rw [h.name, h.kind])

/-- A function has the same record. -/
theorem along_describeFunction (path : String) (i : Nat) :
    Along Kept b Eq (describeFunction path (.function i))
      (describeFunction path (.function (i + b.functions))) := by
  refine Along.get.bind fun r r' ho => ?_
  have hdoc := ho.doc?_moved (.inl ⟨i, rfl⟩)
  rw [Value.moved] at hdoc
  rw [hdoc]
  refine (along_signatureText i).bind ?_
  rintro signature _ rfl
  refine (along_signatureOf i).bind ?_
  rintro _ _ ⟨hparams, hreturns⟩
  refine (Along.mapM (S := Eq) (fun _ _ hpq => along_parameterOf _ hpq) hparams).bind ?_
  intro parameters parameters' hparameters
  rw [List.forall₂_eq_eq_eq] at hparameters
  cases hparameters
  refine (along_textOf? hreturns).bind ?_
  rintro returnType _ rfl
  refine Along.get.bind fun s s' ho => ?_
  simp only [functionName?, (ho.functions i).name]
  cases (Docstring.parse? (r.doc? (.function i))).returns with
  | none => exact .fail rfl
  | some result => exact .pure rfl

/-- A class has the same methods, by name and function. -/
theorem Over.methodsOf_moved (h : Over b t u) (c : ClassRef) :
    List.Forall₂ (fun m n => n.1 = m.1 ∧ ∃ i, m.2 = .function i ∧ n.2 = .function (i + b.functions))
      (methodsOf t c) (methodsOf u (c.moved b)) := by
  have hnames : (u.order (c.moved b)).flatMap (fun d => (u.classVars d).map (·.1)) =
      (t.order c).flatMap fun d => (t.classVars d).map (·.1) := by
    rw [h.order_moved, List.flatMap_map]
    exact List.flatMap_congr fun d _ => (h.classVars_moved d).keys_eq
  unfold methodsOf
  rw [hnames]
  refine List.rel_filterMap (R := Eq) ?_ (List.forall₂_refl _)
  rintro name _ rfl
  dsimp only
  rcases rel_cases (h.member?_moved c name) with ⟨ht, hu⟩ | ⟨v, _, ht, hu, rfl, hv | ⟨i, rfl⟩⟩
  · rw [ht, hu]
    exact .none
  · rw [ht, hu]
    cases hv with
    | @leaf v hv =>
      rw [Value.moved_of_isLeaf hv]
      cases v <;> first | (cases hv; done) | exact .none
    | function i => exact .some ⟨rfl, i, rfl, rfl⟩
    | _ => exact .none
  · rw [ht, hu]
    exact .none

/-- A class has the same record. -/
theorem along_describeClass (path : String) (c : ClassRef) :
    Along Kept b Eq (describeClass path c) (describeClass path (c.moved b)) := by
  refine Along.get.bind fun r r' ho => ?_
  have hdoc := ho.doc?_moved (.inr ⟨c, rfl⟩)
  rw [Value.moved] at hdoc
  rw [hdoc]
  refine Along.get.bind fun s s' ho => ?_
  have hmethods := List.rel_filter (p := (Outline.isDescribed ·.1)) (q := (Outline.isDescribed ·.1))
    (fun m n hmn => by dsimp only; rw [hmn.1]) (ho.methodsOf_moved c)
  refine (Along.mapM (S := Eq) ?_ hmethods).bind ?_
  · rintro ⟨n, _⟩ ⟨_, _⟩ ⟨rfl, i, rfl, rfl⟩
    exact along_describeFunction path i
  · intro methods methods' hm
    rw [List.forall₂_eq_eq_eq] at hm
    cases hm
    exact Along.get.bind fun s s' ho => .pure (by rw [ho.className_moved])

/-! ## Modules -/

/-- A name is inserted among the others. -/
theorem mem_insertName {name n : String} {names : List String} :
    n ∈ insertName name names ↔ n = name ∨ n ∈ names := by
  induction names with
  | nil => simp [insertName]
  | cons m names ih =>
    simp only [insertName]
    split
    · rename_i hname
      rw [eq_of_beq hname]
      simp
    · split
      · simp
      · simp only [List.mem_cons, ih]
        tauto

/-- Sorting keeps the names. -/
theorem mem_sortedNames {n : String} {names : List String} : n ∈ sortedNames names ↔ n ∈ names := by
  induction names with
  | nil => rfl
  | cons m names ih =>
    change n ∈ insertName m (sortedNames names) ↔ _
    rw [mem_insertName, ih, List.mem_cons]

/-- Every name of a table has a value. -/
theorem Table.exists_get?_of_mem {t : Table} {name : String} (h : name ∈ t.map (·.1)) :
    ∃ v, t.get? name = some v := by
  cases hv : t.get? name with
  | some v => exact ⟨v, rfl⟩
  | none =>
    obtain ⟨i, hi, rfl⟩ := List.mem_map.mp h
    have hne := List.lookup_eq_none_iff.mp hv i hi
    simp at hne

/-- The values of a kind among the variables of a module that are its own. -/
def ownAmong {α : Type} (s : Store) (m : Module) (kind : Value → Option α) : List α :=
  let vars := (s.frame m.frame).vars
  (sortedNames (vars.map (·.1))).filterMap fun name =>
    (vars.get? name).bind fun v => if isOwn s m.name name v then kind v else none

/-- A variable of a module is found without any code of the source. -/
theorem run_moduleMember? {s : Store} {frame : Nat} {name : String} {v : Value}
    (h : (s.frame frame).vars.get? name = some v) :
    (moduleMember? frame name).run.run s = (.ok (some (name, v)), s) := by
  have hget : (getAttribute (machine callLimit) (.module (.loaded frame)) name).run.run s =
      (.ok v, s) := by
    have hstore : (get : Run Store).run.run s = (.ok s, s) := rfl
    unfold getAttribute
    rw [Run.run_bind, hstore]
    dsimp only
    rw [h]
    rfl
  unfold moduleMember? orMissing
  rw [Run.run_tryCatch, Run.run_bind, hget]
  rfl

/-- Names that have values are found with them, and nothing changes. -/
theorem run_moduleMembers {s : Store} {frame : Nat} {names : List String}
    (h : ∀ n ∈ names, ∃ v, (s.frame frame).vars.get? n = some v) :
    (names.mapM (moduleMember? frame)).run.run s =
      (.ok (names.map fun n => ((s.frame frame).vars.get? n).map (n, ·)), s) := by
  induction names with
  | nil => rfl
  | cons n names ih =>
    rw [List.forall_mem_cons] at h
    obtain ⟨⟨v, hv⟩, hnames⟩ := h
    rw [List.mapM_cons, Run.run_bind, run_moduleMember? hv]
    dsimp only
    rw [Run.run_bind, ih hnames]
    simp only [List.map_cons, hv, Option.map_some]
    rfl

/-- The members of a module that does not list them itself are its variables. -/
theorem run_ownMembers {α : Type} {s : Store} {m : Module} (kind : Value → Option α)
    (hdir : (s.frame m.frame).vars.get? "__dir__" = none) :
    (ownMembers m kind).run.run s = (.ok (ownAmong s m kind), s) := by
  have hnames : (memberNames m.frame).run.run s = (.ok ((s.frame m.frame).vars.map (·.1)), s) := by
    have hget : (get : Run Store).run.run s = (.ok s, s) := rfl
    unfold memberNames
    rw [Run.run_bind, hget]
    dsimp only
    rw [hdir]
    rfl
  have hfound (n : String) (hn : n ∈ sortedNames ((s.frame m.frame).vars.map (·.1))) :
      ∃ v, (s.frame m.frame).vars.get? n = some v :=
    Table.exists_get?_of_mem (mem_sortedNames.mp hn)
  unfold ownMembers
  rw [Run.run_bind, hnames]
  dsimp only
  rw [Run.run_bind, run_moduleMembers hfound]
  change (Except.ok _, s) = _
  refine congrArg (fun l => (Except.ok l, s)) ?_
  rw [List.filterMap_map, List.filterMap_filterMap, ownAmong]
  refine List.filterMap_congr fun n _ => ?_
  rw [Function.comp_apply, id, Option.bind_map]
  rfl

/-- The same functions, or classes, are members of the module. -/
theorem Over.ownAmong_moved {α : Type} (h : Over b t u) {kind : Value → Option α}
    {R : α → α → Prop} (hkind : ∀ v, Plain v → Option.Rel R (kind v) (kind (v.moved b)))
    (hmodule : ∀ m, kind (.module m) = none) :
    List.Forall₂ R (ownAmong t ⟨b.name, 0⟩ kind) (ownAmong u ⟨b.name, 0 + b.frames⟩ kind) := by
  unfold ownAmong
  dsimp only
  rw [(h.frames 0).vars.keys_eq]
  refine List.rel_filterMap (R := Eq) ?_ (List.forall₂_refl _)
  rintro name _ rfl
  dsimp only
  rcases rel_cases ((h.frames 0).vars.get? name) with
    ⟨ht, hu⟩ | ⟨v, w, ht, hu, -, ⟨hv, hw⟩ | ⟨-, hv, hw⟩⟩
  · rw [ht, hu]
    exact .none
  · dsimp only at hv hw
    have hown : isOwn u b.name name (v.moved b) = isOwn t b.name name v := by
      unfold isOwn
      cases hv with
      | @leaf v hv =>
        rw [Value.moved_of_isLeaf hv]
        cases v <;> first | (cases hv; done) | rfl
      | cls c =>
        rw [Value.moved]
        dsimp only
        rw [(h.classHome_moved c).1]
      | function i =>
        rw [Value.moved]
        dsimp only
        rw [(h.functions i).home]
      | _ => rfl
    rw [ht, hu, hw, Option.bind_some, Option.bind_some, hown]
    split
    · exact hkind v hv
    · exact .none
  · dsimp only at hv hw
    rw [ht, hu, Option.bind_some, Option.bind_some]
    cases v with
    | module m =>
      cases w with
      | module m' =>
        rw [hmodule, hmodule, ite_self, ite_self]
        exact .none
      | _ => cases hw
    | _ => cases hv

/-- The own members of one kind are the same, if no module is of that kind. -/
theorem along_ownMembers {α : Type} {kind : Value → Option α} {R : α → α → Prop}
    (hkind : ∀ v, Plain v → Option.Rel R (kind v) (kind (v.moved b)))
    (hmodule : ∀ m, kind (.module m) = none) :
    Along Kept b (List.Forall₂ R) (ownMembers ⟨b.name, 0⟩ kind)
      (ownMembers ⟨b.name, 0 + b.frames⟩ kind) := by
  intro t u ho
  have hdir := (ho.frames 0).dir
  have hdir' : (u.frame (0 + b.frames)).vars.get? "__dir__" = none := by
    rcases rel_cases ((ho.frames 0).vars.get? "__dir__") with ⟨-, hu⟩ | ⟨v, w, ht, -⟩
    · exact hu
    · rw [hdir] at ht
      cases ht
  rw [run_ownMembers kind hdir, run_ownMembers kind hdir']
  exact ⟨.done ho (ho.ownAmong_moved hkind hmodule), refl_of Kept t⟩

/-- A docstring is written alike. -/
theorem along_docstringText {v w : Value} (h : Moved b v w) :
    Along Kept b Eq (docstringText v) (docstringText w) := by
  obtain ⟨hv, rfl⟩ := h
  refine Along.get.bind fun s s' ho => ?_
  have hstr := ho.str_moved hv
  have hwrong (message : String) : Along Kept b (Eq (α := Option String))
      (Run.fail (.wrongValue message)) (Run.fail (.wrongValue message)) := .fail rfl
  cases hv with
  | @leaf v hv =>
    rw [Value.moved_of_isLeaf hv] at hstr ⊢
    cases v with
    | none => exact .pure rfl
    | text t => exact .pure rfl
    | bool x => exact .pure (by rw [hstr])
    | int n =>
      dsimp only
      rw [hstr]
      exact .ite (fun _ => .pure rfl) fun _ => hwrong _
    | float x => exact .pure (by rw [hstr])
    | bytes bs =>
      dsimp only
      cases Text.decode bs with
      | ok t => exact .pure rfl
      | error e => exact hwrong _
    | _ => exact hwrong _
  | _ => exact hwrong _

/-- A module has the same record. -/
theorem along_describeModule (path : Path) (suggested : Option String) :
    Along Kept b Eq (describeModule path ⟨b.name, 0⟩ suggested)
      (describeModule path ⟨b.name, 0 + b.frames⟩ suggested) := by
  refine Along.get.bind fun s s' ho => ?_
  refine Along.bind (R := List.Forall₂ fun v w => ∃ i, v = .function i ∧ w = .function (i + b.functions))
    (along_ownMembers ?_ fun _ => rfl) fun functions functions' hfunctions => ?_
  · intro v hv
    cases hv with
    | @leaf v hv =>
      rw [Value.moved_of_isLeaf hv]
      cases v <;> first | (cases hv; done) | exact .none
    | function i => exact .some ⟨i, rfl, rfl⟩
    | _ => exact .none
  refine Along.bind (R := Eq) ?_ ?_
  · rw [← List.forall₂_eq_eq_eq]
    refine .mapM ?_ hfunctions
    rintro _ _ ⟨i, rfl, rfl⟩
    exact along_describeFunction _ i
  rintro functions _ rfl
  refine Along.bind (R := List.Forall₂ fun c d => d = c.moved b)
    (along_ownMembers ?_ fun _ => rfl) fun classes classes' hclasses => ?_
  · intro v hv
    cases hv with
    | @leaf v hv =>
      rw [Value.moved_of_isLeaf hv]
      cases v <;> first | (cases hv; done) | exact .none
    | cls c => exact .some rfl
    | _ => exact .none
  refine Along.bind (R := Eq) ?_ ?_
  · rw [← List.forall₂_eq_eq_eq]
    refine .mapM ?_ hclasses
    rintro c _ rfl
    exact along_describeClass _ c
  rintro classes _ rfl
  refine (along_docstringText ?_).bind fun _ _ ht => .pure (by rw [ht])
  cases suggested with
  | some t => exact .of_isLeaf rfl
  | none => exact ho.moduleDoc_moved

end Codebook.Live
