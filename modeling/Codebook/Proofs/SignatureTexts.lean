import Mathlib
import Codebook.Proofs.OutlinedParameters

/-!
# Signatures read off their texts

The signature text of an outline joins parameters with commas, and each may have a colon and its
annotation. In names that are identifiers none of these signs occurs, nor does the bracket at the end, so
a text has one reading: `after_inj` goes through the parameters of two signatures together.
-/

namespace Codebook.Outline

open Source Text

/-- The characters of a parameter as it is shown. -/
def isInner (c : Char) : Bool :=
  isIdentifierRest c || c == ':' || c == ' '

/-- An identifier consists of identifier characters. -/
theorem isIdentifierRest_of_mem {cs : List Char} (h : isIdentifier cs = true) :
    ∀ c ∈ cs, isIdentifierRest c = true := by
  cases cs with
  | nil => simp
  | cons c cs =>
    rw [isIdentifier, Bool.and_eq_true, List.all_eq_true] at h
    refine List.forall_mem_cons.mpr ⟨?_, h.2⟩
    have hstart := h.1
    simp only [isIdentifierStart, Bool.or_eq_true, Bool.and_eq_true] at hstart
    simp only [isIdentifierRest, Char.isAlphanum, Bool.or_eq_true, Bool.and_eq_true]
    exact hstart.imp (Or.imp id .inl) (And.imp id .inl)

/-- What two texts start with is the same if it is of one kind and ends there in both. -/
theorem append_inj_of_kind {f : Char → Bool} {as bs rest rest' : List Char}
    (ha : ∀ c ∈ as, f c = true) (hb : ∀ c ∈ bs, f c = true) (hr : ∀ c ∈ rest.head?, f c = false)
    (hr' : ∀ c ∈ rest'.head?, f c = false) (h : as ++ rest = bs ++ rest') : as = bs ∧ rest = rest' := by
  obtain rfl : as = bs := by
    rw [← takeWhile_append_eq ha hr, h, takeWhile_append_eq hb hr']
  exact ⟨rfl, List.append_cancel_left h⟩

/-! ## Parameters -/

/-- The name of a parameter is an identifier, and so is its annotation if it has one. -/
structure IsParameter (q : String × Option String) : Prop where
  name : isIdentifier q.1.toList = true
  hint : ∀ a ∈ q.2, isIdentifier a.toList = true

/-- The annotation as it is shown after a name. -/
def shownHint : Option String → List Char
  | some a => ':' :: ' ' :: a.toList
  | none => []

/-- A parameter as it is shown. -/
def shown (q : String × Option String) : List Char :=
  q.1.toList ++ shownHint q.2

/-- What follows a parameter: the other ones, the bracket and the rest. -/
def after (rest : List Char) : List (String × Option String) → List Char
  | [] => ')' :: rest
  | q :: qs => ',' :: ' ' :: (shown q ++ after rest qs)

/-- A parameter is written with inner characters. -/
theorem IsParameter.inner {q : String × Option String} (h : IsParameter q) :
    ∀ c ∈ shown q, isInner c = true := by
  obtain ⟨name, hint⟩ := q
  intro c hc
  rw [isInner, Bool.or_assoc, Bool.or_eq_true]
  rcases List.mem_append.mp hc with hc | hc
  · exact .inl (isIdentifierRest_of_mem h.name c hc)
  · cases hint with
    | none => cases hc
    | some a =>
      rw [shownHint, List.mem_cons, List.mem_cons] at hc
      rcases hc with rfl | rfl | hc
      · exact .inr rfl
      · exact .inr rfl
      · exact .inl (isIdentifierRest_of_mem (h.hint a rfl) c hc)

/-- No annotation starts like an identifier. -/
theorem head_shownHint (a : Option String) :
    ∀ c ∈ (shownHint a).head?, isIdentifierRest c = false := by
  cases a <;> simp [shownHint]
  decide

/-- Parameters that are written alike are equal. -/
theorem shown_inj {p q : String × Option String} (hp : IsParameter p) (hq : IsParameter q)
    (h : shown p = shown q) : p = q := by
  obtain ⟨hname, hhint⟩ := append_inj_of_kind (isIdentifierRest_of_mem hp.name)
    (isIdentifierRest_of_mem hq.name) (head_shownHint _) (head_shownHint _) h
  obtain ⟨_, _ | a⟩ := p <;> obtain ⟨_, _ | b⟩ := q <;>
    simp_all [shownHint, String.toList_inj]

/-- A parameter is followed by no inner character. -/
theorem head_after (rest : List Char) (qs : List (String × Option String)) :
    ∀ c ∈ (after rest qs).head?, isInner c = false := by
  cases qs <;> simp [after] <;> decide

/-- A bracket does not start a parameter. -/
theorem IsParameter.bracket_ne {q : String × Option String} (hq : IsParameter q)
    (rest rest' : List Char) (qs : List (String × Option String)) :
    ')' :: rest ≠ shown q ++ after rest' qs := by
  intro h
  obtain ⟨hnil, -⟩ := append_inj_of_kind (List.forall_mem_nil _) hq.inner (head_after rest [])
    (head_after _ _) h
  have hname := hq.name
  rw [(List.append_eq_nil_iff.mp hnil.symm).1] at hname
  cases hname

/-- Further parameters that are written alike are equal. -/
theorem after_inj {ps qs : List (String × Option String)} (hps : ∀ p ∈ ps, IsParameter p)
    (hqs : ∀ q ∈ qs, IsParameter q) {rest rest' : List Char} (h : after rest ps = after rest' qs) :
    ps = qs ∧ rest = rest' := by
  induction ps generalizing qs with
  | nil =>
    cases qs with
    | nil => exact ⟨rfl, (List.cons.inj h).2⟩
    | cons q qs => cases h
  | cons p ps ih =>
    cases qs with
    | nil => cases h
    | cons q qs =>
      rw [List.forall_mem_cons] at hps hqs
      simp only [after, List.cons.injEq, true_and] at h
      obtain ⟨hshown, h⟩ := append_inj_of_kind hps.1.inner hqs.1.inner (head_after _ _) (head_after _ _) h
      obtain ⟨rfl, hrest⟩ := ih hps.2 hqs.2 h
      exact ⟨by rw [shown_inj hps.1 hqs.1 hshown], hrest⟩

/-! ## Texts -/

/-- The result annotation as it is shown. -/
def shownResult : Option String → List Char
  | some r => ' ' :: '-' :: '>' :: ' ' :: r.toList
  | none => []

/-- Results that are written alike are equal. -/
theorem shownResult_inj {r s : Option String} (h : shownResult r = shownResult s) : r = s := by
  cases r <;> cases s <;> simp_all [shownResult, String.toList_inj]

/-- The first parameter and what follows it. -/
theorem intercalate_shown (rest : List Char) (q : String × Option String)
    (qs : List (String × Option String)) :
    [',', ' '].intercalate ((q :: qs).map shown) ++ ')' :: rest = shown q ++ after rest qs := by
  induction qs generalizing q with
  | nil => simp [after]
  | cons p qs ih =>
    rw [List.map_cons, List.map_cons, List.intercalate_cons_cons, ← List.map_cons, List.append_assoc,
      ih, after]
    simp

/-- A signature is its parameters in parentheses and its result. -/
theorem toList_signature (qs : List (String × Option String)) (r : Option String) :
    (signature qs r).toList =
      '(' :: ([',', ' '].intercalate (qs.map shown) ++ ')' :: shownResult r) := by
  simp only [signature, String.toList_append, String.toList_intercalate, List.map_map,
    String.reduceToList, List.append_assoc, List.singleton_append]
  refine congrArg₂ (fun as bs => '(' :: ([',', ' '].intercalate as ++ ')' :: bs))
    (List.map_congr_left ?_) ?_
  · rintro ⟨name, _ | a⟩ - <;> simp [shown, shownHint]
  · cases r <;> simp [shownResult]

/-- Different parameters, or different results, are shown differently. -/
theorem signature_inj {ps qs : List (String × Option String)} (hps : ∀ p ∈ ps, IsParameter p)
    (hqs : ∀ q ∈ qs, IsParameter q) {r s : Option String} (h : signature ps r = signature qs s) :
    ps = qs ∧ r = s := by
  rw [← String.toList_inj, toList_signature, toList_signature, List.cons.injEq] at h
  cases ps with
  | nil =>
    cases qs with
    | nil => exact ⟨rfl, shownResult_inj (List.cons.inj h.2).2⟩
    | cons q qs =>
      rw [intercalate_shown] at h
      exact absurd h.2 ((hqs q List.mem_cons_self).bracket_ne _ _ _)
  | cons p ps =>
    cases qs with
    | nil =>
      rw [intercalate_shown] at h
      exact absurd h.2.symm ((hps p List.mem_cons_self).bracket_ne _ _ _)
    | cons q qs =>
      rw [intercalate_shown, intercalate_shown] at h
      exact (after_inj hps hqs (congrArg (',' :: ' ' :: ·) h.2)).imp id shownResult_inj

/-! ## Records -/

/-- A named value is the new one or was there before. -/
theorem mem_putNamed {α : Type} {name : String} {a : α} {xs : List (String × α)} {x : String × α}
    (h : x ∈ putNamed name a xs) : x = (name, a) ∨ x ∈ xs := by
  induction xs with
  | nil => simpa [putNamed] using h
  | cons y ys ih =>
    rw [putNamed] at h
    split_ifs at h with hy
    · rw [beq_iff_eq.mp hy] at h
      exact (List.mem_cons.mp h).imp id (List.mem_cons_of_mem _)
    · rcases List.mem_cons.mp h with h | h
      · exact .inr (h ▸ List.mem_cons_self)
      · exact (ih h).imp id (List.mem_cons_of_mem _)

/-- No named value comes up that was not given. -/
theorem mem_of_mem_ofNamed {α : Type} {xs : List (String × α)} : ∀ x ∈ ofNamed xs, x ∈ xs := by
  refine List.foldlRecOn (motive := fun done => ∀ x ∈ done, x ∈ xs) xs _ (by simp) ?_
  intro done hdone y hy x hx
  rcases mem_putNamed hx with rfl | hx
  · exact hy
  · exact hdone x hx

/-- The name of a parameter is an identifier, and so is the name that it is annotated with. -/
def IsIdentified (p : Parameter Expr) : Prop :=
  isIdentifier p.name.toList = true ∧
    ∀ id, p.hint = some (.name id) → isIdentifier id.toList = true

/-- A parameter with an identifier is recorded with it. -/
theorem IsIdentified.isParameter {p : Parameter Expr} {q : String × Option String}
    (hp : IsIdentified p) (h : namedHint p = .ok q) : IsParameter q := by
  obtain ⟨a, ha, rfl⟩ := Result.map_eq_ok.mp h
  refine ⟨hp.1, fun id hid => hp.2 id ?_⟩
  cases hid
  cases hhint : p.hint with
  | none =>
    rw [hhint] at ha
    cases ha
  | some e =>
    rw [hhint] at ha
    obtain ⟨n, hn, hid⟩ := Result.map_eq_ok.mp ha
    cases hid
    cases e with
    | name id => rw [Except.ok.inj hn]
    | _ => cases hn

/-- So are all recorded parameters. -/
theorem isParameter_of_mem {ps : List (Parameter Expr)} {qs : List (String × Option String)}
    (h : parametersOf ps = .ok qs) (hps : ∀ p ∈ ps, IsIdentified p) : ∀ q ∈ qs, IsParameter q := by
  have hplain : ∀ p ∈ plainParams ps, IsIdentified p := fun p hp => hps p (List.mem_filter.mp hp).1
  rw [parametersOf_eq_mapM, Result.mapM_eq_ok] at h
  generalize plainParams ps = ps at h hplain
  induction h with
  | nil => exact List.forall_mem_nil _
  | cons hpq _ ih =>
    rw [List.forall_mem_cons] at hplain ⊢
    exact ⟨hplain.1.isParameter hpq, ih hplain.2⟩

/-- The parameters of a record with their annotations. -/
def annotated (r : FunctionRecord) : List (String × Option Datum) :=
  r.parameters.map fun p => (p.1, p.2.get? "annotation")

/-- A record has the signature of its parameters and their annotations. -/
theorem exists_annotated {path : String} {f : Function} {r : FunctionRecord}
    (h : functionRecord path f = .ok r) (hf : ∀ p ∈ f.params, IsIdentified p) :
    ∃ qs, (∀ q ∈ qs, IsParameter q) ∧ r.signature = signature qs r.returnType ∧
      annotated r = qs.map fun q => (q.1, some (.text? q.2)) := by
  obtain ⟨qs, hqs, -, hsig, hannotated⟩ := functionRecord_parameters h
  exact ⟨ofNamed qs, fun q hq => isParameter_of_mem hqs hf q (mem_of_mem_ofNamed q hq), hsig, hannotated⟩

/-- **The signature text determines the signature.** Two functions with records of the same signature text
have the same parameters in the same order, with the same annotations, and the same result type, if the
names of parameters and annotations are identifiers. -/
theorem annotated_eq_of_signature_eq {path path' : String} {f g : Function} {r s : FunctionRecord}
    (hr : functionRecord path f = .ok r) (hs : functionRecord path' g = .ok s)
    (hf : ∀ p ∈ f.params, IsIdentified p) (hg : ∀ p ∈ g.params, IsIdentified p)
    (h : r.signature = s.signature) :
    annotated r = annotated s ∧ r.returnType = s.returnType := by
  obtain ⟨ps, hps, hsig, hparams⟩ := exists_annotated hr hf
  obtain ⟨qs, hqs, hsig', hparams'⟩ := exists_annotated hs hg
  rw [hsig, hsig'] at h
  obtain ⟨rfl, hreturn⟩ := signature_inj hps hqs h
  exact ⟨hparams.trans hparams'.symm, hreturn⟩

/-- A function with two plain parameters and one more. -/
def threeParameters (kind : ParameterKind) : Function :=
  { severalParameters kind with
    params := [⟨"a", .positional, some (.name "int"), none⟩, ⟨"b", .positional, none, none⟩,
      ⟨"c", kind, none, none⟩]
    returns := some (.attribute (.name "m") "T") }

/-- Two functions whose signatures differ in the kind of a parameter that is not shown. -/
theorem annotated_threeParameters :
    ∃ r s, functionRecord "m.py" (threeParameters .variadic) = .ok r ∧
      functionRecord "m.py" (threeParameters .keywordOnly) = .ok s ∧
      r.signature = "(a: int, b) -> m.T" ∧ s.signature = "(a: int, b) -> m.T" ∧
      annotated r = annotated s ∧ r.returnType = s.returnType := by
  have hrecords : ∀ kind ∈ [ParameterKind.variadic, .keywordOnly],
      (functionRecord "m.py" (threeParameters kind)).toOption.map (·.signature) =
        some "(a: int, b) -> m.T" := by decide +kernel
  have hnames : ∀ kind, ∀ p ∈ (threeParameters kind).params, IsIdentified p := by
    intro kind
    simp [threeParameters, IsIdentified]
    decide
  obtain ⟨r, hr, hsig⟩ := Option.map_eq_some_iff.mp (hrecords .variadic (by simp))
  obtain ⟨s, hs, hsig'⟩ := Option.map_eq_some_iff.mp (hrecords .keywordOnly (by simp))
  rw [Result.toOption_eq_some] at hr hs
  exact ⟨r, s, hr, hs, hsig, hsig',
    annotated_eq_of_signature_eq hr hs (hnames _) (hnames _) (hsig.trans hsig'.symm)⟩

end Codebook.Outline
