import Mathlib
import Codebook.Proofs.AlikeStores

/-!
# Texts in two sessions

Plain values are written in the same way wherever they are kept: the text of a function or class names
its module and its path, and never its place.

* `Over.reprWith_moved`, `Over.str_moved`: what is written for a value.
* `Plain.shown_moved`: what is written for a value inside a hint.
* `along_reprOf`, `along_textOf`: the runs that write a value, which may ask the session for the title
  of a class.
-/

namespace Codebook.Live

open Source

variable {b : Base} {t u : Store} {v : Value}

/-! ## Values in a source's own notation -/

/-- The text of an argument of a class. -/
def memberRepr (s : Store) (outside : Outside) : Value → String
  | .ellipsis => "..."
  | v =>
    match s.named? v with
    | some (home, path) => titleIn outside home path
    | none => reprWith s outside v

/-- The text of an alternative. -/
def alternativeRepr (s : Store) (outside : Outside) : Value → String
  | .cls (.known "NoneType") => "None"
  | v =>
    match s.named? v with
    | some (home, path) => titleIn outside home path
    | none => reprWith s outside v

/-- The text of a class with the texts of its arguments. -/
def genericRepr (s : Store) (outside : Outside) (c : ClassRef) (texts : List String) : String :=
  (match s.classHome c with
    | .none => "<class '" ++ s.classTitle c ++ "'>"
    | home => titleIn outside home (s.classPath c)) ++ "[" ++
      (if texts.isEmpty then "()" else ", ".intercalate texts) ++ "]"

section Lists

variable (s : Store) (outside : Outside) (vs : List Value)

/-- Values are written one by one. -/
theorem reprAll_eq_map : reprAll s outside vs = vs.map (reprWith s outside) := by
  induction vs with
  | nil => rw [reprAll, List.map_nil]
  | cons v vs ih => rw [reprAll, ih, List.map_cons]

/-- Members are written one by one. -/
theorem memberReprs_eq_map : memberReprs s outside vs = vs.map (memberRepr s outside) := by
  induction vs with
  | nil => rw [memberReprs, List.map_nil]
  | cons v vs ih =>
    rw [List.map_cons, ← ih]
    cases v <;> rfl

/-- Alternatives are written one by one. -/
theorem alternativeReprs_eq_map :
    alternativeReprs s outside vs = vs.map (alternativeRepr s outside) := by
  induction vs with
  | nil => rw [alternativeReprs, List.map_nil]
  | cons v vs ih =>
    rw [List.map_cons, ← ih]
    unfold alternativeRepr
    split
    · rw [alternativeReprs]
    · exact alternativeReprs.eq_3 s outside _ vs ‹_›

end Lists

/-- A title depends on how its module is written only. -/
theorem titleIn_home {outside outside' : Outside}
    (hhome : ∀ m, outside'.home (.text m) = outside.home (.text m)) (m path : String) :
    titleIn outside' (.text m) path = titleIn outside (.text m) path := by
  unfold titleIn
  split
  · rfl
  · rw [hhome]

/-- The module is written as its name. -/
theorem outsideTo_home (s : Store) (n : Nat) (m : String) :
    (outsideTo s (n + 1)).home (.text m) = m :=
  rfl

section Over

variable (h : Over b t u)
include h

/-- Classes and functions have the same full names, in modules that are texts. -/
theorem Over.named?_moved (hv : Plain v) :
    u.named? (v.moved b) = t.named? v ∧
      ∀ home path, t.named? v = some (home, path) → ∃ m, home = .text m := by
  -- what has a name has it in a module that is a text or nothing
  have hnamed {x : Option (Value × String)} (hx : x = none ∨ ∃ m path, x = some (.text m, path)) :
      ∀ home path, x = some (home, path) → ∃ m, home = .text m := by
    rintro home path rfl
    rcases hx with hx | ⟨m, _, hx⟩
    · cases hx
    · cases hx
      exact ⟨m, rfl⟩
  cases hv with
  | leaf hv =>
    rw [Value.moved_of_isLeaf hv]
    cases v with
    | native f =>
      cases f with
      | objectMethod name => exact ⟨rfl, hnamed (.inl rfl)⟩
      | _ => exact ⟨rfl, hnamed (.inr ⟨_, _, rfl⟩)⟩
    | cls c => simp [Value.isLeaf] at hv
    | function id => simp [Value.isLeaf] at hv
    | bound self id => simp [Value.isLeaf] at hv
    | _ => exact ⟨rfl, hnamed (.inl rfl)⟩
  | cls c =>
    obtain ⟨hhome, htext⟩ := h.classHome_moved c
    refine ⟨?_, hnamed ?_⟩
    · simp only [Store.named?, Value.moved, hhome, h.classPath_moved]
    · rcases htext with hnone | ⟨m, hm⟩
      · exact .inl (by rw [Store.named?, hnone])
      · exact .inr ⟨m, _, by rw [Store.named?, hm]⟩
  | function i =>
    have hf := h.functions i
    refine ⟨?_, hnamed ?_⟩
    · simp only [Store.named?, Value.moved, hf.home, hf.path]
    · rcases hf.home_eq with hnone | hm
      · exact .inl (by rw [Store.named?, hnone])
      · exact .inr ⟨b.name, _, by rw [Store.named?, hm]⟩
  | _ => exact ⟨rfl, hnamed (.inl rfl)⟩

section Notation

variable {outside outside' : Outside}
  (hhome : ∀ m, outside'.home (.text m) = outside.home (.text m))
include hhome

/-- The full name, or else the text. -/
theorem Over.title_moved (hv : Plain v)
    (hrepr : reprWith u outside' (v.moved b) = reprWith t outside v) :
    (match u.named? (v.moved b) with
      | some (home, path) => titleIn outside' home path
      | none => reprWith u outside' (v.moved b)) =
    match t.named? v with
      | some (home, path) => titleIn outside home path
      | none => reprWith t outside v := by
  obtain ⟨hnamed, htext⟩ := h.named?_moved hv
  rw [hnamed, hrepr]
  cases ht : t.named? v with
  | none => rfl
  | some found =>
    obtain ⟨home, path⟩ := found
    obtain ⟨m, rfl⟩ := htext home path ht
    exact titleIn_home hhome m path

/-- A member is written alike if its value is. -/
theorem Over.memberRepr_moved (hv : Plain v)
    (hrepr : reprWith u outside' (v.moved b) = reprWith t outside v) :
    memberRepr u outside' (v.moved b) = memberRepr t outside v := by
  by_cases hdots : v = .ellipsis
  · rw [hdots]
    rfl
  · have hdots' : v.moved b ≠ .ellipsis := fun he => hdots ((Value.moved_eq_iff rfl).mp he)
    rw [memberRepr, memberRepr]
    · exact h.title_moved hhome hv hrepr
    · exact hdots
    · exact hdots'

/-- An alternative is written alike if its value is. -/
theorem Over.alternativeRepr_moved (hv : Plain v)
    (hrepr : reprWith u outside' (v.moved b) = reprWith t outside v) :
    alternativeRepr u outside' (v.moved b) = alternativeRepr t outside v := by
  by_cases hnone : v = nothing
  · rw [hnone]
    rfl
  · have hnone' : v.moved b ≠ nothing := by
      intro he
      cases v <;> simp_all [Value.moved, nothing]
    rw [alternativeRepr, alternativeRepr]
    · exact h.title_moved hhome hv hrepr
    · exact hnone
    · exact hnone'

/-- A plain value is written in the same way. -/
theorem Over.reprWith_moved (hv : Plain v) :
    reprWith u outside' (v.moved b) = reprWith t outside v := by
  have hfunction (i : Nat) : reprWith u outside' (.function (i + b.functions)) =
      reprWith t outside (.function i) := by
    change "<function " ++ (u.function (i + b.functions)).path ++ ">" =
      "<function " ++ (t.function i).path ++ ">"
    rw [(h.functions i).path]
  induction hv with
  | @leaf v hv =>
    rw [Value.moved_of_isLeaf hv]
    cases v with
    | dict items =>
      cases items with
      | nil => rfl
      | cons i items => cases hv
    | native f => cases f <;> rfl
    | _ => first | (cases hv; done) | rfl
  | cls c =>
    change "<class '" ++ u.classTitle (c.moved b) ++ "'>" = "<class '" ++ t.classTitle c ++ "'>"
    rw [h.classTitle_moved]
  | function i => exact hfunction i
  | staticMethod i =>
    exact congrArg (fun text => "<staticmethod(" ++ text ++ ")>") (hfunction i)
  | classMethod i =>
    exact congrArg (fun text => "<classmethod(" ++ text ++ ")>") (hfunction i)
  | @tuple items hitems ih =>
    rw [Value.moved, movedAll_eq_map]
    refine congrArg tupleText ?_
    rw [reprAll_eq_map, reprAll_eq_map, List.map_map]
    exact List.map_congr_left ih
  | @list items hitems ih =>
    rw [Value.moved, movedAll_eq_map]
    refine congrArg (fun texts => "[" ++ ", ".intercalate texts ++ "]") ?_
    rw [reprAll_eq_map, reprAll_eq_map, List.map_map]
    exact List.map_congr_left ih
  | @generic c args hargs ih =>
    have hitems : memberReprs u outside' (args.map (Value.moved b)) = memberReprs t outside args := by
      rw [memberReprs_eq_map, memberReprs_eq_map, List.map_map]
      exact List.map_congr_left fun v hv => h.memberRepr_moved hhome (hargs v hv) (ih v hv)
    obtain ⟨hclass, htext⟩ := h.classHome_moved c
    rw [Value.moved, movedAll_eq_map]
    change genericRepr u outside' (c.moved b) (memberReprs u outside' (args.map (Value.moved b))) =
      genericRepr t outside c (memberReprs t outside args)
    unfold genericRepr
    rw [hitems, hclass, h.classPath_moved, h.classTitle_moved]
    rcases htext with hnone | ⟨m, hm⟩
    · rw [hnone]
    · rw [hm]
      dsimp only
      rw [titleIn_home hhome]
  | @union members hmembers ih =>
    rw [Value.moved, movedAll_eq_map]
    refine congrArg " | ".intercalate ?_
    rw [alternativeReprs_eq_map, alternativeReprs_eq_map, List.map_map]
    exact List.map_congr_left fun v hv => h.alternativeRepr_moved hhome (hmembers v hv) (ih v hv)

end Notation

/-- A plain value is written alike. -/
theorem Over.repr_moved (hv : Plain v) : u.repr (v.moved b) = t.repr v :=
  h.reprWith_moved (fun m => (outsideTo_home u _ m).trans (outsideTo_home t _ m).symm) hv

/-- A plain value is told alike. -/
theorem Over.str_moved (hv : Plain v) : u.str (v.moved b) = t.str v := by
  have hrepr := h.repr_moved hv
  cases hv with
  | @leaf v hv =>
    rw [Value.moved_of_isLeaf hv] at hrepr ⊢
    cases v with
    | text s => rfl
    | object id => cases hv
    | _ => exact hrepr
  | _ => exact hrepr

end Over

/-! ## What a text shows -/

/-- The values that are shown in an argument of a type. -/
def shownAsArgument : Value → List Value
  | .function _ => []
  | v => v.shown

/-- Values show what each of them shows. -/
theorem shownIn_eq_flatMap (vs : List Value) : shownIn vs = vs.flatMap Value.shown := by
  induction vs with
  | nil => rfl
  | cons v vs ih => rw [shownIn, ih, List.flatMap_cons]

/-- Arguments show what each of them shows. -/
theorem shownInArguments_eq_flatMap (vs : List Value) :
    shownInArguments vs = vs.flatMap shownAsArgument := by
  induction vs with
  | nil => rfl
  | cons v vs ih =>
    rw [List.flatMap_cons, ← ih]
    cases v <;> rfl

/-- The same values are shown, and they are plain ones. -/
theorem Plain.shown_moved (hv : Plain v) :
    (v.moved b).shown = v.shown.map (Value.moved b) ∧ ∀ w ∈ v.shown, Plain w := by
  have hargument {w : Value}
      (h : (w.moved b).shown = w.shown.map (Value.moved b) ∧ ∀ x ∈ w.shown, Plain x) :
      shownAsArgument (w.moved b) = (shownAsArgument w).map (Value.moved b) ∧
        ∀ x ∈ shownAsArgument w, Plain x := by
    cases w with
    | function id => exact ⟨rfl, nofun⟩
    | _ => exact h
  have hmany {f : Value → List Value} {ws : List Value}
      (h : ∀ w ∈ ws, f (w.moved b) = (f w).map (Value.moved b) ∧ ∀ x ∈ f w, Plain x) :
      (ws.map (Value.moved b)).flatMap f = (ws.flatMap f).map (Value.moved b) ∧
        ∀ x ∈ ws.flatMap f, Plain x := by
    rw [List.flatMap_map, List.map_flatMap]
    refine ⟨List.flatMap_congr fun w hw => (h w hw).1, fun x hx => ?_⟩
    obtain ⟨w, hw, hx⟩ := List.mem_flatMap.mp hx
    exact (h w hw).2 x hx
  have hself {w : Value} (hw : Plain w) (hshown : w.shown = [w])
      (hshown' : (w.moved b).shown = [w.moved b]) :
      (w.moved b).shown = w.shown.map (Value.moved b) ∧ ∀ x ∈ w.shown, Plain x := by
    rw [hshown, hshown']
    exact ⟨rfl, fun x hx => List.mem_singleton.mp hx ▸ hw⟩
  induction hv with
  | @leaf v hv =>
    cases v with
    | dict items =>
      cases items with
      | nil => exact ⟨rfl, nofun⟩
      | cons i items => cases hv
    | _ => first | (cases hv; done) | exact hself (.leaf hv) rfl rfl
  | cls c => exact hself (.cls c) rfl rfl
  | function i => exact hself (.function i) rfl rfl
  | staticMethod i => exact hself (.staticMethod i) rfl rfl
  | classMethod i => exact hself (.classMethod i) rfl rfl
  | @tuple items hitems ih =>
    rw [Value.moved, movedAll_eq_map, Value.shown, Value.shown, shownIn_eq_flatMap,
      shownIn_eq_flatMap]
    exact hmany ih
  | @list items hitems ih =>
    rw [Value.moved, movedAll_eq_map, Value.shown, Value.shown, shownIn_eq_flatMap,
      shownIn_eq_flatMap]
    exact hmany ih
  | @generic c args hargs ih =>
    rw [Value.moved, movedAll_eq_map, Value.shown, Value.shown, shownInArguments_eq_flatMap,
      shownInArguments_eq_flatMap]
    exact hmany fun w hw => hargument (ih w hw)
  | @union members hmembers ih =>
    rw [Value.moved, movedAll_eq_map, Value.shown, Value.shown, shownInArguments_eq_flatMap,
      shownInArguments_eq_flatMap]
    exact hmany fun w hw => hargument (ih w hw)

/-- Whether a text tells the place does not depend on the place. -/
theorem Value.hasFixedText_moved (v : Value) : (v.moved b).hasFixedText = v.hasFixedText := by
  cases v <;> rfl

/-- Nor does the length of a number. -/
theorem Value.isShort_moved (v : Value) : (v.moved b).isShort = v.isShort := by
  cases v <;> rfl

/-! ## Texts that a run gives -/

section Texts

variable (m m' : Machine)

/-- To write a plain value runs no code of the source. -/
theorem along_reprTo (n n' : Nat) (hv : Plain v) :
    Along Kept b Eq (reprTo m (n + 1) v) (reprTo m' (n' + 1) (v.moved b)) := by
  obtain ⟨hshown, hplain⟩ := hv.shown_moved (b := b)
  have hnone {f : Value → Option Nat} (hf : ∀ w, w.isObject = false → f w = none) :
      v.shown.filterMap f = [] ∧ (v.shown.map (Value.moved b)).filterMap f = [] := by
    rw [List.filterMap_map, List.filterMap_eq_nil_iff, List.filterMap_eq_nil_iff]
    exact ⟨fun w hw => hf _ (hplain w hw).isObject_eq_false,
      fun w hw => hf _ (hplain w hw).moved.isObject_eq_false⟩
  have hfixed : (v.shown.map (Value.moved b)).all Value.hasFixedText =
      v.shown.all Value.hasFixedText := by
    rw [List.all_map]
    exact congrArg v.shown.all (funext Value.hasFixedText_moved)
  have hshort : (v.shown.map (Value.moved b)).all Value.isShort = v.shown.all Value.isShort := by
    rw [List.all_map]
    exact congrArg v.shown.all (funext Value.isShort_moved)
  unfold reprTo
  dsimp only
  rw [hshown, hfixed, hshort]
  refine .ite (fun _ => .ite (fun _ => ?_) fun _ => ?_) fun _ => ?_
  · rw [(hnone ?_).1, (hnone ?_).2]
    · rw [List.mapM_nil, List.mapM_nil, pure_bind, pure_bind]
      refine Along.get.bind fun s s' ho => .pure (Eq.symm (ho.reprWith_moved (fun m => ?_) hv))
      exact (outsideTo_home s' (s'.objects.size + 1) m).trans
        (outsideTo_home s (s.objects.size + 1) m).symm
    all_goals
      intro w hw
      cases w with
      | object id => cases hw
      | _ => rfl
  · exact (Along.fail rfl).bind (R := fun _ _ => False) nofun
  · exact Along.beyond.bind (R := fun _ _ => False) nofun

/-- A plain value is written alike in both runs. -/
theorem along_reprOf (hv : Plain v) :
    Along Kept b Eq (reprOf m v) (reprOf m' (v.moved b)) :=
  Along.get.bind fun s s' _ => along_reprTo m m' s.objects.size s'.objects.size hv

/-- A plain value is told alike in both runs. -/
theorem along_textOf (hv : Plain v) :
    Along Kept b Eq (textOf m v) (textOf m' (v.moved b)) := by
  refine Along.get.bind fun s s' _ => ?_
  have hrepr := along_reprOf (b := b) m m' hv
  refine Along.get.bind fun s s' _ => ?_
  cases hv with
  | @leaf v hv =>
    rw [Value.moved_of_isLeaf hv] at hrepr ⊢
    cases v with
    | text s => exact .pure rfl
    | object id => cases hv
    | _ => exact hrepr
  | _ => exact hrepr

/-- What is done instead of a run that is followed no further. -/
theorem along_orUsual {usual usual' : Store → String} {r r' : Run String}
    (h : Along Kept b Eq r r') (husual : ∀ t u, Over b t u → usual t = usual' u) :
    Along Kept b Eq (Run.orUsual usual r) (Run.orUsual usual' r') := by
  intro t u ho
  obtain ⟨he, hk⟩ := h ho
  have hrun (usual : Store → String) (r : Run String) (s : Store) :
      (Run.orUsual usual r).run.run s =
        match r.run.run s with
        | (.error .beyond, _) => (.ok (usual s), s)
        | (.error (.raised e), s') => (.error (.raised e), s')
        | (.ok a, s') => (.ok a, s') := by
    unfold Run.orUsual
    rw [Run.run_bind]
    change (tryCatch r _ : Run String).run.run s = _
    rw [Run.run_tryCatch]
    rcases r.run.run s with ⟨(_ | _) | _, s'⟩ <;> rfl
  rw [hrun, hrun]
  generalize r.run.run t = x at he hk
  generalize r'.run.run u = y at he
  cases he with
  | done ho' hxy => exact ⟨.done ho' hxy, hk⟩
  | ended ho' hef =>
    cases hef with
    | beyond => exact ⟨.done ho (husual t u ho), refl_of Kept t⟩
    | raised hname ht hu => exact ⟨.ended ho' (.raised hname ht hu), hk⟩

/-- So it is where errors of its own code count for nothing. -/
theorem along_written (hv : Plain v) : Along Kept b Eq (Run.written v) (Run.written (v.moved b)) :=
  along_orUsual (along_reprOf _ _ hv) fun _ _ ho => (ho.repr_moved hv).symm

/-- So it is told there. -/
theorem along_told (hv : Plain v) : Along Kept b Eq (Run.told v) (Run.told (v.moved b)) :=
  along_orUsual (along_textOf _ _ hv) fun _ _ ho => (ho.str_moved hv).symm

end Texts

end Codebook.Live
