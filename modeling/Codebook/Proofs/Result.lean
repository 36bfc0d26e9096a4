import Mathlib

/-!
# Taking results apart

Many functions of the library give a result or a cause of failure, and go on only with a result.
The lemmas here take apart a computation that has a result: each step of it has one. `mapM` over a
list is described by `List.Forall₂`: the results stand in the order of the items. A computation that
fails does so with the cause of its first step without a result.
-/

namespace Codebook.Result

variable {ε ε' α β : Type}

theorem bind_eq_ok {x : Except ε α} {f : α → Except ε β} {b : β} :
    x >>= f = .ok b ↔ ∃ a, x = .ok a ∧ f a = .ok b := by
  cases x with
  | error e => simp [bind, Except.bind]
  | ok a => simp [bind, Except.bind]

theorem map_eq_ok {x : Except ε α} {f : α → β} {b : β} :
    x.map f = .ok b ↔ ∃ a, x = .ok a ∧ f a = b := by
  cases x with
  | error e => simp [Except.map]
  | ok a => simp [Except.map]

theorem bind_eq_error {x : Except ε α} {f : α → Except ε β} {e : ε} :
    x >>= f = .error e ↔ x = .error e ∨ ∃ a, x = .ok a ∧ f a = .error e := by
  cases x with
  | error e' => simp [bind, Except.bind]
  | ok a => simp [bind, Except.bind]

theorem map_eq_error {x : Except ε α} {f : α → β} {e : ε} : x.map f = .error e ↔ x = .error e := by
  cases x with
  | error e' => simp [Except.map]
  | ok a => simp [Except.map]

theorem mapError_eq_ok {x : Except ε α} {f : ε → ε'} {a : α} :
    x.mapError f = .ok a ↔ x = .ok a := by
  cases x with
  | error e => simp [Except.mapError]
  | ok a => simp [Except.mapError]

theorem toOption_eq_some {x : Except ε α} {a : α} : x.toOption = some a ↔ x = .ok a := by
  cases x with
  | error e => simp [Except.toOption]
  | ok a => simp [Except.toOption]

/-- Results for all items of a list, in order. -/
theorem mapM_eq_ok {f : α → Except ε β} :
    ∀ {as : List α} {bs : List β}, as.mapM f = .ok bs ↔ List.Forall₂ (fun a b => f a = .ok b) as bs
  | [], bs => by
    rw [List.mapM_nil, List.forall₂_nil_left_iff]
    exact ⟨fun h => (Except.ok.inj h).symm, fun h => h ▸ rfl⟩
  | a :: as, bs => by
    rw [List.mapM_cons, bind_eq_ok]
    constructor
    · rintro ⟨b, hb, h⟩
      obtain ⟨bs', hbs, h⟩ := bind_eq_ok.mp h
      rw [← Except.ok.inj h]
      exact .cons hb (mapM_eq_ok.mp hbs)
    · intro h
      cases h with
      | @cons _ b _ bs' hb hbs => exact ⟨b, hb, bind_eq_ok.mpr ⟨bs', mapM_eq_ok.mpr hbs, rfl⟩⟩

/-- There are results for all items of a list if there is one for each. -/
theorem exists_mapM_eq_ok {f : α → Except ε β} :
    ∀ {as : List α}, (∃ bs, as.mapM f = .ok bs) ↔ ∀ a ∈ as, ∃ b, f a = .ok b
  | [] => ⟨fun _ _ ha => absurd ha List.not_mem_nil, fun _ => ⟨[], rfl⟩⟩
  | a :: as => by
    rw [List.forall_mem_cons, ← exists_mapM_eq_ok]
    constructor
    · rintro ⟨bs, h⟩
      cases mapM_eq_ok.mp h with
      | cons hb hbs => exact ⟨⟨_, hb⟩, _, mapM_eq_ok.mpr hbs⟩
    · rintro ⟨⟨b, hb⟩, bs, hbs⟩
      exact ⟨b :: bs, mapM_eq_ok.mpr (.cons hb (mapM_eq_ok.mp hbs))⟩

/-- The error of a list is that of its first item without a result. -/
theorem mapM_eq_error {f : α → Except ε β} {e : ε} :
    ∀ {as : List α}, as.mapM f = .error e ↔ ∃ before a after, as = before ++ a :: after ∧
      (∀ b ∈ before, ∃ r, f b = .ok r) ∧ f a = .error e
  | [] => by
    constructor
    · intro h
      rw [List.mapM_nil] at h
      cases h
    · rintro ⟨before, a, after, h, -⟩
      simp at h
  | a :: as => by
    rw [List.mapM_cons, bind_eq_error]
    constructor
    · rintro (h | ⟨r, hr, h⟩)
      · exact ⟨[], a, as, rfl, by simp, h⟩
      · rcases bind_eq_error.mp h with h | ⟨rs, -, h⟩
        · obtain ⟨before, b, after, rfl, hbefore, hb⟩ := mapM_eq_error.mp h
          refine ⟨a :: before, b, after, rfl, ?_, hb⟩
          exact List.forall_mem_cons.mpr ⟨⟨r, hr⟩, hbefore⟩
        · cases h
    · rintro ⟨before, b, after, h, hbefore, hb⟩
      rcases before with _ | ⟨a', before⟩
      · obtain ⟨rfl, -⟩ := List.cons.inj h
        exact .inl hb
      · obtain ⟨rfl, rfl⟩ := List.cons.inj h
        obtain ⟨⟨r, hr⟩, hbefore⟩ := List.forall_mem_cons.mp hbefore
        refine .inr ⟨r, hr, bind_eq_error.mpr (.inl ?_)⟩
        exact mapM_eq_error.mpr ⟨before, b, after, rfl, hbefore, hb⟩

/-- The result for an item is among the results for the list. -/
theorem mem_of_mapM_eq_ok {f : α → Except ε β} {as : List α} {bs : List β} {a : α} {b : β}
    (h : as.mapM f = .ok bs) (ha : a ∈ as) (hb : f a = .ok b) : b ∈ bs := by
  induction mapM_eq_ok.mp h with
  | nil => exact absurd ha List.not_mem_nil
  | @cons a' b' as bs hb' hbs ih =>
    rcases List.mem_cons.mp ha with rfl | ha
    · rw [Except.ok.inj (hb.symm.trans hb')]
      exact List.mem_cons_self
    · exact List.mem_cons_of_mem _ (ih (mapM_eq_ok.mpr hbs) ha)

end Codebook.Result
