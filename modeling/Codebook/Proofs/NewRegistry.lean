import Mathlib
import Codebook.Proofs.RegistryRuns

/-!
# A new registry is the default one, emptied

A program that asks for a new registry, to register what it likes there, is given the one registry
that it shares. What it then does through the new registry it does to its default one.

* `FirstSeen.unique`, `Reflects.eq_iff`: registrations leave one registry only, and two lists of them
  leave the same one exactly if they are `Alike`: the same names come up in the same order, and the
  same extractor comes last under each.
* `registrations_create_append`: a request for a new registry makes all registrations before it void.
* `default_kept_iff`: so the default registry is as it was before the request exactly if what was
  registered through the new one is alike to what had been registered before.
* `not_forall_default_kept`: it is not in general.
-/

namespace Codebook

/-- There is one order in which the members of a list are first seen. -/
theorem FirstSeen.unique {α : Type} [DecidableEq α] {log seen seen' : List α}
    (h : FirstSeen log seen) (h' : FirstSeen log seen') : seen = seen' := by
  refine List.Perm.eq_of_pairwise (fun a b _ _ hab hba => ?_) h.ordered h'.ordered ?_
  · exact absurd hba (Nat.lt_asymm hab)
  · refine (List.perm_ext_iff_of_nodup h.nodup h'.nodup).mpr ?_
    intro a
    rw [h.mem_iff, h'.mem_iff]

namespace Registry

/-! ## Registrations that leave the same registry -/

/-- Two lists of registrations bring up the same names in the same order, and the same extractor comes
last under each name. -/
structure Alike (log log' : List Extractor) : Prop where
  names : ∀ seen, FirstSeen (log.map (·.name)) seen → FirstSeen (log'.map (·.name)) seen
  latest : ∀ e, IsLatest log e ↔ IsLatest log' e

/-- Two registries with the same names in the same order and the same extractors are equal. -/
theorem eq_of_names_eq {r r' : Registry} (hd : r'.names.Nodup) (hnames : r.names = r'.names)
    (hmem : ∀ e ∈ r.extractors, e ∈ r'.extractors) : r = r' := by
  have hlength : r.extractors.length = r'.extractors.length := by
    have := congrArg List.length hnames
    simpa [names] using this
  have hlist : r.extractors = r'.extractors := by
    refine List.ext_getElem hlength ?_
    intro i hi hi'
    -- the extractor at a place is in the other registry, and only one there has its name
    have hname : (r.extractors[i]).name = (r'.extractors[i]).name := by
      have := List.getElem_of_eq hnames (i := i) (by simpa [names] using hi)
      simpa [names] using this
    exact List.inj_on_of_nodup_map hd (hmem _ (List.getElem_mem hi)) (List.getElem_mem hi') hname
  rcases r with ⟨es⟩
  rcases r' with ⟨es'⟩
  exact congrArg Registry.mk hlist

/-- Registrations leave the same registry exactly if they are alike. -/
theorem Reflects.eq_iff {log log' : List Extractor} {r r' : Registry} (h : Reflects log r)
    (h' : Reflects log' r') : r = r' ↔ Alike log log' := by
  constructor
  · rintro rfl
    refine ⟨?_, ?_⟩
    · intro seen hseen
      rw [hseen.unique h.names]
      exact h'.names
    · intro e
      rw [← h.mem_iff, ← h'.mem_iff]
  · intro halike
    have hnames : r.names = r'.names := (halike.names _ h.names).unique h'.names
    refine eq_of_names_eq h'.names.nodup hnames ?_
    intro e he
    exact (h'.mem_iff e).mpr ((halike.latest e).mp ((h.mem_iff e).mp he))

/-! ## Registering through a new registry -/

/-- The call registers something in the registry that the request of the given number gave. -/
def Call.isThrough (which : Nat) : Call → Bool
  | .register w _ => w == which
  | .registerDefaults w => w == which
  | _ => false

/-- A call through a registry creates none. -/
theorem Call.isCreate_of_isThrough {which : Nat} {c : Call} (h : c.isThrough which = true) :
    c.isCreate = false := by
  cases c with
  | register w e => rfl
  | registerDefaults w => rfl
  | construct | create | getDefault => cases h

/-- After a request for a new registry, only what is registered later counts. -/
theorem registrations_create_append (setting : Option String) (loads : Bool) (before : List Call)
    {after : List Call} (hafter : ∀ c ∈ after, c.isCreate = false) :
    registrations setting loads (before ++ .create :: after) =
      after.filterMap (Call.registered? loads) := by
  induction after using List.reverseRecOn with
  | nil => exact registrations_create setting loads rfl before
  | append_singleton after c ih =>
    have hc : c.isCreate = false := hafter c (by simp)
    have hrest := ih fun x hx => hafter x (List.mem_append_left _ hx)
    rw [← List.cons_append, ← List.append_assoc, registrations_concat setting loads hc, hrest,
      List.filterMap_append]
    cases hr : c.registered? loads <;> simp [hr]

/-- **What a request for a new registry does to the default one.** After any calls, let the program ask
for a new registry and register anything through it. Then all registries that it holds, the default
one among them, are what those last registrations leave, and nothing else is in them. So the default
registry is as it was before the request exactly if the registrations through the new one are alike
to those that had been made before. -/
theorem default_kept_iff (setting : Option String) (loads : Bool) (before after : List Call)
    (hafter : ∀ c ∈ after,
      c.isThrough ((Program.start setting loads).run before).held.length = true) :
    let p := (Program.start setting loads).run before
    let q := (p.call .create).run after
    let log := after.filterMap (Call.registered? loads)
    (∀ which, q.registry which = q.registry 0) ∧ Reflects log (q.registry 0) ∧
      (q.registry 0 = p.registry 0 ↔ Alike log (registrations setting loads before)) := by
  intro p q log
  have hq : q = (Program.start setting loads).run (before ++ .create :: after) := by
    simp only [q, p, Program.run, List.foldl_append, List.foldl_cons]
  have hsole := (Sole.start setting loads).run before
  have hsole' := (Sole.start setting loads).run (before ++ .create :: after)
  rw [← hq] at hsole'
  have hcreate : ∀ c ∈ after, c.isCreate = false := fun c hc =>
    Call.isCreate_of_isThrough (hafter c hc)
  -- what was there before is void, so that the shared registry is what comes after leaves
  have hlog : Reflects log (q.registry 0) := by
    have hall := reflects_foldl_effect setting loads (before ++ .create :: after)
    rw [registrations_create_append setting loads before hcreate] at hall
    rw [hsole'.registry 0]
    exact hall
  have hbefore : Reflects (registrations setting loads before) (p.registry 0) := by
    rw [hsole.registry 0]
    exact reflects_foldl_effect setting loads before
  refine ⟨?_, hlog, hlog.eq_iff hbefore⟩
  intro which
  rw [hsole'.registry which, hsole'.registry 0]

/-- A program that empties its registry by a request for a new one and fills it again as it was. -/
theorem default_kept_refilled :
    let p := Program.start none true
    p.held.length = 1 ∧ (∀ c ∈ [Call.registerDefaults 1], c.isThrough 1 = true) ∧
      ((p.call .create).run [.registerDefaults 1]).registry 0 = p.registry 0 := by
  intro p
  have hthrough : ∀ c ∈ [Call.registerDefaults 1], c.isThrough 1 = true := by decide
  refine ⟨rfl, hthrough, ?_⟩
  obtain ⟨-, -, hiff⟩ := default_kept_iff none true [] [.registerDefaults 1] hthrough
  refine hiff.mpr ⟨?_, ?_⟩
  · intro seen hseen
    exact hseen
  · intro e
    rfl

/-- **A new registry is not independent of the default one.** The request alone empties it. -/
theorem not_forall_default_kept :
    ¬ ∀ (setting : Option String) (loads : Bool) (before after : List Call),
      (∀ c ∈ after, c.isThrough ((Program.start setting loads).run before).held.length = true) →
      ((((Program.start setting loads).run before).call .create).run after).registry 0 =
        ((Program.start setting loads).run before).registry 0 := by
  intro h
  have hkept := h none true [] [] (fun c hc => absurd hc List.not_mem_nil)
  have hnames := congrArg names hkept
  exact absurd hnames (by decide)

end Registry

end Codebook
