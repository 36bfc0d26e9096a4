import Mathlib
import Codebook.Proofs.FirstSeen
import Codebook.Registry.Program

/-!
# What a registry holds after any number of calls

A program may ask for registries, for new ones, and register extractors through any registry that it
holds, in any order. Two things are kept by every call.

* All that it holds is one registry, made and set up at the start (`Sole`). So a call through one
  registry shows in all of them, and a request changes nothing but that a new one is empty (`effect`).
* What is in it follows from the registrations since the last request for a new registry
  (`registrations`): one extractor for each name, the last one registered, in the order in which the
  names were first registered (`Reflects`).

`registry_run` puts these together: it says what each registry that a program holds lists, finds by
name, and gives for a file or a capability, after all sequences of calls.
-/

namespace Codebook.Registry

/-! ## Registering -/

/-- An extractor takes the place of one with its name. -/
theorem put_cons_of_eq {e x : Extractor} (h : x.name = e.name) (es : List Extractor) :
    put e (x :: es) = e :: es := by
  rw [put, if_pos (by simpa using h)]

/-- It leaves the others in theirs. -/
theorem put_cons_of_ne {e x : Extractor} (h : x.name ≠ e.name) (es : List Extractor) :
    put e (x :: es) = x :: put e es := by
  rw [put, if_neg (by simpa using h)]

/-- A new name comes last, and a known one keeps its place. -/
theorem map_name_put (e : Extractor) (es : List Extractor) :
    (put e es).map (·.name) =
      if e.name ∈ es.map (·.name) then es.map (·.name) else es.map (·.name) ++ [e.name] := by
  induction es with
  | nil => simp [put]
  | cons x es ih =>
    by_cases hx : x.name = e.name
    · simp [put_cons_of_eq hx, hx]
    · have hmem : e.name ∈ (x :: es).map (·.name) ↔ e.name ∈ es.map (·.name) := by
        simp [Ne.symm hx]
      rw [put_cons_of_ne hx, List.map_cons, ih]
      by_cases he : e.name ∈ es.map (·.name)
      · rw [if_pos he, if_pos (hmem.mpr he), List.map_cons]
      · rw [if_neg he, if_neg fun h => he (hmem.mp h), List.map_cons, List.cons_append]

/-- Registering an extractor takes out those of its name. -/
theorem mem_put {e x : Extractor} {es : List Extractor} (hd : (es.map (·.name)).Nodup) :
    x ∈ put e es ↔ x = e ∨ x ∈ es ∧ x.name ≠ e.name := by
  induction es with
  | nil => simp [put]
  | cons y es ih =>
    obtain ⟨hy, hd⟩ := List.nodup_cons.mp hd
    by_cases hname : y.name = e.name
    · -- no other extractor has the name, so the rest is kept as a whole
      have hrest : ∀ z ∈ es, z.name ≠ e.name := by
        intro z hz heq
        exact hy (List.mem_map.mpr ⟨z, hz, heq.trans hname.symm⟩)
      rw [put_cons_of_eq hname, List.mem_cons, List.mem_cons]
      constructor
      · rintro (rfl | hx)
        · exact .inl rfl
        · exact .inr ⟨.inr hx, hrest x hx⟩
      · rintro (rfl | ⟨rfl | hx, hne⟩)
        · exact .inl rfl
        · exact absurd hname hne
        · exact .inr hx
    · rw [put_cons_of_ne hname, List.mem_cons, List.mem_cons, ih hd]
      constructor
      · rintro (rfl | rfl | ⟨hx, hne⟩)
        · exact .inr ⟨.inl rfl, hname⟩
        · exact .inl rfl
        · exact .inr ⟨.inr hx, hne⟩
      · rintro (rfl | ⟨rfl | hx, hne⟩)
        · exact .inr (.inl rfl)
        · exact .inl rfl
        · exact .inr (.inr ⟨hx, hne⟩)

/-- The extractor is the last one of its name in the list. -/
def IsLatest (log : List Extractor) (e : Extractor) : Prop :=
  ∃ before after, log = before ++ e :: after ∧ ∀ x ∈ after, x.name ≠ e.name

/-- One more extractor is the last one of its name, and no other of its name is any longer. -/
theorem isLatest_concat {log : List Extractor} {e x : Extractor} :
    IsLatest (log ++ [e]) x ↔ x = e ∨ IsLatest log x ∧ x.name ≠ e.name := by
  constructor
  · rintro ⟨before, after, hlog, hafter⟩
    rcases List.eq_nil_or_concat' after with rfl | ⟨after, y, rfl⟩
    · obtain ⟨-, hx⟩ := List.append_inj' hlog rfl
      exact .inl (List.singleton_inj.mp hx).symm
    · rw [← List.cons_append, ← List.append_assoc] at hlog
      obtain ⟨hstart, hy⟩ := List.append_inj' hlog rfl
      obtain rfl := List.singleton_inj.mp hy
      refine .inr ⟨⟨before, after, hstart, ?_⟩, ?_⟩
      · intro z hz
        exact hafter z (List.mem_append_left _ hz)
      · exact Ne.symm (hafter e (by simp))
  · rintro (rfl | ⟨⟨before, after, rfl, hafter⟩, hne⟩)
    · exact ⟨log, [], rfl, fun _ h => absurd h List.not_mem_nil⟩
    · refine ⟨before, after ++ [e], by simp, ?_⟩
      intro z hz
      rcases List.mem_append.mp hz with hz | hz
      · exact hafter z hz
      · rw [List.mem_singleton.mp hz]
        exact Ne.symm hne

/-- The registry is what the registrations in `log` leave. -/
structure Reflects (log : List Extractor) (r : Registry) : Prop where
  /-- It has their names, in the order in which these came up. -/
  names : FirstSeen (log.map (·.name)) r.names
  /-- For each name it has the extractor that came last. -/
  mem_iff : ∀ e, e ∈ r.extractors ↔ IsLatest log e

namespace Reflects

/-- A new registry reflects no registration. -/
theorem empty : Reflects [] Registry.empty := by
  refine ⟨FirstSeen.nil, ?_⟩
  intro e
  constructor
  · intro h
    exact absurd h List.not_mem_nil
  · rintro ⟨before, after, hlog, -⟩
    simp at hlog

variable {log : List Extractor} {r : Registry}

/-- One more registration. -/
theorem register (h : Reflects log r) (e : Extractor) :
    Reflects (log ++ [e]) (r.register e) := by
  refine ⟨?_, ?_⟩
  · have hnames := h.names.concat e.name
    rw [List.map_append, List.map_singleton]
    unfold Registry.names Registry.register
    rw [map_name_put]
    exact hnames
  · intro x
    rw [isLatest_concat, ← h.mem_iff]
    exact mem_put h.names.nodup

/-- What is found by a name is the last extractor that was registered under it. -/
theorem get?_eq_some_iff (h : Reflects log r) {n : String} {e : Extractor} :
    r.get? n = some e ↔ IsLatest log e ∧ e.name = n := by
  rw [← h.mem_iff]
  constructor
  · intro hget
    refine ⟨List.mem_of_find?_eq_some hget, ?_⟩
    simpa using List.find?_some hget
  · rintro ⟨hmem, rfl⟩
    have hsome : (r.get? e.name).isSome = true := List.find?_isSome.mpr ⟨e, hmem, by simp⟩
    obtain ⟨x, hx⟩ := Option.isSome_iff_exists.mp hsome
    have hname : x.name = e.name := by simpa using List.find?_some hx
    -- names do not repeat, so the extractor found can only be this one
    have heq := List.inj_on_of_nodup_map h.names.nodup (List.mem_of_find?_eq_some hx) hmem hname
    rw [hx, heq]

/-- Nothing is found by a name under which nothing was registered. -/
theorem get?_eq_none_iff (h : Reflects log r) {n : String} :
    r.get? n = none ↔ n ∉ log.map (·.name) := by
  rw [← h.names.mem_iff, get?, List.find?_eq_none, Registry.names, List.mem_map]
  simp

end Reflects

/-! ## The one registry of a program -/

/-- What a call does to the one registry of a program. -/
def effect (loads : Bool) (r : Registry) : Call → Registry
  | .construct => r
  | .create => empty
  | .getDefault => r
  | .register _ e => r.register e
  | .registerDefaults _ => r.registerDefaults loads

/-- The program has made one registry, with the given content, and holds nothing else. -/
structure Sole (loads : Bool) (p : Program) (r : Registry) : Prop where
  made : p.made = [⟨r, true⟩]
  shared : p.shared = some 0
  held : ∀ k ∈ p.held, k = 0
  loads : p.loads = loads

namespace Sole

variable {loads : Bool} {p : Program} {r : Registry}

/-- At the start there is one registry. -/
theorem start (setting : Option String) (loads : Bool) :
    Sole loads (.start setting loads) (initial setting loads) := by
  refine ⟨rfl, rfl, ?_, rfl⟩
  intro k hk
  exact List.mem_singleton.mp hk

/-- Whichever registry a program uses, it is this one. -/
theorem place (h : Sole loads p r) (which : Nat) : p.place which = 0 := by
  have hhead : p.held.headD 0 = 0 := by
    cases hp : p.held with
    | nil => rfl
    | cons k ks => exact h.held k (hp ▸ List.mem_cons_self)
  unfold Program.place
  rw [hhead, List.getD_eq_getElem?_getD]
  cases hk : p.held[which]? with
  | none => rfl
  | some k => exact h.held k (List.mem_of_getElem? hk)

/-- Whichever registry is asked for is that one. -/
theorem registry (h : Sole loads p r) (which : Nat) : p.registry which = r := by
  rw [Program.registry, h.place, h.made]
  rfl

/-- A request finds the registry, which is set up already. -/
theorem request (h : Sole loads p r) : p.request = (p, 0) := by
  have hclaim : p.claim = (p, 0) := by rw [Program.claim, h.shared]
  have hmade : p.made.modify 0 (fun m =>
      if m.isSetUp then m else ⟨initial p.setting p.loads, true⟩) = p.made := by
    rw [h.made]
    rfl
  rw [Program.request, hclaim]
  simp only [Program.setUp, hmade]

theorem hold (h : Sole loads p r) : Sole loads (p.hold 0) r := by
  refine ⟨h.made, h.shared, ?_, h.loads⟩
  intro k hk
  rcases List.mem_append.mp hk with hk | hk
  · exact h.held k hk
  · exact List.mem_singleton.mp hk

theorem change (h : Sole loads p r) (f : Registry → Registry) : Sole loads (p.change 0 f) (f r) := by
  refine ⟨?_, h.shared, h.held, h.loads⟩
  rw [Program.change, h.made]
  rfl

/-- One call. -/
theorem call (h : Sole loads p r) (c : Call) : Sole loads (p.call c) (effect loads r c) := by
  cases c with
  | construct =>
    rw [Program.call, h.request]
    exact h.hold
  | create =>
    rw [Program.call, h.request]
    exact (h.change fun _ => Registry.empty).hold
  | getDefault =>
    rw [Program.call, h.place]
    exact h.hold
  | register which e =>
    rw [Program.call, h.place]
    exact h.change _
  | registerDefaults which =>
    rw [Program.call, h.place, h.loads]
    exact h.change _

/-- Any number of calls. -/
theorem run (h : Sole loads p r) (calls : List Call) :
    Sole loads (p.run calls) (calls.foldl (effect loads) r) := by
  induction calls generalizing p r with
  | nil => exact h
  | cons c calls ih => exact ih (h.call c)

end Sole

/-! ## Registrations -/

/-- The call asks for a new registry. -/
def Call.isCreate : Call → Bool
  | .create => true
  | _ => false

/-- The extractor that a call registers. -/
def Call.registered? (loads : Bool) : Call → Option Extractor
  | .register _ e => some e
  | .registerDefaults _ => some (.python loads)
  | _ => none

/-- What the start of a program registers. -/
def atStart (setting : Option String) (loads : Bool) : List Extractor :=
  if setting.getD "1" == "1" then [.python loads] else []

/-- What was registered since the last request for a new registry, or, if there was none, since the
program started. -/
def registrations (setting : Option String) (loads : Bool) (calls : List Call) : List Extractor :=
  if calls.any (·.isCreate) then
    (calls.rtakeWhile fun c => !c.isCreate).filterMap (Call.registered? loads)
  else atStart setting loads ++ calls.filterMap (Call.registered? loads)

/-- A new registry starts anew. -/
theorem registrations_create (setting : Option String) (loads : Bool) {c : Call}
    (hc : c.isCreate = true) (calls : List Call) :
    registrations setting loads (calls ++ [c]) = [] := by
  simp [registrations, hc]

/-- Every other call adds what it registers. -/
theorem registrations_concat (setting : Option String) (loads : Bool) {c : Call}
    (hc : c.isCreate = false) (calls : List Call) :
    registrations setting loads (calls ++ [c]) =
      registrations setting loads calls ++ (c.registered? loads).toList := by
  have hlast : [c].filterMap (Call.registered? loads) = (c.registered? loads).toList := by
    cases h : c.registered? loads <;> simp [h]
  by_cases hany : calls.any (·.isCreate) = true
  · simp [registrations, hany, hc, hlast]
  · simp [registrations, hany, hc, hlast]

/-- The first registry reflects what is registered at the start. -/
theorem reflects_initial (setting : Option String) (loads : Bool) :
    Reflects (atStart setting loads) (initial setting loads) := by
  unfold atStart initial
  split_ifs
  · exact Reflects.empty.register (.python loads)
  · exact Reflects.empty

/-- The one registry of a program is what the registrations leave. -/
theorem reflects_foldl_effect (setting : Option String) (loads : Bool) (calls : List Call) :
    Reflects (registrations setting loads calls)
      (calls.foldl (effect loads) (initial setting loads)) := by
  induction calls using List.reverseRecOn with
  | nil =>
    have hnil : registrations setting loads [] = atStart setting loads := by simp [registrations]
    rw [hnil]
    exact reflects_initial setting loads
  | append_singleton calls c ih =>
    rw [List.foldl_append, List.foldl_cons, List.foldl_nil]
    cases c with
    | create =>
      rw [registrations_create setting loads rfl]
      exact Reflects.empty
    | register which e =>
      rw [registrations_concat setting loads rfl]
      exact ih.register e
    | registerDefaults which =>
      rw [registrations_concat setting loads rfl]
      exact ih.register (.python loads)
    | construct | getDefault =>
      rw [registrations_concat setting loads rfl]
      simpa [Call.registered?, effect] using ih

/-- **What a registry holds.** After every sequence of calls, each registry that the program holds
lists extractors of pairwise distinct names, in the order in which the names were first registered
since the last request for a new registry, each with the extractor registered last under it. By a name
it finds that extractor, or nothing if there is none; and what it gives for a file or a capability is
the part of the list that takes the file or has the capability, in its order. -/
theorem registry_run (setting : Option String) (loads : Bool) (calls : List Call) (which : Nat) :
    let r := ((Program.start setting loads).run calls).registry which
    let log := registrations setting loads calls
    r.names.Nodup ∧ FirstSeen (log.map (·.name)) r.names ∧
      (∀ e, e ∈ r.extractors ↔ IsLatest log e) ∧
      (∀ n e, r.get? n = some e ↔ IsLatest log e ∧ e.name = n) ∧
      (∀ n, r.get? n = none ↔ n ∉ r.names) ∧
      (∀ path, (r.forFile path).Sublist r.extractors ∧
        ∀ e, e ∈ r.forFile path ↔ e ∈ r.extractors ∧ e.accepts path = true) ∧
      ∀ c, (r.withCapability c).Sublist r.extractors ∧
        ∀ e, e ∈ r.withCapability c ↔ e ∈ r.extractors ∧ c ∈ e.capabilities := by
  intro r log
  have hr : r = calls.foldl (effect loads) (initial setting loads) :=
    ((Sole.start setting loads).run calls).registry which
  have hreflects : Reflects log r := hr ▸ reflects_foldl_effect setting loads calls
  refine ⟨hreflects.names.nodup, hreflects.names, hreflects.mem_iff,
    fun n e => hreflects.get?_eq_some_iff, ?_, ?_, ?_⟩
  · intro n
    rw [hreflects.names.mem_iff]
    exact hreflects.get?_eq_none_iff
  · intro path
    refine ⟨List.filter_sublist, ?_⟩
    intro e
    exact List.mem_filter
  · intro c
    refine ⟨List.filter_sublist, ?_⟩
    intro e
    rw [withCapability, List.mem_filter, List.contains_iff_mem]

/-- A request for a new registry empties the default one too, and what is then registered through the
default one shows in all. -/
example : (((Program.start none true).run
    [.create, .register 0 { Extractor.python true with name := "other" }, .construct]).registry
      2).names = ["other"] := by
  decide

end Codebook.Registry
