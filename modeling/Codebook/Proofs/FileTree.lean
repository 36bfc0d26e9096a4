import Mathlib
import Codebook.Proofs.PathText

/-!
# Trees and disks as a file system has them

In a well-formed tree every entry has a name, and the entries of a directory are in the order of their
names, so that no two have the same. Building a tree file by file keeps to this (`WellFormed.put`),
and so does going up and down in it (`Disk.WellFormed.get`).
-/

namespace Codebook

open Text Codebook.Path

namespace Tree

/-- Induction over the entries of directories. -/
@[elab_as_elim] theorem entryInduction {motive : Tree → Prop}
    (file : ∀ bytes, motive (.file bytes))
    (dir : ∀ es, (∀ e ∈ es, motive e.2) → motive (.dir es)) : ∀ t, motive t
  | .file bytes => file bytes
  | .dir es => dir es fun e he =>
    have : sizeOf e.2 < 1 + sizeOf es := by
      have h1 := List.sizeOf_lt_of_mem he
      obtain ⟨n, t⟩ := e
      simp only [Prod.mk.sizeOf_spec] at h1
      simp only
      omega
    entryInduction file dir e.2

/-! ## Trees -/

/-- The entries of every directory have names, and are in the order of these. -/
inductive WellFormed : Tree → Prop
  | file (bytes : List UInt8) : WellFormed (.file bytes)
  | dir {es : List (String × Tree)} (sorted : es.Pairwise (·.1 < ·.1))
      (names : ∀ e ∈ es, IsName e.1) (below : ∀ e ∈ es, WellFormed e.2) : WellFormed (.dir es)

/-- The entries of a well-formed directory are well-formed. -/
theorem WellFormed.of_mem {es : List (String × Tree)} (h : (Tree.dir es).WellFormed)
    {e : String × Tree} (he : e ∈ es) : e.2.WellFormed := by
  cases h with
  | dir _ _ hbelow => exact hbelow e he

theorem wellFormed_empty : empty.WellFormed :=
  .dir .nil (fun _ he => absurd he List.not_mem_nil) fun _ he => absurd he List.not_mem_nil

/-- The entries of a well-formed tree are those of a well-formed directory, also for a file. -/
theorem WellFormed.entries {t : Tree} (h : t.WellFormed) : (Tree.dir t.entries).WellFormed := by
  cases h with
  | file bytes => exact wellFormed_empty
  | dir hsorted hnames hbelow => exact .dir hsorted hnames hbelow

/-- An entry is the new one or was there before. -/
theorem eq_or_mem_of_mem_putEntry {name : String} {t : Tree} {e : String × Tree} :
    ∀ {es : List (String × Tree)}, e ∈ putEntry name t es → e = (name, t) ∨ e ∈ es
  | [], h => .inl (List.mem_singleton.mp h)
  | (n, u) :: es, h => by
    rw [putEntry] at h
    split_ifs at h
    · exact (List.mem_cons.mp h).imp_right (List.mem_cons_of_mem _)
    · exact List.mem_cons.mp h
    · rcases List.mem_cons.mp h with rfl | h
      · exact .inr List.mem_cons_self
      · exact (eq_or_mem_of_mem_putEntry h).imp_right (List.mem_cons_of_mem _)

/-- Entries stay in order. -/
theorem pairwise_putEntry {name : String} {t : Tree} :
    ∀ {es : List (String × Tree)}, es.Pairwise (·.1 < ·.1) →
      (putEntry name t es).Pairwise (·.1 < ·.1)
  | [], _ => List.pairwise_singleton _ _
  | (n, u) :: es, h => by
    obtain ⟨hfirst, hrest⟩ := List.pairwise_cons.mp h
    rw [putEntry]
    split_ifs with heq hlt
    · obtain rfl : name = n := by simpa using heq
      exact List.pairwise_cons.mpr ⟨hfirst, hrest⟩
    · refine List.pairwise_cons.mpr ⟨fun e he => ?_, h⟩
      rcases List.mem_cons.mp he with rfl | he
      · exact hlt
      · exact lt_trans hlt (hfirst e he)
    · refine List.pairwise_cons.mpr ⟨fun e he => ?_, pairwise_putEntry hrest⟩
      rcases eq_or_mem_of_mem_putEntry he with rfl | he
      · exact lt_of_le_of_ne (not_lt.mp hlt) fun (hn : n = name) => heq (by simp [hn])
      · exact hfirst e he

/-- Putting a tree at the end of names keeps a tree well-formed: what is built or written file by
file is a tree as a file system has it. -/
theorem WellFormed.put {t : Tree} (ht : t.WellFormed) :
    ∀ {ns : List String} {u : Tree}, (∀ n ∈ ns, IsName n) → u.WellFormed → (t.put ns u).WellFormed
  | [], _, _, _ => ht
  | n :: ns, u, hns, hu => by
    have hbelow : (((u.entries.find? (·.1 == n)).map (·.2)).getD empty).WellFormed := by
      cases hfind : u.entries.find? (·.1 == n) with
      | none => exact wellFormed_empty
      | some e => exact hu.entries.of_mem (List.mem_of_find?_eq_some hfind)
    have hput := ht.put (fun m hm => hns m (List.mem_cons_of_mem _ hm)) hbelow
    cases hu.entries with
    | dir hsorted hnames hwell =>
      refine .dir (pairwise_putEntry hsorted) (fun e he => ?_) fun e he => ?_
      · rcases eq_or_mem_of_mem_putEntry he with rfl | he
        · exact hns n List.mem_cons_self
        · exact hnames e he
      · rcases eq_or_mem_of_mem_putEntry he with rfl | he
        · exact hput
        · exact hwell e he

end Tree

/-! ## Disks -/

/-- The tree is one that a file system has, and names lead to the current directory. -/
structure Disk.WellFormed (d : Disk) : Prop where
  root : d.root.WellFormed
  current : ∀ n ∈ d.current, IsName n

/-- The disk with one file for each text, put at the end of the names before it. -/
def Disk.ofTexts (current : List String) (texts : List (List String × String)) : Disk :=
  ⟨texts.foldr (fun f t => (Tree.file (encode f.2)).put f.1 t) .empty, current⟩

/-- Files with ordinary names make a well-formed disk. -/
theorem Disk.wellFormed_ofTexts {current : List String} {texts : List (List String × String)}
    (hc : ∀ n ∈ current, IsName n) (ht : ∀ f ∈ texts, ∀ n ∈ f.1, IsName n) :
    (Disk.ofTexts current texts).WellFormed := by
  refine ⟨?_, hc⟩
  show (texts.foldr (fun f t => (Tree.file (encode f.2)).put f.1 t) Tree.empty).WellFormed
  induction texts with
  | nil => exact Tree.wellFormed_empty
  | cons f texts ih =>
    exact (Tree.WellFormed.file _).put (ht f List.mem_cons_self)
      (ih fun g hg => ht g (List.mem_cons_of_mem _ hg))

/-- What names lead to, up or down, is well-formed too. -/
theorem Disk.follow_wellFormed :
    ∀ (ns : List String) {above : List Tree} {t u : Tree}, (∀ a ∈ above, a.WellFormed) →
      t.WellFormed → follow above t ns = .ok u → u.WellFormed
  | [], _, t, u, _, ht, h => by
    rw [follow] at h
    exact Except.ok.inj h ▸ ht
  | n :: ns, above, t, u, habove, ht, h => by
    rcases t with bytes | es
    · simp [follow] at h
    · unfold follow at h
      simp only at h
      by_cases hn : (n == "..") = true
      · rw [if_pos hn] at h
        rcases above with _ | ⟨a, above⟩
        · exact follow_wellFormed ns habove ht h
        · exact follow_wellFormed ns (fun b hb => habove b (List.mem_cons_of_mem _ hb))
            (habove a List.mem_cons_self) h
      · rw [if_neg hn] at h
        split at h
        · rename_i m v hfind
          have hmem : (m, v) ∈ es := List.mem_of_find?_eq_some hfind
          refine follow_wellFormed ns (fun b hb => ?_) (ht.of_mem hmem) h
          rcases List.mem_cons.mp hb with rfl | hb
          · exact ht
          · exact habove b hb
        · simp at h

/-- What is found on a well-formed disk is well-formed. -/
theorem Disk.WellFormed.get {d : Disk} (hd : d.WellFormed) {p : Path} {t : Tree}
    (h : d.get p = .ok t) : t.WellFormed := by
  unfold Disk.get at h
  split_ifs at h
  exact follow_wellFormed _ (fun a ha => absurd ha List.not_mem_nil) hd.root h

/-- A path is located where it is resolved to. -/
theorem Disk.locate_eq_ok {d : Disk} {p q : Path} (h : d.locate p = .ok q) : q = d.resolve p := by
  unfold Disk.locate at h
  split_ifs at h
  exact (Except.ok.inj h).symm

/-- The absolute form of a path that is read from a text has only names as parts. -/
theorem Disk.WellFormed.resolve_ofString {d : Disk} (hd : d.WellFormed) (s : String) :
    ∀ n ∈ (d.resolve (ofString s)).parts, IsName n :=
  Disk.resolve_names hd.current fun _ hn hup => isName_of_mem_partsOf hn hup

end Codebook
