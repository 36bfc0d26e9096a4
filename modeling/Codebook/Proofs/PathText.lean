import Mathlib
import Codebook.Disk

/-!
# Paths and their texts

A walk hands on the directories it meets as texts, and a search makes paths out of them again. Both
directions agree as long as every part is the name of an entry: `ofString_toString` reads the text
of an absolute path back, and `joinText_toString` says that joining texts is going down one name.

`Disk.resolve_names` is why this applies to a search: the absolute form of a path has only names as
parts, for `straighten` has removed every `..` and reading a text leaves no other odd part.
-/

namespace Codebook

open Text

/-! ## Cutting at slashes -/

/-- `Text.split` is the library's `splitOn`. -/
lemma Text.split_eq_splitOn (sep : Char) (cs : List Char) : split sep cs = cs.splitOn sep := by
  induction cs with
  | nil => simp [split]
  | cons c cs ih =>
    rw [split, List.splitOn_cons_eq_if_modifyHead, ih]
    by_cases h : c == sep
    · simp [h]
    · rcases hs : cs.splitOn sep with _ | ⟨p, ps⟩
      · exact absurd hs (List.splitOn_ne_nil sep cs)
      · simp [h]

/-- No piece holds the character at which the text is cut. -/
lemma Text.not_mem_of_mem_split {sep : Char} :
    ∀ {cs p : List Char}, p ∈ split sep cs → sep ∉ p
  | [], p, hp => by
    simp only [split, List.mem_singleton] at hp
    simp [hp]
  | c :: cs, p, hp => by
    rw [split] at hp
    split_ifs at hp with hc
    · rcases List.mem_cons.mp hp with rfl | hp
      · exact List.not_mem_nil
      · exact not_mem_of_mem_split hp
    · have hcs : c ≠ sep := by simpa using hc
      -- only the first piece grows by `c`, the others are pieces of the rest
      rcases hs : split sep cs with _ | ⟨q, qs⟩
      · rw [hs] at hp
        simp only [List.mem_singleton] at hp
        simp [hp, hcs.symm]
      · rw [hs] at hp
        have hq : ∀ r ∈ q :: qs, sep ∉ r := fun r hr => not_mem_of_mem_split (by rw [hs]; exact hr)
        rcases List.mem_cons.mp hp with rfl | hp
        · simp [hcs.symm, hq q List.mem_cons_self]
        · exact hq p (List.mem_cons_of_mem _ hp)

namespace Path

/-! ## Names -/

/-- A text that can be the name of an entry of a directory. -/
structure IsName (n : String) : Prop where
  ne_empty : n ≠ ""
  ne_dot : n ≠ "."
  ne_up : n ≠ ".."
  no_slash : '/' ∉ n.toList

instance (n : String) : Decidable (IsName n) :=
  decidable_of_iff (n ≠ "" ∧ n ≠ "." ∧ n ≠ ".." ∧ '/' ∉ n.toList)
    ⟨fun h => ⟨h.1, h.2.1, h.2.2.1, h.2.2.2⟩, fun h => ⟨h.1, h.2, h.3, h.4⟩⟩

/-- The path that leads on from `p` through the given names. -/
def below (p : Path) (names : List String) : Path :=
  ⟨p.anchor, p.parts ++ names⟩

@[simp] theorem below_nil (p : Path) : p.below [] = p := by simp [below]

@[simp] theorem below_anchor (p : Path) (ns : List String) : (p.below ns).anchor = p.anchor := rfl

@[simp] theorem below_parts (p : Path) (ns : List String) :
    (p.below ns).parts = p.parts ++ ns := rfl

/-- Further parts can be added one after the other. -/
theorem below_below (p : Path) (ns ms : List String) :
    (p.below ns).below ms = p.below (ns ++ ms) := by
  simp [below]

/-- Different parts lead to different paths. -/
theorem below_injective (p : Path) : Function.Injective p.below := by
  intro ns ms h
  simpa [below] using h

/-- The parts that reading a text gives are names or `..`. -/
theorem isName_of_mem_partsOf {cs : List Char} {n : String} (h : n ∈ partsOf cs) (hup : n ≠ "..") :
    IsName n := by
  simp only [partsOf, List.mem_map, List.mem_filter, Bool.and_eq_true, bne_iff_ne, ne_eq] at h
  obtain ⟨p, ⟨hp, hne, hdot⟩, rfl⟩ := h
  refine ⟨?_, ?_, hup, ?_⟩
  · intro he
    rw [← String.toList_inj] at he
    simp only [String.toList_ofList] at he
    simp [he] at hne
  · intro he
    rw [← String.toList_inj] at he
    simp only [String.toList_ofList] at he
    exact hdot he
  · rw [String.toList_ofList]
    exact not_mem_of_mem_split hp

/-! ## Reading a text back -/

/-- The characters of an absolute path. -/
theorem toList_toString {p : Path} (ha : p.anchor = .root) :
    p.toString.toList = '/' :: ['/'].intercalate (p.parts.map String.toList) := by
  obtain ⟨a, ps⟩ := p
  subst ha
  simp [toString, Anchor.text]

/-- A name starts with a character, and that is no slash. -/
theorem IsName.toList_eq_cons {n : String} (h : IsName n) :
    ∃ c cs, n.toList = c :: cs ∧ c ≠ '/' := by
  rcases hn : n.toList with _ | ⟨c, cs⟩
  · exact absurd (String.toList_eq_nil_iff.mp hn) h.ne_empty
  · refine ⟨c, cs, rfl, fun hc => h.no_slash ?_⟩
    rw [hn, hc]
    exact List.mem_cons_self

/-- Names joined by slashes do not start with a slash. -/
theorem head?_intercalate_ne_slash :
    ∀ {ps : List String}, (∀ n ∈ ps, IsName n) →
      (['/'].intercalate (ps.map String.toList)).head? ≠ some '/'
  | [], _ => by simp
  | n :: ps, hn => by
    obtain ⟨c, cs, hc, hne⟩ := (hn n List.mem_cons_self).toList_eq_cons
    rcases ps with _ | ⟨m, ps⟩
    · simp [hc, hne]
    · simp [hc, hne, List.intercalate_cons_cons]

/-- A full path is read as one. -/
theorem anchorOf_toString {p : Path} (ha : p.anchor = .root) (hn : ∀ n ∈ p.parts, IsName n) :
    anchorOf p.toString.toList = .root := by
  have hhead := head?_intercalate_ne_slash hn
  rw [toList_toString ha]
  rcases hr : ['/'].intercalate (p.parts.map String.toList) with _ | ⟨c, cs⟩
  · rfl
  · rw [hr] at hhead
    have hc : c ≠ '/' := by simpa using hhead
    simp [anchorOf, hc]

/-- Its parts are read back. -/
theorem partsOf_toString {p : Path} (ha : p.anchor = .root) (hn : ∀ n ∈ p.parts, IsName n) :
    partsOf p.toString.toList = p.parts := by
  rw [toList_toString ha, partsOf, split]
  simp only [beq_self_eq_true, if_true]
  rcases hp : p.parts with _ | ⟨m, ps⟩
  · rfl
  · -- cutting gives the names back, and none of them is left out
    have hslash : ∀ l ∈ (m :: ps).map String.toList, '/' ∉ l := by
      intro l hl
      obtain ⟨n, hmem, rfl⟩ := List.mem_map.mp hl
      exact (hn n (hp ▸ hmem)).no_slash
    have hcut : split '/' (['/'].intercalate ((m :: ps).map String.toList)) =
        (m :: ps).map String.toList := by
      rw [split_eq_splitOn]
      exact List.splitOn_intercalate '/' hslash (by simp)
    have hkept : ∀ l ∈ (m :: ps).map String.toList, (!l.isEmpty && l != ['.']) = true := by
      intro l hl
      obtain ⟨n, hmem, rfl⟩ := List.mem_map.mp hl
      have hname := hn n (hp ▸ hmem)
      have hdot : n.toList ≠ ['.'] := fun he => hname.ne_dot (String.toList_inj.mp he)
      have hempty : n.toList ≠ [] := fun he => hname.ne_empty (String.toList_eq_nil_iff.mp he)
      simp [hempty, hdot]
    rw [hcut, List.filter_cons_of_neg (by simp), List.filter_eq_self.mpr hkept, List.map_map]
    simp [Function.comp_def]

/-- The text of an absolute path whose parts are names is read back as that path. -/
theorem ofString_toString {p : Path} (ha : p.anchor = .root) (hn : ∀ n ∈ p.parts, IsName n) :
    ofString p.toString = p := by
  obtain ⟨a, ps⟩ := p
  rw [ofString, anchorOf_toString ha hn, partsOf_toString ha hn, ← ha]

/-! ## Going down one name -/

/-- Below the root itself a name follows directly. -/
theorem toString_below_of_nil {p : Path} (ha : p.anchor = .root) (hp : p.parts = []) (n : String) :
    (p.below [n]).toString = p.toString ++ n := by
  obtain ⟨a, ps⟩ := p
  subst ha hp
  simp [below, toString, Anchor.text]

/-- Below any other directory a slash stands before the name. -/
theorem toString_below_of_ne_nil {p : Path} (ha : p.anchor = .root) (hp : p.parts ≠ [])
    (n : String) : (p.below [n]).toString = p.toString ++ "/" ++ n := by
  obtain ⟨a, ps⟩ := p
  subst ha
  have hj := String.intercalate_append_of_ne_nil (s := "/") hp (List.cons_ne_nil n [])
  simp only [String.intercalate_singleton] at hj
  simp [below, toString, Anchor.text, hj, String.append_assoc]

/-- The text of an absolute path ends with its last name. -/
theorem toList_toString_of_concat {p : Path} (ha : p.anchor = .root) {qs : List String} {m : String}
    (hp : p.parts = qs ++ [m]) : ∃ t, p.toString.toList = t ++ m.toList := by
  have hq : p = (⟨.root, qs⟩ : Path).below [m] := by
    obtain ⟨a, ps⟩ := p
    simp only at ha hp
    rw [ha, hp, below]
  by_cases hnil : qs = []
  · refine ⟨(⟨.root, qs⟩ : Path).toString.toList, ?_⟩
    rw [hq, toString_below_of_nil rfl hnil, String.toList_append]
  · refine ⟨((⟨.root, qs⟩ : Path).toString ++ "/").toList, ?_⟩
    rw [hq, toString_below_of_ne_nil rfl hnil, String.toList_append]

/-- The text of an absolute path ends with a slash only if it is the root. -/
theorem endsWith_slash_iff {p : Path} (ha : p.anchor = .root) (hn : ∀ n ∈ p.parts, IsName n) :
    p.toString.endsWith "/" = true ↔ p.parts = [] := by
  rw [String.endsWith_eq_endsWith_toSlice, String.Slice.endsWith_string_iff, String.copy_toSlice]
  constructor
  · intro hsuf
    by_contra hp
    -- the text ends with the last name, which would have to end with the slash
    obtain ⟨qs, m, hq⟩ := (List.eq_nil_or_concat' p.parts).resolve_left hp
    have hm : IsName m := hn m (by simp [hq])
    obtain ⟨t, ht⟩ := toList_toString_of_concat ha hq
    obtain ⟨u, hu⟩ := hsuf
    have hlast : (t ++ m.toList).getLast? = some '/' := by
      rw [← ht, ← hu]
      simp
    obtain ⟨c, cs, hc, -⟩ := hm.toList_eq_cons
    rw [List.getLast?_append_of_ne_nil _ (by simp [hc])] at hlast
    exact hm.no_slash (List.mem_of_getLast? hlast)
  · intro hp
    rw [toList_toString ha, hp]
    simp

/-- Joining the text of an absolute path with a name is going down that name. -/
theorem joinText_toString {p : Path} {n : String} (ha : p.anchor = .root)
    (hp : ∀ m ∈ p.parts, IsName m) (hn : IsName n) :
    joinText p.toString n = (p.below [n]).toString := by
  have hstart : n.startsWith "/" = false := by
    obtain ⟨c, cs, hc, hne⟩ := hn.toList_eq_cons
    rw [String.startsWith_string_eq_false_iff, hc]
    simp [hne.symm]
  have hempty : p.toString.isEmpty = false := by
    rw [String.isEmpty_eq_false_iff, ne_eq, ← String.toList_eq_nil_iff, toList_toString ha]
    simp
  have hslash := endsWith_slash_iff ha hp
  unfold joinText
  simp only [hstart, hempty, Bool.false_or, Bool.false_eq_true, if_false]
  by_cases hroot : p.parts = []
  · rw [if_pos (hslash.mpr hroot), toString_below_of_nil ha hroot]
  · rw [if_neg (fun h => hroot (hslash.mp h)), toString_below_of_ne_nil ha hroot]

/-- An entry called by a name is one name further down. -/
theorem child_eq_below {p : Path} {n : String} (hn : IsName n) : p.child n = p.below [n] := by
  obtain ⟨c, cs, hc, hne⟩ := hn.toList_eq_cons
  have hanchor : anchorOf n.toList = .here := by
    rw [hc]
    simp [anchorOf, hne]
  have hdot : n.toList ≠ ['.'] := fun he => hn.ne_dot (String.toList_inj.mp he)
  have hparts : partsOf n.toList = [n] := by
    rw [partsOf, split_eq_splitOn, List.splitOn_eq_singleton hn.no_slash]
    have hempty : n.toList ≠ [] := by simp [hc]
    simp [hempty, hdot]
  rw [child, join, ofString, hanchor]
  simp [hparts, below]

end Path

/-! ## Absolute forms -/

namespace Disk

open Codebook.Path

/-- What is left after going up has only names. -/
theorem straighten_names :
    ∀ (done ns : List String), (∀ n ∈ done, IsName n) → (∀ n ∈ ns, n ≠ ".." → IsName n) →
      ∀ n ∈ straighten done ns, IsName n
  | done, [], hd, _, n, h => hd n (by simpa [straighten] using h)
  | done, m :: ns, hd, hs, n, h => by
    rw [straighten] at h
    have hrest : ∀ k ∈ ns, k ≠ ".." → IsName k := fun k hk => hs k (List.mem_cons_of_mem _ hk)
    split_ifs at h with hm
    · exact straighten_names done.tail ns (fun k hk => hd k (List.mem_of_mem_tail hk)) hrest n h
    · have hname : IsName m := hs m List.mem_cons_self (by simpa using hm)
      refine straighten_names (m :: done) ns (fun k hk => ?_) hrest n h
      rcases List.mem_cons.mp hk with rfl | hk
      · exact hname
      · exact hd k hk

/-- Names alone stay as they are. -/
theorem straighten_of_names :
    ∀ (done ns : List String), (∀ n ∈ ns, IsName n) → straighten done ns = done.reverse ++ ns
  | done, [], _ => by simp [straighten]
  | done, m :: ns, hs => by
    have hm : m ≠ ".." := (hs m List.mem_cons_self).ne_up
    rw [straighten, if_neg (by simpa using hm),
      straighten_of_names (m :: done) ns fun k hk => hs k (List.mem_cons_of_mem _ hk)]
    simp

@[simp] theorem resolve_anchor (d : Disk) (p : Path) : (d.resolve p).anchor = .root := rfl

/-- The absolute form of a path has only names as parts. -/
theorem resolve_names {d : Disk} {p : Path} (hd : ∀ n ∈ d.current, IsName n)
    (hp : ∀ n ∈ p.parts, n ≠ ".." → IsName n) : ∀ n ∈ (d.resolve p).parts, IsName n := by
  refine straighten_names [] (d.route p) (fun n hn => absurd hn List.not_mem_nil) ?_
  intro n hn hup
  unfold route at hn
  split at hn
  · rcases List.mem_append.mp hn with hn | hn
    · exact hd n hn
    · exact hp n hn hup
  · exact hp n hn hup

/-- An absolute path with only names as parts is its own absolute form. -/
theorem resolve_eq_self (d : Disk) {p : Path} (ha : p.anchor = .root)
    (hp : ∀ n ∈ p.parts, IsName n) : d.resolve p = p := by
  obtain ⟨a, ps⟩ := p
  simp only at ha
  subst ha
  simp [resolve, route, straighten_of_names [] ps hp]

end Disk

/-! ## Suffixes -/

namespace Path

/-- What stands after the last dot of a name is its end. -/
theorem cutName_suffix (cs : List Char) : (cutName cs).2 <:+ cs := by
  unfold cutName
  dsimp only
  split
  · exact List.nil_suffix
  · rename_i hcut
    simp only [Bool.or_eq_true, List.isEmpty_iff, not_or] at hcut
    rw [← List.reverse_prefix, List.reverse_cons, List.reverse_reverse]
    have hsplit := List.takeWhile_append_dropWhile (p := (· != '.')) (l := cs.reverse)
    cases hrest : cs.reverse.dropWhile (· != '.') with
    | nil =>
      rw [hrest, List.append_nil] at hsplit
      refine absurd ?_ hcut.1
      rw [hsplit]
      simp
    | cons c rest =>
      have hdot : c = '.' := by
        have hhead := List.head?_dropWhile_not (· != '.') cs.reverse
        rw [hrest] at hhead
        simpa using hhead
      rw [hrest, hdot] at hsplit
      exact ⟨rest, by rw [List.append_assoc]; exact hsplit⟩

/-- Joined parts end with the last one. -/
theorem suffix_intercalate {sep n : List Char} :
    ∀ {parts : List (List Char)}, parts.getLast? = some n → n <:+ sep.intercalate parts
  | [], h => by cases h
  | [p], h => by
    cases h
    simp
  | p :: q :: parts, h => by
    have hq : (q :: parts).getLast? = some n := by simpa using h
    rw [List.intercalate_cons_cons]
    exact (suffix_intercalate hq).trans (List.suffix_append _ _)

/-- The text of a path ends with the suffix of its name. -/
theorem suffix_toString (p : Path) : p.suffix.toList <:+ p.toString.toList := by
  obtain ⟨anchor, parts⟩ := p
  rw [suffix, String.toList_ofList]
  cases hlast : parts.getLast? with
  | none =>
    have hname : (⟨anchor, parts⟩ : Path).name = "" := by simp [name, hlast]
    rw [hname]
    exact List.nil_suffix
  | some n =>
    have hname : (⟨anchor, parts⟩ : Path).name = n := by simp [name, hlast]
    have htext : (⟨anchor, parts⟩ : Path).toString = anchor.text ++ "/".intercalate parts := by
      cases parts with
      | nil => cases hlast
      | cons q parts => cases anchor <;> rfl
    rw [hname, htext, String.toList_append, String.toList_intercalate]
    refine (cutName_suffix _).trans ((suffix_intercalate ?_).trans (List.suffix_append _ _))
    rw [List.getLast?_map, hlast]
    rfl

/-- A path with the suffix of sources ends with it. -/
theorem endsWith_of_suffix {p : Path} (h : p.suffix = ".py") : p.toString.endsWith ".py" = true := by
  rw [String.endsWith_eq_endsWith_toSlice, String.Slice.endsWith_string_iff, String.copy_toSlice, ← h]
  exact p.suffix_toString

end Path

end Codebook
