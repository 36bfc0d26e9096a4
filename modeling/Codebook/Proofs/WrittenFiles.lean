import Mathlib
import Codebook.Disk

/-!
# Files that are written

A file that was written is found again under the same path, with the bytes that were written. The path
may go up and down on its way, while the file is put at the end of the names that are left once each
`..` has taken one away.

* `Disk.Reached`: the names from the root to a tree, with the directories on the way. Following a path
  keeps track of them (`Reached.follow`).
* `Reached.put`: what is reached once a file is put in a directory. All directories are still there, so
  that a path that could be followed before can be followed again (`follow_of_reached`).
* `Disk.get_put`, `Disk.get_create`: what a path leads to after a file was written, or only opened.
-/

namespace Codebook

/-- What is found among entries after one is put in its place. -/
theorem Tree.find?_putEntry (name : String) (t : Tree) (es : List (String × Tree)) (m : String) :
    (putEntry name t es).find? (·.1 == m) =
      if name = m then some (name, t) else es.find? (·.1 == m) := by
  induction es with
  | nil => by_cases h : name = m <;> simp [putEntry, h]
  | cons e es ih =>
    obtain ⟨n, u⟩ := e
    by_cases hn : (name == n) = true
    · obtain rfl : name = n := by simpa using hn
      rw [putEntry, if_pos hn]
      by_cases h : name = m <;> simp [h]
    · rw [putEntry, if_neg hn]
      by_cases hlt : name < n
      · rw [if_pos hlt]
        by_cases h : name = m <;> simp [h]
      · rw [if_neg hlt]
        by_cases h : n = m
        · have hne : name ≠ m := fun heq => hn (by simp [heq, h])
          simp [h, hne]
        · rw [List.find?_cons_of_neg (by simpa using h), ih, List.find?_cons_of_neg (by simpa using h)]

namespace Disk

/-! ## Trees on the way -/

/-- The names from the root to a tree, last first, and the directories on the way to it, nearest
first. -/
inductive Reached (root : Tree) : List String → List Tree → Tree → Prop
  | root : Reached root [] [] root
  | entry {done : List String} {above : List Tree} {es : List (String × Tree)} {n : String} {u : Tree}
      (h : Reached root done above (.dir es)) (hn : n ≠ "..")
      (hfind : es.find? (·.1 == n) = some (n, u)) : Reached root (n :: done) (.dir es :: above) u

namespace Reached

variable {root : Tree} {done : List String} {above : List Tree} {t : Tree}

/-- Names lead to one tree by one way. -/
theorem unique (h : Reached root done above t) {above' : List Tree} {t' : Tree}
    (h' : Reached root done above' t') : above = above' ∧ t = t' := by
  induction h generalizing above' t' with
  | root =>
    cases h'
    exact ⟨rfl, rfl⟩
  | entry h hn hfind ih =>
    cases h' with
    | entry h' hn' hfind' =>
      obtain ⟨rfl, heq⟩ := ih h'
      cases heq
      have hsame := hfind.symm.trans hfind'
      simp only [Option.some.injEq, Prod.mk.injEq, true_and] at hsame
      exact ⟨rfl, hsame⟩

/-- Following names leads on from what was reached. What is followed after them is followed from
there. -/
theorem follow (h : Reached root done above t) {ns : List String} {u : Tree}
    (hu : Disk.follow above t ns = .ok u) :
    ∃ above', Reached root (straighten done ns).reverse above' u ∧
      ∀ ms, Disk.follow above t (ns ++ ms) = Disk.follow above' u ms ∧
        straighten done (ns ++ ms) = straighten (straighten done ns).reverse ms := by
  induction ns generalizing done above t with
  | nil =>
    obtain rfl := Except.ok.inj hu
    exact ⟨above, by simpa [straighten] using h, fun ms => by simp [straighten]⟩
  | cons n ns ih =>
    cases t with
    | file bytes => simp [Disk.follow] at hu
    | dir es =>
      by_cases hn : n = ".."
      · subst hn
        cases h with
        | root => exact ih .root hu
        | entry h hn' hfind => exact ih h hu
      · cases hfind : es.find? (·.1 == n) with
        | none => simp [Disk.follow, hn, hfind] at hu
        | some e =>
          obtain ⟨m, u'⟩ := e
          obtain rfl : m = n := by simpa using List.find?_some hfind
          simp only [Disk.follow, straighten, beq_iff_eq, if_neg hn, hfind, List.cons_append] at hu ⊢
          exact ih (.entry h hn hfind) hu

/-- What is reached once `new` is put at the names `target`, where there is no directory: the same as
before, unless `target` is further down. -/
theorem put {new : Tree} {target : List String}
    (htarget : ∀ above' es, ¬ Reached root target.reverse above' (.dir es))
    (h : Reached root done above t) :
    (∀ rest, done.reverse ++ rest = target →
      ∃ above', Reached (new.put target root) done above' (new.put rest t)) ∧
    ((∀ rest, done.reverse ++ rest ≠ target) →
      ∃ above', Reached (new.put target root) done above' t) := by
  induction h with
  | root =>
    refine ⟨?_, fun hne => absurd rfl (hne target)⟩
    rintro rest rfl
    exact ⟨[], .root⟩
  | @entry done above es n u h hn hfind ih =>
    -- `target` goes on through this entry or through another one, or leads elsewhere
    by_cases hdone : ∃ rest, done.reverse ++ rest = target
    · obtain ⟨rest, hrest⟩ := hdone
      rcases rest with _ | ⟨m, rest⟩
      · rw [← hrest, List.append_nil, List.reverse_reverse] at htarget
        exact absurd h (htarget above es)
      · obtain ⟨above', hput⟩ := ih.1 _ hrest
        have hbelow : ((((Tree.dir es).entries.find? (·.1 == m)).map (·.2)).getD Tree.empty) =
            (((es.find? (·.1 == m)).map (·.2)).getD Tree.empty) := rfl
        by_cases hm : m = n
        · subst hm
          have hentry : (Tree.putEntry m (new.put rest u) es).find? (·.1 == m) =
              some (m, new.put rest u) := by
            rw [Tree.find?_putEntry, if_pos rfl]
          rw [Tree.put, hbelow, hfind] at hput
          refine ⟨?_, fun hne => absurd (by simpa using hrest) (hne rest)⟩
          intro rest' hrest'
          obtain rfl : rest' = rest := by
            simpa [← hrest] using hrest'
          exact ⟨_, .entry hput hn hentry⟩
        · have hentry : (Tree.putEntry m (new.put rest (((es.find? (·.1 == m)).map (·.2)).getD
              Tree.empty)) es).find? (·.1 == n) = some (n, u) := by
            rw [Tree.find?_putEntry, if_neg hm, hfind]
          rw [Tree.put, hbelow] at hput
          refine ⟨?_, fun _ => ⟨_, .entry hput hn hentry⟩⟩
          intro rest' hrest'
          rw [← hrest] at hrest'
          exact absurd (by simpa using hrest' : n = m ∧ rest' = rest).1.symm hm
    · have hnot : ∀ rest, done.reverse ++ rest ≠ target := fun rest hrest => hdone ⟨rest, hrest⟩
      obtain ⟨above', hsame⟩ := ih.2 hnot
      refine ⟨?_, fun _ => ⟨_, .entry hsame hn hfind⟩⟩
      intro rest hrest
      exact absurd (by simpa using hrest) (hnot (n :: rest))

end Reached

/-- Where all directories are still there, a path that could be followed can be followed again, and
leads to what is there now. -/
theorem follow_of_reached {root root' : Tree}
    (hdirs : ∀ done above es, Reached root done above (.dir es) →
      ∃ above' es', Reached root' done above' (.dir es'))
    {ns done : List String} {above above' above'' : List Tree} {t t' u u' : Tree}
    (h : Reached root done above t) (h' : Reached root' done above' t')
    (hu : follow above t ns = .ok u)
    (hu' : Reached root' (straighten done ns).reverse above'' u') :
    follow above' t' ns = .ok u' := by
  induction ns generalizing done above above' t t' with
  | nil =>
    rw [straighten, List.reverse_reverse] at hu'
    rw [follow, (h'.unique hu').2]
  | cons n ns ih =>
    cases t with
    | file bytes => simp [follow] at hu
    | dir es =>
      obtain ⟨_, es', hes'⟩ := hdirs _ _ _ h
      obtain ⟨rfl, rfl⟩ := h'.unique hes'
      by_cases hn : n = ".."
      · subst hn
        cases h with
        | root =>
          cases h'
          exact ih .root .root hu hu'
        | entry h hn hfind =>
          cases h' with
          | entry h' hn' hfind' => exact ih h h' hu hu'
      · cases hfind : es.find? (·.1 == n) with
        | none => simp [follow, hn, hfind] at hu
        | some e =>
          obtain ⟨m, x⟩ := e
          obtain rfl : m = n := by simpa using List.find?_some hfind
          simp only [follow, straighten, beq_iff_eq, if_neg hn, hfind] at hu hu' ⊢
          have hx : Reached root (m :: done) (.dir es :: above) x := .entry h hn hfind
          -- a file is the end of the path, so that it is known what is there now
          obtain ⟨bs, x', hx'⟩ : ∃ bs x', Reached root' (m :: done) bs x' := by
            cases x with
            | dir fs =>
              obtain ⟨bs, fs', hfs'⟩ := hdirs _ _ _ hx
              exact ⟨bs, _, hfs'⟩
            | file bytes =>
              cases ns with
              | nil => exact ⟨_, _, by simpa [straighten] using hu'⟩
              | cons k ns => simp [follow] at hu
          cases hx' with
          | entry hdir _ hfind' =>
            obtain ⟨rfl, heq⟩ := hdir.unique hes'
            cases heq
            rw [hfind']
            exact ih hx (.entry hes' hn hfind') hu hu'

/-- After a file was put in a directory, in the place of a file or of nothing, all directories are still
there and the file is reached. -/
theorem reached_put {root : Tree} {done : List String} {above : List Tree}
    {es : List (String × Tree)} (h : Reached root done above (.dir es)) {n : String} (hn : n ≠ "..")
    (hfile : ∀ fs, es.find? (·.1 == n) ≠ some (n, .dir fs)) (new : Tree) :
    let root' := new.put (n :: done).reverse root
    (∀ done above es, Reached root done above (.dir es) →
      ∃ above' es', Reached root' done above' (.dir es')) ∧
    ∃ above', Reached root' (n :: done) above' new := by
  intro root'
  have htarget : ∀ above' fs, ¬ Reached root (n :: done).reverse.reverse above' (.dir fs) := by
    intro above' fs hfs
    rw [List.reverse_reverse] at hfs
    cases hfs with
    | entry h' _ hfind =>
      cases (h.unique h').2
      exact hfile fs hfind
  refine ⟨?_, ?_⟩
  · intro done' above' fs hfs
    by_cases hdone : ∃ rest, done'.reverse ++ rest = (n :: done).reverse
    · obtain ⟨rest, hrest⟩ := hdone
      obtain ⟨bs, hput⟩ := (hfs.put htarget).1 rest hrest
      rcases rest with _ | ⟨m, rest⟩
      · rw [← hrest, List.append_nil, List.reverse_reverse] at htarget
        exact absurd hfs (htarget _ _)
      · exact ⟨bs, _, hput⟩
    · obtain ⟨bs, hput⟩ := (hfs.put htarget).2 fun rest hrest => hdone ⟨rest, hrest⟩
      exact ⟨bs, fs, hput⟩
  · obtain ⟨bs, hput⟩ := (h.put htarget).1 [n] (by simp)
    exact ⟨_, .entry hput hn (by rw [Tree.find?_putEntry, if_pos rfl]; rfl)⟩

/-- A path that leads to a file, or to no entry of a directory, leads to the file that is put at its
end. -/
theorem follow_put {root : Tree} {ns : List String} (bytes : List UInt8)
    (h : (∃ bs, follow [] root ns = .ok (.file bs)) ∨
      ∃ ms n u, ns = ms ++ [n] ∧ follow [] root ms = .ok u ∧ follow [] root ns = .error .missing) :
    follow [] ((Tree.file bytes).put (straighten [] ns) root) ns = .ok (.file bytes) := by
  rcases h with ⟨bs, hbs⟩ | ⟨ms, n, u, rfl, hu, hmissing⟩
  · obtain ⟨above, hreached, -⟩ := Reached.follow .root hbs
    cases hdone : (straighten [] ns).reverse with
    | nil =>
      rw [hdone] at hreached
      cases hreached with
      | root =>
        cases ns with
        | nil => rfl
        | cons n ns => simp [follow] at hbs
    | cons n done =>
      rw [hdone] at hreached
      cases hreached with
      | entry hdir hn hfind =>
        obtain ⟨hdirs, _, hnew⟩ := reached_put hdir hn (by simp [hfind]) (.file bytes)
        rw [← hdone, List.reverse_reverse] at hdirs hnew
        exact follow_of_reached hdirs .root .root hbs hnew
  · -- a new entry of the last directory
    obtain ⟨above, hreached, happend⟩ := Reached.follow .root hu
    obtain ⟨hfollow, hstraight⟩ := happend [n]
    rw [hfollow] at hmissing
    cases u with
    | file bs => simp [follow] at hmissing
    | dir es =>
      have hn : n ≠ ".." := by
        rintro rfl
        cases above <;> simp [follow] at hmissing
      have hnone : es.find? (·.1 == n) = none := by
        cases hfind : es.find? (·.1 == n) with
        | none => rfl
        | some e => simp [follow, hn, hfind] at hmissing
      have htarget : straighten [] (ms ++ [n]) = (n :: (straighten [] ms).reverse).reverse := by
        simp [hstraight, straighten, hn]
      obtain ⟨hdirs, _, hnew⟩ := reached_put hreached hn (by simp [hnone]) (.file bytes)
      rw [← htarget] at hdirs hnew
      cases hnew with
      | entry hdir _ hfind =>
        have hms := follow_of_reached hdirs .root .root hu hdir
        obtain ⟨above', -, happend'⟩ := Reached.follow .root hms
        rw [(happend' [n]).1]
        simp [follow, hn, hfind]

/-- A file can be opened where there is one, or where an entry of a directory is missing. -/
theorem create_eq_ok {d opened : Disk} {p : Path} (h : d.create p = .ok opened) :
    (∃ bs, d.get p = .ok (.file bs)) ∨
      d.get p = .error .missing ∧ ∃ u, d.get ⟨p.anchor, p.parts.dropLast⟩ = .ok u := by
  unfold create at h
  split at h
  · cases h
  · exact .inl ⟨_, by assumption⟩
  · rename_i hmissing
    split at h
    · exact .inr ⟨hmissing, _, by assumption⟩
    · cases h
  · cases h

/-- Whether a path can be followed at all does not depend on the disk. -/
theorem get_eq_follow {d : Disk} {p : Path}
    (h : (∃ u, d.get p = .ok u) ∨ d.get p = .error .missing) (d' : Disk) :
    d'.get p = follow [] d'.root (d'.route p) := by
  unfold get at h ⊢
  split_ifs at h ⊢ with hnull hlong
  · simp at h
  · simp at h
  · rfl

/-- Where a file can be opened, the path leads to what is put at its end. -/
theorem get_put {d opened : Disk} {p : Path} (h : d.create p = .ok opened) (bytes : List UInt8) :
    ({ d with root := (Tree.file bytes).put (d.resolve p).parts d.root } : Disk).get p =
      .ok (.file bytes) := by
  have hfollow : ∀ d'' : Disk, d''.get p = follow [] d''.root (d''.route p) := by
    refine get_eq_follow (d := d) ?_
    rcases create_eq_ok h with ⟨bs, hbs⟩ | ⟨hmissing, -⟩
    · exact .inl ⟨_, hbs⟩
    · exact .inr hmissing
  rw [hfollow]
  refine follow_put bytes ?_
  rcases create_eq_ok h with ⟨bs, hbs⟩ | ⟨hmissing, u, hu⟩
  · exact .inl ⟨bs, by rw [← hfollow]; exact hbs⟩
  · right
    rcases List.eq_nil_or_concat p.parts with hnil | ⟨qs, n, hparts⟩
    · have hself : (⟨p.anchor, p.parts.dropLast⟩ : Path) = p := by
        rw [hnil, List.dropLast_nil, ← hnil]
      rw [hself, hmissing] at hu
      cases hu
    · have hroute : d.route p = d.route ⟨p.anchor, p.parts.dropLast⟩ ++ [n] := by
        rw [route, route]
        cases p.anchor <;> simp [hparts]
      refine ⟨_, n, u, hroute, ?_, by rw [← hfollow]; exact hmissing⟩
      rw [← get_eq_follow (.inl ⟨u, hu⟩)]
      exact hu

/-- A file that was opened for writing is empty. -/
theorem get_create {d opened : Disk} {p : Path} (h : d.create p = .ok opened) :
    opened.get p = .ok (.file []) := by
  have hopened : opened = { d with root := (Tree.file []).put (d.resolve p).parts d.root } := by
    have h' := h
    unfold create at h'
    split at h'
    · cases h'
    · exact (Except.ok.inj h').symm
    · split at h'
      · exact (Except.ok.inj h').symm
      · cases h'
    · cases h'
  rw [hopened]
  exact get_put h []

/-- A text with an encoding is written to a file that can be opened. -/
theorem write_of_encode {d opened : Disk} {p : Path} {text : String} {bytes : List UInt8}
    (h : d.create p = .ok opened) (hbytes : Text.encode? text = .ok bytes) :
    d.write p text =
      (none, { d with root := (Tree.file bytes).put (d.resolve p).parts d.root }) := by
  simp only [write, h, hbytes]

/-- A text without an encoding leaves the file as it was opened. -/
theorem write_of_unencodable {d opened : Disk} {p : Path} {text : String} {f : Text.EncodeFailure}
    (h : d.create p = .ok opened) (hf : Text.encode? text = .error f) :
    d.write p text = (some (.unencodable f), opened) := by
  simp only [write, h, hf]

end Disk

end Codebook
