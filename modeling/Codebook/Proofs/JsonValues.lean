import Mathlib
import Codebook.Proofs.JsonReading

/-!
# Values as JSON text

A value is written by going through what it is built from, and read back in the same way. What comes
back is `Datum.plain`, the value with names for capabilities at any depth. `Within` says that a
value stands somewhere in another one; `Datum.nested` is the induction that goes with it.

* `mem_faults_iff`: what cannot be written is found wherever it stands.
* `depth_le_of_within`: a value is at least as deep as all that is in it.
* `isAscii_jsonText`: what is written is ASCII.
* `reads_of_sound`, `decode_jsonText`: what is written is read back, if no name stands twice in an
  object and no text holds two halves of one character next to each other.
-/

namespace Codebook

open Json Document

namespace Datum

/-! ## Values and what is in them -/

/-- A property of all values holds if it passes from the parts of a value on to the value. -/
@[elab_as_elim]
theorem nested {P : Datum → Prop} (null : P .null) (bool : ∀ b, P (.bool b))
    (int : ∀ n, P (.int n)) (float : ∀ x, P (.float x)) (text : ∀ s, P (.text s))
    (list : ∀ ds, (∀ d ∈ ds, P d) → P (.list ds))
    (object : ∀ fs : List (String × Datum), (∀ f ∈ fs, P f.2) → P (.object fs))
    (capability : ∀ c, P (.capability c)) (unwritable : ∀ t, P (.unwritable t)) : ∀ d, P d
  | .null => null
  | .bool b => bool b
  | .int n => int n
  | .float x => float x
  | .text s => text s
  | .list ds => list ds fun d _ =>
    nested null bool int float text list object capability unwritable d
  | .object fs => object fs fun (k, d) hf =>
    have : sizeOf d < sizeOf fs := by
      have hlt := List.sizeOf_lt_of_mem hf
      rw [Prod.mk.sizeOf_spec] at hlt
      omega
    nested null bool int float text list object capability unwritable d
  | .capability c => capability c
  | .unwritable t => unwritable t

/-- The value `a` is the other one or stands in it at any depth. -/
inductive Within (a : Datum) : Datum → Prop
  | self : Within a a
  | item {d : Datum} {ds : List Datum} : d ∈ ds → Within a d → Within a (.list ds)
  | field {f : String × Datum} {fs : List (String × Datum)} :
      f ∈ fs → Within a f.2 → Within a (.object fs)

/-- A value that is not built from others. -/
def isLeaf : Datum → Bool
  | .list _ | .object _ => false
  | .null | .bool _ | .int _ | .float _ | .text _ | .capability _ | .unwritable _ => true

theorem isLeaf_text? (s : Option String) : (text? s).isLeaf = true := by
  cases s <;> rfl

/-- A leaf holds nothing but itself. -/
theorem within_leaf {a d : Datum} (h : d.isLeaf = true) : Within a d ↔ a = d := by
  constructor
  · intro hw
    cases hw with
    | self => rfl
    | item => cases h
    | field => cases h
  · rintro rfl
    exact .self

/-- A list holds itself and what its items hold. -/
theorem within_list {a : Datum} {ds : List Datum} :
    Within a (.list ds) ↔ a = .list ds ∨ ∃ d ∈ ds, Within a d := by
  constructor
  · rintro (_ | ⟨hd, h⟩ | _)
    · exact .inl rfl
    · exact .inr ⟨_, hd, h⟩
  · rintro (rfl | ⟨d, hd, h⟩)
    · exact .self
    · exact .item hd h

/-- An object holds itself and what its fields hold. -/
theorem within_object {a : Datum} {fs : List (String × Datum)} :
    Within a (.object fs) ↔ a = .object fs ∨ ∃ f ∈ fs, Within a f.2 := by
  constructor
  · rintro (_ | _ | ⟨hf, h⟩)
    · exact .inl rfl
    · exact .inr ⟨_, hf, h⟩
  · rintro (rfl | ⟨f, hf, h⟩)
    · exact .self
    · exact .field hf h

mutual

/-- A value with capabilities replaced by their names. -/
def plain : Datum → Datum
  | .null => .null
  | .bool b => .bool b
  | .int n => .int n
  | .float x => .float x
  | .text s => .text s
  | .list items => .list (plains items)
  | .object fields => .object (plainFields fields)
  | .capability c => .text c.value
  | .unwritable type => .unwritable type

def plains : List Datum → List Datum
  | [] => []
  | d :: ds => plain d :: plains ds

def plainFields : List (String × Datum) → List (String × Datum)
  | [] => []
  | (k, d) :: fs => (k, plain d) :: plainFields fs

end

/-- The items of a list are taken one by one. -/
theorem plains_eq_map (ds : List Datum) : plains ds = ds.map plain := by
  induction ds with
  | nil => rfl
  | cons d ds ih => rw [plains, ih, List.map_cons]

/-- The fields of an object are taken one by one. -/
theorem plainFields_eq_map (fs : List (String × Datum)) :
    plainFields fs = fs.map fun f => (f.1, f.2.plain) := by
  induction fs with
  | nil => rfl
  | cons f fs ih => rw [plainFields, ih, List.map_cons]

section Sound

variable {rd : Text.Reading}

/-- Names that can be the keys of one object: none occurs twice, and none splits a character. -/
def IsKeys (rd : Text.Reading) (names : List String) : Prop :=
  names.Nodup ∧ ∀ k ∈ names, Whole rd k

instance (names : List String) : Decidable (IsKeys rd names) :=
  inferInstanceAs (Decidable (_ ∧ _))

/-- Different names that split no character by halves can be keys, however texts are read. -/
theorem isKeys_of_nodup {names : List String} (hnodup : names.Nodup)
    (h : ∀ k ∈ names, Whole .halves k) : IsKeys rd names := by
  refine ⟨hnodup, fun k hk => ?_⟩
  cases rd with
  | whole => exact whole_of_whole k
  | halves => exact h k hk

/-- What a decoder can give back of a value, apart from what is in it. -/
def Fits (rd : Text.Reading) : Datum → Prop
  | .float _ => False
  | .text s => Whole rd s
  | .object fields => IsKeys rd (fields.map Prod.fst)
  | _ => True

/-- All that is in the value fits. -/
def Sound (rd : Text.Reading) (d : Datum) : Prop :=
  ∀ a, Within a d → Fits rd a

/-- A leaf is sound when it fits. -/
theorem sound_leaf {d : Datum} (h : d.isLeaf = true) : Sound rd d ↔ Fits rd d := by
  simp [Sound, within_leaf h]

/-- A text is sound when it is whole. -/
@[simp]
theorem sound_text {s : String} : Sound rd (.text s) ↔ Whole rd s :=
  sound_leaf rfl

/-- Capabilities have fixed names, which are whole. -/
@[simp]
theorem sound_capability (c : Capability) : Sound rd (.capability c) :=
  (sound_leaf rfl).mpr trivial

/-- A missing text is sound. -/
@[simp]
theorem sound_text? {s : Option String} : Sound rd (text? s) ↔ ∀ t ∈ s, Whole rd t := by
  rw [sound_leaf (isLeaf_text? s)]
  cases s <;> simp [text?, Fits]

/-- A list is sound when its items are. -/
theorem sound_list {ds : List Datum} : Sound rd (.list ds) ↔ ∀ d ∈ ds, Sound rd d := by
  constructor
  · exact fun h d hd a ha => h a (.item hd ha)
  · intro h a ha
    rcases within_list.mp ha with rfl | ⟨d, hd, hw⟩
    · trivial
    · exact h d hd a hw

/-- An object is sound when its names can be keys and its values are sound. -/
theorem sound_object {fs : List (String × Datum)} :
    Sound rd (.object fs) ↔ IsKeys rd (fs.map Prod.fst) ∧ ∀ f ∈ fs, Sound rd f.2 := by
  constructor
  · exact fun h => ⟨h _ .self, fun f hf a ha => h a (.field hf ha)⟩
  · rintro ⟨hkeys, hfields⟩ a ha
    rcases within_object.mp ha with rfl | ⟨f, hf, hw⟩
    · exact hkeys
    · exact hfields f hf a hw

end Sound

end Datum

namespace Document

open Datum

variable {rd : Text.Reading}

/-- Items are written one by one. -/
theorem jsonTexts_eq_map (level : Nat) (ds : List Datum) :
    jsonTexts rd level ds = ds.map (jsonText rd level) := by
  induction ds with
  | nil => rfl
  | cons d ds ih => rw [jsonTexts, ih, List.map_cons]

/-- Fields are written one by one, each after its name. -/
theorem jsonFields_eq_map (level : Nat) (fs : List (String × Datum)) :
    jsonFields rd level fs = fs.map fun f => jsonString rd f.1 ++ ": " ++ jsonText rd level f.2 := by
  induction fs with
  | nil => rfl
  | cons f fs ih => rw [jsonFields, ih, List.map_cons]

/-! ## Values that cannot be written -/

/-- The faults of items come in the order of the items. -/
theorem faultsIn_eq (ds : List Datum) : faultsIn ds = ds.flatMap faults := by
  induction ds with
  | nil => rfl
  | cons d ds ih => rw [faultsIn, ih, List.flatMap_cons]

/-- The faults of fields come in the order of the fields. -/
theorem faultsInFields_eq (fs : List (String × Datum)) :
    faultsInFields fs = fs.flatMap fun f => faults f.2 := by
  induction fs with
  | nil => rfl
  | cons f fs ih => rw [faultsInFields, ih, List.flatMap_cons]

/-- The faults of a list are those of its items. -/
theorem faults_list (ds : List Datum) : faults (.list ds) = ds.flatMap faults := by
  rw [faults, faultsIn_eq]

/-- The faults of an object are those of its values. -/
theorem faults_object (fs : List (String × Datum)) :
    faults (.object fs) = fs.flatMap fun f => faults f.2 := by
  rw [faults, faultsInFields_eq]

/-- A leaf has one fault at most. -/
theorem faults_leaf {d : Datum} (h : d.isLeaf = true) : faults d = (fault? d).toList := by
  cases d with
  | list _ | object _ => cases h
  | _ => rfl

@[simp]
theorem faults_text (s : String) : faults (.text s) = [] := rfl

@[simp]
theorem faults_capability (c : Capability) : faults (.capability c) = [] := rfl

@[simp]
theorem faults_text? (s : Option String) : faults (text? s) = [] := by
  cases s <;> rfl

/-- What cannot be written is found wherever it stands in a value. -/
theorem mem_faults_iff {d : Datum} {e : Error} :
    e ∈ faults d ↔ ∃ a, Within a d ∧ fault? a = some e := by
  have hleaf {d : Datum} (h : d.isLeaf = true) :
      e ∈ faults d ↔ ∃ a, Within a d ∧ fault? a = some e := by
    simp [faults_leaf h, within_leaf h]
  induction d using Datum.nested with
  | list ds ih =>
    have hself : fault? (.list ds) ≠ some e := nofun
    simp only [faults_list, List.mem_flatMap, within_list, or_and_right, exists_or, exists_eq_left,
      hself, false_or]
    constructor
    · rintro ⟨d, hd, he⟩
      obtain ⟨a, ha, hfault⟩ := (ih d hd).mp he
      exact ⟨a, ⟨d, hd, ha⟩, hfault⟩
    · rintro ⟨a, ⟨d, hd, ha⟩, hfault⟩
      exact ⟨d, hd, (ih d hd).mpr ⟨a, ha, hfault⟩⟩
  | object fs ih =>
    have hself : fault? (.object fs) ≠ some e := nofun
    simp only [faults_object, List.mem_flatMap, within_object, or_and_right, exists_or,
      exists_eq_left, hself, false_or]
    constructor
    · rintro ⟨f, hf, he⟩
      obtain ⟨a, ha, hfault⟩ := (ih f hf).mp he
      exact ⟨a, ⟨f, hf, ha⟩, hfault⟩
    · rintro ⟨a, ⟨f, hf, ha⟩, hfault⟩
      exact ⟨f, hf, (ih f hf).mpr ⟨a, ha, hfault⟩⟩
  | _ => exact hleaf rfl

/-- No item is deeper than all items together. -/
theorem depth_le_depthIn {d : Datum} {ds : List Datum} (hd : d ∈ ds) : depth d ≤ depthIn ds := by
  induction ds with
  | nil => cases hd
  | cons x xs ih =>
    rw [depthIn]
    rcases List.mem_cons.mp hd with rfl | hd
    · exact Nat.le_max_left _ _
    · exact (ih hd).trans (Nat.le_max_right _ _)

/-- No field is deeper than all fields together. -/
theorem depth_le_depthInFields {f : String × Datum} {fs : List (String × Datum)} (hf : f ∈ fs) :
    depth f.2 ≤ depthInFields fs := by
  induction fs with
  | nil => cases hf
  | cons x xs ih =>
    rw [depthInFields]
    rcases List.mem_cons.mp hf with rfl | hf
    · exact Nat.le_max_left _ _
    · exact (ih hf).trans (Nat.le_max_right _ _)

/-- A value is at least as deep as all that is in it. -/
theorem depth_le_of_within {a d : Datum} (h : Within a d) : depth a ≤ depth d := by
  induction h with
  | self => exact Nat.le_refl _
  | item hd _ ih =>
    rw [depth]
    exact (ih.trans (depth_le_depthIn hd)).trans (Nat.le_succ _)
  | field hf _ ih =>
    rw [depth]
    exact (ih.trans (depth_le_depthInFields hf)).trans (Nat.le_succ _)

/-! ## Written values are ASCII -/

/-- The text is ASCII. -/
def IsAscii (s : String) : Prop :=
  ∀ c ∈ s.toList, c.toNat < 128

instance (s : String) : Decidable (IsAscii s) :=
  decidable_of_iff (s.toList.all (·.toNat < 128) = true) (by simp [IsAscii])

/-- Both parts of an ASCII text are ASCII. -/
theorem isAscii_append {s t : String} : IsAscii (s ++ t) ↔ IsAscii s ∧ IsAscii t := by
  simp [IsAscii, or_imp, forall_and]

/-- ASCII texts with an ASCII separator between them are ASCII. -/
theorem isAscii_intercalate {sep : String} (hsep : IsAscii sep) {ts : List String}
    (h : ∀ t ∈ ts, IsAscii t) : IsAscii (sep.intercalate ts) := by
  induction ts with
  | nil => simp [IsAscii]
  | cons t ts ih =>
    rcases ts with _ | ⟨t', ts⟩
    · simpa using h t List.mem_cons_self
    · rw [String.intercalate_cons_cons, isAscii_append, isAscii_append]
      exact ⟨⟨h t List.mem_cons_self, hsep⟩, ih fun x hx => h x (List.mem_cons_of_mem _ hx)⟩

/-- A new line is a line feed and blanks. -/
theorem mem_newLine {level : Nat} {c : Char} (h : c ∈ (newLine level).toList) :
    c = '\n' ∨ c = ' ' := by
  rw [newLine, String.toList_ofList, List.mem_cons] at h
  exact h.imp_right List.eq_of_mem_replicate

/-- A new line is ASCII. -/
theorem isAscii_newLine (level : Nat) : IsAscii (newLine level) := by
  intro c hc
  rcases mem_newLine hc with rfl | rfl <;> decide

/-- What stands between ASCII brackets is ASCII when its parts are. -/
theorem isAscii_bracketed {first last : String} (hfirst : IsAscii first) (hlast : IsAscii last)
    (level : Nat) {parts : List String} (h : ∀ t ∈ parts, IsAscii t) :
    IsAscii (bracketed first last level parts) := by
  have hcomma : IsAscii "," := by decide
  unfold bracketed
  split_ifs
  · exact isAscii_append.mpr ⟨hfirst, hlast⟩
  · simp only [isAscii_append]
    exact ⟨⟨⟨⟨hfirst, isAscii_newLine _⟩,
      isAscii_intercalate (isAscii_append.mpr ⟨hcomma, isAscii_newLine _⟩) h⟩,
      isAscii_newLine _⟩, hlast⟩

/-- Hexadecimal digits are ASCII. -/
theorem toNat_hexDigit_lt {n : Nat} (h : n < 16) : (Text.hexDigit n).toNat < 128 := by
  interval_cases n <;> decide

/-- Hexadecimal numbers are ASCII. -/
theorem isAscii_hex (w n : Nat) : ∀ c ∈ Text.hex w n, c.toNat < 128 := by
  induction w generalizing n with
  | zero => simp [Text.hex]
  | succ w ih =>
    intro c hc
    rw [Text.hex, List.mem_append, List.mem_singleton] at hc
    rcases hc with hc | rfl
    · exact ih _ c hc
    · exact toNat_hexDigit_lt (Nat.mod_lt _ (by decide))

/-- An escape is ASCII. -/
theorem isAscii_unitEscape (n : Nat) : ∀ c ∈ unitEscape n, c.toNat < 128 := by
  intro c hc
  simp only [unitEscape, List.mem_cons] at hc
  rcases hc with rfl | rfl | hc
  · decide
  · decide
  · exact isAscii_hex _ _ c hc

/-- Every character is written in ASCII. -/
theorem isAscii_jsonChar (a : Char) : ∀ c ∈ jsonChar rd a, c.toNat < 128 := by
  unfold jsonChar
  split
  case h_8 =>
    simp only [Bool.and_eq_true, decide_eq_true_eq]
    split
    · rename_i hprintable
      simp only [List.mem_singleton, forall_eq]
      omega
    · split
      · exact isAscii_unitEscape _
      · split
        · exact isAscii_unitEscape _
        · intro c hc
          rcases List.mem_append.mp hc with hc | hc <;> exact isAscii_unitEscape _ c hc
  all_goals simp

/-- Every text is written in ASCII. -/
theorem isAscii_jsonString (s : String) : IsAscii (jsonString rd s) := by
  intro c hc
  simp only [jsonString, String.toList_ofList, List.cons_append, List.mem_cons, List.mem_append,
    List.mem_flatMap, List.not_mem_nil, or_false] at hc
  rcases hc with rfl | ⟨a, -, hc⟩ | rfl
  · decide
  · exact isAscii_jsonChar a c hc
  · decide

/-- Integers are written in ASCII. -/
theorem isAscii_toString (n : Int) : IsAscii (toString n) := by
  have hdigits : ∀ c ∈ Nat.toDigits 10 n.natAbs, c.toNat < 128 := by
    intro c hc
    have hdigit := Nat.isDigit_of_mem_toDigits (by decide) (by decide) hc
    exact lt_of_le_of_lt (Char.isDigit_iff_toNat.mp hdigit).2 (by decide)
  intro c hc
  rw [toList_toString] at hc
  split_ifs at hc
  · rcases List.mem_cons.mp hc with rfl | hc
    · decide
    · exact hdigits c hc
  · exact hdigits c hc

/-- What is written for a value without floating-point numbers is ASCII. -/
theorem isAscii_jsonText {d : Datum} (h : ∀ x, ¬ Within (.float x) d) (level : Nat) :
    IsAscii (jsonText rd level d) := by
  induction d using Datum.nested generalizing level with
  | null => exact (by decide : IsAscii "null")
  | bool b =>
    cases b with
    | false => exact (by decide : IsAscii "false")
    | true => exact (by decide : IsAscii "true")
  | int n => exact isAscii_toString n
  | float x => exact absurd .self (h x)
  | text s => exact isAscii_jsonString s
  | list ds ih =>
    rw [jsonText, jsonTexts_eq_map]
    refine isAscii_bracketed (by decide) (by decide) level ?_
    rw [List.forall_mem_map]
    exact fun d hd => ih d hd (fun x hx => h x (.item hd hx)) _
  | object fs ih =>
    rw [jsonText, jsonFields_eq_map]
    refine isAscii_bracketed (by decide) (by decide) level ?_
    rw [List.forall_mem_map]
    intro f hf
    rw [isAscii_append, isAscii_append]
    exact ⟨⟨isAscii_jsonString _, by decide⟩, ih f hf (fun x hx => h x (.field hf hx)) _⟩
  | capability c => exact isAscii_jsonString _
  | unwritable t => exact (by decide : IsAscii "null")

/-! ## Written values are read back -/

/-- A new line is space for the reader. -/
theorem isSpace_newLine (level : Nat) : ∀ c ∈ (newLine level).toList, isSpace c = true := by
  intro c hc
  rcases mem_newLine hc with rfl | rfl <;> decide

/-- A number ends before a new line. -/
theorem endsNumber_newLine (level : Nat) (cs : List Char) :
    EndsNumber ((newLine level).toList ++ cs) := by
  intro c hc
  obtain rfl : '\n' = c := by simpa [newLine] using hc
  decide

/-- Brackets that hold something, as characters. -/
theorem toList_bracketed {first last : String} {level : Nat} {parts : List String}
    (hne : parts ≠ []) :
    (bracketed first last level parts).toList =
      first.toList ++ ((newLine (level + 1)).toList ++
        ((',' :: (newLine (level + 1)).toList).intercalate (parts.map String.toList) ++
          ((newLine level).toList ++ last.toList))) := by
  have hempty : ¬ parts.isEmpty = true := by simpa using hne
  rw [bracketed, if_neg hempty]
  simp only [String.toList_append, String.toList_intercalate, List.append_assoc]
  rfl

/-- A part is no longer than the whole. -/
theorem length_le_of_mem_intercalate (sep : List Char) {t : List Char} {ts : List (List Char)}
    (h : t ∈ ts) : t.length ≤ (sep.intercalate ts).length := by
  induction ts with
  | nil => cases h
  | cons t' ts ih =>
    rcases ts with _ | ⟨t'', ts⟩
    · obtain rfl : t = t' := by simpa using h
      simp
    · rw [List.intercalate_cons_cons, List.length_append, List.length_append]
      rcases List.mem_cons.mp h with rfl | h
      · omega
      · have hle := ih h
        omega

/-- A part is shorter than the brackets around it. -/
theorem length_lt_bracketed {first last : String} {level : Nat} {parts : List String} {t : String}
    (h : t ∈ parts) : t.toList.length < (bracketed first last level parts).toList.length := by
  have hle := length_le_of_mem_intercalate (',' :: (newLine (level + 1)).toList)
    (List.mem_map_of_mem (f := String.toList) h)
  have hgap : 0 < (newLine (level + 1)).toList.length := by simp [newLine]
  rw [toList_bracketed (List.ne_nil_of_mem h)]
  simp only [List.length_append]
  omega

section Brackets

variable {ι α : Type} {part : List Char → Option (α × List Char)} {text : ι → String} {val : ι → α}
  {a close : Char} {first last : String}

/-- Brackets are read back with all that is in them, if each part is. -/
theorem bracket_bracketed (hfirst : first.toList = [a]) (hlast : last.toList = [close])
    (hspace : isSpace close = false) (hcomma : close ≠ ',')
    (hstart : ∀ cs r, part cs = some r → ∃ c rest, skip cs = c :: rest ∧ c ≠ close)
    {level : Nat} {xs : List ι}
    (hpart : ∀ x ∈ xs, ∀ rest, EndsNumber rest →
      part ((newLine (level + 1)).toList ++ ((text x).toList ++ rest)) = some (val x, rest))
    (rest : List Char) :
    ∃ cs, (bracketed first last level (xs.map text)).toList ++ rest = a :: cs ∧
      bracket part close cs = some (xs.map val, rest) := by
  rcases eq_or_ne xs [] with rfl | hne
  · refine ⟨close :: rest, by simp [bracketed, hfirst, hlast], ?_⟩
    rw [bracket, skip_cons hspace]
    simp
  · have hread := bracket_intercalate hspace hcomma (isSpace_newLine level)
      (endsNumber_newLine level (close :: rest)) hne hstart hpart
    refine ⟨_, ?_, hread⟩
    rw [toList_bracketed (by simpa using hne), hfirst, hlast]
    simp [Function.comp_def]

end Brackets

/-- The value is read back from its text at any level, whatever follows that does not go on with a
number. As much fuel as there are characters is enough. -/
def Reads (rd : Text.Reading) (d : Datum) : Prop :=
  ∀ {n level : Nat} {rest : List Char}, (jsonText rd level d).toList.length ≤ n → EndsNumber rest →
    value n ((jsonText rd level d).toList ++ rest) = some (d.plain, rest)

/-- Nothing is written as the empty text, so it is enough to have some fuel. -/
theorem reads_of_succ {d : Datum}
    (h : ∀ n level rest, (jsonText rd level d).toList.length ≤ n + 1 → EndsNumber rest →
      value (n + 1) ((jsonText rd level d).toList ++ rest) = some (d.plain, rest)) : Reads rd d := by
  intro n level rest hn hrest
  cases n with
  | zero =>
    have hnil : (jsonText rd level d).toList = [] := List.length_eq_zero_iff.mp (Nat.le_zero.mp hn)
    have hread := h 0 level [] (by omega) (by simp [EndsNumber])
    rw [hnil] at hread
    cases hread
  | succ n => exact h n level rest hn hrest

/-- A list is read back when its items are. -/
theorem reads_list {ds : List Datum} (h : ∀ d ∈ ds, Reads rd d) : Reads rd (.list ds) := by
  refine reads_of_succ fun n level rest hn _ => ?_
  rw [plain, plains_eq_map]
  rw [jsonText, jsonTexts_eq_map] at hn ⊢
  have hitem : ∀ d ∈ ds, ∀ rest, EndsNumber rest →
      value n ((newLine (level + 1)).toList ++ ((jsonText rd (level + 1) d).toList ++ rest)) =
        some (d.plain, rest) := by
    intro d hd rest hrest
    have hlt := lt_of_lt_of_le (length_lt_bracketed (List.mem_map_of_mem hd)) hn
    rw [value_space (isSpace_newLine _)]
    exact h d hd (Nat.le_of_lt_succ hlt) hrest
  obtain ⟨cs, htext, hread⟩ :=
    bracket_bracketed (by decide : "[".toList = ['[']) (by decide : "]".toList = [']']) (by decide)
      (by decide) (fun cs r => value_start) hitem rest
  rw [htext, value, skip_cons (by decide)]
  simp only [hread, Option.map_some]

/-- A new name is put last. -/
theorem putNamed_of_not_mem {α : Type} {name : String} {a : α} {xs : List (String × α)}
    (h : name ∉ xs.map Prod.fst) : putNamed name a xs = xs ++ [(name, a)] := by
  induction xs with
  | nil => rfl
  | cons x xs ih =>
    rw [List.map_cons, List.mem_cons, not_or] at h
    have hne : ¬ (x.1 == name) = true := by simpa using Ne.symm h.1
    rw [putNamed, if_neg hne, ih h.2, List.cons_append]

/-- Things with different names stay as they are. -/
theorem ofNamed_eq_self {α : Type} {xs : List (String × α)} (h : (xs.map Prod.fst).Nodup) :
    ofNamed xs = xs := by
  have hfold : ∀ done ys : List (String × α), ((done ++ ys).map Prod.fst).Nodup →
      ys.foldl (fun acc x => putNamed x.1 x.2 acc) done = done ++ ys := by
    intro done ys
    induction ys generalizing done with
    | nil => simp
    | cons y ys ih =>
      intro hnodup
      have hnew : y.1 ∉ done.map Prod.fst := by
        rw [List.map_append, List.map_cons, List.nodup_append'] at hnodup
        exact fun hmem => hnodup.2.2 hmem List.mem_cons_self
      rw [List.foldl_cons, putNamed_of_not_mem hnew, ih _ (by simpa using hnodup)]
      simp
  exact hfold [] xs h

/-- An object whose names can be keys is read back when its values are. -/
theorem reads_object {fs : List (String × Datum)} (hkeys : IsKeys rd (fs.map Prod.fst))
    (h : ∀ f ∈ fs, Reads rd f.2) : Reads rd (.object fs) := by
  refine reads_of_succ fun n level rest hn _ => ?_
  rw [plain, plainFields_eq_map]
  rw [jsonText, jsonFields_eq_map] at hn ⊢
  have hfield : ∀ f ∈ fs, ∀ rest, EndsNumber rest →
      field (value n) ((newLine (level + 1)).toList ++
        ((jsonString rd f.1 ++ ": " ++ jsonText rd (level + 1) f.2).toList ++ rest)) =
        some ((f.1, f.2.plain), rest) := by
    intro f hf rest hrest
    have hlt := lt_of_lt_of_le (length_lt_bracketed (List.mem_map.mpr ⟨f, hf, rfl⟩)) hn
    rw [String.toList_append, List.length_append] at hlt
    rw [String.toList_append, List.append_assoc]
    refine field_jsonString (hkeys.2 _ (List.mem_map_of_mem hf)) (isSpace_newLine _) ?_
    rw [← List.singleton_append, value_space (by simp [isSpace])]
    exact h f hf (by omega) hrest
  have hnames : ((fs.map fun f => (f.1, f.2.plain)).map Prod.fst).Nodup := by
    simpa [Function.comp_def] using hkeys.1
  obtain ⟨cs, htext, hread⟩ :=
    bracket_bracketed (by decide : "\x7b".toList = ['\x7b']) (by decide : "\x7d".toList = ['\x7d'])
      (by decide) (by decide) (fun cs r => field_start) hfield rest
  rw [htext, value, skip_cons (by decide)]
  simp only [hread, Option.map_some, ofNamed_eq_self hnames]

/-- The names of capabilities hold no halves. -/
theorem whole_value (c : Capability) : Whole rd c.value := by
  cases rd with
  | whole => exact whole_of_whole _
  | halves => cases c <;> decide +kernel

/-- **Written values are read back**, with names for capabilities. -/
theorem reads_of_sound {d : Datum} (hsound : Sound rd d)
    (hwritable : ∀ t, ¬ Within (.unwritable t) d) : Reads rd d := by
  induction d using Datum.nested with
  | list ds ih =>
    exact reads_list fun d hd =>
      ih d hd (sound_list.mp hsound d hd) fun t ht => hwritable t (.item hd ht)
  | object fs ih =>
    obtain ⟨hkeys, hfields⟩ := sound_object.mp hsound
    exact reads_object hkeys fun f hf =>
      ih f hf (hfields f hf) fun t ht => hwritable t (.field hf ht)
  | float x => exact (hsound _ .self).elim
  | unwritable t => exact absurd .self (hwritable t)
  | null =>
    refine reads_of_succ fun n level rest _ _ => ?_
    rw [jsonText, plain]
    simp [value, skip, isSpace]
  | bool b =>
    refine reads_of_succ fun n level rest _ _ => ?_
    rw [jsonText, plain]
    cases b <;> simp [value, skip, isSpace]
  | int k =>
    refine reads_of_succ fun n level rest _ hrest => ?_
    rw [jsonText, plain]
    exact value_of_number (number_toString k hrest) n
  | text s =>
    refine reads_of_succ fun n level rest _ _ => ?_
    rw [jsonText, plain]
    exact value_jsonString (hsound _ .self) n rest
  | capability c =>
    refine reads_of_succ fun n level rest _ _ => ?_
    rw [jsonText, plain]
    exact value_jsonString (whole_value c) n rest

/-- A written value is what its text stands for. -/
theorem decode_jsonText {d : Datum} (hsound : Sound rd d)
    (hwritable : ∀ t, ¬ Within (.unwritable t) d) (level : Nat) :
    decode (jsonText rd level d) = some d.plain := by
  have hread : value (jsonText rd level d).toList.length ((jsonText rd level d).toList ++ []) =
      some (d.plain, []) :=
    reads_of_sound hsound hwritable le_rfl (by simp [EndsNumber])
  rw [List.append_nil] at hread
  rw [decode, hread]
  rfl

-- the layout and the case of escapes do not matter, and of two fields with one name the last counts
example : decode "[ 1,\"\\uD835\\udcb3\" ,\x7b\"a\":1,\"a\":[]\x7d ]\n" =
    some (.list [.int 1, .text "𝒳", .object [("a", .list [])]]) := by rfl

end Document

end Codebook
