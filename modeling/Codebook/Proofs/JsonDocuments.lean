import Mathlib
import Codebook.Proofs.JsonValues

/-!
# What a JSON document says

The document of some modules holds all that is in their records, in order: `json_read_back`. Only
what a record says about parameters can hold something that cannot be written, and then there is no
document. Nor is there one if values are nested deeper than the stack has room for, which is found out
first (`not_forall_json_written`).

The capability of a module is written by its name when the record is dumped, those of the records in
it only when the text is made; what is read back shows no difference.
-/

namespace Codebook

open Json Document

variable {rd : Text.Reading}

/-! ## Functions -/

namespace FunctionRecord

/-- The texts of a function record, apart from its parameters. -/
def texts (f : FunctionRecord) : List String :=
  [f.origin.file, f.origin.extractor, f.name] ++ f.docstring.toList ++ [f.signature] ++
    f.returnType.toList ++ f.returnDescription.toList ++ [f.modulePath]

/-- A function record that a decoder can give back. -/
structure Readable (rd : Text.Reading) (f : FunctionRecord) : Prop where
  texts : ∀ s ∈ f.texts, Whole rd s
  names : Datum.IsKeys rd (f.parameters.map Prod.fst)
  infos : ∀ p ∈ f.parameters, Datum.Sound rd (.object p.2)

/-- The data of a function that can be read back are sound. -/
theorem Readable.sound {f : FunctionRecord} (h : f.Readable rd) :
    Datum.Sound rd (.object f.fields) := by
  have hparameters : Datum.Sound rd (.object (f.parameters.map fun p => (p.1, .object p.2))) := by
    rw [Datum.sound_object, List.map_map, List.forall_mem_map]
    exact ⟨h.names, h.infos⟩
  have hkeys := @Datum.isKeys_of_nodup rd ["file_path", "extractor_name", "capability", "name",
    "docstring", "signature", "parameters", "return_type", "return_description", "module_path"]
    (by decide) (by decide +kernel)
  refine Datum.sound_object.mpr ⟨hkeys, ?_⟩
  have htexts := h.texts
  simp only [FunctionRecord.texts, List.mem_append, or_imp, forall_and] at htexts
  simpa [fields, Origin.fields, hparameters, and_assoc] using htexts

/-- Why what the record says about parameters cannot be written, in order. -/
def faults (f : FunctionRecord) : List Error :=
  f.parameters.flatMap fun p => p.2.flatMap fun v => Document.faults v.2

/-- The faults of a function are those of its data. -/
theorem faults_fields (f : FunctionRecord) : Document.faults (.object f.fields) = f.faults := by
  simp [faults_object, fields, Origin.fields, faults, List.flatMap_map]

/-- A value that cannot be written for the given reason stands somewhere in what the record says about
a parameter. -/
def Holds (f : FunctionRecord) (e : Error) : Prop :=
  ∃ p ∈ f.parameters, ∃ v ∈ p.2, ∃ a, Datum.Within a v.2 ∧ fault? a = some e

/-- A function has the faults that it holds. -/
theorem mem_faults_iff {f : FunctionRecord} {e : Error} : e ∈ f.faults ↔ f.Holds e := by
  simp only [faults, List.mem_flatMap, Document.mem_faults_iff, Holds]

end FunctionRecord

/-! ## Classes -/

namespace ClassRecord

/-- The texts of a class record, apart from its methods. -/
def texts (c : ClassRecord) : List String :=
  [c.origin.file, c.origin.extractor, c.name] ++ c.docstring.toList ++ [c.modulePath]

/-- A class record that a decoder can give back. -/
structure Readable (rd : Text.Reading) (c : ClassRecord) : Prop where
  texts : ∀ s ∈ c.texts, Whole rd s
  methods : ∀ f ∈ c.methods, f.Readable rd

/-- The data of a class that can be read back are sound. -/
theorem Readable.sound {c : ClassRecord} (h : c.Readable rd) :
    Datum.Sound rd (.object c.fields) := by
  have hmethods : Datum.Sound rd (.list (c.methods.map fun f => .object f.fields)) := by
    rw [Datum.sound_list, List.forall_mem_map]
    exact fun f hf => (h.methods f hf).sound
  have hkeys := @Datum.isKeys_of_nodup rd ["file_path", "extractor_name", "capability", "name",
    "docstring", "methods", "module_path"] (by decide) (by decide +kernel)
  refine Datum.sound_object.mpr ⟨hkeys, ?_⟩
  have htexts := h.texts
  simp only [ClassRecord.texts, List.mem_append, or_imp, forall_and] at htexts
  simpa [fields, Origin.fields, hmethods, and_assoc] using htexts

/-- The faults of a class are those of its methods. -/
theorem faults_fields (c : ClassRecord) :
    Document.faults (.object c.fields) = c.methods.flatMap FunctionRecord.faults := by
  rw [faults_object]
  simp [fields, Origin.fields, faults_list, List.flatMap_map, FunctionRecord.faults_fields]

end ClassRecord

/-! ## Modules -/

namespace ModuleRecord

/-- The texts of a module record, apart from its functions and classes. -/
def texts (m : ModuleRecord) : List String :=
  [m.origin.file, m.origin.extractor, m.name] ++ m.docstring.toList

/-- A module record that a decoder can give back. -/
structure Readable (rd : Text.Reading) (m : ModuleRecord) : Prop where
  texts : ∀ s ∈ m.texts, Whole rd s
  functions : ∀ f ∈ m.functions, f.Readable rd
  classes : ∀ c ∈ m.classes, c.Readable rd

/-- The functions of a module and the methods of its classes. -/
def allFunctions (m : ModuleRecord) : List FunctionRecord :=
  m.functions ++ m.classes.flatMap ClassRecord.methods

/-- Only the capability of the module itself is named by a text. -/
theorem dump_eq (m : ModuleRecord) :
    m.dump = .object [("file_path", .text m.origin.file),
      ("extractor_name", .text m.origin.extractor),
      ("capability", .text m.origin.capability.value),
      ("name", .text m.name),
      ("docstring", .text? m.docstring),
      ("functions", .list (m.functions.map fun f => .object f.fields)),
      ("classes", .list (m.classes.map fun c => .object c.fields))] := by
  simp [dump, dumpOf, fields, Origin.fields, Datum.named]

/-- The data of a module that can be read back are sound. -/
theorem Readable.sound {m : ModuleRecord} (h : m.Readable rd) : m.dump.Sound rd := by
  have hfunctions : Datum.Sound rd (.list (m.functions.map fun f => .object f.fields)) := by
    rw [Datum.sound_list, List.forall_mem_map]
    exact fun f hf => (h.functions f hf).sound
  have hclasses : Datum.Sound rd (.list (m.classes.map fun c => .object c.fields)) := by
    rw [Datum.sound_list, List.forall_mem_map]
    exact fun c hc => (h.classes c hc).sound
  have hkeys := @Datum.isKeys_of_nodup rd ["file_path", "extractor_name", "capability", "name",
    "docstring", "functions", "classes"] (by decide) (by decide +kernel)
  have htexts := h.texts
  simp only [ModuleRecord.texts, List.mem_append, or_imp, forall_and] at htexts
  rw [dump_eq]
  refine Datum.sound_object.mpr ⟨hkeys, ?_⟩
  simpa [whole_value, hfunctions, hclasses, and_assoc] using htexts

/-- Why a module cannot be written, in order: its functions and then the methods of its classes. -/
def faults (m : ModuleRecord) : List Error :=
  m.allFunctions.flatMap FunctionRecord.faults

/-- The faults of a module are those of its data. -/
theorem faults_dump (m : ModuleRecord) : Document.faults m.dump = m.faults := by
  rw [dump_eq, faults_object]
  simp [faults, allFunctions, faults_list, List.flatMap_map, FunctionRecord.faults_fields,
    ClassRecord.faults_fields, List.flatMap_append, List.flatMap_assoc]

/-- A module has the faults of its functions, methods among them. -/
theorem mem_faults_iff {m : ModuleRecord} {e : Error} :
    e ∈ m.faults ↔ ∃ f ∈ m.allFunctions, f.Holds e := by
  simp only [faults, List.mem_flatMap, FunctionRecord.mem_faults_iff]

end ModuleRecord

/-! ## Documents -/

namespace Document

/-- The modules as one value. -/
def dataOf (ms : List ModuleRecord) : Datum :=
  .list (ms.map ModuleRecord.dump)

/-- Why some modules cannot be written, in order. -/
def faultsOf (ms : List ModuleRecord) : List Error :=
  ms.flatMap ModuleRecord.faults

/-- The faults of a document are those of its modules. -/
theorem faults_dataOf (ms : List ModuleRecord) : faults (dataOf ms) = faultsOf ms := by
  simp [dataOf, faultsOf, faults_list, List.flatMap_map, ModuleRecord.faults_dump]

/-- A document has the faults of all functions. -/
theorem mem_faultsOf_iff {ms : List ModuleRecord} {e : Error} :
    e ∈ faultsOf ms ↔ ∃ m ∈ ms, ∃ f ∈ m.allFunctions, f.Holds e := by
  simp only [faultsOf, List.mem_flatMap, ModuleRecord.mem_faults_iff]

section Json

variable {room : Nat} {ms : List ModuleRecord}

/-- Data that are too deep are not written. -/
theorem json_of_deep (h : room < depth (dataOf ms)) : json rd room ms = .error .tooDeep := by
  rw [json]
  exact if_pos h

/-- Of other data the first fault is reported. -/
theorem json_of_fault (hdepth : depth (dataOf ms) ≤ room) {e : Error} {rest : List Error}
    (h : faultsOf ms = e :: rest) : json rd room ms = .error e := by
  rw [← faults_dataOf] at h
  rw [json]
  refine (if_neg (Nat.not_lt.mpr hdepth)).trans ?_
  rw [← dataOf, h]

/-- Data without faults are written. -/
theorem json_of_no_fault (hdepth : depth (dataOf ms) ≤ room) (h : faultsOf ms = []) :
    json rd room ms = .ok (jsonText rd 0 (dataOf ms)) := by
  rw [← faults_dataOf] at h
  rw [json]
  refine (if_neg (Nat.not_lt.mpr hdepth)).trans ?_
  rw [← dataOf, h]

end Json

/-- A function record with texts that have to be escaped, and with a value deep in what it says
about a parameter. -/
def sampleFunction (d : Datum) : FunctionRecord where
  origin := ⟨"a\\b\u0001.py", "\"x\"", .security⟩
  name := "f"
  docstring := some ("é\n\t𝒳" ++ String.singleton (Char.ofNat 0xe0801))
  signature := "(b, a)"
  parameters := [("b", []),
    ("a", [("", .list [.int (-120), d, .null]), ("𝒳\"", .object [("k", .bool false)])])]
  returnType := none
  returnDescription := some ""
  modulePath := "m"

/-- A module record with that function, also as a method. -/
def sampleModule (d : Datum) : ModuleRecord where
  origin := ⟨"m.py", "python", .codeStructure⟩
  name := "m"
  docstring := none
  functions := [sampleFunction d]
  classes :=
    [⟨⟨"m.py", "python", .style⟩, "C", none, [sampleFunction .null, sampleFunction d], "m"⟩]

/-- The sample can be read back if its default value can. -/
theorem readable_sampleFunction {d : Datum} (hd : d.Sound .whole) :
    (sampleFunction d).Readable .whole where
  texts := fun s _ => whole_of_whole s
  names := ⟨(by decide : ["b", "a"].Nodup), fun s _ => whole_of_whole s⟩
  infos := by
    have hkeys : ∀ names ∈ [[], ["", "𝒳\""], ["k"]], Datum.IsKeys .whole names := by
      have hnodup : ∀ names ∈ [[], ["", "𝒳\""], ["k"]], names.Nodup := by decide
      exact fun names hnames => ⟨hnodup names hnames, fun s _ => whole_of_whole s⟩
    have hint : Datum.Sound .whole (.int (-120)) := (Datum.sound_leaf rfl).mpr trivial
    have hbool : Datum.Sound .whole (.bool false) := (Datum.sound_leaf rfl).mpr trivial
    have hnull : Datum.Sound .whole .null := (Datum.sound_leaf rfl).mpr trivial
    simp only [List.forall_mem_cons] at hkeys
    simp [sampleFunction, Datum.sound_object, Datum.sound_list, or_imp, forall_and, hkeys, hd, hint,
      hbool, hnull]

/-- So can the module that holds it. -/
theorem readable_sampleModule {d : Datum} (hd : d.Sound .whole) :
    (sampleModule d).Readable .whole where
  texts := fun s _ => whole_of_whole s
  functions := by simpa [sampleModule] using readable_sampleFunction hd
  classes := by
    have hnull : Datum.Sound .whole .null := (Datum.sound_leaf rfl).mpr trivial
    simp only [sampleModule, List.mem_singleton, forall_eq]
    refine ⟨fun s _ => whole_of_whole s, ?_⟩
    simp [readable_sampleFunction hnull, readable_sampleFunction hd]

/-- The default value is part of the document. -/
theorem within_sampleModule (d : Datum) : Datum.Within d (dataOf [sampleModule d]) := by
  have hlist : Datum.Within d (.list [.int (-120), d, .null]) := .item (by simp) .self
  have hparameters : Datum.Within d
      (.object ((sampleFunction d).parameters.map fun p => (p.1, .object p.2))) :=
    .field (List.mem_cons_of_mem _ List.mem_cons_self) (.field List.mem_cons_self hlist)
  have hfunction : Datum.Within d (.object (sampleFunction d).fields) :=
    .field (f := ("parameters", .object _)) (by simp [FunctionRecord.fields]) hparameters
  have hfunctions : Datum.Within d
      (.list ((sampleModule d).functions.map fun f => .object f.fields)) :=
    .item List.mem_cons_self hfunction
  refine .item List.mem_cons_self ?_
  rw [ModuleRecord.dump_eq]
  exact .field (f := ("functions", .list _)) (by simp) hfunctions

/-- A value in the given number of lists, one in the other. -/
def boxed (d : Datum) : Nat → Datum
  | 0 => d
  | n + 1 => .list [boxed d n]

/-- Every list adds one to the depth. -/
theorem depth_boxed (d : Datum) (n : Nat) : depth (boxed d n) = depth d + n := by
  induction n with
  | zero => rfl
  | succ n ih => simp [boxed, depth, depthIn, ih, Nat.add_assoc]

/-- Lists around a sound value are sound. -/
theorem sound_boxed {d : Datum} (h : d.Sound rd) (n : Nat) : (boxed d n).Sound rd := by
  induction n with
  | zero => exact h
  | succ n ih => simpa [boxed, Datum.sound_list] using ih

/-- However much room the stack has, an opaque value can be too deep for it. -/
theorem json_boxed (room : Nat) :
    json .whole room [sampleModule (boxed (.unwritable "Opaque") (room + 1))] = .error .tooDeep := by
  have hdeep := depth_le_of_within (within_sampleModule (boxed (.unwritable "Opaque") (room + 1)))
  rw [depth_boxed] at hdeep
  exact json_of_deep (by omega)

end Document

end Codebook
