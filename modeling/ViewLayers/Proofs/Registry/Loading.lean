import ViewLayers.Proofs.Path.Encoded
import ViewLayers.Proofs.Registry.Keys

/-!
Ids and what they load. The id of an import is made from the key that the import leads to. Where the
key is a text the id is read back as that key, so it loads what is registered there, and there is
one id for each thing that is; where the key has bytes that are no text, they are lost in the id.
-/

namespace ViewLayers

open Text

/-- The bytes of a path are those of a text. -/
def Path.IsUtf8 (p : Path) : Prop := ∃ q : Path, p = q.utf8

namespace Catalog

variable {κ ω : Type} {sp : Spelling} {directory : κ → Path} {k : Catalog κ} {c c' : κ}
  {cs : List κ} {source source' id id' : String} {importer : Option Path} {file file' : Path}

/-! ### Ids -/

lemma resolve?_eq (k : Catalog κ) (sp : Spelling) :
    k.resolve? sp source importer = importer.bind fun file =>
      if source.toList.head? = some '.' ∨ source.toList.head? = some '/' then
        if (k.find? (target sp source file)).isSome = true then
          some (idMark ++ sp.write (target sp source file))
        else none
      else none := by
  cases importer with
  | none => rfl
  | some file =>
    rw [resolve?, Option.bind_some]
    cases source.toList with
    | nil => rfl
    | cons c cs => simp only [List.head?_cons, Option.some.injEq]

lemma resolve?_eq_some (h : k.resolve? sp source importer = some id) :
    ∃ file, importer = some file ∧ (k.find? (target sp source file)).isSome = true ∧
      id = idMark ++ sp.write (target sp source file) := by
  rw [resolve?_eq, Option.bind_eq_some_iff] at h
  obtain ⟨file, hfile, h⟩ := h
  obtain ⟨-, h⟩ := Option.ite_none_right_eq_some.1 h
  obtain ⟨hfound, h⟩ := Option.ite_none_right_eq_some.1 h
  exact ⟨file, hfile, hfound, (Option.some.inj h).symm⟩

lemma component?_idMark (k : Catalog κ) (sp : Spelling) (s : String) :
    k.component? sp (idMark ++ s) = k.find? (sp.read s) := by
  have hprefix : idMark.toList.isPrefixOf (idMark ++ s).toList = true := by
    rw [String.toList_append, List.isPrefixOf_iff_prefix]
    exact List.prefix_append ..
  have hrest : (idMark ++ s).toList.drop idMark.length = s.toList := by
    rw [String.toList_append, ← String.length_toList, List.drop_left]
  rw [component?, if_pos hprefix, hrest, String.ofList_toList]

lemma exists_of_component? (h : k.component? sp id = some c) :
    ∃ s, id = idMark ++ s ∧ k.find? (sp.read s) = some c := by
  unfold component? at h
  split at h
  · rename_i hprefix
    obtain ⟨rest, hrest⟩ := List.isPrefixOf_iff_prefix.1 hprefix
    have hid : id = idMark ++ String.ofList rest := by
      rw [← String.toList_inj, String.toList_append, String.toList_ofList, hrest]
    refine ⟨String.ofList rest, hid, ?_⟩
    rwa [← hrest, ← String.length_toList, List.drop_left] at h
  · cases h

lemma lastAt_of_resolve? (h : (ofList directory cs).resolve? sp source importer = some id) :
    ∃ file c, importer = some file ∧ id = idMark ++ sp.write (target sp source file) ∧
      lastAt directory cs (target sp source file) = some c := by
  obtain ⟨file, hfile, hfound, hid⟩ := resolve?_eq_some h
  obtain ⟨c, hc⟩ := Option.isSome_iff_exists.1 hfound
  refine ⟨file, c, hfile, hid, ?_⟩
  rw [← hc, target, find?_normalize]

lemma component?_of_read_write {key : Path} (h : lastAt directory cs key = some c)
    (hread : sp.read (sp.write key) = key) :
    (ofList directory cs).component? sp (idMark ++ sp.write key) = some c := by
  rw [component?_idMark, hread, ← h, ← (mem_of_lastAt h).2, find?_normalize]

/-! ### What ids stand for -/

/-- How things are resolved and loaded through ids, as far as keys are `Kept` in these. -/
structure IdsStandFor (sp : Spelling) (Kept : Path → Prop) (directory : κ → Path) (cs : List κ)
    (make : κ → ω) (resolve : String → Option Path → Option String) (load : String → Option ω) :
    Prop where
  /-- What is given an id leads to the directory of a thing, the last one of which is loaded. -/
  loads : ∀ source importer id, resolve source importer = some id →
    ∃ file c, importer = some file ∧ lastAt directory cs (target sp source file) = some c ∧
      (Kept (target sp source file) → load id = some (make c))
  /-- Two imports that are given ids are given one iff they lead to one thing. -/
  same : ∀ source file id source' file' id', resolve source (some file) = some id →
    resolve source' (some file') = some id' →
    (lastAt directory cs (target sp source file) = lastAt directory cs (target sp source' file') →
      id = id') ∧
    (Kept (target sp source file) → Kept (target sp source' file') → id = id' →
      lastAt directory cs (target sp source file) = lastAt directory cs (target sp source' file'))
  /-- Nothing is loaded but by the mark and a path with the steps of a key. -/
  none_iff : ∀ id, load id = none ↔ ¬ ∃ s, id = idMark ++ s ∧
    ∃ c ∈ cs, (directory c).normalize.steps = (sp.read s).steps

lemma load?_eq_none_iff (make : κ → ω) : (ofList directory cs).load? sp make id = none ↔
    ¬ ∃ s, id = idMark ++ s ∧ ∃ c ∈ cs, (directory c).normalize.steps = (sp.read s).steps := by
  rw [load?, Option.map_eq_none_iff, ← not_iff_not, not_not, ← ne_eq, Option.ne_none_iff_exists']
  constructor
  · rintro ⟨c, hc⟩
    obtain ⟨s, hid, hfound⟩ := exists_of_component? hc
    rw [find?_ofList] at hfound
    have hsteps := List.find?_some hfound
    exact ⟨s, hid, c, List.mem_reverse.1 (List.mem_of_find?_eq_some hfound),
      of_decide_eq_true hsteps⟩
  · rintro ⟨s, rfl, c, hc, hsteps⟩
    rw [component?_idMark, find?_ofList, ← Option.isSome_iff_exists, List.find?_isSome]
    exact ⟨c, List.mem_reverse.2 hc, decide_eq_true hsteps⟩

lemma idsStandFor {Kept : Path → Prop} (hkept : ∀ p, Kept p → sp.read (sp.write p) = p)
    (directory : κ → Path) (cs : List κ) (make : κ → ω) :
    IdsStandFor sp Kept directory cs make ((ofList directory cs).resolve? sp)
      ((ofList directory cs).load? sp make) where
  loads source importer id h := by
    obtain ⟨file, c, hfile, rfl, hlast⟩ := lastAt_of_resolve? h
    refine ⟨file, c, hfile, hlast, fun htarget => ?_⟩
    rw [load?, component?_of_read_write hlast (hkept _ htarget), Option.map_some]
  same source file id source' file' id' h h' := by
    obtain ⟨_, c, hfile, rfl, hlast⟩ := lastAt_of_resolve? h
    obtain ⟨_, c', hfile', rfl, hlast'⟩ := lastAt_of_resolve? h'
    cases hfile
    cases hfile'
    refine ⟨fun hsame => ?_, fun htarget htarget' hid => ?_⟩
    · obtain rfl : c = c' := by
        rw [hlast, hlast'] at hsame
        exact Option.some.inj hsame
      rw [← (mem_of_lastAt hlast).2, (mem_of_lastAt hlast').2]
    · rw [← hkept _ htarget, (String.append_right_inj idMark).1 hid, hkept _ htarget']
  none_iff id := load?_eq_none_iff make

/-! ### Bytes in ids -/

lemma read_write_of_isUtf8 {p : Path} (h : p.IsUtf8) :
    Spelling.bytes.read (Spelling.bytes.write p) = p := by
  obtain ⟨q, rfl⟩ := h
  rw [Spelling.write_utf8, Spelling.read_bytes]

/-- **A thing is found by its id iff its key is a text.** -/
lemma component?_bytes_iff
    (h : (ofList directory cs).resolve? .bytes source (some file) = some id)
    (hc : lastAt directory cs (target .bytes source file) = some c) :
    (ofList directory cs).component? .bytes id = some c ↔ (target .bytes source file).IsUtf8 := by
  obtain ⟨_, _, hfile, rfl, -⟩ := lastAt_of_resolve? h
  cases hfile
  refine ⟨fun hfound => ?_, fun hutf8 => component?_of_read_write hc (read_write_of_isUtf8 hutf8)⟩
  rw [component?_idMark, find?_ofList] at hfound
  have hfirst := List.find?_some hfound
  have hsteps := of_decide_eq_true hfirst
  rw [(mem_of_lastAt hc).2, Spelling.read_bytes] at hsteps
  -- the key is its own normal form, and so that of the text which it is found by
  refine ⟨(⟨Spelling.bytes.write (target .bytes source file)⟩ : Path).normalize, ?_⟩
  have hnormal : (target .bytes source file).normalize = target .bytes source file :=
    Path.normalize_normalize _
  rw [← Path.normalize_utf8, Path.normalize, ← hsteps]
  exact hnormal.symm

lemma target_utf8 (source : String) (file : Path) :
    target .bytes source file.utf8 = (target .plain source file).utf8 := by
  have hbase : file.utf8.parent?.getD ⟨""⟩ = (file.parent?.getD ⟨""⟩).utf8 := by
    rw [Path.parent?_utf8]
    cases file.parent? <;> rfl
  rw [target, target, hbase, ← Path.normalize_utf8, Path.join_utf8, Spelling.read_bytes]
  rfl

lemma find?_utf8 (directory : κ → Path) (cs : List κ) (key : Path) :
    (ofList (fun c => (directory c).utf8) cs).find? key.utf8 = (ofList directory cs).find? key := by
  have hsame : ∀ c : κ, decide ((directory c).utf8.normalize.steps = key.utf8.steps) =
      decide ((directory c).normalize.steps = key.steps) := fun c => by
    rw [decide_eq_decide, Path.normalize_utf8, Path.steps_utf8, Path.steps_utf8]
    exact List.map_injective_iff.2 Step.encode_injective |>.eq_iff
  rw [find?_ofList, find?_ofList]
  simp only [hsame]

/-- **What is done with texts for paths is done with their bytes.** -/
theorem resolve?_utf8 (directory : κ → Path) (cs : List κ) (source id : String)
    (importer : Option Path) :
    (ofList (fun c => (directory c).utf8) cs).resolve? .bytes source (importer.map Path.utf8) =
      (ofList directory cs).resolve? .plain source importer ∧
    (ofList (fun c => (directory c).utf8) cs).component? .bytes id =
      (ofList directory cs).component? .plain id := by
  constructor
  · rw [resolve?_eq, resolve?_eq]
    cases importer with
    | none => rw [Option.map_none, Option.bind_none, Option.bind_none]
    | some file =>
      rw [Option.map_some, Option.bind_some, Option.bind_some, target_utf8, find?_utf8,
        Spelling.write_utf8, Spelling.write_plain]
  · unfold component?
    split
    · exact find?_utf8 directory cs _
    · rfl

end Catalog

namespace Registry

open Catalog

/-- The normal form of what a source leads to from a file. -/
def target (source : String) (file : Path) : Path :=
  ((file.parent?.getD ⟨""⟩).join ⟨source⟩).normalize

/-- **What an import resolves to is loaded**, under any prefix, if the directory that it leads to is
a text. Directories may have any bytes: then a thing is found by the id that is given for it iff the
bytes are those of a text, and different ones with different ids if both are. -/
theorem resolved_loads :
    (∀ {κ ω : Type} (directory : κ → List UInt8) (cs : List κ) (make : κ → ω),
      IdsStandFor .bytes Path.IsUtf8 (fun c => .ofBytes (directory c)) cs make
        ((Catalog.ofList (fun c => .ofBytes (directory c)) cs).resolve? .bytes)
        ((Catalog.ofList (fun c => .ofBytes (directory c)) cs).load? .bytes make)) ∧
    (∀ {κ : Type} (directory : κ → List UInt8) (cs : List κ) source file id c,
      (Catalog.ofList (fun c => .ofBytes (directory c)) cs).resolve? .bytes source (some file) =
        some id →
      Catalog.lastAt (fun c => .ofBytes (directory c)) cs (Catalog.target .bytes source file) =
        some c →
      ((Catalog.ofList (fun c => .ofBytes (directory c)) cs).component? .bytes id = some c ↔
        (Catalog.target .bytes source file).IsUtf8)) ∧
    ∀ root options (cs : List Component) t p,
      IdsStandFor .plain (fun _ => True) Component.directory cs
        (fun c => c.wrapper t root options p) (ofList root options cs).resolve?
        fun id => (ofList root options cs).load? t id p := by
  refine ⟨fun directory cs make => idsStandFor (fun _ => read_write_of_isUtf8) _ cs make,
    fun directory cs source file id c => component?_bytes_iff, fun root options cs t p => ?_⟩
  exact idsStandFor (fun _ _ => rfl) Component.directory cs _

/-- Three components, of which the last is registered over the first. -/
def shadowing : List Component :=
  [⟨"feed", ⟨"src/feed"⟩, ⟨"src/feed/index.tsx"⟩, .none, ∅, []⟩,
    ⟨"post", ⟨"src/post"⟩, ⟨"src/post/index.tsx"⟩, .none, ∅, []⟩,
    ⟨"again", ⟨"./src/post/..//feed/"⟩, ⟨"src/feed/index.jsx"⟩, .none, ∅, []⟩]

/-- Directories of which two have bytes that are no text. -/
def oddBytes : List (List UInt8) :=
  [bytesOf "src/é", bytesOf "src/f" ++ [0xff], bytesOf "src/f" ++ [0xfe]]

/-- The import of the directory that two components have loads the later one, and among directories
of any bytes that of a text is loaded. -/
theorem resolved_loads_shadowing :
    (∃ id c, (ofList ⟨""⟩ {} shadowing).resolve? "./feed/." (some ⟨"src/main.ts"⟩) = some id ∧
      lastAt shadowing (target "./feed/." ⟨"src/main.ts"⟩) = some c ∧ c.name = "again" ∧
      ∀ t p, (ofList ⟨""⟩ {} shadowing).load? t id p = some (c.wrapper t ⟨""⟩ {} p)) ∧
    ∃ id, (Catalog.ofList Path.ofBytes oddBytes).resolve? .bytes "./é"
        (some (.ofBytes (bytesOf "src/" ++ [0xff]))) = some id ∧
      (Catalog.ofList Path.ofBytes oddBytes).load? .bytes List.length id = some 6 := by
  obtain ⟨hbytes, -, htexts⟩ := resolved_loads
  constructor
  · have hid : (ofList ⟨""⟩ {} shadowing).resolve? "./feed/." (some ⟨"src/main.ts"⟩) =
        some (idMark ++ "src/feed") := by decide +kernel
    have hlast : ∃ c, lastAt shadowing (target "./feed/." ⟨"src/main.ts"⟩) = some c ∧
        c.name = "again" := ⟨_, rfl, by decide +kernel⟩
    obtain ⟨c, hc, hname⟩ := hlast
    refine ⟨_, c, hid, hc, hname, fun t p => ?_⟩
    obtain ⟨file, c', hfile, hc', hload⟩ := (htexts ⟨""⟩ {} shadowing t p).loads _ _ _ hid
    cases hfile
    obtain rfl : c = c' := Option.some.inj (hc.symm.trans hc')
    exact hload trivial
  · have hid : (Catalog.ofList Path.ofBytes oddBytes).resolve? .bytes "./é"
        (some (.ofBytes (bytesOf "src/" ++ [0xff]))) = some (idMark ++ "src/é") := by
      decide +kernel
    obtain ⟨file, c, hfile, hc, hload⟩ := (hbytes id oddBytes List.length).loads _ _ _ hid
    cases hfile
    have hlast : Catalog.lastAt Path.ofBytes oddBytes
        (Catalog.target .bytes "./é" (.ofBytes (bytesOf "src/" ++ [0xff]))) =
          some (bytesOf "src/é") := by decide +kernel
    obtain rfl : bytesOf "src/é" = c := Option.some.inj (hlast.symm.trans hc)
    exact ⟨_, hid, hload ⟨⟨"src/é"⟩, by decide +kernel⟩⟩

/-- **What has no text is lost in ids.** A directory with other bytes is given an id that loads
nothing, two of them are given one id; and not every source that leads to a directory is given its
id, but one that begins with a dot or a slash. -/
theorem ids_lose_bytes :
    (∃ id, (Catalog.ofList Path.ofBytes oddBytes).resolve? .bytes "."
        (some (.ofBytes (bytesOf "src/f" ++ [0xff] ++ bytesOf "/main.ts"))) = some id ∧
      (Catalog.ofList Path.ofBytes oddBytes).resolve? .bytes "."
        (some (.ofBytes (bytesOf "src/f" ++ [0xfe] ++ bytesOf "/main.ts"))) = some id ∧
      (Catalog.ofList Path.ofBytes oddBytes).load? .bytes List.length id = none) ∧
    (∀ b ∈ [0xff, 0xfe], (Catalog.ofList Path.ofBytes oddBytes).get?
      (.ofBytes (bytesOf "src/f" ++ [b])) = some (bytesOf "src/f" ++ [b])) ∧
    (ofList ⟨""⟩ {} shadowing).resolve? "./feed" (some ⟨"src/main.ts"⟩) =
      some (idMark ++ "src/feed") ∧
    target "feed" ⟨"src/main.ts"⟩ = target "./feed" ⟨"src/main.ts"⟩ ∧
    (ofList ⟨""⟩ {} shadowing).resolve? "feed" (some ⟨"src/main.ts"⟩) = none := by
  refine ⟨⟨idMark ++ "src/f\uFFFD", ?_, ?_, ?_⟩, ?_, ?_, ?_, ?_⟩
  all_goals decide +kernel

end Registry

end ViewLayers
