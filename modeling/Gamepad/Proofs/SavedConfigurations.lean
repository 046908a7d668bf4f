import Gamepad.Configuration.Storage
import Gamepad.Proofs.ConfigurationDocuments

/-!
A configuration survives in a file. Saving creates the directories above the file and fails only
for a capacity that no document can hold; loading reads back what was saved, or what somebody left
of it, and then judges it. Main statement: at every path where a file can be written, a saved
configuration is loaded as it was, with the defaults for what was taken out of the file. It is
proved for any library that keeps its promise about TOML, and holds of the one in use as a case.
-/

namespace Gamepad

/-! ## Files -/

namespace Files

/-- A file can be written here: none stands in place of a directory on the way, and no directory
in place of the file. -/
structure Writable (files : Files) (path : Path) : Prop where
  way : ∀ directory ∈ path.above, ∀ content, files.node? directory ≠ some (.file content)
  place : files.node? path ≠ some .directory

/-- The files are the same ones with the same contents, whatever directories were created. -/
structure KeepsContents (files changed : Files) : Prop where
  same : ∀ path content,
    changed.node? path = some (.file content) ↔ files.node? path = some (.file content)
  read : ∀ path content, files.read path = .ok content → changed.read path = .ok content

theorem node?_put (files : Files) (path other : Path) (node : FileNode) (below : path ≠ []) :
    (files.put path node).node? other = if other = path then some node else files.node? other := by
  by_cases root : other = []
  · subst root
    rw [if_neg below.symm]
    rfl
  · by_cases same : other = path
    · subst same
      simp [node?, put, root]
    · have different : (other == path) = false := beq_eq_false_iff_ne.mpr same
      simp [node?, put, root, same, List.lookup_cons, different]

theorem obstacle?_eq_none_iff (files : Files) (path : Path) :
    files.obstacle? path = none ↔
      ∀ directory ∈ path.above, files.node? directory = some .directory := by
  rw [obstacle?, List.findSome?_eq_none_iff]
  refine forall₂_congr fun directory _ => ?_
  match files.node? directory with
  | none => simp
  | some .directory => simp
  | some (.file _) => simp

theorem read_eq_ok_iff (files : Files) (path : Path) (content : ByteArray) :
    files.read path = .ok content ↔ (∀ directory ∈ path.above,
      files.node? directory = some .directory) ∧ files.node? path = some (.file content) := by
  rw [← obstacle?_eq_none_iff, read]
  match files.obstacle? path, files.node? path with
  | some _, _ => simp
  | none, none => simp
  | none, some .directory => simp
  | none, some (.file _) => simp

def makeDirectory (last : Path) (files : Files) (directory : Path) : Except FileError Files :=
  match files.node? directory with
  | some .directory => .ok files
  | some (.file _) => .error (if directory = last then .fileExists else .notDirectory)
  | none => .ok (files.put directory .directory)

theorem foldlM_makeDirectory (last : Path) (directories : List Path) (files : Files)
    (free : ∀ directory ∈ directories, ∀ content,
      files.node? directory ≠ some (.file content)) :
    ∃ made, directories.foldlM (makeDirectory last) files = .ok made ∧
      ∀ path, made.node? path =
        if path ∈ directories then some .directory else files.node? path := by
  induction directories generalizing files with
  | nil => exact ⟨files, rfl, fun path => by simp⟩
  | cons directory directories ih =>
    rw [List.forall_mem_cons] at free
    match found : files.node? directory with
    | some (.file content) => exact absurd found (free.1 content)
    | some .directory =>
      obtain ⟨made, run, nodes⟩ := ih files free.2
      refine ⟨made, ?_, fun path => ?_⟩
      · rw [List.foldlM_cons, makeDirectory, found]
        exact run
      · rw [nodes path]
        by_cases first : path = directory
        · simp [first, found]
        · simp [first]
    | none =>
      -- Only the root is there in any tree of files, so this directory is not the root.
      have below : directory ≠ [] := by
        rintro rfl
        cases found
      obtain ⟨made, run, nodes⟩ := ih (files.put directory .directory) (by
        intro other inside content
        rw [node?_put files directory other .directory below]
        split
        next _ => simp
        next _ => exact free.2 other inside content)
      refine ⟨made, ?_, fun path => ?_⟩
      · rw [List.foldlM_cons, makeDirectory, found]
        exact run
      · rw [nodes path, node?_put files directory path .directory below]
        by_cases first : path = directory
        · simp [first]
        · simp [first]

end Files

theorem Path.above_eq (path : Path) (below : path ≠ []) :
    path.above = Path.above path.dropLast ++ [path.dropLast] := by
  obtain ⟨before, last, rfl⟩ := (List.eq_nil_or_concat' path).resolve_left below
  rw [Path.above, Path.above, List.dropLast_concat, List.length_append, List.length_singleton,
    List.range_succ, List.map_append, List.map_singleton, List.take_left]
  congr 1
  refine List.map_congr_left fun size inside => ?_
  exact List.take_append_of_le_length (Nat.le_of_lt (List.mem_range.mp inside))

theorem Path.not_mem_above (path : Path) : path ∉ path.above := by
  intro inside
  obtain ⟨size, shorter, same⟩ := List.mem_map.mp inside
  have lengths := congrArg List.length same
  rw [List.length_take, List.mem_range] at *
  omega

namespace Files

variable {files : Files} {path : Path}

theorem Writable.ne_nil (writable : files.Writable path) : path ≠ [] := by
  rintro rfl
  exact writable.place rfl

theorem Writable.createDirectories (writable : files.Writable path) :
    ∃ made, files.createDirectories path.dropLast = .ok made ∧
      ∀ other, made.node? other =
        if other ∈ path.above then some .directory else files.node? other := by
  have way := path.above_eq writable.ne_nil
  obtain ⟨made, run, nodes⟩ := foldlM_makeDirectory path.dropLast path.above files writable.way
  refine ⟨made, ?_, nodes⟩
  rw [way] at run
  exact run

theorem Writable.keepsContents {made : Files} (writable : files.Writable path)
    (nodes : ∀ other, made.node? other =
      if other ∈ path.above then some .directory else files.node? other) :
    files.KeepsContents made := by
  have same : ∀ other content,
      made.node? other = some (.file content) ↔ files.node? other = some (.file content) := by
    intro other content
    rw [nodes other]
    split
    next inside => simp [writable.way other inside content]
    next _ => rfl
  refine ⟨same, fun other content read => ?_⟩
  rw [read_eq_ok_iff] at read ⊢
  refine ⟨fun directory inside => ?_, (same other content).mpr read.2⟩
  rw [nodes directory]
  split
  next _ => rfl
  next _ => exact read.1 directory inside

theorem Writable.write {made : Files} (writable : files.Writable path)
    (nodes : ∀ other, made.node? other =
      if other ∈ path.above then some .directory else files.node? other) (content : ByteArray) :
    ∃ written, made.write path content = .ok written ∧ written.read path = .ok content := by
  have way : ∀ directory ∈ path.above, made.node? directory = some .directory :=
    fun directory inside => (nodes directory).trans (if_pos inside)
  have place : made.node? path ≠ some .directory := by
    rw [nodes path, if_neg path.not_mem_above]
    exact writable.place
  refine ⟨made.put path (.file content), ?_, ?_⟩
  · rw [Files.write, (obstacle?_eq_none_iff made path).mpr way]
    match found : made.node? path with
    | some .directory => exact absurd found place
    | some (.file _) => rfl
    | none => rfl
  · rw [read_eq_ok_iff]
    constructor
    · intro directory inside
      have apart : directory ≠ path := fun same => path.not_mem_above (same ▸ inside)
      rw [node?_put _ _ _ _ writable.ne_nil, if_neg apart]
      exact way directory inside
    · rw [node?_put _ _ _ _ writable.ne_nil, if_pos rfl]

theorem readText_of_read {text : String} (read : files.read path = .ok text.toUTF8) :
    files.readText path = .ok text := by
  have decoded : String.fromUTF8? text.toUTF8 = some text := dif_pos text.isValidUTF8
  rw [readText, read]
  simp only [bind, Except.bind, decoded]
  rfl

end Files

namespace Configuration

open Toml

def accepted (configuration : Configuration) : Except ConfigurationError Configuration :=
  match configuration.validate with
  | .ok () => .ok configuration
  | .error error => .error error

section AnyLibrary

variable {library : Toml.Library} {configuration : Configuration} {files : Files} {path : Path}
  {text : String}

theorem loadWith_eq_accepted (stored : files.readText path = .ok text)
    (read : (library.read text).bind ofTable? = some configuration) :
    loadWith library files path = configuration.accepted := by
  rw [loadWith, stored, accepted]
  simp only [Except.mapError, bind, Except.bind, read]
  cases configuration.validate <;> rfl

theorem loadWith_without (fits : configuration.capacity < 2 ^ 63) (cut : Cut)
    (stored : files.readText path = .ok text)
    (left : library.read text = some (configuration.document.without cut).toTable) :
    loadWith library files path = (configuration.without cut).accepted := by
  apply loadWith_eq_accepted stored
  rw [left]
  exact ofTable?_without (holds_document fits) cut

theorem loadWith_whole (fits : configuration.capacity < 2 ^ 63)
    (stored : files.readText path = .ok text)
    (whole : library.read text = some configuration.document.toTable) :
    loadWith library files path = configuration.accepted := by
  have loaded := loadWith_without fits .nothing stored
    (by rwa [Document.without_nothing])
  rwa [configuration.without_nothing] at loaded

theorem saveWith_of_refused (writable : files.Writable path)
    (refused : library.write configuration.draft = none) :
    ∃ saved, saveWith library configuration files path = (.error .serialize, saved) ∧
      files.KeepsContents saved := by
  obtain ⟨made, created, nodes⟩ := writable.createDirectories
  refine ⟨made, ?_, writable.keepsContents nodes⟩
  rw [saveWith, created]
  simp only [refused]

theorem saveWith_of_written (writable : files.Writable path)
    (written : library.write configuration.draft = some text) :
    ∃ saved, saveWith library configuration files path = (.ok (), saved) ∧
      saved.read path = .ok text.toUTF8 := by
  obtain ⟨made, created, nodes⟩ := writable.createDirectories
  obtain ⟨saved, stored, read⟩ := writable.write nodes text.toUTF8
  refine ⟨saved, ?_, read⟩
  rw [saveWith, created]
  simp only [written, stored]

/-- Whatever library writes and reads the file: if it is faithful, saving fails exactly for a
capacity beyond the integers of a document, and a saved file is loaded as it was, with the defaults
for what was taken out of it. -/
theorem loadWith_after_saveWith (faithful : library.Faithful) (configuration : Configuration)
    (writable : files.Writable path) :
    ∃ outcome saved, saveWith library configuration files path = (outcome, saved) ∧
      ((∃ error, outcome = .error error) ↔ 2 ^ 63 ≤ configuration.capacity) ∧
      (2 ^ 63 ≤ configuration.capacity → files.KeepsContents saved) ∧
      (configuration.capacity < 2 ^ 63 →
        (∀ later : Files, later.read path = saved.read path →
          loadWith library later path = configuration.accepted) ∧
        ∃ text, library.write configuration.draft = some text ∧ saved.readText path = .ok text ∧
          ∀ cut (later : Files) (text : String), later.readText path = .ok text →
            library.read text = some (configuration.document.without cut).toTable →
            loadWith library later path = (configuration.without cut).accepted) := by
  rcases Nat.lt_or_ge configuration.capacity (2 ^ 63) with fits | exceeds
  · obtain ⟨text, written, reads⟩ := faithful.keeps configuration.draft configuration.document
      (toDocument?_of_fits fits) configuration.wellFormed_document
    obtain ⟨saved, run, read⟩ := saveWith_of_written writable written
    have fails : (∃ error, (.ok () : Except ConfigurationError Unit) = .error error) ↔
        2 ^ 63 ≤ configuration.capacity := by
      refine ⟨?_, fun exceeds => absurd exceeds (Nat.not_le_of_lt fits)⟩
      rintro ⟨_, failed⟩
      cases failed
    refine ⟨_, saved, run, fails, fun exceeds => absurd exceeds (Nat.not_le_of_lt fits),
      fun _ => ⟨fun later unchanged => ?_, text, written, Files.readText_of_read read, ?_⟩⟩
    · exact loadWith_whole fits (Files.readText_of_read (unchanged.trans read)) reads
    · exact fun cut later text stored left => loadWith_without fits cut stored left
  · have refused := faithful.refuses configuration.draft (toDocument?_of_exceeds exceeds)
    obtain ⟨saved, run, kept⟩ := saveWith_of_refused writable refused
    exact ⟨_, saved, run, ⟨fun _ => exceeds, fun _ => ⟨_, rfl⟩⟩, fun _ => kept,
      fun fits => absurd exceeds (Nat.not_le_of_lt fits)⟩

end AnyLibrary

/-- At a path where a file can be written, saving fails exactly for a capacity beyond the integers
of a document, and then all contents stay. A configuration that was saved is loaded as it was, or
refused for what is wrong with it, and what is taken out of its file has its default. -/
theorem load_after_save (configuration : Configuration) (files : Files) (path : Path)
    (writable : files.Writable path) :
    ∃ outcome saved, configuration.save files path = (outcome, saved) ∧
      ((∃ error, outcome = .error error) ↔ 2 ^ 63 ≤ configuration.capacity) ∧
      (2 ^ 63 ≤ configuration.capacity → files.KeepsContents saved) ∧
      (configuration.capacity < 2 ^ 63 →
        (∀ later : Files, later.read path = saved.read path →
          load later path = configuration.accepted) ∧
        ∃ document, configuration.toDocument? = some document ∧
          saved.readText path = .ok document.render ∧
          ∀ cut, Toml.read (document.without cut).render = some (document.without cut).toTable ∧
            ∀ (later : Files) (text : String), later.readText path = .ok text →
              Toml.read text = some (document.without cut).toTable →
              load later path = (configuration.without cut).accepted) := by
  obtain ⟨outcome, saved, run, fails, kept, works⟩ :=
    loadWith_after_saveWith library_faithful configuration writable
  refine ⟨outcome, saved, run, fails, kept, fun fits => ?_⟩
  obtain ⟨whole, text, written, stored, parts⟩ := works fits
  have shown := toDocument?_of_fits fits
  have rendered : text = configuration.document.render := by
    have same : configuration.toDocument?.map Document.render = some text := written
    rw [shown] at same
    exact (Option.some.inj same).symm
  refine ⟨whole, configuration.document, shown, rendered ▸ stored, fun cut => ⟨?_, parts cut⟩⟩
  exact Document.read_render _ (configuration.wellFormed_document.without cut)

theorem load_after_save_nested :
    Files.Writable {} ["nested", "config.toml"] ∧
      let configuration : Configuration :=
        { bindings := ["map-stick-press right char x"]
          quantizer := { axisBand := 25 }
          sourceName := "a \"pad\"\n" }
      ∃ saved, configuration.save {} ["nested", "config.toml"] = (.ok (), saved) ∧
        load saved ["nested", "config.toml"] = .ok configuration := by
  have writable : Files.Writable {} ["nested", "config.toml"] := by
    refine ⟨?_, by simp [Files.node?]⟩
    simp [Path.above, Files.node?, List.range_succ]
  refine ⟨writable, ?_⟩
  intro configuration
  have valid : configuration.accepted = .ok configuration := by decide +kernel
  obtain ⟨outcome, saved, run, fails, _, works⟩ :=
    load_after_save configuration {} ["nested", "config.toml"] writable
  have fits : configuration.capacity < 2 ^ 63 := by decide
  match outcome, run, fails with
  | .ok (), run, _ => exact ⟨saved, run, ((works fits).1 saved rfl).trans valid⟩
  | .error error, _, fails =>
    exact absurd (fails.mp ⟨error, rfl⟩) (Nat.not_le_of_lt fits)

end Configuration

end Gamepad
