import Gamepad.Proofs.TomlValues
import Gamepad.Toml.Library

/-!
A document reads back as the table that it writes: a line for a key is one statement, and no
statement clashes with the ones before it as long as the keys of a table differ. Main statement: a
well-formed document is rendered as a text from which its table is read. So the library here keeps
the promise of any library for TOML.
-/

namespace Gamepad.Toml

/-! ## Keys -/

structure IsBare (key : String) : Prop where
  nonempty : key.toList ≠ []
  bare : ∀ c ∈ key.toList, isBareChar c = true

theorem isBare_ofList (word : List Char) (bare : word ≠ [] ∧ word.all isBareChar = true) :
    IsBare (.ofList word) := by
  rw [← String.toList_ofList (l := word), List.all_eq_true] at bare
  exact ⟨bare.1, bare.2⟩

theorem ne_of_isBareChar {c : Char} (bare : isBareChar c = true) :
    c ≠ ' ' ∧ c ≠ '\t' ∧ c ≠ '\n' ∧ c ≠ '\r' ∧ c ≠ '#' ∧ c ≠ '[' ∧ c ≠ '"' ∧ c ≠ '\'' ∧
      c ≠ '\ufeff' := by
  refine ⟨?_, ?_, ?_, ?_, ?_, ?_, ?_, ?_, ?_⟩ <;>
  · rintro rfl
    cases bare

theorem IsBare.eq_cons {key : String} (bare : IsBare key) :
    ∃ c rest, key.toList = c :: rest ∧ isBareChar c = true := by
  match shown : key.toList with
  | [] => exact absurd shown bare.nonempty
  | c :: rest => exact ⟨c, rest, rfl, bare.bare c (shown ▸ List.mem_cons_self ..)⟩

theorem skipSpaces_of_not_isSpace {c : Char} {text : List Char} (shown : isSpace c = false) :
    skipSpaces (c :: text) = c :: text :=
  List.dropWhile_cons_of_neg (by simp [shown])

theorem IsBare.skipSpaces_eq {key : String} (bare : IsBare key) (rest : List Char) :
    skipSpaces (key.toList ++ rest) = key.toList ++ rest := by
  obtain ⟨c, text, shown, first⟩ := bare.eq_cons
  have other := ne_of_isBareChar first
  rw [shown]
  exact skipSpaces_of_not_isSpace (by simp [isSpace, other])

theorem IsBare.readKey_eq {key : String} (bare : IsBare key) (c : Char) (rest : List Char)
    (ends : isBareChar c = false) :
    readKey (key.toList ++ c :: rest) = some (key, c :: rest) := by
  have word : (key.toList ++ c :: rest).takeWhile isBareChar = key.toList := by
    rw [List.takeWhile_append_of_pos bare.bare, List.takeWhile_cons_of_neg (by simp [ends]),
      List.append_nil]
  have behind : (key.toList ++ c :: rest).dropWhile isBareChar = c :: rest := by
    rw [List.dropWhile_append_of_pos bare.bare, List.dropWhile_cons_of_neg (by simp [ends])]
  obtain ⟨first, text, shown, start⟩ := bare.eq_cons
  have other := ne_of_isBareChar start
  rw [readKey.eq_def]
  split
  · simp_all
  · simp_all
  · split
    next empty => exact absurd (word.symm.trans empty) bare.nonempty
    next => rw [word, behind, String.ofList_toList]

theorem IsBare.readPath_eq {key : String} (bare : IsBare key) (c : Char) (rest : List Char)
    (ends : isBareChar c = false) (alone : ∀ more, skipSpaces (c :: rest) ≠ '.' :: more) :
    readPath (key.toList ++ c :: rest) = some ([key], skipSpaces (c :: rest)) := by
  have step : ∀ limit, readKeys (limit + 1) (key.toList ++ c :: rest) =
      some ([key], skipSpaces (c :: rest)) := by
    intro limit
    rw [readKeys, bare.skipSpaces_eq, bare.readKey_eq c rest ends]
    simp only [Option.bind_eq_bind, Option.bind_some]
    rfl
  exact step 78

/-! ## Lines -/

theorem Field.write_eq_cons (field : Field) :
    ∃ c written, field.write = c :: written ∧ isSpace c = false := by
  cases field with
  | text body =>
    obtain ⟨quote, written, shown, which⟩ := writeText_eq_cons body
    refine ⟨quote, written, shown, ?_⟩
    rcases which with rfl | rfl <;> rfl
  | number value =>
    obtain ⟨c, written, shown, start⟩ :=
      signed_eq_cons (decide (value.toInt < 0)) value.toInt.natAbs
    refine ⟨c, written, (toList_toString value.toInt).trans shown, ?_⟩
    rcases start with digit | rfl
    · have other := ne_of_isDigit digit
      simp [isSpace, other]
    · rfl
  | texts items =>
    match items with
    | [] => exact ⟨_, _, rfl, rfl⟩
    | [_] => exact ⟨_, _, rfl, rfl⟩
    | _ :: _ :: _ => exact ⟨_, _, rfl, rfl⟩

def entryLine (entry : String × Field) : List Char :=
  entry.1.toList ++ " = ".toList ++ entry.2.write ++ ['\n']

def headerLine (name : String) : List Char := "[".toList ++ name.toList ++ "]\n".toList

theorem read_entryLine (entry : String × Field) (bare : IsBare entry.1) (rest : List Char) :
    Statement.read (entryLine entry ++ rest) =
      some (.pair [entry.1] entry.2.toValue, '\n' :: rest) := by
  obtain ⟨key, field⟩ := entry
  have line : entryLine (key, field) ++ rest =
      key.toList ++ ' ' :: '=' :: ' ' :: (field.write ++ '\n' :: rest) := by simp [entryLine]
  have path := bare.readPath_eq ' ' ('=' :: ' ' :: (field.write ++ '\n' :: rest)) rfl
    (by
      intro more same
      cases same)
  have spaces : skipSpaces (' ' :: (field.write ++ '\n' :: rest)) =
      field.write ++ '\n' :: rest := by
    obtain ⟨c, written, shown, visible⟩ := field.write_eq_cons
    rw [shown]
    exact skipSpaces_of_not_isSpace visible
  have value : readValue depthLimit (field.write ++ '\n' :: rest) =
      some (field.toValue, '\n' :: rest) := readValue_write 78 field rest
  have pair : readPair (readValue depthLimit) (entryLine (key, field) ++ rest) =
      some (([key], field.toValue), '\n' :: rest) := by
    rw [line, readPair, path]
    have equals : skipSpaces (' ' :: '=' :: ' ' :: (field.write ++ '\n' :: rest)) =
        '=' :: ' ' :: (field.write ++ '\n' :: rest) := rfl
    simp only [equals, Option.bind_eq_bind, Option.bind_some, spaces, value]
    rfl
  obtain ⟨c, text, shown, start⟩ := bare.eq_cons
  have other := ne_of_isBareChar start
  rw [Statement.read.eq_def]
  split
  next same => simp_all [entryLine]
  next =>
    rw [pair]
    rfl

theorem read_headerLine (name : String) (bare : IsBare name) (rest : List Char) :
    Statement.read (headerLine name ++ rest) = some (.table [name], '\n' :: rest) := by
  have line : headerLine name ++ rest = '[' :: (name.toList ++ ']' :: '\n' :: rest) := by
    simp [headerLine]
  have path := bare.readPath_eq ']' ('\n' :: rest) rfl
    (by
      intro more same
      cases same)
  have bracket : skipSpaces (']' :: '\n' :: rest) = ']' :: '\n' :: rest := rfl
  obtain ⟨c, text, shown, start⟩ := bare.eq_cons
  have other := ne_of_isBareChar start
  rw [line, Statement.read, Statement.readHeader.eq_def]
  split
  next same => simp_all
  next =>
    rw [path]
    simp only [bracket, Option.bind_eq_bind, Option.bind_some]
    rfl

/-- A text of whole lines that reads as these statements. -/
def LinesRead (text : List Char) (statements : List Statement) : Prop :=
  ∀ fuel, text.length < fuel → Statement.readLines fuel text = some statements

theorem linesRead_nil : LinesRead [] [] := by
  intro fuel enough
  cases fuel with
  | zero => cases enough
  | succ fuel => rfl

theorem linesRead_blank {text : List Char} {statements : List Statement}
    (lines : LinesRead text statements) : LinesRead ('\n' :: text) statements := by
  intro fuel enough
  cases fuel with
  | zero => cases enough
  | succ fuel => exact lines fuel (Nat.lt_of_succ_lt_succ enough)

theorem linesRead_cons {c : Char} {line rest : List Char} {statement : Statement}
    {statements : List Statement} (visible : isSpace c = false)
    (starts : (c = '#' || c = '\n' || c = '\r') = false)
    (read : Statement.read (c :: line ++ rest) = some (statement, '\n' :: rest))
    (lines : LinesRead rest statements) :
    LinesRead (c :: line ++ rest) (statement :: statements) := by
  intro fuel enough
  cases fuel with
  | zero => cases enough
  | succ fuel =>
    -- A line has a character at least, so the fuel lasts for the rest.
    have shorter : rest.length < fuel := by
      rw [List.length_append, List.length_cons] at enough
      omega
    have ended : endLine? ('\n' :: rest) = some rest := rfl
    rw [List.cons_append] at read ⊢
    rw [Statement.readLines, skipSpaces_of_not_isSpace visible]
    simp only [starts, read, ended, lines fuel shorter, Option.bind_eq_bind, Option.bind_some]
    rfl

theorem linesRead_entry (entry : String × Field) (bare : IsBare entry.1) {rest : List Char}
    {statements : List Statement} (lines : LinesRead rest statements) :
    LinesRead (entryLine entry ++ rest) (.pair [entry.1] entry.2.toValue :: statements) := by
  have read := read_entryLine entry bare rest
  obtain ⟨c, text, shown, start⟩ := bare.eq_cons
  have other := ne_of_isBareChar start
  have line : entryLine entry = c :: (text ++ " = ".toList ++ entry.2.write ++ ['\n']) := by
    rw [entryLine, shown]
    rfl
  rw [line] at read ⊢
  exact linesRead_cons (by simp [isSpace, other]) (by simp [other]) read lines

theorem linesRead_header (name : String) (bare : IsBare name) {rest : List Char}
    {statements : List Statement} (lines : LinesRead rest statements) :
    LinesRead (headerLine name ++ rest) (.table [name] :: statements) :=
  linesRead_cons rfl rfl (read_headerLine name bare rest) lines

namespace Document

/-- A document in which every key is bare and differs from the others of its table. -/
structure WellFormed (document : Document) : Prop where
  entries : ∀ entry ∈ document.entries, IsBare entry.1
  sections : ∀ part ∈ document.sections,
    IsBare part.1 ∧ (∀ entry ∈ part.2, IsBare entry.1) ∧ (part.2.map Prod.fst).Nodup
  distinct : (document.entries.map Prod.fst ++ document.sections.map Prod.fst).Nodup

def pairs (entries : List (String × Field)) : List Statement :=
  entries.map fun (key, field) => .pair [key] field.toValue

def headed (part : String × List (String × Field)) : List Statement :=
  .table [part.1] :: pairs part.2

def statements (document : Document) : List Statement :=
  pairs document.entries ++ document.sections.flatMap headed

theorem writeEntries_cons (entry : String × Field) (entries : List (String × Field)) :
    writeEntries (entry :: entries) = entryLine entry ++ writeEntries entries := rfl

theorem writeSections_cons (part : String × List (String × Field))
    (parts : List (String × List (String × Field))) : writeSections (part :: parts) =
      '\n' :: (headerLine part.1 ++ (writeEntries part.2 ++ writeSections parts)) := by
  simp [writeSections, headerLine]

theorem linesRead_writeEntries (entries : List (String × Field))
    (bare : ∀ entry ∈ entries, IsBare entry.1) {rest : List Char} {statements : List Statement}
    (lines : LinesRead rest statements) :
    LinesRead (writeEntries entries ++ rest) (pairs entries ++ statements) := by
  induction entries with
  | nil => exact lines
  | cons entry entries ih =>
    rw [List.forall_mem_cons] at bare
    rw [writeEntries_cons, List.append_assoc]
    exact linesRead_entry entry bare.1 (ih bare.2)

theorem linesRead_writeSections (parts : List (String × List (String × Field)))
    (bare : ∀ part ∈ parts, IsBare part.1 ∧ ∀ entry ∈ part.2, IsBare entry.1) :
    LinesRead (writeSections parts) (parts.flatMap headed) := by
  induction parts with
  | nil => exact linesRead_nil
  | cons part parts ih =>
    rw [List.forall_mem_cons] at bare
    obtain ⟨⟨name, entries⟩, later⟩ := bare
    have inner := linesRead_writeEntries part.2 entries (ih later)
    rw [writeSections_cons]
    exact linesRead_blank (linesRead_header part.1 name inner)

theorem head_ne_mark (entries : List (String × Field)) (bare : ∀ entry ∈ entries, IsBare entry.1)
    (parts : List (String × List (String × Field))) (rest : List Char) :
    writeEntries entries ++ writeSections parts ≠ '\ufeff' :: rest := by
  intro same
  match entries, parts with
  | [], [] => cases same
  | [], part :: parts =>
    rw [writeSections_cons] at same
    cases (List.cons.inj same).1
  | entry :: entries, parts =>
    obtain ⟨c, text, shown, start⟩ := (bare entry (List.mem_cons_self ..)).eq_cons
    rw [writeEntries_cons, entryLine, shown] at same
    have mark : c = '\ufeff' := (List.cons.inj same).1
    exact absurd mark (by simp [ne_of_isBareChar start])

theorem readAll_render (document : Document) (wellFormed : document.WellFormed) :
    Statement.readAll document.render.toList = some document.statements := by
  have bare : ∀ part ∈ document.sections, IsBare part.1 ∧ ∀ entry ∈ part.2, IsBare entry.1 := by
    intro part inside
    obtain ⟨name, entries, _⟩ := wellFormed.sections part inside
    exact ⟨name, entries⟩
  have lines := linesRead_writeEntries document.entries wellFormed.entries
    (linesRead_writeSections document.sections bare)
  rw [render, String.toList_ofList, Statement.readAll.eq_def]
  split
  next same => exact absurd same (head_ne_mark _ wellFormed.entries _ _)
  next => exact lines _ (Nat.lt_succ_self _)

end Document

/-! ## Tables -/

theorem lookup_eq_none_of_not_mem {β : Type} {entries : List (String × β)} {key : String}
    (fresh : key ∉ entries.map Prod.fst) : entries.lookup key = none := by
  rw [List.lookup_eq_none_iff]
  intro entry inside
  have other : key ≠ entry.1 := fun same => fresh (same ▸ List.mem_map_of_mem inside)
  simpa using other

namespace Entries

theorem insert_of_fresh (key : String) (value : Value) (entries : Entries)
    (fresh : key ∉ entries.map Prod.fst) :
    Entries.insert [] key value entries = some (entries ++ [(key, .value value)]) := by
  rw [Entries.insert, Entries.change, lookup_eq_none_of_not_mem fresh]
  rfl

theorem openTable_of_fresh (key : String) (entries : Entries)
    (fresh : key ∉ entries.map Prod.fst) :
    Entries.openTable key entries = some (entries ++ [(key, .table .header [])]) := by
  rw [Entries.openTable, lookup_eq_none_of_not_mem fresh]

theorem lookup_last (key : String) (node : Node) (before : Entries)
    (fresh : key ∉ before.map Prod.fst) : (before ++ [(key, node)]).lookup key = some node := by
  rw [List.lookup_append, lookup_eq_none_of_not_mem fresh]
  simp

theorem replace_last (key : String) (old new : Node) (before : Entries)
    (fresh : key ∉ before.map Prod.fst) :
    Entries.replace (before ++ [(key, old)]) key new = before ++ [(key, new)] := by
  have unchanged :
      before.map (fun entry => if entry.1 = key then (key, new) else entry) = before := by
    have apart : ∀ entry ∈ before, entry.1 ≠ key :=
      fun entry inside same => fresh (same ▸ List.mem_map_of_mem inside)
    calc
      _ = before.map id := List.map_congr_left fun entry inside => if_neg (apart entry inside)
      _ = before := List.map_id before
  rw [Entries.replace, List.map_append, unchanged]
  simp

end Entries

namespace Document

def nodes (entries : List (String × Field)) : Entries :=
  entries.map fun (key, field) => (key, .value field.toValue)

def sectionNode (part : String × List (String × Field)) : String × Node :=
  (part.1, .table .header (nodes part.2))

theorem map_fst_nodes (entries : List (String × Field)) :
    (nodes entries).map Prod.fst = entries.map Prod.fst := by
  rw [nodes, List.map_map]
  rfl

theorem apply_pair_root (root : Entries) (key : String) (value : Value)
    (fresh : key ∉ root.map Prod.fst) :
    Statement.apply { root, current := [] } (.pair [key] value) =
      some { root := root ++ [(key, .value value)], current := [] } := by
  have inserted := Entries.insert_of_fresh key value root fresh
  simp only [Statement.apply, Entries.change, List.getLast?_singleton, List.dropLast_singleton,
    inserted, Option.bind_eq_bind, Option.bind_some]
  rfl

/-- A line below a header adds to the table of that header, which is the last one. -/
theorem apply_pair_section (before inner : Entries) (name key : String) (value : Value)
    (last : name ∉ before.map Prod.fst) (fresh : key ∉ inner.map Prod.fst) :
    Statement.apply { root := before ++ [(name, .table .header inner)], current := [name] }
        (.pair [key] value) =
      some { root := before ++ [(name, .table .header (inner ++ [(key, .value value)]))]
             current := [name] } := by
  have inserted := Entries.insert_of_fresh key value inner fresh
  have found := Entries.lookup_last name (.table .header inner) before last
  have replaced := Entries.replace_last name (.table .header inner)
    (.table .header (inner ++ [(key, .value value)])) before last
  simp only [Statement.apply, Entries.change, List.getLast?_singleton, List.dropLast_singleton,
    found, inserted, replaced, Option.bind_eq_bind, Option.bind_some]
  rfl

theorem apply_table (root : Entries) (current : List String) (name : String)
    (fresh : name ∉ root.map Prod.fst) :
    Statement.apply { root, current } (.table [name]) =
      some { root := root ++ [(name, .table .header [])], current := [name] } := by
  have opened := Entries.openTable_of_fresh name root fresh
  simp only [Statement.apply, Statement.changeParent, Entries.change, List.getLast?_singleton,
    List.dropLast_singleton, opened, Option.bind_eq_bind, Option.bind_some]
  rfl

theorem foldlM_pairs (place : Entries → Statement.Building)
    (step : ∀ table key value, key ∉ table.map Prod.fst →
      Statement.apply (place table) (.pair [key] value) =
        some (place (table ++ [(key, .value value)])))
    (entries : List (String × Field)) (table : Entries)
    (distinct : (table.map Prod.fst ++ entries.map Prod.fst).Nodup) :
    (pairs entries).foldlM Statement.apply (place table) =
      some (place (table ++ nodes entries)) := by
  induction entries generalizing table with
  | nil =>
    rw [nodes, List.map_nil, List.append_nil]
    rfl
  | cons entry entries ih =>
    obtain ⟨key, field⟩ := entry
    have fresh : key ∉ table.map Prod.fst := by
      intro inside
      exact (List.nodup_append.mp distinct).2.2 key inside key (List.mem_cons_self ..) rfl
    have later := ih (table ++ [(key, .value field.toValue)]) (by simpa using distinct)
    rw [pairs, List.map_cons, List.foldlM_cons, step table key _ fresh]
    refine later.trans ?_
    rw [List.append_assoc]
    rfl

theorem foldlM_headed (root : Entries) (current : List String)
    (part : String × List (String × Field)) (fresh : part.1 ∉ root.map Prod.fst)
    (distinct : (part.2.map Prod.fst).Nodup) :
    (headed part).foldlM Statement.apply { root, current } =
      some { root := root ++ [sectionNode part], current := [part.1] } := by
  rw [headed, List.foldlM_cons, apply_table root current part.1 fresh]
  exact foldlM_pairs
    (fun inner => { root := root ++ [(part.1, .table .header inner)], current := [part.1] })
    (fun inner key value => apply_pair_section root inner part.1 key value fresh) part.2 [] distinct

theorem foldlM_sections (parts : List (String × List (String × Field)))
    (inner : ∀ part ∈ parts, (part.2.map Prod.fst).Nodup) (root : Entries) (current : List String)
    (distinct : (root.map Prod.fst ++ parts.map Prod.fst).Nodup) :
    ∃ last, (parts.flatMap headed).foldlM Statement.apply { root, current } =
      some { root := root ++ parts.map sectionNode, current := last } := by
  induction parts generalizing root current with
  | nil => exact ⟨current, by simp⟩
  | cons part parts ih =>
    rw [List.forall_mem_cons] at inner
    have fresh : part.1 ∉ root.map Prod.fst := by
      intro inside
      exact (List.nodup_append.mp distinct).2.2 part.1 inside part.1 (List.mem_cons_self ..) rfl
    obtain ⟨last, later⟩ := ih inner.2 (root ++ [sectionNode part]) [part.1]
      (by simpa [sectionNode] using distinct)
    refine ⟨last, ?_⟩
    rw [List.flatMap_cons, List.foldlM_append, foldlM_headed root current part fresh inner.1]
    refine later.trans ?_
    rw [List.append_assoc]
    rfl

theorem foldlM_statements (document : Document) (wellFormed : document.WellFormed) :
    ∃ last, document.statements.foldlM Statement.apply {} =
      some { root := nodes document.entries ++ document.sections.map sectionNode
             current := last } := by
  have distinct := wellFormed.distinct
  have first := foldlM_pairs (fun root => { root, current := [] })
    (fun root key value => apply_pair_root root key value) document.entries []
    (List.nodup_append.mp distinct).1
  obtain ⟨last, later⟩ := foldlM_sections document.sections
    (fun part inside => (wellFormed.sections part inside).2.2) (nodes document.entries) []
    (by rwa [map_fst_nodes])
  refine ⟨last, ?_⟩
  rw [statements, List.foldlM_append, first]
  exact later

theorem nodeValues_append (first second : List (String × Node)) :
    nodeValues (first ++ second) = nodeValues first ++ nodeValues second := by
  induction first with
  | nil => rfl
  | cons entry first ih => rw [List.cons_append, nodeValues, nodeValues, ih, List.cons_append]

theorem nodeValues_nodes (entries : List (String × Field)) :
    nodeValues (nodes entries) = values entries := by
  induction entries with
  | nil => rfl
  | cons entry entries ih => exact congrArg ((entry.1, entry.2.toValue) :: ·) ih

theorem nodeValues_sections (parts : List (String × List (String × Field))) :
    nodeValues (parts.map sectionNode) =
      parts.map fun (name, entries) => (name, .table (values entries)) := by
  induction parts with
  | nil => rfl
  | cons part parts ih =>
    rw [List.map_cons, nodeValues, ih, sectionNode, entryValue, Node.toValue, nodeValues_nodes]
    rfl

/-- The text of a well-formed document is read as the table that it writes. -/
theorem read_render (document : Document) (wellFormed : document.WellFormed) :
    Toml.read document.render = some document.toTable := by
  obtain ⟨last, built⟩ := document.foldlM_statements wellFormed
  rw [Toml.read, document.readAll_render wellFormed]
  simp only [built, Option.bind_eq_bind, Option.bind_some]
  rw [nodeValues_append, nodeValues_nodes, nodeValues_sections]
  rfl

end Document

/-! ## Libraries -/

/-- What a library promises: it reads back what it wrote, and refuses a number that is too large. -/
structure Library.Faithful (library : Library) : Prop where
  keeps : ∀ draft document, draft.document? = some document → document.WellFormed →
    ∃ text, library.write draft = some text ∧ library.read text = some document.toTable
  refuses : ∀ draft, draft.document? = none → library.write draft = none

theorem library_faithful : library.Faithful where
  keeps _ document fits wellFormed :=
    ⟨document.render, congrArg (Option.map Document.render) fits, document.read_render wellFormed⟩
  refuses _ exceeds := congrArg (Option.map Document.render) exceeds

end Gamepad.Toml
