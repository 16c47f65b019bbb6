import Mathlib.Data.List.Forall2
import Switchboard.Proofs.Toml.Lines

/-!
# Documents of tables

A document that gives each of its tables a head and then a value for each key, with an empty line
between two tables, stands for those tables. The statements build it up in order: `add_assign` is
the step that one assignment takes and `add_head` the one of a head, and what is there already is
left as it is, since neither a table nor a key comes twice.
-/

namespace Switchboard.Toml

/-! ## Building tables -/

/-- A key that is not among those of a table stands for nothing in it. -/
theorem lookup_eq_none {α : Type} {es : List (String × α)} {k : String} (h : k ∉ es.map (·.1)) :
    es.lookup k = none := by
  rw [List.lookup_eq_none_iff]
  intro e he
  have hne : k ≠ e.1 := fun hk => h (hk ▸ List.mem_map_of_mem he)
  simpa using hne

/-- An entry is found by its key, if no key comes twice. -/
theorem lookup_of_mem {α : Type} {es : List (String × α)} {e : String × α}
    (hkeys : (es.map (·.1)).Nodup) (he : e ∈ es) : es.lookup e.1 = some e.2 := by
  induction es with
  | nil => cases he
  | cons e' es ih =>
    rw [List.map_cons, List.nodup_cons] at hkeys
    rcases List.mem_cons.1 he with rfl | he
    · exact List.lookup_cons_self
    · have hne : (e.1 == e'.1) = false :=
        beq_eq_false_iff_ne.2 fun h => hkeys.1 (h ▸ List.mem_map_of_mem he)
      rw [List.lookup_cons, hne]
      exact ih hkeys.2 he

namespace Branch

variable {b : Branch} {k : String} {n n' : Node}

/-- The table that holds some values. -/
def ofEntries (es : Entries) : Branch := es.map fun (k, v) => (k, .closed v)

/-- The tables of two lists of entries stand one behind the other. -/
theorem ofEntries_append (es es' : Entries) : ofEntries (es ++ es') = ofEntries es ++ ofEntries es' :=
  List.map_append

/-- The keys are those of the entries. -/
theorem keys_ofEntries (es : Entries) : (ofEntries es).map (·.1) = es.map (·.1) := by
  simp [ofEntries, Function.comp_def]

/-- The values are those of the entries. -/
@[simp] theorem values_ofEntries (es : Entries) : values (ofEntries es) = es := by
  induction es with
  | nil => rfl
  | cons e es ih => exact congrArg (e :: ·) ih

/-- The entry that was added last is found. -/
theorem lookup_concat (h : k ∉ b.map (·.1)) : (b ++ [(k, n)]).lookup k = some n := by
  rw [List.lookup_append, lookup_eq_none h]
  simp

/-- The entry that was added last is replaced, and the others stay. -/
theorem put_concat (h : k ∉ b.map (·.1)) : put k n (b ++ [(k, n')]) = b ++ [(k, n)] := by
  induction b with
  | nil => simp [put]
  | cons e b ih =>
    rw [List.map_cons, List.mem_cons, not_or] at h
    rw [List.cons_append, put, if_neg (Ne.symm h.1), ih h.2]
    rfl

end Branch

namespace Draft

open Branch

variable {b : Branch} {name : String} {current : List String}

/-- A draft whose current table is the last one and has a head. -/
def inTable (b : Branch) (name : String) (es : Entries) : Draft :=
  ⟨b ++ [(name, .table .headed (ofEntries es))], [name]⟩

/-- A head that was not given before begins a table. -/
theorem add_head (hname : name ∉ b.map (·.1)) :
    add ⟨b, current⟩ (.table [name]) = some (inTable b name []) := by
  have hopen : b.openTable name = some (b ++ [(name, .table .headed [])]) := by
    rw [openTable, lookup_eq_none hname]
  show (b.openTable name).bind _ = _
  rw [hopen]
  rfl

/-- A key that was not given before in the current table gets its value. -/
theorem add_assign {es : Entries} {k : String} {v : Value} (hname : name ∉ b.map (·.1))
    (hk : k ∉ es.map (·.1)) :
    (inTable b name es).add (.assign [k] (.plain v)) = some (inTable b name (es ++ [(k, v)])) := by
  have hassign : assign true v [k] (ofEntries es) = some (ofEntries (es ++ [(k, v)])) := by
    rw [assign, lookup_eq_none (by rwa [keys_ofEntries]), ofEntries_append]
    rfl
  have hroot : descend (assign true v [k]) [name] (inTable b name es).root =
      some (inTable b name (es ++ [(k, v)])).root := by
    rw [descend, inTable, lookup_concat hname]
    simp only [descend, hassign, Option.map_some, put_concat hname]
    rfl
  show ((inTable b name es).root.descend (assign true v [k]) [name]).bind _ = _
  rw [hroot]
  rfl

/-- Keys that come once each get their values. -/
theorem foldlM_add_assign {es es' : Entries} (hname : name ∉ b.map (·.1))
    (hkeys : ((es ++ es').map (·.1)).Nodup) :
    (es'.map fun (k, v) => Statement.assign [k] (.plain v)).foldlM add (inTable b name es) =
      some (inTable b name (es ++ es')) := by
  -- What has been assigned so far moves into the table, one key at a time.
  induction es' generalizing es with
  | nil => simp
  | cons e es' ih =>
    have hk : e.1 ∉ es.map (·.1) := fun hmem => by
      rw [List.map_append, List.nodup_append] at hkeys
      exact hkeys.2.2 _ hmem _ (by simp) rfl
    rw [List.map_cons, List.foldlM_cons, add_assign hname hk]
    have hrest := @ih (es ++ [e]) (by simpa using hkeys)
    rwa [← List.append_cons] at hrest

end Draft

/-! ## Written tables -/

/-- A key with a value, and how the value is written. -/
structure Assignment where
  /-- The key, which needs no quotes. -/
  key : String
  /-- What is written for the value. -/
  written : List Char
  /-- The value. -/
  value : Value
  isBareKey : IsBareKey key
  isWritten : IsWritten written value

namespace Assignment

/-- A text for a key. -/
def text (k : String) (hk : IsBareKey k) (s : String) : Assignment where
  key := k
  written := quoteText s.toList
  value := .string s
  isBareKey := hk
  isWritten := by simpa using isWritten_quoteText s.toList

/-- A number for a key. -/
def number (k : String) (hk : IsBareKey k) (n : Nat) : Assignment where
  key := k
  written := Nat.toDigits 10 n
  value := .ofInt n
  isBareKey := hk
  isWritten := isWritten_toDigits n

/-- The entry that the assignment makes. -/
def entry (a : Assignment) : String × Value := (a.key, a.value)

/-- The line of the assignment. -/
def line (a : Assignment) : List Char := assignLine a.key a.written

/-- The assignment as a statement. -/
def statement (a : Assignment) : Statement := .assign [a.key] (.plain a.value)

/-- The line of an assignment is read as it. -/
theorem reads_line (a : Assignment) : Reads a.line a.statement :=
  reads_assignLine a.isBareKey a.isWritten

end Assignment

/-- A table with a head and some assignments. -/
structure WrittenTable where
  /-- The name of the table, which needs no quotes. -/
  name : String
  /-- What is assigned in the table. -/
  assignments : List Assignment
  isBareKey : IsBareKey name
  /-- No key comes twice. -/
  nodup_keys : (assignments.map (·.key)).Nodup

namespace WrittenTable

/-- The entries of the table. -/
def entries (t : WrittenTable) : Entries := t.assignments.map (·.entry)

/-- The table as an entry of its document. -/
def entry (t : WrittenTable) : String × Value := (t.name, .table t.entries)

/-- The table as it is built. -/
def node (t : WrittenTable) : String × Node := (t.name, .table .headed (Branch.ofEntries t.entries))

/-- The lines of the table. -/
def lines (t : WrittenTable) : List (List Char) := headLine t.name :: t.assignments.map (·.line)

/-- The lines of the table, with an empty one before the head. -/
def laterLines (t : WrittenTable) : List (List Char) :=
  ('\n' :: headLine t.name) :: t.assignments.map (·.line)

/-- The statements of the table. -/
def statements (t : WrittenTable) : List Statement :=
  .table [t.name] :: t.assignments.map (·.statement)

variable (t : WrittenTable)

/-- The keys of the table are those that are assigned. -/
theorem keys_entries : t.entries.map (·.1) = t.assignments.map (·.key) := by
  simp [entries, Assignment.entry, Function.comp_def]

/-- What is assigned to a key is found by the key. -/
theorem lookup_entries {k : String} {v : Value} (h : (k, v) ∈ t.entries) :
    t.entries.lookup k = some v :=
  lookup_of_mem (e := (k, v)) (by rw [keys_entries]; exact t.nodup_keys) h

/-- The lines of the assignments are read as them. -/
theorem reads_assignments :
    List.Forall₂ Reads (t.assignments.map (·.line)) (t.assignments.map (·.statement)) := by
  rw [List.forall₂_map_left_iff, List.forall₂_map_right_iff, List.forall₂_same]
  exact fun a _ => a.reads_line

/-- The lines of a table are read as its head and its assignments. -/
theorem reads_lines : List.Forall₂ Reads t.lines t.statements :=
  .cons (reads_headLine t.isBareKey) t.reads_assignments

/-- So they are with an empty line in front. -/
theorem reads_laterLines : List.Forall₂ Reads t.laterLines t.statements :=
  .cons (reads_headLine t.isBareKey).afterEmptyLine t.reads_assignments

/-- The statements of a table with a new name build it behind what is there. -/
theorem foldlM_add_statements {b : Branch} {current : List String} (hname : t.name ∉ b.map (·.1)) :
    t.statements.foldlM Draft.add ⟨b, current⟩ = some (Draft.inTable b t.name t.entries) := by
  have hassigns := @Draft.foldlM_add_assign b t.name [] t.entries hname
    (by simpa [keys_entries] using t.nodup_keys)
  rw [statements, List.foldlM_cons, Draft.add_head hname]
  simpa [entries, Assignment.entry, Assignment.statement, Function.comp_def] using hassigns

/-- The statements of tables with new names build them in order. -/
theorem foldlM_add_tables {ts : List WrittenTable} {b : Branch} {current : List String}
    (hnames : (b.map (·.1) ++ ts.map (·.name)).Nodup) :
    ∃ d, (ts.flatMap statements).foldlM Draft.add ⟨b, current⟩ = some d ∧
      d.root = b ++ ts.map node := by
  -- The path of the current table is that of the last head, which the next head does not look at.
  induction ts generalizing b current with
  | nil => exact ⟨_, rfl, by simp⟩
  | cons t ts ih =>
    have hname : t.name ∉ b.map (·.1) := fun hmem => by
      rw [List.nodup_append] at hnames
      exact hnames.2.2 _ hmem _ (by simp) rfl
    obtain ⟨d, hd, hroot⟩ := @ih (b ++ [t.node]) [t.name] (by simpa [node] using hnames)
    refine ⟨d, ?_, by simpa using hroot⟩
    rw [List.flatMap_cons, List.foldlM_append, t.foldlM_add_statements hname]
    exact hd

/-- What the tables hold is what was assigned. -/
theorem values_map_node (ts : List WrittenTable) : Branch.values (ts.map node) = ts.map entry := by
  induction ts with
  | nil => rfl
  | cons t ts ih =>
    rw [List.map_cons, List.map_cons, ← ih, node, Branch.values, Node.value, Branch.values_ofEntries]
    rfl

end WrittenTable

/-! ## Documents -/

/-- The lines of a document of tables, with an empty line between two. -/
def documentLines : List WrittenTable → List (List Char)
  | [] => []
  | t :: ts => t.lines ++ ts.flatMap (·.laterLines)

/-- The lines of a document are read as the statements of its tables. -/
theorem reads_documentLines (ts : List WrittenTable) :
    List.Forall₂ Reads (documentLines ts) (ts.flatMap (·.statements)) := by
  cases ts with
  | nil => exact .nil
  | cons t ts =>
    refine List.rel_append t.reads_lines ?_
    induction ts with
    | nil => exact .nil
    | cons u ts ih => exact List.rel_append u.reads_laterLines ih

/-- A line that is read as a statement is not empty. -/
theorem Reads.ne_nil {line : List Char} {s : Statement} (h : Reads line s) : line ≠ [] := by
  rintro rfl
  obtain ⟨cs, hskip, hne, -⟩ := h []
  exact hne (Option.some.inj hskip).symm

/-- There are at most as many lines as characters. -/
theorem length_le_of_reads {lines : List (List Char)} {ss : List Statement}
    (h : List.Forall₂ Reads lines ss) : lines.length ≤ lines.flatten.length := by
  induction h with
  | nil => exact Nat.le_refl _
  | cons hline _ ih =>
    have := List.length_pos_of_ne_nil hline.ne_nil
    simp only [List.length_cons, List.flatten_cons, List.length_append]
    omega

/-- A document of tables with different names stands for those tables. -/
theorem parse_document {ts : List WrittenTable} {text : String} (hnames : (ts.map (·.name)).Nodup)
    (htext : text.toList = (documentLines ts).flatten) :
    parse text = some (ts.map (·.entry)) := by
  have hreads := reads_documentLines ts
  have hstatements : readStatements text = some (ts.flatMap (·.statements)) := by
    rw [readStatements, htext]
    -- A document begins with a head, so with no byte order mark.
    have hmark : ∀ cs, (documentLines ts).flatten ≠ '\ufeff' :: cs := by
      cases ts with
      | nil => simp [documentLines]
      | cons t ts => simp [documentLines, WrittenTable.lines, headLine]
    split <;> rename_i heq
    · exact absurd heq (hmark _)
    · exact statements?_of_reads hreads (Nat.lt_succ_of_le (length_le_of_reads hreads))
  obtain ⟨d, hd, hroot⟩ := @WrittenTable.foldlM_add_tables ts [] [] (by simpa using hnames)
  have hvalues : Branch.values d.root = ts.map (·.entry) := by
    rw [hroot, List.nil_append, WrittenTable.values_map_node]
  rw [parse, hstatements, Option.bind_some, build, hd]
  exact congrArg some hvalues

end Switchboard.Toml
