import Mathlib.Data.List.Basic
import Sluice.Toml.Document
import Sluice.Proofs.Toml.Value

/-!
# Documents as they are written

A document is read line by line. Some lines say nothing, some set a key, and some open a table. This
file lists ways to write such lines, the tables they make up and the documents that the tables make
up. What is read from a document is what was written, for keys that stand without quotes.

* `BlankLine`, `pairLine`, `headerLine`: the three kinds of lines, with what each of them does to a
  document under construction;
* `Leads draft text next`: the text is made of lines, and reading them leads from one document to
  another;
* `Leads.ofText?_eq`: what a text denotes whose lines lead to a whole document;
* `WritesTable.exists_leads`, `WritesItems.exists_leads`: a table, which may be missing, and a list
  of tables add to a document what was written;
* `fieldLines`: one way to write the fields of a table.
-/

namespace Sluice.Toml

variable {c : Char} {key : String} {data : Data} {w rest text : List Char}
  {draft next last : Draft} {fields : List (String × Data)}

/-! ## Lines that say nothing -/

/-- A line of spaces, with or without a comment after them. -/
inductive BlankLine : List Char → Prop where
  /-- Spaces only. -/
  | spaces {spaces : List Char} (hspaces : ∀ c ∈ spaces, isSpace c = true) :
    BlankLine (spaces ++ ['\n'])
  /-- Spaces and a comment. -/
  | comment {spaces text : List Char} (hspaces : ∀ c ∈ spaces, isSpace c = true)
    (htext : ∀ c ∈ text, isPlain c = true) : BlankLine (spaces ++ '#' :: (text ++ ['\n']))

theorem skipSpaces_cons (hc : isSpace c = false) : skipSpaces (c :: rest) = c :: rest := by
  rw [skipSpaces, List.dropWhile_cons, hc, if_neg Bool.false_ne_true]

/-- Leading spaces are skipped up to the first character that is none. -/
theorem skipSpaces_append {spaces : List Char} (hspaces : ∀ c ∈ spaces, isSpace c = true)
    (hc : isSpace c = false) : skipSpaces (spaces ++ c :: rest) = c :: rest := by
  rw [skipSpaces, List.dropWhile_append_of_pos hspaces]
  exact skipSpaces_cons hc

theorem skipSpaces_space (hc : isSpace c = false) : skipSpaces (' ' :: c :: rest) = c :: rest := by
  -- the space is skipped
  change skipSpaces (c :: rest) = c :: rest
  exact skipSpaces_cons hc

/-- A character that ends no line decides by itself how the line goes on. -/
theorem lineEnd_cons {b : Bool} (hfeed : c ≠ '\n') (hreturn : c ≠ '\r') :
    lineEnd b (c :: rest) =
      if b then (if isPlain c then lineEnd true rest else none)
      else if isSpace c then lineEnd false rest
      else if c = '#' then lineEnd true rest
      else none := by
  rw [lineEnd]
  · exact hfeed
  · simp [hreturn]

theorem lineEnd_comment (htext : ∀ c ∈ text, isPlain c = true) :
    lineEnd true (text ++ '\n' :: rest) = some rest := by
  induction text with
  | nil => rfl
  | cons c text ih =>
    obtain ⟨hc, htext⟩ := List.forall_mem_cons.1 htext
    have hne : c ≠ '\n' ∧ c ≠ '\r' := by
      constructor <;> (rintro rfl; exact absurd hc (by decide))
    rw [List.cons_append, lineEnd_cons hne.1 hne.2, if_pos rfl, if_pos hc, ih htext]

/-- A line that says nothing changes nothing. -/
theorem BlankLine.readLine_eq (h : BlankLine w) :
    readLine draft (w ++ rest) = some (draft, rest) := by
  cases h with
  | spaces hspaces =>
    rw [List.append_assoc, readLine]
    simp only [List.singleton_append,
      skipSpaces_append hspaces (show isSpace '\n' = false by decide), lineEnd]
    rfl
  | @comment spaces text hspaces htext =>
    have hend : lineEnd false ('#' :: (text ++ '\n' :: rest)) = some rest := by
      rw [lineEnd_cons (by decide) (by decide), if_neg Bool.false_ne_true, if_neg (by decide),
        if_pos rfl, lineEnd_comment htext]
    rw [List.append_assoc, List.cons_append, List.append_assoc, List.singleton_append, readLine]
    simp only [skipSpaces_append hspaces (show isSpace '#' = false by decide), hend]
    rfl

/-! ## Lines that set a key -/

/-- The key can stand without quotes. -/
def IsBare (key : String) : Prop := key.toList ≠ [] ∧ ∀ c ∈ key.toList, isKeyChar c = true

-- character by character, whatever other instances there are for all characters
instance (key : String) : Decidable (IsBare key) :=
  decidable_of_iff (key.toList ≠ [] ∧ key.toList.all isKeyChar = true)
    (by rw [IsBare, List.all_eq_true])

/-- What can stand in a key begins neither a text nor a header, and is no part of a line end. -/
theorem isKeyChar_ne (h : isKeyChar c = true) :
    c ≠ '"' ∧ c ≠ '\'' ∧ c ≠ '[' ∧ c ≠ '#' ∧ c ≠ '\n' ∧ c ≠ '\r' ∧ isSpace c = false := by
  refine ⟨?_, ?_, ?_, ?_, ?_, ?_, ?_⟩
  any_goals
    rintro rfl
    exact absurd h (by decide)
  rw [← Bool.not_eq_true]
  intro hspace
  simp only [isSpace, Bool.or_eq_true, decide_eq_true_eq] at hspace
  rcases hspace with rfl | rfl <;> exact absurd h (by decide)

theorem IsBare.exists_cons (h : IsBare key) :
    ∃ c more, key.toList = c :: more ∧ isKeyChar c = true := by
  obtain ⟨c, more, hkey⟩ := List.exists_cons_of_ne_nil h.1
  exact ⟨c, more, hkey, h.2 c (by simp [hkey])⟩

/-- A bare key is read up to the first character that can stand in no key. -/
theorem IsBare.readKey_eq (h : IsBare key) (hstop : ∀ c ∈ rest.head?, isKeyChar c = false)
    (hdot : (skipSpaces rest).head? ≠ some '.') :
    readKey (key.toList ++ rest) = some (([], key), skipSpaces rest) := by
  have hsimple : readSimpleKey (key.toList ++ rest) = some (key, rest) := by
    have hspan := span_append h.2 hstop
    obtain ⟨c, more, hkey, hc⟩ := h.exists_cons
    obtain ⟨hquote, happo, -⟩ := isKeyChar_ne hc
    -- neither kind of quote is there
    unfold readSimpleKey
    split
    next heq => simp [hkey, hquote] at heq
    next heq => simp [hkey, happo] at heq
    · simp only [hspan]
      simp [h.1, String.ofList_toList]
  rw [readKey, readKeyWithin, hsimple]
  simp only [Option.bind_eq_bind, Option.bind_some]
  split
  next heq => simp [heq] at hdot
  · rfl

/-- A way to write a text or a number as a value. -/
inductive WritesValue : List Char → Data → Prop where
  /-- A text between quotes. -/
  | text {w : List Char} {s : String} (h : WritesText w s.toList) :
    WritesValue ('"' :: (w ++ ['"'])) (.text s)
  /-- A number in decimal digits. -/
  | number {n : ℕ} (h : n < 2 ^ 128) : WritesValue (Nat.toDigits 10 n) (.integer n)

/-- A written value is read up to the end of its line. -/
theorem WritesValue.readValue_eq (h : WritesValue w data) (depth : ℕ) :
    readValue depth (w ++ '\n' :: rest) = some (data, '\n' :: rest) := by
  cases h with
  | @text w s h =>
    have hread : readQuoted ('"' :: (w ++ '"' :: ('\n' :: rest))) = some (s.toList, '\n' :: rest) :=
      h.readQuoted_eq (by simp)
    rw [List.cons_append, List.append_assoc, List.singleton_append, readValue]
    simp [hread, String.ofList_toList]
  | @number n h =>
    have hread : readAtom (Nat.toDigits 10 n ++ '\n' :: rest) = some (.integer n, '\n' :: rest) :=
      readAtom_toDigits h (by simp [Atom.isAtomChar])
    have hdigits (c : Char) (hc : c ∈ Nat.toDigits 10 n) : c.isDigit = true :=
      Nat.isDigit_of_mem_toDigits (by decide) (by decide) hc
    -- a digit begins none of the other kinds of values
    obtain ⟨c, more, hcons⟩ := List.exists_cons_of_ne_nil (Nat.toDigits_ne_nil (n := n) (b := 10))
    have hc := hdigits c (by simp [hcons])
    rw [hcons, List.cons_append] at hread ⊢
    unfold readValue
    split
    next heq => simp [(List.cons.inj heq).1] at hc
    next heq => simp [(List.cons.inj heq).1] at hc
    next heq => simp [(List.cons.inj heq).1] at hc
    next heq => simp [(List.cons.inj heq).1] at hc
    · exact hread

/-- A written value does not begin with a space. -/
theorem WritesValue.skipSpaces_eq (h : WritesValue w data) :
    skipSpaces (' ' :: (w ++ rest)) = w ++ rest := by
  have hfirst : ∃ c more, w = c :: more ∧ isSpace c = false := by
    cases h with
    | text h => exact ⟨_, _, rfl, by decide⟩
    | @number n h =>
      obtain ⟨c, more, hcons⟩ := List.exists_cons_of_ne_nil (Nat.toDigits_ne_nil (n := n) (b := 10))
      have hc : c.isDigit = true :=
        Nat.isDigit_of_mem_toDigits (b := 10) (n := n) (by decide) (by decide) (by simp [hcons])
      refine ⟨c, more, hcons, ?_⟩
      rw [← Bool.not_eq_true]
      intro hspace
      simp only [isSpace, Bool.or_eq_true, decide_eq_true_eq] at hspace
      rcases hspace with rfl | rfl <;> exact absurd hc (by decide)
  obtain ⟨c, more, rfl, hc⟩ := hfirst
  exact skipSpaces_space hc

/-- The line that sets a key. -/
def pairLine (key : String) (w : List Char) : List Char :=
  key.toList ++ (' ' :: '=' :: ' ' :: (w ++ ['\n']))

/-- A line that sets a key is read. -/
theorem readLine_pairLine (hkey : IsBare key) (hvalue : WritesValue w data)
    (hassign : draft.assign [] key data = some next) :
    readLine draft (pairLine key w ++ rest) = some (next, rest) := by
  have hline : pairLine key w ++ rest =
      key.toList ++ (' ' :: '=' :: ' ' :: (w ++ '\n' :: rest)) := by
    simp [pairLine]
  have hread : readPair (readValue maxDepth) (pairLine key w ++ rest) =
      some ((([], key), data), '\n' :: rest) := by
    have hequals : skipSpaces (' ' :: '=' :: ' ' :: (w ++ '\n' :: rest)) =
        '=' :: ' ' :: (w ++ '\n' :: rest) := skipSpaces_space (by decide)
    have hkeyRead : readKey (key.toList ++ ' ' :: '=' :: ' ' :: (w ++ '\n' :: rest)) =
        some (([], key), '=' :: ' ' :: (w ++ '\n' :: rest)) := by
      rw [hkey.readKey_eq (by simp [isKeyChar]) (by simp [hequals]), hequals]
    simp only [readPair, hline, hkeyRead, expect, Option.bind_eq_bind, Option.bind_some,
      ↓reduceIte, hvalue.skipSpaces_eq, hvalue.readValue_eq maxDepth]
    rfl
  -- the line is neither blank nor a header
  obtain ⟨c, more, hcons, hc⟩ := hkey.exists_cons
  obtain ⟨-, -, hheader, hcomment, hfeed, hreturn, hspace⟩ := isKeyChar_ne hc
  rw [hline, hcons, List.cons_append] at hread ⊢
  have hnotBlank : lineEnd false (c :: (more ++ (' ' :: '=' :: ' ' :: (w ++ '\n' :: rest)))) =
      none := by
    rw [lineEnd_cons hfeed hreturn, if_neg Bool.false_ne_true, hspace, if_neg Bool.false_ne_true,
      if_neg hcomment]
  unfold readLine
  simp only [skipSpaces_cons hspace, hnotBlank]
  split
  next heq => exact absurd (List.cons.inj heq).1 hheader
  · simp only [hread, Option.bind_eq_bind, Option.bind_some, hassign]
    rfl

/-! ## Lines that open a table -/

/-- The line that opens a table, or one more table of a list. -/
def headerLine (key : String) (isItem : Bool) : List Char :=
  if isItem then '[' :: '[' :: (key.toList ++ [']', ']', '\n'])
  else '[' :: (key.toList ++ [']', '\n'])

/-- The name of a table is read up to its closing bracket. -/
theorem IsBare.readKey_bracket (h : IsBare key) :
    readKey (skipSpaces (key.toList ++ ']' :: rest)) = some (([], key), ']' :: rest) := by
  have hbracket : skipSpaces (']' :: rest) = ']' :: rest := skipSpaces_cons (by decide)
  have hread : readKey (key.toList ++ ']' :: rest) = some (([], key), ']' :: rest) := by
    rw [h.readKey_eq (by simp [isKeyChar]) (by simp [hbracket]), hbracket]
  -- there are no spaces before the name
  obtain ⟨c, more, hcons, hc⟩ := h.exists_cons
  obtain ⟨-, -, -, -, -, -, hspace⟩ := isKeyChar_ne hc
  rw [hcons, List.cons_append] at hread ⊢
  rw [skipSpaces_cons hspace, hread]

/-- A line that opens a table is read. -/
theorem readLine_headerLine {isItem : Bool} (hkey : IsBare key)
    (henter : draft.enter ⟨[], key, isItem⟩ = some next) :
    readLine draft (headerLine key isItem ++ rest) = some (next, rest) := by
  have hend : lineEnd false ('\n' :: rest) = some rest := rfl
  -- a bracket is no space and begins no comment
  have hblank (cs : List Char) : lineEnd false ('[' :: cs) = none := by
    rw [lineEnd_cons (by decide) (by decide), if_neg Bool.false_ne_true, if_neg (by decide),
      if_neg (by decide)]
  cases isItem with
  | true =>
    have hheader : readHeader ('[' :: (key.toList ++ ']' :: ']' :: '\n' :: rest)) =
        some (⟨[], key, true⟩, '\n' :: rest) := by
      simp [readHeader, hkey.readKey_bracket, expect]
    simp [headerLine, readLine, skipSpaces_cons (show isSpace '[' = false by decide), hblank,
      hheader, henter, hend]
  | false =>
    have hheader : readHeader (key.toList ++ ']' :: '\n' :: rest) =
        some (⟨[], key, false⟩, '\n' :: rest) := by
      -- the name of a single table does not begin with a second bracket
      have hread : readKey (skipSpaces (key.toList ++ ']' :: '\n' :: rest)) =
          some (([], key), ']' :: '\n' :: rest) := hkey.readKey_bracket
      obtain ⟨c, more, hcons, hc⟩ := hkey.exists_cons
      obtain ⟨-, -, hbracket, -⟩ := isKeyChar_ne hc
      rw [hcons, List.cons_append] at hread ⊢
      unfold readHeader
      split
      next heq => exact absurd (List.cons.inj heq).1 hbracket
      · simp [hread, expect]
    simp [headerLine, readLine, skipSpaces_cons (show isSpace '[' = false by decide), hblank,
      hheader, henter, hend]

/-! ## Many lines -/

/-- The text is made of lines, and reading them leads from one document to another, whatever comes
after them. -/
inductive Leads : Draft → List Char → Draft → Prop where
  /-- No line. -/
  | refl {draft : Draft} : Leads draft [] draft
  /-- One line and then others. -/
  | line {draft next last : Draft} {line text : List Char} (hne : line ≠ [])
    (hline : ∀ rest, readLine draft (line ++ rest) = some (next, rest))
    (hrest : Leads next text last) : Leads draft (line ++ text) last

namespace Leads

/-- One text leads to where the next one starts. -/
theorem append {text' : List Char} (h : Leads draft text next) (h' : Leads next text' last) :
    Leads draft (text ++ text') last := by
  induction h with
  | refl => exact h'
  | line hne hline _ ih =>
    rw [List.append_assoc]
    exact .line hne hline (ih h')

theorem single {line : List Char} (hne : line ≠ [])
    (hline : ∀ rest, readLine draft (line ++ rest) = some (next, rest)) :
    Leads draft line next := by
  have hlines : Leads draft (line ++ []) next := .line hne hline .refl
  rwa [List.append_nil] at hlines

/-- Lines are read if there is fuel for each character. -/
theorem readLines_eq (h : Leads draft text last) {fuel : ℕ} (hfuel : text.length ≤ fuel) :
    readLines fuel draft text = some last := by
  induction h generalizing fuel with
  | refl => rw [readLines]
  | @line draft next last line text hne hline _ ih =>
    have hlength : 0 < line.length := List.length_pos_iff.2 hne
    rw [List.length_append] at hfuel
    cases fuel with
    | zero => omega
    | succ fuel =>
      rw [readLines, hline text]
      · exact ih (by omega)
      · simp [hne]

end Leads

theorem BlankLine.leads (h : BlankLine w) : Leads draft w draft :=
  .single (by cases h <;> simp) fun _ => h.readLine_eq

theorem leads_pairLine (hkey : IsBare key) (hvalue : WritesValue w data)
    (hassign : draft.assign [] key data = some next) : Leads draft (pairLine key w) next :=
  .single (by simp [pairLine]) fun _ => readLine_pairLine hkey hvalue hassign

theorem leads_headerLine {isItem : Bool} (hkey : IsBare key)
    (henter : draft.enter ⟨[], key, isItem⟩ = some next) :
    Leads draft (headerLine key isItem) next :=
  .single (by cases isItem <;> simp [headerLine]) fun _ => readLine_headerLine hkey henter

/-- No line begins with a byte order mark. -/
theorem readLine_mark : readLine draft ('\uFEFF' :: rest) = none := rfl

/-- A text that is read from its first character on has no byte order mark. -/
theorem skipMark_eq {fuel : ℕ} (h : readLines fuel draft text = some last) :
    skipMark text = text := by
  unfold skipMark
  split
  next rest =>
    -- the mark would begin the first line
    cases fuel with
    | zero => cases h
    | succ fuel =>
      rw [readLines, readLine_mark] at h
      · cases h
      · simp
  · rfl

/-- A text whose lines lead to a document denotes the tables of that document. -/
theorem Leads.ofText?_eq {root : Entries} (h : Leads {} text last)
    (hclose : last.close = some root) : ofText? (String.ofList text) = some (tableData root) := by
  have hread := h.readLines_eq (Nat.le_refl text.length)
  simp only [ofText?, String.toList_ofList, skipMark_eq hread, hread, Option.bind_eq_bind,
    Option.bind_some, Draft.finish, hclose, Option.map_some]

/-! ## Tables -/

/-- A way to write the fields of a table, each on a line of its own, with lines that say nothing
among them. -/
inductive WritesFields : List Char → List (String × Data) → Prop where
  /-- No field. -/
  | nil : WritesFields [] []
  /-- A line that sets a field. -/
  | pair {key : String} {data : Data} {w text : List Char} {fields : List (String × Data)}
    (hkey : IsBare key) (hvalue : WritesValue w data) (hrest : WritesFields text fields) :
    WritesFields (pairLine key w ++ text) ((key, data) :: fields)
  /-- A line that says nothing. -/
  | blank {w text : List Char} {fields : List (String × Data)} (hline : BlankLine w)
    (hrest : WritesFields text fields) : WritesFields (w ++ text) fields

/-- Fields as the entries of a table. -/
def valuesOf (fields : List (String × Data)) : Entries :=
  fields.map fun (key, data) => (key, .value data)

@[simp]
theorem map_fst_valuesOf (fields : List (String × Data)) :
    (valuesOf fields).map Prod.fst = fields.map Prod.fst := by
  simp [valuesOf, Function.comp_def]

@[simp]
theorem fieldsOf_valuesOf (fields : List (String × Data)) :
    fieldsOf (valuesOf fields) = fields := by
  induction fields with
  | nil => rfl
  | cons field fields ih =>
    change (field.1, field.2) :: fieldsOf (valuesOf fields) = field :: fields
    rw [ih]

theorem fieldsOf_append (entries entries' : Entries) :
    fieldsOf (entries ++ entries') = fieldsOf entries ++ fieldsOf entries' := by
  induction entries with
  | nil => rfl
  | cons entry entries ih => simp [fieldsOf, ih]

theorem recordsOf_map_valuesOf (items : List (List (String × Data))) :
    recordsOf (items.map valuesOf) = items.map fun fields => .record (sortFields fields) := by
  induction items with
  | nil => rfl
  | cons fields items ih => simp [recordsOf, ih]

/-- The lines of a table add its fields to the current table, if no key is set twice. -/
theorem WritesFields.leads (h : WritesFields text fields)
    (hkeys : ((draft.current ++ valuesOf fields).map Prod.fst).Nodup) :
    Leads draft text { draft with current := draft.current ++ valuesOf fields } := by
  induction h generalizing draft with
  | nil =>
    rw [valuesOf, List.map_nil, List.append_nil]
    exact .refl
  | @pair key data w text fields hkey hvalue _ ih =>
    -- a key that is absent is added at the end
    have habsent : draft.current.lookup key = none := by
      rw [List.map_append, List.nodup_append] at hkeys
      rw [List.lookup_eq_none_iff]
      intro entry hentry
      have hne := hkeys.2.2 entry.1 (List.mem_map_of_mem hentry) key (by simp [valuesOf])
      simpa using hne.symm
    have hassign : draft.assign [] key data =
        some { draft with current := draft.current ++ [(key, .value data)] } := by
      simp [Draft.assign, Toml.assign, Entries.insertNew, habsent]
    have hvalues : draft.current ++ valuesOf ((key, data) :: fields) =
        (draft.current ++ [(key, .value data)]) ++ valuesOf fields := by
      simp [valuesOf]
    rw [hvalues] at hkeys ⊢
    exact (leads_pairLine hkey hvalue hassign).append (ih hkeys)
  | blank hline _ ih => exact hline.leads.append (ih hkeys)

variable {root : Entries} {body : List Char} {items : List (List (String × Data))}

/-- A way to write a table that may be missing. -/
inductive WritesTable (key : String) : List Char → Option (List (String × Data)) → Prop where
  /-- The table is missing. -/
  | absent : WritesTable key [] none
  /-- The table is there. It may be empty. -/
  | present {body : List Char} {fields : List (String × Data)} (hbody : WritesFields body fields) :
    WritesTable key (headerLine key false ++ body) (some fields)

/-- The entries of a document with one more table, if that table is there. -/
def withTable (root : Entries) (key : String) : Option (List (String × Data)) → Entries
  | none => root
  | some fields => root ++ [(key, .table .header (valuesOf fields))]

/-- The fields of a document with one more table. -/
theorem fieldsOf_withTable (root : Entries) (key : String)
    (table : Option (List (String × Data))) :
    fieldsOf (withTable root key table) =
      fieldsOf root ++ (table.map fun fields => (key, .record (sortFields fields))).toList := by
  cases table with
  | none => exact (List.append_nil _).symm
  | some fields => simp [withTable, fieldsOf_append, fieldsOf, Node.data]

/-- The lines of a table that may be missing, at the end of a document. -/
theorem WritesTable.exists_leads {table : Option (List (String × Data))}
    (h : WritesTable key text table) (hkey : IsBare key) (habsent : root.lookup key = none)
    (hkeys : ∀ fields ∈ table, (fields.map Prod.fst).Nodup) (hclose : draft.close = some root) :
    ∃ last, Leads draft text last ∧ last.close = some (withTable root key table) := by
  cases h with
  | absent => exact ⟨draft, .refl, hclose⟩
  | @present body fields hbody =>
    have henter : draft.enter ⟨[], key, false⟩ = some ⟨root, some ⟨[], key, false⟩, []⟩ := by
      simp [Draft.enter, hclose, entriesAt, habsent]
    have hfields : Leads ⟨root, some ⟨[], key, false⟩, []⟩ body
        ⟨root, some ⟨[], key, false⟩, valuesOf fields⟩ :=
      hbody.leads (by simpa using hkeys fields rfl)
    refine ⟨_, (leads_headerLine hkey henter).append hfields, ?_⟩
    simp [Draft.close, modifyAt, Entries.insertNew, habsent, withTable]

/-! ## Lists of tables -/

/-- A way to write a list of tables under a key. -/
inductive WritesItems (key : String) : List Char → List (List (String × Data)) → Prop where
  /-- No table. -/
  | nil : WritesItems key [] []
  /-- One more table. -/
  | cons {body text : List Char} {fields : List (String × Data)}
    {items : List (List (String × Data))} (hbody : WritesFields body fields)
    (hrest : WritesItems key text items) :
    WritesItems key (headerLine key true ++ (body ++ text)) (fields :: items)

/-- The tables of a document with a list of tables at its end, which is not there if it is empty. -/
def withItems (root : Entries) (key : String) (items : List (List (String × Data))) : Entries :=
  if items = [] then root else root ++ [(key, .tables (items.map valuesOf))]

/-- The fields of a document with a list of tables. -/
theorem fieldsOf_withItems (root : Entries) (key : String)
    (items : List (List (String × Data))) :
    fieldsOf (withItems root key items) =
      fieldsOf root ++
        if items = [] then []
        else [(key, .list (items.map fun fields => .record (sortFields fields)))] := by
  unfold withItems
  split
  · rw [List.append_nil]
  · simp [fieldsOf_append, fieldsOf, Node.data, recordsOf_map_valuesOf]

theorem lookup_append_last {node : Node} (habsent : root.lookup key = none) :
    (root ++ [(key, node)]).lookup key = some node := by
  rw [List.lookup_append, habsent, Option.none_or, List.lookup_cons_self]

theorem replace_append_last {node node' : Node} (habsent : root.lookup key = none) :
    Entries.replace (root ++ [(key, node)]) key node' = root ++ [(key, node')] := by
  have hothers : root.map (fun entry => if entry.1 = key then (key, node') else entry) = root := by
    nth_rewrite 2 [← List.map_id root]
    apply List.map_congr_left
    intro entry hentry
    apply if_neg
    intro hsame
    have hne := List.lookup_eq_none_iff.1 habsent entry hentry
    simp [hsame] at hne
  rw [Entries.replace, List.map_append, hothers, List.map_singleton, if_pos rfl]

/-- Once a table of a list is complete, it stands at the end of the list. -/
theorem close_item (habsent : root.lookup key = none) :
    Draft.close ⟨withItems root key items, some ⟨[], key, true⟩, valuesOf fields⟩ =
      some (withItems root key (items ++ [fields])) := by
  cases items with
  | nil => simp [Draft.close, modifyAt, withItems, habsent]
  | cons first items =>
    -- the list is there, and its node is replaced
    simp [Draft.close, modifyAt, withItems, lookup_append_last habsent, replace_append_last habsent]

/-- The lines of a list of tables, at the end of a document that may have some of them already. -/
theorem WritesItems.exists_leads {more : List (List (String × Data))}
    (h : WritesItems key text more) (hkey : IsBare key) (habsent : root.lookup key = none)
    (hkeys : ∀ fields ∈ more, (fields.map Prod.fst).Nodup)
    (hclose : draft.close = some (withItems root key items)) :
    ∃ last, Leads draft text last ∧ last.close = some (withItems root key (items ++ more)) := by
  induction h generalizing draft items with
  | nil => exact ⟨draft, .refl, by rwa [List.append_nil]⟩
  | @cons body text fields more hbody _ ih =>
    obtain ⟨hfirst, hkeys⟩ := List.forall_mem_cons.1 hkeys
    -- the header completes the table before it, and the next header will complete this one
    have henter : draft.enter ⟨[], key, true⟩ =
        some ⟨withItems root key items, some ⟨[], key, true⟩, []⟩ := by
      simp [Draft.enter, hclose]
    have hfields : Leads ⟨withItems root key items, some ⟨[], key, true⟩, []⟩ body
        ⟨withItems root key items, some ⟨[], key, true⟩, valuesOf fields⟩ :=
      hbody.leads (by simpa using hfirst)
    obtain ⟨last, hlast, hdone⟩ := ih hkeys (close_item habsent)
    refine ⟨last, (leads_headerLine hkey henter).append (hfields.append hlast), ?_⟩
    rw [hdone, List.append_assoc, List.singleton_append]

/-! ## One way to write a document -/

/-- A text between quotes, or a number in decimal digits. No other values are written. -/
def written : Data → List Char
  | .text s => '"' :: (encode s.toList ++ ['"'])
  | .integer n => Nat.toDigits 10 n.toNat
  | _ => []

theorem writesValue_text (s : String) : WritesValue (written (.text s)) (.text s) :=
  .text (writesText_encode s.toList)

theorem writesValue_ofUInt64 (n : UInt64) : WritesValue (written (.ofUInt64 n)) (.ofUInt64 n) := by
  have hlt := n.toNat_lt
  exact .number (by omega)

/-- The lines of some fields. -/
def fieldLines (fields : List (String × Data)) : List Char :=
  fields.flatMap fun (key, data) => pairLine key (written data)

theorem writesFields_fieldLines
    (h : ∀ field ∈ fields, IsBare field.1 ∧ WritesValue (written field.2) field.2) :
    WritesFields (fieldLines fields) fields := by
  induction fields with
  | nil => exact .nil
  | cons field fields ih =>
    obtain ⟨hfield, hrest⟩ := List.forall_mem_cons.1 h
    exact .pair hfield.1 hfield.2 (ih hrest)

end Sluice.Toml
