import Mathlib.Algebra.Group.Nat.Defs
import Mathlib.Data.List.Basic
import Mathlib.Data.List.TakeDrop
import Sluice.Toml.Value

/-!
# Texts and numbers as they are written

A text may be written in many ways, because each of its characters may stand for itself, as a letter
after a backslash, or as a code. This file lists the ways, for texts on one line, and shows that all
of them are read as the text. A number is written in decimal digits.

* `Writes w c` and `WritesText w cs`: the ways to write a character and a text;
* `WritesText.readQuoted_eq`: a text between quotes is read, in whatever way it is written;
* `writesText_encode`: the basic text of some characters is one way to write them;
* `readAtom_toDigits`: a number in decimal digits is read.
-/

namespace Sluice.Toml

/-! ## Texts -/

/-- A way to write a character between the quotes of a basic text. -/
inductive Writes : List Char → Char → Prop where
  /-- The character stands for itself. -/
  | plain {c : Char} (hplain : isPlain c = true) (hquote : c ≠ '"') (hslash : c ≠ '\\') :
    Writes [c] c
  /-- A letter after a backslash stands for the character. -/
  | letter {l c : Char} (hletter : escaped? l = some c) : Writes ['\\', l] c
  /-- The code of the character, in base sixteen, after a backslash and a letter that says how long
  it is. -/
  | code {l c : Char} {digits : List Char} (hlength : codeLength? l = some digits.length)
    (hdigits : ∀ d ∈ digits, (hexValue? d).isSome) (hvalue : Atom.valueIn 16 digits = c.toNat) :
    Writes ('\\' :: l :: digits) c

/-- A way to write a text between quotes, character by character. -/
inductive WritesText : List Char → List Char → Prop where
  | nil : WritesText [] []
  | cons {w ws cs : List Char} {c : Char} (hfirst : Writes w c) (hrest : WritesText ws cs) :
    WritesText (w ++ ws) (c :: cs)

variable {c : Char} {w cs rest read digits : List Char}

theorem charOfCode?_toNat (c : Char) : charOfCode? c.toNat = some c := by
  have hvalid : c.toNat.isValidChar := c.valid
  rw [charOfCode?, if_pos hvalid, Char.ofNat_toNat]

/-- At a character that stands for itself, at a backslash, or at the closing quote. -/
theorem readBasicFrom_plain_cons :
    readBasicFrom .plain read (c :: rest) =
      if c = '"' then some (read.reverse, rest)
      else if c = '\\' then readBasicFrom .escape read rest
      else if isPlain c then readBasicFrom .plain (c :: read) rest
      else none := by
  rw [readBasicFrom] <;> nofun

/-- The digits of a code are read one by one, and with the last one the character is there. -/
theorem readBasicFrom_code {value : ℕ} (hne : digits ≠ [])
    (hdigits : ∀ d ∈ digits, (hexValue? d).isSome)
    (hvalue : digits.foldl (fun value d => value * 16 + (hexValue? d).getD 0) value = c.toNat) :
    readBasicFrom (.code digits.length value) read (digits ++ rest) =
      readBasicFrom .plain (c :: read) rest := by
  induction digits generalizing value with
  | nil => exact absurd rfl hne
  | cons d digits ih =>
    obtain ⟨hd, hdigits⟩ := List.forall_mem_cons.1 hdigits
    obtain ⟨digit, hdigit⟩ := Option.isSome_iff_exists.1 hd
    rw [List.foldl_cons, hdigit, Option.getD_some] at hvalue
    rw [List.cons_append, readBasicFrom]
    cases digits with
    | nil =>
      -- the last digit
      rw [List.foldl_nil] at hvalue
      simp [codeDigit, hdigit, hvalue, charOfCode?_toNat]
    | cons d' digits =>
      -- with more digits to come, only the value grows
      have hmore := ih (by simp) hdigits hvalue
      simpa [codeDigit, hdigit] using hmore

/-- A written character is read. -/
theorem Writes.readBasicFrom_eq (h : Writes w c) :
    readBasicFrom .plain read (w ++ rest) = readBasicFrom .plain (c :: read) rest := by
  cases h with
  | plain hplain hquote hslash =>
    rw [List.singleton_append, readBasicFrom_plain_cons, if_neg hquote, if_neg hslash,
      if_pos hplain]
  | letter hletter =>
    rw [List.cons_append, readBasicFrom_plain_cons]
    simp [readBasicFrom, escapeLetter, hletter]
  | @code l _ digits hlength hdigits hvalue =>
    -- no code is empty, and no letter stands both for a character and for a code
    have hne : digits ≠ [] := by
      rintro rfl
      unfold codeLength? at hlength
      split at hlength <;> simp at hlength
    have hletter : escaped? l = none := by
      unfold codeLength? at hlength
      split at hlength <;> simp_all [escaped?]
    rw [List.cons_append, readBasicFrom_plain_cons]
    simp only [Char.reduceEq, ↓reduceIte, List.cons_append]
    rw [readBasicFrom, escapeLetter, hletter, hlength]
    exact readBasicFrom_code hne hdigits hvalue

/-- A written text is read up to its closing quote. -/
theorem WritesText.readBasicFrom_eq (h : WritesText w cs) :
    readBasicFrom .plain read (w ++ '"' :: rest) = some (read.reverse ++ cs, rest) := by
  induction h generalizing read with
  | nil =>
    rw [List.nil_append, readBasicFrom_plain_cons]
    simp
  | cons hfirst _ ih =>
    rw [List.append_assoc, hfirst.readBasicFrom_eq, ih]
    simp

/-- A written character does not begin with a quote. -/
theorem Writes.head_ne_quote (h : Writes w c) : ∃ first more, w = first :: more ∧ first ≠ '"' := by
  cases h with
  | plain _ hquote _ => exact ⟨_, _, rfl, hquote⟩
  | letter _ => exact ⟨_, _, rfl, by decide⟩
  | code _ _ _ => exact ⟨_, _, rfl, by decide⟩

/-- A written text between quotes is read, unless another quote follows it. -/
theorem WritesText.readQuoted_eq (h : WritesText w cs) (hrest : rest.head? ≠ some '"') :
    readQuoted ('"' :: (w ++ '"' :: rest)) = some (cs, rest) := by
  have hread : readBasic (w ++ '"' :: rest) = some (cs, rest) := h.readBasicFrom_eq
  rw [← hread]
  cases h with
  | nil =>
    -- an empty text must not be taken for the beginning of three quotes
    cases rest with
    | nil => rfl
    | cons first more =>
      have hfirst : first ≠ '"' := by simpa using hrest
      simp [readQuoted, hfirst]
  | cons hfirst _ =>
    obtain ⟨first, more, rfl, hquote⟩ := hfirst.head_ne_quote
    simp [readQuoted, hquote]

/-! ## One way to write a text -/

theorem hexValue?_digitChar {n : ℕ} (h : n < 16) : hexValue? n.digitChar = some n := by
  have hall : ∀ n < 16, hexValue? n.digitChar = some n := by decide
  exact hall n h

theorem valueIn_fourDigits {n : ℕ} (h : n < 65536) : Atom.valueIn 16 (fourDigits n) = n := by
  have hvalue (m : ℕ) : (hexValue? (m % 16).digitChar).getD 0 = m % 16 := by
    rw [hexValue?_digitChar (Nat.mod_lt m (by decide)), Option.getD_some]
  simp only [Atom.valueIn, fourDigits, List.map_cons, List.map_nil, List.foldl_cons,
    List.foldl_nil, hvalue]
  omega

theorem writes_encodeChar (c : Char) : Writes (encodeChar c) c := by
  unfold encodeChar
  split
  next hquote =>
    subst hquote
    exact .letter rfl
  split
  next hslash =>
    subst hslash
    exact .letter rfl
  split
  next hcontrol =>
    have hlt : c.toNat < 65536 := by
      simp only [Bool.or_eq_true, decide_eq_true_eq] at hcontrol
      omega
    refine .code rfl (fun d hd => ?_) (valueIn_fourDigits hlt)
    obtain ⟨n, hn, rfl⟩ := List.mem_map.1 hd
    have hdigit : n < 16 := by
      simp only [List.mem_cons, List.not_mem_nil, or_false] at hn
      omega
    rw [hexValue?_digitChar hdigit]
    rfl
  next hquote hslash hcontrol =>
    refine .plain ?_ hquote hslash
    simp only [Bool.or_eq_true, decide_eq_true_eq, not_or] at hcontrol
    simp only [isPlain, Bool.or_eq_true, Bool.and_eq_true, decide_eq_true_eq]
    exact .inr ⟨Nat.le_of_not_lt hcontrol.1, hcontrol.2⟩

theorem writesText_encode (cs : List Char) : WritesText (encode cs) cs := by
  induction cs with
  | nil => exact .nil
  | cons c cs ih => exact .cons (writes_encodeChar c) ih

/-! ## Numbers -/

namespace Atom

theorem hexValue?_of_isDigit (h : c.isDigit = true) :
    hexValue? c = some (c.toNat - 48) ∧ c.toNat - 48 < 10 := by
  have hbounds : '0' ≤ c ∧ c ≤ '9' := by
    simpa [Char.isDigit, Char.le_def] using h
  have hle : c.toNat ≤ 57 := by simpa [Char.le_def, UInt32.le_iff_toNat_le] using hbounds.2
  exact ⟨if_pos hbounds, by omega⟩

/-- Digits without groups are kept as they are. -/
theorem ungroup_eq {isDigit : Char → Bool} {afterDigit : Bool}
    (hdigits : ∀ c ∈ digits, isDigit c = true ∧ c ≠ '_') (hsome : afterDigit = true ∨ digits ≠ []) :
    ungroup isDigit afterDigit digits = some digits := by
  induction digits generalizing afterDigit with
  | nil =>
    have hafter : afterDigit = true := by simpa using hsome
    rw [ungroup, if_pos hafter]
  | cons c digits ih =>
    obtain ⟨⟨hdigit, hgroup⟩, hdigits⟩ := List.forall_mem_cons.1 hdigits
    rw [ungroup, if_pos hdigit, ih hdigits (.inl rfl), Option.map_some]
    exact hgroup

/-- Decimal digits denote the number that was written. -/
theorem valueIn_toDigits (n : ℕ) : valueIn 10 (Nat.toDigits 10 n) = n := by
  calc valueIn 10 (Nat.toDigits 10 n)
      = Nat.ofDigitChars 10 (Nat.toDigits 10 n) 0 := by
        refine List.foldl_ext _ _ _ fun value c hc => ?_
        have hdigit := Nat.isDigit_of_mem_toDigits (by decide) (by decide) hc
        rw [(hexValue?_of_isDigit hdigit).1, Option.getD_some, Nat.mul_comm]
        rfl
    _ = n := Nat.ofDigitChars_ten_toDigits

/-- Only zero begins with the digit zero. -/
theorem head?_toDigits_ne_zero {n : ℕ} (h : 0 < n) : (Nat.toDigits 10 n).head? ≠ some '0' := by
  induction n using Nat.strongRecOn with
  | ind n ih =>
    rcases Nat.lt_or_ge n 10 with hlt | hge
    · rw [Nat.toDigits_of_lt_base hlt]
      simpa using Nat.ne_of_gt h
    · -- the first digit is that of the tenth
      obtain ⟨first, hfirst⟩ := Option.isSome_iff_exists.1
        (List.isSome_head?.2 (Nat.toDigits_ne_nil (n := n / 10) (b := 10)))
      have hne := ih (n / 10) (by omega) (by omega)
      rw [Nat.toDigits_of_base_le (by decide) hge, List.head?_append, hfirst, Option.some_or]
      rwa [hfirst] at hne

theorem wholeDigits?_toDigits (n : ℕ) :
    wholeDigits? (Nat.toDigits 10 n) = some (Nat.toDigits 10 n) := by
  have hdigits : digits? 10 (Nat.toDigits 10 n) = some (Nat.toDigits 10 n) := by
    refine ungroup_eq (fun c hc => ?_) (.inr Nat.toDigits_ne_nil)
    have hdigit := Nat.isDigit_of_mem_toDigits (by decide) (by decide) hc
    obtain ⟨hvalue, hlt⟩ := hexValue?_of_isDigit hdigit
    refine ⟨by simpa [isDigitIn, hvalue] using hlt, ?_⟩
    rintro rfl
    exact Nat.underscore_not_in_toDigits hc
  have hzero : ¬ ((Nat.toDigits 10 n).head? = some '0' ∧ 1 < (Nat.toDigits 10 n).length) := by
    rintro ⟨hhead, hlength⟩
    rcases n.eq_zero_or_pos with rfl | hpos
    · simp at hlength
    · exact head?_toDigits_ne_zero hpos hhead
  simp [wholeDigits?, hdigits, hzero]

/-- A number in decimal digits is read. -/
theorem number?_toDigits {n : ℕ} (h : n < 2 ^ 128) :
    number? (Nat.toDigits 10 n) = some (.integer n) := by
  have hinteger : integer? (Nat.toDigits 10 n) = some (.integer n) := by
    have hwhole := wholeDigits?_toDigits n
    have hvalue := valueIn_toDigits n
    have hdigits (c : Char) (hc : c ∈ Nat.toDigits 10 n) : c.isDigit = true :=
      Nat.isDigit_of_mem_toDigits (by decide) (by decide) hc
    revert hwhole hvalue hdigits
    generalize Nat.toDigits 10 n = ds
    intro hwhole hvalue hdigits
    -- neither a sign nor a letter for another base stands before the digits
    have hsign : splitSign ds = (false, ds) := by
      unfold splitSign
      split
      · simp at hdigits
      · simp at hdigits
      · rfl
    unfold integer?
    split
    · simp at hdigits
    · simp at hdigits
    · simp at hdigits
    · simp only [hsign, hwhole, Option.map_some, hvalue, integerData, Bool.false_eq_true,
        ↓reduceIte]
      rw [if_pos (by omega)]
  rw [number?, hinteger]
  rfl

end Atom

/-- What is read up to the first character that is not read. -/
theorem span_append {p : Char → Bool} {cs rest : List Char} (hcs : ∀ c ∈ cs, p c = true)
    (hrest : ∀ c ∈ rest.head?, p c = false) : (cs ++ rest).span p = (cs, rest) := by
  have htake : rest.takeWhile p = [] := by
    cases rest with
    | nil => rfl
    | cons c rest => rw [List.takeWhile_cons, hrest c rfl, if_neg Bool.false_ne_true]
  have hdrop : rest.dropWhile p = rest := by
    have hboth := List.takeWhile_append_dropWhile (p := p) (l := rest)
    rwa [htake, List.nil_append] at hboth
  rw [List.span_eq_takeWhile_dropWhile, List.takeWhile_append_of_pos hcs,
    List.dropWhile_append_of_pos hcs, htake, hdrop, List.append_nil]

/-- A number in decimal digits is read up to the first character that can stand in no number. -/
theorem readAtom_toDigits {n : ℕ} (h : n < 2 ^ 128)
    (hrest : ∀ c ∈ rest.head?, Atom.isAtomChar c = false) :
    readAtom (Nat.toDigits 10 n ++ rest) = some (.integer n, rest) := by
  have hdigits (c : Char) (hc : c ∈ Nat.toDigits 10 n) : c.isDigit = true :=
    Nat.isDigit_of_mem_toDigits (by decide) (by decide) hc
  have hatom (c : Char) (hc : c ∈ Nat.toDigits 10 n) : Atom.isAtomChar c = true := by
    have hdigit : '0' ≤ c ∧ c ≤ '9' := by simpa [Char.isDigit, Char.le_def] using hdigits c hc
    simp [Atom.isAtomChar, hdigit]
  unfold readAtom
  simp only [span_append hatom hrest]
  split
  next heq => simp [heq] at hdigits
  next heq => simp [heq] at hdigits
  · rw [Atom.number?_toDigits h]

end Sluice.Toml
