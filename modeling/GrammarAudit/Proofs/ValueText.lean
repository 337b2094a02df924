import Mathlib
import GrammarAudit.Proofs.ConfigShape

/-!
# Writing values

A text is written between double quotes, with the double quote, the backslash
and every control character escaped; there are several ways to escape a
character, and an `Escaping` chooses one for each.  Lists of texts stand between
brackets, a path stands in a table between braces, and a value stands on a line
with its key.  The reader takes each of these for what was written, whatever
follows.

* `basic_write`: a written character is read as that character.
* `readValue_quote`, `readValue_quotes`, `readValue_path`: written values.
* `readLine_keyed`, `readLine_header`: written lines.
* `readLines_lines`: the lines of some fields, one after the other.
-/

namespace GrammarAudit.Toml

/-! ## Characters -/

/-- A control character. -/
def isControl (c : Char) : Bool := c.toNat < 0x20 || (0x7F ≤ c.toNat && c.toNat < 0xA0)

/-- A character that does not stand for itself between double quotes. -/
def mustEscape (c : Char) : Bool := c == '"' || c == '\\' || isControl c

/-- The letters that escape a character, and the characters. -/
def escapeLetters : List (Char × Char) :=
  [('b', '\x08'), ('t', '\t'), ('n', '\n'), ('f', '\x0c'), ('r', '\r'), ('e', '\x1b'), ('"', '"'),
    ('\\', '\\')]

/-- The marks of the numbers of characters, and how many digits follow. -/
def escapeMarks : List (Char × Nat) := [('x', 2), ('u', 4), ('U', 8)]

/-- The ways to escape a character: after a backslash a letter, or its number. -/
inductive Escapes (c : Char) : List Char → Prop
  | letter {l : Char} (h : (l, c) ∈ escapeLetters) : Escapes c ['\\', l]
  | number {mark : Char} {digits : List Char} (hmark : (mark, digits.length) ∈ escapeMarks)
      (h : Quotation.hexNumber? digits = some c.toNat) : Escapes c ('\\' :: mark :: digits)

/-- A choice of how characters are escaped; the others stand for themselves. -/
structure Escaping where
  write : Char → List Char
  plain : ∀ c, mustEscape c = false → write c = [c]
  escapes : ∀ c, mustEscape c = true → Escapes c (write c)

theorem hexDigit?_digitChar : ∀ d < 16, Quotation.hexDigit? d.digitChar = some d := by decide

theorem hexNumber?_digits {n : Nat} (h : n < 0x100) :
    Quotation.hexNumber? ['0', '0', (n / 16).digitChar, (n % 16).digitChar] = some n := by
  have hzero : Quotation.hexDigit? '0' = some 0 := by decide
  simp only [Quotation.hexNumber?, List.foldl_cons, List.foldl_nil, Option.bind_some, hzero,
    Option.map_some, hexDigit?_digitChar (n / 16) (by omega),
    hexDigit?_digitChar (n % 16) (by omega)]
  congr 1
  omega

theorem toNat_lt_of_mustEscape {c : Char} (h : mustEscape c = true) : c.toNat < 0x100 := by
  simp only [mustEscape, isControl, Bool.or_eq_true, beq_iff_eq, Bool.and_eq_true,
    decide_eq_true_eq] at h
  rcases h with (rfl | rfl) | h | h
  · decide
  · decide
  · omega
  · omega

/-- Characters are escaped by their numbers. -/
def Escaping.byNumber : Escaping where
  write c :=
    if mustEscape c then
      ['\\', 'u', '0', '0', (c.toNat / 16).digitChar, (c.toNat % 16).digitChar]
    else [c]
  plain c h := by simp [h]
  escapes c h := by
    rw [if_pos h]
    exact .number (by simp [escapeMarks]) (hexNumber?_digits (toNat_lt_of_mustEscape h))

section

variable {c : Char} {text r : List Char}

theorem hexChar?_of_number {digits : List Char}
    (h : Quotation.hexNumber? digits = some c.toNat) : Quotation.hexChar? digits = some c := by
  have hvalid : c.toNat.isValidChar := c.valid
  simp [Quotation.hexChar?, h, hvalid]

theorem plain_of_not_mustEscape (h : mustEscape c = false) :
    c ≠ '"' ∧ c ≠ '\\' ∧ Quotation.isPlain c = true := by
  simp only [mustEscape, isControl, Bool.or_eq_false_iff, beq_eq_false_iff_ne,
    Bool.and_eq_false_iff, decide_eq_false_iff_not] at h
  obtain ⟨⟨hquote, hbackslash⟩, hlow, hhigh⟩ := h
  refine ⟨hquote, hbackslash, ?_⟩
  simp only [Quotation.isPlain, Bool.or_eq_true, Bool.and_eq_true, decide_eq_true_eq, bne_iff_ne]
  omega

theorem basic_plain (h : mustEscape c = false) :
    Quotation.basic (c :: r) = Quotation.withChar c (Quotation.basic r) := by
  obtain ⟨hquote, hbackslash, hplain⟩ := plain_of_not_mustEscape h
  rw [Quotation.basic]
  · rw [if_pos ⟨hplain, hbackslash⟩]
  all_goals simp_all

theorem basic_escapes (h : Escapes c text) :
    Quotation.basic (text ++ r) = Quotation.withChar c (Quotation.basic r) := by
  cases h with
  | letter h =>
      simp only [escapeLetters, List.mem_cons, Prod.mk.injEq, List.not_mem_nil, or_false] at h
      rcases h with ⟨rfl, rfl⟩ | ⟨rfl, rfl⟩ | ⟨rfl, rfl⟩ | ⟨rfl, rfl⟩ | ⟨rfl, rfl⟩ | ⟨rfl, rfl⟩ |
        ⟨rfl, rfl⟩ | ⟨rfl, rfl⟩ <;> simp [Quotation.basic, Quotation.escaped?]
  | @number mark digits hmark h =>
      have hchar := hexChar?_of_number h
      simp only [escapeMarks, List.mem_cons, Prod.mk.injEq, List.not_mem_nil, or_false] at hmark
      rcases hmark with ⟨rfl, hlength⟩ | ⟨rfl, hlength⟩ | ⟨rfl, hlength⟩
      · match digits, hlength, hchar with
        | [_, _], _, hchar => simp [Quotation.basic, hchar]
      · match digits, hlength, hchar with
        | [_, _, _, _], _, hchar => simp [Quotation.basic, hchar]
      · match digits, hlength, hchar with
        | [_, _, _, _, _, _, _, _], _, hchar => simp [Quotation.basic, hchar]

/-- **A written character.**  It is read as the character that was written. -/
theorem basic_write (esc : Escaping) (c : Char) (r : List Char) :
    Quotation.basic (esc.write c ++ r) = Quotation.withChar c (Quotation.basic r) := by
  cases h : mustEscape c with
  | false =>
      rw [esc.plain c h]
      exact basic_plain h
  | true => exact basic_escapes (esc.escapes c h)

theorem Escapes.head (h : Escapes c text) : ∃ more, text = '\\' :: more := by
  cases h with
  | letter => exact ⟨_, rfl⟩
  | number => exact ⟨_, rfl⟩

/-- A written character does not start with a double quote. -/
theorem Escaping.head (esc : Escaping) (c : Char) :
    ∃ d more, esc.write c = d :: more ∧ d ≠ '"' := by
  cases h : mustEscape c with
  | false => exact ⟨c, [], esc.plain c h, (plain_of_not_mustEscape h).1⟩
  | true =>
      obtain ⟨more, hwrite⟩ := (esc.escapes c h).head
      exact ⟨'\\', more, hwrite, by decide⟩

end

/-! ## Texts and lists of them -/

section

variable (esc : Escaping) {r : List Char}

/-- A text between double quotes. -/
def Escaping.quote (s : String) : List Char := '"' :: (s.toList.flatMap esc.write ++ ['"'])

theorem basic_flatMap (cs : List Char) :
    Quotation.basic (cs.flatMap esc.write ++ '"' :: r) = some (cs, r) := by
  induction cs with
  | nil => rfl
  | cons c cs ih =>
      rw [List.flatMap_cons, List.append_assoc, basic_write, ih]
      rfl

theorem quote_append (s : String) (r : List Char) :
    esc.quote s ++ r = '"' :: (s.toList.flatMap esc.write ++ '"' :: r) := by
  simp [Escaping.quote]

/-- A quoted text starts no string over several lines, unless a double quote
follows. -/
theorem string?_quote (s : String) (hr : r.head? ≠ some '"') :
    Quotation.string? (esc.quote s ++ r) = some (some (s.toList, r)) := by
  rw [quote_append]
  unfold Quotation.string?
  split
  · -- Two more double quotes: either the text is empty and one follows it, or a
    -- written character starts with one.
    rename_i heq
    have htail := (List.cons.inj heq).2
    cases hs : s.toList with
    | nil =>
        rw [hs] at htail
        have hr' := (List.cons.inj htail).2
        simp [hr'] at hr
    | cons c cs =>
        obtain ⟨d, more, hwrite, hd⟩ := esc.head c
        rw [hs, List.flatMap_cons, hwrite] at htail
        exact absurd (List.cons.inj htail).1 hd
  · rename_i heq
    simp at heq
  · exact congrArg some (basic_flatMap esc s.toList)

/-- **A written text.**  It is read as that text. -/
theorem readScalar_quote (s : String) (hr : r.head? ≠ some '"') :
    ∃ v, readScalar (esc.quote s ++ r) = some (v, r) ∧ v.IsText s := by
  unfold readScalar
  rw [string?_quote esc s hr]
  exact ⟨_, rfl, _, by rw [String.ofList_toList]⟩

theorem readValue_quote (fuel depth : Nat) (s : String) (hr : r.head? ≠ some '"') :
    ∃ v, readValue fuel depth (esc.quote s ++ r) = some (v, r) ∧ v.IsText s := by
  obtain ⟨v, hread, htext⟩ := readScalar_quote esc s hr
  refine ⟨v, ?_, htext⟩
  rw [← hread, quote_append]
  cases depth with
  | zero => rw [readValue] <;> simp
  | succ depth => rw [readValue] <;> simp

/-- The items of a list of texts, up to the closing bracket. -/
def Escaping.items : List String → List Char
  | [] => [']']
  | [s] => esc.quote s ++ [']']
  | s :: rest => esc.quote s ++ (',' :: ' ' :: Escaping.items rest)

/-- A list of texts between brackets. -/
def Escaping.quotes (texts : List String) : List Char := '[' :: esc.items texts

theorem skipGaps_quote (s : String) :
    skipGaps false (esc.quote s ++ r) = some (esc.quote s ++ r) := by
  rw [quote_append]
  rfl

theorem skipGaps_items (texts : List String) :
    skipGaps false (esc.items texts ++ r) = some (esc.items texts ++ r) := by
  match texts with
  | [] => rfl
  | [s] =>
      rw [Escaping.items, List.append_assoc]
      exact skipGaps_quote esc s
  | s :: t :: rest =>
      rw [Escaping.items, List.append_assoc]
      · exact skipGaps_quote esc s
      · simp

/-- An item of a list is read before what follows it. -/
theorem readItems_quote (fuel depth count : Nat) (s : String) (hr : r.head? ≠ some '"') :
    ∃ v, v.IsText s ∧ readItems fuel depth (count + 1) (esc.quote s ++ r) =
      (skipGaps false r).bind fun r =>
        match r with
        | ',' :: r =>
          (skipGaps false r).bind fun r =>
            (readItems fuel depth count r).map fun (vs, rest) => (v :: vs, rest)
        | ']' :: rest => some ([v], rest)
        | _ => none := by
  obtain ⟨v, hread, htext⟩ := readValue_quote esc fuel depth s hr
  refine ⟨v, htext, ?_⟩
  rw [readItems, hread]
  · rfl
  · simp [quote_append]

/-- Written texts are read one after the other. -/
theorem readItems_items (fuel depth : Nat) (texts : List String) {count : Nat}
    (hcount : texts.length < count) :
    ∃ items, readItems fuel depth count (esc.items texts ++ r) = some (items, r) ∧
      List.Forall₂ Value.IsText items texts := by
  -- Each item takes one off the count; the last one is followed by the bracket.
  induction texts generalizing count with
  | nil =>
      refine ⟨[], ?_, .nil⟩
      rw [Escaping.items, List.singleton_append, readItems]
      omega
  | cons s rest ih =>
      obtain ⟨count, rfl⟩ : ∃ n, count = n + 1 := ⟨count - 1, by omega⟩
      rw [List.length_cons] at hcount
      cases rest with
      | nil =>
          obtain ⟨v, htext, hread⟩ :=
            readItems_quote esc (r := ']' :: r) fuel depth count s (by simp)
          refine ⟨[v], ?_, .cons htext .nil⟩
          rw [Escaping.items, List.append_assoc]
          exact hread
      | cons t rest =>
          obtain ⟨items, hitems, htexts⟩ := @ih count (by omega)
          obtain ⟨v, htext, hread⟩ := readItems_quote esc
            (r := ',' :: ' ' :: (esc.items (t :: rest) ++ r)) fuel depth count s (by simp)
          refine ⟨v :: items, ?_, .cons htext htexts⟩
          have hskip : skipGaps false (' ' :: (esc.items (t :: rest) ++ r)) =
              some (esc.items (t :: rest) ++ r) := skipGaps_items esc (t :: rest)
          have hcomma : skipGaps false (',' :: ' ' :: (esc.items (t :: rest) ++ r)) =
              some (',' :: ' ' :: (esc.items (t :: rest) ++ r)) := rfl
          rw [Escaping.items, List.append_assoc, List.cons_append, List.cons_append, hread,
            hcomma, Option.bind_some]
          · simp only [hskip, hitems, Option.bind_some, Option.map_some]
          · simp

/-- **A written list of texts.**  It is read as those texts. -/
theorem readValue_quotes (fuel depth : Nat) (texts : List String) (hfuel : texts.length < fuel) :
    ∃ v, readValue fuel (depth + 1) (esc.quotes texts ++ r) = some (v, r) ∧ v.IsTexts texts := by
  obtain ⟨items, hitems, htexts⟩ := readItems_items esc (r := r) fuel depth texts hfuel
  have hread : readValue fuel (depth + 1) (esc.quotes texts ++ r) =
      some (.array ⟨(esc.quotes texts ++ r).length, r.length⟩ .brackets items, r) := by
    rw [Escaping.quotes, List.cons_append, readValue, skipGaps_items, Option.bind_some, hitems]
    rfl
  exact ⟨_, hread, _, _, _, rfl, htexts⟩

theorem length_le_quotes (texts : List String) : texts.length < (esc.quotes texts).length := by
  have hitems : texts.length ≤ (esc.items texts).length := by
    induction texts with
    | nil => simp
    | cons s rest ih =>
        cases rest with
        | nil => simp [Escaping.items]
        | cons t rest =>
            rw [Escaping.items]
            · simp only [List.length_append, List.length_cons] at ih ⊢
              omega
            · simp
  simp only [Escaping.quotes, List.length_cons]
  omega

end

/-! ## Keys -/

/-- A key that is written without quotes. -/
def IsBareKey (key : String) : Prop :=
  key.toList ≠ [] ∧ ∀ c ∈ key.toList, isKeyChar c = true

section

variable {key : String} {r : List Char}

theorem span_append_of_all {p : Char → Bool} {cs : List Char} (hcs : ∀ c ∈ cs, p c = true)
    (hr : ∀ c ∈ r.head?, p c = false) : (cs ++ r).span p = (cs, r) := by
  rw [List.span_eq_takeWhile_dropWhile, List.takeWhile_append_of_pos hcs,
    List.dropWhile_append_of_pos hcs]
  cases r with
  | nil => simp
  | cons c r => simp [hr c rfl]

/-- A bare key starts with one of its characters. -/
theorem IsBareKey.head (hkey : IsBareKey key) (r : List Char) :
    ∃ c more, key.toList ++ r = c :: more ∧ isKeyChar c = true := by
  cases hchars : key.toList with
  | nil => exact absurd hchars hkey.1
  | cons c cs => exact ⟨c, cs ++ r, rfl, hkey.2 c (by simp [hchars])⟩

theorem IsBareKey.ne_cons (hkey : IsBareKey key) {d : Char} (hd : isKeyChar d = false)
    (more : List Char) : key.toList ++ r ≠ d :: more := by
  intro h
  obtain ⟨c, more', hhead, hc⟩ := hkey.head r
  cases hhead.symm.trans h
  simp [hc] at hd

/-- A bare key is read up to what follows it. -/
theorem readKeyPart_bare (hkey : IsBareKey key) (hr : ∀ c ∈ r.head?, isKeyChar c = false) :
    ∃ span, readKeyPart (key.toList ++ r) = some (⟨span, key⟩, r) := by
  have hsingle : Quotation.singleLine? (key.toList ++ r) = none := by
    unfold Quotation.singleLine?
    split
    · exact absurd ‹_› (hkey.ne_cons (by decide) _)
    · exact absurd ‹_› (hkey.ne_cons (by decide) _)
    · rfl
  refine ⟨⟨(key.toList ++ r).length, r.length⟩, ?_⟩
  unfold readKeyPart
  rw [hsingle, span_append_of_all hkey.2 hr]
  simp only [hkey.1, if_false, String.ofList_toList]

/-- A key, the sign between it and a value, and the value. -/
def keyed (key : String) (value : List Char) : List Char :=
  key.toList ++ ' ' :: '=' :: ' ' :: value

theorem keyed_append (key : String) (value r : List Char) :
    keyed key value ++ r = keyed key (value ++ r) := by
  simp [keyed]

theorem readKey_bare (hkey : IsBareKey key) (hr : ∀ c ∈ r.head?, isKeyChar c = false)
    (hdot : (skipBlanks r).head? ≠ some '.') :
    ∃ span, readKey nestingLimit (key.toList ++ r) = some ([⟨span, key⟩], r) := by
  obtain ⟨span, hpart⟩ := readKeyPart_bare hkey hr
  refine ⟨span, ?_⟩
  rw [nestingLimit, readKey, hpart, Option.bind_some]
  dsimp only
  split
  · rename_i heq
    simp [heq] at hdot
  · rfl

theorem skipBlanks_equals (value : List Char) :
    skipBlanks (' ' :: '=' :: ' ' :: value) = '=' :: ' ' :: value := rfl

theorem readKey_keyed (hkey : IsBareKey key) (value : List Char) :
    ∃ span, readKey nestingLimit (keyed key value) =
      some ([⟨span, key⟩], ' ' :: '=' :: ' ' :: value) := by
  exact readKey_bare hkey (by simp [isKeyChar]) (by simp [skipBlanks_equals])

/-- A bare key is no gap. -/
theorem skipGaps_bare (hkey : IsBareKey key) (r : List Char) :
    skipGaps false (key.toList ++ r) = some (key.toList ++ r) := by
  obtain ⟨c, more, hhead, hc⟩ := hkey.head r
  have hapart : ∀ d, isKeyChar d = false → c ≠ d := by
    rintro d hd rfl
    simp [hc] at hd
  rw [hhead, skipGaps]
  · exact hapart '\n' (by decide)
  · exact fun _ hreturn _ => hapart '\r' (by decide) hreturn
  · exact hapart ' ' (by decide)
  · exact hapart '\t' (by decide)
  · exact hapart '#' (by decide)

theorem skipBlanks_bare (hkey : IsBareKey key) (r : List Char) :
    skipBlanks (key.toList ++ r) = key.toList ++ r := by
  obtain ⟨c, more, hhead, hc⟩ := hkey.head r
  have hblank : isBlank c = false := by
    by_contra h
    simp only [isBlank, Bool.not_eq_false, Bool.or_eq_true, beq_iff_eq] at h
    rcases h with rfl | rfl <;> exact absurd hc (by decide)
  rw [hhead, skipBlanks, List.dropWhile_cons, hblank]
  rfl

end

/-! ## Values and lines -/

/-- What is written under a key: a text, a list of texts, or a path in a table
of its own. -/
inductive Datum
  | text (s : String)
  | texts (ss : List String)
  | path (s : String)
deriving DecidableEq, Repr

/-- A value is what was written. -/
def Datum.Stands : Datum → Value → Prop
  | .text s, v => v.IsText s
  | .texts ss, v => v.IsTexts ss
  | .path s, v => ∃ span form w, v = .table span form [("path", w)] ∧ w.IsText s

section

variable (esc : Escaping) {r : List Char}

/-- The characters of what is written under a key. -/
def Escaping.chars : Datum → List Char
  | .text s => esc.quote s
  | .texts ss => esc.quotes ss
  | .path s => '\x7b' :: ' ' :: keyed "path" (esc.quote s ++ [' ', '\x7d'])

theorem skipBlanks_quote (s : String) (r : List Char) :
    skipBlanks (' ' :: (esc.quote s ++ r)) = esc.quote s ++ r := by
  rw [quote_append]
  rfl

/-- **A written path.**  It is read as a table with that path. -/
theorem readValue_path (fuel depth : Nat) (s : String) (hfuel : 0 < fuel) :
    ∃ v, readValue fuel (depth + 1) (esc.chars (.path s) ++ r) = some (v, r) ∧
      (Datum.path s).Stands v := by
  obtain ⟨fuel, rfl⟩ : ∃ n, fuel = n + 1 := ⟨fuel - 1, by omega⟩
  obtain ⟨w, hvalue, htext⟩ :=
    readValue_quote esc (r := ' ' :: '\x7d' :: r) (fuel + 1) depth s (by simp)
  have hbare : IsBareKey "path" := by simp [IsBareKey, isKeyChar]
  obtain ⟨kspan, hkey⟩ := readKey_keyed hbare (esc.quote s ++ ' ' :: '\x7d' :: r)
  have hentries : readEntries (fuel + 1) depth (fuel + 1) []
      (keyed "path" (esc.quote s ++ ' ' :: '\x7d' :: r)) = some ([("path", w)], r) := by
    rw [readEntries, hkey, Option.bind_some]
    · simp only [skipBlanks_equals, skipBlanks_quote, hvalue, Option.bind_some]
      rfl
    · simp [keyed]
  have hchars : esc.chars (.path s) ++ r =
      '\x7b' :: ' ' :: keyed "path" (esc.quote s ++ ' ' :: '\x7d' :: r) := by
    rw [Escaping.chars, List.cons_append, List.cons_append, keyed_append, List.append_assoc]
    rfl
  have hskip : skipGaps false (' ' :: keyed "path" (esc.quote s ++ ' ' :: '\x7d' :: r)) =
      some (keyed "path" (esc.quote s ++ ' ' :: '\x7d' :: r)) := by
    simp [keyed, skipGaps]
  rw [hchars, readValue, hskip, Option.bind_some, hentries]
  exact ⟨_, rfl, _, _, w, rfl, htext⟩

/-- **A written value.**  It is read as what was written. -/
theorem readValue_chars (fuel depth : Nat) (d : Datum) (hfuel : (esc.chars d).length ≤ fuel)
    (hr : r.head? ≠ some '"') :
    ∃ v, readValue fuel (depth + 1) (esc.chars d ++ r) = some (v, r) ∧ d.Stands v := by
  cases d with
  | text s => exact readValue_quote esc fuel (depth + 1) s hr
  | texts ss =>
      exact readValue_quotes esc fuel depth ss (Nat.lt_of_lt_of_le (length_le_quotes esc ss) hfuel)
  | path s =>
      refine readValue_path esc fuel depth s (Nat.lt_of_lt_of_le ?_ hfuel)
      simp [Escaping.chars]

theorem skipBlanks_chars (d : Datum) (r : List Char) :
    skipBlanks (' ' :: (esc.chars d ++ r)) = esc.chars d ++ r := by
  cases d with
  | text s => exact skipBlanks_quote esc s r
  | texts ss => rfl
  | path s => rfl

/-- **A written line.**  It is read as an entry with its key and value. -/
theorem readLine_keyed {key : String} (hkey : IsBareKey key) (d : Datum)
    (hr : r.head? ≠ some '"') :
    ∃ span v, readLine (keyed key (esc.chars d ++ r)) = some (.entry [⟨span, key⟩] v, r) ∧
      d.Stands v := by
  obtain ⟨span, hread⟩ := readKey_keyed hkey (esc.chars d ++ r)
  obtain ⟨v, hvalue, hstands⟩ := readValue_chars esc (r := r)
    (' ' :: (esc.chars d ++ r)).length 79 d (by simp; omega) hr
  refine ⟨span, v, ?_, hstands⟩
  unfold readLine
  split
  · exact absurd ‹_› (hkey.ne_cons (by decide) _)
  · exact absurd ‹_› (hkey.ne_cons (by decide) _)
  · rw [hread, Option.bind_some]
    simp only [skipBlanks_equals, skipBlanks_chars, nestingLimit, hvalue]
    rfl

end

/-! ## Documents -/

section

variable {key : String} {fuel : Nat} {r : List Char}

/-- **A written header.**  It is read as the start of an element. -/
theorem readLine_header (hkey : IsBareKey key) (r : List Char) :
    ∃ span kspan, readLine ('[' :: '[' :: (key.toList ++ ']' :: ']' :: r)) =
      some (.element span [⟨kspan, key⟩], r) := by
  obtain ⟨kspan, hread⟩ := readKey_bare hkey (r := ']' :: ']' :: r) (by simp [isKeyChar])
    (by simp [skipBlanks, isBlank])
  refine ⟨⟨('[' :: '[' :: (key.toList ++ ']' :: ']' :: r)).length, r.length⟩, kspan, ?_⟩
  have hblanks : skipBlanks (']' :: ']' :: r) = ']' :: ']' :: r := rfl
  rw [readLine, readHeader, skipBlanks_bare hkey, hread, Option.bind_some]
  simp only [hblanks]

/-- A line is read before the lines after it. -/
theorem readLines_of_readLine {c : Char} {more : List Char} {line : Line}
    (hgap : skipGaps false (c :: more) = some (c :: more))
    (hline : readLine (c :: more) = some (line, '\n' :: r)) :
    readLines (fuel + 1) (c :: more) = (readLines fuel r).map (line :: ·) := by
  rw [readLines, hgap, Option.bind_some]
  simp only [hline, Option.bind_some]
  rfl

/-- An entry was read from the line of a field. -/
def EntryOf (entry : List Key × Value) (field : String × Datum) : Prop :=
  (∃ span, entry.1 = [⟨span, field.1⟩]) ∧ field.2.Stands entry.2

variable (esc : Escaping)

/-- The lines of some fields. -/
def Escaping.lines (fields : List (String × Datum)) : List Char :=
  fields.flatMap fun field => keyed field.1 (esc.chars field.2 ++ ['\n'])

/-- **Written lines.**  They are read as entries, before the lines after them. -/
theorem readLines_lines {fields : List (String × Datum)}
    (hkeys : ∀ field ∈ fields, IsBareKey field.1) (fuel : Nat) (r : List Char) :
    ∃ entries, List.Forall₂ EntryOf entries fields ∧
      readLines (fuel + fields.length) (esc.lines fields ++ r) =
        (readLines fuel r).map (entries.map (fun entry => Line.entry entry.1 entry.2) ++ ·) := by
  induction fields with
  | nil => exact ⟨[], .nil, by simp [Escaping.lines]⟩
  | cons field rest ih =>
      obtain ⟨hkey, hrest⟩ := List.forall_mem_cons.mp hkeys
      obtain ⟨entries, hentries, hread⟩ := ih hrest
      obtain ⟨span, v, hline, hstands⟩ := readLine_keyed esc
        (r := '\n' :: (esc.lines rest ++ r)) hkey field.2 (by simp)
      refine ⟨([⟨span, field.1⟩], v) :: entries, .cons ⟨⟨span, rfl⟩, hstands⟩ hentries, ?_⟩
      have hchars : esc.lines (field :: rest) ++ r =
          keyed field.1 (esc.chars field.2 ++ '\n' :: (esc.lines rest ++ r)) := by
        simp [Escaping.lines, keyed]
      obtain ⟨c, more, hhead, -⟩ := hkey.head
        (' ' :: '=' :: ' ' :: (esc.chars field.2 ++ '\n' :: (esc.lines rest ++ r)))
      have hgap := skipGaps_bare hkey
        (' ' :: '=' :: ' ' :: (esc.chars field.2 ++ '\n' :: (esc.lines rest ++ r)))
      rw [hchars]
      unfold keyed at hline ⊢
      rw [hhead] at hgap hline ⊢
      rw [List.length_cons, ← Nat.add_assoc, readLines_of_readLine hgap hline, hread,
        Option.map_map]
      rfl

end

end GrammarAudit.Toml
