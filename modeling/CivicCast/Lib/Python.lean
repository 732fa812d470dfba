import Mathlib

/-! # Python's `str`, `float` and `round`

Text is a list of code points. A float is an exact rational where it is finite:
`float` of a text decides which values overflow or vanish, and rounds nothing
else.

The lines of a text are what `splitlines` makes of it. They hold no line break,
and lines without breaks survive being joined and split again
(`splitLines_unlines`).
-/

namespace Lib

open List

abbrev Text : Type := List Char

namespace Text

instance lawfulBEq : LawfulBEq Text := inferInstance

/-- `str.isspace` on one character. -/
def isSpace (c : Char) : Bool :=
  let n := c.toNat
  (9 ≤ n && n ≤ 13) || (28 ≤ n && n ≤ 32) || n = 0x85 || n = 0xA0 || n = 0x1680 ||
    (0x2000 ≤ n && n ≤ 0x200A) || n = 0x2028 || n = 0x2029 || n = 0x202F || n = 0x205F ||
    n = 0x3000

/-- `str.strip()`. -/
def strip (t : Text) : Text := ((t.dropWhile isSpace).reverse.dropWhile isSpace).reverse

lemma strip_strip (t : Text) : strip (strip t) = strip t := by
  have hstart : strip t <+: t.dropWhile isSpace := rdropWhile_prefix isSpace _
  -- the first character left is the one that stopped the first `dropWhile`
  have hhead : (strip t).dropWhile isSpace = strip t := by
    rw [dropWhile_eq_self_iff]
    intro hlen
    have hlong : 0 < (t.dropWhile isSpace).length := Nat.lt_of_lt_of_le hlen hstart.length_le
    rw [hstart.getElem hlen]
    exact dropWhile_get_zero_not isSpace t hlong
  have htwice : strip (strip t) = ((strip t).dropWhile isSpace).rdropWhile isSpace := rfl
  rw [htwice, hhead]
  exact rdropWhile_idempotent _ _

/-- Stripping spares a text that starts and ends without a space, whatever
follows it. -/
lemma strip_append {p : Text} (hfirst : p.dropWhile isSpace = p) (hne : p ≠ [])
    (hlast : p.reverse.dropWhile isSpace = p.reverse) (v : Text) :
    ∃ w, strip (p ++ v) = p ++ w := by
  have hhead : (p ++ v).dropWhile isSpace = p ++ v := by
    rw [dropWhile_append, hfirst]
    cases p with
    | nil => exact absurd rfl hne
    | cons c p => rfl
  unfold strip
  rw [hhead, reverse_append, dropWhile_append, hlast]
  split_ifs
  · exact ⟨[], by rw [reverse_reverse, append_nil]⟩
  · exact ⟨(v.reverse.dropWhile isSpace).reverse, by
      rw [reverse_append, reverse_reverse]⟩

/-- `str.partition` at one character: what is before it, whether it is there, what follows. -/
def partition (sep : Char) (t : Text) : Text × Bool × Text :=
  (t.takeWhile fun c => c ≠ sep, sep ∈ t, (t.dropWhile fun c => c ≠ sep).drop 1)

/-- `str.isascii()`. -/
def isAscii (t : Text) : Bool := t.all fun c => c.toNat < 128

/-- `str.partition(":")[2]`. -/
def afterColon (t : Text) : Text := (t.dropWhile fun c => c ≠ ':').drop 1

/-! ## Words and fields -/

/-- `str.split()`. -/
def words (t : Text) : List Text := (t.splitOnP isSpace).filter fun w => w ≠ []

/-- `str.split(",")`. -/
def fields (t : Text) : List Text := t.splitOn ','

/-- `str.lower()`, as far as a comparison with an ASCII word can tell: of the
other characters only the Kelvin sign lowers to an ASCII letter. -/
def lower (t : Text) : Text := t.map fun c => if c.toNat = 0x212A then 'k' else c.toLower

variable {t line : Text} {lines : List Text}

lemma mem_of_mem_splitOnP {p : Char → Bool} {w : Text} {c : Char}
    (hw : w ∈ t.splitOnP p) (hc : c ∈ w) : c ∈ t := by
  induction t generalizing w with
  | nil =>
    have hnil : w = [] := by simpa using hw
    subst hnil
    cases hc
  | cons x t ih =>
    rw [splitOnP_cons_eq_if_modifyHead] at hw
    split at hw
    · rcases mem_cons.mp hw with rfl | hw
      · cases hc
      · exact mem_cons_of_mem _ (ih hw hc)
    · rcases exists_cons_of_ne_nil (splitOnP_ne_nil p t) with ⟨first, others, hsplit⟩
      rw [hsplit, modifyHead_cons] at hw
      rcases mem_cons.mp hw with rfl | hw
      · rcases mem_cons.mp hc with rfl | hc
        · exact mem_cons_self
        · have hfirst : first ∈ t.splitOnP p := by rw [hsplit]; exact mem_cons_self
          exact mem_cons_of_mem _ (ih hfirst hc)
      · have hother : w ∈ t.splitOnP p := by rw [hsplit]; exact mem_cons_of_mem _ hw
        exact mem_cons_of_mem _ (ih hother hc)

lemma mem_of_mem_words {w : Text} {c : Char} (hw : w ∈ words t) (hc : c ∈ w) : c ∈ t :=
  mem_of_mem_splitOnP (mem_filter.mp hw).1 hc

lemma not_mem_of_mem_fields {f : Text} (hf : f ∈ fields t) : ',' ∉ f := by
  unfold fields at hf
  induction t generalizing f with
  | nil =>
    have hnil : f = [] := by simpa using hf
    simp [hnil]
  | cons x t ih =>
    rw [splitOn_cons_eq_if_modifyHead] at hf
    split at hf
    · rcases mem_cons.mp hf with rfl | hf
      · simp
      · exact ih hf
    · rename_i hx
      rcases exists_cons_of_ne_nil (splitOn_ne_nil ',' t) with ⟨first, others, hsplit⟩
      rw [hsplit, modifyHead_cons] at hf
      rcases mem_cons.mp hf with rfl | hf
      · have hfirst : ',' ∉ first := ih (by rw [hsplit]; exact mem_cons_self)
        have hne : ',' ≠ x := by
          rintro rfl
          simp at hx
        simp [hne, hfirst]
      · exact ih (by rw [hsplit]; exact mem_cons_of_mem _ hf)

/-- The first two fields of a text, read off the text itself. -/
lemma fields_eq_cons_cons_iff {a b : Text} (ha : ',' ∉ a) (hb : ',' ∉ b) :
    (∃ rest, fields t = a :: b :: rest) ↔
      t = a ++ ',' :: b ∨ ∃ rest, t = a ++ ',' :: (b ++ ',' :: rest) := by
  constructor
  · rintro ⟨rest, hfields⟩
    have ht : [','].intercalate (fields t) = t := intercalate_splitOn ','
    rw [hfields] at ht
    cases rest with
    | nil =>
      left
      rw [← ht]
      simp [intercalate]
    | cons c rest =>
      right
      refine ⟨[','].intercalate (c :: rest), ?_⟩
      rw [← ht]
      simp [intercalate]
  · rintro (rfl | ⟨rest, rfl⟩)
    · refine ⟨[], ?_⟩
      unfold fields
      rw [splitOn_append_cons_self_of_not_mem ha, splitOn_eq_singleton hb]
    · refine ⟨fields rest, ?_⟩
      unfold fields
      rw [splitOn_append_cons_self_of_not_mem ha, splitOn_append_cons_self_of_not_mem hb]

/-! ## JSON strings -/

/-- The digits of a code unit in a JSON escape. -/
def hex4 (n : ℕ) : Text :=
  [n / 4096 % 16, n / 256 % 16, n / 16 % 16, n % 16].map Nat.digitChar

/-- One character inside a JSON string, ASCII only: a character outside the
basic plane is a surrogate pair. -/
def jsonChar (c : Char) : Text :=
  let n := c.toNat
  if c = '"' then ['\\', '"']
  else if c = '\\' then ['\\', '\\']
  else if n = 10 then ['\\', 'n']
  else if n = 13 then ['\\', 'r']
  else if n = 9 then ['\\', 't']
  else if n = 8 then ['\\', 'b']
  else if n = 12 then ['\\', 'f']
  else if 32 ≤ n ∧ n < 127 then [c]
  else if n < 0x10000 then ['\\', 'u'] ++ hex4 n
  else ['\\', 'u'] ++ hex4 (0xD800 + (n - 0x10000) / 1024) ++
    ['\\', 'u'] ++ hex4 (0xDC00 + (n - 0x10000) % 1024)

/-- `json.dumps` of a string. -/
def jsonString (t : Text) : Text := ['"'] ++ t.flatMap jsonChar ++ ['"']

/-! ## Digits -/

/-- The zeros of the decimal digit blocks (`Nd`). -/
def digitZeros : List ℕ :=
  [0x30, 0x660, 0x6F0, 0x7C0, 0x966, 0x9E6, 0xA66, 0xAE6, 0xB66, 0xBE6, 0xC66, 0xCE6, 0xD66,
    0xDE6, 0xE50, 0xED0, 0xF20, 0x1040, 0x1090, 0x17E0, 0x1810, 0x1946, 0x19D0, 0x1A80, 0x1A90,
    0x1B50, 0x1BB0, 0x1C40, 0x1C50, 0xA620, 0xA8D0, 0xA900, 0xA9D0, 0xA9F0, 0xAA50, 0xABF0,
    0xFF10, 0x104A0, 0x10D30, 0x11066, 0x110F0, 0x11136, 0x111D0, 0x112F0, 0x11450, 0x114D0,
    0x11650, 0x116C0, 0x11730, 0x118E0, 0x11950, 0x11C50, 0x11D50, 0x11DA0, 0x11F50, 0x16A60,
    0x16AC0, 0x16B50, 0x1D7CE, 0x1D7D8, 0x1D7E2, 0x1D7EC, 0x1D7F6, 0x1E140, 0x1E2F0, 0x1E4F0,
    0x1E950, 0x1FBF0]

/-- The value of a decimal digit, as `\d` and `int` see it. -/
def digit (c : Char) : Option ℕ :=
  (digitZeros.find? fun z => z ≤ c.toNat ∧ c.toNat ≤ z + 9).map fun z => c.toNat - z

/-- `int` of decimal digits. -/
def digitsValue (digits : List ℕ) : ℕ := digits.foldl (fun n d => 10 * n + d) 0

/-! ## Lines -/

/-- The line boundaries of `splitlines`. -/
def isLineBreak (c : Char) : Bool :=
  let n := c.toNat
  (10 ≤ n && n ≤ 13) || (28 ≤ n && n ≤ 30) || n = 0x85 || n = 0x2028 || n = 0x2029

/-- `str.splitlines()`. -/
def splitLines : Text → List Text
  | [] => []
  | '\r' :: '\n' :: rest => [] :: splitLines rest
  | c :: rest =>
    if isLineBreak c then [] :: splitLines rest
    else
      match splitLines rest with
      | [] => [[c]]
      | line :: lines => (c :: line) :: lines

/-- `"\n".join(lines) + "\n"`. -/
def unlines (lines : List Text) : Text := List.intercalate ['\n'] lines ++ ['\n']

/-- A text without line boundaries. -/
def OneLine (t : Text) : Prop := ∀ c ∈ t, isLineBreak c = false

lemma splitLines_oneLine (t : Text) : ∀ line ∈ splitLines t, OneLine line := by
  fun_induction splitLines t with
  | case1 => simp
  | case2 rest ih | case3 c rest _ hbreak ih =>
    intro line hline
    rcases mem_cons.mp hline with rfl | hline
    · intro c hc
      cases hc
    · exact ih line hline
  | case4 c rest _ hchar hlines ih =>
    intro line hline
    rw [mem_singleton] at hline
    subst hline
    intro x hx
    rw [mem_singleton] at hx
    subst hx
    simpa using hchar
  | case5 c rest _ hchar first others hlines ih =>
    rw [hlines] at ih
    intro line hline
    rcases mem_cons.mp hline with rfl | hline
    · intro x hx
      rcases mem_cons.mp hx with rfl | hx
      · simpa using hchar
      · exact ih first mem_cons_self x hx
    · exact ih line (mem_cons_of_mem _ hline)

lemma OneLine.afterColon (h : OneLine t) : OneLine (afterColon t) := by
  intro c hc
  exact h c ((dropWhile_sublist _).mem (mem_of_mem_drop hc))

/-- A line and its newline are split off as that line. -/
lemma splitLines_line (h : OneLine line) (rest : Text) :
    splitLines (line ++ '\n' :: rest) = line :: splitLines rest := by
  induction line with
  | nil =>
    rw [nil_append, splitLines]
    · rw [if_pos (by decide)]
    · intro _ h
      cases h
  | cons c line ih =>
    have hc : isLineBreak c = false := h c mem_cons_self
    have hrest := ih fun x hx => h x (mem_cons_of_mem _ hx)
    rw [cons_append, splitLines]
    · rw [hrest, hc]
      rfl
    · intro x hx
      cases hx
      exact absurd hc (by decide)

lemma unlines_cons (h : lines ≠ []) : unlines (line :: lines) = line ++ '\n' :: unlines lines := by
  rcases exists_cons_of_ne_nil h with ⟨next, others, rfl⟩
  unfold unlines
  simp [intercalate, intersperse]

/-- Joining lines and splitting them again gives the lines back. -/
lemma splitLines_unlines (hne : lines ≠ [])
    (h : ∀ line ∈ lines, OneLine line) : splitLines (unlines lines) = lines := by
  induction lines with
  | nil => exact absurd rfl hne
  | cons line lines ih =>
    have hline := h line mem_cons_self
    by_cases hlast : lines = []
    · subst hlast
      have hsplit := splitLines_line hline []
      simpa [unlines, splitLines, intercalate] using hsplit
    · rw [unlines_cons hlast, splitLines_line hline,
        ih hlast fun l hl => h l (mem_cons_of_mem _ hl)]

/-! ## Numbers -/

/-- A value of `float`. -/
inductive FloatValue where
  | finite (q : ℚ)
  | infinite (negative : Bool)
  | nan
deriving DecidableEq

/-- Digits, with single underscores between them; the digit before is read. -/
def takeDigitsTail : Text → List ℕ × Text
  | '_' :: c :: rest =>
    match digit c with
    | some d => ((takeDigitsTail rest).1.cons d, (takeDigitsTail rest).2)
    | none => ([], '_' :: c :: rest)
  | c :: rest =>
    match digit c with
    | some d => ((takeDigitsTail rest).1.cons d, (takeDigitsTail rest).2)
    | none => ([], c :: rest)
  | [] => ([], [])

/-- The digits a number starts with. -/
def takeDigits : Text → List ℕ × Text
  | c :: rest =>
    match digit c with
    | some d => ((takeDigitsTail rest).1.cons d, (takeDigitsTail rest).2)
    | none => ([], c :: rest)
  | [] => ([], [])

/-- An optional sign: whether it is a minus, and the rest. -/
def takeSign : Text → Bool × Text
  | '-' :: rest => (true, rest)
  | '+' :: rest => (false, rest)
  | t => (false, t)

/-- The exponent part, if it takes the whole rest of the text. -/
def exponent : Text → Option ℤ
  | [] => some 0
  | c :: rest =>
    if c = 'e' ∨ c = 'E' then
      let (negative, unsigned) := takeSign rest
      match takeDigits unsigned with
      | ([], _) => none
      | (digits, []) =>
        some (if negative then -(digitsValue digits : ℤ) else digitsValue digits)
      | (_, _ :: _) => none
    else none

/-- A finite numeral without its sign. -/
def numeral (t : Text) : Option ℚ :=
  let (whole, afterWhole) := takeDigits t
  let (fraction, afterFraction) := match afterWhole with
    | '.' :: rest => takeDigits rest
    | rest => ([], rest)
  if whole = [] ∧ fraction = [] then none
  else (exponent afterFraction).map fun e =>
    (digitsValue (whole ++ fraction) : ℚ) * (10 : ℚ) ^ (e - (fraction.length : ℤ))

/-- The value after overflow to infinity and underflow to zero. -/
def toFloat (negative : Bool) (magnitude : ℚ) : FloatValue :=
  if (2 : ℚ) ^ (1024 : ℕ) - (2 : ℚ) ^ (970 : ℕ) ≤ magnitude then .infinite negative
  else if magnitude * (2 : ℚ) ^ (1075 : ℕ) ≤ 1 then .finite 0
  else .finite (if negative then -magnitude else magnitude)

/-- `float(text)`; `none` is `ValueError`. -/
def float (t : Text) : Option FloatValue :=
  let (negative, unsigned) := takeSign (strip t)
  let lower := unsigned.map Char.toLower
  if lower = "inf".toList ∨ lower = "infinity".toList then some (.infinite negative)
  else if lower = "nan".toList then some .nan
  else (numeral unsigned).map (toFloat negative)

end Text

/-- `round` of a number: to the nearest integer, ties to even. -/
def roundHalfEven (q : ℚ) : ℤ :=
  let below := ⌊q⌋
  if q - below < 1 / 2 then below
  else if 1 / 2 < q - below then below + 1
  else if below % 2 = 0 then below else below + 1

/-- A sequence that returns: each part did. -/
lemma bind_ok {ε α β : Type} {x : Except ε α} {f : α → Except ε β} {r : β}
    (h : x >>= f = .ok r) : ∃ a, x = .ok a ∧ f a = .ok r := by
  cases x with
  | error e => cases h
  | ok a => exact ⟨a, rfl, h⟩

end Lib
