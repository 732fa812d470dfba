import CivicCast.Lib.Python

/-! # Paths, their texts, and files written one after another

A path is an anchor and its parts, as `pathlib` has them: a relative path has no anchor. The text
of a relative path in POSIX form gives the parts back wherever the parts are names that Windows
allows (`posixParts_asPosix`), and a number padded with zeros gives the number back
(`zeroPad_inj`), also in front of a name (`numbered_inj`).

`writeAll` writes files in order. At each path the last write stands (`writeAll_of_mem`), and
where nothing is written nothing changes (`writeAll_of_not_mem`).
-/

namespace Lib

open List Function

structure Path where
  anchor : Text
  parts : List Text
  deriving DecidableEq

namespace Path

variable {p q root : Path} {rest : List Text}

def isAbsolute (p : Path) : Bool := p.anchor ≠ []

def name (p : Path) : Text := p.parts.getLast?.getD []

def joinpath (p : Path) (rest : List Text) : Path := { p with parts := p.parts ++ rest }

def relativeTo (p root : Path) : Option (List Text) :=
  if p.anchor = root.anchor ∧ root.parts <+: p.parts then some (p.parts.drop root.parts.length)
  else none

def Above (root p : Path) : Prop := ∃ rest, p = root.joinpath rest

@[simp] lemma joinpath_nil (p : Path) : p.joinpath [] = p := by
  simp [joinpath]

lemma relativeTo_eq_some : p.relativeTo root = some rest ↔ p = root.joinpath rest := by
  unfold relativeTo
  constructor
  · intro h
    split at h
    · rename_i hunder
      obtain ⟨hanchor, tail, htail⟩ := hunder
      obtain rfl := Option.some.inj h
      cases p
      simp_all [joinpath]
      rw [← htail, drop_left]
    · cases h
  · rintro rfl
    rw [if_pos ⟨rfl, prefix_append ..⟩]
    simp [joinpath]

lemma joinpath_inj {rest' : List Text} : p.joinpath rest = p.joinpath rest' ↔ rest = rest' := by
  simp [joinpath]

lemma relativeTo_isSome : (p.relativeTo root).isSome = true ↔ root.Above p := by
  rw [Option.isSome_iff_exists]
  exact exists_congr fun rest => relativeTo_eq_some

instance : Decidable (root.Above p) := decidable_of_iff _ relativeTo_isSome

lemma relativeTo_eq_none : p.relativeTo root = none ↔ ¬root.Above p := by
  rw [← relativeTo_isSome, Option.not_isSome_iff_eq_none]

/-- Of two paths above one, the one with fewer parts is above the other. -/
lemma Above.of_length {x : Path} (hp : p.Above x) (hq : q.Above x)
    (hlength : p.parts.length ≤ q.parts.length) : p.Above q := by
  obtain ⟨tail, rfl⟩ := hp
  obtain ⟨tail', htail⟩ := hq
  obtain ⟨hanchor, hparts⟩ : p.anchor = q.anchor ∧ p.parts ++ tail = q.parts ++ tail' := by
    simpa [joinpath] using htail
  have hp : p.parts <+: q.parts ++ tail' := ⟨tail, hparts⟩
  obtain ⟨middle, hmiddle⟩ := prefix_of_prefix_length_le hp (prefix_append ..) hlength
  refine ⟨middle, ?_⟩
  cases q
  simp_all [joinpath]

end Path

/-! ## The text of a relative path -/

/-- What Windows does not allow in a name. -/
def forbiddenInName : List Char := ['<', '>', ':', '"', '/', '\\', '|', '?', '*']

/-- A name that Windows allows: no forbidden or control character, and no dot or space at the
end. -/
structure LegalName (name : Text) : Prop where
  nonempty : name ≠ []
  chars : ∀ c ∈ name, c ∉ forbiddenInName ∧ 32 ≤ c.toNat
  last : name.getLast? ≠ some '.' ∧ name.getLast? ≠ some ' '

-- The characters are looked at in the list: `∀ c ∈ name` would be decided over all of `Char`.
instance (name : Text) : Decidable (LegalName name) :=
  decidable_of_iff (name ≠ [] ∧
      (name.all fun c => decide (c ∉ forbiddenInName) && decide (32 ≤ c.toNat)) = true ∧
      name.getLast? ≠ some '.' ∧ name.getLast? ≠ some ' ')
    ⟨fun ⟨nonempty, chars, last⟩ => ⟨nonempty, by simpa using chars, last⟩,
      fun h => ⟨h.nonempty, by simpa using h.chars, h.last⟩⟩

variable {width n : ℕ} {name : Text} {c : Char} {parts : List Text}

lemma LegalName.not_mem (h : LegalName name) (hc : c ∈ forbiddenInName) : c ∉ name :=
  fun hmem => (h.chars c hmem).1 hc

def dot : Text := ['.']

def dotDot : Text := ['.', '.']

lemma LegalName.ne_dot (h : LegalName name) : name ≠ dot := by
  rintro rfl
  exact h.last.1 rfl

lemma LegalName.ne_dotDot (h : LegalName name) : name ≠ dotDot := by
  rintro rfl
  exact h.last.1 rfl

/-- `as_posix` of a relative path. -/
def asPosix (parts : List Text) : Text := List.intercalate ['/'] parts

/-- The parts of a `PurePosixPath`, less the root of an absolute one. -/
def posixParts (t : Text) : List Text := (t.splitOn '/').filter fun part => part ≠ [] ∧ part ≠ dot

lemma posixParts_asPosix (hne : parts ≠ [])
    (h : ∀ part ∈ parts, LegalName part) : posixParts (asPosix parts) = parts := by
  have hsplit : (asPosix parts).splitOn '/' = parts :=
    splitOn_intercalate '/' (fun part hpart => (h part hpart).not_mem (by decide)) hne
  unfold posixParts
  rw [hsplit, filter_eq_self]
  intro part hpart
  simp [(h part hpart).nonempty, (h part hpart).ne_dot]

lemma asPosix_cons (part : Text) (parts : List Text) :
    ∃ rest, asPosix (part :: parts) = part ++ rest := by
  cases parts with
  | nil => exact ⟨[], by simp [asPosix]⟩
  | cons next parts => exact ⟨'/' :: asPosix (next :: parts), by simp [asPosix, intercalate]⟩

lemma mem_asPosix (h : c ∈ asPosix parts) : c = '/' ∨ ∃ part ∈ parts, c ∈ part := by
  induction parts with
  | nil => simp [asPosix] at h
  | cons part parts ih =>
    cases parts with
    | nil => exact .inr ⟨part, mem_singleton_self part, by simpa [asPosix] using h⟩
    | cons next parts =>
      have hsplit : asPosix (part :: next :: parts) = part ++ '/' :: asPosix (next :: parts) := by
        simp [asPosix, intercalate]
      rw [hsplit, mem_append, mem_cons] at h
      rcases h with h | rfl | h
      · exact .inr ⟨part, mem_cons_self, h⟩
      · exact .inl rfl
      · rcases ih h with rfl | ⟨other, hother, hc⟩
        · exact .inl rfl
        · exact .inr ⟨other, mem_cons_of_mem _ hother, hc⟩

/-! ## Numbers padded with zeros -/

/-- `f"{n:0{width}d}"`. -/
def zeroPad (width n : ℕ) : Text :=
  (List.replicate (width - (Nat.digits 10 n).length) 0 ++ (Nat.digits 10 n).reverse).map
    Nat.digitChar

lemma digitChar_legal : ∀ a < 10,
    Nat.digitChar a ∉ forbiddenInName ∧ 32 ≤ (Nat.digitChar a).toNat ∧ Nat.digitChar a ≠ '-' ∧
      Nat.digitChar a ≠ '.' ∧ Nat.digitChar a ≠ ' ' := by
  decide

lemma digit_of_mem_padded {d : ℕ}
    (h : d ∈ List.replicate (width - (Nat.digits 10 n).length) 0 ++ (Nat.digits 10 n).reverse) :
    d < 10 := by
  rcases mem_append.mp h with h | h
  · rw [eq_of_mem_replicate h]
    decide
  · exact Nat.digits_lt_base (by decide) (mem_reverse.mp h)

lemma zeroPad_digit (h : c ∈ zeroPad width n) : ∃ d < 10, c = Nat.digitChar d := by
  obtain ⟨d, hd, rfl⟩ := mem_map.mp h
  exact ⟨d, digit_of_mem_padded hd, rfl⟩

/-- What a padded number says. -/
def paddedValue (t : Text) : ℕ := Nat.ofDigits 10 (t.reverse.map fun c => c.toNat - 48)

lemma digitChar_value : ∀ d < 10, (Nat.digitChar d).toNat - 48 = d := by
  decide

lemma paddedValue_zeroPad (width n : ℕ) : paddedValue (zeroPad width n) = n := by
  have hdigits : (zeroPad width n).reverse.map (fun c => c.toNat - 48) =
      Nat.digits 10 n ++ replicate (width - (Nat.digits 10 n).length) 0 := by
    unfold zeroPad
    rw [← map_reverse, map_map, reverse_append, reverse_reverse, reverse_replicate]
    conv_rhs => rw [← map_id (Nat.digits 10 n ++ _)]
    refine map_congr_left fun d hd => digitChar_value d ?_
    rcases mem_append.mp hd with hd | hd
    · exact Nat.digits_lt_base (by decide) hd
    · rw [eq_of_mem_replicate hd]
      decide
  unfold paddedValue
  rw [hdigits, Nat.ofDigits_append_replicate_zero, Nat.ofDigits_digits]

lemma zeroPad_inj {n' : ℕ} (h : zeroPad width n = zeroPad width n') : n = n' := by
  rw [← paddedValue_zeroPad width n, h, paddedValue_zeroPad]

def numbered (width n : ℕ) (name : Text) : Text := zeroPad width n ++ '-' :: name

lemma zeroPad_no_dash : '-' ∉ zeroPad width n := by
  intro h
  obtain ⟨d, hd, hc⟩ := zeroPad_digit h
  exact (digitChar_legal d hd).2.2.1 hc.symm

lemma numbered_inj {n' : ℕ} {name' : Text}
    (h : numbered width n name = numbered width n' name') : n = n' := by
  have hsplit : ∀ n (name : Text),
      (numbered width n name).takeWhile (· ≠ '-') = zeroPad width n := by
    intro n name
    unfold numbered
    rw [takeWhile_append_of_pos]
    · simp
    · intro c hc
      simpa using fun heq => zeroPad_no_dash (heq ▸ hc)
  have hpad : zeroPad width n = zeroPad width n' := by rw [← hsplit n name, h, hsplit]
  exact zeroPad_inj hpad

lemma zeroPad_legal (hwidth : 0 < width) : LegalName (zeroPad width n) := by
  have hdigit : ∀ c ∈ zeroPad width n, c ∉ forbiddenInName ∧ 32 ≤ c.toNat ∧ c ≠ '.' ∧ c ≠ ' ' := by
    intro c hc
    obtain ⟨d, hd, rfl⟩ := zeroPad_digit hc
    obtain ⟨hforbidden, hcontrol, -, hdot, hspace⟩ := digitChar_legal d hd
    exact ⟨hforbidden, hcontrol, hdot, hspace⟩
  constructor
  · intro hnil
    have hlength : (zeroPad width n).length = 0 := by rw [hnil]; rfl
    simp only [zeroPad, length_map, length_append, length_replicate, length_reverse] at hlength
    omega
  · exact fun c hc => ⟨(hdigit c hc).1, (hdigit c hc).2.1⟩
  · constructor
    · exact fun hlast => (hdigit '.' (mem_of_getLast? hlast)).2.2.1 rfl
    · exact fun hlast => (hdigit ' ' (mem_of_getLast? hlast)).2.2.2 rfl

lemma numbered_legal (h : LegalName name) : LegalName (numbered width n name) := by
  have hlast : (numbered width n name).getLast? = name.getLast? := by
    cases name with
    | nil => exact (h.nonempty rfl).elim
    | cons c rest => simp [numbered, getLast?_append, getLast?_cons]
  constructor
  · simp [numbered]
  · intro c hc
    rcases mem_append.mp hc with hc | hc
    · obtain ⟨d, hd, rfl⟩ := zeroPad_digit hc
      exact ⟨(digitChar_legal d hd).1, (digitChar_legal d hd).2.1⟩
    · rcases mem_cons.mp hc with rfl | hc
      · decide
      · exact h.chars c hc
  · rw [hlast]
    exact h.last

/-! ## Files written in order -/

section Write

variable {K V : Type} [DecidableEq K] {writes : List (K × V)}

/-- Write each value at its key, in order. -/
def writeAll (writes : List (K × V)) (files : K → Option V) : K → Option V :=
  writes.foldl (fun files w => update files w.1 (some w.2)) files

lemma writeAll_cons (w : K × V) (writes : List (K × V)) (files : K → Option V) :
    writeAll (w :: writes) files = writeAll writes (update files w.1 (some w.2)) := rfl

lemma writeAll_of_not_mem {files : K → Option V} {k : K}
    (h : ∀ w ∈ writes, w.1 ≠ k) : writeAll writes files k = files k := by
  induction writes generalizing files with
  | nil => rfl
  | cons w writes ih =>
    obtain ⟨hw, hrest⟩ := forall_mem_cons.mp h
    rw [writeAll_cons, ih hrest, update_of_ne (Ne.symm hw)]

lemma writeAll_of_mem {k : K} (h : ∃ w ∈ writes, w.1 = k)
    (files : K → Option V) : ∃ w ∈ writes, w.1 = k ∧ writeAll writes files k = some w.2 := by
  induction writes generalizing files with
  | nil =>
    obtain ⟨w, hw, -⟩ := h
    cases hw
  | cons w writes ih =>
    rw [writeAll_cons]
    by_cases hlater : ∃ w' ∈ writes, w'.1 = k
    · obtain ⟨w', hw', hk, hval⟩ := ih hlater (update files w.1 (some w.2))
      exact ⟨w', mem_cons_of_mem _ hw', hk, hval⟩
    · -- the first write is the last one at this key
      obtain ⟨w', hw', hk⟩ := h
      have hfirst : w' = w := by
        rcases mem_cons.mp hw' with heq | hmem
        · exact heq
        · exact (hlater ⟨w', hmem, hk⟩).elim
      subst hfirst
      refine ⟨w', mem_cons_self, hk, ?_⟩
      rw [writeAll_of_not_mem fun w'' hmem heq => hlater ⟨w'', hmem, heq⟩, ← hk,
        update_self]

end Write

end Lib
