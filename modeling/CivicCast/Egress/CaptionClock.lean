import CivicCast.Lib.Python

/-! # The video clock of a capture

The window of a capture runs over the timestamps of its video packets. A timestamp has 33 bits, so
the clock starts again every 26 hours; each one is put next to the one before it.
-/

namespace CivicCast.Egress.CaptionClock

open Lib List

/-- The bytes of a timestamp. -/
abbrev Pts := UInt8 × UInt8 × UInt8 × UInt8 × UInt8

/-- The timestamp of a packet that starts a video PES with one. -/
def ptsBytes (packet : List UInt8) : Option Pts :=
  match packet with
  | _ :: b₁ :: _ :: b₃ :: payload =>
    if b₁ &&& 0x40 = 0 ∨ b₃ &&& 0x10 = 0 then none
    else
      let offset := if b₃ &&& 0x20 = 0 then 0 else 1 + (payload.headD 0).toNat
      match payload.drop offset with
      | 0 :: 0 :: 1 :: stream :: _ :: _ :: _ :: flags :: size :: p₀ :: p₁ :: p₂ :: p₃ :: p₄ :: _ =>
        if stream < 0xE0 ∨ 0xEF < stream ∨ flags &&& 0x80 = 0 ∨ size < 5 then none
        else some (p₀, p₁, p₂, p₃, p₄)
      | _ => none
  | _ => none

def decodePts : Pts → ℕ
  | (p₀, p₁, p₂, p₃, p₄) => ((p₀.toNat >>> 1) &&& 7) <<< 30 ||| p₁.toNat <<< 22 |||
      (p₂.toNat >>> 1) <<< 15 ||| p₃.toNat <<< 7 ||| p₄.toNat >>> 1

/-- The seconds after which the clock starts again. -/
def wrapSeconds : ℚ := 2 ^ 33 / 90000

/-- A timestamp next to the one before it; the stamps are the latest first. -/
def unwrap (stamps : List ℚ) (pts : ℕ) : List ℚ :=
  let seconds : ℚ := pts / 90000
  match stamps with
  | [] => [seconds]
  | last :: _ =>
    (seconds + roundHalfEven ((last - seconds) / wrapSeconds) * wrapSeconds) :: stamps

/-- The loop that reads the packets; `none` for a capture that is cut off or out of step. -/
def readStamps : ℕ → List UInt8 → List ℚ → Option (List ℚ)
  | 0, _, _ => none
  | fuel + 1, stream, stamps =>
    if stream = [] then some stamps
    else if (stream.take 188).length ≠ 188 ∨ stream.head? ≠ some 0x47 then none
    else
      readStamps fuel (stream.drop 188)
        (((ptsBytes (stream.take 188)).map decodePts).elim stamps (unwrap stamps))

/-- `captured_video_pts_window`, in exact seconds. -/
def capturedVideoPtsWindow (file : List UInt8) : Option (ℚ × ℚ) :=
  if 64 * 1024 * 1024 < file.length then none
  else do
    let stamps ← readStamps (file.length + 1) file []
    return (← stamps.min?, ← stamps.max?)

/-- The number that the bytes of a timestamp stand for. -/
def ptsField : Pts → ℕ
  | (p₀, p₁, p₂, p₃, p₄) => p₀.toNat / 2 % 8 * 2 ^ 30 + p₁.toNat * 2 ^ 22 + p₂.toNat / 2 * 2 ^ 15 +
      p₃.toNat * 2 ^ 7 + p₄.toNat / 2

/-- A capture of whole packets, with the true times of its video timestamps, in ticks. -/
structure Capture where
  packets : List (List UInt8)
  ticks : List ℤ
  whole : ∀ packet ∈ packets, packet.length = 188 ∧ packet.head? = some 0x47
  stamped : Forall₂ (fun p t => t ≡ ptsField p [ZMOD 2 ^ 33]) (packets.filterMap ptsBytes) ticks
  close : ticks.IsChain fun a b => |a - b| < 2 ^ 32
  nonempty : ticks ≠ []

lemma decodePts_eq (p : Pts) : decodePts p = ptsField p := by
  obtain ⟨p₀, p₁, p₂, p₃, p₄⟩ := p
  have h₁ := p₁.toNat_lt
  have h₂ := p₂.toNat_lt
  have h₃ := p₃.toNat_lt
  have h₄ := p₄.toNat_lt
  have hor {a b : ℕ} (n : ℕ) (hb : b < 2 ^ n) (ha : 2 ^ n ∣ a) : a ||| b = a + b := by
    obtain ⟨c, rfl⟩ := ha
    exact (Nat.two_pow_add_eq_or_of_lt hb c).symm
  have hlow : p₀.toNat / 2 &&& 7 = p₀.toNat / 2 % 8 := Nat.and_two_pow_sub_one_eq_mod _ 3
  simp only [decodePts, ptsField, Nat.shiftRight_one, Nat.shiftLeft_eq, hlow]
  rw [hor 30 (b := p₁.toNat * 2 ^ 22), hor 22 (b := p₂.toNat / 2 * 2 ^ 15),
    hor 15 (b := p₃.toNat * 2 ^ 7), hor 7] <;> omega

lemma roundHalfEven_eq {q : ℚ} {n : ℤ} (h : |q - n| < 1 / 2) : roundHalfEven q = n := by
  obtain ⟨hlow, hhigh⟩ := abs_lt.mp h
  unfold roundHalfEven
  rcases lt_or_ge q n with hlt | hge
  · have hfloor : ⌊q⌋ = n - 1 :=
      Int.floor_eq_iff.mpr ⟨by push_cast; linarith, by push_cast; linarith⟩
    simp only [hfloor]
    push_cast
    rw [if_neg (by linarith), if_pos (by linarith)]
    ring
  · have hfloor : ⌊q⌋ = n := Int.floor_eq_iff.mpr ⟨hge, by linarith⟩
    simp only [hfloor]
    rw [if_pos (by linarith)]

/-- The seconds of a time on a clock that is `k` turns ahead. -/
def secondsAt (k t : ℤ) : ℚ := ((t + k * 2 ^ 33 : ℤ) : ℚ) / 90000

lemma unwrap_eq {k t t' : ℤ} {pts : ℕ} {stamps : List ℚ} (hclose : |t - t'| < 2 ^ 32)
    (hpts : t' ≡ pts [ZMOD 2 ^ 33]) :
    unwrap (secondsAt k t :: stamps) pts = secondsAt k t' :: secondsAt k t :: stamps := by
  obtain ⟨m, hm⟩ := hpts.dvd
  obtain ⟨hlow, hhigh⟩ := abs_lt.mp hclose
  have hpts' : (pts : ℚ) = t' + 2 ^ 33 * m := by
    have hsum : (pts : ℤ) = t' + 2 ^ 33 * m := by linarith
    exact_mod_cast hsum
  have hround : roundHalfEven ((secondsAt k t - pts / 90000) / wrapSeconds) = k - m := by
    apply roundHalfEven_eq
    have hgap : (secondsAt k t - pts / 90000) / wrapSeconds - (k - m : ℤ) =
        ((t - t' : ℤ) : ℚ) / 2 ^ 33 := by
      rw [hpts', secondsAt, wrapSeconds]
      push_cast
      field_simp
      ring
    rw [hgap, abs_div, div_lt_iff₀ (by positivity), ← Int.cast_abs]
    have hcast : ((|t - t'| : ℤ) : ℚ) < 2 ^ 32 := by exact_mod_cast hclose
    norm_num at hcast ⊢
    exact hcast
  simp only [unwrap, hround, cons.injEq, and_true]
  rw [hpts', secondsAt, wrapSeconds]
  push_cast
  ring

/-- The stamps are the true times, all of them on a clock the same number of turns ahead. -/
lemma foldl_unwrap {k t : ℤ} {pts : List Pts} {ticks seen : List ℤ}
    (h : Forall₂ (fun p t => t ≡ ptsField p [ZMOD 2 ^ 33]) pts ticks)
    (hclose : (t :: ticks).IsChain fun a b => |a - b| < 2 ^ 32) :
    (pts.map decodePts).foldl unwrap ((t :: seen).map (secondsAt k)) =
      (ticks.reverse ++ t :: seen).map (secondsAt k) := by
  induction h generalizing t seen with
  | nil => rfl
  | @cons p t' pts ticks hp _ ih =>
    obtain ⟨hnear, hclose⟩ := isChain_cons_cons.mp hclose
    rw [map_cons, map_cons, foldl_cons, decodePts_eq, unwrap_eq hnear hp, reverse_cons,
      append_assoc]
    exact @ih _ (t :: seen) hclose

lemma readStamps_flatten {packets : List (List UInt8)}
    (h : ∀ packet ∈ packets, packet.length = 188 ∧ packet.head? = some 0x47) {fuel : ℕ}
    (hfuel : packets.length < fuel) (stamps : List ℚ) : readStamps fuel packets.flatten stamps =
      some (((packets.filterMap ptsBytes).map decodePts).foldl unwrap stamps) := by
  induction packets generalizing fuel stamps with
  | nil =>
    obtain ⟨fuel, rfl⟩ := Nat.exists_eq_add_of_lt hfuel
    rfl
  | cons packet rest ih =>
    obtain ⟨fuel, rfl⟩ := Nat.exists_eq_add_of_lt hfuel
    obtain ⟨⟨hlength, hhead⟩, hrest⟩ := forall_mem_cons.mp h
    have htake : (packet ++ rest.flatten).take 188 = packet := take_left' hlength
    have hdrop : (packet ++ rest.flatten).drop 188 = rest.flatten := drop_left' hlength
    have hne : packet ≠ [] := ne_nil_of_length_pos (by omega)
    rw [flatten_cons, readStamps, if_neg (by simp [hne]), htake, hdrop,
      if_neg (by simp [hlength, head?_append, hhead]), ih hrest (by simp only [length_cons]; omega)]
    cases hbytes : ptsBytes packet with
    | none | some p => simp [hbytes]

/-- The window of a capture of at most 64 MiB runs from the least of its true times to the greatest,
all of them as many turns of the clock ahead. -/
theorem window_of_capture (c : Capture) (hsize : c.packets.flatten.length ≤ 64 * 1024 * 1024) :
    ∃ k : ℤ, ∃ first ∈ c.ticks, ∃ last ∈ c.ticks, (∀ t ∈ c.ticks, first ≤ t ∧ t ≤ last) ∧
      capturedVideoPtsWindow c.packets.flatten = some (secondsAt k first, secondsAt k last) := by
  obtain ⟨k, hstamps⟩ : ∃ k, ((c.packets.filterMap ptsBytes).map decodePts).foldl unwrap [] =
      c.ticks.reverse.map (secondsAt k) := by
    have hstamped := c.stamped
    have hclose := c.close
    have hne := c.nonempty
    generalize c.packets.filterMap ptsBytes = pts at hstamped ⊢
    generalize c.ticks = ticks at *
    cases hstamped with
    | nil => exact absurd rfl hne
    | @cons p t pts ticks hp hrest =>
      obtain ⟨m, hm⟩ := hp.dvd
      have hfirst : unwrap [] (decodePts p) = [t].map (secondsAt m) := by
        have hsum : (ptsField p : ℤ) = t + m * 2 ^ 33 := by linarith
        simp only [unwrap, map_singleton, secondsAt, ← hsum, Int.cast_natCast, decodePts_eq]
      refine ⟨m, ?_⟩
      rw [map_cons, foldl_cons, hfirst, foldl_unwrap hrest hclose, reverse_cons]
  obtain ⟨first, hfirst⟩ := Option.isSome_iff_exists.mp (isSome_min?_of_ne_nil c.nonempty)
  obtain ⟨last, hlast⟩ := Option.isSome_iff_exists.mp (isSome_max?_of_ne_nil c.nonempty)
  obtain ⟨hfirst, hleast⟩ := min?_eq_some_iff.mp hfirst
  obtain ⟨hlast, hgreatest⟩ := max?_eq_some_iff.mp hlast
  refine ⟨k, first, hfirst, last, hlast, fun t ht => ⟨hleast t ht, hgreatest t ht⟩, ?_⟩
  have hmono {a b : ℤ} (h : a ≤ b) : secondsAt k a ≤ secondsAt k b := by
    unfold secondsAt
    gcongr
  have hmin : (c.ticks.reverse.map (secondsAt k)).min? = some (secondsAt k first) :=
    min?_eq_some_iff.mpr ⟨mem_map_of_mem (mem_reverse.mpr hfirst),
      forall_mem_map.mpr fun t ht => hmono (hleast t (mem_reverse.mp ht))⟩
  have hmax : (c.ticks.reverse.map (secondsAt k)).max? = some (secondsAt k last) :=
    max?_eq_some_iff.mpr ⟨mem_map_of_mem (mem_reverse.mpr hlast),
      forall_mem_map.mpr fun t ht => hmono (hgreatest t (mem_reverse.mp ht))⟩
  have hfuel : c.packets.length < c.packets.flatten.length + 1 := by
    rw [length_flatten, ← length_map (f := length), Nat.lt_succ_iff]
    refine length_le_sum_of_one_le _ fun n hn => ?_
    obtain ⟨packet, hpacket, rfl⟩ := mem_map.mp hn
    rw [(c.whole packet hpacket).1]
    decide
  rw [capturedVideoPtsWindow, if_neg (not_lt.mpr hsize), readStamps_flatten c.whole hfuel, hstamps]
  simp only [Option.bind_eq_bind, Option.bind_some, hmin, hmax, Option.pure_def]

/-- A packet that starts a video PES, with its timestamp. -/
def videoPacket (p₀ p₁ p₂ p₃ p₄ : UInt8) : List UInt8 :=
  [0x47, 0x40, 0, 0x10, 0, 0, 1, 0xE0, 0, 0, 0, 0x80, 5, p₀, p₁, p₂, p₃, p₄] ++ replicate 170 0

/-- A capture in which the clock starts again. -/
def overWrap : Capture where
  packets := [videoPacket 0x2F 0xFF 0xFF 0xFF 0xFF, videoPacket 0x21 0 1 0 3]
  ticks := [2 ^ 33 - 1, 2 ^ 33 + 1]
  whole := by decide +kernel
  stamped := .cons (by decide +kernel) (.cons (by decide +kernel) .nil)
  close := by decide
  nonempty := by decide

theorem window_over_wrap : ∃ k : ℤ, ∃ first ∈ overWrap.ticks, ∃ last ∈ overWrap.ticks,
    (∀ t ∈ overWrap.ticks, first ≤ t ∧ t ≤ last) ∧
    capturedVideoPtsWindow overWrap.packets.flatten = some (secondsAt k first, secondsAt k last) :=
  window_of_capture overWrap (by decide +kernel)

end CivicCast.Egress.CaptionClock
