import Mathlib
import GlyphEffects.Effect.Builtin
import GlyphEffects.Proofs.Doubles
import GlyphEffects.Replay

/-! # What a shake is made of

A shake moves a glyph by two words of 32 bits, which are the halves of one scrambled word. What is
scrambled is the seed, joined with the index of the glyph in its run. On this way nothing is lost:
each round of the scrambling can be undone, and a seed that is an integer is its own whole part as
long as it is within the integers that follow each other without a gap.

* `Effect.xorShift_injective` and `Effect.mul_injective`: the rounds can be undone, and so
  `Effect.scramble_bijective`, scrambling is a permutation of the words.
* `Effect.shakeWords` are the two words of a glyph, and `Effect.shake_transform` is what a shake does
  with them.
* `Effect.shakeWords_law`: **no two glyphs of a run have the same words, and no two seeds give a
  glyph the same words.**
-/

namespace GlyphEffects

open GlyphEffects.Markup GlyphEffects.Number GlyphEffects.Text

/-! ## Scrambling -/

namespace Effect

/-- Mixes the high bits of a word into the low ones. -/
def xorShift (k z : UInt64) : UInt64 := z ^^^ (z >>> k)

theorem xorShift_injective {k : UInt64} (hk : k.toNat % 64 ≠ 0) :
    Function.Injective (xorShift k) := by
  intro z w h
  -- the difference of the two words is its own shift, so it is divided by a power of two
  have hshift : z ^^^ w = (z ^^^ w) >>> k := by
    have hzero : (z ^^^ z >>> k) ^^^ (w ^^^ w >>> k) = 0 := UInt64.xor_eq_zero_iff.2 h
    rw [← UInt64.xor_eq_zero_iff, UInt64.shiftRight_xor, ← hzero]
    ac_rfl
  have hdiv : (z ^^^ w).toNat = (z ^^^ w).toNat / 2 ^ (k.toNat % 64) := by
    conv_lhs => rw [hshift, UInt64.toNat_shiftRight, Nat.shiftRight_eq_div_pow]
  have hnat : (z ^^^ w).toNat = 0 := by
    by_contra hne
    exact absurd hdiv (Nat.div_lt_self (Nat.pos_of_ne_zero hne) (Nat.one_lt_two_pow hk)).ne'
  exact UInt64.xor_eq_zero_iff.1 (UInt64.toNat_inj.1 hnat)

theorem mul_injective {c : UInt64} (hc : Odd c.toNat) : Function.Injective fun z => z * c := by
  intro z w h
  have hmod : z.toNat * c.toNat ≡ w.toNat * c.toNat [MOD 2 ^ 64] := by
    rw [Nat.ModEq, ← UInt64.toNat_mul, ← UInt64.toNat_mul]
    exact congrArg UInt64.toNat h
  have hcoprime : Nat.Coprime (2 ^ 64) c.toNat :=
    Nat.Coprime.pow_left 64 (Nat.coprime_two_left.2 hc)
  have heq := Nat.ModEq.cancel_right_of_coprime hcoprime hmod
  rw [Nat.ModEq, Nat.mod_eq_of_lt z.toNat_lt, Nat.mod_eq_of_lt w.toNat_lt] at heq
  exact UInt64.toNat_inj.1 heq

theorem scramble_eq :
    scramble =
      xorShift 31 ∘ (fun z => z * 0x94d049bb133111eb) ∘
        xorShift 27 ∘ (fun z => z * 0xbf58476d1ce4e5b9) ∘
          xorShift 30 ∘ fun z => z + 0x9e3779b97f4a7c15 := rfl

theorem scramble_bijective : Function.Bijective scramble := by
  have hadd : Function.Injective fun z : UInt64 => z + 0x9e3779b97f4a7c15 := by
    intro z w h
    exact (UInt64.add_left_inj _).1 h
  have h30 : Function.Injective (xorShift 30) := xorShift_injective (by decide)
  have hfirst : Function.Injective fun z : UInt64 => z * 0xbf58476d1ce4e5b9 :=
    mul_injective (by decide)
  have h27 : Function.Injective (xorShift 27) := xorShift_injective (by decide)
  have hsecond : Function.Injective fun z : UInt64 => z * 0x94d049bb133111eb :=
    mul_injective (by decide)
  have h31 : Function.Injective (xorShift 31) := xorShift_injective (by decide)
  rw [scramble_eq]
  exact Finite.injective_iff_bijective.1
    (h31.comp (hsecond.comp (h27.comp (hfirst.comp (h30.comp hadd)))))

/-- The two halves of a word, the low one first. -/
def halves (w : UInt64) : UInt32 × UInt32 := (w.toUInt32, (w >>> 32).toUInt32)

theorem halves_injective : Function.Injective halves := by
  intro v w h
  obtain ⟨hlow, hhigh⟩ := Prod.mk.inj h
  have hlow := congrArg UInt32.toNat hlow
  have hhigh := congrArg UInt32.toNat hhigh
  have hwidth : (32 : UInt64).toNat % 64 = 32 := by decide
  rw [UInt64.toNat_toUInt32, UInt64.toNat_toUInt32] at hlow hhigh
  rw [UInt64.toNat_shiftRight, UInt64.toNat_shiftRight, hwidth, Nat.shiftRight_eq_div_pow,
    Nat.shiftRight_eq_div_pow] at hhigh
  have hv := v.toNat_lt
  have hw := w.toNat_lt
  exact UInt64.toNat_inj.1 (by omega)

end Effect

/-! ## Shakes -/

theorem Position.map_index_ofRun (content : String) :
    (Position.ofRun content).map Position.index = List.range' 1 (clusters content).length := by
  rw [Position.ofRun, List.map_map]
  exact List.zipIdx_map_snd 1 (clusters content)

namespace Effect

/-- The two words that decide where a shake moves the glyph at an index. -/
def shakeWords (args : Arguments) (index : Nat) : UInt32 × UInt32 :=
  halves (scramble (wholeWord (args.getD "seed" 0) ^^^ UInt64.ofNat index))

/-- The seed that the arguments give a shake is the integer `n`. -/
def HasSeed (args : Arguments) (n : Nat) : Prop :=
  (args.getD "seed" 0).isFinite ∧ rational (args.getD "seed" 0) = n

/-- A shake moves a glyph along each axis by one of the two words. -/
theorem shake_transform (args : Arguments) (p : Position) (a : Appearance) :
    shake.transform args p a =
      { a with
        offset :=
          ⟨a.offset.x + mainArgument args 1 * jitter (shakeWords args p.index).1,
            a.offset.y + mainArgument args 1 * jitter (shakeWords args p.index).2⟩ } := rfl

variable {args : Arguments} {i j m n : Nat}

theorem scramble_index_ne (seed : UInt64) (hi : i < 2 ^ 64) (hj : j < 2 ^ 64) (hne : i ≠ j) :
    scramble (seed ^^^ UInt64.ofNat i) ≠ scramble (seed ^^^ UInt64.ofNat j) := by
  intro h
  have hword := congrArg UInt64.toNat
    ((UInt64.xor_right_inj seed).1 (scramble_bijective.injective h))
  rw [UInt64.toNat_ofNat', UInt64.toNat_ofNat'] at hword
  omega

theorem shakeWords_ne_of_index (hi : i < 2 ^ 64) (hj : j < 2 ^ 64) (hne : i ≠ j) :
    shakeWords args i ≠ shakeWords args j :=
  halves_injective.ne (scramble_index_ne _ hi hj hne)

theorem nodup_shakeWords_ofRun {content : String} (h : (clusters content).length < 2 ^ 64) :
    ((Position.ofRun content).map fun p => shakeWords args p.index).Nodup := by
  have hindex : ((Position.ofRun content).map fun p => shakeWords args p.index) =
      (List.range' 1 (clusters content).length).map (shakeWords args) := by
    rw [← Position.map_index_ofRun, List.map_map]
    rfl
  rw [hindex]
  refine List.Nodup.map_on (fun i hi j hj heq => ?_) List.nodup_range'
  rw [List.mem_range'_1] at hi hj
  by_contra hne
  exact shakeWords_ne_of_index (by omega) (by omega) hne heq

theorem shakeWords_ne_of_seed {args' : Arguments} (hm : m ≤ 2 ^ 53) (hn : n ≤ 2 ^ 53)
    (hne : m ≠ n) (h : HasSeed args m) (h' : HasSeed args' n) (index : Nat) :
    shakeWords args index ≠ shakeWords args' index := by
  intro heq
  have hseed := congrArg UInt64.toNat
    ((UInt64.xor_left_inj _).1 (scramble_bijective.injective (halves_injective heq)))
  rw [toNat_wholeWord h.1 h.2 (by omega), toNat_wholeWord h'.1 h'.2 (by omega)] at hseed
  exact hne hseed

theorem exists_hasSeed (args : Arguments) (hn : n ≤ 2 ^ 53) :
    ∃ x, HasSeed (args.insert "seed" x) n := by
  obtain ⟨x, hx⟩ := exists_rational_eq hn
  refine ⟨x, ?_⟩
  rwa [HasSeed, Arguments.getD, Arguments.get?_insert, if_pos rfl, Option.getD_some]

/-- **No two glyphs of a run have the same words, and no two seeds give a glyph the same words.**
Scrambling is a permutation of the words of 64 bits. So whatever its seed is, a shake moves glyphs
at different indices below `2 ^ 64` by different words, and with them all glyphs of a run that is
not longer than that; and all the integers from 0 to `2 ^ 53` are seeds that shake a glyph by
different words, wherever it stands. -/
theorem shakeWords_law :
    Function.Bijective scramble ∧
      (∀ args p a, shake.transform args p a =
        { a with
          offset :=
            ⟨a.offset.x + mainArgument args 1 * jitter (shakeWords args p.index).1,
              a.offset.y + mainArgument args 1 * jitter (shakeWords args p.index).2⟩ }) ∧
      (∀ i j, i < 2 ^ 64 → j < 2 ^ 64 → i ≠ j →
        (∀ seed, scramble (seed ^^^ UInt64.ofNat i) ≠ scramble (seed ^^^ UInt64.ofNat j)) ∧
          ∀ args, shakeWords args i ≠ shakeWords args j) ∧
      (∀ content, (clusters content).length < 2 ^ 64 →
        ∀ args, ((Position.ofRun content).map fun p => shakeWords args p.index).Nodup) ∧
      (∀ m n, m ≤ 2 ^ 53 → n ≤ 2 ^ 53 → m ≠ n →
        ∀ args args', HasSeed args m → HasSeed args' n →
          ∀ index, shakeWords args index ≠ shakeWords args' index) ∧
      ∀ (args : Arguments) (n : Nat), n ≤ 2 ^ 53 → ∃ x, HasSeed (args.insert "seed" x) n := by
  refine ⟨scramble_bijective, shake_transform,
    fun i j hi hj hne => ⟨fun seed => ?_, fun args => ?_⟩,
    fun content h args => nodup_shakeWords_ofRun h, fun m n hm hn hne args args' h h' => ?_,
    fun args n hn => exists_hasSeed args hn⟩
  · exact scramble_index_ne seed hi hj hne
  · exact shakeWords_ne_of_index hi hj hne
  · exact shakeWords_ne_of_seed hm hn hne h h'

end Effect

end GlyphEffects
