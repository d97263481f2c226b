import Mathlib.Combinatorics.Additive.CauchyDavenport
import Mathlib.Algebra.Field.ZMod
import Mathlib.Tactic.Ring

/-! The residues that a polynomial hash takes on texts made of blocks.

A block more multiplies what was reached and adds the residues of the blocks, so by the theorem of
Cauchy and Davenport the residues become more and more until there are no others.
-/

set_option autoImplicit false

namespace Foundation

open Finset
open scoped Pointwise

section Hash

def polynomialHash (modulus base : Nat) (bytes : List UInt8) : Nat :=
  bytes.foldl (fun accumulator byte => (accumulator * base + byte.toNat) % modulus) 0

/-- The hash before it is reduced, in the residues. -/
def horner {p : Nat} (base start : ZMod p) (bytes : List UInt8) : ZMod p :=
  bytes.foldl (fun accumulator byte => accumulator * base + (byte.toNat : ZMod p)) start

variable {p : Nat}

theorem cast_polynomialHash (base : Nat) (bytes : List UInt8) :
    (polynomialHash p base bytes : ZMod p) = horner (base : ZMod p) 0 bytes := by
  have folds : ∀ start : Nat,
      ((bytes.foldl (fun accumulator byte => (accumulator * base + byte.toNat) % p) start : Nat) :
        ZMod p) = horner (base : ZMod p) start bytes := by
    induction bytes with
    | nil => exact fun start => rfl
    | cons byte rest ih =>
      intro start
      rw [List.foldl_cons, ih]
      simp only [horner, List.foldl_cons, ZMod.natCast_mod, Nat.cast_add, Nat.cast_mul]
  have from_zero := folds 0
  rwa [Nat.cast_zero] at from_zero

theorem polynomialHash_lt {modulus : Nat} (positive : 0 < modulus) (base : Nat) (bytes : List UInt8) :
    polynomialHash modulus base bytes < modulus := by
  rcases List.eq_nil_or_concat bytes with rfl | ⟨front, last, rfl⟩
  · exact positive
  · rw [List.concat_eq_append, polynomialHash, List.foldl_append]
    exact Nat.mod_lt _ positive

theorem horner_append (base start : ZMod p) (front block : List UInt8) :
    horner base start (front ++ block) =
      horner base start front * base ^ block.length + horner base 0 block := by
  have moved : ∀ origin : ZMod p,
      horner base origin block = origin * base ^ block.length + horner base 0 block := by
    induction block with
    | nil => intro origin; simp [horner]
    | cons byte rest ih =>
      intro origin
      have behind : ∀ place : ZMod p, horner base place (byte :: rest) =
          horner base (place * base + (byte.toNat : ZMod p)) rest := fun place => rfl
      rw [behind, behind, ih, ih (0 * base + _), List.length_cons]
      ring
  rw [← moved]
  exact List.foldl_append

end Hash

section Reached

variable {p : Nat} (scale : ZMod p) (blocks : Finset (ZMod p))

/-- What so many blocks reach, one after the other. -/
def reached : Nat → Finset (ZMod p)
  | 0 => {0}
  | count + 1 => (reached count).image (· * scale) + blocks

variable {scale blocks}

theorem reached_nonempty (inhabited : blocks.Nonempty) (count : Nat) :
    (reached scale blocks count).Nonempty := by
  induction count with
  | zero => exact Finset.singleton_nonempty 0
  | succ count ih => exact (ih.image _).add inhabited

theorem card_reached [prime : Fact p.Prime] (nonzero : scale ≠ 0) (inhabited : blocks.Nonempty)
    (count : Nat) : min p (count * (blocks.card - 1) + 1) ≤ (reached scale blocks count).card := by
  induction count with
  | zero =>
    simp only [reached, Finset.card_singleton, Nat.zero_mul, Nat.zero_add]
    exact Nat.min_le_right p 1
  | succ count ih =>
    have stretched : ((reached scale blocks count).image (· * scale)).card =
        (reached scale blocks count).card :=
      Finset.card_image_of_injective _ (mul_left_injective₀ nonzero)
    have before : ((reached scale blocks count).image (· * scale)).Nonempty :=
      (reached_nonempty inhabited count).image _
    have sums := ZMod.cauchy_davenport prime.out before inhabited
    have few : 0 < blocks.card := inhabited.card_pos
    rw [stretched] at sums
    rw [reached, Nat.succ_mul]
    generalize count * (blocks.card - 1) = sofar at ih ⊢
    omega

/-- Enough blocks reach every residue. -/
theorem reached_all [prime : Fact p.Prime] (nonzero : scale ≠ 0) (inhabited : blocks.Nonempty)
    {count : Nat} (enough : p ≤ count * (blocks.card - 1) + 1) (value : ZMod p) :
    value ∈ reached scale blocks count := by
  have many := card_reached nonzero inhabited count
  rw [Nat.min_eq_left enough] at many
  have whole : reached scale blocks count = Finset.univ := by
    refine Finset.eq_univ_of_card _ (Nat.le_antisymm (Finset.card_le_univ _) ?_)
    rwa [ZMod.card]
  rw [whole]
  exact Finset.mem_univ value

/-- What is reached is the hash of some text, as the blocks are. -/
theorem exists_of_mem_reached {base value : ZMod p} {width : Nat} {accepts : UInt8 → Prop}
    (spelled : ∀ block ∈ blocks, ∃ bytes, bytes.length = width ∧ (∀ byte ∈ bytes, accepts byte) ∧
      horner base 0 bytes = block) {count : Nat}
    (member : value ∈ reached (base ^ width) blocks count) :
    ∃ bytes, bytes.length = count * width ∧ (∀ byte ∈ bytes, accepts byte) ∧
      horner base 0 bytes = value := by
  induction count generalizing value with
  | zero =>
    rw [reached, Finset.mem_singleton] at member
    exact ⟨[], by simp, by simp, by rw [member]; rfl⟩
  | succ count ih =>
    rw [reached, Finset.mem_add] at member
    obtain ⟨_, stretched, block, last, rfl⟩ := member
    obtain ⟨before, earlier, rfl⟩ := Finset.mem_image.mp stretched
    obtain ⟨front, long, plain, hashed⟩ := ih earlier
    obtain ⟨bytes, wide, also, ends⟩ := spelled block last
    refine ⟨front ++ bytes, ?_, ?_, ?_⟩
    · rw [List.length_append, long, wide, Nat.succ_mul]
    · intro byte within
      rcases List.mem_append.mp within with within | within
      · exact plain byte within
      · exact also byte within
    · rw [horner_append, hashed, ends, wide]

end Reached

end Foundation
