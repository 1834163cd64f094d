import SealedEnvelope.Proofs.Codec
import SealedEnvelope.Proofs.Digest.Lengths

/-!
What an envelope without associated data owes to the lengths in its digest: zero blocks put
before the ciphertext are noticed, unless they are so many that its length comes round.
-/

namespace SealedEnvelope

/-- An envelope with so many zeros before its ciphertext. -/
def Envelope.zerosBefore (zeros : Nat) (envelope : Envelope) : Envelope :=
  { envelope with ciphertext := List.replicate zeros 0 ++ envelope.ciphertext }

namespace Codec

variable {C : Type} [BlockCipher C]

section

variable {codec : Codec C} {envelope : Envelope} {zeros : Nat}

/-- Lengthened by zeros, an envelope is still accepted just when its digest is still the same. -/
theorem isOk_opened_zerosBefore_iff (accepted : (codec.opened [] envelope.bytes).isOk) :
    (codec.opened [] (envelope.zerosBefore zeros).bytes).isOk ↔
      digest codec.subkey [] (List.replicate zeros 0 ++ envelope.ciphertext) =
        digest codec.subkey [] envelope.ciphertext := by
  have due := isOk_opened_bytes_iff.mp accepted
  have sameTag : codec.dueTag envelope.nonce [] (envelope.zerosBefore zeros).ciphertext =
        codec.dueTag envelope.nonce [] envelope.ciphertext ↔
      digest codec.subkey [] (List.replicate zeros 0 ++ envelope.ciphertext) =
        digest codec.subkey [] envelope.ciphertext := dueTag_eq_iff rfl
  rw [due] at sameTag
  exact isOk_opened_bytes_iff.trans sameTag

/-- A multiple of 2²⁹ zeros before the ciphertext goes unnoticed. -/
theorem isOk_opened_zerosBefore (round : 2 ^ 29 ∣ zeros)
    (accepted : (codec.opened [] envelope.bytes).isOk) :
    (codec.opened [] (envelope.zerosBefore zeros).bytes).isOk := by
  have whole : Block.size ∣ zeros := Nat.dvd_trans (by decide) round
  rw [isOk_opened_zerosBefore_iff accepted]
  apply digest_congr
  · exact significantBlocks_zeros_zeros_append whole 0 envelope.ciphertext
  · rfl
  · rw [List.length_append, List.length_replicate]
    omega

theorem isOk_opened_zerosBefore_iff_dvd (nonzero : codec.subkey ≠ 0) (whole : Block.size ∣ zeros)
    (accepted : (codec.opened [] envelope.bytes).isOk) :
    (codec.opened [] (envelope.zerosBefore zeros).bytes).isOk ↔ 2 ^ 29 ∣ zeros :=
  (isOk_opened_zerosBefore_iff accepted).trans (digest_zeros_zeros_append_eq_iff nonzero whole 0)

end

/-- Texts whose blocks agree from the first on that is not zero have one digest if and only if
their lengths agree modulo 2²⁹. So zeros that fill up a last block always show, and zero blocks
in front and whole blocks passed from the associated data to the data show unless their bytes are
a multiple of 2²⁹. So many zeros before its ciphertext leave an accepted envelope accepted, and no
other number of zero blocks does. -/
theorem lengths_bound_modulo (codec : Codec C) (subkey : Block) (associated data : Bytes) :
    (subkey ≠ 0 →
      (∀ otherAssociated otherData,
        significantBlocks associated data = significantBlocks otherAssociated otherData →
          (digest subkey associated data = digest subkey otherAssociated otherData ↔
            associated.length % 2 ^ 29 = otherAssociated.length % 2 ^ 29 ∧
              data.length % 2 ^ 29 = otherData.length % 2 ^ 29)) ∧
      (∀ behindAssociated behindData,
        (associated.length + behindAssociated + 15) / 16 = (associated.length + 15) / 16 →
        (data.length + behindData + 15) / 16 = (data.length + 15) / 16 →
          (digest subkey (associated ++ List.replicate behindAssociated 0)
              (data ++ List.replicate behindData 0) = digest subkey associated data ↔
            behindAssociated = 0 ∧ behindData = 0)) ∧
      (∀ zeros, Block.size ∣ zeros →
        (digest subkey (List.replicate zeros 0 ++ associated) data =
            digest subkey associated data ↔ 2 ^ 29 ∣ zeros)) ∧
      (∀ zeros ahead, Block.size ∣ zeros →
        (digest subkey (List.replicate ahead 0) (List.replicate zeros 0 ++ data) =
            digest subkey (List.replicate ahead 0) data ↔ 2 ^ 29 ∣ zeros)) ∧
      (∀ moved : Bytes, Block.size ∣ associated.length → Block.size ∣ moved.length →
        (digest subkey (associated ++ moved) data = digest subkey associated (moved ++ data) ↔
          2 ^ 29 ∣ moved.length))) ∧
    (∀ (envelope : Envelope) (zeros : Nat), (codec.opened [] envelope.bytes).isOk →
      (2 ^ 29 ∣ zeros → (codec.opened [] (envelope.zerosBefore zeros).bytes).isOk) ∧
      (codec.subkey ≠ 0 → Block.size ∣ zeros →
        ((codec.opened [] (envelope.zerosBefore zeros).bytes).isOk ↔ 2 ^ 29 ∣ zeros))) := by
  refine ⟨?_, ?_⟩
  · intro nonzero
    refine ⟨?_, ?_, ?_, ?_, ?_⟩
    · intro otherAssociated otherData sameBlocks
      exact digest_eq_iff_of_significantBlocks nonzero sameBlocks
    · intro behindAssociated behindData fitsAssociated fitsData
      exact digest_append_zeros_eq_iff nonzero fitsAssociated fitsData
    · intro zeros whole
      exact digest_zeros_append_eq_iff nonzero whole
    · intro zeros ahead whole
      exact digest_zeros_zeros_append_eq_iff nonzero whole ahead
    · intro moved wholeAssociated wholeMoved
      exact digest_append_eq_iff nonzero wholeAssociated wholeMoved
  · intro envelope zeros accepted
    refine ⟨?_, ?_⟩
    · intro round
      exact isOk_opened_zerosBefore round accepted
    · intro nonzero whole
      exact isOk_opened_zerosBefore_iff_dvd nonzero whole accepted

/-- A zero block in front and a zero byte behind at once, then one after the other; 2²⁹ zeros in
front; a block passed on; and 2²⁹ and sixteen zeros before the ciphertext of an envelope. -/
theorem lengths_bound_modulo_zeros :
    let codec : Codec (Block → Block) := { cipher := id, subkey := Field.one }
    let envelope : Envelope := { nonce := 7, ciphertext := [2], tag := codec.dueTag 7 [] [2] }
    let block : Bytes := List.replicate 16 3
    let hashed := digest Field.one
    Field.one ≠ 0 ∧ hashed block [2] ≠ hashed (List.replicate 16 0 ++ block) ([2] ++ [0]) ∧
      hashed (block ++ []) ([2] ++ [0]) ≠ hashed block [2] ∧
      hashed (List.replicate 16 0 ++ block) [2] ≠ hashed block [2] ∧
      hashed (List.replicate (2 ^ 29) 0 ++ block) [2] = hashed block [2] ∧
      hashed [] (List.replicate 16 0 ++ [2]) ≠ hashed [] [2] ∧
      hashed (block ++ block) [2] ≠ hashed block (block ++ [2]) ∧
      (codec.opened [] envelope.bytes).isOk ∧
      (codec.opened [] (envelope.zerosBefore (2 ^ 29)).bytes).isOk ∧
      ¬ (codec.opened [] (envelope.zerosBefore 16).bytes).isOk := by
  intro codec envelope block hashed
  have nonzero : Field.one ≠ 0 := by decide
  have accepted : (codec.opened [] envelope.bytes).isOk := isOk_opened_bytes_iff.mpr rfl
  have oneBlock : Block.size ∣ 16 := by decide
  have wholeRound : Block.size ∣ 2 ^ 29 := by decide
  have noRound : ¬ 2 ^ 29 ∣ 16 := by decide
  have significant : significantBlocks block [2] =
      significantBlocks (List.replicate 16 0 ++ block) ([2] ++ [0]) := by
    rw [significantBlocks_zeros_append oneBlock]
    exact (@significantBlocks_append_zeros block [2] 0 1 rfl rfl).symm
  obtain ⟨bound, lengthened⟩ := lengths_bound_modulo codec Field.one block [2]
  obtain ⟨pairs, filled, front, between, passed⟩ := bound nonzero
  refine ⟨nonzero, ?_, ?_, ?_, ?_, ?_, ?_, accepted, ?_, ?_⟩
  · rw [Ne, pairs _ _ significant]
    decide
  · rw [Ne]
    exact (filled 0 1 rfl rfl).not.mpr (by decide)
  · exact (front 16 oneBlock).not.mpr noRound
  · exact (front (2 ^ 29) wholeRound).mpr (Nat.dvd_refl _)
  · exact (between 16 0 oneBlock).not.mpr noRound
  · exact (passed block oneBlock oneBlock).not.mpr noRound
  · exact (lengthened envelope (2 ^ 29) accepted).1 (Nat.dvd_refl _)
  · exact ((lengthened envelope 16 accepted).2 nonzero oneBlock).not.mpr noRound

end Codec

end SealedEnvelope
