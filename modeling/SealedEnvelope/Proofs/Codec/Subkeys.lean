import SealedEnvelope.Proofs.Codec
import SealedEnvelope.Proofs.Digest.Universal

/-!
Under how many subkeys a tag holds that was not made with them, or not for the same texts.
-/

namespace SealedEnvelope

variable {C : Type} [BlockCipher C]

namespace Codec

/-- A subkey takes the tag of another one just when both give the ciphertext the same digest. -/
theorem isOk_opened_sealed_iff (cipher : C) (nonce : Nonce) (subkey maker : Block)
    (associated plaintext : Bytes) :
    let ciphertext := (Codec.mk cipher maker).masked nonce .payload plaintext
    ((Codec.mk cipher subkey).opened associated
        ((Codec.mk cipher maker).sealed nonce associated plaintext)).isOk ↔
      digest subkey associated ciphertext = digest maker associated ciphertext := by
  intro ciphertext
  have sameTag : (Codec.mk cipher subkey).dueTag nonce associated ciphertext =
        (Codec.mk cipher maker).dueTag nonce associated ciphertext ↔
      digest subkey associated ciphertext = digest maker associated ciphertext :=
    dueTag_eq_iff rfl
  rw [sealed, result_sealEnvelope, isOk_opened_bytes_iff]
  exact sameTag

theorem card_accepting_le (cipher : C) (nonce : Nonce) (maker : Block)
    {associated plaintext : Bytes} (shortAssociated : associated.length < 2 ^ 29)
    (shortPlaintext : plaintext.length < 2 ^ 29) (nonempty : (associated, plaintext) ≠ ([], [])) :
    (Finset.univ.filter fun subkey => ((Codec.mk cipher subkey).opened associated
        ((Codec.mk cipher maker).sealed nonce associated plaintext)).isOk).card ≤
      blockCount associated plaintext + 1 := by
  let ciphertext := (Codec.mk cipher maker).masked nonce .payload plaintext
  have sameLength : ciphertext.length = plaintext.length := length_masked _ _ _ _
  have different : (associated, ciphertext) ≠ ([], []) := by
    intro same
    obtain ⟨noAssociated, noCiphertext⟩ := Prod.mk.inj same
    have noPlaintext : plaintext = [] := by
      rw [noCiphertext] at sameLength
      exact List.length_eq_zero_iff.mp sameLength.symm
    exact nonempty (Prod.ext noAssociated noPlaintext)
  have sameCount : blockCount associated ciphertext = blockCount associated plaintext := by
    rw [blockCount, blockCount, sameLength]
  have agree (subkey : Block) :
      ((Codec.mk cipher subkey).opened associated
          ((Codec.mk cipher maker).sealed nonce associated plaintext)).isOk ↔
        digest subkey associated ciphertext = digest maker associated ciphertext :=
    isOk_opened_sealed_iff cipher nonce subkey maker associated plaintext
  have bound := card_digest_eq_le shortAssociated (sameLength.trans_lt shortPlaintext) different
    (digest maker associated ciphertext)
  rw [sameCount] at bound
  simpa only [agree] using bound

/-- What a forger keeps of a tag: one ciphertext in the place of another has the same tag under
few subkeys only. -/
theorem card_forged_le (cipher : C) (nonce : Nonce)
    {associated ciphertext claimed forged : Bytes} (shortAssociated : associated.length < 2 ^ 29)
    (shortCiphertext : ciphertext.length < 2 ^ 29) (shortClaimed : claimed.length < 2 ^ 29)
    (shortForged : forged.length < 2 ^ 29)
    (different : (associated, ciphertext) ≠ (claimed, forged)) :
    (Finset.univ.filter fun subkey =>
        let codec := Codec.mk cipher subkey
        let tag := codec.dueTag nonce associated ciphertext
        (codec.opened claimed (Envelope.mk nonce forged tag).bytes).isOk).card ≤
      max (blockCount associated ciphertext) (blockCount claimed forged) + 1 := by
  have agree (subkey : Block) :
      ((Codec.mk cipher subkey).opened claimed (Envelope.mk nonce forged
          ((Codec.mk cipher subkey).dueTag nonce associated ciphertext)).bytes).isOk ↔
        digest subkey associated ciphertext ^^^ digest subkey claimed forged = 0 := by
    have sameTag : (Codec.mk cipher subkey).dueTag nonce associated ciphertext =
          (Codec.mk cipher subkey).dueTag nonce claimed forged ↔
        digest subkey associated ciphertext = digest subkey claimed forged :=
      dueTag_eq_iff rfl
    rw [isOk_opened_bytes_iff, eq_comm, sameTag]
    exact BitVec.xor_eq_zero_iff.symm
  have bound := card_xor_eq_le shortAssociated shortCiphertext shortClaimed shortForged different 0
  simpa only [agree] using bound

end Codec

/-- The digest is almost universal for exclusive or: for two different pairs of texts of
representable lengths and for any difference, the subkeys under which their digests have that
difference are at most one more than the blocks of the longer pair. Since empty texts have the
digest zero, what was sealed under one subkey opens under few others; and texts that are put in
the place of others keep the tag of these under few subkeys. -/
theorem digest_almost_xor_universal :
    (∀ associated data claimed forged : Bytes, associated.length < 2 ^ 29 → data.length < 2 ^ 29 →
      claimed.length < 2 ^ 29 → forged.length < 2 ^ 29 → (associated, data) ≠ (claimed, forged) →
      ∀ difference : Block,
        (Finset.univ.filter fun subkey =>
          digest subkey associated data ^^^ digest subkey claimed forged = difference).card ≤
            max (blockCount associated data) (blockCount claimed forged) + 1) ∧
    (∀ subkey, digest subkey [] [] = 0) ∧
    (∀ {C : Type} [BlockCipher C] (cipher : C) (nonce : Nonce) (maker : Block)
      (associated plaintext : Bytes), associated.length < 2 ^ 29 → plaintext.length < 2 ^ 29 →
      (associated, plaintext) ≠ ([], []) →
        (Finset.univ.filter fun subkey => ((Codec.mk cipher subkey).opened associated
          ((Codec.mk cipher maker).sealed nonce associated plaintext)).isOk).card ≤
            blockCount associated plaintext + 1) ∧
    (∀ {C : Type} [BlockCipher C] (cipher : C) (nonce : Nonce)
      (associated ciphertext claimed forged : Bytes), associated.length < 2 ^ 29 →
      ciphertext.length < 2 ^ 29 → claimed.length < 2 ^ 29 → forged.length < 2 ^ 29 →
      (associated, ciphertext) ≠ (claimed, forged) →
        (Finset.univ.filter fun subkey =>
          let codec := Codec.mk cipher subkey
          let tag := codec.dueTag nonce associated ciphertext
          (codec.opened claimed (Envelope.mk nonce forged tag).bytes).isOk).card ≤
            max (blockCount associated ciphertext) (blockCount claimed forged) + 1) := by
  refine ⟨?_, digest_nil_nil, ?_, ?_⟩
  · intro associated data claimed forged shortAssociated shortData shortClaimed shortForged
      different difference
    exact card_xor_eq_le shortAssociated shortData shortClaimed shortForged different difference
  · intro C _ cipher nonce maker associated plaintext shortAssociated shortPlaintext nonempty
    exact Codec.card_accepting_le cipher nonce maker shortAssociated shortPlaintext nonempty
  · intro C _ cipher nonce associated ciphertext claimed forged shortAssociated shortCiphertext
      shortClaimed shortForged different
    exact Codec.card_forged_le cipher nonce shortAssociated shortCiphertext shortClaimed shortForged
      different

/-- One byte, once associated data and once data: only the length block tells the two apart. -/
theorem digest_almost_xor_universal_moved_boundary :
    let byte : Bytes := [1]
    (byte, ([] : Bytes)) ≠ ([], byte) ∧ byte.length < 2 ^ 29 ∧ ([] : Bytes).length < 2 ^ 29 ∧
      (Finset.univ.filter fun subkey => digest subkey byte [] ^^^ digest subkey [] byte = 0).card ≤ 2 ∧
      (Finset.univ.filter fun subkey => ((Codec.mk (id : Block → Block) subkey).opened byte
        ((Codec.mk (id : Block → Block) Field.one).sealed 7 byte [])).isOk).card ≤ 2 := by
  intro byte
  have different : (byte, ([] : Bytes)) ≠ ([], byte) := by decide
  have short : byte.length < 2 ^ 29 := by decide
  have shortEmpty : ([] : Bytes).length < 2 ^ 29 := by decide
  have oneBlock : blockCount byte [] = 1 := by decide
  have otherBlock : blockCount [] byte = 1 := by decide
  obtain ⟨digests, _, accepting, _⟩ := digest_almost_xor_universal
  have digestBound := digests byte [] [] byte short shortEmpty shortEmpty short different 0
  have acceptingBound :=
    accepting (id : Block → Block) 7 Field.one byte [] short shortEmpty (by decide)
  rw [oneBlock, otherBlock, Nat.max_self] at digestBound
  rw [oneBlock] at acceptingBound
  exact ⟨different, short, shortEmpty, digestBound, acceptingBound⟩

end SealedEnvelope
