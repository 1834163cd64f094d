import SealedEnvelope.CommandLine.Run
import SealedEnvelope.Proofs.Codec
import SealedEnvelope.Proofs.Text.Base64
import SealedEnvelope.Proofs.Text.Hex
import SealedEnvelope.Proofs.Traced

/-!
Which key a text stands for, and the codec that is made of it.

Hexadecimal is tried before base64, so a key is read from the base64 text of it unless that text
has hexadecimal digits only. Padding is none of them, which leaves the keys of 24 bytes.
-/

namespace SealedEnvelope.CommandLine

/-! ### Texts of keys -/

theorem keyBytes_of_hex {text : String} {key : Bytes}
    (spelled : Hex.Spelled key (Text.trim text).toList) : keyBytes text = .ok key := by
  rw [keyBytes, Hex.decode_eq_some_iff.mpr spelled]
  rfl

theorem keyBytes_of_no_hex {text : String}
    (unspelled : ∀ bytes, ¬ Hex.Spelled bytes (Text.trim text).toList) :
    keyBytes text =
      match Base64.decode (Text.trim text) with
      | some bytes => .ok bytes
      | none => .error (.other "expect AES key as hex or base64 string") := by
  rw [keyBytes, Hex.decode_eq_none_iff.mpr unspelled]
  cases Base64.decode (Text.trim text) with
  | none => rfl
  | some bytes => rfl

theorem keyBytes_of_base64 {text : String} {key : Bytes}
    (unspelled : ∀ bytes, ¬ Hex.Spelled bytes (Text.trim text).toList)
    (spelled : Text.trim text = Base64.encode key) : keyBytes text = .ok key := by
  rw [keyBytes_of_no_hex unspelled, Base64.decode_eq_some_iff.mpr spelled]

theorem keyBytes_surrounded {before after : String} (blankBefore : Text.Blank before)
    (blankAfter : Text.Blank after) (text : String) :
    keyBytes (before ++ text ++ after) = keyBytes text := by
  rw [keyBytes, keyBytes, Text.trim_surrounded blankBefore blankAfter]

/-- Whether the base64 text of a key has hexadecimal digits only. -/
def Ambiguous (key : Bytes) : Prop := ∀ char ∈ (Base64.encode key).toList, Hex.IsDigit char

/-- The padding of base64 is no hexadecimal digit. -/
theorem Ambiguous.length_mod {key : Bytes} (ambiguous : Ambiguous key) : key.length % 3 = 0 := by
  by_cases filled : key.length % 3 = 0
  · exact filled
  · have padded : Base64.pad ∈ (Base64.encode key).toList := by
      rw [Base64.encode, String.toList_ofList]
      exact Base64.pad_mem_encodeChars key filled
    obtain ⟨value, digit⟩ := ambiguous _ padded
    have none : Hex.digit? Base64.pad = none := by decide
    rw [Json.digit?_eq_some_iff.mpr digit] at none
    cases none

/-- An ambiguous text is that of three quarters as many bytes in hexadecimal. -/
theorem Ambiguous.exists_spelled {key : Bytes} (ambiguous : Ambiguous key) :
    ∃ other : Bytes, Hex.Spelled other (Base64.encode key).toList ∧
      3 * other.length = 2 * key.length := by
  have filled := ambiguous.length_mod
  have length : (Base64.encode key).toList.length = (key.length + 2) / 3 * 4 := by
    rw [Base64.encode, String.toList_ofList, Base64.length_encodeChars]
  obtain ⟨other, spelled⟩ := Hex.exists_spelled _ ambiguous (by omega)
  have size := spelled.length
  exact ⟨other, spelled, by omega⟩

theorem keyBytes_encode_of_ambiguous {key : Bytes} (ambiguous : Ambiguous key) :
    ∃ other : Bytes, Hex.Spelled other (Base64.encode key).toList ∧
      3 * other.length = 2 * key.length ∧ keyBytes (Base64.encode key) = .ok other := by
  obtain ⟨other, spelled, length⟩ := ambiguous.exists_spelled
  have trimmed := spelled
  rw [← Base64.trim_encode] at trimmed
  exact ⟨other, spelled, length, keyBytes_of_hex trimmed⟩

theorem keyBytes_encode {key : Bytes} (unambiguous : ¬ Ambiguous key) :
    keyBytes (Base64.encode key) = .ok key := by
  refine keyBytes_of_base64 (fun bytes spelled => ?_) (Base64.trim_encode key)
  rw [Base64.trim_encode] at spelled
  exact unambiguous spelled.isDigit

/-- A key that is not empty is read from its base64 text just when the text is not ambiguous. -/
theorem keyBytes_encode_eq_ok_iff {key : Bytes} (nonempty : key ≠ []) :
    keyBytes (Base64.encode key) = .ok key ↔ ¬ Ambiguous key := by
  refine ⟨fun reads ambiguous => ?_, keyBytes_encode⟩
  obtain ⟨other, _, length, readsOther⟩ := keyBytes_encode_of_ambiguous ambiguous
  obtain rfl : other = key := Except.ok.inj (readsOther.symm.trans reads)
  have some := List.length_pos_iff.mpr nonempty
  omega

/-! ### Codecs of keys -/

/-- The key that is given, or that of the protocol. -/
def chosenKey : Option String → Except Error Bytes
  | some text => keyBytes text
  | none => .ok protocolKey

/-- The codec of a key, with the subkey of the protocol or with the one that the key determines. -/
def codecOf (derivedSubkey : Bool) (key : Bytes) : Except Error (Codec Aes.Key) :=
  if derivedSubkey then Codec.ofKeyDerived key else Codec.ofKey key

theorem loadCodec_of_error {key? : Option String} {error : Error}
    (refused : chosenKey key? = .error error) (derivedSubkey : Bool) :
    (loadCodec key? derivedSubkey).run = pure (.error error) := by
  cases key? with
  | none => cases refused
  | some text =>
    rw [chosenKey] at refused
    rw [loadCodec, refused]
    rfl

theorem loadCodec_of_ok {key? : Option String} {key : Bytes} (chosen : chosenKey key? = .ok key)
    (derivedSubkey : Bool) :
    (loadCodec key? derivedSubkey).run =
      { result := codecOf derivedSubkey key
        inputs := []
        events := [.usingKey (8 * key.length) derivedSubkey]
        printed := [] } := by
  cases key? with
  | none =>
    cases chosen
    rfl
  | some text =>
    rw [chosenKey] at chosen
    rw [loadCodec, chosen]
    rfl

theorem codecOf_of_fit {key : Bytes}
    (length : key.length = 16 ∨ key.length = 24 ∨ key.length = 32) (derivedSubkey : Bool) :
    ∃ codec, codecOf derivedSubkey key = .ok codec := by
  obtain ⟨cipher, loaded⟩ := exists_loadKey length
  rw [codecOf, Codec.ofKeyDerived, Codec.ofKey, loaded]
  cases derivedSubkey <;> exact ⟨_, rfl⟩

theorem codecOf_of_unfit {key : Bytes}
    (length : ¬ (key.length = 16 ∨ key.length = 24 ∨ key.length = 32)) (derivedSubkey : Bool) :
    codecOf derivedSubkey key = .error (.invalidKey key.length) := by
  rw [codecOf, Codec.ofKeyDerived, Codec.ofKey, loadKey_of_unfit length]
  cases derivedSubkey <;> rfl

theorem result_loadCodec {key? : Option String} {key : Bytes} (chosen : chosenKey key? = .ok key)
    (derivedSubkey : Bool) :
    (loadCodec key? derivedSubkey).run.result = codecOf derivedSubkey key := by
  rw [loadCodec_of_ok chosen]

/-! ### One key in two spellings -/

/-- Whether keys are read from their hexadecimal texts and from their base64 texts, with any blank
characters around them. -/
def ReadsBothSpellings (read : String → Except Error Bytes) : Prop :=
  ∀ key : Bytes, key.length = 16 ∨ key.length = 24 ∨ key.length = 32 →
    ∀ before after, Text.Blank before → Text.Blank after →
      (∀ digits : String, Hex.Spelled key digits.toList →
        read (before ++ digits ++ after) = .ok key) ∧
      read (before ++ Base64.encode key ++ after) = .ok key

/-- The base64 text of zeros, which is also hexadecimal. -/
theorem encode_zeros :
    Base64.encode (List.replicate 24 0) = String.ofList (List.replicate 32 'A') := by
  decide

theorem spelled_zeros :
    Hex.Spelled (List.replicate 16 0xAA) (Base64.encode (List.replicate 24 0)).toList := by
  rw [encode_zeros, String.toList_ofList]
  decide

/-- There is no way to read keys from both spellings, for two keys of different lengths share
one. -/
theorem not_readsBothSpellings (read : String → Except Error Bytes) :
    ¬ ReadsBothSpellings read := by
  intro reads
  have blank : Text.Blank "" := fun _ member => nomatch member
  have short := (reads (List.replicate 16 0xAA) (.inl rfl) "" "" blank blank).1 _ spelled_zeros
  have long := (reads (List.replicate 24 0) (.inr (.inl rfl)) "" "" blank blank).2
  have same : List.replicate 16 0xAA = List.replicate 24 (0 : UInt8) :=
    Except.ok.inj (short.symm.trans long)
  exact absurd (congrArg List.length same) (by decide)

/-- Twenty-four zeros in base64 are taken for sixteen other bytes. -/
theorem keyBytes_zeros_in_base64 :
    let key : Bytes := List.replicate 24 0
    Base64.encode key = "AAAAAAAAAAAAAAAAAAAAAAAAAAAAAAAA" ∧
      keyBytes (Base64.encode key) = .ok (List.replicate 16 0xAA) ∧
      ¬ ReadsBothSpellings keyBytes := by
  intro key
  have spelled := spelled_zeros
  rw [← Base64.trim_encode] at spelled
  exact ⟨encode_zeros, keyBytes_of_hex spelled, not_readsBothSpellings keyBytes⟩

/-- A key of one of the three lengths is read from its hexadecimal text in digits of either case,
and from its base64 text unless that has hexadecimal digits only, with any blank characters around
them; then one codec is made of both. The exception concerns keys of 24 bytes, and their base64 text
is then taken for the sixteen bytes that it is the hexadecimal text of. -/
theorem keyBytes_of_spellings {key : Bytes}
    (length : key.length = 16 ∨ key.length = 24 ∨ key.length = 32) (derivedSubkey : Bool) :
    ∃ codec, codecOf derivedSubkey key = .ok codec ∧
      ∀ before after, Text.Blank before → Text.Blank after →
        let encoded := before ++ Base64.encode key ++ after
        (∀ digits : String, Hex.Spelled key digits.toList →
          keyBytes (before ++ digits ++ after) = .ok key ∧
          (loadCodec (some (before ++ digits ++ after)) derivedSubkey).run.result = .ok codec) ∧
        (keyBytes encoded = .ok key ↔ ¬ Ambiguous key) ∧
        (¬ Ambiguous key →
          (loadCodec (some encoded) derivedSubkey).run.result = .ok codec) ∧
        (Ambiguous key → key.length = 24 ∧
          ∃ other : Bytes, other.length = 16 ∧ Hex.Spelled other (Base64.encode key).toList ∧
            keyBytes encoded = .ok other) := by
  obtain ⟨codec, made⟩ := codecOf_of_fit length derivedSubkey
  have nonempty : key ≠ [] := List.length_pos_iff.mp (by omega)
  have loads {text : String} (reads : keyBytes text = .ok key) :
      (loadCodec (some text) derivedSubkey).run.result = .ok codec := by
    have chosen : chosenKey (some text) = .ok key := reads
    rw [result_loadCodec chosen, made]
  refine ⟨codec, made, fun before after blankBefore blankAfter => ?_⟩
  intro encoded
  have encodedReads : keyBytes encoded = keyBytes (Base64.encode key) :=
    keyBytes_surrounded blankBefore blankAfter _
  refine ⟨fun digits spelled => ?_, ?_, fun unambiguous => ?_, fun ambiguous => ?_⟩
  · have reads : keyBytes (before ++ digits ++ after) = .ok key := by
      rw [keyBytes_surrounded blankBefore blankAfter]
      apply keyBytes_of_hex
      rwa [spelled.trim_eq]
    exact ⟨reads, loads reads⟩
  · rw [encodedReads]
    exact keyBytes_encode_eq_ok_iff nonempty
  · exact loads (encodedReads.trans (keyBytes_encode unambiguous))
  · obtain ⟨other, spelled, size, reads⟩ := keyBytes_encode_of_ambiguous ambiguous
    have filled := ambiguous.length_mod
    exact ⟨by omega, other, by omega, spelled, encodedReads.trans reads⟩

/-- The key of the protocol between blank characters, with digits in both cases, and the zeros whose
base64 text is taken for hexadecimal. -/
theorem keyBytes_of_spellings_mixed_case :
    let digits := "4C487755476e6b74436C4e7639556f633147717A636362687264614a3341060A"
    let zeros : Bytes := List.replicate 24 0
    (protocolKey.length = 16 ∨ protocolKey.length = 24 ∨ protocolKey.length = 32) ∧
      Text.Blank "\u2003" ∧ Text.Blank "\n" ∧ Hex.Spelled protocolKey digits.toList ∧
      ¬ Ambiguous protocolKey ∧
      (∃ codec,
        (loadCodec (some ("\u2003" ++ digits ++ "\n")) true).run.result = .ok codec ∧
        (loadCodec (some ("\u2003" ++ Base64.encode protocolKey ++ "\n")) true).run.result =
          .ok codec) ∧
      (zeros.length = 16 ∨ zeros.length = 24 ∨ zeros.length = 32) ∧ Ambiguous zeros ∧
      keyBytes ("\u2003" ++ Base64.encode zeros ++ "\n") ≠ .ok zeros := by
  intro digits zeros
  have length : protocolKey.length = 16 ∨ protocolKey.length = 24 ∨ protocolKey.length = 32 :=
    .inr (.inr rfl)
  have zerosLength : zeros.length = 16 ∨ zeros.length = 24 ∨ zeros.length = 32 := .inr (.inl rfl)
  have blankBefore : Text.Blank "\u2003" := by decide
  have blankAfter : Text.Blank "\n" := by decide
  have spelled : Hex.Spelled protocolKey digits.toList := by decide
  have unambiguous : ¬ Ambiguous protocolKey :=
    fun ambiguous => absurd ambiguous.length_mod (by decide)
  have ambiguous : Ambiguous zeros := spelled_zeros.isDigit
  obtain ⟨codec, _, reads⟩ := keyBytes_of_spellings length true
  obtain ⟨hexadecimal, _, base64, _⟩ := reads _ _ blankBefore blankAfter
  obtain ⟨_, _, readsZeros⟩ := keyBytes_of_spellings zerosLength true
  obtain ⟨_, refuses, _⟩ := readsZeros _ _ blankBefore blankAfter
  exact ⟨length, blankBefore, blankAfter, spelled, unambiguous,
    ⟨codec, (hexadecimal digits spelled).2, base64 unambiguous⟩, zerosLength, ambiguous,
    fun reads => refuses.mp reads ambiguous⟩

end SealedEnvelope.CommandLine
