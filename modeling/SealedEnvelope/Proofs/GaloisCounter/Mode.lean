import Mathlib.Algebra.Group.Nat.Defs
import SealedEnvelope.Block

/-!
Galois/counter mode over any block cipher, for whole bytes, nonces of twelve bytes and tags of
sixteen: the definitions of the mode on their own, with nothing taken from the envelope.

A text is read block by block through its places; no state is carried from one to the next but
the counter block and the hash.
-/

namespace SealedEnvelope.GaloisCounter

/-- The string R, which stands for the field polynomial. -/
def reduction : Block := 0b11100001#8 ++ 0#120

/-- The right factor V after a number of bits. -/
def multiple (right : Block) : Nat → Block
  | 0 => right
  | count + 1 =>
    let last := multiple right count
    if last.getLsbD 0 then last >>> 1 ^^^ reduction else last >>> 1

/-- The partial product Z after a number of bits of the left factor. -/
def partialProduct (left right : Block) : Nat → Block
  | 0 => 0
  | count + 1 =>
    if left.getMsbD count then partialProduct left right count ^^^ multiple right count
    else partialProduct left right count

/-- The product of two blocks. -/
def product (left right : Block) : Block := partialProduct left right 128

/-- The block at a place of a text. -/
def blockAt (text : Bytes) (place : Nat) : Block :=
  Block.ofBytes ((text.drop (16 * place)).take 16)

/-- The hash Y after a number of blocks. -/
def partialHash (subkey : Block) (text : Bytes) : Nat → Block
  | 0 => 0
  | count + 1 => product (partialHash subkey text count ^^^ blockAt text count) subkey

/-- The hash of a text that is made of whole blocks. -/
def hash (subkey : Block) (text : Bytes) : Block := partialHash subkey text (text.length / 16)

/-- The low 32 bits count up by one, modulo 2³². -/
def increment (block : Block) : Block :=
  block.extractLsb' 32 96 ++ (block.extractLsb' 0 32 + 1#32)

/-- The counter block at a place. -/
def counterAt (initial : Block) : Nat → Block
  | 0 => initial
  | count + 1 => increment (counterAt initial count)

/-- A text under the counter blocks that start with the given one. The last block may be cut
short. -/
def counterMode (cipher : Block → Block) (initial : Block) (text : Bytes) : Bytes :=
  (List.range ((text.length + 15) / 16)).flatMap fun place =>
    Bytes.xor ((text.drop (16 * place)).take 16) (cipher (counterAt initial place)).bytes

/-- Zeros up to the next whole block. -/
def pad (text : Bytes) : Bytes :=
  text ++ List.replicate ((16 - text.length % 16) % 16) 0

/-- The number of bits of a text of so many bytes, in 64 bits. -/
def bitLength (length : Nat) : BitVec 64 := BitVec.ofNat 64 (8 * length)

/-- The text that is hashed, for given forms of the length fields. -/
def hashed (lengthField : Nat → BitVec 64) (associated ciphertext : Bytes) : Bytes :=
  pad associated ++ pad ciphertext ++ Bytes.bigEndian 8 (lengthField associated.length).toNat ++
    Bytes.bigEndian 8 (lengthField ciphertext.length).toNat

/-- The counter block J₀. -/
def firstCounter (nonce : Nonce) : Block := nonce ++ 1#32

/-- The tag, for given forms of the length fields. -/
def tagWith (lengthField : Nat → BitVec 64) (cipher : Block → Block) (subkey : Block)
    (nonce : Nonce) (associated ciphertext : Bytes) : Tag :=
  Block.ofBytes (counterMode cipher (firstCounter nonce)
    (hash subkey (hashed lengthField associated ciphertext)).bytes)

/-- Authenticated encryption: the ciphertext and the tag. -/
def encrypt (cipher : Block → Block) (subkey : Block) (nonce : Nonce)
    (associated plaintext : Bytes) : Bytes × Tag :=
  let ciphertext := counterMode cipher (increment (firstCounter nonce)) plaintext
  (ciphertext, tagWith bitLength cipher subkey nonce associated ciphertext)

/-- Authenticated decryption. It fails on lengths that the mode does not support, and on a
tag that is not the one due. -/
def decrypt (cipher : Block → Block) (subkey : Block) (nonce : Nonce)
    (associated ciphertext : Bytes) (tag : Tag) : Option Bytes :=
  if 8 * ciphertext.length ≤ 2 ^ 39 - 256 ∧ 8 * associated.length ≤ 2 ^ 64 - 1 then
    if tagWith bitLength cipher subkey nonce associated ciphertext = tag then
      some (counterMode cipher (increment (firstCounter nonce)) ciphertext)
    else none
  else none

end SealedEnvelope.GaloisCounter
