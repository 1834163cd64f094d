import SealedEnvelope.Cipher
import SealedEnvelope.Aes.State

/-!
AES keys: the key schedule for keys of 16, 24 and 32 bytes, and encryption under it.
-/

namespace SealedEnvelope.Aes

/-- The three key lengths of AES. -/
inductive KeySize where
  | aes128
  | aes192
  | aes256
deriving DecidableEq, Repr

namespace KeySize

/-- Words of the key. -/
def words : KeySize → Nat
  | aes128 => 4
  | aes192 => 6
  | aes256 => 8

/-- Bytes of the key. -/
def bytes (size : KeySize) : Nat := 4 * size.words

/-- Bits of the key. -/
def bits (size : KeySize) : Nat := 8 * size.bytes

/-- Rounds, the last one included. -/
def rounds (size : KeySize) : Nat := size.words + 6

/-- The size of a key of so many bytes, if AES has one. -/
def ofBytes? : Nat → Option KeySize
  | 16 => some aes128
  | 24 => some aes192
  | 32 => some aes256
  | _ => none

end KeySize

/-- The schedule word at `index`, from the words before it: the word one key length back,
plus the last word, which is rotated, substituted and given a round constant at the start of
each key length, and substituted in the middle of an eight-word one. -/
def nextWord (size : KeySize) (schedule : Array Column) (index : Nat) : Column :=
  let last := schedule.getD (index - 1) default
  let turned :=
    if index % size.words = 0 then
      last.rotate.substitute.add ⟨Nat.repeat double (index / size.words - 1) 1, 0, 0, 0⟩
    else if size = .aes256 ∧ index % size.words = 4 then last.substitute
    else last
  (schedule.getD (index - size.words) default).add turned

/-- All words of the schedule that starts with the key. -/
def schedule (size : KeySize) (key : Bytes) : Array Column :=
  (List.range' size.words (4 * (size.rounds + 1) - size.words)).foldl
    (fun words index => words.push (nextWord size words index)) (Column.sequence key).toArray

/-- An expanded key: its size and the round keys in the order in which they are added. -/
structure Key where
  size : KeySize
  first : State
  middle : List State
  last : State

namespace Key

/-- The schedule of a key of 16, 24 or 32 bytes. -/
def ofBytes? (key : Bytes) : Option Key :=
  (KeySize.ofBytes? key.length).map fun size =>
    let roundKeys := State.sequence (schedule size key).toList
    { size
      first := roundKeys.headD default
      middle := roundKeys.tail.dropLast
      last := roundKeys.getLastD default }

/-- The key size in bits. -/
def bits (key : Key) : Nat := key.size.bits

/-- A description of the key that names its size and nothing else. -/
def description (key : Key) : String := s!"Key(AES-{key.bits})"

/-- Encryption of one block. -/
def encrypt (key : Key) (block : Block) : Block :=
  ((key.middle.foldl State.round ((State.ofBlock block).add key.first)).lastRound
    key.last).toBlock

instance : BlockCipher Key := ⟨encrypt⟩

end Key

end SealedEnvelope.Aes
