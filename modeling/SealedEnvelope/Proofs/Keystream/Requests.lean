import SealedEnvelope.Proofs.Counter
import SealedEnvelope.Proofs.Keystream

/-!
A stream that is asked again and again, to mask data or to fill buffers, in pieces of any size.

The pieces leave no trace: the answers, put one behind the other, are the whole text under one
counter mode, and the stream is where a single request for all of it would have left it.
-/

namespace SealedEnvelope

/-- What a stream can be asked. -/
inductive Request where
  /-- Mask these bytes. -/
  | apply (data : Bytes)
  /-- Put keystream in the place of what the buffer holds. -/
  | fill (held : Bytes)

/-- The bytes that a request puts under the keystream: zeros where a buffer is filled. -/
def Request.text : Request → Bytes
  | apply data => data
  | fill held => List.replicate held.length 0

/-- The bytes of all requests, one behind the other. -/
def Request.texts (requests : List Request) : Bytes := requests.flatMap text

namespace Keystream

variable {C : Type} [BlockCipher C]

/-- The answer to one request. -/
def serve (stream : Keystream C) : Request → Bytes × Keystream C
  | .apply data => stream.apply data
  | .fill held => stream.fill held.length

/-- The answers to requests, one after the other. -/
def serveAll (stream : Keystream C) : List Request → List Bytes × Keystream C
  | [] => ([], stream)
  | request :: rest =>
    let (answer, next) := stream.serve request
    let (answers, last) := next.serveAll rest
    (answer :: answers, last)

theorem serve_eq_apply (stream : Keystream C) (request : Request) :
    stream.serve request = stream.apply request.text := by
  cases request with
  | apply data => rfl
  | fill held => exact fill_eq_apply_zeros stream held.length

/-- One step: a request is answered from where the stream stands, and moves it by its length. -/
theorem serve_after (cipher : C) (start : CounterBlock) (count : Nat) (request : Request) :
    (after cipher start count).serve request =
      (maskedFrom cipher start count request.text,
        after cipher start (count + request.text.length)) := by
  rw [serve_eq_apply, apply_after]

/-- A run: whatever was asked before, the answers to further requests are what these put under
the keystream from there on. -/
theorem serveAll_after (cipher : C) (start : CounterBlock) (count : Nat)
    (requests : List Request) :
    ((after cipher start count).serveAll requests).1.flatten =
        maskedFrom cipher start count (Request.texts requests) ∧
      ((after cipher start count).serveAll requests).2 =
        after cipher start (count + (Request.texts requests).length) := by
  -- Every request moves the stream on, so the hypothesis is about wherever it may stand.
  induction requests generalizing count with
  | nil => exact ⟨rfl, rfl⟩
  | cons request rest ih =>
    obtain ⟨answers, last⟩ := ih (count + request.text.length)
    have split : Request.texts (request :: rest) = request.text ++ Request.texts rest :=
      List.flatMap_cons
    rw [serveAll, serve_after, split, maskedFrom_append, List.length_append, ← Nat.add_assoc]
    exact ⟨by rw [List.flatten_cons, answers], last⟩

theorem lengths_serveAll (cipher : C) (start : CounterBlock) (count : Nat)
    (requests : List Request) :
    ((after cipher start count).serveAll requests).1.map List.length =
      requests.map fun request => request.text.length := by
  induction requests generalizing count with
  | nil => rfl
  | cons request rest ih =>
    rw [serveAll, serve_after, List.map_cons, List.map_cons, ih, length_maskedFrom]

theorem byteAt_eq_counterInput (cipher : C) (start : CounterBlock) (offset : Nat) :
    byteAt cipher start offset =
      (BlockCipher.encrypt cipher
        (counterInput start.nonce (start.counter.toNat + offset / 16))).bytes.getD
          (offset % 16) 0 := by
  rw [byteAt, blockAt, toBlock_advance]
  rfl

/-- Any requests to a fresh stream, of any lengths, amount to one counter mode. Every answer is
as long as its request. The byte at an offset of all the answers is the byte there, zero where a
buffer is filled, under the byte of the block that is due: the nonce, and the counter word moved
on by one for every sixteen bytes, modulo 2³². So both bytes and stream are what one request for
everything would have come to. -/
theorem serveAll_counterMode (cipher : C) (nonce : Nonce) (counter : BitVec 32)
    (requests : List Request) :
    let fresh := ofCounter cipher ⟨nonce, counter⟩
    let (answers, stream) := fresh.serveAll requests
    answers.map List.length = requests.map (fun request => request.text.length) ∧
      answers.flatten = (Request.texts requests).mapIdx (fun offset byte =>
        byte ^^^ (BlockCipher.encrypt cipher
          (counterInput nonce (counter.toNat + offset / 16))).bytes.getD (offset % 16) 0) ∧
      (answers.flatten, stream) = fresh.apply (Request.texts requests) := by
  intro fresh
  obtain ⟨answers, stream⟩ := serveAll_after cipher ⟨nonce, counter⟩ 0 requests
  have single := apply_after cipher ⟨nonce, counter⟩ 0 (Request.texts requests)
  have lengths := lengths_serveAll cipher ⟨nonce, counter⟩ 0 requests
  rw [after_zero] at answers stream single lengths
  refine ⟨lengths, ?_, ?_⟩
  · rw [answers, maskedFrom]
    simp only [Nat.zero_add, byteAt_eq_counterInput]
  · rw [single]
    exact Prod.ext answers stream

end Keystream

end SealedEnvelope
