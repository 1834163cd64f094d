/-!
The two purposes a keystream serves under one key and nonce.
-/

namespace SealedEnvelope

/-- What a keystream is drawn for. -/
inductive Purpose where
  /-- Masks the digest. -/
  | tag
  /-- Masks the message. -/
  | payload
deriving DecidableEq, Repr

namespace Purpose

/-- Both purposes, in the order of their codes. -/
def all : List Purpose := [tag, payload]

/-- The number a counter starts from, which keeps the two keystreams apart. -/
def code : Purpose → Nat
  | tag => 1
  | payload => 2

/-- The purpose of a code, if it has one. -/
def ofCode? (code : Nat) : Option Purpose :=
  all.find? (·.code == code)

/-- The purpose in words. -/
def name : Purpose → String
  | tag => "Tag"
  | payload => "Payload"

end Purpose

end SealedEnvelope
