import SealedEnvelope.Error

/-!
What an operation reports of itself. Reports hold lengths, counts, flags and errors, and no
byte of a key, a nonce or a message.
-/

namespace SealedEnvelope

/-- How much detail a report is. -/
inductive Level where
  | error
  | warn
  | info
  | debug
  | trace
deriving DecidableEq, Repr

namespace Level

/-- The rank of a level; details rank higher. -/
def rank : Level → Nat
  | error => 1
  | warn => 2
  | info => 3
  | debug => 4
  | trace => 5

/-- The name of a level. -/
def name : Level → String
  | error => "ERROR"
  | warn => "WARN"
  | info => "INFO"
  | debug => "DEBUG"
  | trace => "TRACE"

end Level

/-- One report. -/
inductive Event where
  | usingKey (bits : Nat) (derivedSubkey : Bool)
  | bodyWithoutData
  | rejectedEnvelope (error : Error)
  | failedAuthentication (length : Nat)
  | sealedEnvelope (length blocks : Nat)
  | openedEnvelope (length blocks : Nat)
  | undecryptableBody (error : Error)

namespace Event

/-- The detail of a report. -/
def level : Event → Level
  | sealedEnvelope .. | openedEnvelope .. => .trace
  | _ => .debug

/-- The part of the program that reports, outer parts first. -/
def source : Event → List String
  | usingKey .. | bodyWithoutData => ["parcel_codec"]
  | rejectedEnvelope _ | failedAuthentication _ | sealedEnvelope .. | openedEnvelope .. =>
    ["parcel_codec", "envelope"]
  | undecryptableBody _ => ["parcel_codec", "json"]

/-- The source as it is written. -/
def sourceName (event : Event) : String := "::".intercalate event.source

/-- What a report says, without its fields. -/
def message : Event → String
  | usingKey .. => "using key"
  | bodyWithoutData => "body carries no data"
  | rejectedEnvelope error => s!"rejected envelope: {error.message}"
  | failedAuthentication _ => "envelope failed authentication"
  | sealedEnvelope .. => "sealed envelope"
  | openedEnvelope .. => "opened envelope"
  | undecryptableBody error => s!"could not decrypt json body: {error.message}"

/-- The fields of a report, by name. -/
def fields : Event → List (String × String)
  | usingKey bits derivedSubkey =>
    [("bits", toString bits), ("derived_subkey", toString derivedSubkey)]
  | failedAuthentication length => [("len", toString length)]
  | sealedEnvelope length blocks | openedEnvelope length blocks =>
    [("len", toString length), ("blocks", toString blocks)]
  | bodyWithoutData | rejectedEnvelope _ | undecryptableBody _ => []

/-- The names of the fields of a report. What it says counts as one. -/
def fieldNames (event : Event) : List String := "message" :: event.fields.map Prod.fst

/-- The wording of a report. -/
def text (event : Event) : String :=
  event.message ++ String.join (event.fields.map fun (name, value) => s!" {name}={value}")

/-- The line that shows a report: the level in five places, the source and the wording. -/
def line (event : Event) : String :=
  let level := event.level.name
  String.ofList (List.replicate (5 - level.length) ' ') ++ level ++ " " ++
    event.sourceName ++ ": " ++ event.text ++ "\n"

end Event

end SealedEnvelope
