import Chatflow.Argument
import Chatflow.Digest.Sha256

/-! Keyed signatures of messages, and their comparison with the signature that came with a message. -/

namespace Chatflow.Digest

/-- The key brought to the length of a block; a longer one is hashed first. -/
def blockKey (key : List UInt8) : List UInt8 :=
  let key := if 64 < key.length then sha256 key else key
  key ++ List.replicate (64 - key.length) 0

def sign (key message : List UInt8) : List UInt8 :=
  let key := blockKey key
  sha256 (key.map (· ^^^ 0x5c) ++ sha256 (key.map (· ^^^ 0x36) ++ message))

def hexText (bytes : List UInt8) : List Char := bytes.flatMap fun b => Text.hexDigits 2 b.toNat

/-- What a signature starts with. -/
def scheme : List Char := "sha256=".toList

/-- Whether what was given is what was expected. Texts are compared byte by byte, and only texts of ASCII
characters can be. -/
def agrees (given expected : String) : Except Fault Bool :=
  if (given ++ expected).toList.any fun c => 128 ≤ c.val then .error .wrongType else .ok (given == expected)

/-- The bytes of what came in place of a message. -/
def messageOf : Value → Except Fault (List UInt8)
  | .str message => if Text.holdsHalf message then .error (.halves message) else .ok (Text.utf8 message)
  | _ => .error .noFields

/-- Whether the signature that came with a message is the one that it ought to have. -/
def verify (message : List UInt8) (signature secret : String) : Except Fault Bool := do
  if !scheme.isPrefixOf signature.toList then return false
  if Text.holdsHalf secret then throw (.halves secret)
  agrees (String.ofList (signature.toList.drop scheme.length))
    (String.ofList (hexText (sign (Text.utf8 secret) message)))

/-- The same for a signature and a secret that may be any values. The secret is looked at only if there is a
signature. -/
def verifyGiven (message : List UInt8) (signature secret : Value) : Except Fault Bool := do
  let signature ← Argument.text .noFields signature
  match secret with
  | .str secret => verify message signature secret
  | _ => if scheme.isPrefixOf signature.toList then throw .noFields else return false

end Chatflow.Digest
