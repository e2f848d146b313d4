import HurlAssist.Digits
import HurlAssist.Text.Octets

/-!
Percent encoding: an octet as a percent sign and two hexadecimal digits. Decoding takes every sign
that two digits follow for an encoded octet and leaves all others as they are.
-/

namespace HurlAssist.Url

/-- An octet in encoded form. -/
def encodeOctet (b : UInt8) : List Char := ['%', Digits.upper (b.toNat / 16), Digits.upper (b.toNat % 16)]

/-- A character as it stands in a part of a URL: itself, or the encoded octets of its UTF-8 form if
it is a control character, outside of ASCII, or one of those that the part has to encode. -/
def encodeChar (special : List Char) (c : Char) : List Char :=
  if c.toNat < 0x20 ∨ 0x7E < c.toNat ∨ special.contains c then
    (Octets.ofText (String.ofList [c])).flatMap encodeOctet
  else [c]

def encode (special : List Char) (cs : List Char) : List Char := cs.flatMap (encodeChar special)

/-- The value of the octet of a hexadecimal digit. -/
def digitValue? (b : UInt8) : Option Nat := Digits.value? (Char.ofNat b.toNat)

/-- The octets with encoded ones decoded. -/
def decode : Octets → Octets
  | p :: a :: b :: rest =>
    if p = Octets.ofChar '%' then
      match digitValue? a, digitValue? b with
      | some x, some y => (16 * x + y).toUInt8 :: decode rest
      | _, _ => p :: decode (a :: b :: rest)
    else p :: decode (a :: b :: rest)
  | os => os

end HurlAssist.Url
