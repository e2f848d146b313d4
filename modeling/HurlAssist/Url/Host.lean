import HurlAssist.Url.Address
import HurlAssist.Url.Name
import HurlAssist.Url.Percent

/-!
The host of a URL: a name, an address, or for schemes that are not known any text.
-/

namespace HurlAssist.Url

/-- Characters that no host may contain, of whatever scheme. -/
def inNoHost : List Char := "\x00\t\n\r #/:<>?@[\\]^|".toList

/-- The address between square brackets. -/
def bracketed? (cs : List Char) : Option (List Char) :=
  if cs.getLast? = some ']' then
    (Address.version6? cs.dropLast).map fun a => '[' :: a ++ [']']
  else none

/-- A name or an address. What is encoded in it is decoded first. -/
def nameOrAddress? (cs : List Char) : Option (List Char) := do
  let text ← (decode (Octets.ofText (String.ofList cs))).text?
  let name ← Name.ascii? text.toList
  if name.isEmpty then none
  else if Address.endsInNumber name then Address.version4? name
  else some name

/-- The host that a text writes. If hosts of the scheme are `named`, it has to be a name or an
address; else it may be any text, or empty. -/
def host? (named : Bool) (cs : List Char) : Option (List Char) :=
  match cs with
  | '[' :: rest => bracketed? rest
  | _ =>
    if named then nameOrAddress? cs
    else if cs.any inNoHost.contains then none
    else some (encode [] cs)

end HurlAssist.Url
