import HurlAssist.Json.Read

/-!
Records with a single field. A record is written as an object or as an array of its fields in order;
an array may leave out what comes last. A field may stand once in an object, other members have
no meaning, and every key has to be text.
-/

namespace HurlAssist.Json

/-- What is written for the only field of a record, if anything is. -/
def onlyField? (name : String) : Syntax → Option (Option Syntax)
  | .array [] => some none
  | .array [value] => some (some value)
  | .object members =>
    match members.mapM fun m => (text? m.1).map fun key => (key, m.2) with
    | none => none
    | some named =>
      match named.filter fun m => m.1 == name with
      | [] => some none
      | [(_, value)] => some (some value)
      | _ => none
  | _ => none

end HurlAssist.Json
