import HurlAssist.Yaml.Tag

/-!
The words of YAML text. Indentation is among them: a block opens with the first entry that is
indented further than those before, and closes before the first that is indented less.
-/

namespace HurlAssist.Yaml

inductive Token where
  | directive (d : Directive)
  | documentStart
  | documentEnd
  | openBlockSequence
  | openBlockMapping
  | closeBlock
  | openSequence
  | closeSequence
  | openMapping
  | closeMapping
  /-- The hyphen before an entry of a block sequence. -/
  | entry
  | comma
  /-- What follows is a key. -/
  | key
  /-- What follows is the value of the key before it. -/
  | value
  | anchor (name : List Char)
  | alias (name : List Char)
  | tag (t : WrittenTag)
  | scalar (text : List Char) (plain : Bool)
  deriving Repr, BEq

end HurlAssist.Yaml
