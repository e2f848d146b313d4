/-!
The catalog of filters. The entries are in the order of their names, so that `lookup` can halve
the catalog until one entry is left.
-/

namespace HurlAssist

/-- A filter, what it does, and the types of the values that it takes and gives. -/
structure Filter where
  name : String
  description : String
  input : String
  output : String
  deriving DecidableEq, Repr

namespace Filter

/-- The filter's type in one line. -/
def type (f : Filter) : String := "in: " ++ f.input ++ ", out " ++ f.output

/-- All filters, by name. -/
def catalog : List Filter :=
  [ ⟨"base64Decode", "Decodes a Base64 encoded string into bytes.", "string", "bytes"⟩,
    ⟨"base64Encode", "Encodes bytes into Base64 encoded string.", "bytes", "string"⟩,
    ⟨"base64UrlSafeDecode",
      "Decodes a Base64 encoded string into bytes (using Base64 URL safe encoding).",
      "string", "bytes"⟩,
    ⟨"base64UrlSafeEncode",
      "Encodes bytes into Base64 encoded string (using Base64 URL safe encoding).",
      "bytes", "string"⟩,
    ⟨"count", "Counts the number of items in a collection.", "collection", "number"⟩,
    ⟨"daysAfterNow",
      "Returns the number of days between now and a date in the future.",
      "date", "number"⟩,
    ⟨"daysBeforeNow",
      "Returns the number of days between now and a date in the past.",
      "date", "number"⟩,
    ⟨"decode", "Decodes bytes to string using encoding.", "bytes", "string"⟩,
    ⟨"first", "Returns the first element from a collection.", "collection", "any"⟩,
    ⟨"format", "Formats a date to a string given a specification format.", "date", "string"⟩,
    ⟨"htmlEscape",
      "Converts the characters &, < and > to HTML-safe sequence.",
      "string", "string"⟩,
    ⟨"htmlUnescape",
      "Converts all named and numeric character references (e.g. &gt;, &#62;, " ++
        "&#x3e;) to the corresponding Unicode characters.",
      "string", "string"⟩,
    ⟨"jsonpath", "Evaluates a JSONPath expression.", "string", "any"⟩,
    ⟨"last", "Returns the last element from a collection.", "collection", "any"⟩,
    ⟨"location", "Returns the target location URL of a redirection.", "response", "any"⟩,
    ⟨"nth",
      "Returns the element from a collection at a zero-based index, accepts negative " ++
        "indices for indexing from the end of the collection.",
      "collection", "any"⟩,
    ⟨"regex",
      "Extracts regex capture group. Pattern must have at least one capture group.",
      "string", "string"⟩,
    ⟨"replace", "Replaces all occurrences of old string with new string.", "string", "string"⟩,
    ⟨"replaceRegex",
      "Replaces all occurrences of a pattern with new string.",
      "string", "string"⟩,
    ⟨"split",
      "Splits to a list of strings around occurrences of the specified delimiter.",
      "string", "string"⟩,
    ⟨"toDate", "Converts a string to a date given a specification format.", "string", "date"⟩,
    ⟨"toFloat", "Converts value to float number.", "string|number", "number"⟩,
    ⟨"toHex", "Converts bytes to hexadecimal string.", "bytes", "string"⟩,
    ⟨"toInt", "Converts value to integer number.", "string|number", "number"⟩,
    ⟨"toString", "Converts value to string.", "any", "string"⟩,
    ⟨"urlDecode",
      "Replaces %xx escapes with their single-character equivalent.",
      "string", "string"⟩,
    ⟨"urlEncode",
      "Percent-encodes all the characters which are not included in unreserved " ++
        "chars (see RFC3986) with the exception of forward slash (/).",
      "string", "string"⟩,
    ⟨"urlQueryParam", "Returns the value of a query parameter in a URL.", "string", "string"⟩,
    ⟨"xpath", "Evaluates a XPath expression.", "string", "string"⟩ ]

/-- The filter of that name, if these filters are in the order of their names and hold it. -/
def search (name : String) (fs : List Filter) : Option Filter :=
  match h : fs.drop (fs.length / 2) with
  | [] => none
  | f :: after =>
    if name = f.name then some f
    else if name < f.name then search name (fs.take (fs.length / 2))
    else search name after
termination_by fs.length
decreasing_by
  · have hl := congrArg List.length h
    simp only [List.length_drop, List.length_cons] at hl
    simp only [List.length_take]
    omega
  · have hl := congrArg List.length h
    simp only [List.length_drop, List.length_cons] at hl
    omega

/-- The filter with exactly that name. -/
def lookup (name : String) : Option Filter := search name catalog

end Filter

end HurlAssist
