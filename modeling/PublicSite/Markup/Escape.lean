/-!
# Escaping markup

A reserved character is written as an entity, so that text cannot end the
element or the attribute that it stands in.  Documents reserve four characters,
and the sitemap also the apostrophe.  Undoing the escapes gives the text back.
-/

namespace PublicSite.Markup

/-- The entity of a reserved character. -/
def entity (char : Char) : List Char :=
  match char with
  | '&' => "&amp;".toList
  | '<' => "&lt;".toList
  | '>' => "&gt;".toList
  | '"' => "&quot;".toList
  | '\'' => "&#39;".toList
  | other => [other]

/-- The characters that a document reserves. -/
def isReserved (char : Char) : Bool :=
  char == '&' || char == '<' || char == '>' || char == '"'

/-- A text in a document. -/
def escapeText (chars : List Char) : List Char :=
  chars.flatMap fun char => if isReserved char then entity char else [char]

/-- The characters that the sitemap reserves. -/
def isMarkup (char : Char) : Bool :=
  isReserved char || char == '\''

/-- A text in the sitemap.  One without reserved characters is taken as it is. -/
def escapeMarkup (chars : List Char) : List Char :=
  if chars.any isMarkup then chars.flatMap entity else chars

/-- Write every entity as the character that it stands for. -/
def unescape : List Char → List Char
  | '&' :: 'a' :: 'm' :: 'p' :: ';' :: rest => '&' :: unescape rest
  | '&' :: 'l' :: 't' :: ';' :: rest => '<' :: unescape rest
  | '&' :: 'g' :: 't' :: ';' :: rest => '>' :: unescape rest
  | '&' :: 'q' :: 'u' :: 'o' :: 't' :: ';' :: rest => '"' :: unescape rest
  | '&' :: '#' :: '3' :: '9' :: ';' :: rest => '\'' :: unescape rest
  | char :: rest => char :: unescape rest
  | [] => []

end PublicSite.Markup
