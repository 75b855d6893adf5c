import RestTemplates.Text.Utf8
import RestTemplates.Url.Domain.Bidi
import RestTemplates.Url.Domain.Label

/-!
# Domain — host names in ASCII

A host name is brought to its common form and written in ASCII label by label.  The labels of a name
with text from right to left also follow the bidi rule.
-/

namespace RestTemplates

namespace Domain

/-- The ASCII form of a name given by its bytes. -/
def toAscii? (bytes : Bytes) : Option (List Char) := do
  let name ← Utf8.decode? bytes
  let common ← commonForm? name.toList
  let labels ← (common.splitOn '.').mapM Label.read?
  guard (bidiRule (labels.map Label.text))
  return ['.'].intercalate (labels.map Label.ascii)

end Domain

end RestTemplates
