import BoundSql.Text.Split
import BoundSql.Url.Percent

/-!
# Queries

The query of a URL is a list of pairs of a name and a value.  Pairs are separated
by an ampersand, and an equals sign ends a name.  A pair without one has an empty
value, and a pair without characters is none.  In both parts a plus sign is a
space, and bytes that are no text are replaced.
-/

namespace BoundSql.Url

/-- A name or a value. -/
def decodeFormPart (cs : List Char) : String :=
  Text.ofBytesLenient (decode (cs.map fun c => if c = '+' then ' ' else c))

/-- A pair. -/
def decodeFormPair (cs : List Char) : String × String :=
  let (name, value) := Text.cutAt '=' cs
  (decodeFormPart name, decodeFormPart (value.getD []))

/-- The pairs of a query, in order. -/
def decodeForm (cs : List Char) : List (String × String) :=
  ((Text.splitWhere (· == '&') cs).filter (!·.isEmpty)).map decodeFormPair

/-! ## Tests -/

example : decodeForm "&a=1+%2B&&b&=c=d&".toList = [("a", "1 +"), ("b", ""), ("", "c=d")] := by
  decide +kernel

end BoundSql.Url
