import StoryServer.Json.Reader
import StoryServer.Text.Encoding

/-!
# Queries and paths of addresses

A query is a list of pairs, as a form is sent: it is split at `&`, each piece at its
first `=`, and in names and values a plus sign stands for a blank and a percent sign with
two hexadecimal digits for an octet.  A name that is repeated has its last value.
`Address.quoted` goes the other way for an address as a whole.
-/

namespace StoryServer

namespace Query

/-- The octets that percent signs stand for put in their place, plus signs made blanks. -/
def octets : List Char → Octets
  | [] => []
  | '%' :: a :: b :: rest =>
    match Json.hexDigit? a, Json.hexDigit? b with
    | some x, some y => UInt8.ofNat (16 * x + y) :: octets rest
    | _, _ => 0x25 :: octets (a :: b :: rest)
  | '+' :: rest => 0x20 :: octets rest
  | c :: rest => (String.singleton c).toUTF8.toList ++ octets rest

/-- An octet on its own as a character. -/
def loneOctet (b : UInt8) : Char := if b < 0x80 then Char.ofNat b.toNat else '\uFFFD'

/-- The text of a name or a value.  Octets that are not UTF-8 are read one by one. -/
def component (s : List Char) : String :=
  let bs := octets s
  match Encoding.utf8 bs with
  | .ok points => Encoding.textOf points
  | .error _ => String.ofList (bs.map loneOctet)

/-- The pair in a piece of a query.  A piece without an equals sign has an empty value. -/
def pair (piece : List Char) : String × String :=
  let name := piece.takeWhile (· != '=')
  (component name, component (piece.drop (name.length + 1)))

/-- The pairs of a query, in order. -/
def pairs (query : String) : List (String × String) :=
  ((Text.splitAt '&' query.toList).filter fun piece => !piece.isEmpty).map pair

/-- The value of a name. -/
def value? (query name : String) : Option String :=
  ((pairs query).reverse.find? fun p => p.1 == name).map (·.2)

end Query

namespace Address

/-- Whether a character stands for itself in an address. -/
def isPlain (c : Char) : Bool :=
  c.isAlphanum || "_.-~:/%#?=@[]!$&'()*+,;".toList.contains c

/-- An octet as a percent sign and two digits. -/
def escaped (b : UInt8) : List Char := '%' :: (Text.hex 2 b.toNat).map Char.toUpper

/-- An address with every other character as the octets of its UTF-8. -/
def quoted (s : String) : String :=
  String.ofList <| s.toList.flatMap fun c =>
    if isPlain c then [c] else (String.singleton c).toUTF8.toList.flatMap escaped

end Address

end StoryServer
