/-!
# Addresses

The address that is opened is the base address with the caller's token as one more parameter of
its query. The token is percent-encoded, so it cannot end its parameter. For a log an address is
cut before its query.
-/

namespace EventFeed.Connection

/-- A bearer token. Its description does not show it. -/
structure Token where
  secret : String
  deriving DecidableEq

def Token.describe (_ : Token) : String := "AuthToken([REDACTED])"

namespace Address

def isUnreserved (c : Char) : Bool :=
  c.isAlphanum || c == '-' || c == '_' || c == '.' || c == '!' || c == '~' || c == '*' ||
    c == '\x27' || c == '(' || c == ')'

def upperHex (n : Nat) : Char := (Nat.digitChar n).toUpper

def percentByte (b : UInt8) : List Char :=
  ['%', upperHex (b.toNat / 16), upperHex (b.toNat % 16)]

def percentChar (c : Char) : List Char :=
  if isUnreserved c then [c] else (String.utf8EncodeChar c).flatMap percentByte

def percentEncode (s : String) : List Char := s.toList.flatMap percentChar

/-- An empty token counts as none. -/
def withToken (base : String) : Option Token → String
  | none => base
  | some token =>
    if token.secret = "" then base
    else
      let separator := if '?' ∈ base.toList then '&' else '?'
      String.ofList (base.toList ++ separator ::
        (['t', 'o', 'k', 'e', 'n', '='] ++ percentEncode token.secret))

/-- What stands before the query. -/
def redact (url : String) : String := String.ofList (url.toList.takeWhile (· ≠ '?'))

end Address

end EventFeed.Connection
