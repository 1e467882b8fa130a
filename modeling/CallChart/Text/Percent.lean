import CallChart.Json.Reader
import CallChart.Text.Split
import CallChart.Text.Utf8

namespace CallChart.Percent

def isUnreserved (b : UInt8) : Bool :=
  let c := Char.ofNat b.toNat
  b < 0x80 && (c.isAlphanum || c == '-' || c == '_' || c == '.' || c == '~')

def upperHex (n : Nat) : Char :=
  (Nat.digitChar n).toUpper

def encodeByte (b : UInt8) : List Char :=
  if isUnreserved b then [Char.ofNat b.toNat]
  else ['%', upperHex (b.toNat / 16), upperHex (b.toNat % 16)]

def encodeChars (s : String) : List Char :=
  (Utf8.encode s).flatMap encodeByte

def encode (s : String) : String :=
  String.ofList (encodeChars s)

/-- The bytes of one form text: a plus sign is a space, and a percent sign without two digits
stays. -/
def formBytes : List Char → List UInt8
  | [] => []
  | '+' :: rest => 0x20 :: formBytes rest
  | '%' :: a :: b :: rest =>
    match Json.hexValue? a, Json.hexValue? b with
    | some a, some b => UInt8.ofNat (a * 16 + b) :: formBytes rest
    | _, _ => 0x25 :: formBytes (a :: b :: rest)
  | c :: rest => Utf8.encodeChar c ++ formBytes rest

def decodeForm (cs : List Char) : String :=
  Utf8.decodeLossy (formBytes cs)

/-- The pairs of a query string. A piece without an equals sign has an empty value, and an empty
piece is no pair. -/
def formPairs (query : List Char) : List (String × String) :=
  ((Text.splitChars '&' query).filter (· ≠ [])).map fun piece =>
    (decodeForm (piece.takeWhile (· ≠ '=')), decodeForm ((piece.dropWhile (· ≠ '=')).drop 1))

end CallChart.Percent
