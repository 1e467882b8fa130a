import CallChart.Digest.Sha256
import CallChart.Options.Exchange

namespace CallChart

structure Fingerprint where
  text : String
  deriving DecidableEq, Repr

namespace Fingerprint

def lengthBytes (n : Nat) : List UInt8 :=
  (Sha256.bigEndian 8 n).reverse

def framed (part : List UInt8) : List UInt8 :=
  lengthBytes part.length ++ part

def preimage (analysis : String) (o : Options) (format : String) : List UInt8 :=
  framed (Utf8.encode analysis) ++ framed (Utf8.encode o.normalized.text) ++
    framed (Utf8.encode format)

def compute (analysis : String) (o : Options) (format : String) : Fingerprint :=
  ⟨Sha256.hex (Sha256.digest (preimage analysis o format))⟩

def isHexDigit (c : Char) : Bool :=
  c.isDigit || ('a' ≤ c && c ≤ 'f')

def parse? (s : String) : Option Fingerprint :=
  if s.toList.length = 64 ∧ s.toList.all isHexDigit then some ⟨s⟩ else none

def short (f : Fingerprint) : String :=
  String.ofList (f.text.toList.take 12)

end Fingerprint
end CallChart
