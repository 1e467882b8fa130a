import CallChart.Shell.Record.Syntax

namespace CallChart.Shell.Record

inductive TokenKind where
  | number (x : Float)
  | text (bytes : Bytes)
  | pattern (source : Bytes)
  | name (name : String) (called : Bool)
  | word (word : String)
  | mark (mark : String)
  | newline
  | stop

structure Token where
  kind : TokenKind
  shown : Bytes
  line : Nat

/-- Something wrong with a program, behind so many tokens. `bare` tells that only the number of the
line stands before the message, and `last` that nothing more is read. -/
structure Complaint where
  position : Nat
  line : Nat
  message : String
  bare : Bool
  last : Bool

namespace Token

def isMark (t : Token) (m : String) : Bool :=
  match t.kind with
  | .mark n => n == m
  | _ => false

def isWord (t : Token) (w : String) : Bool :=
  match t.kind with
  | .word v => v == w
  | _ => false

def words : List String := ["BEGIN", "END", "function", "if", "else", "while", "for", "do",
  "break", "continue", "next", "nextfile", "exit", "return", "delete", "in", "getline", "print",
  "printf", "length", "index", "substr", "split", "sub", "gsub", "match", "sprintf", "sin", "cos",
  "atan2", "exp", "log", "sqrt", "int", "rand", "srand", "close", "fflush", "system", "toupper",
  "tolower", "systime", "strftime", "mktime"]

def marks : List String := ["&&", "||", "==", "!=", "<=", ">=", "++", "--", "+=", "-=", "*=",
  "/=", "%=", "^=", "!~", ">>", "\x7b", "\x7d", "(", ")", "[", "]", ";", ",", "+", "-", "*", "/",
  "%", "^", "!", ">", "<", "|", "?", ":", "~", "$", "="]

def precedesDivision (t : Token) : Bool :=
  match t.kind with
  | .number _ => true
  | .text _ => true
  | .pattern _ => true
  | .name _ called => !called
  | .word w => w == "length"
  | .mark m => [")", "]", "$", "++", "--"].contains m
  | _ => false

def goesOn (t : Token) : Bool :=
  match t.kind with
  | .mark m => ["\x7b", "&&", "||", ",", ";"].contains m
  | .word w => ["do", "else"].contains w
  | .newline => true
  | _ => false

def quoted : Nat → Bytes → Option (Bytes × Bytes)
  | 0, _ => none
  | _, [] => none
  | fuel + 1, b :: rest =>
    if b = 0x22 then some ([], rest)
    else if b = 0x0A then none
    else if b = 0x5C then
      match rest with
      | [] => none
      | c :: rest => (quoted fuel rest).map fun (bs, rest) => (b :: c :: bs, rest)
    else (quoted fuel rest).map fun (bs, rest) => (b :: bs, rest)

def hexDigits (bs : Bytes) : Bytes := (bs.take 2).takeWhile isHexDigit

def unescaped : Nat → Bytes → Bytes
  | 0, bs => bs
  | _, [] => []
  | _, [b] => [b]
  | fuel + 1, b :: c :: rest =>
    if b ≠ 0x5C then b :: unescaped fuel (c :: rest)
    else if c = 0x0A then unescaped fuel rest
    else
      match Format.octal? c with
      | some _ =>
        let (n, rest) := Format.octals 3 0 (c :: rest)
        UInt8.ofNat n :: unescaped fuel rest
      | none =>
        let named : List (UInt8 × UInt8) := [(0x22, 0x22), (0x5C, 0x5C), (0x61, 0x07),
          (0x62, 0x08), (0x66, 0x0C), (0x6E, 0x0A), (0x72, 0x0D), (0x74, 0x09), (0x76, 0x0B)]
        match named.lookup c with
        | some e => e :: unescaped fuel rest
        | none =>
          let ds := hexDigits rest
          if c = 0x78 ∧ !ds.isEmpty then
            UInt8.ofNat (valueOf 16 ds) :: unescaped fuel (rest.drop ds.length)
          else b :: c :: unescaped fuel rest

def slashed : Nat → Bool → Bytes → Option (Bytes × Bytes)
  | 0, _, _ => none
  | _, _, [] => none
  | fuel + 1, inSet, b :: rest =>
    let goOn (inSet : Bool) (piece : Bytes) (rest : Bytes) : Option (Bytes × Bytes) :=
      (slashed fuel inSet rest).map fun (bs, rest) => (piece ++ bs, rest)
    match b, rest with
    | 0x0A, _ => none
    | 0x5C, 0x2F :: rest => goOn inSet [0x2F] rest
    | 0x5C, c :: rest => goOn inSet [b, c] rest
    | 0x5B, 0x5E :: 0x5D :: rest => goOn true [0x5B, 0x5E, 0x5D] rest
    | 0x5B, 0x5D :: rest => if inSet then goOn true [b] (0x5D :: rest)
      else goOn true [0x5B, 0x5D] rest
    | 0x5B, 0x3A :: rest => if inSet then
        let name := rest.takeWhile ByteClass.isLower
        match rest.drop name.length with
        | 0x3A :: 0x5D :: more => goOn true (0x5B :: 0x3A :: name ++ [0x3A, 0x5D]) more
        | _ => goOn true [0x5B, 0x3A] rest
      else goOn true [0x5B, 0x3A] rest
    | 0x5B, rest => goOn true [b] rest
    | 0x5D, rest => goOn false [b] rest
    | 0x2F, rest => if inSet then goOn inSet [b] rest else some ([], rest)
    | b, rest => goOn inSet [b] rest

structure Scan where
  tokens : List Token
  complaints : List Complaint
  count : Nat
  line : Nat
  parentheses : Nat
  braces : Nat

namespace Scan

def add (s : Scan) (kind : TokenKind) (shown : Bytes) : Scan :=
  { s with tokens := ⟨kind, shown, s.line⟩ :: s.tokens, count := s.count + 1 }

def complain (s : Scan) (message : String) (bare last : Bool) : Scan :=
  { s with complaints := ⟨s.count, s.line, message, bare, last⟩ :: s.complaints }

def newline (s : Scan) : Scan :=
  let goesOn := (s.tokens.head?.map Token.goesOn).getD true
  let next (s : Scan) : Scan := { s with line := s.line + 1 }
  if goesOn then next s
  else if 0 < s.parentheses then
    next { s.complain "missing ) near end of line" false false with parentheses := 0 }
  else next (s.add .newline (bytesOf "end of line"))

def mark (s : Scan) (m : String) : Scan :=
  let put (s : Scan) : Scan := s.add (.mark m) (bytesOf m)
  match m with
  | "(" => put { s with parentheses := s.parentheses + 1 }
  | ")" =>
    if s.parentheses = 0 then s.complain "extra ')'" false false
    else put { s with parentheses := s.parentheses - 1 }
  | "\x7b" => put { s with braces := s.braces + 1 }
  | "\x7d" =>
    if s.braces = 0 then s.complain "extra '\x7d'" false false
    else
      let s := if 0 < s.parentheses then
          { s.complain "missing ) near \x7d" false false with parentheses := 0 }
        else s
      put { s with braces := s.braces - 1 }
  | _ => put s

def close (s : Scan) : Scan :=
  let s := s.newline
  let s := if 0 < s.braces then s.complain "missing \x7d near end of file" false true else s
  s.add .stop (bytesOf "end of file")

end Scan

def isNameStart (b : UInt8) : Bool := ByteClass.isAlpha b || b == 0x5F

def scan : Nat → Scan → Bytes → Scan
  | 0, s, _ => s.close
  | _, s, [] => s.close
  | fuel + 1, s, b :: rest =>
    let blank (b : UInt8) : Bool := b == 0x20 || b == 0x09 || b == 0x0D || b == 0x0C || b == 0x0B
    let divides := (s.tokens.head?.map precedesDivision).getD false
    if blank b then scan fuel s rest
    else if b = 0x0A then scan fuel s.newline rest
    else if b = 0x23 then scan fuel s (rest.dropWhile (· ≠ 0x0A))
    else if b = 0x5C ∧ rest.head? = some 0x0A then
      scan fuel { s with line := s.line + 1 } (rest.drop 1)
    else if b = 0x22 then
      match quoted (rest.length + 1) rest with
      | some (body, more) =>
        let lines := body.count 0x0A
        let s := s.add (.text (unescaped (body.length + 1) body)) body
        scan fuel { s with line := s.line + lines } more
      | none =>
        (s.complain ("runaway string constant \"" ++ textOf ((rest.takeWhile (· ≠ 0x0A)).take 10) ++
          " ...") false true).add .stop []
    else if b = 0x2F ∧ !divides then
      match slashed (rest.length + 1) false rest with
      | some (source, more) =>
        scan fuel (s.add (.pattern source) (0x2F :: source ++ [0x2F])) more
      | none =>
        (s.complain ("runaway regular expression /" ++
          textOf ((rest.takeWhile (· ≠ 0x0A)).take 10) ++ " ...") false true).add .stop []
    else if isNameStart b then
      let name := b :: rest.takeWhile ByteClass.isWord
      let rest := (b :: rest).drop name.length
      let text := textOf name
      let kind : TokenKind := if words.contains text then .word text
        else .name text (rest.head? == some 0x28)
      scan fuel (s.add kind name) rest
    else
      match decimal? (b :: rest) with
      | some (x, more) =>
        scan fuel (s.add (.number x) ((b :: rest).take (rest.length + 1 - more.length))) more
      | none =>
        match marks.find? fun m => (bytesOf m).isPrefixOf (b :: rest) with
        | none =>
          (s.complain ("unexpected character '" ++ textOf [b] ++ "'") true true).add .stop []
        | some m =>
          let rest := (b :: rest).drop m.utf8ByteSize
          let behind := rest.dropWhile blank
          let ends := m = "\x7d" ∧ s.braces = 0 ∧ (behind.headD 0x0A) = 0x0A
          let s := s.mark m
          let s := if ends then s.complain "syntax error at or near end of line" false false else s
          scan fuel s (if m = "\x7d" ∧ behind.head? = some 0x3B then behind.drop 1 else rest)

def all (source : Bytes) : List Token × List Complaint :=
  let s := scan (source.length + 1) ⟨[], [], 0, 1, 0, 0⟩ source
  (s.tokens.reverse, s.complaints.reverse)

end Token
end CallChart.Shell.Record
