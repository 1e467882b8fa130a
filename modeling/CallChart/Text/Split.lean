namespace CallChart.Text

def isBlank (c : Char) : Bool :=
  let n := c.toNat
  (9 ≤ n && n ≤ 13) || n == 0x20 || n == 0x85 || n == 0xA0 || n == 0x1680 ||
    (0x2000 ≤ n && n ≤ 0x200A) || n == 0x2028 || n == 0x2029 || n == 0x202F || n == 0x205F ||
    n == 0x3000

def trimStart (cs : List Char) : List Char :=
  cs.dropWhile isBlank

def trimEnd (cs : List Char) : List Char :=
  (cs.reverse.dropWhile isBlank).reverse

def trimChars (cs : List Char) : List Char :=
  trimEnd (trimStart cs)

def trim (s : String) : String :=
  String.ofList (trimChars s.toList)

def isBlankText (s : String) : Bool :=
  s.toList.all isBlank

def splitChars (separator : Char) : List Char → List (List Char)
  | [] => [[]]
  | c :: rest =>
    let pieces := splitChars separator rest
    if c = separator then [] :: pieces
    else
      match pieces with
      | [] => [[c]]
      | piece :: others => (c :: piece) :: others

def split (separator : Char) (s : String) : List String :=
  (splitChars separator s.toList).map String.ofList

def splitLast (separator : Char) (cs : List Char) : Option (List Char × List Char) :=
  let after := (cs.reverse.takeWhile (· ≠ separator)).reverse
  if after.length < cs.length then
    some (cs.take (cs.length - after.length - 1), after)
  else none

def afterLast (separator : Char) (s : String) : String :=
  String.ofList (s.toList.reverse.takeWhile (· ≠ separator)).reverse

def commaList (s : String) : List String :=
  ((splitChars ',' s.toList).map trimChars).filter (· ≠ []) |>.map String.ofList

def insertSorted (entry : String) : List String → List String
  | [] => [entry]
  | e :: rest =>
    if entry < e then entry :: e :: rest
    else if entry = e then e :: rest
    else e :: insertSorted entry rest

def lowerAscii (s : String) : String :=
  String.ofList (s.toList.map Char.toLower)

def upperAscii (s : String) : String :=
  String.ofList (s.toList.map Char.toUpper)

def startsWith (start s : String) : Bool :=
  start.toList.isPrefixOf s.toList

end CallChart.Text
