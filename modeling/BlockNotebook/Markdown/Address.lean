import BlockNotebook.Text.Case
import BlockNotebook.Text.Digit
import BlockNotebook.Text.Split
/-!
Addresses of images: they lead to a host of the web, or hold an image themselves.

A host in brackets is an address of the sixth version of the internet protocol,
perhaps with the name of a network after a percent sign, or one of a later version.
-/

namespace BlockNotebook.Markdown

open Text

/-! ## Hosts in brackets -/

/-- A number below 256 without zeros in front. -/
def isOctet (cs : List Char) : Bool :=
  !cs.isEmpty && cs.all isAsciiDigit && decide (cs.length ≤ 3) && (cs == ['0'] || cs.head? != some '0') &&
    decide (cs.foldl (fun n c => n * 10 + (c.toNat - 48)) 0 ≤ 255)

/-- Four numbers with points between. -/
def isAddress4 (cs : List Char) : Bool :=
  let parts := split '.' cs
  parts.length == 4 && parts.all isOctet

def isHexDigit (c : Char) : Bool :=
  isAsciiDigit c || (decide ('a' ≤ c) && decide (c ≤ 'f')) || (decide ('A' ≤ c) && decide (c ≤ 'F'))

/-- One to four digits in base sixteen. -/
def isGroup (cs : List Char) : Bool := !cs.isEmpty && decide (cs.length ≤ 4) && cs.all isHexDigit

/-- Eight groups with colons between, or fewer around the double colon `gap`, the place of the empty
group inside; at the ends a double colon leaves one more empty group. -/
def areGroups (groups : List (List Char)) : Bool :=
  let inner := (groups.drop 1).dropLast
  match inner.idxOf? [] with
  | none => groups.length == 8 && groups.all isGroup
  | some gap =>
    let front := groups.take (gap + 1)
    let back := groups.drop (gap + 2)
    let front := if front == [[]] then [] else front
    let back := if back == [[]] then [] else back
    front.all isGroup && back.all isGroup && decide (front.length + back.length < 8)

/-- An address in groups, the last two of which may be written as four numbers. -/
def isAddress6 (cs : List Char) : Bool :=
  let (address, network) := cut '%' cs
  let named := cs.contains '%'
  let groups := split ':' address
  let last := groups.getLastD []
  decide (3 ≤ groups.length) && !(named && (network.isEmpty || network.contains '%')) &&
    (if last.contains '.' then isAddress4 last && areGroups (groups.dropLast ++ [['0'], ['0']])
    else areGroups groups)

/-- An address of a later version: its number after a `v`, and its text after a point. -/
def isLaterAddress (cs : List Char) : Bool :=
  let (version, text) := cut '.' (cs.drop 1)
  !version.isEmpty && version.all isHexDigit && cs.contains '.' && !text.isEmpty && !text.contains '\n'

/-- The text after the last `@`. -/
def afterUser (cs : List Char) : List Char := (split '@' cs).getLastD []

/-- Brackets, where there are any, hold the whole host: only a port may follow. -/
def hasGoodBrackets (host : List Char) : Bool :=
  match host.contains '[', host.contains ']' with
  | false, false => true
  | true, true =>
    let place := afterUser host
    let isGood (name : List Char) : Bool :=
      if name.head? == some 'v' then isLaterAddress name else isAddress6 name
    if place.contains '[' then
      let (name, port) := cut ']' (place.drop 1)
      place.head? == some '[' && (port.isEmpty || port.head? == some ':') && isGood name
    else isGood (cut ':' place).1
  | _, _ => false

/-! ## Addresses -/

/-- Two characters are one letter of either case. Three letters of ASCII also match a letter outside it. -/
def sameLetter (pattern c : Char) : Bool :=
  pattern == asciiLower c || (pattern == 'i' && (c == 'İ' || c == 'ı')) ||
    (pattern == 's' && c == 'ſ') || (pattern == 'k' && c == '\u212A')

/-- The text after a word, in letters of either case. -/
def afterWord : List Char → List Char → Option (List Char)
  | [], cs => some cs
  | p :: ps, c :: cs => if sameLetter p c then afterWord ps cs else none
  | _ :: _, [] => none

def startsWith (word : String) (cs : List Char) : Bool := (afterWord word.toList cs).isSome

/-- The kinds of image that an address may hold. -/
def imageTypes : List String := ["png", "jpeg", "jpg", "gif", "webp", "svg+xml", "bmp", "ico"]

/-- An address that holds an image of a known kind. -/
def holdsImage (cs : List Char) : Bool :=
  match afterWord "data:image/".toList cs with
  | none => false
  | some rest =>
    imageTypes.any fun t =>
      match afterWord t.toList rest with
      | none => false
      | some rest => startsWith "," rest || startsWith ";base64," rest

/-- A character that readers of addresses pass over. -/
def isPassedOver (c : Char) : Bool := c == '\t' || c == '\n' || c == '\r'

/-- A control character or a space. -/
def isControlOrSpace (c : Char) : Bool := decide (c.toNat ≤ 0x20)

/-- A character of the scheme of an address. -/
def isSchemeChar (c : Char) : Bool :=
  isAsciiLetter c || isAsciiDigit c || c == '+' || c == '-' || c == '.'

/-- An address as its scheme, in small letters, and the rest. -/
def splitScheme (cs : List Char) : List Char × List Char :=
  let word := cs.takeWhile (· != ':')
  match word, cs.drop word.length with
  | first :: _, _ :: rest =>
    if isAsciiLetter first && word.all isSchemeChar then (word.map asciiLower, rest) else ([], cs)
  | _, _ => ([], cs)

/-- Characters that come apart into one of the characters that part an address. -/
def partsAddress (c : Char) : Bool :=
  [0x2047, 0x2048, 0x2049, 0x2100, 0x2101, 0x2105, 0x2106, 0x2A74, 0xFE13, 0xFE16, 0xFE55, 0xFE56,
    0xFE5F, 0xFE6B, 0xFF03, 0xFF0F, 0xFF1A, 0xFF1F, 0xFF20].contains c.toNat

/-- The host part of the rest of an address, after two slashes. It is empty if there are none. -/
def hostPart : List Char → List Char
  | '/' :: '/' :: rest => rest.takeWhile fun c => c != '/' && c != '?' && c != '#'
  | _ => []

/-- A host, without characters that come apart. -/
def isHost (host : List Char) : Bool := !host.isEmpty && hasGoodBrackets host && !host.any partsAddress

/-- The address leads to a host of the web. -/
def leadsToWeb (cs : List Char) : Bool :=
  let (scheme, rest) := splitScheme ((cs.dropWhile isControlOrSpace).filter (!isPassedOver ·))
  (scheme == "http".toList || scheme == "https".toList) && isHost (hostPart rest)

/-- An address that an image may have: none at all, one that leads to the web, or an image itself. -/
def isImageAddress (t : Text) : Bool :=
  let cs := t.characters
  if cs.isEmpty then true
  else if startsWith "javascript:" cs then false
  else if startsWith "data:" cs then holdsImage cs
  else leadsToWeb cs

/-- The address, if an image may have it. -/
def imageAddress (t : Text) : Text := if isImageAddress t then t else []

end BlockNotebook.Markdown
