import NodeFit.Yaml.Cursor

/-!
# NodeFit.Yaml.Property

Anchors, tags and directives.

A tag is a handle and a suffix; a verbatim tag and the tag that is only an
exclamation mark have no handle.  A directive gives the version of the format or
what a handle stands for.

What handles stand for is not looked up here.  A tag is kept as it is written, and a directive as
what it says; whether the version is known is asked when a document starts.
-/

namespace NodeFit.Yaml

/-! ## Names -/

/-- The characters that may follow the name of an anchor. -/
def endsName (cs : List Char) : Bool :=
  atBlank cs || cs.head?.any fun c =>
    c == '?' || c == ':' || c == ',' || c == ']' || c == '\x7d' || c == '%' || c == '@'
      || c.toNat == 0x60

/-- The name of an anchor or an alias behind its indicator. -/
def takeName? (c : Cursor) : Option (String × Cursor) :=
  let (name, c) := c.takeWhile isNameChar
  if name.isEmpty || !endsName c.rest then none else some (String.ofList name, c)

/-! ## Tags -/

/-- The characters of tags.  A verbatim tag may hold some indicators as well. -/
def isTagChar (verbatim : Bool) (c : Char) : Bool :=
  isNameChar c || c == ';' || c == '/' || c == '?' || c == ':' || c == '@' || c == '&'
    || c == '=' || c == '+' || c == '$' || c == '.' || c == '!' || c == '~' || c == '*'
    || c == '\'' || c == '(' || c == ')'
    || (verbatim && (c == ',' || c == '[' || c == ']'))

def hexDigit? (c : Char) : Option Nat :=
  if c.isDigit then some (c.toNat - 0x30)
  else if 'a' ≤ c && c ≤ 'f' then some (c.toNat - 0x57)
  else if 'A' ≤ c && c ≤ 'F' then some (c.toNat - 0x37)
  else none

/-- An octet written with a percent sign, and what follows it. -/
def takeOctet? : List Char → Option (Nat × List Char)
  | '%' :: a :: b :: rest => do
    let a ← hexDigit? a
    let b ← hexDigit? b
    return (a * 16 + b, rest)
  | _ => none

/-- The count of octets of a character and the bits that the first of them holds. -/
def leadingOctet? (octet : Nat) : Option (Nat × Nat) :=
  if octet < 0x80 then some (1, octet)
  else if octet / 0x20 == 6 then some (2, octet % 0x20)
  else if octet / 0x10 == 14 then some (3, octet % 0x10)
  else if octet / 0x08 == 30 then some (4, octet % 0x08)
  else none

/-- Further octets of a character: their number, and the bits before them. -/
def takeOctets? : Nat → Nat → List Char → Option (Nat × List Char)
  | 0, bits, cs => some (bits, cs)
  | n + 1, bits, cs => do
    let (octet, cs) ← takeOctet? cs
    guard (octet / 0x40 == 2)
    takeOctets? n (bits * 0x40 + octet % 0x40) cs

/-- A character written as octets, and the cursor behind it. -/
def takeEscaped? (c : Cursor) : Option (Char × Cursor) := do
  let (octet, cs) ← takeOctet? c.rest
  let (width, bits) ← leadingOctet? octet
  let (n, _) ← takeOctets? (width - 1) bits cs
  return (Char.ofNat n, c.skip (3 * width))

/-- The characters of a tag in front, with escapes resolved, and the cursor behind. -/
def takeTagChars? (verbatim : Bool) : Nat → Cursor → Option (List Char × Cursor)
  | 0, c => some ([], c)
  | fuel + 1, c =>
    match c.head? with
    | none => some ([], c)
    | some ch =>
      if ch == '%' then do
        let (value, c) ← takeEscaped? c
        let (later, c) ← takeTagChars? verbatim fuel c
        return (value :: later, c)
      else if isTagChar verbatim ch then do
        let (later, c) ← takeTagChars? verbatim fuel (c.skip 1)
        return (ch :: later, c)
      else some ([], c)

/-- One or more characters of a tag. -/
def takeTagText? (verbatim : Bool) (c : Cursor) : Option (List Char × Cursor) := do
  let (chars, c) ← takeTagChars? verbatim c.rest.length c
  if chars.isEmpty then none else return (chars, c)

/-- A tag as it is written; without a handle the suffix is the whole tag. -/
structure WrittenTag where
  handle : String
  suffix : String
deriving DecidableEq, Repr

/-- An exclamation mark, a name and, if there is one, a second exclamation mark. -/
def takeHandle? (c : Cursor) : Option (List Char × Cursor) :=
  if c.head? == some '!' then
    let (name, c) := (c.skip 1).takeWhile isNameChar
    if c.head? == some '!' then some ('!' :: name ++ ['!'], c.skip 1) else some ('!' :: name, c)
  else none

/-- A tag between angle brackets, given behind the opening one. -/
def takeVerbatim? (c : Cursor) : Option (WrittenTag × Cursor) := do
  let (suffix, c) ← takeTagText? true c
  guard (c.head? == some '>')
  return (⟨"", String.ofList suffix⟩, c.skip 1)

/-- A tag with a handle, or with the handle that is a single exclamation mark. -/
def takeShorthand? (c : Cursor) : Option (WrittenTag × Cursor) := do
  let (handle, next) ← takeHandle? c
  if 1 < handle.length && handle.getLast? == some '!' then
    let (suffix, next) ← takeTagText? false next
    return (⟨String.ofList handle, String.ofList suffix⟩, next)
  else
    let (later, next) ← takeTagChars? false next.rest.length next
    let suffix := handle.drop 1 ++ later
    return (if suffix.isEmpty then ⟨"", "!"⟩ else ⟨"!", String.ofList suffix⟩, next)

/-- A tag.  It must stand apart from what follows; in flow style a comma may follow. -/
def takeTag? (flow : Bool) (c : Cursor) : Option (WrittenTag × Cursor) := do
  let (tag, c) ←
    if (c.skip 1).head? == some '<' then takeVerbatim? (c.skip 2) else takeShorthand? c
  guard (atBlank c.rest || (flow && c.head? == some ','))
  return (tag, c)

/-! ## Directives -/

/-- A line that says something about the document below it. -/
inductive Directive where
  | version (major minor : Nat)
  /-- What a handle stands for. -/
  | tag (handle lead : String)
deriving DecidableEq, Repr

/-- A number of at most nine digits. -/
def takeVersionNumber? (c : Cursor) : Option (Nat × Cursor) :=
  let (digits, c) := c.takeWhile Char.isDigit
  if digits.isEmpty || 9 < digits.length then none
  else some (Nat.ofDigitChars 10 digits 0, c)

def takeVersion? (c : Cursor) : Option (Directive × Cursor) := do
  let (major, c) ← takeVersionNumber? (c.skipWhile isBlank)
  guard (c.head? == some '.')
  let (minor, c) ← takeVersionNumber? (c.skip 1)
  return (.version major minor, c)

/-- A handle and what it stands for, behind the name of their directive. -/
def takeTagDirective? (c : Cursor) : Option (Directive × Cursor) := do
  let (handle, c) ← takeHandle? (c.skipWhile isBlank)
  guard (handle == ['!'] || (1 < handle.length && handle.getLast? == some '!'))
  guard (c.head?.any isBlank)
  let (lead, c) ← takeTagText? true (c.skipWhile isBlank)
  guard (atBlank c.rest)
  return (.tag (String.ofList handle) (String.ofList lead), c)

/-- A directive behind its percent sign, up to the start of the next line. -/
def takeDirective? (c : Cursor) : Option (Directive × Cursor) := do
  let (name, c) := c.takeWhile isNameChar
  guard (!name.isEmpty && atBlank c.rest)
  let (directive, c) ←
    match String.ofList name with
    | "YAML" => takeVersion? c
    | "TAG" => takeTagDirective? c
    | _ => none
  let c ← c.skipLineEnd?
  return (directive, c)

end NodeFit.Yaml
