import Mathlib.Data.List.TakeWhile

/-!
# JSON values and their texts

`Json.render` writes a value the way serializers do: a layout says which whitespace follows a comma
and a colon, and everything outside of printable ASCII is escaped in strings, with a surrogate pair
where one code unit is not enough. `parse` reads a text back. A number is kept as the text of its
literal, and an object has every key once: a later member of the same key replaces the earlier one.
-/

/-- The characters that may stand between the tokens. -/
def isJsonWhitespace (c : Char) : Bool := c == ' ' || c == '\t' || c == '\n' || c == '\r'

/-- The characters that a number may have. -/
def isNumberChar (c : Char) : Bool :=
  c.isDigit || c == '-' || c == '+' || c == '.' || c == 'e' || c == 'E'

namespace NumberLiteral

/-- At least one digit and nothing else. -/
def isDigits : List Char → Bool
  | [] => false
  | c :: rest => c.isDigit && rest.all Char.isDigit

/-- The end of a number from its exponent on. -/
def isExponent : List Char → Bool
  | [] => true
  | e :: rest =>
      (e == 'e' || e == 'E') &&
        match rest with
        | '+' :: rest => isDigits rest
        | '-' :: rest => isDigits rest
        | rest => isDigits rest

/-- The end of a number from its fraction on. -/
def isFraction : List Char → Bool
  | '.' :: c :: rest => c.isDigit && isExponent (rest.dropWhile Char.isDigit)
  | rest => isExponent rest

/-- A number without its sign. -/
def isUnsigned : List Char → Bool
  | '0' :: rest => isFraction rest
  | c :: rest => c.isDigit && isFraction (rest.dropWhile Char.isDigit)
  | [] => false

/-- The grammar of numbers. -/
def isNumber : List Char → Bool
  | '-' :: rest => isUnsigned rest
  | rest => isUnsigned rest

end NumberLiteral

/-- The text of a number. -/
structure NumberLiteral where
  text : List Char
  chars : text.all isNumberChar = true
  valid : NumberLiteral.isNumber text = true

/-- A JSON value. -/
inductive Json where
  | null
  | bool (value : Bool)
  | number (literal : NumberLiteral)
  | string (text : List Char)
  | array (items : List Json)
  | object (members : List (List Char × Json))

namespace Json

/-! ## Rendering -/

/-- The whitespace after a comma and after a colon. -/
structure Layout where
  afterComma : List Char
  afterColon : List Char
  comma_whitespace : afterComma.all isJsonWhitespace = true
  colon_whitespace : afterColon.all isJsonWhitespace = true

/-- No whitespace. -/
def Layout.compact : Layout := ⟨[], [], rfl, rfl⟩

/-- One space. -/
def Layout.spaced : Layout := ⟨[' '], [' '], rfl, rfl⟩

/-- A hexadecimal digit. -/
def hexDigit (n : ℕ) : Char :=
  if n < 10 then Char.ofNat ('0'.toNat + n) else Char.ofNat ('a'.toNat + (n - 10))

/-- The escape of a code unit. -/
def escapeUnit (unit : ℕ) : List Char :=
  ['\\', 'u', hexDigit (unit / 4096 % 16), hexDigit (unit / 256 % 16), hexDigit (unit / 16 % 16),
    hexDigit (unit % 16)]

/-- A character of a string. -/
def renderChar (c : Char) : List Char :=
  if c = '"' then ['\\', '"']
  else if c = '\\' then ['\\', '\\']
  else if c = '\n' then ['\\', 'n']
  else if c = '\r' then ['\\', 'r']
  else if c = '\t' then ['\\', 't']
  else if c = '\x0c' then ['\\', 'f']
  else if c = '\x08' then ['\\', 'b']
  else if ' ' ≤ c ∧ c ≤ '~' then [c]
  else if c.toNat < 0x10000 then escapeUnit c.toNat
  else
    -- a surrogate pair
    escapeUnit (0xd800 + (c.toNat - 0x10000) / 0x400) ++
      escapeUnit (0xdc00 + (c.toNat - 0x10000) % 0x400)

/-- A string after its opening quote. -/
def renderChars (text : List Char) : List Char := text.flatMap renderChar ++ ['"']

/-- A string. -/
def renderString (text : List Char) : List Char := '"' :: renderChars text

mutual

/-- The text of a value. -/
def render (layout : Layout) : Json → List Char
  | .null => ['n', 'u', 'l', 'l']
  | .bool true => ['t', 'r', 'u', 'e']
  | .bool false => ['f', 'a', 'l', 's', 'e']
  | .number literal => literal.text
  | .string text => renderString text
  | .array [] => ['[', ']']
  | .array (item :: items) => '[' :: (render layout item ++ renderItems layout items)
  | .object [] => ['\x7b', '\x7d']
  | .object ((key, value) :: members) =>
      '\x7b' :: (renderString key ++ ':' :: layout.afterColon ++ render layout value ++
        renderMembers layout members)

/-- The rest of an array after one of its items. -/
def renderItems (layout : Layout) : List Json → List Char
  | [] => [']']
  | item :: items =>
      ',' :: layout.afterComma ++ render layout item ++ renderItems layout items

/-- The rest of an object after one of its members. -/
def renderMembers (layout : Layout) : List (List Char × Json) → List Char
  | [] => ['\x7d']
  | (key, value) :: members =>
      ',' :: layout.afterComma ++ renderString key ++ ':' :: layout.afterColon ++
        render layout value ++ renderMembers layout members

end

/-! ## Parsing -/

/-- The members of an object in which later members replace earlier ones of the same key. -/
def set (key : List Char) (value : Json) :
    List (List Char × Json) → List (List Char × Json)
  | [] => [(key, value)]
  | member :: members =>
      if member.1 = key then (key, value) :: members else member :: set key value members

/-- The members of an object from its members in the text. -/
def ofMembers (members : List (List Char × Json)) : List (List Char × Json) :=
  members.foldl (fun object member => set member.1 member.2 object) []

/-- Drop the whitespace in front. -/
def skipWhitespace (text : List Char) : List Char := text.dropWhile isJsonWhitespace

/-- The value of a hexadecimal digit. -/
def hexValue (c : Char) : Option ℕ :=
  if '0' ≤ c ∧ c ≤ '9' then some (c.toNat - '0'.toNat)
  else if 'a' ≤ c ∧ c ≤ 'f' then some (c.toNat - 'a'.toNat + 10)
  else if 'A' ≤ c ∧ c ≤ 'F' then some (c.toNat - 'A'.toNat + 10)
  else none

/-- Four hexadecimal digits. -/
def parseUnit : List Char → Option (ℕ × List Char)
  | a :: b :: c :: d :: rest => do
      let a ← hexValue a
      let b ← hexValue b
      let c ← hexValue c
      let d ← hexValue d
      some (((a * 16 + b) * 16 + c) * 16 + d, rest)
  | _ => none

/-- The character of a code unit, or of two that are a surrogate pair. -/
def parseEscapedUnit (text : List Char) : Option (Char × List Char) := do
  let (unit, rest) ← parseUnit text
  if 0xd800 ≤ unit ∧ unit < 0xdc00 then
    match rest with
    | '\\' :: 'u' :: rest => do
        let (low, rest) ← parseUnit rest
        if 0xdc00 ≤ low ∧ low < 0xe000 then
          some (Char.ofNat (0x10000 + (unit - 0xd800) * 0x400 + (low - 0xdc00)), rest)
        else none
    | _ => none
  else if 0xdc00 ≤ unit ∧ unit < 0xe000 then none
  else some (Char.ofNat unit, rest)

/-- The character of an escape, after the backslash. -/
def parseEscape : List Char → Option (Char × List Char)
  | '"' :: rest => some ('"', rest)
  | '\\' :: rest => some ('\\', rest)
  | '/' :: rest => some ('/', rest)
  | 'b' :: rest => some ('\x08', rest)
  | 'f' :: rest => some ('\x0c', rest)
  | 'n' :: rest => some ('\n', rest)
  | 'r' :: rest => some ('\r', rest)
  | 't' :: rest => some ('\t', rest)
  | 'u' :: rest => parseEscapedUnit rest
  | _ => none

/-- A string after its opening quote. Every character takes one unit of fuel. -/
def parseChars : ℕ → List Char → Option (List Char × List Char)
  | 0, _ => none
  | _ + 1, [] => none
  | fuel + 1, c :: rest =>
      if c = '"' then some ([], rest)
      else if c = '\\' then do
        let (c, rest) ← parseEscape rest
        let (text, rest) ← parseChars fuel rest
        some (c :: text, rest)
      else if c < ' ' then none
      else do
        let (text, rest) ← parseChars fuel rest
        some (c :: text, rest)

/-- What follows the word at the front. -/
def dropWord (word text : List Char) : Option (List Char) :=
  if word <+: text then some (text.drop word.length) else none

/-- A word or a number. -/
def parseLiteral (text : List Char) : Option (Json × List Char) :=
  match dropWord ['n', 'u', 'l', 'l'] text with
  | some rest => some (.null, rest)
  | none =>
      match dropWord ['t', 'r', 'u', 'e'] text with
      | some rest => some (.bool true, rest)
      | none =>
          match dropWord ['f', 'a', 'l', 's', 'e'] text with
          | some rest => some (.bool false, rest)
          | none =>
              if h : (text.takeWhile isNumberChar).all isNumberChar = true ∧
                  NumberLiteral.isNumber (text.takeWhile isNumberChar) = true then
                some (.number ⟨text.takeWhile isNumberChar, h.1, h.2⟩,
                  text.dropWhile isNumberChar)
              else none

/-- What follows the token, with whitespace in front of it. -/
def expect (token : Char) (text : List Char) : Option (List Char) :=
  match skipWhitespace text with
  | c :: rest => if c = token then some rest else none
  | [] => none

mutual

/-- A value. The fuel bounds the depth of the calls. -/
def parseValue : ℕ → List Char → Option (Json × List Char)
  | 0, _ => none
  | fuel + 1, text =>
      match expect '"' text with
      | some rest => do
          let (text, rest) ← parseChars rest.length rest
          some (.string text, rest)
      | none =>
          match expect '[' text with
          | some rest => do
              let (items, rest) ← parseArray fuel rest
              some (.array items, rest)
          | none =>
              match expect '\x7b' text with
              | some rest => do
                  let (members, rest) ← parseObject fuel rest
                  some (.object (ofMembers members), rest)
              | none => parseLiteral (skipWhitespace text)

/-- An array after its opening bracket. -/
def parseArray : ℕ → List Char → Option (List Json × List Char)
  | 0, _ => none
  | fuel + 1, text =>
      match expect ']' text with
      | some rest => some ([], rest)
      | none => do
          let (item, rest) ← parseValue fuel text
          let (items, rest) ← parseItems fuel rest
          some (item :: items, rest)

/-- The rest of an array after one of its items. -/
def parseItems : ℕ → List Char → Option (List Json × List Char)
  | 0, _ => none
  | fuel + 1, text =>
      match expect ']' text with
      | some rest => some ([], rest)
      | none => do
          let rest ← expect ',' text
          let (item, rest) ← parseValue fuel rest
          let (items, rest) ← parseItems fuel rest
          some (item :: items, rest)

/-- An object after its opening brace. -/
def parseObject : ℕ → List Char → Option (List (List Char × Json) × List Char)
  | 0, _ => none
  | fuel + 1, text =>
      match expect '\x7d' text with
      | some rest => some ([], rest)
      | none => do
          let (member, rest) ← parseMember fuel text
          let (members, rest) ← parseMembers fuel rest
          some (member :: members, rest)

/-- A member of an object. -/
def parseMember : ℕ → List Char → Option ((List Char × Json) × List Char)
  | 0, _ => none
  | fuel + 1, text => do
      let rest ← expect '"' text
      let (key, rest) ← parseChars rest.length rest
      let rest ← expect ':' rest
      let (value, rest) ← parseValue fuel rest
      some ((key, value), rest)

/-- The rest of an object after one of its members. -/
def parseMembers : ℕ → List Char → Option (List (List Char × Json) × List Char)
  | 0, _ => none
  | fuel + 1, text =>
      match expect '\x7d' text with
      | some rest => some ([], rest)
      | none => do
          let rest ← expect ',' text
          let (member, rest) ← parseMember fuel rest
          let (members, rest) ← parseMembers fuel rest
          some (member :: members, rest)

end

/-- Read a text that is one value with whitespace around it. No two calls in a row read nothing, so
that twice the length of the text is enough fuel. -/
def parse (text : List Char) : Option Json :=
  match parseValue (2 * text.length) text with
  | some (value, rest) => if skipWhitespace rest = [] then some value else none
  | none => none

end Json
