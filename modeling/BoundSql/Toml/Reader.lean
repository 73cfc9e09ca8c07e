import BoundSql.Json.Reader
import BoundSql.Toml.Scalar

/-! TOML documents read line by line; values nest, and keys have parts, up to eighty deep. -/

namespace BoundSql.Toml

def nestingLimit : Nat := 80

def isTab (c : Char) : Bool := c == ' ' || c == '\t'

def skipTabs (cs : List Char) : List Char := cs.dropWhile isTab

def isControl (c : Char) : Bool := (c.toNat < 0x20 && c != '\t') || c.toNat == 0x7F

def newline? : List Char → Option (List Char)
  | '\n' :: rest => some rest
  | '\r' :: '\n' :: rest => some rest
  | _ => none

def skipComment : List Char → Option (List Char)
  | '#' :: rest =>
    let text := rest.takeWhile (fun c => c != '\n' && c != '\r')
    if text.any isControl then none else some (rest.drop text.length)
  | cs => some cs

def skipLines : (fuel : Nat) → List Char → Option (List Char)
  | 0, cs => some cs
  | fuel + 1, cs =>
    match skipComment (skipTabs cs) with
    | none => none
    | some rest =>
      match newline? rest with
      | some rest => skipLines fuel rest
      | none => some rest

def endLine (cs : List Char) : Option (List Char) := do
  let rest ← skipComment (skipTabs cs)
  if rest.isEmpty then some [] else newline? rest

def hexChar? (width : Nat) (cs : List Char) : Option (Char × List Char) :=
  let digits := cs.take width
  let n := valueInBase 16 digits
  if digits.length = width && digits.all isHexDigit && (n < 0xD800 || (0xE000 ≤ n && n < 0x110000)) then
    some (Char.ofNat n, cs.drop width)
  else none

def escape? : List Char → Option (Char × List Char)
  | 'b' :: rest => some ('\x08', rest)
  | 't' :: rest => some ('\t', rest)
  | 'n' :: rest => some ('\n', rest)
  | 'f' :: rest => some ('\x0c', rest)
  | 'r' :: rest => some ('\r', rest)
  | 'e' :: rest => some ('\x1b', rest)
  | '"' :: rest => some ('"', rest)
  | '\\' :: rest => some ('\\', rest)
  | 'x' :: rest => hexChar? 2 rest
  | 'u' :: rest => hexChar? 4 rest
  | 'U' :: rest => hexChar? 8 rest
  | _ => none

/-- The end of a text in three quotes: up to two quotes belong to the text before it. -/
def tripleEnd (quote : Char) (cs : List Char) : Option (List Char × List Char) :=
  let run := (cs.takeWhile (· == quote)).length
  if run < 3 then none
  else
    let inside := min (run - 3) 2
    some (List.replicate inside quote, cs.drop (inside + 3))

def skipBlankLines : (fuel : Nat) → List Char → List Char
  | 0, cs => cs
  | fuel + 1, cs =>
    match newline? (skipTabs cs) with
    | some rest => skipBlankLines fuel rest
    | none => skipTabs cs

/-- Drop what a backslash at the end of a line joins: the rest of the line, and the blanks and ends of
lines after it. -/
def skipContinuation (cs : List Char) : Option (List Char) :=
  (newline? (skipTabs cs)).map fun rest => skipBlankLines (rest.length + 1) rest

/-- A text up to its closing quote. `escapes` says whether a backslash is one, `lines` whether the text
is in three quotes and may have several lines, whose ends stay as they are. What has been read is given
in reverse. -/
def readText (quote : Char) (escapes lines : Bool) :
    (fuel : Nat) → (before : List Char) → List Char → Option (String × List Char)
  | 0, _, _ => none
  | fuel + 1, before, cs =>
    match if lines then tripleEnd quote cs else none with
    | some (inside, rest) => some (String.ofList (before.reverse ++ inside), rest)
    | none =>
      match cs with
      | [] => none
      | c :: rest =>
        if c == quote && !lines then some (String.ofList before.reverse, rest)
        else if c == '\\' && escapes then
          match if lines then skipContinuation rest else none with
          | some rest => readText quote escapes lines fuel before rest
          | none =>
            match escape? rest with
            | none => none
            | some (x, rest) => readText quote escapes lines fuel (x :: before) rest
        else if isControl c && !(lines && (newline? cs).isSome) then none
        else readText quote escapes lines fuel (c :: before) rest

def quotedText? (multiline : Bool) (cs : List Char) : Option (String × List Char) :=
  let fuel := cs.length + 1
  match cs with
  | q :: rest =>
    if q != '"' && q != '\'' then none
    else
      match rest with
      | r :: s :: rest' =>
        if r == q && s == q then
          if multiline then readText q (q == '"') true fuel [] ((newline? rest').getD rest') else none
        else readText q (q == '"') false fuel [] rest
      | _ => readText q (q == '"') false fuel [] rest
  | [] => none

def isBareKey (c : Char) : Bool := c.isAlphanum || c == '_' || c == '-'

def readKeyPart (cs : List Char) : Option (String × List Char) :=
  match cs with
  | [] => none
  | c :: rest =>
    if c == '"' || c == '\'' then
      match rest with
      | d :: rest' =>
        if d == c then (if rest'.head? == some c then none else some ("", rest')) else quotedText? false cs
      | [] => none
    else
      let bare := cs.takeWhile isBareKey
      if bare.isEmpty then none else some (String.ofList bare, cs.drop bare.length)

def readParts : (limit : Nat) → List Char → Option (List String × List Char)
  | 0, _ => none
  | limit + 1, cs => do
    let (part, rest) ← readKeyPart (skipTabs cs)
    match skipTabs rest with
    | '.' :: rest =>
      let (parts, rest) ← readParts limit rest
      return (part :: parts, rest)
    | rest => return ([part], rest)

def readKey (cs : List Char) : Option (List String × List Char) := readParts nestingLimit cs

def splitKey (parts : List String) : List String × String := (parts.dropLast, parts.getLast?.getD "")

def endsWord (c : Char) : Bool :=
  isTab c || c == '\n' || c == '\r' || c == ',' || c == ']' || c == '}' || c == '#'

def readWord (cs : List Char) : List Char × List Char :=
  let word := cs.takeWhile (!endsWord ·)
  let rest := cs.drop word.length
  match rest with
  | ' ' :: d :: more =>
    if date? word == some [] && d.isDigit then
      let time := (d :: more).takeWhile (!endsWord ·)
      (word ++ ' ' :: time, (d :: more).drop time.length)
    else (word, rest)
  | _ => (word, rest)

def readAssigned (cs : List Char) : Option (List String × List Char) := do
  let (parts, rest) ← readKey cs
  let '=' :: rest ← skipLines rest.length rest | none
  return (parts, ← skipLines rest.length rest)

mutual

def readValue : (fuel depth : Nat) → List Char → Option (Toml × List Char)
  | 0, _, _ => none
  | fuel + 1, depth, cs =>
    match cs with
    | [] => none
    | c :: rest =>
      if c == '"' || c == '\'' then
        match rest with
        | d :: e :: _ =>
          if d == c && e != c then some (string "", rest.drop 1)
          else (quotedText? true cs).map fun (s, rest) => (string s, rest)
        | [d] => if d == c then some (string "", []) else none
        | [] => none
      else if c == '[' then
        match depth with
        | 0 => none
        | depth + 1 => (readItems fuel depth rest).map fun (items, rest) => (array false items, rest)
      else if c == '{' then
        match depth with
        | 0 => none
        | depth + 1 => readFields fuel depth (table .inline []) rest
      else
        let (word, rest) := readWord cs
        (scalar? word).map fun v => (v, rest)

def readItems : (fuel depth : Nat) → List Char → Option (List Toml × List Char)
  | 0, _, _ => none
  | fuel + 1, depth, cs =>
    match skipLines cs.length cs with
    | none => none
    | some (']' :: rest) => some ([], rest)
    | some cs =>
      match readValue fuel depth cs with
      | none => none
      | some (item, rest) =>
        match skipLines rest.length rest with
        | some (']' :: rest) => some ([item], rest)
        | some (',' :: rest) =>
          (readItems fuel depth rest).map fun (items, rest) => (item :: items, rest)
        | _ => none

/-- Fields up to the closing brace, added to those read before; a comma may stand after the last, and
lines may end on both sides of a comma and of an equals sign. -/
def readFields : (fuel depth : Nat) → Toml → List Char → Option (Toml × List Char)
  | 0, _, _, _ => none
  | fuel + 1, depth, before, cs =>
    match skipLines cs.length cs with
    | none => none
    | some ('}' :: rest) => some (before, rest)
    | some cs =>
      match readAssigned cs with
      | none => none
      | some (parts, rest) =>
        match readValue fuel depth rest with
        | none => none
        | some (value, rest) =>
          let (path, key) := splitKey parts
          match insert path key value before with
          | none => none
          | some fields =>
            match skipLines rest.length rest with
            | some ('}' :: rest) => some (fields, rest)
            | some (',' :: rest) => readFields fuel depth fields rest
            | _ => none

end

def readHeader (closing : List Char) (cs : List Char) : Option (List String × List Char) := do
  let (parts, rest) ← readKey cs
  let rest ← Json.dropWord? closing rest
  return (parts, rest)

def readLines : (fuel : Nat) → (header : List String) → Toml → List Char → Option Toml
  | 0, _, _, _ => none
  | fuel + 1, header, document, cs =>
    match skipLines cs.length cs with
    | none => none
    | some [] => some document
    | some ('[' :: '[' :: rest) => do
      let (parts, rest) ← readHeader "]]".toList rest
      let (path, key) := splitKey parts
      let document ← openItem path key document
      readLines fuel parts document (← endLine rest)
    | some ('[' :: rest) => do
      let (parts, rest) ← readHeader "]".toList rest
      let (path, key) := splitKey parts
      let document ← openTable path key document
      readLines fuel parts document (← endLine rest)
    | some cs => do
      let (parts, rest) ← readKey cs
      let '=' :: rest := rest | none
      let (value, rest) ← readValue (2 * rest.length + 2) nestingLimit (skipTabs rest)
      let (path, key) := splitKey parts
      let document ← under header (insert path key value) document
      readLines fuel header document (← endLine rest)

def ofText? (s : String) : Option Toml :=
  let cs := s.toList
  let cs := if cs.head? == some '\ufeff' then cs.drop 1 else cs
  readLines (cs.length + 1) [] (table .header []) cs

end BoundSql.Toml
