import DacBank.Text.Hex
import DacBank.Text.Reader

namespace DacBank.Document.Toml

open Text

/-- Basic strings have escapes, literal strings have none. Long strings stand between three quotes
and may hold line ends; a line end right behind the opening quotes does not count, and up to two
quotes may stand right before the closing ones. -/
inductive Quoting where
  | basic
  | literal
  | longBasic
  | longLiteral
  deriving DecidableEq

/-- Controls that no string may hold as they are. -/
def isCode (c : Char) : Bool :=
  (c < ' ' && c != '\t' && c != '\n') || c == '\x7f'

/-- Whether a character stands three times in a row. -/
def hasTriple (q : Char) : List Char → Bool
  | a :: b :: c :: rest => (a == q && b == q && c == q) || hasTriple q (b :: c :: rest)
  | _ => false

/-- The first kind that needs no escapes but those of tabs, and if none does, a basic string: a long
one if there are several lines. -/
def Quoting.choose (s : List Char) : Quoting :=
  let plain := !s.any isCode
  if plain && !s.contains '\\' && !s.contains '"' && !s.contains '\n' then .basic
  else if plain && !s.contains '\'' && !s.contains '\n' then .literal
  else if plain && !s.contains '\\' && !hasTriple '"' s then .longBasic
  else if plain && !hasTriple '\'' s then .longLiteral
  else if s.contains '\n' then .longBasic
  else .basic

def escapeChar (c : Char) : List Char :=
  match c with
  | '\x08' => ['\\', 'b']
  | '\t' => ['\\', 't']
  | '\n' => ['\\', 'n']
  | '\x0c' => ['\\', 'f']
  | '\r' => ['\\', 'r']
  | '"' => ['\\', '"']
  | '\\' => ['\\', '\\']
  | c => if isCode c then ['\\', 'u'] ++ fourHex upperHex c.toNat else [c]

/-- Line ends stay; of quotes in a row every third is escaped. `quotes` is how many came just
before. -/
def escapeLong (quotes : Nat) : List Char → List Char
  | [] => []
  | c :: rest =>
    if c = '"' then
      if quotes = 2 then '\\' :: '"' :: escapeLong 0 rest else '"' :: escapeLong (quotes + 1) rest
    else if c = '\n' then '\n' :: escapeLong 0 rest
    else escapeChar c ++ escapeLong 0 rest

/-- The line end that opens a long string of several lines. -/
def leadingLine (s : List Char) : List Char :=
  if s.contains '\n' then ['\n'] else []

def triple (q : Char) : List Char :=
  [q, q, q]

def writeText (s : List Char) : List Char :=
  match Quoting.choose s with
  | .basic => '"' :: s.flatMap escapeChar ++ ['"']
  | .literal => '\'' :: s ++ ['\'']
  | .longBasic => triple '"' ++ leadingLine s ++ escapeLong 0 s ++ triple '"'
  | .longLiteral => triple '\'' ++ leadingLine s ++ s ++ triple '\''

/-- Characters that stand for themselves in strings and comments. -/
def isPlain (c : Char) : Bool :=
  c == '\t' || (' ' ≤ c && c != '\x7f')

def simpleEscape? : Char → Option Char
  | 'b' => some '\x08'
  | 't' => some '\t'
  | 'n' => some '\n'
  | 'f' => some '\x0c'
  | 'r' => some '\r'
  | 'e' => some '\x1b'
  | '"' => some '"'
  | '\\' => some '\\'
  | _ => none

/-- The escape behind a backslash. -/
def readEscape (s : List Char) : Option (Char × List Char) :=
  match s with
  | [] => none
  | e :: rest =>
    match simpleEscape? e with
    | some c => some (c, rest)
    | none =>
      if e = 'x' then readHexChar 2 rest
      else if e = 'u' then readHexChar 4 rest
      else if e = 'U' then readHexChar 8 rest
      else none

def readBasicChar (s : List Char) : Option (Char × List Char) :=
  match s with
  | [] => none
  | c :: rest =>
    if c = '\\' then readEscape rest
    else if c ≠ '"' ∧ isPlain c then some (c, rest)
    else none

def readLiteralChar (s : List Char) : Option (Char × List Char) :=
  match s with
  | [] => none
  | c :: rest => if c ≠ '\'' ∧ isPlain c then some (c, rest) else none

/-- Passes over spaces and tabs. -/
def skipBlanks (s : List Char) : List Char :=
  s.dropWhile fun c => c == ' ' || c == '\t'

/-- Takes a line end. -/
def readNewline (s : List Char) : Option (List Char × List Char) :=
  match s with
  | '\n' :: rest => some (['\n'], rest)
  | '\r' :: '\n' :: rest => some (['\r', '\n'], rest)
  | _ => none

/-- Passes over spaces, tabs and line ends. -/
def skipLines : List Char → List Char
  | ' ' :: rest => skipLines rest
  | '\t' :: rest => skipLines rest
  | '\n' :: rest => skipLines rest
  | '\r' :: '\n' :: rest => skipLines rest
  | s => s

/-- The end of a line that is continued behind the blanks of the next ones. -/
def readContinuation (s : List Char) : Option (List Char) :=
  match readNewline (skipBlanks s) with
  | some (_, rest) => some (skipLines rest)
  | none => none

/-- One character, escape or line end of a long string, as the characters that it stands for. -/
def readLongChar (q : Char) (escapes : Bool) (s : List Char) : Option (List Char × List Char) :=
  match s with
  | [] => none
  | c :: rest =>
    if c = '\\' ∧ escapes then
      match readEscape rest with
      | some (e, rest) => some ([e], rest)
      | none => (readContinuation rest).map fun rest => ([], rest)
    else if c = q then
      if rest.take 2 = [q, q] then none else some ([q], rest)
    else if isPlain c then some ([c], rest)
    else readNewline s

/-- The closing quotes of a long string, with up to two that still belong to it. -/
def readClosing (q : Char) (s : List Char) : Option (List Char × List Char) :=
  match s.takeWhile (· == q), s.dropWhile (· == q) with
  | [_, _, _], rest => some ([], rest)
  | [_, _, _, _], rest => some ([q], rest)
  | [_, _, _, _, _], rest => some ([q, q], rest)
  | _, _ => none

def dropNewline (s : List Char) : List Char :=
  match readNewline s with
  | some (_, rest) => rest
  | none => s

def readShort (q : Char) (item : Reader Char) (s : List Char) : Option (String × List Char) :=
  match Reader.many item s with
  | (cs, c :: rest) => if c = q then some (String.ofList cs, rest) else none
  | _ => none

def readLong (q : Char) (escapes : Bool) (s : List Char) : Option (String × List Char) :=
  match Reader.many (readLongChar q escapes) (dropNewline s) with
  | (parts, rest) =>
    match readClosing q rest with
    | some (quotes, rest) => some (String.ofList (parts.flatten ++ quotes), rest)
    | none => none

/-- A string of one line. -/
def readShortText (s : List Char) : Option (String × List Char) :=
  match s with
  | '"' :: rest => readShort '"' readBasicChar rest
  | '\'' :: rest => readShort '\'' readLiteralChar rest
  | _ => none

def readText (s : List Char) : Option (String × List Char) :=
  match s with
  | '"' :: '"' :: '"' :: rest => readLong '"' true rest
  | '\'' :: '\'' :: '\'' :: rest => readLong '\'' false rest
  | s => readShortText s

end DacBank.Document.Toml
