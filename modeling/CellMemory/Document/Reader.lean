import CellMemory.Document.Value

/-! Reading a document from its text. Only strict JSON is accepted: no comments, no trailing commas,
no byte order mark, and blanks alone after the value. -/

namespace CellMemory.Document

namespace Reader

abbrev Step (α : Type) := Option (α × List Char)

def isBlank (c : Char) : Bool := c == ' ' || c == '\t' || c == '\n' || c == '\r'

def skipBlanks (source : List Char) : List Char := source.dropWhile isBlank

def digitValue (c : Char) : Nat := c.toNat - '0'.toNat

def digits (source : List Char) : List Nat × List Char :=
  ((source.takeWhile Char.isDigit).map digitValue, source.dropWhile Char.isDigit)

def someDigits (source : List Char) : Step (List Nat) :=
  match digits source with
  | ([], _) => none
  | found => some found

def whole (source : List Char) : Step (List Nat) :=
  match digits source with
  | ([], _) => none
  | (0 :: _ :: _, _) => none
  | found => some found

def fraction : List Char → Step (Option (List Nat))
  | '.' :: source => (someDigits source).map fun (found, rest) => (some found, rest)
  | source => some (none, source)

def exponentDigits (negative : Bool) (source : List Char) : Step (Option Exponent) :=
  (someDigits source).map fun (found, rest) => (some ⟨negative, found⟩, rest)

def exponentSigned : List Char → Step (Option Exponent)
  | '-' :: source => exponentDigits true source
  | '+' :: source => exponentDigits false source
  | source => exponentDigits false source

def exponent : List Char → Step (Option Exponent)
  | 'e' :: source => exponentSigned source
  | 'E' :: source => exponentSigned source
  | source => some (none, source)

def unsigned (negative : Bool) (source : List Char) : Step Value :=
  match whole source with
  | none => none
  | some (whole, source) =>
    match fraction source with
    | none => none
    | some (fraction, source) =>
      match exponent source with
      | none => none
      | some (exponent, source) => some (.number ⟨negative, whole, fraction, exponent⟩, source)

def number : List Char → Step Value
  | '-' :: source => unsigned true source
  | source => unsigned false source

def hexDigit? (c : Char) : Option Nat :=
  if c.isDigit then some (digitValue c)
  else if 'a' ≤ c ∧ c ≤ 'f' then some (c.toNat - 'a'.toNat + 10)
  else if 'A' ≤ c ∧ c ≤ 'F' then some (c.toNat - 'A'.toNat + 10)
  else none

def unit? (a b c d : Char) : Option Nat :=
  match hexDigit? a, hexDigit? b, hexDigit? c, hexDigit? d with
  | some a, some b, some c, some d => some (((a * 16 + b) * 16 + c) * 16 + d)
  | _, _, _, _ => none

def isHighSurrogate (unit : Nat) : Bool := 0xd800 ≤ unit && unit < 0xdc00

def isLowSurrogate (unit : Nat) : Bool := 0xdc00 ≤ unit && unit < 0xe000

def pair (high low : Nat) : Char := Char.ofNat ((high - 0xd800) * 0x400 + (low - 0xdc00) + 0x10000)

def escape? : Char → Option Char
  | '"' => some '"'
  | '\\' => some '\\'
  | '/' => some '/'
  | 'b' => some '\x08'
  | 'f' => some '\x0c'
  | 'n' => some '\n'
  | 'r' => some '\r'
  | 't' => some '\t'
  | _ => none

inductive Piece where
  | plain (c : Char)
  | unit (value : Nat)

def pieces (read : List Piece) : List Char → Step (List Piece)
  | [] => none
  | '"' :: source => some (read.reverse, source)
  | '\\' :: 'u' :: a :: b :: c :: d :: source =>
    match unit? a b c d with
    | none => none
    | some unit => pieces (.unit unit :: read) source
  | '\\' :: c :: source =>
    match escape? c with
    | none => none
    | some c => pieces (.plain c :: read) source
  | c :: source => if c.toNat < 0x20 then none else pieces (.plain c :: read) source

/-- The characters of a string. A surrogate that is not one of a pair stands for none. -/
def compose : List Piece → Option (List Char)
  | [] => some []
  | .plain c :: rest => (compose rest).map (c :: ·)
  | .unit high :: .unit low :: rest =>
    if isHighSurrogate high && isLowSurrogate low then (compose rest).map (pair high low :: ·)
    else if isHighSurrogate high || isLowSurrogate high then none
    else (compose (.unit low :: rest)).map (Char.ofNat high :: ·)
  | .unit unit :: rest =>
    if isHighSurrogate unit || isLowSurrogate unit then none
    else (compose rest).map (Char.ofNat unit :: ·)

def quoted (source : List Char) : Step (Option String) :=
  (pieces [] source).map fun (read, rest) => ((compose read).map String.ofList, rest)

mutual

/-- A value behind any blanks. Each call takes a character or follows one that did, so twice the
length of the text is fuel enough. -/
def value (fuel : Nat) (source : List Char) : Step Value :=
  match fuel with
  | 0 => none
  | fuel + 1 =>
    match skipBlanks source with
    | 'n' :: 'u' :: 'l' :: 'l' :: source => some (.null, source)
    | 't' :: 'r' :: 'u' :: 'e' :: source => some (.bool true, source)
    | 'f' :: 'a' :: 'l' :: 's' :: 'e' :: source => some (.bool false, source)
    | '"' :: source =>
      (quoted source).map fun (content, rest) => (.text content, rest)
    | '[' :: source =>
      match skipBlanks source with
      | ']' :: source => some (.array [], source)
      | source => items fuel [] source
    | '\x7b' :: source =>
      match skipBlanks source with
      | '\x7d' :: source => some (.object [], source)
      | source => members fuel [] source
    | source => number source

def items (fuel : Nat) (read : List Value) (source : List Char) : Step Value :=
  match fuel with
  | 0 => none
  | fuel + 1 =>
    match value fuel source with
    | none => none
    | some (item, source) =>
      match skipBlanks source with
      | ',' :: source => items fuel (item :: read) source
      | ']' :: source => some (.array (item :: read).reverse, source)
      | _ => none

def members (fuel : Nat) (read : List (Option String × Value)) (source : List Char) :
    Step Value :=
  match fuel with
  | 0 => none
  | fuel + 1 =>
    match skipBlanks source with
    | '"' :: source =>
      match quoted source with
      | none => none
      | some (name, source) =>
        match skipBlanks source with
        | ':' :: source =>
          match value fuel source with
          | none => none
          | some (content, source) =>
            match skipBlanks source with
            | ',' :: source => members fuel ((name, content) :: read) source
            | '\x7d' :: source => some (.object ((name, content) :: read).reverse, source)
            | _ => none
        | _ => none
    | _ => none

end

end Reader

def read (text : String) : Option Value :=
  let source := text.toList
  match Reader.value (2 * source.length + 2) source with
  | none => none
  | some (value, rest) => if (Reader.skipBlanks rest).isEmpty then some value else none

end CellMemory.Document
