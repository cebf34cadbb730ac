/-
This file cuts script text into tokens.
-/

namespace ScriptHost.Script

/-- A text with holes is a row of pieces and holes between two marks. -/
inductive Token where
  | word (name : String)
  | integer (value : Int64)
  | float (value : Float)
  | quoted (value : String)
  | character (value : Char)
  | symbol (mark : String)
  | textBegins
  | piece (value : String)
  | holeBegins
  | holeEnds
  | textEnds
  deriving Repr, BEq

namespace Token

def isDigit (value : Char) : Bool :=
  '0' ≤ value && value ≤ '9'

def isLetter (value : Char) : Bool :=
  ('a' ≤ value && value ≤ 'z') || ('A' ≤ value && value ≤ 'Z') || value == '_'

def isWordPart (value : Char) : Bool :=
  isLetter value || isDigit value

def isGap (value : Char) : Bool :=
  value == ' ' || value == '\t' || value == '\n' || value == '\r' || value.toNat == 12

/-- Longer marks come before the marks that open them. -/
def marks : List String :=
  ["..=", "==", "!=", "<=", ">=", "&&", "||", "+=", "-=", "*=", "/=", "%=", "..", "#\x7b", "+",
    "-", "*", "/", "%", "=", "<", ">", "!", "(", ")", "\x7b", "\x7d", "[", "]", ";", ",", ".", ":"]

def mark? (text : List Char) : Option (String × List Char) :=
  (marks.find? fun mark => mark.toList.isPrefixOf text).map fun mark =>
    (mark, text.drop mark.toList.length)

/-- Comments nest, and one that is left open reaches to the end of the text. -/
def skipBlock : Nat → List Char → List Char
  | _, [] => []
  | depth, '*' :: '/' :: rest =>
      match depth with
      | 0 => rest
      | depth + 1 => skipBlock depth rest
  | depth, '/' :: '*' :: rest => skipBlock (depth + 1) rest
  | depth, _ :: rest => skipBlock depth rest

def skipLine : List Char → List Char
  | [] => []
  | value :: rest => if value = '\n' then rest else skipLine rest

def digitsValue (digits : List Char) : Nat :=
  digits.foldl (fun value digit => value * 10 + (digit.toNat - 48)) 0

def isFigure (value : Char) : Bool :=
  isDigit value || value == '_'

def figures (text : List Char) : List Char :=
  (text.takeWhile isFigure).filter isDigit

/-- A point belongs to the number unless a range or the name of a method follows it. -/
def readPoint (text : List Char) : Option (List Char × List Char) :=
  match text with
  | '.' :: next :: rest =>
      if isDigit next then some (figures (next :: rest), (next :: rest).dropWhile isFigure)
      else if next == '.' || isLetter next then none
      else some ([], next :: rest)
  | ['.'] => some ([], [])
  | _ => none

def readPower (text : List Char) : Option (Int × List Char) :=
  match text with
  | mark :: rest =>
      if mark == 'e' || mark == 'E' then
        let (negative, unsigned) : Bool × List Char := match rest with
          | '-' :: digits => (true, digits)
          | '+' :: digits => (false, digits)
          | digits => (false, digits)
        if (figures unsigned).isEmpty then none
        else
          let size : Int := digitsValue (figures unsigned)
          some (if negative then -size else size, unsigned.dropWhile isFigure)
      else none
  | [] => none

/-- The value is rounded once, from all digits. -/
def decimal (digits : List Char) (exponent : Int) : Float :=
  if exponent < 0 then Float.ofScientific (digitsValue digits) true exponent.natAbs
  else Float.ofScientific (digitsValue digits) false exponent.natAbs

/-- An integer that does not fit is read as a float. -/
def wholeNumber (digits : List Char) : Token :=
  if digitsValue digits < 0x8000000000000000 then .integer (Int64.ofNat (digitsValue digits))
  else .float (decimal digits 0)

def readNumber (text : List Char) : Token × List Char :=
  let whole := figures text
  let after := text.dropWhile isFigure
  match readPoint after with
  | some (fraction, rest) =>
      let (power, rest) := (readPower rest).getD (0, rest)
      (.float (decimal (whole ++ fraction) (power - fraction.length)), rest)
  | none =>
      match readPower after with
      | some (power, rest) => (.float (decimal whole power), rest)
      | none => (wholeNumber whole, after)

def hexValue? (value : Char) : Option Nat :=
  if isDigit value then some (value.toNat - 48)
  else if 'a' ≤ value ∧ value ≤ 'f' then some (value.toNat - 87)
  else if 'A' ≤ value ∧ value ≤ 'F' then some (value.toNat - 55)
  else none

def hexValues? (digits : List Char) : Option Nat :=
  digits.foldl (fun value digit => do return (← value) * 16 + (← hexValue? digit)) (some 0)

/-- A number that is no character is refused. -/
def scalar? (digits : List Char) (width : Nat) : Option Char := do
  let code ← if digits.length = width then hexValues? digits else none
  if code.isValidChar then some (Char.ofNat code) else none

def readEscape : List Char → Option (Char × List Char)
  | 'n' :: rest => some ('\n', rest)
  | 't' :: rest => some ('\t', rest)
  | 'r' :: rest => some ('\r', rest)
  | '\\' :: rest => some ('\\', rest)
  | '"' :: rest => some ('"', rest)
  | '\'' :: rest => some ('\'', rest)
  | 'x' :: rest => (scalar? (rest.take 2) 2).map fun value => (value, rest.drop 2)
  | 'u' :: rest => (scalar? (rest.take 4) 4).map fun value => (value, rest.drop 4)
  | 'U' :: rest => (scalar? (rest.take 8) 8).map fun value => (value, rest.drop 8)
  | _ => none

/-- A quoted text ends at its quote and may not cross a line. -/
def readQuoted (quote : Char) : Nat → List Char → Option (List Char × List Char)
  | 0, _ => none
  | _ + 1, [] => none
  | fuel + 1, value :: rest =>
      if value = quote then some ([], rest)
      else if value = '\n' then none
      else if value = '\\' then
        match readEscape rest with
        | none => none
        | some (meant, rest) =>
            (readQuoted quote fuel rest).map fun (text, rest) => (meant :: text, rest)
      else (readQuoted quote fuel rest).map fun (text, rest) => (value :: text, rest)

def backtick : Char := Char.ofNat 96

inductive PieceEnd where
  | closing
  | hole
  deriving DecidableEq

/-- Nothing is escaped here but the backtick, which is written twice. -/
def readPiece : List Char → Option (List Char × PieceEnd × List Char)
  | [] => none
  | '$' :: '\x7b' :: rest => some ([], .hole, rest)
  | value :: next :: rest =>
      if value = backtick then
        if next = backtick then
          (readPiece rest).map fun (text, stop, rest) => (backtick :: text, stop, rest)
        else some ([], .closing, next :: rest)
      else (readPiece (next :: rest)).map fun (text, stop, rest) => (value :: text, stop, rest)
  | [value] => if value = backtick then some ([], .closing, []) else none

/-- A line break right after the opening mark is not part of the text. -/
def dropFirstBreak : List Char → List Char
  | '\n' :: rest => rest
  | '\r' :: '\n' :: rest => rest
  | text => text

def pieceTokens (text : List Char) (stop : PieceEnd) : List Token :=
  .piece (String.ofList text) :: (if stop = .hole then [.holeBegins] else [.textEnds])

def depthAfter (mark : String) (depth : Nat) : Nat :=
  if mark = "\x7b" ∨ mark = "#\x7b" then depth + 1
  else if mark = "\x7d" then depth - 1
  else depth

/-- The second argument counts the open braces in each hole that is being read. -/
def scan : Nat → List Nat → List Char → Option (List Token)
  | 0, _, _ => none
  | fuel + 1, holes, text =>
      match text with
      | [] => if holes.isEmpty then some [] else none
      | '/' :: '/' :: rest => scan fuel holes (skipLine rest)
      | '/' :: '*' :: rest => scan fuel holes (skipBlock 0 rest)
      | '"' :: rest =>
          match readQuoted '"' fuel rest with
          | none => none
          | some (text, rest) => (scan fuel holes rest).map (.quoted (String.ofList text) :: ·)
      | '\'' :: rest =>
          match readQuoted '\'' fuel rest with
          | some ([value], rest) => (scan fuel holes rest).map (.character value :: ·)
          | _ => none
      | value :: rest =>
          if isGap value then scan fuel holes rest
          else if isDigit value then
            let (token, rest) := readNumber text
            (scan fuel holes rest).map (token :: ·)
          else if isLetter value then
            (scan fuel holes (text.dropWhile isWordPart)).map
              (.word (String.ofList (text.takeWhile isWordPart)) :: ·)
          else if value = backtick then
            match readPiece (dropFirstBreak rest) with
            | none => none
            | some (body, stop, rest) =>
                (scan fuel (if stop = .hole then 0 :: holes else holes) rest).map fun tokens =>
                  .textBegins :: pieceTokens body stop ++ tokens
          else
            match value, holes with
            | '\x7d', 0 :: outer =>
                match readPiece rest with
                | none => none
                | some (body, stop, rest) =>
                    (scan fuel (if stop = .hole then 0 :: outer else outer) rest).map fun tokens =>
                      .holeEnds :: pieceTokens body stop ++ tokens
            | _, _ =>
                match mark? text with
                | none => none
                | some (mark, rest) =>
                    let holes := match holes with
                      | [] => []
                      | depth :: outer => depthAfter mark depth :: outer
                    (scan fuel holes rest).map (.symbol mark :: ·)

end Token

def tokens? (text : List Char) : Option (List Token) :=
  Token.scan (text.length + 1) [] text

end ScriptHost.Script
