/-!
The tokens of a JSON text. A machine reads one character at a time; at the end of the text it holds
all tokens or has refused. White space is the space, the tab and the two line ends.
-/

namespace ScalarCall.Json

/-- A part of a string as written: a character, or a UTF-16 unit given by number. -/
inductive Item
  | char (c : Char)
  | unit (value : Nat)
deriving DecidableEq

/-- The parts between which white space may stand. A number is kept as it is spelled. -/
inductive Token
  | leftBrace | rightBrace | leftBracket | rightBracket | comma | colon
  | null | true | false
  | number (spelling : List Char)
  | string (items : List Item)
deriving DecidableEq

/-- How far a number has been read: its sign, a leading zero, an integer part, the point, places
after it, the exponent mark, the exponent's sign, the exponent. -/
inductive NumberPart
  | sign | zero | whole | point | places | mark | markSign | exponent
deriving DecidableEq

/-- What the machine is inside of; texts read so far are in reverse. -/
inductive Inside
  | nothing
  | word (rest : List Char) (token : Token)
  | number (part : NumberPart) (spelling : List Char)
  | string (items : List Item)
  | escape (items : List Item)
  | unit (digits value : Nat) (items : List Item)
deriving DecidableEq

/-- The machine: the tokens so far, the last one first, and what it is inside of. -/
structure Scan where
  tokens : List Token
  inside : Inside
deriving DecidableEq

def isSpace (c : Char) : Bool := c = ' ' || c = '\t' || c = '\n' || c = '\r'

/-- A digit continues a number in every part but after a leading zero. -/
def NumberPart.afterDigit? (c : Char) : NumberPart → Option NumberPart
  | sign => some (if c = '0' then zero else whole)
  | zero => none
  | whole => some whole
  | point | places => some places
  | mark | markSign | exponent => some exponent

/-- The part of a number that a character leads to, if the number goes on with it. -/
def NumberPart.next? (p : NumberPart) (c : Char) : Option NumberPart :=
  if c.isDigit then p.afterDigit? c
  else match p with
    | zero | whole =>
      if c = '.' then some point else if c = 'e' || c = 'E' then some mark else none
    | places => if c = 'e' || c = 'E' then some mark else none
    | mark => if c = '+' || c = '-' then some markSign else none
    | _ => none

def NumberPart.complete : NumberPart → Bool
  | zero | whole | places | exponent => true
  | sign | point | mark | markSign => false

def unescape? (c : Char) : Option Char :=
  if c = '"' then some '"'
  else if c = '\\' then some '\\'
  else if c = '/' then some '/'
  else if c = 'b' then some '\x08'
  else if c = 'f' then some '\x0c'
  else if c = 'n' then some '\n'
  else if c = 'r' then some '\r'
  else if c = 't' then some '\t'
  else none

def hexValue? (c : Char) : Option Nat :=
  if c.isDigit then some (c.toNat - 48)
  else if 'a' ≤ c && c ≤ 'f' then some (c.toNat - 87)
  else if 'A' ≤ c && c ≤ 'F' then some (c.toNat - 55)
  else none

namespace Scan

def start : Scan := ⟨[], .nothing⟩

def add (tokens : List Token) (t : Token) : Option Scan := some ⟨t :: tokens, .nothing⟩

def stepNothing (tokens : List Token) (c : Char) : Option Scan :=
  if isSpace c then some ⟨tokens, .nothing⟩
  else if c = '\x7b' then add tokens .leftBrace
  else if c = '\x7d' then add tokens .rightBrace
  else if c = '[' then add tokens .leftBracket
  else if c = ']' then add tokens .rightBracket
  else if c = ',' then add tokens .comma
  else if c = ':' then add tokens .colon
  else if c = '"' then some ⟨tokens, .string []⟩
  else if c = 'n' then some ⟨tokens, .word ['u', 'l', 'l'] .null⟩
  else if c = 't' then some ⟨tokens, .word ['r', 'u', 'e'] .true⟩
  else if c = 'f' then some ⟨tokens, .word ['a', 'l', 's', 'e'] .false⟩
  else if c = '-' then some ⟨tokens, .number .sign [c]⟩
  else if c = '0' then some ⟨tokens, .number .zero [c]⟩
  else if c.isDigit then some ⟨tokens, .number .whole [c]⟩
  else none

/-- A character of a string: it closes it, starts an escape, or stands for itself. -/
def stepString (tokens : List Token) (items : List Item) (c : Char) : Option Scan :=
  if c = '"' then add tokens (.string items.reverse)
  else if c = '\\' then some ⟨tokens, .escape items⟩
  else if c.toNat < 0x20 then none
  else some ⟨tokens, .string (.char c :: items)⟩

def stepEscape (tokens : List Token) (items : List Item) (c : Char) : Option Scan :=
  if c = 'u' then some ⟨tokens, .unit 0 0 items⟩
  else (unescape? c).map fun d => ⟨tokens, .string (.char d :: items)⟩

/-- A digit of a numbered unit; there are four. -/
def stepUnit (tokens : List Token) (digits value : Nat) (items : List Item) (c : Char) :
    Option Scan :=
  (hexValue? c).map fun h =>
    if digits = 3 then ⟨tokens, .string (.unit (16 * value + h) :: items)⟩
    else ⟨tokens, .unit (digits + 1) (16 * value + h) items⟩

/-- A character after a number has begun: it continues the number or ends it. -/
def stepNumber (tokens : List Token) (part : NumberPart) (spelling : List Char) (c : Char) :
    Option Scan :=
  match part.next? c with
  | some p => some ⟨tokens, .number p (c :: spelling)⟩
  | none =>
    if part.complete then stepNothing (.number spelling.reverse :: tokens) c else none

/-- A character of one of the three words. -/
def stepWord (tokens : List Token) (rest : List Char) (token : Token) (c : Char) : Option Scan :=
  match rest with
  | [] => none
  | [d] => if c = d then add tokens token else none
  | d :: rest => if c = d then some ⟨tokens, .word rest token⟩ else none

def step (s : Scan) (c : Char) : Option Scan :=
  match s.inside with
  | .nothing => stepNothing s.tokens c
  | .word rest token => stepWord s.tokens rest token c
  | .number part spelling => stepNumber s.tokens part spelling c
  | .string items => stepString s.tokens items c
  | .escape items => stepEscape s.tokens items c
  | .unit digits value items => stepUnit s.tokens digits value items c

def run (s : Scan) : List Char → Option Scan
  | [] => some s
  | c :: cs =>
    match s.step c with
    | some t => t.run cs
    | none => none

def finish (s : Scan) : Option (List Token) :=
  match s.inside with
  | .nothing => some s.tokens.reverse
  | .number part spelling =>
    if part.complete then some (.number spelling.reverse :: s.tokens).reverse else none
  | _ => none

theorem run_append (s : Scan) (cs ds : List Char) :
    s.run (cs ++ ds) = (s.run cs).bind (·.run ds) := by
  induction cs generalizing s with
  | nil => rfl
  | cons c cs ih =>
    simp only [List.cons_append, run]
    split
    · exact ih _
    · rfl

end Scan

/-- The tokens of a text, if it is made of tokens and white space. -/
def tokens? (cs : List Char) : Option (List Token) :=
  (Scan.start.run cs).bind Scan.finish

end ScalarCall.Json
