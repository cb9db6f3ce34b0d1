import ScalarCall.Json.Token

/-!
JSON values and how they are read from tokens: a machine with a stack of the arrays and objects
that are still open. Nothing limits the depth of a value. Also the quoting of strings.
-/

namespace ScalarCall.Json

/-- A JSON value. Numbers and strings are kept as written, the members of an object in order,
repeated names included. -/
inductive Value
  | null
  | bool (b : Bool)
  | number (spelling : List Char)
  | string (items : List Item)
  | array (elements : List Value)
  | object (members : List (List Item × Value))

/-- An open array, or an open object whose last name waits for its value; read parts are in
reverse. -/
inductive Frame
  | array (elements : List Value)
  | object (members : List (List Item × Value)) (name : List Item)

/-- What is due: a value (or the end of an empty array), a name (or the end of an empty object), the
colon after a name, or what follows a complete value. -/
inductive Due
  | value (mayClose : Bool)
  | name (mayClose : Bool) (members : List (List Item × Value))
  | colon (name : List Item) (members : List (List Item × Value))
  | after (v : Value)

/-- The reading machine: the open arrays and objects, the innermost first, and what is due. -/
structure Reading where
  frames : List Frame
  due : Due

namespace Reading

def start : Reading := ⟨[], .value false⟩

def stepValue (frames : List Frame) (mayClose : Bool) : Token → Option Reading
  | .null => some ⟨frames, .after .null⟩
  | .true => some ⟨frames, .after (.bool true)⟩
  | .false => some ⟨frames, .after (.bool false)⟩
  | .number spelling => some ⟨frames, .after (.number spelling)⟩
  | .string items => some ⟨frames, .after (.string items)⟩
  | .leftBracket => some ⟨.array [] :: frames, .value true⟩
  | .leftBrace => some ⟨frames, .name true []⟩
  | .rightBracket =>
    match mayClose, frames with
    | true, .array elements :: frames => some ⟨frames, .after (.array elements.reverse)⟩
    | _, _ => none
  | _ => none

def stepName (frames : List Frame) (mayClose : Bool) (members : List (List Item × Value)) :
    Token → Option Reading
  | .string name => some ⟨frames, .colon name members⟩
  | .rightBrace =>
    if mayClose then some ⟨frames, .after (.object members.reverse)⟩ else none
  | _ => none

def stepAfter (frames : List Frame) (v : Value) (t : Token) : Option Reading :=
  match t, frames with
  | .comma, .array elements :: frames => some ⟨.array (v :: elements) :: frames, .value false⟩
  | .comma, .object members name :: frames => some ⟨frames, .name false ((name, v) :: members)⟩
  | .rightBracket, .array elements :: frames =>
    some ⟨frames, .after (.array (v :: elements).reverse)⟩
  | .rightBrace, .object members name :: frames =>
    some ⟨frames, .after (.object ((name, v) :: members).reverse)⟩
  | _, _ => none

def step (r : Reading) (t : Token) : Option Reading :=
  match r.due with
  | .value mayClose => stepValue r.frames mayClose t
  | .name mayClose members => stepName r.frames mayClose members t
  | .colon name members =>
    if t = .colon then some ⟨.object members name :: r.frames, .value false⟩ else none
  | .after v => stepAfter r.frames v t

def run (r : Reading) : List Token → Option Reading
  | [] => some r
  | t :: ts =>
    match r.step t with
    | some r => r.run ts
    | none => none

def finish (r : Reading) : Option Value :=
  match r with
  | ⟨[], .after v⟩ => some v
  | _ => none

end Reading

/-- The value that a text spells, with nothing but white space around it. -/
def parse? (text : String) : Option Value :=
  (tokens? text.toList).bind fun ts => (Reading.start.run ts).bind Reading.finish

/-! ### Strings -/

def isHigh (u : Nat) : Bool := 0xD800 ≤ u && u < 0xDC00

def isLow (u : Nat) : Bool := 0xDC00 ≤ u && u < 0xE000

/-- The characters of a string; none if half a pair stands alone. -/
def chars? : List Item → Option (List Char)
  | [] => some []
  | .char c :: rest => (chars? rest).map (c :: ·)
  | .unit h :: .unit l :: rest =>
    if isHigh h && isLow l then
      (chars? rest).map (Char.ofNat (0x10000 + (h - 0xD800) * 0x400 + (l - 0xDC00)) :: ·)
    else if isHigh h || isLow h then none
    else (chars? (.unit l :: rest)).map (Char.ofNat h :: ·)
  | .unit u :: rest =>
    if isHigh u || isLow u then none else (chars? rest).map (Char.ofNat u :: ·)

/-- The text of a string; none if half a pair stands alone. -/
def text? (items : List Item) : Option String := (chars? items).map .ofList

def shortEscape? (c : Char) : Option Char :=
  if c = '"' then some '"'
  else if c = '\\' then some '\\'
  else if c = '\x08' then some 'b'
  else if c = '\x0c' then some 'f'
  else if c = '\n' then some 'n'
  else if c = '\r' then some 'r'
  else if c = '\t' then some 't'
  else none

/-- Quotes, backslashes and control characters are escaped; every other character stands for
itself. -/
def quoteChar (c : Char) : List Char :=
  match shortEscape? c with
  | some e => ['\\', e]
  | none =>
    if c.toNat < 0x20 then
      ['\\', 'u', '0', '0', Nat.digitChar (c.toNat / 16), Nat.digitChar (c.toNat % 16)]
    else [c]

def quote (s : String) : List Char := '"' :: (s.toList.flatMap quoteChar ++ ['"'])

end ScalarCall.Json
