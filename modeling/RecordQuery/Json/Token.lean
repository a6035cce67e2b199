import RecordQuery.Json.Value

/-!
# From tokens to values

Two texts of JSON differ in how they spell their tokens, not in how tokens make up a
value. A reader therefore cuts its text into tokens, and one push-down automaton
builds the value from them (`RecordQuery.Json.Build.ofTokens`). It keeps the
containers that are still open and what has to come next, and refuses the first
token that cannot stand where it does.

A text that cannot be read is either unfinished or malformed
(`RecordQuery.Json.Fault`). A token that is broken carries its own fault, and the
automaton reports it only where a token of that kind was admissible, so that of
several faults the first in reading order decides.
-/

namespace RecordQuery.Json

/-- Why a text is not a JSON value. -/
inductive Fault
  /-- The text ends before the value does. -/
  | unfinished
  /-- Something cannot stand where it does. -/
  | malformed
deriving DecidableEq

/-- A token of a JSON text. -/
inductive Token
  | openArray
  | closeArray
  | openObject
  | closeObject
  | colon
  | comma
  /-- A text in quotation marks: a key or a value. -/
  | text (value : String)
  /-- A literal or number: only a value. -/
  | scalar (value : Value)
  /-- A name without quotation marks: only a key. -/
  | name (value : String)
  /-- A literal spelled like a name: a key, or a value. -/
  | word (name : String) (value : Value)
  /-- A text in quotation marks that cannot be read. -/
  | brokenText (fault : Fault)
  /-- Anything else that cannot be read. -/
  | broken (fault : Fault)

/-- The token of a single mark. -/
def mark? (c : Char) : Option Token :=
  if c = '[' then some .openArray
  else if c = ']' then some .closeArray
  else if c = '\x7b' then some .openObject
  else if c = '\x7d' then some .closeObject
  else if c = ':' then some .colon
  else if c = ',' then some .comma
  else none

/-- Whether a token is broken, so that nothing after it can be read. -/
def Token.isBroken : Token → Bool
  | .brokenText _ => true
  | .broken _ => true
  | _ => false

/-- What the two kinds of JSON text allow differently. -/
structure Grammar where
  /-- Whether a comma may stand before a closing bracket. -/
  trailingComma : Bool
  /-- How many containers may be open at once, if there is a limit. -/
  depth : Option Nat

/-- A container that is still open. -/
inductive Frame
  /-- An array with its items so far, the last one first. -/
  | array (items : List Value)
  /-- An object with its entries so far and the key whose value is to come. -/
  | object (entries : Entries) (key : String)

/-- What has to come next. -/
inductive Expected
  /-- A value. -/
  | value
  /-- The first item of an array, or its end. -/
  | firstItem
  /-- An item of an array, after a comma. -/
  | nextItem
  /-- The first key of an object, or its end. -/
  | firstKey
  /-- A key of an object, after a comma. -/
  | nextKey
  /-- The colon after a key. -/
  | colon
  /-- A comma, or the end of the container. -/
  | separator

/-- A state of the automaton. -/
inductive Build
  /-- A value is being built inside the open containers, the innermost first. -/
  | inside (frames : List Frame) (expected : Expected)
  /-- The value is complete. -/
  | done (value : Value)

namespace Build

/-- Gives a complete value to the innermost container. -/
def complete (value : Value) : List Frame → Build
  | [] => .done value
  | .array items :: frames => .inside (.array (value :: items) :: frames) .separator
  | .object entries key :: frames =>
    .inside (.object (insertEntry key value entries) key :: frames) .separator

/-- Opens a container, if it is not too deep. -/
def push (grammar : Grammar) (frame : Frame) (expected : Expected) (frames : List Frame) :
    Except Fault Build :=
  if grammar.depth.all fun limit => decide (frames.length < limit) then
    .ok (.inside (frame :: frames) expected)
  else .error .malformed

/-- Closes the innermost container, if it is an array. -/
def closeArray : List Frame → Except Fault Build
  | .array items :: frames => .ok (complete (.array items.reverse) frames)
  | _ => .error .malformed

/-- Closes the innermost container, if it is an object. -/
def closeObject : List Frame → Except Fault Build
  | .object entries _ :: frames => .ok (complete (.object entries) frames)
  | _ => .error .malformed

/-- Takes a token where a value is expected. -/
def takeValue (grammar : Grammar) (frames : List Frame) : Token → Except Fault Build
  | .openArray => push grammar (.array []) .firstItem frames
  | .openObject => push grammar (.object [] "") .firstKey frames
  | .text value => .ok (complete (.string value) frames)
  | .scalar value => .ok (complete value frames)
  | .word _ value => .ok (complete value frames)
  | .brokenText fault => .error fault
  | .broken fault => .error fault
  | _ => .error .malformed

/-- Takes a token where a key is expected. -/
def takeKey (frames : List Frame) : Token → Except Fault Build
  | .text key => named key
  | .name key => named key
  | .word key _ => named key
  | .brokenText fault => .error fault
  | _ => .error .malformed
where
  /-- Notes the key of the value to come. -/
  named (key : String) : Except Fault Build :=
    match frames with
    | .object entries _ :: rest => .ok (.inside (.object entries key :: rest) .colon)
    | _ => .error .malformed

/-- Takes a token after a value inside a container. -/
def takeSeparator (frames : List Frame) : Token → Except Fault Build
  | .comma =>
    match frames with
    | .array _ :: _ => .ok (.inside frames .nextItem)
    | .object _ _ :: _ => .ok (.inside frames .nextKey)
    | [] => .error .malformed
  | .closeArray => closeArray frames
  | .closeObject => closeObject frames
  | _ => .error .malformed

/-- Takes one token. -/
def step (grammar : Grammar) : Build → Token → Except Fault Build
  | .done _, _ => .error .malformed
  | .inside frames .value, token => takeValue grammar frames token
  | .inside frames .firstItem, .closeArray => closeArray frames
  | .inside frames .firstItem, token => takeValue grammar frames token
  | .inside frames .nextItem, .closeArray =>
    if grammar.trailingComma then closeArray frames else .error .malformed
  | .inside frames .nextItem, token => takeValue grammar frames token
  | .inside frames .firstKey, .closeObject => closeObject frames
  | .inside frames .firstKey, token => takeKey frames token
  | .inside frames .nextKey, .closeObject =>
    if grammar.trailingComma then closeObject frames else .error .malformed
  | .inside frames .nextKey, token => takeKey frames token
  | .inside frames .colon, .colon => .ok (.inside frames .value)
  | .inside _ .colon, _ => .error .malformed
  | .inside frames .separator, token => takeSeparator frames token

/-- Takes tokens in order, up to the first that is refused. -/
def run (grammar : Grammar) (build : Build) (tokens : List Token) : Except Fault Build :=
  tokens.foldlM (step grammar) build

/-- The value of a complete build. -/
def result : Build → Except Fault Value
  | .done value => .ok value
  | .inside _ _ => .error .unfinished

/-- **The value of a token sequence**: the tokens make up exactly one value. -/
def ofTokens (grammar : Grammar) (tokens : List Token) : Except Fault Value :=
  match run grammar (.inside [] .value) tokens with
  | .ok build => build.result
  | .error fault => .error fault

theorem run_cons (grammar : Grammar) (build : Build) (token : Token) (tokens : List Token) :
    run grammar build (token :: tokens) =
      match step grammar build token with
      | .ok next => run grammar next tokens
      | .error fault => .error fault := by
  rw [run, List.foldlM_cons]
  cases step grammar build token <;> rfl

end Build

end RecordQuery.Json
