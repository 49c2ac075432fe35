import DocFilter.Query.Failure
import DocFilter.Query.Node
import DocFilter.Token.Stream

/-!
Queries are read token by token, by a machine whose state is what has been read of the function
around the next token and of the functions around that one.

    expression → literal
               | relational operator '(' identifier ',' literal ')'
               | logical operator '(' expression ',' expression (',' expression)* ')'

A token is taken when the one after it has been scanned: a stray character there is reported
before a literal that has no value.
-/

namespace DocFilter

open Query

namespace Token

/-- The text between two one-byte ends. -/
def between? : List Char → Option (List Char)
  | first :: rest =>
    match rest.getLast? with
    | some last => if first.utf8Size = 1 ∧ last.utf8Size = 1 then some rest.dropLast else none
    | none => none
  | [] => none

/-- The value of a literal token. -/
def literal? (t : Token) : Option (Except Failure Literal) :=
  let invalid (reason : Reason) : Failure := .query (.invalidLiteral t.text reason t.offset)
  match t.kind with
  | .number =>
    let n := Text.decimalValue t.text.toList
    some (if n ≤ Literal.maxNumber then .ok (.number n) else .error (invalid .tooLarge))
  | .string =>
    some <| match between? t.text.toList with
    | some inner => .ok (.string (String.ofList inner))
    | none => .error (.defect (.quotes t.text))
  | .boolean =>
    some <|
      if t.text = "true" then .ok (.boolean true)
      else if t.text = "false" then .ok (.boolean false)
      else .error (.defect (.boolean t.text))
  | .date =>
    some <| match Timestamp.ofText t.text with
    | .ok value => .ok (.date value)
    | .error e => .error (invalid (.date e))
  | _ => none

end Token

namespace Query.Parser

/-- What has been read of the innermost function that is not complete. -/
inductive Mode
  | expression
  | openRelational (op : RelOp)
  | openLogical (op : LogOp)
  | field (op : RelOp)
  | comma (op : RelOp) (field : String)
  | value (op : RelOp) (field : String)
  | close (op : RelOp) (field : String) (value : Literal)
  /-- After an argument of a logical function; the last argument comes first. -/
  | argument (op : LogOp) (arguments : List Node)

/-- A logical function of which an argument is being read: the arguments before it, the last one
first. -/
structure Frame where
  operator : LogOp
  arguments : List Node

inductive State
  | reading (mode : Mode) (outer : List Frame)
  | complete (query : Node)

def Mode.expected : Mode → Expected
  | expression => .literal
  | openRelational _ => .kind .openParen
  | openLogical _ => .kind .openParen
  | field _ => .kind .identifier
  | comma _ _ => .kind .comma
  | value _ _ => .literal
  | close _ _ _ => .kind .closeParen
  | argument _ arguments => .kind (if arguments.length < 2 then .comma else .closeParen)

/-- What is announced once the token after an operator has been scanned. -/
def State.announced : State → List Event
  | reading (.openRelational op) _ => [.enteringRelational op]
  | reading (.openLogical op) _ => [.enteringLogical op]
  | _ => []

/-- After a whole expression. -/
def attach (n : Node) : List Frame → State
  | [] => .complete n
  | ⟨op, arguments⟩ :: outer => .reading (.argument op (n :: arguments)) outer

/-- Takes a token, if it is one that can come next. -/
def accept? (mode : Mode) (outer : List Frame) (t : Token) : Option (Except Failure State) :=
  match mode, t.kind with
  | .expression, .relationalOperator =>
    some <| match RelOp.ofKeyword? t.text with
    | some op => .ok (.reading (.openRelational op) outer)
    | none => .error (.defect (.operator t.text))
  | .expression, .logicalOperator =>
    some <| match LogOp.ofKeyword? t.text with
    | some op => .ok (.reading (.openLogical op) outer)
    | none => .error (.defect (.operator t.text))
  | .expression, _ => t.literal?.map (·.map fun v => attach (.literal v) outer)
  | .openRelational op, .openParen => some (.ok (.reading (.field op) outer))
  | .openLogical op, .openParen => some (.ok (.reading .expression (⟨op, []⟩ :: outer)))
  | .field op, .identifier => some (.ok (.reading (.comma op t.text) outer))
  | .comma op f, .comma => some (.ok (.reading (.value op f) outer))
  | .value op f, _ => t.literal?.map (·.map fun v => .reading (.close op f v) outer)
  | .close op f v, .closeParen => some (.ok (attach (.relational op f v) outer))
  | .argument op arguments, .comma =>
    some (.ok (.reading .expression (⟨op, arguments⟩ :: outer)))
  | .argument op arguments, .closeParen =>
    if arguments.length < 2 then none
    else some (.ok (attach (.logical op arguments.reverse) outer))
  | _, _ => none

/-- The failure of a token is reported once the next one has been scanned. -/
def failBefore (e : Failure) : Token.Stream → Traced Node
  | .stray s => ⟨[], .error (.query (.unexpectedCharacter s))⟩
  | .finished _ => ⟨[], .error e⟩
  | .token t _ => ⟨[.scanned t], .error e⟩

def run (strict : Bool) : State → Token.Stream → Traced Node
  | _, .stray s => ⟨[], .error (.query (.unexpectedCharacter s))⟩
  | state, .finished position =>
    ⟨state.announced, match state with
      | .complete n => .ok n
      | .reading mode _ => .error (.query (.unexpectedEnd mode.expected position))⟩
  | state, .token t rest =>
    let after : Traced Node := match state with
      | .complete n => ⟨[], if strict then .error (.query (.trailingInput t)) else .ok n⟩
      | .reading mode outer =>
        match accept? mode outer t with
        | none => ⟨[], .error (.query (.unexpectedToken t mode.expected))⟩
        | some (.error e) => failBefore e rest
        | some (.ok next) => run strict next rest
    ⟨.scanned t :: state.announced ++ after.events, after.result⟩

def start : State := .reading .expression []

/-- Reads a query from its tokens. -/
def ofStream (strict : Bool) : Token.Stream → Traced Node
  | .finished _ => ⟨[], .error (.query .noTokens)⟩
  | stream => run strict start stream

end Query.Parser

namespace Query

/-- Reads a query, with the events on the way. In strict mode no token may be left over. -/
def parseTraced (strict : Bool) (text : String) : Traced Node :=
  let read := Parser.ofStream strict (.ofText text)
  match read.result with
  | .ok n => ⟨read.events ++ [.parsed text], .ok n⟩
  | .error e => ⟨read.events, .error e⟩

def parse (strict : Bool) (text : String) : Except Failure Node := (parseTraced strict text).result

end Query

end DocFilter
