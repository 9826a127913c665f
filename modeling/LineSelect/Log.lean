import LineSelect.Selection
import LineSelect.Substitution

/-!
The log: what is worth noting about a run, as values, and the line for each note.
-/

namespace LineSelect

open LineSelect.Text

/-- How much a note matters; the first matters most. -/
inductive LogLevel where
  | error
  | warn
  | info
  | debug
  | trace
deriving DecidableEq, Repr

namespace LogLevel

/-- The place of a level, from 1 for the level that matters most. -/
def rank : LogLevel → Nat
  | .error => 1
  | .warn => 2
  | .info => 3
  | .debug => 4
  | .trace => 5

def label : LogLevel → String
  | .error => "ERROR"
  | .warn => " WARN"
  | .info => " INFO"
  | .debug => "DEBUG"
  | .trace => "TRACE"

end LogLevel

/-- A note. -/
inductive LogEvent where
  | parsedAddress (expr : String) (address : Address) (rest : String)
  | parsedRange (expr : String) (range : Range)
  | resolvedRange (range : Range) (block : Block)
  | selectedLines (expr : String) (cursor : Int) (block : Block)
  | substituting (pattern template : String) (scope : Scope)
  | loadedDocument (lines : Nat) (ranges : List String)
deriving DecidableEq, Repr

/-- An address by the names of its parts. -/
def Address.details (a : Address) : String :=
  let position := match a.position with
    | .line number => "LineNumber(" ++ number.repr ++ ")"
    | .pattern source => "Pattern(" ++ quoted source ++ ")"
    | .last => "LastLine"
    | .current => "Current"
  "Address \x7b position: " ++ position ++ ", offset: " ++ a.offset.repr ++ " \x7d"

/-- The most replacements on a line, where 0 sets no limit. -/
def Scope.limit : Scope → Nat
  | .first => 1
  | .every => 0

namespace LogEvent

def level : LogEvent → LogLevel
  | .parsedAddress .. | .resolvedRange .. => .trace
  | .parsedRange .. | .selectedLines .. | .substituting .. => .debug
  | .loadedDocument .. => .info

/-- The part of the program that a note is about, as filters name it. -/
def target : LogEvent → String
  | .parsedAddress .. => "edtext::address"
  | .parsedRange .. => "edtext::range"
  | .resolvedRange .. | .selectedLines .. => "edtext::resolver"
  | .substituting .. => "edtext::document"
  | .loadedDocument .. => "edtext"

def message : LogEvent → String
  | .parsedAddress .. => "parsed address"
  | .parsedRange .. => "parsed range"
  | .resolvedRange .. => "resolved range"
  | .selectedLines .. => "selected lines"
  | .substituting .. => "substituting"
  | .loadedDocument .. => "loaded document"

def facts : LogEvent → List (String × String)
  | .parsedAddress expr address rest =>
    [("expr", quoted expr), ("address", address.details), ("rest", quoted rest)]
  | .parsedRange expr range => [("expr", quoted expr), ("range", range.text)]
  | .resolvedRange range block =>
    [("range", range.text), ("start", block.first.repr), ("end", block.last.repr)]
  | .selectedLines expr cursor block =>
    [("expr", quoted expr), ("cursor", cursor.repr), ("next", block.last.repr),
      ("count", block.size.repr)]
  | .substituting pattern template scope =>
    [("pattern", quoted pattern), ("replacement", template), ("limit", scope.limit.repr)]
  | .loadedDocument lines ranges => [("lines", lines.repr), ("ranges", quotedList ranges)]

def text (event : LogEvent) : String :=
  event.message ++ String.join (event.facts.map fun (name, value) => " " ++ name ++ "=" ++ value)

/-- Whether a note has a part of a given name; the message is one. -/
def hasPart (event : LogEvent) (name : String) : Bool :=
  name = "message" || event.facts.any fun fact => fact.1 == name

def line (event : LogEvent) (time : String) : String :=
  time ++ " " ++ event.level.label ++ " " ++ event.text ++ "\n"

end LogEvent

namespace Address

/-- The notes on reading an address at the front of an expression. -/
def readEvents (expr : String) : List LogEvent :=
  match parse expr with
  | .ok (address, rest) => [.parsedAddress expr address rest]
  | .error _ => []

end Address

namespace Range

/-- The notes on reading an expression: its addresses, and the range if it has two. -/
def readEvents (expr : String) : List LogEvent :=
  match Address.parse expr with
  | .error _ => []
  | .ok (start, rest) =>
    .parsedAddress expr start rest ::
      match rest.toList with
      | [] => []
      | c :: stop =>
        if (Separator.ofChar? c).isNone then []
        else
          let stopEvents := Address.readEvents (String.ofList stop)
          match parse expr with
          | .ok range => stopEvents ++ [.parsedRange expr range]
          | .error _ => stopEvents

end Range

/-- The notes on resolving one expression. -/
def expressionEvents (lines : List String) (cursor : Int) (expr : String) : List LogEvent :=
  Range.readEvents expr ++
    match Range.parse expr with
    | .error _ => []
    | .ok range =>
      match range.resolve lines cursor with
      | .error _ => []
      | .ok block => [.resolvedRange range block, .selectedLines expr cursor block]

/-- The notes on resolving expressions from left to right, up to the first that fails. -/
def selectionEvents (lines : List String) (cursor : Int) : List String → List LogEvent
  | [] => []
  | expr :: rest =>
    expressionEvents lines cursor expr ++
      match resolveExpression lines cursor expr with
      | .error _ => []
      | .ok block => selectionEvents lines block.last rest

end LineSelect
