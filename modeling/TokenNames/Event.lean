import TokenNames.TokenType.Text

/-!
# Events

## What the library reports about its work

Reading, writing and splitting report what they did as events.  An event has a level, a
message and named fields, and its constructor says which event it is.  `Logged` pairs a
result with the events of the work behind it, in the order in which they happened.
-/

namespace TokenNames

inductive Level where
  | debug
  | trace
deriving DecidableEq

def Level.text : Level → String
  | .debug => "DEBUG"
  | .trace => "TRACE"

inductive Event where
  | splitTokenNames (count literals symbolics : Nat)
  | tokenAssignment (line : Nat) (token : String) (type : TokenType)
  | parsedTokensFile (literals symbolics : Nat)
  | readingTokensFile (path : String)
  | writingTokensFile (path : String) (bytes : Nat)
  | builtTypeMap (entries : Nat) (maxTokenType : TokenType)
  | loadedVocabulary (path : String) (maxTokenType : TokenType)
deriving DecidableEq

namespace Event

def level : Event → Level
  | .tokenAssignment .. => .trace
  | _ => .debug

def message : Event → String
  | .splitTokenNames .. => "split legacy token names"
  | .tokenAssignment .. => "token assignment"
  | .parsedTokensFile .. => "parsed tokens file"
  | .readingTokensFile .. => "reading tokens file"
  | .writingTokensFile .. => "writing tokens file"
  | .builtTypeMap .. => "built token type map"
  | .loadedVocabulary .. => "loaded vocabulary"

def fields : Event → List (String × String)
  | .splitTokenNames count literals symbolics =>
      [("count", Numeral.write count), ("literals", Numeral.write literals),
        ("symbolics", Numeral.write symbolics)]
  | .tokenAssignment line token type =>
      [("line", Numeral.write line), ("token", token), ("token_type", type.text)]
  | .parsedTokensFile literals symbolics =>
      [("literals", Numeral.write literals), ("symbolics", Numeral.write symbolics)]
  | .readingTokensFile path => [("path", path)]
  | .writingTokensFile path bytes => [("path", path), ("bytes", Numeral.write bytes)]
  | .builtTypeMap entries maxTokenType =>
      [("entries", Numeral.write entries), ("max_token_type", maxTokenType.text)]
  | .loadedVocabulary path maxTokenType =>
      [("path", path), ("max_token_type", maxTokenType.text)]

end Event

/-!
# Logged results

Work that consists of several pieces joins their events in order.
-/

structure Logged (α : Type) where
  value : α
  /-- The events, the earliest first. -/
  events : List Event

namespace Logged

def emit (event : Event) : Logged Unit :=
  { value := (), events := [event] }

instance : Monad Logged where
  pure value := { value, events := [] }
  bind work next :=
    { value := (next work.value).value, events := work.events ++ (next work.value).events }

end Logged

end TokenNames
