import GoStubs.Template.Token

/-!
# Template sources

A block tag that is alone on its line takes the whole line with it; the last
line of a source needs no newline for that, if nothing follows the tag. What
stands between the start and the end of a block is its body, up to the word
that starts the part for the case that there is nothing to repeat for. Such a
part may be under a command, and then more parts may follow it.
-/

namespace GoStubs.Template

open Text (isSpace)

def Token.isBlock : Token → Bool
  | .open _ | .otherwise _ | .close => true
  | .text _ | .value _ | .raw _ => false

/-- Whether only spaces stand between the last newline and the end of a text, or in all of it. -/
def endsLine (text : Text) : Bool := (Text.dropEndWhile isSpace text).getLast?.all isNewline

/-- Whether only spaces stand in front of the first newline. -/
def startsLine (text : Text) : Bool := (text.dropWhile isSpace).head?.any isNewline

/-- Whether a tag is alone on its line, given the tokens before it, the last one first, and after
it. -/
def isAlone (before after : List Token) : Bool :=
  let opened := match before with
    | [] => true
    | [.text text] => endsLine text
    | .text text :: _ => endsLine text && text.any isNewline
    | _ => false
  let closed := match after with
    | [] => true
    | .text text :: _ => startsLine text
    | _ => false
  opened && closed

/-- A text without the rest of the line that it starts on. -/
def dropLineEnd (text : Text) : Text :=
  match text.dropWhile isSpace with
  | '\r' :: '\n' :: rest => rest
  | '\n' :: rest => rest
  | rest => rest

def dropLineStart (text : Text) : Text := Text.dropEndWhile isSpace text

/-- Removes the lines of lone block tags from the texts next to them. `before` holds the tokens
read so far, the last one first, and `cut` tells that the last one was a lone block tag. -/
def trimLines (before : List Token) (cut : Bool) : List Token → List Token
  | [] => []
  | .text text :: rest =>
    let started := if cut then dropLineEnd text else text
    let ended := match rest with
      | next :: after =>
        if next.isBlock && isAlone (.text text :: before) after then dropLineStart started
        else started
      | [] => started
    .text ended :: trimLines (.text text :: before) false rest
  | token :: rest =>
    token :: trimLines (token :: before) (token.isBlock && isAlone before rest) rest

/-- What parts end with. -/
inductive Ending
  | source
  | otherwise (command : Option Text)
  | close
  deriving DecidableEq, Repr

/-- What a part under a command stands for, given the part after it: `raw` shows it, `log` hides
both, `and` without conditions takes the first, and `or` the second. Other commands are refused,
since they need arguments or do not exist. -/
def commanded (command : Text) (parts otherwise : List Part) : List Part :=
  if command = "raw".toList ∨ command = "and".toList then parts
  else if command = "or".toList then otherwise
  else if command = "log".toList then []
  else [.value .nothing]

mutual

/-- Builds parts from tokens up to the first token that belongs to the block around them, and
gives the tokens after it. -/
def partsWithin : Nat → List Token → Option (List Part × Ending × List Token)
  | 0, _ => none
  | _ + 1, [] => some ([], .source, [])
  | fuel + 1, token :: rest =>
    match token with
    | .close => some ([], .close, rest)
    | .otherwise command => some ([], .otherwise command, rest)
    | .text text => do
      let (parts, after) ← partsWithin fuel rest
      return (.text text :: parts, after)
    | .value reference => do
      let (parts, after) ← partsWithin fuel rest
      return (.value reference :: parts, after)
    | .raw reference => do
      let (parts, after) ← partsWithin fuel rest
      return (.raw reference :: parts, after)
    | .open reference => do
      let (body, ending, rest) ← partsWithin fuel rest
      let (otherwise, rest) ← otherwiseWithin fuel ending rest
      let block := match otherwise with
        | some otherwise => .eachOr reference body otherwise
        | none => .each reference body
      let (parts, after) ← partsWithin fuel rest
      return (block :: parts, after)

/-- Builds the part of a block after its body, if there is one, given what the body ends with.
Nothing but the end of the block may follow a part without a command. -/
def otherwiseWithin : Nat → Ending → List Token → Option (Option (List Part) × List Token)
  | _, .close, rest => some (none, rest)
  | fuel + 1, .otherwise command, rest => do
    let (parts, ending, rest) ← partsWithin fuel rest
    match command with
    | none => if ending = .close then some (some parts, rest) else none
    | some command =>
      let (otherwise, rest) ← otherwiseWithin fuel ending rest
      return (some (commanded command parts (otherwise.getD [])), rest)
  | _, _, _ => none

end

/-- Reads a source; `none` if a tag cannot be read or blocks do not nest. -/
def ofSource? (source : Text) : Option Template := do
  let tokens ← tokens? source
  let (parts, ending, _) ← partsWithin (tokens.length + 1) (trimLines [] false tokens)
  if ending = .source then some parts else none

end GoStubs.Template
