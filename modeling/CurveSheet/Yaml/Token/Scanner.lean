/-
# Cutting a text into tokens

The scanner goes through a text once and keeps three things in mind beside its
place.

* The *indentation* of the blocks around it.  A line further to the left ends
  blocks; a key or an entry further to the right starts one.
* Whether a *simple key* may start here: a key without `?`, which only the colon
  behind it shows to be one.  The key has to lie on one line and within 1024
  bytes.  When the colon comes, the token for the key goes before those that were
  read since.
* The *brackets* around it.  Inside brackets indentation does not count.

Where a line of a block starts with something that must be a simple key, the colon
is required.

Tokens become *settled* in steps: after each one that is read, and only if no
required colon is overdue by then, those before every key that is still open.  A
text that cannot be read or cut into tokens to its end still has those that were
settled before.
-/

import CurveSheet.Yaml.Pieces
import CurveSheet.Yaml.Scalar.Block
import CurveSheet.Yaml.Scalar.Plain
import CurveSheet.Yaml.Scalar.Quoted
import CurveSheet.Yaml.Token.Property

namespace CurveSheet
namespace Yaml

/-- What may turn out to be a key: the number of tokens before it, its place, and whether
the colon is required. -/
structure SimpleKey where
  before : Nat
  mark : Mark
  required : Bool

/-- A simple key ends at most this many bytes behind its start. -/
def simpleKeyLimit : Nat := 1024

/-- The scanner at a place of a text. -/
structure Scanner where
  cursor : Cursor
  /-- The tokens so far, the latest first. -/
  tokens : List Token
  /-- The indentation of the innermost block, -1 outside of blocks. -/
  indent : Int
  /-- The indentations of the blocks around it. -/
  outerIndents : List Int
  keyAllowed : Bool
  /-- The open key inside the innermost brackets. -/
  key : Option SimpleKey
  /-- The open keys outside of the innermost brackets. -/
  outerKeys : List (Option SimpleKey)

namespace Scanner

/-- The scanner at the start of a text. -/
def start (text : List Char) : Scanner := ⟨⟨text, .start⟩, [], -1, [], true, none, []⟩

/-- There are brackets around the place. -/
def inFlow (s : Scanner) : Bool := !s.outerKeys.isEmpty

/-- One more token. -/
def emit (s : Scanner) (kind : TokenKind) (start stop : Mark) : Scanner :=
  { s with tokens := ⟨kind, start, stop⟩ :: s.tokens }

/-- One more token behind the first `before` ones, without extent. -/
def emitAt (s : Scanner) (before : Nat) (kind : TokenKind) (mark : Mark) : Scanner :=
  let later := s.tokens.length - before
  { s with tokens := s.tokens.take later ++ ⟨kind, mark, mark⟩ :: s.tokens.drop later }

/-- Moves over what stands between tokens: separators, comments and a mark of byte order at
the start of a line.  Where a simple key may start, a tab does not separate. -/
def gapFrom (inFlow keyAllowed inComment : Bool) (mark : Mark) : List Char → Bool × Cursor
  | '\r' :: '\n' :: rest => gapFrom inFlow (keyAllowed || !inFlow) false (mark.down 2) rest
  | c :: rest =>
    if isBreak c then gapFrom inFlow (keyAllowed || !inFlow) false (mark.down c.utf8Size) rest
    else if inComment then gapFrom inFlow keyAllowed true (mark.past c) rest
    else if c = '#' then gapFrom inFlow keyAllowed true (mark.past c) rest
    else if c = ' ' ∨ (c = '\t' ∧ (inFlow || !keyAllowed) = true) ∨
        (c = '\ufeff' ∧ mark.column = 0) then
      gapFrom inFlow keyAllowed false (mark.past c) rest
    else (keyAllowed, ⟨c :: rest, mark⟩)
  | [] => (keyAllowed, ⟨[], mark⟩)

/-- Moves to the next token. -/
def skipGap (s : Scanner) : Scanner :=
  let (keyAllowed, cursor) := gapFrom s.inFlow s.keyAllowed false s.cursor.mark s.cursor.rest
  { s with cursor, keyAllowed }

/-- The key can still be followed by its colon at a place. -/
def isFresh (mark : Mark) (key : SimpleKey) : Bool :=
  key.mark.line == mark.line && mark.offset ≤ key.mark.offset + simpleKeyLimit

/-- Gives up a key whose colon has not come in time; fails if it was required. -/
def expire (mark : Mark) : Option SimpleKey → Option (Option SimpleKey)
  | none => some none
  | some key =>
    if isFresh mark key then some (some key)
    else if key.required then none
    else some none

/-- Gives up all keys whose colons have not come in time. -/
def expireKeys (s : Scanner) : Option Scanner :=
  match expire s.cursor.mark s.key, s.outerKeys.mapM (expire s.cursor.mark) with
  | some key, some outerKeys => some { s with key, outerKeys }
  | _, _ => none

/-- Gives up the open key; fails if its colon was required. -/
def dropKey (s : Scanner) : Option Scanner :=
  if s.key.any (·.required) then none else some { s with key := none }

/-- Takes what starts here as a possible key. -/
def openKey (s : Scanner) : Option Scanner :=
  if s.keyAllowed then
    s.dropKey.map fun t =>
      { t with key := some ⟨t.tokens.length, t.cursor.mark,
          !t.inFlow && t.indent == (t.cursor.column : Int)⟩ }
  else some s

/-- Ends blocks until the indentation is at most `column`. -/
def endBlocks (column : Int) (s : Scanner) : List Int → Scanner
  | [] => s
  | outer :: rest =>
    if column < s.indent then
      endBlocks column { s.emit .blockEnd s.cursor.mark s.cursor.mark with
        indent := outer, outerIndents := rest } rest
    else s

/-- Ends the blocks that lie further to the right, outside of brackets. -/
def unindent (s : Scanner) (column : Int) : Scanner :=
  if s.inFlow then s else endBlocks column s s.outerIndents

/-- Starts a block at a column if that is further to the right, outside of brackets. -/
def startBlock (s : Scanner) (column before : Nat) (kind : TokenKind) (mark : Mark) : Scanner :=
  if s.inFlow then s
  else if s.indent < column then
    { s.emitAt before kind mark with indent := column, outerIndents := s.indent :: s.outerIndents }
  else s

/-- Moves over `n` characters and emits the token they are. -/
def take (s : Scanner) (n : Nat) (kind : TokenKind) : Scanner :=
  let behind := s.cursor.skip n
  { s.emit kind s.cursor.mark behind.mark with cursor := behind }

/-- Emits a token that was read up to a cursor. -/
def takeTo (s : Scanner) (kind : TokenKind) (behind : Cursor) : Scanner :=
  { s.emit kind s.cursor.mark behind.mark with cursor := behind }

/-- The end of the text, as if on a line of its own. -/
def fetchEnd (s : Scanner) : Option Scanner :=
  let mark := s.cursor.mark
  let mark := if mark.column = 0 then mark else mark.down 0
  let ended : Scanner := { s with cursor := { s.cursor with mark } }
  (ended.unindent (-1)).dropKey.map fun t =>
    { t.emit .streamEnd mark mark with keyAllowed := false }

/-- A directive. -/
def fetchDirective (s : Scanner) : Option Scanner :=
  match (s.unindent (-1)).dropKey with
  | none => none
  | some t => t.cursor.directive.map fun (kind, behind) =>
      { t.takeTo kind behind with keyAllowed := false }

/-- A marker of a document's start or end. -/
def fetchMarker (s : Scanner) (kind : TokenKind) : Option Scanner :=
  (s.unindent (-1)).dropKey.map fun t => { t.take 3 kind with keyAllowed := false }

/-- An opening bracket. -/
def fetchOpen (s : Scanner) (kind : TokenKind) : Option Scanner :=
  s.openKey.map fun t =>
    { t.take 1 kind with key := none, outerKeys := t.key :: t.outerKeys, keyAllowed := true }

/-- A closing bracket. -/
def fetchClose (s : Scanner) (kind : TokenKind) : Option Scanner :=
  s.dropKey.map fun t =>
    match t.outerKeys with
    | [] => { t.take 1 kind with keyAllowed := false }
    | key :: rest => { t.take 1 kind with key, outerKeys := rest, keyAllowed := false }

/-- A comma inside brackets. -/
def fetchComma (s : Scanner) : Option Scanner :=
  s.dropKey.map fun t => { t.take 1 .flowEntry with keyAllowed := true }

/-- Starts a block for a token that is no simple key; fails where none may start. -/
def startBlockHere (s : Scanner) (kind : TokenKind) : Option Scanner :=
  if s.inFlow then some s
  else if s.keyAllowed then
    some (s.startBlock s.cursor.column s.tokens.length kind s.cursor.mark)
  else none

/-- The dash of an entry. -/
def fetchDash (s : Scanner) : Option Scanner :=
  ((s.startBlockHere .blockSequenceStart).bind dropKey).map fun t =>
    { t.take 1 .blockEntry with keyAllowed := true }

/-- The question mark of a key. -/
def fetchQuestion (s : Scanner) : Option Scanner :=
  ((s.startBlockHere .blockMappingStart).bind dropKey).map fun t =>
    { t.take 1 .key with keyAllowed := !t.inFlow }

/-- The colon of a value. -/
def fetchColon (s : Scanner) : Option Scanner :=
  match s.key with
  | some key =>
    let keyed := (s.emitAt key.before .key key.mark).startBlock key.mark.column key.before
      .blockMappingStart key.mark
    some { keyed.take 1 .value with key := none, keyAllowed := false }
  | none =>
    (s.startBlockHere .blockMappingStart).map fun t =>
      { t.take 1 .value with keyAllowed := !t.inFlow }

/-- An anchor or alias. -/
def fetchName (s : Scanner) (kind : List Char → TokenKind) : Option Scanner :=
  match s.openKey with
  | none => none
  | some t => t.cursor.name.map fun (name, behind) =>
      { t.takeTo (kind name) behind with keyAllowed := false }

/-- A tag. -/
def fetchTag (s : Scanner) : Option Scanner :=
  match s.openKey with
  | none => none
  | some t => (t.cursor.tag t.inFlow).map fun (kind, behind) =>
      { t.takeTo kind behind with keyAllowed := false }

/-- A block scalar. -/
def fetchBlock (s : Scanner) (folded : Bool) : Option Scanner :=
  match s.dropKey with
  | none => none
  | some t => (t.cursor.block folded t.indent).map fun (text, behind) =>
      { t.takeTo (.scalar text (if folded then .folded else .literal)) behind with
        keyAllowed := true }

/-- A quoted scalar. -/
def fetchQuoted (s : Scanner) (double : Bool) : Option Scanner :=
  match s.openKey with
  | none => none
  | some t => (t.cursor.quoted double).map fun (text, behind) =>
      { t.takeTo (.scalar text (if double then .doubleQuoted else .singleQuoted)) behind with
        keyAllowed := false }

/-- A plain scalar; if a line has ended behind it, a simple key may follow. -/
def fetchPlain (s : Scanner) : Option Scanner :=
  match s.openKey with
  | none => none
  | some t => (t.cursor.plain t.inFlow (t.indent + 1).toNat).map fun plain =>
      { t.takeTo (.scalar plain.text .plain) plain.cursor with keyAllowed := plain.broken }

/-- A plain scalar may start with `c` before `next`. -/
def startsPlain (inFlow : Bool) (c : Char) (next : Option Char) : Bool :=
  !(isSeparator c || isIndicator c) || (c == '-' && !next.any isGap) ||
    (!inFlow && (c == '?' || c == ':') && !endsWord next)

/-- Reads the token that starts with `c`. -/
def fetch (s : Scanner) (c : Char) : Option Scanner :=
  let next := s.cursor.peekAt 1
  let atSeparator := s.inFlow || endsWord next
  if s.cursor.column = 0 ∧ c = '%' then s.fetchDirective
  else if s.cursor.atMarker '-' then s.fetchMarker .documentStart
  else if s.cursor.atMarker '.' then s.fetchMarker .documentEnd
  else if c = '[' then s.fetchOpen .flowSequenceStart
  else if c = '\x7b' then s.fetchOpen .flowMappingStart
  else if c = ']' then s.fetchClose .flowSequenceEnd
  else if c = '\x7d' then s.fetchClose .flowMappingEnd
  else if c = ',' then s.fetchComma
  else if c = '-' ∧ endsWord next = true then s.fetchDash
  else if c = '?' ∧ atSeparator = true then s.fetchQuestion
  else if c = ':' ∧ atSeparator = true then s.fetchColon
  else if c = '*' then s.fetchName .alias
  else if c = '&' then s.fetchName .anchor
  else if c = '!' then s.fetchTag
  else if c = '|' ∧ s.inFlow = false then s.fetchBlock false
  else if c = '>' ∧ s.inFlow = false then s.fetchBlock true
  else if c = '\'' then s.fetchQuoted false
  else if c = '"' then s.fetchQuoted true
  else if startsPlain s.inFlow c next then s.fetchPlain
  else none

/-- Reads the next token, and the ends of blocks before it. -/
def step (s : Scanner) : Option Scanner :=
  match s.skipGap.expireKeys with
  | none => none
  | some t =>
    let inBlock := t.unindent t.cursor.column
    match inBlock.cursor.rest with
    | [] => inBlock.fetchEnd
    | c :: _ => inBlock.fetch c

/-- The end of the text has been read. -/
def atEnd (s : Scanner) : Bool := s.tokens.head?.any (·.kind == .streamEnd)

/-- The tokens before every open key, the latest first. -/
def settled (s : Scanner) : List Token :=
  let befores := (s.key :: s.outerKeys).filterMap (·.map (·.before))
  s.tokens.drop (s.tokens.length - befores.foldl min s.tokens.length)

/-- The place lies in what can be read of the text. -/
def isWithin (limit : Option Nat) (s : Scanner) : Bool := limit.all (s.cursor.mark.offset < ·)

/-- Reads tokens to the end of the text, or as far as it can be read and cut into tokens.
Every token but the last moves the cursor. -/
def run (limit : Option Nat) : (fuel : Nat) → Scanner → List Token
  | 0, s => s.settled
  | fuel + 1, s =>
    match (s.step.filter (isWithin limit)).bind expireKeys with
    | none => s.settled
    | some t => if t.atEnd then t.tokens else run limit fuel t

end Scanner

/-- The tokens of a text.  If it cannot be cut into tokens to the end, these are the ones that
were settled before the step that fails, and the token for the end is missing. -/
def tokens (text : List Char) : List Token :=
  (Scanner.run (readLimit text) (text.length + 2) (.start text)).reverse

end Yaml
end CurveSheet
