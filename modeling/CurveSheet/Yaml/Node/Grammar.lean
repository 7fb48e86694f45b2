/-
# From tokens to nodes

A document is the directives, a marker `---` (which may be left out if there are no
directives) and a node.  A node has a tag and an anchor in either order, and is

* a scalar, or nothing, which counts as a scalar without characters;
* a block: entries behind dashes, or pairs of a key and a value;
* entries or pairs between brackets, with commas between them.

Entries behind dashes may be the value of a key without lying further to the right
than the key.  Between brackets a single pair may stand for a mapping of its own.

Where tokens break off or stop following the grammar, the tree is cut: what was read
before stays, and every collection that is still open ends with a cut node.
-/

import CurveSheet.Yaml.Node
import CurveSheet.Yaml.Token

namespace CurveSheet
namespace Yaml

/-- The meanings of tag handles. -/
abbrev TagHandles := List (List Char × List Char)

/-- The handles that need no directive. -/
def coreHandles : TagHandles :=
  [(['!'], ['!']), (['!', '!'], "tag:yaml.org,2002:".toList)]

/-- What was read from the start of tokens, and the tokens behind it: none where the tokens
break off or stop following the grammar. -/
structure Read (α : Type) where
  value : α
  rest : Option (List Token)

/-- Nothing can be read. -/
def Read.cut {α : Type} : Read (Node α) := ⟨.cut, none⟩

/-- A node followed by other nodes; if nothing can be read behind it, the others are cut. -/
def Read.items {α : Type} (first : Read (Node α))
    (others : List Token → Read (List (Node α))) : Read (List (Node α)) :=
  match first.rest with
  | none => ⟨[first.value, .cut], none⟩
  | some tokens =>
    let read := others tokens
    ⟨first.value :: read.value, read.rest⟩

/-- A key followed by its value; if nothing can be read behind the key, the value is cut. -/
def Read.pair {α : Type} (key : Read (Node α)) (value : List Token → Read (Node α)) :
    Read (Node α × Node α) :=
  match key.rest with
  | none => ⟨(key.value, .cut), none⟩
  | some tokens =>
    let read := value tokens
    ⟨(key.value, read.value), read.rest⟩

/-- A pair followed by other pairs; if nothing can be read behind it, the others are cut. -/
def Read.entries {α : Type} (first : Read (Node α × Node α))
    (others : List Token → Read (List (Node α × Node α))) : Read (List (Node α × Node α)) :=
  match first.rest with
  | none => ⟨[first.value, (.cut, .cut)], none⟩
  | some tokens =>
    let read := others tokens
    ⟨first.value :: read.value, read.rest⟩

/-- A node made of what was read. -/
def Read.map {α β : Type} (f : α → β) (read : Read α) : Read β := ⟨f read.value, read.rest⟩

/-- The anchor and the tag of a node. -/
structure Properties where
  anchor : Option (List Char)
  tag : Option (List Char × List Char)

/-- Reads an anchor and a tag in either order, each at most once. -/
def properties : List Token → Properties × List Token
  | ⟨.anchor name, _, _⟩ :: ⟨.tag handle suffix, _, _⟩ :: rest =>
    (⟨some name, some (handle, suffix)⟩, rest)
  | ⟨.tag handle suffix, _, _⟩ :: ⟨.anchor name, _, _⟩ :: rest =>
    (⟨some name, some (handle, suffix)⟩, rest)
  | ⟨.anchor name, _, _⟩ :: rest => (⟨some name, none⟩, rest)
  | ⟨.tag handle suffix, _, _⟩ :: rest => (⟨none, some (handle, suffix)⟩, rest)
  | rest => (⟨none, none⟩, rest)

/-- The tag that a handle and a suffix make; fails if the handle has no meaning. -/
def resolveTag (handles : TagHandles) :
    Option (List Char × List Char) → Option (Option (List Char))
  | none => some none
  | some (handle, suffix) =>
    if handle.isEmpty then some (some suffix)
    else (handles.lookup handle).map fun start => some (start ++ suffix)

/-- The tokens start with one of some kinds. -/
def startsWith (kinds : List TokenKind) : List Token → Bool
  | token :: _ => kinds.contains token.kind
  | [] => false

/-- The place of the next token. -/
def nextMark : List Token → Mark
  | token :: _ => token.start
  | [] => .start

/-- A node of which only the properties are written. -/
def emptyNode (mark : Mark) (props : Properties) (tag : Option (List Char)) (rest : List Token) :
    Read (Node (List Char)) :=
  if props.anchor.isSome || props.tag.isSome then
    ⟨.scalar mark props.anchor ⟨[], .plain, tag⟩, some rest⟩
  else .cut

/-- Reads a node that may be left out before tokens of some kinds. -/
def nodeUnless (ends : List TokenKind) (void : List Token → Mark)
    (node : List Token → Read (Node (List Char))) (tokens : List Token) : Read (Node (List Char)) :=
  if tokens.isEmpty then .cut
  else if startsWith ends tokens then ⟨.void (void tokens), some tokens⟩
  else node tokens

/-- Moves over the comma before an entry that is not the first. -/
def afterComma (isFirst : Bool) (tokens : List Token) : Option (List Token) :=
  if isFirst then some tokens
  else match tokens with
    | ⟨.flowEntry, _, _⟩ :: rest => some rest
    | _ => none

/-- Reads the value of a pair between brackets, if there is one. -/
def flowValue (node : List Token → Read (Node (List Char))) (closing : TokenKind) :
    List Token → Read (Node (List Char))
  | [] => .cut
  | ⟨.value, _, _⟩ :: rest => nodeUnless [.flowEntry, closing] nextMark node rest
  | tokens => ⟨.void (nextMark tokens), some tokens⟩

/-- The end of a pair that is an entry by itself shows only in the token behind it. -/
def Read.singlePair (mark : Mark) (pair : Read (Node (List Char) × Node (List Char))) :
    Read (Node (List Char)) :=
  match pair.rest with
  | none => ⟨.mapping mark none none [pair.value, (.cut, .cut)], none⟩
  | some [] => ⟨.mapping mark none none [pair.value, (.cut, .cut)], none⟩
  | some rest => ⟨.mapping mark none none [pair.value], some rest⟩

mutual

/-- Reads a node; `block` allows blocks, `indentless` entries that are no block. -/
def node (handles : TagHandles) : (fuel : Nat) → (block indentless : Bool) → List Token →
    Read (Node (List Char))
  | 0, _, _, _ => .cut
  | _ + 1, _, _, ⟨.alias name, start, _⟩ :: rest => ⟨.alias start name, some rest⟩
  | fuel + 1, block, indentless, tokens =>
    let (props, rest) := properties tokens
    let mark := nextMark tokens
    match resolveTag handles props.tag with
    | none => .cut
    | some tag =>
      match rest with
      | [] => .cut
      | ⟨.blockEntry, _, _⟩ :: _ =>
        if indentless then
          (dashEntries handles fuel false rest).map (.sequence mark props.anchor tag)
        else emptyNode mark props tag rest
      | ⟨.scalar text style, _, _⟩ :: behind =>
        ⟨.scalar mark props.anchor ⟨text, style, tag⟩, some behind⟩
      | ⟨.flowSequenceStart, _, _⟩ :: inside =>
        (flowItems handles fuel true inside).map (.sequence mark props.anchor tag)
      | ⟨.flowMappingStart, _, _⟩ :: inside =>
        (flowPairs handles fuel true inside).map (.mapping mark props.anchor tag)
      | ⟨.blockSequenceStart, _, _⟩ :: inside =>
        if block then (dashEntries handles fuel true inside).map (.sequence mark props.anchor tag)
        else emptyNode mark props tag rest
      | ⟨.blockMappingStart, _, _⟩ :: inside =>
        if block then (blockPairs handles fuel inside).map (.mapping mark props.anchor tag)
        else emptyNode mark props tag rest
      | _ => emptyNode mark props tag rest

/-- Reads entries behind dashes.  A block of them ends with a token of its own, other entries
end where no dash follows. -/
def dashEntries (handles : TagHandles) : (fuel : Nat) → (isBlock : Bool) → List Token →
    Read (List (Node (List Char)))
  | fuel + 1, isBlock, ⟨.blockEntry, _, stop⟩ :: rest =>
    let ends : List TokenKind :=
      if isBlock then [.blockEntry, .blockEnd] else [.blockEntry, .key, .value, .blockEnd]
    let item := nodeUnless ends (fun _ => stop) (node handles fuel true false) rest
    item.items (dashEntries handles fuel isBlock)
  | _ + 1, true, ⟨.blockEnd, _, _⟩ :: rest => ⟨[], some rest⟩
  | _ + 1, false, token :: rest => ⟨[], some (token :: rest)⟩
  | _, _, _ => ⟨[.cut], none⟩

/-- Reads the pairs of a block. -/
def blockPairs (handles : TagHandles) : (fuel : Nat) → List Token →
    Read (List (Node (List Char) × Node (List Char)))
  | fuel + 1, ⟨.key, _, stop⟩ :: rest =>
    let ends : List TokenKind := [.key, .value, .blockEnd]
    let key := nodeUnless ends (fun _ => stop) (node handles fuel true true) rest
    let pair := key.pair fun tokens =>
      match tokens with
      | [] => .cut
      | ⟨.value, _, stop⟩ :: ahead =>
        nodeUnless ends (fun _ => stop) (node handles fuel true true) ahead
      | _ => ⟨.void (nextMark tokens), some tokens⟩
    pair.entries (blockPairs handles fuel)
  | _ + 1, ⟨.blockEnd, _, _⟩ :: rest => ⟨[], some rest⟩
  | _, _ => ⟨[(.cut, .cut)], none⟩

/-- Reads entries between brackets up to the closing one, with a comma before each but the
first. -/
def flowItems (handles : TagHandles) : (fuel : Nat) → (isFirst : Bool) → List Token →
    Read (List (Node (List Char)))
  | 0, _, _ => ⟨[.cut], none⟩
  | _ + 1, _, ⟨.flowSequenceEnd, _, _⟩ :: rest => ⟨[], some rest⟩
  | fuel + 1, isFirst, tokens =>
    match afterComma isFirst tokens with
    | none => ⟨[.cut], none⟩
    | some (⟨.flowSequenceEnd, _, _⟩ :: rest) => ⟨[], some rest⟩
    | some (⟨.key, start, _⟩ :: rest) =>
      let key : Read (Node (List Char)) := match rest with
        | [] => .cut
        | token :: behind =>
          if startsWith [.value, .flowEntry, .flowSequenceEnd] rest then
            ⟨.void token.stop, some behind⟩
          else node handles fuel false false rest
      let pair := key.pair (flowValue (node handles fuel false false) .flowSequenceEnd)
      (pair.singlePair start).items (flowItems handles fuel false)
    | some tokens =>
      (node handles fuel false false tokens).items (flowItems handles fuel false)

/-- Reads pairs between brackets up to the closing one, with a comma before each but the
first.  An entry that is no pair is a key without value. -/
def flowPairs (handles : TagHandles) : (fuel : Nat) → (isFirst : Bool) → List Token →
    Read (List (Node (List Char) × Node (List Char)))
  | 0, _, _ => ⟨[(.cut, .cut)], none⟩
  | _ + 1, _, ⟨.flowMappingEnd, _, _⟩ :: rest => ⟨[], some rest⟩
  | fuel + 1, isFirst, tokens =>
    match afterComma isFirst tokens with
    | none => ⟨[(.cut, .cut)], none⟩
    | some (⟨.flowMappingEnd, _, _⟩ :: rest) => ⟨[], some rest⟩
    | some (⟨.key, _, _⟩ :: rest) =>
      let key := nodeUnless [.value, .flowEntry, .flowMappingEnd] nextMark
        (node handles fuel false false) rest
      (key.pair (flowValue (node handles fuel false false) .flowMappingEnd)).entries
        (flowPairs handles fuel false)
    | some tokens =>
      let pair := (node handles fuel false false tokens).pair fun behind =>
        if behind.isEmpty then .cut else ⟨.void (nextMark behind), some behind⟩
      pair.entries (flowPairs handles fuel false)

end

/-- Reads directives: at most one version, which must be 1.1 or 1.2, and at most one meaning
for each tag handle. -/
def directives (version : Bool) (handles : TagHandles) : List Token →
    Option (Bool × TagHandles × List Token)
  | ⟨.versionDirective major minor, _, _⟩ :: rest =>
    if version || major != 1 || !(minor == 1 || minor == 2) then none
    else directives true handles rest
  | ⟨.tagDirective handle start, _, _⟩ :: rest =>
    if (handles.lookup handle).isSome then none
    else directives version (handles ++ [(handle, start)]) rest
  | rest => some (version, handles, rest)

/-- Moves over markers of a document's end. -/
def skipDocumentEnds : List Token → List Token
  | ⟨.documentEnd, _, _⟩ :: rest => skipDocumentEnds rest
  | rest => rest

/-- The node of a document behind its marker. -/
def documentNode (handles : TagHandles) (tokens : List Token) : Read (Node (List Char)) :=
  match tokens with
  | ⟨.versionDirective _ _, start, _⟩ :: _ => ⟨.void start, some tokens⟩
  | ⟨.tagDirective _ _, start, _⟩ :: _ => ⟨.void start, some tokens⟩
  | _ =>
    nodeUnless [.documentStart, .documentEnd, .streamEnd] nextMark
      (node handles (2 * tokens.length + 4) true false) tokens

/-- The first document in some tokens. -/
def firstDocument (tokens : List Token) : Read (Node (List Char)) :=
  match directives false [] tokens with
  | none => .cut
  | some (version, given, rest) =>
    let handles := given ++ coreHandles
    match rest with
    | ⟨.documentStart, _, _⟩ :: behind => documentNode handles behind
    | _ =>
      if version || !given.isEmpty then .cut
      else node handles (2 * rest.length + 4) true false rest

/-- Nothing but markers of a document's end stands before the end. -/
def isDone (rest : Option (List Token)) : Bool :=
  rest.any fun tokens => startsWith [.streamEnd] (skipDocumentEnds tokens)

end Yaml
end CurveSheet
