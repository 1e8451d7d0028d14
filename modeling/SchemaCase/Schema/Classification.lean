import SchemaCase.Event
import SchemaCase.Schema.Document
import SchemaCase.Schema.MapCall

namespace SchemaCase

open Source

/-- A field line: an indentation, the name of the field, a gap, and its type with all that
follows. -/
structure FieldParts where
  indent : Text
  name : Text
  gap : Text
  rest : Text
  deriving DecidableEq, Repr

/-- Takes a line apart. Behind the name there has to be some code, not only a comment; a line feed
may stand at the very end. -/
def FieldParts.read? (text : Text) : Option FieldParts := do
  let (name, afterName) ← Text.readName? (Text.trimStart text)
  let gap := Text.leadingBlanks afterName
  let behind := Text.trimStart afterName
  let rest := behind.takeWhile (· != '\n')
  let remainder := behind.dropWhile (· != '\n')
  if !gap.isEmpty && !rest.isEmpty && (remainder = [] || remainder = ['\n']) &&
      !(Text.trim (codeAndComment rest).1).isEmpty then
    some { indent := Text.leadingBlanks text, name, gap, rest }
  else none

def blockAttributeName? : Text → Option Text
  | [] => none
  | c :: rest =>
      if Text.isNameStart c then
        some (c :: rest.takeWhile fun c => Text.isWordChar c || c == '.')
      else none

namespace Line

def classify (line : Line) : Line :=
  let stripped := Text.trim line.text
  if stripped.isEmpty then { line with kind := .blank }
  else if "//".toList.isPrefixOf stripped then { line with kind := .comment }
  else if "@@".toList.isPrefixOf stripped then
    let name := blockAttributeName? (stripped.drop 2)
    { line with
      kind := .blockAttribute
      attributeName := name
      mapLiteral :=
        if name = some "map".toList then MapCall.ofBlock? line.text else line.mapLiteral }
  else
    match FieldParts.read? line.text with
    | some parts =>
        { line with
          kind := .field
          indent := parts.indent
          fieldName := some parts.name
          gap := parts.gap
          rest := parts.rest
          mapLiteral := MapCall.inline? parts.rest }
    | none => { line with kind := .other }

end Line

/-- Only the lines of models and enums are told apart. -/
def Block.classify (block : Block) : Block :=
  if block.isDeclaration then { block with lines := block.lines.map Line.classify } else block

def Block.classifiedEvent (block : Block) : Event :=
  .classified block.keyword block.name block.fields.length block.lines.length

namespace Document

def classify (document : Document) : Document :=
  document.mapBlocks Block.classify

def parsedEvent (document : Document) : Event :=
  .parsed document.blocks.length

def classifiedEvents (document : Document) : List Event :=
  document.declarations.map Block.classifiedEvent

def read (text : Text) : Except ParseError Document :=
  (parse text).map classify

def readEvents (document : Document) : List Event :=
  document.parsedEvent :: document.classifiedEvents

end Document

end SchemaCase
