import SchemaCase.Schema.Line
import SchemaCase.Text.Alphanumeric
import SchemaCase.Text.Blank

namespace SchemaCase

inductive BlockKind
  | datasource
  | generator
  | model
  | enum
  | other
  deriving DecidableEq, Repr

namespace BlockKind

def ofKeyword (keyword : Text) : BlockKind :=
  if keyword = "datasource".toList then .datasource
  else if keyword = "generator".toList then .generator
  else if keyword = "model".toList then .model
  else if keyword = "enum".toList then .enum
  else .other

/-- Models and enums have names that take part in renaming. -/
def isDeclaration (kind : BlockKind) : Bool :=
  kind == .model || kind == .enum

/-- Datasources and generators hold settings and share no names with declarations. -/
def isSettings (kind : BlockKind) : Bool :=
  kind == .datasource || kind == .generator

end BlockKind

structure Header where
  indent : Text := []
  keyword : Text
  gap : Text := [' ']
  name : Text
  trail : Text := [' ']
  deriving DecidableEq, Repr

def Header.render (header : Header) : Text :=
  header.indent ++ header.keyword ++ header.gap ++ header.name ++ header.trail ++ ['\x7b']

structure Block extends Header where
  kind : BlockKind
  lines : List Line := []
  closing : Text := ['\x7d']
  lineNumber : Nat := 1
  deriving DecidableEq, Repr

namespace Block

def header (block : Block) : Text :=
  block.toHeader.render

def body (block : Block) : Text :=
  block.lines.flatMap Line.render

def render (block : Block) : Text :=
  block.header ++ block.body ++ block.closing

def isDeclaration (block : Block) : Bool :=
  block.kind.isDeclaration

def fields (block : Block) : List Line :=
  block.lines.filter Line.isField

def findAttribute? (block : Block) (name : Text) : Option Line :=
  block.lines.find? fun line => line.kind == .blockAttribute && line.attributeName == some name

end Block

end SchemaCase
