import SchemaCase.Text.Blank
import SchemaCase.Text.Utf8

namespace SchemaCase

/-- What the program does: the bytes it leaves in the file, if it writes any, what it writes to
its error stream, and how it ends. -/
structure FormatterProcess where
  exitCode : Int := 0
  errors : Bytes := []
  output : Option Bytes := none
  deriving DecidableEq, Repr

inductive FormatterError
  | notInstalled (executable : Text)
  | failed (exitCode : Int) (errors : Text)
  /-- The program left bytes that are no text. -/
  | undecodable (error : Utf8.DecodeError)
  deriving DecidableEq, Repr

def FormatterError.message : FormatterError → String
  | notInstalled executable =>
      let executable := String.ofList executable
      s!"'{executable}' is not installed or not in PATH."
  | failed exitCode errors =>
      let errors := String.ofList errors
      s!"prisma format exited with code {exitCode}: {errors}"
  | undecodable error => error.message

namespace FormatterProcess

def defaultExecutable : Text :=
  "prisma".toList

def arguments (file : Text) : List Text :=
  ["format".toList, "--schema".toList, file]

def input (schema : Text) : Bytes :=
  Utf8.encode schema

def format (executable : Text) (process : Option FormatterProcess) (schema : Text) :
    Except FormatterError Text :=
  match process with
  | none => .error (.notInstalled executable)
  | some process =>
      if process.exitCode = 0 then
        match Utf8.decode (process.output.getD (input schema)) with
        | .ok text => .ok (Text.unifyNewlines text)
        | .error error => .error (.undecodable error)
      else .error (.failed process.exitCode (Text.trim (Utf8.decodeLossy process.errors)))

end FormatterProcess

end SchemaCase
